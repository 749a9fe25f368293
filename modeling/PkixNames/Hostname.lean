import PkixNames.Certificate
import PkixNames.IP.IPv6

/-!
# `CheckCertHostname` and `CheckNameConstraints`

The two entry points of `pkixnames.cpp`, both callers of `SearchNames`:

* `checkCertHostname` classifies the hostname (a reference DNS-ID, else an IPv6 address, else an
  IPv4 address) and asks for a match; `checkNameConstraints` runs the name-constraint search on
  every certificate below the one carrying the constraints;
* **`checkCertHostname_eq_ok_iff`**: on a certificate with well-formed names, which hostnames
  it accepts: the commonName is consulted only without a dNSName or iPAddress entry, never for
  IPv6, and only the last one counts;
* **`checkNameConstraints_excluded_directoryName`**: constraints with an excluded directoryName
  base pass no chain;
* **`checkCertHostname_append_dot_253`**: a relative name of 253 bytes is accepted where its
  absolute form is not;
* the no-bypass theorems: a hostname accepted on an end-entity certificate that passed the name
  constraints lies in a permitted subtree (**`checkCertHostname_permitted`**, up to a wildcard
  the certificate presents, aligned with a base's first label; the wildcard loop's slip on a
  base with a leading `.` is left to `presentedDNSIDMatchesReferenceDNSID_wildcard_leading_dot`)
  and in no excluded one (**`checkCertHostname_excluded`**).
-/

namespace PkixNames

/-! ## 1. The callers -/

/-- Modelled from the spec: `EndEntityOrCA`, what a certificate of a chain is checked as. -/
inductive EndEntityOrCA where
  | mustBeEndEntity
  | mustBeCA
  deriving DecidableEq, Repr

/-- Modelled from the spec: `KeyPurposeId`, the extended key usage a chain is built for. -/
inductive KeyPurposeId where
  | anyExtendedKeyUsage
  | idKpServerAuth
  | idKpClientAuth
  | idKpCodeSigning
  | idKpEmailProtection
  | idKpOCSPSigning
  deriving DecidableEq, Repr

/-- Modelled from the spec: what `CheckNameConstraints` reads of a certificate below the one
    with the constraints (a `BackCert`): what it is checked as, its subjectAltName extension
    value if present, and its subject. The chain `child->childCert` is a list. -/
structure BackCert where
  endEntityOrCA : EndEntityOrCA
  subjectAltName : Option Input
  subject : Input
  deriving DecidableEq, Repr

/-- Modelled from the spec: `BackCert::Init`, which parses a certificate and is not among the
    sources, as a parameter: the subjectAltName extension value, if present, and the subject,
    or the error it fails with. -/
abbrev BackCertInit := Input → Except Result (Option Input × Input)

/-- The buffer `uint8_t ipv6[16]` of `CheckCertHostname`, uninitialised in the source; a parse
    that succeeds writes every byte of it. -/
def ipv6Buffer : List UInt8 := List.replicate 16 0

/-- `CheckCertHostname`. The hostname that is none of the three kinds returns
    `ERROR_BAD_CERT_DOMAIN` at once in the source; here it is the search's error, returned as
    such. -/
def checkCertHostname (init : BackCertInit) (endEntityCertDER hostname : Input) :
    Except Result Unit :=
  match init endEntityCertDER with
  | .error e => .error e
  | .ok (subjectAltName, subject) =>
    let rv : Except Result MatchResult :=
      if isValidReferenceDNSID hostname then
        searchNames subjectAltName subject .dNSName hostname .yes
      else
        match parseIPv6Address hostname ipv6Buffer with
        | some ipv6 => searchNames subjectAltName subject .iPAddress ipv6 .no
        | none =>
          match parseIPv4Address hostname with
          | some ipv4 => searchNames subjectAltName subject .iPAddress ipv4 .yes
          | none => .error .errorBadCertDomain
    match rv with
    | .error e => .error e
    | .ok .match => .ok ()
    | .ok _ => .error .errorBadCertDomain

/-- The fallback `CheckNameConstraints` allows a certificate: only an end entity of a chain
    built for TLS server authentication. -/
def fallBackToCommonNameOf (child : BackCert) (requiredEKUIfPresent : KeyPurposeId) :
    FallBackToCommonName :=
  if child.endEntityOrCA = .mustBeEndEntity ∧ requiredEKUIfPresent = .idKpServerAuth then .yes
  else .no

/-- `CheckNameConstraints`: the name-constraint search on each certificate of the chain, a
    mismatch being `ERROR_CERT_NOT_IN_NAME_SPACE`. -/
def checkNameConstraints (encodedNameConstraints : Input) (firstChild : List BackCert)
    (requiredEKUIfPresent : KeyPurposeId) : Except Result Unit :=
  match firstChild with
  | [] => .ok ()
  | child :: children =>
    match searchNames child.subjectAltName child.subject .nameConstraints encodedNameConstraints
        (fallBackToCommonNameOf child requiredEKUIfPresent) with
    | .error e => .error e
    | .ok .mismatch => .error .errorCertNotInNameSpace
    | .ok _ => checkNameConstraints encodedNameConstraints children requiredEKUIfPresent

/-! ## 2. What the callers check -/

/-- **The dispatch of `CheckCertHostname`**: a certificate that parses is accepted exactly when
    the search its hostname's kind selects finds a match. -/
theorem checkCertHostname_eq_ok {init : BackCertInit} {cert hostname : Input}
    {subjectAltName : Option Input} {subject : Input}
    (hinit : init cert = .ok (subjectAltName, subject)) :
    checkCertHostname init cert hostname = .ok () ↔
      (isValidReferenceDNSID hostname = true ∧
          searchNames subjectAltName subject .dNSName hostname .yes = .ok .match) ∨
        (isValidReferenceDNSID hostname = false ∧ ∃ a, parseIPv6Address hostname ipv6Buffer = some a ∧
          searchNames subjectAltName subject .iPAddress a .no = .ok .match) ∨
        (isValidReferenceDNSID hostname = false ∧ parseIPv6Address hostname ipv6Buffer = none ∧
          ∃ a, parseIPv4Address hostname = some a ∧
            searchNames subjectAltName subject .iPAddress a .yes = .ok .match) := by
  simp only [checkCertHostname, hinit]
  cases hv : isValidReferenceDNSID hostname
  · cases h6 : parseIPv6Address hostname ipv6Buffer with
    | some a => simp only [if_false, Bool.false_eq_true]; split <;> simp_all
    | none =>
      cases h4 : parseIPv4Address hostname with
      | some a => simp only [if_false, Bool.false_eq_true]; split <;> simp_all
      | none => simp
  · simp only [if_true]
    split <;> simp_all

/-- **A chain passes the name constraints** exactly when no certificate's search fails or finds
    a mismatch. -/
theorem checkNameConstraints_eq_ok {encodedNameConstraints : Input} {chain : List BackCert}
    {requiredEKUIfPresent : KeyPurposeId} :
    checkNameConstraints encodedNameConstraints chain requiredEKUIfPresent = .ok () ↔
      ∀ child ∈ chain, ∃ r, searchNames child.subjectAltName child.subject .nameConstraints
        encodedNameConstraints (fallBackToCommonNameOf child requiredEKUIfPresent) = .ok r ∧
          r ≠ .mismatch := by
  induction chain with
  | nil => simp [checkNameConstraints]
  | cons child chain ih =>
    simp only [checkNameConstraints, List.mem_cons, forall_eq_or_imp]
    split <;> rename_i h
    · simp [h]
    · simp [h]
    · rw [ih]
      simp only [h, Except.ok.injEq, exists_eq_left', ne_eq]
      simp_all

/-- **An excluded directoryName base refuses every chain**: the search in name-constraint mode
    always checks the subject as a directoryName, and an excluded directoryName base matches
    every name (or refuses it outright), so constraints with one pass no chain that has a
    certificate below them, whatever its names, its kind and the key purpose. -/
theorem checkNameConstraints_excluded_directoryName {nc : NameConstraints} {base : Input}
    (hbase : (.directoryName, base) ∈ nc.excludedSubtrees.getD []) {chain : List BackCert}
    (hchain : chain ≠ []) (requiredEKUIfPresent : KeyPurposeId) :
    checkNameConstraints nc.encode chain requiredEKUIfPresent ≠ .ok () := by
  intro h
  obtain ⟨child, hc⟩ := List.exists_mem_of_ne_nil chain hchain
  obtain ⟨r, hs, -⟩ := checkNameConstraints_eq_ok.mp h child hc
  have hconf := (checkPresentedIDConformsToConstraints_encode (Or.inr (Or.inr rfl)) nc).mp
    (searchNames_nameConstraints_subject hs)
  exact (hconf.2 base (mem_basesOfType.mpr hbase)).2 (.inl rfl)

/-- Name constraints that exclude the empty directoryName. -/
def excludeEmptyDirectoryName : NameConstraints :=
  ⟨none, some [(.directoryName, [0x30, 0x00])], .inr (by simp), by simp,
    by rintro _ ⟨⟩; exact ⟨by simp, by decide, by decide⟩, by decide⟩

theorem checkNameConstraints_excluded_directoryName_empty :
    (GeneralNameType.directoryName, [0x30, 0x00]) ∈
        excludeEmptyDirectoryName.excludedSubtrees.getD [] ∧
      [(⟨.mustBeCA, none, [0x30, 0x00]⟩ : BackCert)] ≠ [] ∧
      checkNameConstraints excludeEmptyDirectoryName.encode [⟨.mustBeCA, none, [0x30, 0x00]⟩]
        .anyExtendedKeyUsage ≠ .ok () :=
  ⟨by decide, by simp,
    @checkNameConstraints_excluded_directoryName excludeEmptyDirectoryName [0x30, 0x00] (by decide)
      _ (by simp) .anyExtendedKeyUsage⟩

/-! ## 3. Which hostnames a certificate is valid for -/

/-- **`CheckCertHostname`, characterised**: on a certificate whose subjectAltName, if present, is
    a well-formed SEQUENCE of GeneralNames and whose subject is a well-formed Name, a hostname is
    accepted exactly when (a) it is a valid reference DNS-ID matched by a dNSName entry, or,
    without dNSName and iPAddress entries, by the last commonName taken as a presented DNS-ID;
    (b) it is not, and is an IPv6 address that an iPAddress entry holds; (c) it is neither, and
    is an IPv4 address that an iPAddress entry holds or, without dNSName and iPAddress entries,
    that the last commonName spells (and the commonName is not a valid presented DNS-ID). -/
theorem checkCertHostname_eq_ok_iff {init : BackCertInit} {cert hostname : Input}
    {san : Option SubjectAltName} {subject : Name}
    (hinit : init cert = .ok (san.map SubjectAltName.encode, subject.encode)) :
    checkCertHostname init cert hostname = .ok () ↔
      (isValidReferenceDNSID hostname = true ∧
        ((∃ P, (.dNSName, P) ∈ SubjectAltName.entriesOf san ∧
            presentedDNSIDMatchesReferenceDNSID P .referenceID hostname = true) ∨
          hasAtLeastOneDNSNameOrIPAddressSAN san = false ∧
            ∃ tag P, subject.lastCommonName = some (tag, P) ∧ IsCommonNameStringTag tag ∧
              isValidPresentedDNSID P = true ∧
              presentedDNSIDMatchesReferenceDNSID P .referenceID hostname = true)) ∨
      (isValidReferenceDNSID hostname = false ∧ ∃ a, parseIPv6Address hostname ipv6Buffer = some a ∧
        (.iPAddress, a) ∈ SubjectAltName.entriesOf san) ∨
      (isValidReferenceDNSID hostname = false ∧ parseIPv6Address hostname ipv6Buffer = none ∧
        ∃ a, parseIPv4Address hostname = some a ∧
          ((.iPAddress, a) ∈ SubjectAltName.entriesOf san ∨
            hasAtLeastOneDNSNameOrIPAddressSAN san = false ∧
              ∃ tag P, subject.lastCommonName = some (tag, P) ∧ IsCommonNameStringTag tag ∧
                isValidPresentedDNSID P = false ∧ parseIPv4Address P = some a)) := by
  rw [checkCertHostname_eq_ok hinit, searchNames_encode_eq_match (Or.inl rfl)]
  simp only [searchNames_encode_eq_match (Or.inr rfl), matchPresentedIDWithReferenceID,
    Except.ok.injEq, decide_eq_true_eq, exists_eq_right, matchCommonNameID_dNSName,
    matchCommonNameID_iPAddress, reduceCtorEq, false_and, and_false, or_false, true_and, and_assoc]

/-- A certificate whose one subjectAltName entry is the dNSName `a`, with an empty subject, is
    valid for `a`. -/
theorem checkCertHostname_eq_ok_iff_dNSName :
    checkCertHostname (fun _ => .ok (some [0x30, 3, 0x82, 1, 97], [0x30, 0])) [] [97] = .ok () := by
  let san : SubjectAltName := ⟨[(.dNSName, [97])], by simp, by simp,
    by simp [Der.Encodable]; decide, by decide⟩
  let subject : Name := ⟨[], by simp, by simp, by simp, by decide⟩
  exact (@checkCertHostname_eq_ok_iff (fun _ => .ok (some [0x30, 3, 0x82, 1, 97], [0x30, 0])) []
    [97] (some san) subject rfl).mpr
    (.inl ⟨by decide, .inl ⟨[97], by simp [san, SubjectAltName.entriesOf], by decide⟩⟩)

/-! ## 4. Absolute and relative hostnames -/

/-- A hostname of none of the three kinds is refused on every certificate that parses. -/
theorem checkCertHostname_of_not_hostname {init : BackCertInit} {cert hostname : Input}
    {subjectAltName : Option Input} {subject : Input}
    (hinit : init cert = .ok (subjectAltName, subject))
    (hv : isValidReferenceDNSID hostname = false)
    (h6 : parseIPv6Address hostname ipv6Buffer = none) (h4 : parseIPv4Address hostname = none) :
    checkCertHostname init cert hostname = .error .errorBadCertDomain := by
  simp [checkCertHostname, hinit, hv, h6, h4]

/-- The absolute form of a relative name of 253 bytes has 254, one more than `IsValidDNSID`
    allows. -/
theorem isValidReferenceDNSID_append_dot_of_length {hostname : Input}
    (hd : hostname.getLast? ≠ some 46) (hlen : hostname.length = 253) :
    isValidReferenceDNSID (hostname ++ [46]) = false := by
  rw [isValidReferenceDNSID_append_dot hd, hlen]
  simp

/-- The relative name `x⋯x.x⋯x.x⋯x.x⋯x` of labels of 63, 63, 63 and 61 bytes: 253 bytes, as
    long as a valid DNS-ID may be. -/
def relativeHostname253 : Input :=
  List.replicate 63 0x78 ++ 46 :: List.replicate 63 0x78 ++ 46 :: List.replicate 63 0x78 ++
    46 :: List.replicate 61 0x78

set_option maxRecDepth 10000 in
/-- **An absolute name one byte too long**: a certificate whose one subjectAltName entry is the
    dNSName `relativeHostname253` is valid for that name, and not for its absolute form, which
    `IsValidDNSID` refuses for its 254 bytes and which is no IP address. -/
theorem checkCertHostname_append_dot_253 :
    relativeHostname253.length = 253 ∧ relativeHostname253.getLast? ≠ some 46 ∧
      isValidReferenceDNSID relativeHostname253 = true ∧
      checkCertHostname (fun _ => .ok (some (Der.tlv Der.sequence
          (Der.encodeAll [(0x82, relativeHostname253)])), [0x30, 0])) [] relativeHostname253 =
        .ok () ∧
      checkCertHostname (fun _ => .ok (some (Der.tlv Der.sequence
          (Der.encodeAll [(0x82, relativeHostname253)])), [0x30, 0])) []
          (relativeHostname253 ++ [46]) = .error .errorBadCertDomain := by
  have hlen : relativeHostname253.length = 253 := rfl
  have hd : relativeHostname253.getLast? ≠ some 46 := by
    rw [show relativeHostname253.getLast? = some 0x78 from rfl]
    decide
  have hv : isValidReferenceDNSID relativeHostname253 = true := by decide
  have h6 : parseIPv6Address (relativeHostname253 ++ [46]) ipv6Buffer = none := by
    have hr : readIPv6Component 0 0 (relativeHostname253 ++ [46]) = .invalid := rfl
    rw [parseIPv6Address, if_neg (by decide), parseIPv6Components, hr]
  have h4 : parseIPv4Address (relativeHostname253 ++ [46]) = none := by decide
  let san : SubjectAltName := ⟨[(.dNSName, relativeHostname253)], by simp, by simp,
    by simp [Der.Encodable, hlen]; decide,
    by simp [Der.Encodable, Der.encodeAll, Der.tlv, hlen]; decide⟩
  let subject : Name := ⟨[], by simp, by simp, by simp, by decide⟩
  refine ⟨hlen, hd, hv, (checkCertHostname_eq_ok (show _ = Except.ok ((some san).map
    SubjectAltName.encode, subject.encode) from rfl)).mpr (.inl ⟨hv, ?_⟩),
    checkCertHostname_of_not_hostname rfl (isValidReferenceDNSID_append_dot_of_length hd hlen)
      h6 h4⟩
  refine (searchNames_encode_eq_match (Or.inl rfl)).mpr (.inl ⟨relativeHostname253, by simp [san,
    SubjectAltName.entriesOf], ?_⟩)
  rw [matchPresentedIDWithReferenceID, show presentedDNSIDMatchesReferenceDNSID
    relativeHostname253 .referenceID relativeHostname253 = true by decide]

/-! ## 5. IP literals are not DNS-IDs -/

section Literals

variable {hostname : Input}

/-- The label loop reads letters, digits, `-` and `.` only: never a `:`. -/
theorem scanDNSIDLabels_colon {matchType : ValidDNSIDMatchType} {s s' : DNSIDScan} {l : Input}
    (h : scanDNSIDLabels matchType s l = some s') : (58 : UInt8) ∉ l := by
  induction l generalizing s with
  | nil => simp
  | cons b l ih =>
    simp only [scanDNSIDLabels] at h
    split at h
    · cases h
    · rename_i s₁ h₁
      refine List.not_mem_cons_of_ne_of_not_mem (fun hb => ?_) (ih h)
      subst hb
      rcases scanDNSIDByte_eq_some h₁ with ⟨hb, -⟩ | ⟨hb, -⟩ | ⟨hb, -⟩ | ⟨hb, -⟩ <;> revert hb <;>
        decide

theorem isValidReferenceDNSID_colon (h : isValidReferenceDNSID hostname = true) :
    (58 : UInt8) ∉ hostname := by
  rcases (isValidDNSID_cases h).2 with ⟨hmt, -⟩ | ⟨s, -, -, hs, -⟩ | ⟨S, s, hmt, -⟩
  · cases hmt
  · exact scanDNSIDLabels_colon hs
  · cases hmt

/-- **An IPv6 address has a `:`**: without one, the first component is the whole input or a
    dotted quad, and one or two components are too few without a contraction. -/
theorem parseIPv6Address_colon {out a : List UInt8} (h : parseIPv6Address hostname out = some a) :
    (58 : UInt8) ∈ hostname := by
  by_contra hc
  have hh : hostname.head? ≠ some 58 := fun hh => hc (List.mem_of_mem_head? hh)
  rw [parseIPv6Address, if_neg hh, parseIPv6Components] at h
  split at h
  · cases h
  · rw [if_neg (by decide)] at h
    split at h
    · cases h
    · simp [finishIPv6Address] at h
  · rename_i v len rest hr
    obtain ⟨g, rfl, -, -, -, -, hrest⟩ := readIPv6Component_eq_group (Nat.zero_le 4) hr
    rcases hrest with rfl | hrest
    · simp [finishIPv6Address] at h
    · exact hc (List.mem_append_right _ (List.mem_of_mem_head? hrest))

theorem decimalNumeral_ne_nil (n : Nat) : decimalNumeral n ≠ [] := by
  rw [decimalNumeral]
  split <;> simp

/-- What `ParseIPv4Address` accepts is digits and dots, and ends in a `.` and a numeral. -/
theorem parseIPv4Address_shape {a : List UInt8} (h : parseIPv4Address hostname = some a) :
    (∀ b ∈ hostname, isDigitByte b = true ∨ b = 46) ∧
      ∃ x d, hostname = x ++ 46 :: d ∧ d ≠ [] ∧ ∀ b ∈ d, isDigitByte b = true := by
  simp only [parseIPv4Address, Option.bind_eq_bind, Option.bind_eq_some, Option.pure_def,
    Option.some.injEq, Prod.exists] at h
  obtain ⟨_, r1, h1, _, r2, h2, _, r3, h3, _, r4, h4, -⟩ := h
  obtain ⟨n1, -, -, rfl, -⟩ := readIPv4AddressComponent_eq_some.mp h1
  obtain ⟨n2, -, -, rfl, -⟩ := readIPv4AddressComponent_eq_some.mp h2
  obtain ⟨n3, -, -, rfl, -⟩ := readIPv4AddressComponent_eq_some.mp h3
  obtain ⟨n4, -, -, rfl, -⟩ := readIPv4AddressComponent_eq_some.mp h4
  have hd : ∀ n, ∀ b ∈ decimalNumeral n, isDigitByte b = true ∨ b = 46 :=
    fun n b hb => .inl (decimalNumeral_digits n b hb)
  simp only [ipv4Terminator, if_true, Bool.false_eq_true, if_false, List.append_nil]
  refine ⟨fun b hb => ?_, decimalNumeral n1 ++ 46 :: (decimalNumeral n2 ++ 46 :: decimalNumeral n3),
    decimalNumeral n4, by simp, decimalNumeral_ne_nil n4, decimalNumeral_digits n4⟩
  simp only [List.mem_append, List.mem_cons] at hb
  rcases hb with hb | rfl | hb | rfl | hb | rfl | hb <;> first | exact hd _ b hb | exact .inr rfl

/-- A scan that reads a non-empty run of digits at the start of a label, or within an
    all-numeric one, leaves an all-numeric label. -/
theorem scanDNSIDLabels_digits {matchType : ValidDNSIDMatchType} {s s' : DNSIDScan} {d : Input}
    (hd : ∀ b ∈ d, isDigitByte b = true) (hne : d ≠ [])
    (hs : s.labelLength = 0 ∨ s.labelIsAllNumeric = true)
    (h : scanDNSIDLabels matchType s d = some s') : s'.labelIsAllNumeric = true := by
  induction d generalizing s with
  | nil => exact absurd rfl hne
  | cons b d ih =>
    simp only [scanDNSIDLabels] at h
    split at h
    · cases h
    · rename_i s₁ h₁
      have hb := hd b (List.mem_cons_self _ _)
      have hs₁ : s₁.labelIsAllNumeric = true := by
        rcases scanDNSIDByte_eq_some h₁ with ⟨h45, -⟩ | ⟨-, -, rfl⟩ | ⟨hl, -⟩ | ⟨h46, -⟩
        · simp [isDigitByte, h45] at hb
        · by_cases h0 : s.labelLength = 0
          · simp [h0]
          · simp [h0, hs.resolve_left h0]
        · simp only [isDigitByte, isLetterByte, Bool.and_eq_true, decide_eq_true_eq,
            Bool.or_eq_true] at hb hl
          omega
        · simp [isDigitByte, h46] at hb
      cases d with
      | nil => cases h; exact hs₁
      | cons c d =>
        exact ih (fun x hx => hd x (List.mem_cons_of_mem _ hx)) (List.cons_ne_nil _ _) (.inr hs₁) h

/-- **An IPv4 address is no reference DNS-ID**: its last label is all digits. -/
theorem isValidReferenceDNSID_of_parseIPv4Address {a : List UInt8}
    (h : parseIPv4Address hostname = some a) : isValidReferenceDNSID hostname = false := by
  obtain ⟨-, x, d, rfl, hne, hd⟩ := parseIPv4Address_shape h
  rw [Bool.eq_false_iff]
  intro hv
  rcases (isValidDNSID_cases hv).2 with ⟨hmt, -⟩ | ⟨s, -, -, hs, hf⟩ | ⟨S, s, hmt, -⟩
  · cases hmt
  · rw [show x ++ 46 :: d = (x ++ [46]) ++ d by simp, scanDNSIDLabels_append] at hs
    obtain ⟨s₁, h₁, h₂⟩ := Option.bind_eq_some.mp hs
    have hz : s₁.labelLength = 0 := (scanDNSIDLabels_labelLength h₁ (by simp)).mpr (by simp)
    have hnum := scanDNSIDLabels_digits hd hne (.inl hz) h₂
    rw [hf.2.2] at hnum
    cases hnum
  · cases hmt

/-- No input is both an IPv4 and an IPv6 address. -/
theorem parseIPv6Address_of_parseIPv4Address {a : List UInt8} (out : List UInt8)
    (h : parseIPv4Address hostname = some a) : parseIPv6Address hostname out = none := by
  cases h6 : parseIPv6Address hostname out with
  | none => rfl
  | some a' =>
    rcases (parseIPv4Address_shape h).1 58 (parseIPv6Address_colon h6) with h | h <;>
      exact absurd h (by decide)

/-- **How `CheckCertHostname` reads an IP literal**: it is no valid reference DNS-ID, and it is
    read as its IPv6 address, or else as its IPv4 address. -/
theorem checkCertHostname_ip_literal {a : List UInt8}
    (h : parseIPv6Address hostname ipv6Buffer = some a ∨ parseIPv4Address hostname = some a) :
    isValidReferenceDNSID hostname = false ∧ (parseIPv6Address hostname ipv6Buffer = some a ∨
      parseIPv6Address hostname ipv6Buffer = none ∧ parseIPv4Address hostname = some a) := by
  rcases h with h | h
  · exact ⟨Bool.eq_false_iff.mpr fun hv =>
      isValidReferenceDNSID_colon hv (parseIPv6Address_colon h), .inl h⟩
  · exact ⟨isValidReferenceDNSID_of_parseIPv4Address h,
      .inr ⟨parseIPv6Address_of_parseIPv4Address _ h, h⟩⟩

/-- **The three kinds of hostname are disjoint**: a valid reference DNS-ID is neither an IPv6 nor
    an IPv4 address, and an IPv4 address is no IPv6 address, whatever the buffer holds. So the
    order in which `CheckCertHostname` tries the three kinds decides nothing. -/
theorem checkCertHostname_kinds_disjoint (out : List UInt8) :
    (isValidReferenceDNSID hostname = true →
        parseIPv6Address hostname out = none ∧ parseIPv4Address hostname = none) ∧
      (parseIPv4Address hostname ≠ none → parseIPv6Address hostname out = none) := by
  refine ⟨fun hv => ⟨?_, ?_⟩, fun h4 => ?_⟩
  · -- an IPv6 address has a `:`, which no DNS-ID has
    cases h6 : parseIPv6Address hostname out with
    | none => rfl
    | some a => exact absurd (parseIPv6Address_colon h6) (isValidReferenceDNSID_colon hv)
  · -- the last label of an IPv4 address is all digits
    cases h4 : parseIPv4Address hostname with
    | none => rfl
    | some a => rw [isValidReferenceDNSID_of_parseIPv4Address h4] at hv; cases hv
  · obtain ⟨a, ha⟩ := Option.ne_none_iff_exists'.mp h4
    exact parseIPv6Address_of_parseIPv4Address out ha

/-- `a` is a reference DNS-ID and no IP address; `1.2.3.4` is an IPv4 address and no IPv6
    address. -/
theorem checkCertHostname_kinds_disjoint_a :
    (isValidReferenceDNSID [97] = true ∧
        parseIPv6Address [97] ipv6Buffer = none ∧ parseIPv4Address [97] = none) ∧
      (parseIPv4Address [49, 46, 50, 46, 51, 46, 52] ≠ none ∧
        parseIPv6Address [49, 46, 50, 46, 51, 46, 52] ipv6Buffer = none) :=
  ⟨⟨by decide, (@checkCertHostname_kinds_disjoint [97] ipv6Buffer).1 (by decide)⟩,
    ⟨by decide, (@checkCertHostname_kinds_disjoint [49, 46, 50, 46, 51, 46, 52] ipv6Buffer).2
      (by decide)⟩⟩

end Literals

/-! ## 6. Reference-ID mode against name-constraint mode -/

section Modes

variable {P H C : Input}

/-- **Name-constraint mode sees every name reference-ID mode matched**: a presented DNS-ID that
    matches a hostname matches, in name-constraint mode, every valid constraint whose subtree
    holds the hostname (read without its trailing `.`). -/
theorem presentedDNSIDMatchesReferenceDNSID_nameConstraint_of_referenceID
    (h : presentedDNSIDMatchesReferenceDNSID P .referenceID H = true)
    (hC : isValidDNSID C .nameConstraint = true) (hin : InSubtree (stripTrailingDot H) C) :
    presentedDNSIDMatchesReferenceDNSID P .nameConstraint C = true := by
  rw [presentedDNSIDMatchesReferenceDNSID_referenceID_eq, Bool.and_eq_true, Bool.and_eq_true] at h
  obtain ⟨⟨hP, hH⟩, hm⟩ := h
  rw [presentedDNSIDMatchesReferenceDNSID_nameConstraint_eq, hP, hC, Bool.true_and, Bool.true_and]
  rcases (matchDNSIDLabels_referenceID_iff hP hH).mp hm with ⟨hstar, he⟩ |
      ⟨S, rfl, x, hx, hx46, he⟩
  · exact matchNameConstraintDNSID_of_inSubtree hP hstar ((inSubtree_congr he).mpr hin)
  · exact matchNameConstraintDNSID_of_wildcard_inSubtree hP hx hx46 ((inSubtree_congr he).mp hin)

end Modes

/-! ## 7. No bypass of the name constraints -/

section NoBypass

variable {init : BackCertInit} {cert hostname : Input} {subjectAltName : Option Input}
  {subject : Input} {nc : NameConstraints}

/-- **A hostname accepted on an end entity that passed the name constraints conforms**: as a
    reference DNS-ID, through a presented DNS-ID of the certificate (a subjectAltName entry, or
    the commonName the fallback selects) that matches it; as an IP literal, itself. -/
theorem checkCertHostname_conforms (hinit : init cert = .ok (subjectAltName, subject))
    (hnc : checkNameConstraints nc.encode [⟨.mustBeEndEntity, subjectAltName, subject⟩]
      .idKpServerAuth = .ok ())
    (h : checkCertHostname init cert hostname = .ok ()) :
    (isValidReferenceDNSID hostname = true → ∃ P,
        (IsSubjectAltNameEntry subjectAltName .dNSName P ∨ SelectedCommonNameID subject .dNSName P) ∧
          presentedDNSIDMatchesReferenceDNSID P .referenceID hostname = true ∧
          nc.Conforms .dNSName P) ∧
      ∀ a, (parseIPv6Address hostname ipv6Buffer = some a ∨ parseIPv4Address hostname = some a) →
        nc.Conforms .iPAddress a := by
  obtain ⟨r, hr, hrm⟩ := checkNameConstraints_eq_ok.mp hnc _ (List.mem_singleton_self _)
  obtain ⟨hsan, -, has, hs', hcn⟩ := searchNames_nameConstraints hr
  -- the identifier a search matched is a subjectAltName entry or the selected commonName, and
  -- the name-constraint search checked it
  have hconf : ∀ {T R F}, (T = .dNSName ∨ T = .iPAddress) →
      searchNames subjectAltName subject T R F = .ok .match →
        ∃ v, (IsSubjectAltNameEntry subjectAltName T v ∨ SelectedCommonNameID subject T v) ∧
          matchPresentedIDWithReferenceID T v R = .ok true ∧ nc.Conforms T v := by
    intro T R F hT hs
    have hT' : T ≠ .nameConstraints := by rcases hT with rfl | rfl <;> decide
    have henc := fun v => (@checkPresentedIDConformsToConstraints_encode T v
      (by rcases hT with rfl | rfl <;> simp) nc).mp
    rcases searchNames_match hs with ⟨v, hv, hm⟩ | ⟨⟨m₀, hs⟩, -, tag, w, hl, hw⟩
    · exact ⟨v, .inl hv, hm, henc v (hsan T v hT' hv)⟩
    · obtain ⟨v, hst, hm, hc⟩ := matchCommonNameID_conforms hT hw
        (hcn (searchSubjectAltNames_yield_flag hs' hs) tag w hl) hrm
      exact ⟨v, .inr ⟨tag, w, hl, hst⟩, hm, henc v hc⟩
  have hip : ∀ {a a' : List UInt8} {F}, a' = a →
      searchNames subjectAltName subject .iPAddress a' F = .ok .match → nc.Conforms .iPAddress a := by
    rintro a _ F rfl hs
    obtain ⟨v, -, hm, hc⟩ := hconf (.inr rfl) hs
    simp only [matchPresentedIDWithReferenceID, Except.ok.injEq, decide_eq_true_eq] at hm
    exact hm ▸ hc
  rcases (checkCertHostname_eq_ok hinit).mp h with ⟨hv, hs⟩ | ⟨hv, a', h6, hs⟩ |
      ⟨hv, h6, a', h4, hs⟩
  · refine ⟨fun _ => ?_, fun a ha =>
      absurd ((checkCertHostname_ip_literal ha).1.symm.trans hv) Bool.false_ne_true⟩
    obtain ⟨v, hv, hm, hc⟩ := hconf (.inl rfl) hs
    exact ⟨v, hv, by simpa [matchPresentedIDWithReferenceID] using hm, hc⟩
  · refine ⟨fun h' => absurd (hv.symm.trans h') Bool.false_ne_true, fun a ha => ?_⟩
    rcases (checkCertHostname_ip_literal ha).2 with h6' | ⟨h6', -⟩
    · exact hip (Option.some.inj (h6.symm.trans h6')) hs
    · rw [h6] at h6'
      cases h6'
  · refine ⟨fun h' => absurd (hv.symm.trans h') Bool.false_ne_true, fun a ha => ?_⟩
    rcases (checkCertHostname_ip_literal ha).2 with h6' | ⟨-, h4'⟩
    · rw [h6] at h6'
      cases h6'
    · exact hip (Option.some.inj (h4.symm.trans h4')) hs

/-- A certificate whose subjectAltName has a dNSName entry that matches a valid reference
    DNS-ID is valid for it. -/
theorem checkCertHostname_of_dNSName (subjectName : Name) {san : SubjectAltName} {P : Input}
    (hinit : init cert = .ok (some san.encode, subjectName.encode))
    (hv : isValidReferenceDNSID hostname = true) (hP : (.dNSName, P) ∈ san.entries)
    (hm : presentedDNSIDMatchesReferenceDNSID P .referenceID hostname = true) :
    checkCertHostname init cert hostname = .ok () := by
  refine (checkCertHostname_eq_ok hinit).mpr (.inl ⟨hv, ?_⟩)
  show searchNames ((some san).map SubjectAltName.encode) subjectName.encode .dNSName hostname
    .yes = .ok .match
  exact (searchNames_encode_eq_match (Or.inl rfl)).mpr
    (.inl ⟨P, by simpa [SubjectAltName.entriesOf] using hP, congrArg Except.ok hm⟩)

/-- An end entity with a subjectAltName and an empty subject passes the name constraints that
    its entries and its subject conform to. -/
theorem checkNameConstraints_endEntity {san : SubjectAltName}
    (hsan : ∀ x ∈ san.entries, checkPresentedIDConformsToConstraints x.1 x.2 nc.encode = .ok ())
    (hdir : checkPresentedIDConformsToConstraints .directoryName [0x30, 0] nc.encode = .ok ())
    (has : hasAtLeastOneDNSNameOrIPAddressSAN (some san) = true) :
    checkNameConstraints nc.encode [⟨.mustBeEndEntity, some san.encode, [0x30, 0]⟩]
      .idKpServerAuth = .ok () := by
  refine checkNameConstraints_eq_ok.mpr fun child hc => ?_
  rw [List.mem_singleton.mp hc]
  exact ⟨_, searchNames_nameConstraints_encode hsan hdir has, by decide⟩

/-- The subject with no RDN, `SEQUENCE {}`. -/
def emptyName : Name := ⟨[], by simp, by simp, by simp, by decide⟩

/-- The certificate whose one subjectAltName entry is the dNSName `a` is valid for `a`. -/
theorem checkCertHostname_dNSNameA :
    checkCertHostname (fun _ => .ok (some subjectAltNameA.encode, [0x30, 0])) [] [97] = .ok () :=
  checkCertHostname_of_dNSName emptyName rfl (by decide)
    (List.mem_singleton_self _) (by decide)

/-- Name constraints that exclude the dNSName `b`. -/
def excludeDNSNameB : NameConstraints :=
  ⟨none, some [(.dNSName, [98])], .inr (by simp), by simp,
    by rintro _ ⟨⟩; exact ⟨by simp, by decide, by decide⟩, by decide⟩

/-- The end entity with the subjectAltName entry `a` and an empty subject passes
    `excludeDNSNameB`: `a` is not in the subtree of `b`. -/
theorem excludeDNSNameB_passes :
    checkNameConstraints excludeDNSNameB.encode
      [⟨.mustBeEndEntity, some subjectAltNameA.encode, [0x30, 0]⟩] .idKpServerAuth = .ok () := by
  refine checkNameConstraints_endEntity (fun x hx => ?_) ?_ rfl
  · obtain rfl : x = (.dNSName, [97]) := List.mem_singleton.mp hx
    refine (checkPresentedIDConformsToConstraints_encode (Or.inl rfl) _).mpr
      ⟨by simp [excludeDNSNameB, PermittedConform], ?_⟩
    simp only [excludeDNSNameB, ExcludedConform, BaseWellFormed, BaseMatches]
    decide
  · exact (checkPresentedIDConformsToConstraints_encode (Or.inr (Or.inr rfl)) _).mpr
      ⟨by simp [excludeDNSNameB, PermittedConform],
        by simp [excludeDNSNameB, basesOfType, ExcludedConform]⟩

/-- **Excluded subtrees are not bypassed**: a hostname that an end-entity certificate which
    passed the name constraints (for TLS server authentication, so with the commonName fallback)
    is valid for lies, as a reference DNS-ID read without its trailing `.`, in the subtree of no
    excluded dNSName base, and, as an IP literal, in the range of no excluded iPAddress base. -/
theorem checkCertHostname_excluded (hinit : init cert = .ok (subjectAltName, subject))
    (hnc : checkNameConstraints nc.encode [⟨.mustBeEndEntity, subjectAltName, subject⟩]
      .idKpServerAuth = .ok ())
    (h : checkCertHostname init cert hostname = .ok ()) :
    (isValidReferenceDNSID hostname = true →
        ∀ C ∈ basesOfType .dNSName (nc.excludedSubtrees.getD []),
          ¬InSubtree (stripTrailingDot hostname) C) ∧
      ∀ a, (parseIPv6Address hostname ipv6Buffer = some a ∨ parseIPv4Address hostname = some a) →
        ∀ base ∈ basesOfType .iPAddress (nc.excludedSubtrees.getD []),
          ¬(base.length = a.length * 2 ∧
            InAddressRange a (base.take a.length) (base.drop a.length)) := by
  obtain ⟨hdns, hip⟩ := checkCertHostname_conforms hinit hnc h
  refine ⟨fun hv C hC hin => ?_, fun a ha base hb hm => ((hip a ha).2 base hb).2 (.inr hm)⟩
  obtain ⟨P, -, hP, -, hex⟩ := hdns hv
  obtain ⟨hwf, hno⟩ := hex C hC
  exact hno (.inr (presentedDNSIDMatchesReferenceDNSID_nameConstraint_of_referenceID hP hwf hin))

/-- The certificate of `excludeDNSNameB_passes`, for the host `a`: `a` lies outside the
    subtree of the excluded `b`. -/
theorem checkCertHostname_excluded_excludeDNSNameB :
    (isValidReferenceDNSID [97] = true →
        ∀ C ∈ basesOfType .dNSName (excludeDNSNameB.excludedSubtrees.getD []),
          ¬InSubtree (stripTrailingDot [97]) C) ∧
      ∀ a, (parseIPv6Address [97] ipv6Buffer = some a ∨ parseIPv4Address [97] = some a) →
        ∀ base ∈ basesOfType .iPAddress (excludeDNSNameB.excludedSubtrees.getD []),
          ¬(base.length = a.length * 2 ∧
            InAddressRange a (base.take a.length) (base.drop a.length)) :=
  checkCertHostname_excluded rfl excludeDNSNameB_passes checkCertHostname_dNSNameA

end NoBypass

end PkixNames
