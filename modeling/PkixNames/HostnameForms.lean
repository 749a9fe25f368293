import PkixNames.Hostname

/-!
# Hostnames `CheckCertHostname` does not tell apart

Two spellings of one hostname that every certificate treats alike:

* letter case: the validator, both IP parsers and the reference-ID matcher see a hostname only
  through what ASCII folding keeps (`isValidDNSID_lowerBytes`, `parseIPv4Address_lowerBytes`,
  `parseIPv6Address_lowerBytes`, `presentedDNSIDMatchesReferenceDNSID_lowerBytes`), so
  `CheckCertHostname` gives a hostname and its folded form the same answer
  (**`checkCertHostname_lowerBytes`**);
* the trailing dot: a valid relative name of at most 252 bytes and its absolute form are
  accepted by the same certificates (**`checkCertHostname_append_dot`**). At 253 bytes the
  absolute form is one byte too long for `IsValidDNSID` (`checkCertHostname_append_dot_253`).
-/

namespace PkixNames

/-! ## 1. The IP parsers do not see case -/

@[simp] theorem tail_lowerBytes (l : Input) : (lowerBytes l).tail = lowerBytes l.tail := by
  cases l <;> rfl

/-- The loop of `ReadIPv4AddressComponent` reads digits and `.`, which folding keeps, and stops
    at any other byte, which folding keeps other. -/
theorem readIPv4AddressComponentLoop_lowerBytes (lastComponent : Bool) (length value : Nat)
    (l : Input) :
    readIPv4AddressComponentLoop lastComponent length value (lowerBytes l) =
      (readIPv4AddressComponentLoop lastComponent length value l).map
        fun r => (r.1, r.2.1, lowerBytes r.2.2) := by
  induction l generalizing length value with
  | nil => cases lastComponent <;> rfl
  | cons b l ih =>
    rw [lowerBytes_cons, readIPv4AddressComponentLoop, readIPv4AddressComponentLoop]
    by_cases hd : isDigitByte b = true
    · -- a digit folds to itself
      rw [localeInsensitveToLower_of_toNat (by rw [isDigitByte_eq_true] at hd; omega)]
      split_ifs
      · rfl
      · rfl
      · exact ih ..
    · rw [isDigitByte_localeInsensitveToLower, if_neg hd, if_neg hd]
      simp only [toNat_localeInsensitveToLower_eq (c := 46) (by omega)]
      split_ifs <;> rfl

theorem readIPv4AddressComponent_lowerBytes (l : Input) (lastComponent : Bool) :
    readIPv4AddressComponent (lowerBytes l) lastComponent =
      (readIPv4AddressComponent l lastComponent).map fun r => (r.1, lowerBytes r.2) := by
  unfold readIPv4AddressComponent
  rw [readIPv4AddressComponentLoop_lowerBytes]
  rcases readIPv4AddressComponentLoop lastComponent 0 0 l with _ | ⟨length, value, rest⟩
  · rfl
  · simp only [Option.map_some']
    split_ifs <;> rfl

@[simp] theorem parseIPv4Address_lowerBytes (hostname : Input) :
    parseIPv4Address (lowerBytes hostname) = parseIPv4Address hostname := by
  simp [parseIPv4Address, readIPv4AddressComponent_lowerBytes, Option.bind_map, Function.comp_def]

@[simp] theorem hexDigitValue_localeInsensitveToLower (b : UInt8) :
    hexDigitValue (localeInsensitveToLower b) = hexDigitValue b := by
  by_cases hu : 65 ≤ b.toNat ∧ b.toNat ≤ 90
  · -- `A` to `F` fold to `a` to `f`, of the same value; the other capitals are no digits
    have ht : (localeInsensitveToLower b).toNat = b.toNat + 32 := by
      rw [toNat_localeInsensitveToLower, if_pos hu]
    unfold hexDigitValue
    rw [ht]
    by_cases h70 : b.toNat ≤ 70
    · simp (disch := omega) only [if_pos, if_neg, Option.some.injEq]
      omega
    · simp (disch := omega) only [if_neg]
  · rw [localeInsensitveToLower_of_toNat (by omega)]

/-- The hex loop of `ParseIPv6Address` stops where it stops on the folded input, with the same
    group, and leaves the folded rest. -/
theorem readIPv6Component_lowerBytes (v len : Nat) (l : Input) :
    readIPv6Component v len (lowerBytes l) =
      match readIPv6Component v len l with
      | .group v len rest => .group v len (lowerBytes rest)
      | c => c := by
  induction l generalizing v len with
  | nil => rfl
  | cons b l ih =>
    rw [lowerBytes_cons, readIPv6Component, readIPv6Component]
    simp only [toNat_localeInsensitveToLower_eq (c := 58) (by omega),
      toNat_localeInsensitveToLower_eq (c := 46) (by omega), hexDigitValue_localeInsensitveToLower]
    split_ifs <;> cases hexDigitValue b <;> first | rfl | exact ih ..

/-- The component loop of `ParseIPv6Address` takes the same turns on the folded input: it reads
    the same groups, and tests the same `:` and `.`. -/
theorem parseIPv6Components_lowerBytes (out : List UInt8) (ci : Int) (cci : Nat) (input : Input) :
    parseIPv6Components out ci cci (lowerBytes input) = parseIPv6Components out ci cci input := by
  induction out, ci, cci, input using parseIPv6Components.induct
  all_goals
    rw [parseIPv6Components, parseIPv6Components, readIPv6Component_lowerBytes]
    simp only [*, parseIPv4Address_lowerBytes, lowerBytes_nil, lowerBytes_cons, lowerBytes_eq_nil,
      tail_lowerBytes, head_lowerBytes_eq (b := 58) (by decide), ne_eq, not_false_eq_true,
      not_true_eq_false, if_true, if_false]

@[simp] theorem parseIPv6Address_lowerBytes (hostname : Input) (out : List UInt8) :
    parseIPv6Address (lowerBytes hostname) out = parseIPv6Address hostname out := by
  simp only [parseIPv6Address, head_lowerBytes_eq (b := 58) (by decide), tail_lowerBytes,
    parseIPv6Components_lowerBytes]

/-! ## 2. `CheckCertHostname` does not see case -/

/-- **`CheckCertHostname` does not see case**: on every certificate, a hostname and its ASCII
    folded form get the same answer. The validator classifies them alike, the IP parsers read the
    same address from both (a hex digit of either case has one value), and the DNS-ID search
    matches them alike, in the subjectAltName entries and in the commonName fallback. -/
theorem checkCertHostname_lowerBytes (init : BackCertInit) (cert hostname : Input) :
    checkCertHostname init cert (lowerBytes hostname) = checkCertHostname init cert hostname := by
  simp only [checkCertHostname, isValidReferenceDNSID, isValidDNSID_lowerBytes,
    parseIPv6Address_lowerBytes, parseIPv4Address_lowerBytes,
    searchNames_dNSName_congr (R := hostname) fun _ => presentedDNSIDMatchesReferenceDNSID_lowerBytes_reference]

/-! ## 3. Absolute and relative hostnames -/

/-- **A relative hostname of at most 252 bytes and its absolute form are one hostname**: for a
    valid reference DNS-ID `H` without a trailing dot, `CheckCertHostname` answers `H.` on every
    certificate as it answers `H`. Both are valid reference IDs, so neither is read as an IP
    address, and the matcher reads a reference without its trailing dot. -/
theorem checkCertHostname_append_dot {init : BackCertInit} {cert hostname : Input}
    (hv : isValidReferenceDNSID hostname = true) (hd : hostname.getLast? ≠ some 46)
    (hlen : hostname.length ≤ 252) :
    checkCertHostname init cert (hostname ++ [46]) = checkCertHostname init cert hostname := by
  have hv' : isValidReferenceDNSID (hostname ++ [46]) = true := by
    rw [isValidReferenceDNSID_append_dot hd, hv, Bool.true_and, decide_eq_true_eq]
    exact hlen
  have hs : stripTrailingDot (hostname ++ [46]) = stripTrailingDot hostname := by
    rw [stripTrailingDot_append hd (.inr rfl), stripTrailingDot, if_neg hd]
  simp only [checkCertHostname, hv, hv', if_true, searchNames_dNSName_congr fun _ =>
    presentedDNSIDMatchesReferenceDNSID_referenceID_congr (hv'.trans hv.symm) (congrArg _ hs)]

/-- The certificate whose one subjectAltName entry is the dNSName `a` is valid for `a.` as it is
    for `a`. -/
theorem checkCertHostname_append_dot_a :
    isValidReferenceDNSID [97] = true ∧ [97].getLast? ≠ some 46 ∧ [97].length ≤ 252 ∧
      checkCertHostname (fun _ => .ok (some subjectAltNameA.encode, [0x30, 0])) [] ([97] ++ [46]) =
        .ok () :=
  ⟨by decide, by decide, by decide,
    (checkCertHostname_append_dot (by decide) (by decide) (by decide)).trans
      checkCertHostname_dNSNameA⟩

end PkixNames
