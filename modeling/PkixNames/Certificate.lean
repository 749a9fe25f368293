import PkixNames.Search

/-!
# Certificates as `SearchNames` reads them

`CheckCertHostname` and `CheckNameConstraints` hand `SearchNames` two parts of a parsed
certificate: the subjectAltName extension value, if present, and the subject. Here both are
written as the DER they are read from, and `SearchNames` is computed on them:

* `Name` (a SEQUENCE of non-empty SETs of `AttributeTypeAndValue`s) and `SubjectAltName` (a
  non-empty SEQUENCE of GeneralNames), structures that carry their well-formedness;
* **`lastCommonNameID_encode`**: the commonName the fallback settles on is the last commonName
  of the Name, RDNs in order and AVAs in order within each;
* the subjectAltName loop on a well-formed extension: it always answers, leaves early exactly
  at a matching entry of the reference type, and otherwise records whether a dNSName or
  iPAddress entry was seen;
* **`searchNames_encode_eq_match`**: when a search for a dNSName or an iPAddress finds a match.
-/

namespace PkixNames

/-! ## 1. Subject names -/

/-- An `AttributeTypeAndValue`: the contents of its type OID, and its value's tag and contents. -/
structure AttributeTypeAndValue where
  type : Input
  valueTag : UInt8
  value : Input
  deriving DecidableEq, Repr

namespace AttributeTypeAndValue

/-- The contents of its SEQUENCE: the type OID, then the value. -/
def encode (ava : AttributeTypeAndValue) : Input :=
  Der.tlv Der.oidTag ava.type ++ Der.tlv ava.valueTag ava.value

/-- Each of its TLVs can be written. -/
def Encodable (ava : AttributeTypeAndValue) : Prop :=
  Der.Encodable Der.oidTag ava.type ∧ Der.Encodable ava.valueTag ava.value ∧
    Der.Encodable Der.sequence ava.encode

/-- Whether it is a commonName. -/
def IsCommonName (ava : AttributeTypeAndValue) : Prop := ava.type = idAtCommonName

instance (ava : AttributeTypeAndValue) : Decidable ava.IsCommonName :=
  inferInstanceAs (Decidable (ava.type = idAtCommonName))

end AttributeTypeAndValue

/-- The contents of an RDN's SET: the SEQUENCEs of its AVAs. -/
def encodeRDN (rdn : List AttributeTypeAndValue) : Input :=
  Der.encodeAll (rdn.map fun ava => (Der.sequence, ava.encode))

/-- The contents of a Name's SEQUENCE: the SETs of its RDNs. -/
def encodeRDNs (rdns : List (List AttributeTypeAndValue)) : Input :=
  Der.encodeAll (rdns.map fun rdn => (Der.set, encodeRDN rdn))

/-- A `Name`: a SEQUENCE of RDNs, each a non-empty SET of AVAs, every TLV of which can be
    written. -/
structure Name where
  rdns : List (List AttributeTypeAndValue)
  rdn_nonempty : ∀ rdn ∈ rdns, rdn ≠ []
  ava_encodable : ∀ rdn ∈ rdns, ∀ ava ∈ rdn, ava.Encodable
  rdn_encodable : ∀ rdn ∈ rdns, Der.Encodable Der.set (encodeRDN rdn)
  encodable : Der.Encodable Der.sequence (encodeRDNs rdns)

namespace Name

/-- The subject as the certificate carries it. -/
def encode (n : Name) : Input := Der.tlv Der.sequence (encodeRDNs n.rdns)

/-- The last commonName AVA of the Name, RDNs in order and AVAs in order within each: its
    value's tag and contents. -/
def lastCommonName (n : Name) : Option (UInt8 × Input) :=
  ((n.rdns.flatten.filter fun ava => decide ava.IsCommonName).getLast?).map
    fun ava => (ava.valueTag, ava.value)

end Name

/-! ## 2. SubjectAltName extensions -/

/-- A subjectAltName extension value: a non-empty SEQUENCE of GeneralNames of the types
    `ReadGeneralName` knows, every TLV of which can be written. -/
structure SubjectAltName where
  entries : List GeneralName
  nonempty : entries ≠ []
  readable : ∀ x ∈ entries, x.1 ≠ .nameConstraints
  encodable : ∀ x ∈ entries, Der.Encodable x.1.tag x.2
  sequence_encodable : Der.Encodable Der.sequence (Der.encodeAll (entries.map fun x => (x.1.tag, x.2)))

namespace SubjectAltName

/-- The entries as the TLVs the loop reads. -/
def items (san : SubjectAltName) : List (UInt8 × Input) := san.entries.map fun x => (x.1.tag, x.2)

/-- The extension value as the certificate carries it. -/
def encode (san : SubjectAltName) : Input := Der.tlv Der.sequence (Der.encodeAll san.items)

/-- The entries of an extension that may be absent. -/
def entriesOf : Option SubjectAltName → List GeneralName
  | none => []
  | some san => san.entries

theorem items_encodable (san : SubjectAltName) : ∀ x ∈ san.items, Der.Encodable x.1 x.2 := by
  simp only [items, List.mem_map]
  rintro _ ⟨x, hx, rfl⟩
  exact san.encodable x hx

/-- An entry read back from its TLV. -/
theorem mem_items {san : SubjectAltName} {t : GeneralNameType} {v : Input} :
    (t.tag, v) ∈ san.items ↔ (t, v) ∈ san.entries := by
  simp only [items, List.mem_map, Prod.mk.injEq]
  constructor
  · rintro ⟨⟨t', v'⟩, hx, ht, rfl⟩
    rwa [← GeneralNameType.tag_injective ht]
  · exact fun h => ⟨_, h, rfl, rfl⟩

end SubjectAltName

/-- `hasAtLeastOneDNSNameOrIPAddressSAN` as `SearchNames` leaves it after the subjectAltName
    loop: whether the extension has a dNSName or an iPAddress entry. -/
def hasAtLeastOneDNSNameOrIPAddressSAN (san : Option SubjectAltName) : Bool :=
  (SubjectAltName.entriesOf san).any fun x => decide (x.1 = .dNSName) || decide (x.1 = .iPAddress)

/-! ## 3. Reading a Name -/

/-- The fallback's walk in `lastCommonNameID`: each commonName's value replaces the state. -/
def keepValue (valueEncodingTag : UInt8) (presentedID : Input) :
    Except Result (Option (UInt8 × Input)) :=
  .ok (some (valueEncodingTag, presentedID))

/-- What `keepValue`'s walk holds after one AVA. -/
def keepCommonName (s : Option (UInt8 × Input)) (ava : AttributeTypeAndValue) :
    Option (UInt8 × Input) :=
  if ava.IsCommonName then some (ava.valueTag, ava.value) else s

theorem searchWithinAVA_encode {ava : AttributeTypeAndValue} (h : ava.Encodable)
    (s : Option (UInt8 × Input)) :
    searchWithinAVA keepValue s ava.encode = .ok (keepCommonName s ava, []) := by
  obtain ⟨ht, hv, -⟩ := h
  have hr : Der.readTagAndGetValue (Der.tlv ava.valueTag ava.value) =
      .ok (ava.valueTag, ava.value, []) := by
    simpa using Der.readTagAndGetValue_tlv hv []
  unfold searchWithinAVA keepCommonName AttributeTypeAndValue.IsCommonName
    AttributeTypeAndValue.encode
  rw [Der.expectTagAndGetValue_eq_ok.mpr ⟨ht, rfl⟩]
  by_cases hc : ava.type = idAtCommonName
  · simp only [hc, ne_eq, not_true_eq_false, if_false, if_true, hr]
    rfl
  · simp [hc]

theorem searchWithinRDN_encode {rdn : List AttributeTypeAndValue} (hne : rdn ≠ [])
    (h : ∀ ava ∈ rdn, ava.Encodable) (s : Option (UInt8 × Input)) :
    searchWithinRDN keepValue s (encodeRDN rdn) = .ok (rdn.foldl keepCommonName s) := by
  have hfold : ∀ (rdn : List AttributeTypeAndValue), (∀ ava ∈ rdn, ava.Encodable) → ∀ s,
      Der.forEachItem (searchAVA keepValue) s (rdn.map fun ava => (Der.sequence, ava.encode)) =
        .ok (.yield (rdn.foldl keepCommonName s)) := by
    intro rdn h
    induction rdn with
    | nil => exact fun _ => rfl
    | cons ava rdn ih =>
      intro s
      have hava : searchAVA keepValue s Der.sequence ava.encode =
          .ok (.yield (keepCommonName s ava)) := by
        simp [searchAVA, searchWithinAVA_encode (h ava (List.mem_cons_self _ _))]
      simp only [List.map_cons, Der.forEachItem, hava, List.foldl_cons]
      exact ih (fun a ha => h a (List.mem_cons_of_mem _ ha)) _
  unfold searchWithinRDN encodeRDN
  rw [Der.forEachTLV_encodeAll _ _ _ (by simpa using hne)
    (by simpa using fun ava hava => (h ava hava).2.2), hfold rdn h s]
  rfl

theorem searchSubject_encode (n : Name) (s : Option (UInt8 × Input)) :
    searchSubject keepValue s n.encode = .ok (n.rdns.flatten.foldl keepCommonName s) := by
  have hfold : ∀ rdns : List (List AttributeTypeAndValue), (∀ rdn ∈ rdns, rdn ≠ []) →
      (∀ rdn ∈ rdns, ∀ ava ∈ rdn, ava.Encodable) → ∀ s,
      Der.forEachItem (searchRDN keepValue) s (rdns.map fun rdn => (Der.set, encodeRDN rdn)) =
        .ok (.yield (rdns.flatten.foldl keepCommonName s)) := by
    intro rdns hne h
    induction rdns with
    | nil => exact fun _ => rfl
    | cons rdn rdns ih =>
      intro s
      have hrdn : searchRDN keepValue s Der.set (encodeRDN rdn) =
          .ok (.yield (rdn.foldl keepCommonName s)) := by
        simp [searchRDN, searchWithinRDN_encode (hne rdn (List.mem_cons_self _ _))
          (h rdn (List.mem_cons_self _ _))]
      simp only [List.map_cons, Der.forEachItem, hrdn, List.flatten_cons, List.foldl_append]
      exact ih (fun r hr => hne r (List.mem_cons_of_mem _ hr))
        (fun r hr => h r (List.mem_cons_of_mem _ hr)) _
  unfold searchSubject Name.encode
  rw [Der.expectTagAndGetValue_eq_ok.mpr ⟨n.encodable, by rw [List.append_nil]⟩]
  by_cases hnil : n.rdns = []
  · simp [encodeRDNs, hnil]
  · have hne : encodeRDNs n.rdns ≠ [] := by simpa [encodeRDNs] using hnil
    simp only [hne, if_false]
    rw [encodeRDNs, Der.forEachTLV_encodeAll _ _ _ (by simpa using hnil)
      (by simpa using n.rdn_encodable), hfold n.rdns n.rdn_nonempty n.ava_encodable s]
    rfl

/-- The walk's state after a list of AVAs is the last commonName among them, or what it was. -/
theorem foldl_keepCommonName (avas : List AttributeTypeAndValue) (s : Option (UInt8 × Input)) :
    avas.foldl keepCommonName s =
      (((avas.filter fun ava => decide ava.IsCommonName).getLast?).map
        fun ava => (ava.valueTag, ava.value)).or s := by
  induction avas generalizing s with
  | nil => rfl
  | cons ava avas ih =>
    rw [List.foldl_cons, ih]
    by_cases hc : ava.IsCommonName
    · rw [List.filter_cons_of_pos (by simpa using hc), List.getLast?_cons]
      cases (avas.filter fun ava => decide ava.IsCommonName).getLast? <;> simp [keepCommonName, hc]
    · rw [List.filter_cons_of_neg (by simpa using hc)]
      simp [keepCommonName, hc]

/-- **The commonName the fallback settles on is the Name's last commonName.** -/
theorem lastCommonNameID_encode (n : Name) : lastCommonNameID n.encode = .ok n.lastCommonName := by
  have h := searchSubject_encode n none
  rw [foldl_keepCommonName, Option.or_none] at h
  exact h

/-! ## 4. Reading a SubjectAltName -/

section SubjectAltName

variable {referenceIDType : GeneralNameType} {referenceID : Input}

theorem searchSubjectAltNames_encode (san : SubjectAltName) :
    searchSubjectAltNames (some san.encode) referenceIDType referenceID =
      Der.forEachItem (searchSubjectAltName referenceIDType referenceID)
        (.noNamesOfGivenType, false) san.items := by
  have he : Der.expectTagAndGetValueAtEnd san.encode Der.sequence = .ok (Der.encodeAll san.items) :=
    Der.expectTagAndGetValueAtEnd_eq_ok.mpr ⟨san.sequence_encodable, rfl⟩
  simp only [searchSubjectAltNames, he]
  exact Der.forEachTLV_encodeAll _ _ _ (by simpa [SubjectAltName.items] using san.nonempty)
    san.items_encodable

/-- A round of a search for a dNSName or an iPAddress answers on every entry the switch knows. -/
theorem searchSubjectAltName_ok (hT : referenceIDType = .dNSName ∨ referenceIDType = .iPAddress)
    {t : GeneralNameType} {tag : UInt8} (hof : GeneralNameType.ofTag tag = some t)
    (st : MatchResult × Bool) (v : Input) :
    ∃ r, searchSubjectAltName referenceIDType referenceID st tag v = .ok r := by
  have hT' : referenceIDType ≠ .nameConstraints := by rcases hT with rfl | rfl <;> decide
  unfold searchSubjectAltName
  rw [hof]
  by_cases ht : t = referenceIDType
  · subst ht
    rcases hT with rfl | rfl <;> simp only [matchPresentedIDWithReferenceID, reduceCtorEq, if_false,
      if_true]
    · cases presentedDNSIDMatchesReferenceDNSID v .referenceID referenceID <;> exact ⟨_, rfl⟩
    · cases decide (v = referenceID) <;> exact ⟨_, rfl⟩
  · simp [hT', ht]

variable (hT : referenceIDType = .dNSName ∨ referenceIDType = .iPAddress)
include hT

/-- The search always answers on a well-formed extension. -/
theorem searchSubjectAltNames_encode_ok (san : SubjectAltName) :
    ∃ r, searchSubjectAltNames (some san.encode) referenceIDType referenceID = .ok r := by
  rw [searchSubjectAltNames_encode]
  refine Der.forEachItem_ok (fun x hx st => ?_) _
  obtain ⟨t, hxt, rfl⟩ := List.mem_map.mp hx
  exact searchSubjectAltName_ok hT (GeneralNameType.ofTag_tag_of_ne (san.readable t hxt)) st _

/-- **The search leaves the loop early exactly at a matching entry of the reference type.** -/
theorem searchSubjectAltNames_encode_done (san : SubjectAltName) :
    (∃ st, searchSubjectAltNames (some san.encode) referenceIDType referenceID = .ok (.done st)) ↔
      ∃ v, (referenceIDType, v) ∈ san.entries ∧
        matchPresentedIDWithReferenceID referenceIDType v referenceID = .ok true := by
  rw [searchSubjectAltNames_encode]
  constructor
  · rintro ⟨st, h⟩
    obtain ⟨-, -, ⟨tag, v⟩, hx, hof, hm⟩ := forEachItem_searchSubjectAltName_done h
    dsimp only at hof hm
    rw [← GeneralNameType.tag_of_ofTag hof, SubjectAltName.mem_items] at hx
    exact ⟨v, hx, hm⟩
  · rintro ⟨v, hv, hm⟩
    obtain ⟨r, hr⟩ : ∃ r, Der.forEachItem (searchSubjectAltName referenceIDType referenceID)
        (.noNamesOfGivenType, false) san.items = .ok r := by
      rw [← searchSubjectAltNames_encode]
      exact searchSubjectAltNames_encode_ok hT san
    have hT' : referenceIDType ≠ .nameConstraints := by rcases hT with rfl | rfl <;> decide
    rcases r with st | st
    · exact ⟨st, hr⟩
    · obtain ⟨_, _, hb⟩ := Der.forEachItem_yield hr _ (SubjectAltName.mem_items.mpr hv)
      obtain ⟨t, hof, hc⟩ := searchSubjectAltName_eq_ok.mp hb
      obtain rfl := Option.some.inj (hof.symm.trans (GeneralNameType.ofTag_tag_of_ne hT'))
      rcases hc with ⟨h, -⟩ | ⟨-, -, -, hr'⟩ | ⟨-, -, h, -⟩ | ⟨-, h, -⟩
      · exact absurd h hT'
      · cases hr'
      · rw [hm] at h
        cases h
      · exact absurd rfl h

end SubjectAltName

/-- **A walk of the subjectAltName that goes to the end sets the flag** exactly when the
    extension has a dNSName or iPAddress entry. -/
theorem searchSubjectAltNames_encode_flag {referenceIDType : GeneralNameType}
    {referenceID : Input} {san : Option SubjectAltName} {st : MatchResult × Bool}
    (h : searchSubjectAltNames (san.map SubjectAltName.encode) referenceIDType referenceID =
      .ok (.yield st)) :
    st.2 = hasAtLeastOneDNSNameOrIPAddressSAN san := by
  cases san with
  | none =>
    simp only [Option.map_none', searchSubjectAltNames, Except.ok.injEq,
      Der.forInStep_yield_inj] at h
    rw [← h]
    rfl
  | some san =>
    rw [Option.map_some', searchSubjectAltNames_encode] at h
    have hflag := (forEachItem_searchSubjectAltName_yield h).1
    rw [Bool.eq_iff_iff, hflag, hasAtLeastOneDNSNameOrIPAddressSAN, List.any_eq_true]
    simp only [Bool.false_eq_true, false_or, SubjectAltName.items, List.mem_map, Bool.or_eq_true,
      decide_eq_true_eq, SubjectAltName.entriesOf]
    constructor
    · rintro ⟨_, ⟨x, hx, rfl⟩, h⟩
      exact ⟨x, hx, h.imp (fun h => GeneralNameType.tag_injective h)
        (fun h => GeneralNameType.tag_injective h)⟩
    · rintro ⟨x, hx, h⟩
      exact ⟨_, ⟨x, hx, rfl⟩, h.imp (congrArg GeneralNameType.tag) (congrArg GeneralNameType.tag)⟩

/-! ## 5. `SearchNames` on a certificate's names -/

/-- **When a search for a dNSName or an iPAddress finds a match**: at an entry of that type that
    matches, or, when the extension has no dNSName or iPAddress entry and the caller allows the
    fallback, at the Name's last commonName. -/
theorem searchNames_encode_eq_match {san : Option SubjectAltName} {subject : Name}
    {referenceIDType : GeneralNameType} {referenceID : Input}
    {fallBackToCommonName : FallBackToCommonName}
    (hT : referenceIDType = .dNSName ∨ referenceIDType = .iPAddress) :
    searchNames (san.map SubjectAltName.encode) subject.encode referenceIDType referenceID
        fallBackToCommonName = .ok .match ↔
      (∃ v, (referenceIDType, v) ∈ SubjectAltName.entriesOf san ∧
          matchPresentedIDWithReferenceID referenceIDType v referenceID = .ok true) ∨
        hasAtLeastOneDNSNameOrIPAddressSAN san = false ∧ fallBackToCommonName = .yes ∧
          ∃ tag w, subject.lastCommonName = some (tag, w) ∧
            matchCommonNameID referenceIDType referenceID tag w = .ok .match := by
  have hT' : referenceIDType ≠ .nameConstraints := by rcases hT with rfl | rfl <;> decide
  have hcn : ∀ m₀, searchSubject (matchCommonNameID referenceIDType referenceID) m₀ subject.encode =
      match subject.lastCommonName with
      | none => .ok m₀
      | some (tag, w) => matchCommonNameID referenceIDType referenceID tag w := by
    intro m₀
    rw [searchSubject_eq_lastCommonNameID (fun _ _ => matchCommonNameID_ok),
      lastCommonNameID_encode]
    rfl
  rw [searchNames_eq_ok]
  constructor
  · rintro (⟨b, hs⟩ | ⟨m₀, has, hs, -, ⟨-, hm⟩ | ⟨rfl, hF, hw⟩⟩)
    · cases san with
      | none => simp [searchSubjectAltNames] at hs
      | some san => exact .inl ((searchSubjectAltNames_encode_done hT san).mp ⟨_, hs⟩)
    · exact absurd hm.symm (searchSubjectAltNames_yield hs).1
    · refine .inr ⟨(searchSubjectAltNames_encode_flag hs).symm, hF, ?_⟩
      rw [hcn] at hw
      rcases hl : subject.lastCommonName with _ | ⟨tag, w⟩ <;> rw [hl] at hw
      · exact absurd (Except.ok.inj hw) (searchSubjectAltNames_yield hs).1
      · exact ⟨tag, w, rfl, hw⟩
  · rintro (⟨v, hv, hm⟩ | ⟨hflag, hF, tag, w, hl, hw⟩)
    · cases san with
      | none => simp [SubjectAltName.entriesOf] at hv
      | some san =>
        obtain ⟨st, hs⟩ := (searchSubjectAltNames_encode_done hT san).mpr ⟨v, hv, hm⟩
        obtain ⟨hst, -⟩ := forEachItem_searchSubjectAltName_done
          (by rwa [searchSubjectAltNames_encode] at hs)
        exact .inl ⟨st.2, by rw [Option.map_some', hs, ← hst]⟩
    · obtain ⟨r, hs⟩ : ∃ r, searchSubjectAltNames (san.map SubjectAltName.encode)
          referenceIDType referenceID = .ok r := by
        cases san with
        | none => exact ⟨_, rfl⟩
        | some san => exact searchSubjectAltNames_encode_ok hT san
      rcases r with st | ⟨m₀, has⟩
      · cases san with
        | none => simp [searchSubjectAltNames] at hs
        | some san =>
          obtain ⟨v, hv, -⟩ := (searchSubjectAltNames_encode_done hT san).mp ⟨st, hs⟩
          rw [hasAtLeastOneDNSNameOrIPAddressSAN, List.any_eq_false] at hflag
          exact absurd (by rcases hT with rfl | rfl <;> simp) (hflag _ hv)
      · have hhas : has = false := (searchSubjectAltNames_encode_flag hs).trans hflag
        refine .inr ⟨m₀, has, hs, fun h => absurd h hT', .inr ⟨hhas, hF, ?_⟩⟩
        rw [hcn, hl]
        exact hw

/-- **The search reads nothing after a matching entry**: when an entry of the reference type
    matches, `SearchNames` answers `Match` whatever bytes follow the entries in the extension,
    GeneralNames or not, whatever the subject, with or without the fallback. The loop leaves at
    the match, so nothing after it is parsed. -/
theorem searchNames_append_of_match {san : SubjectAltName} {junk subject referenceID : Input}
    {referenceIDType : GeneralNameType} {fallBackToCommonName : FallBackToCommonName}
    (hT : referenceIDType = .dNSName ∨ referenceIDType = .iPAddress)
    (he : Der.Encodable Der.sequence (Der.encodeAll san.items ++ junk))
    (hm : ∃ v, (referenceIDType, v) ∈ san.entries ∧
      matchPresentedIDWithReferenceID referenceIDType v referenceID = .ok true) :
    searchNames (some (Der.tlv Der.sequence (Der.encodeAll san.items ++ junk))) subject
      referenceIDType referenceID fallBackToCommonName = .ok .match := by
  obtain ⟨⟨m, b⟩, hs⟩ := (searchSubjectAltNames_encode_done hT san).mpr hm
  -- a walk that leaves early leaves at a match
  obtain rfl : m = .match :=
    (forEachItem_searchSubjectAltName_done (by rwa [searchSubjectAltNames_encode] at hs)).1
  have hjunk : searchSubjectAltNames (some (Der.tlv Der.sequence (Der.encodeAll san.items ++ junk)))
      referenceIDType referenceID = .ok (.done (.match, b)) := by
    have hseq : Der.Encodable Der.sequence (Der.encodeAll san.items) := san.sequence_encodable
    rw [searchSubjectAltNames, SubjectAltName.encode,
      Der.expectTagAndGetValueAtEnd_eq_ok.mpr ⟨hseq, rfl⟩] at hs
    rw [searchSubjectAltNames, Der.expectTagAndGetValueAtEnd_eq_ok.mpr ⟨he, rfl⟩]
    exact Der.forEachTLV_append_of_done _ hs junk
  rw [searchNames, hjunk]

/-- The subjectAltName whose one entry is the dNSName `a`. -/
def subjectAltNameA : SubjectAltName :=
  ⟨[(.dNSName, [97])], by simp, by simp, by simp [Der.Encodable]; decide, by decide⟩

/-- The dNSName `a` followed by the byte `0xff`, which starts no TLV: a search for `a` finds it. -/
theorem searchNames_append_of_match_a :
    (GeneralNameType.dNSName = .dNSName ∨ GeneralNameType.dNSName = .iPAddress) ∧
      Der.Encodable Der.sequence (Der.encodeAll subjectAltNameA.items ++ [0xff]) ∧
      (∃ v, (GeneralNameType.dNSName, v) ∈ subjectAltNameA.entries ∧
        matchPresentedIDWithReferenceID .dNSName v [97] = .ok true) ∧
      searchNames (some (Der.tlv Der.sequence (Der.encodeAll subjectAltNameA.items ++ [0xff])))
        [] .dNSName [97] .yes = .ok .match :=
  have he : Der.Encodable Der.sequence (Der.encodeAll subjectAltNameA.items ++ [0xff]) := by
    decide
  have hm : ∃ v, (GeneralNameType.dNSName, v) ∈ subjectAltNameA.entries ∧
      matchPresentedIDWithReferenceID .dNSName v [97] = .ok true :=
    ⟨[97], by simp [subjectAltNameA], rfl⟩
  ⟨.inl rfl, he, hm, searchNames_append_of_match (.inl rfl) he hm⟩

/-- **A name-constraint search that finds nothing wrong**: on a well-formed extension with a
    dNSName or iPAddress entry, whose entries conform, and a subject that conforms as a
    directoryName, the search answers `NoNamesOfGivenType`, without the commonName. -/
theorem searchNames_nameConstraints_encode {san : SubjectAltName} {subject referenceID : Input}
    {fallBackToCommonName : FallBackToCommonName}
    (hsan : ∀ x ∈ san.entries, checkPresentedIDConformsToConstraints x.1 x.2 referenceID = .ok ())
    (hdir : checkPresentedIDConformsToConstraints .directoryName subject referenceID = .ok ())
    (has : hasAtLeastOneDNSNameOrIPAddressSAN (some san) = true) :
    searchNames (some san.encode) subject .nameConstraints referenceID fallBackToCommonName =
      .ok .noNamesOfGivenType := by
  have hround : ∀ x ∈ san.items, ∀ st : MatchResult × Bool, ∃ r,
      searchSubjectAltName .nameConstraints referenceID st x.1 x.2 = .ok r := by
    intro x hx st
    obtain ⟨t, ht, rfl⟩ := List.mem_map.mp hx
    exact ⟨_, searchSubjectAltName_eq_ok.mpr ⟨t.1, GeneralNameType.ofTag_tag_of_ne (san.readable t ht),
      .inl ⟨rfl, hsan t ht, rfl⟩⟩⟩
  obtain ⟨r, hr⟩ := Der.forEachItem_ok hround (.noNamesOfGivenType, false)
  rw [← searchSubjectAltNames_encode] at hr
  rcases r with st | st
  · obtain ⟨-, hnc, -⟩ := forEachItem_searchSubjectAltName_done
      (by rwa [searchSubjectAltNames_encode] at hr)
    exact absurd rfl hnc
  · have h1 := (searchSubjectAltNames_yield hr).2 rfl
    have h2 : st.2 = true := (searchSubjectAltNames_encode_flag
      (show searchSubjectAltNames ((some san).map SubjectAltName.encode) _ _ = _ from hr)).trans has
    rw [searchNames_eq_ok]
    exact .inr ⟨st.1, st.2, hr, fun _ => hdir, .inl ⟨.inl h2, h1.symm⟩⟩

end PkixNames
