import PkixNames.Constraints
import PkixNames.IP.IPv4

/-!
# Identity search: `SearchNames`

`SearchNames` is the one traversal that drives both identity matching (a reference ID of type
dNSName or iPAddress) and name-constraint enforcement (the pseudo-type `nameConstraints`, whose
reference ID is a whole extension value). It walks the subjectAltName entries, and then, unless
a dNSName or iPAddress entry was seen or the caller said no, falls back to the subject's
commonName attributes, of which only the last counts. Here:

* `MatchResult`, `matchPresentedIDWithReferenceID`;
* the common-name fallback: `searchWithinAVA`, `searchWithinRDN` and `searchSubject` (the
  subject's `der::NestedOf`), with what a commonName's value does to the match as a parameter,
  `matchCommonNameID` being the one `SearchNames` uses; `lastCommonNameID` is the same walk
  keeping the value;
* the subjectAltName loop and `searchNames`;
* **`searchSubject_eq_lastCommonNameID`**: only the last commonName counts;
* the two kinds of run of the subjectAltName loop, and **`searchNames_agree`**: a search that
  finds a reference ID found it in an identifier that a name-constraint search of the same names
  checked.
-/

namespace PkixNames

/-! ## 1. Match results and the reference-ID matcher -/

/-- `MatchResult`: what a search found. -/
inductive MatchResult where
  | noNamesOfGivenType
  | mismatch
  | «match»
  deriving DecidableEq, Repr

/-- `FallBackToCommonName`: whether the subject's commonName may stand in for absent
    subjectAltName entries. -/
inductive FallBackToCommonName where
  | no
  | yes
  deriving DecidableEq, Repr

/-- `MatchPresentedIDWithReferenceID`: a DNS-ID in reference-ID mode, an IP address by
    `InputsAreEqual`; no other type is ever a reference ID. -/
def matchPresentedIDWithReferenceID (nameType : GeneralNameType) (presentedID referenceID : Input) :
    Except Result Bool :=
  match nameType with
  | .dNSName => .ok (presentedDNSIDMatchesReferenceDNSID presentedID .referenceID referenceID)
  | .iPAddress => .ok (decide (presentedID = referenceID))
  | _ => .error .fatalErrorInvalidArgs

/-! ## 2. The common-name fallback -/

/-- `id_at_commonName`: the contents of the OID 2.5.4.3. -/
def idAtCommonName : Input := [0x55, 0x04, 0x03]

/-- The second half of `SearchWithinAVA`: what a commonName's value makes of the match, which
    was reset to `NoNamesOfGivenType` before. Only PrintableString, UTF8String and
    TeletexString values count; such a value is a presented DNS-ID if it is a valid one, and
    otherwise an IPv4 address if it is one (IPv6 CN-IDs are never looked at). -/
def matchCommonNameID (referenceIDType : GeneralNameType) (referenceID : Input)
    (valueEncodingTag : UInt8) (presentedID : Input) : Except Result MatchResult :=
  if valueEncodingTag ≠ Der.printableString ∧ valueEncodingTag ≠ Der.utf8String ∧
      valueEncodingTag ≠ Der.teletexString then .ok .noNamesOfGivenType
  else if isValidPresentedDNSID presentedID then
    if referenceIDType = .nameConstraints then
      match checkPresentedIDConformsToConstraints .dNSName presentedID referenceID with
      | .ok () => .ok .match
      | .error _ => .ok .mismatch
    else if referenceIDType = .dNSName then
      -- `MatchPresentedIDWithReferenceID` for a dNSName, whose `Result` is always `Success` and
      -- not looked at
      .ok (if presentedDNSIDMatchesReferenceDNSID presentedID .referenceID referenceID then .match
        else .mismatch)
    else .ok .noNamesOfGivenType
  else
    match parseIPv4Address presentedID with
    | some ipv4 =>
      if referenceIDType = .nameConstraints then
        match checkPresentedIDConformsToConstraints .iPAddress ipv4 referenceID with
        | .ok () => .ok .match
        | .error _ => .ok .mismatch
      else if referenceIDType = .iPAddress then
        match matchPresentedIDWithReferenceID .iPAddress ipv4 referenceID with
        | .error e => .error e
        | .ok isMatch => .ok (if isMatch then .match else .mismatch)
      else .ok .noNamesOfGivenType
    | none => .ok .noNamesOfGivenType

section Walk

variable {σ : Type} (onCommonName : UInt8 → Input → Except Result σ)

/-- `SearchWithinAVA`, with what a commonName's value does to the state (`onCommonName`, which
    replaces it) as a parameter: the AVA's type OID; an AVA of another type is skipped to its
    end; a commonName's value is one TLV. Returns the state and what is left of the AVA, which
    `der::Nested` requires to be nothing. -/
def searchWithinAVA (s : σ) (rdn : Input) : Except Result (σ × Input) :=
  match Der.expectTagAndGetValue rdn Der.oidTag with
  | .error e => .error e
  | .ok (type, rest) =>
    if type ≠ idAtCommonName then .ok (s, [])
    else
      match Der.readTagAndGetValue rest with
      | .error e => .error e
      | .ok (valueEncodingTag, presentedID, rest) =>
        match onCommonName valueEncodingTag presentedID with
        | .error e => .error e
        | .ok s => .ok (s, rest)

/-- `der::Nested(rdn, der::SEQUENCE, SearchWithinAVA)`: one round of `SearchWithinRDN`'s loop. -/
def searchAVA (s : σ) (tag : UInt8) (ava : Input) : Except Result (ForInStep σ) :=
  if tag ≠ Der.sequence then .error .errorBadDer
  else
    match searchWithinAVA onCommonName s ava with
    | .error e => .error e
    | .ok (s, rest) => if rest ≠ [] then .error .errorBadDer else .ok (.yield s)

/-- `SearchWithinRDN`: `do { der::Nested(rdn, SEQUENCE, SearchWithinAVA) } while (!AtEnd)`. -/
def searchWithinRDN (s : σ) (rdn : Input) : Except Result σ :=
  match Der.forEachTLV (searchAVA onCommonName) s rdn with
  | .error e => .error e
  | .ok r => .ok r.value

/-- `der::Nested(rdns, der::SET, SearchWithinRDN)`: one round of the subject's `der::NestedOf`.
    `SearchWithinRDN` reads its RDN to the end, so the `der::End` after it holds. -/
def searchRDN (s : σ) (tag : UInt8) (rdn : Input) : Except Result (ForInStep σ) :=
  if tag ≠ Der.set then .error .errorBadDer
  else
    match searchWithinRDN onCommonName s rdn with
    | .error e => .error e
    | .ok s => .ok (.yield s)

/-- Modelled from the spec: `der::NestedOf(subject, SEQUENCE, SET, EmptyAllowed::Yes,
    SearchWithinRDN)`, the last statement of `SearchNames`: one SEQUENCE, empty or a run of SETs,
    each walked by `SearchWithinRDN`. -/
def searchSubject (s : σ) (subject : Input) : Except Result σ :=
  match Der.expectTagAndGetValue subject Der.sequence with
  | .error e => .error e
  | .ok (rdns, _) =>
    if rdns = [] then .ok s
    else
      match Der.forEachTLV (searchRDN onCommonName) s rdns with
      | .error e => .error e
      | .ok r => .ok r.value

end Walk

/-- The commonName the fallback settles on: the fallback's walk keeping each commonName's value
    tag and contents in place of the last. -/
def lastCommonNameID (subject : Input) : Except Result (Option (UInt8 × Input)) :=
  searchSubject (fun valueEncodingTag presentedID => .ok (some (valueEncodingTag, presentedID)))
    none subject

/-! ## 3. `SearchNames` -/

/-- One round of `SearchNames`'s loop over the subjectAltName entries (the loop reads the TLV,
    `ReadGeneralName`'s switch names its type). The state is
    (match, hasAtLeastOneDNSNameOrIPAddressSAN); a match returns from `SearchNames` at once. -/
def searchSubjectAltName (referenceIDType : GeneralNameType) (referenceID : Input)
    (state : MatchResult × Bool) (tag : UInt8) (presentedID : Input) :
    Except Result (ForInStep (MatchResult × Bool)) :=
  match GeneralNameType.ofTag tag with
  | none => .error .errorBadDer
  | some presentedIDType =>
    let hasAtLeastOneDNSNameOrIPAddressSAN :=
      state.2 || decide (presentedIDType = .dNSName) || decide (presentedIDType = .iPAddress)
    if referenceIDType = .nameConstraints then
      match checkPresentedIDConformsToConstraints presentedIDType presentedID referenceID with
      | .error e => .error e
      | .ok () => .ok (.yield (state.1, hasAtLeastOneDNSNameOrIPAddressSAN))
    else if presentedIDType = referenceIDType then
      match matchPresentedIDWithReferenceID presentedIDType presentedID referenceID with
      | .error e => .error e
      | .ok true => .ok (.done (.match, state.2))
      | .ok false => .ok (.yield (.mismatch, hasAtLeastOneDNSNameOrIPAddressSAN))
    else .ok (.yield (state.1, hasAtLeastOneDNSNameOrIPAddressSAN))

/-- The `if (subjectAltName)` block of `SearchNames`: the extension value is one SEQUENCE of
    GeneralNames, walked with the `do`-`while` loop (so it must not be empty). -/
def searchSubjectAltNames (subjectAltName : Option Input) (referenceIDType : GeneralNameType)
    (referenceID : Input) : Except Result (ForInStep (MatchResult × Bool)) :=
  match subjectAltName with
  | none => .ok (.yield (.noNamesOfGivenType, false))
  | some subjectAltName =>
    match Der.expectTagAndGetValueAtEnd subjectAltName Der.sequence with
    | .error e => .error e
    | .ok altNames =>
      Der.forEachTLV (searchSubjectAltName referenceIDType referenceID)
        (.noNamesOfGivenType, false) altNames

/-- `SearchNames`: the subjectAltName entries; in name-constraint mode the subject as a
    directoryName; then the commonName fallback, unless a dNSName or iPAddress entry was seen or
    the caller said no. -/
def searchNames (subjectAltName : Option Input) (subject : Input)
    (referenceIDType : GeneralNameType) (referenceID : Input)
    (fallBackToCommonName : FallBackToCommonName) : Except Result MatchResult :=
  match searchSubjectAltNames subjectAltName referenceIDType referenceID with
  | .error e => .error e
  | .ok (.done (m, _)) => .ok m
  | .ok (.yield (m, hasAtLeastOneDNSNameOrIPAddressSAN)) =>
    match (if referenceIDType = .nameConstraints then
        checkPresentedIDConformsToConstraints .directoryName subject referenceID
      else .ok ()) with
    | .error e => .error e
    | .ok () =>
      if hasAtLeastOneDNSNameOrIPAddressSAN = true ∨ fallBackToCommonName ≠ .yes then .ok m
      else searchSubject (matchCommonNameID referenceIDType referenceID) m subject

/-! ## 4. Only the last commonName counts -/

section WalkMap

variable {σ τ : Type} (f : σ → τ) {act : UInt8 → Input → Except Result σ}
  {act' : UInt8 → Input → Except Result τ}

theorem searchWithinAVA_map (h : ∀ tag value, act' tag value = (act tag value).map f) (s : σ)
    (rdn : Input) :
    searchWithinAVA act' (f s) rdn = (searchWithinAVA act s rdn).map fun p => (f p.1, p.2) := by
  unfold searchWithinAVA
  split
  · rfl
  · split
    · rfl
    · split
      · rfl
      · rename_i tag value rest _
        rw [h]
        cases act tag value <;> rfl

theorem searchAVA_map (h : ∀ tag value, act' tag value = (act tag value).map f) (s : σ)
    (tag : UInt8) (ava : Input) :
    searchAVA act' (f s) tag ava = (searchAVA act s tag ava).map (Der.mapStep f) := by
  unfold searchAVA
  split
  · rfl
  · rw [searchWithinAVA_map f h]
    cases searchWithinAVA act s ava with
    | error e => rfl
    | ok p =>
      obtain ⟨s', rest⟩ := p
      by_cases hr : rest = [] <;> simp [hr, Except.map, Der.mapStep]

theorem searchWithinRDN_map (h : ∀ tag value, act' tag value = (act tag value).map f) (s : σ)
    (rdn : Input) : searchWithinRDN act' (f s) rdn = (searchWithinRDN act s rdn).map f := by
  unfold searchWithinRDN
  rw [Der.forEachTLV_map f _ _ (searchAVA_map f h)]
  cases Der.forEachTLV (searchAVA act) s rdn with
  | error e => rfl
  | ok r => cases r <;> rfl

theorem searchRDN_map (h : ∀ tag value, act' tag value = (act tag value).map f) (s : σ)
    (tag : UInt8) (rdn : Input) :
    searchRDN act' (f s) tag rdn = (searchRDN act s tag rdn).map (Der.mapStep f) := by
  unfold searchRDN
  split
  · rfl
  · rw [searchWithinRDN_map f h]
    cases searchWithinRDN act s rdn <;> rfl

/-- The fallback's walk with the state seen through `f`. -/
theorem searchSubject_map (h : ∀ tag value, act' tag value = (act tag value).map f) (s : σ)
    (subject : Input) : searchSubject act' (f s) subject = (searchSubject act s subject).map f := by
  unfold searchSubject
  split
  · rfl
  · split
    · rfl
    · rw [Der.forEachTLV_map f _ _ (searchRDN_map f h)]
      cases Der.forEachTLV (searchRDN act) s _ with
      | error e => rfl
      | ok r => cases r <;> rfl

end WalkMap

/-- **Only the last commonName counts.** A fallback walk whose commonName action never fails ends
    in what the action makes of the last commonName's value, or in the state it started from when
    the subject has none. -/
theorem searchSubject_eq_lastCommonNameID {σ : Type} {act : UInt8 → Input → Except Result σ}
    (hact : ∀ tag value, ∃ s, act tag value = .ok s) (s : σ) (subject : Input) :
    searchSubject act s subject =
      (lastCommonNameID subject).bind fun c => match c with
        | none => .ok s
        | some (tag, value) => act tag value := by
  let f : Option (UInt8 × Input) → σ := fun c => match c with
    | none => s
    | some (tag, value) => Classical.choose (hact tag value)
  have hf : ∀ tag value, act tag value = (Except.ok (some (tag, value))).map f :=
    fun tag value => Classical.choose_spec (hact tag value)
  rw [show s = f none from rfl, searchSubject_map f hf none subject, lastCommonNameID]
  cases searchSubject _ none subject with
  | error e => rfl
  | ok c =>
    rcases c with _ | ⟨tag, value⟩
    · rfl
    · exact (hf tag value).symm

/-! ## 5. What a commonName's value does -/

/-- PrintableString, UTF8String or TeletexString: the value types the fallback reads. -/
def IsCommonNameStringTag (tag : UInt8) : Prop :=
  tag = Der.printableString ∨ tag = Der.utf8String ∨ tag = Der.teletexString

/-- The identifier of type `T` a commonName value stands for: the value itself as a DNS-ID, or
    the address it spells as an IPv4 address (the same tests, in the same order, as
    `matchCommonNameID`). -/
def CommonNameStandsFor (tag : UInt8) (value : Input) (T : GeneralNameType) (v : Input) : Prop :=
  IsCommonNameStringTag tag ∧
    ((T = .dNSName ∧ isValidPresentedDNSID value = true ∧ v = value) ∨
      (T = .iPAddress ∧ isValidPresentedDNSID value = false ∧ parseIPv4Address value = some v))

section CommonName

variable {referenceIDType : GeneralNameType} {referenceID : Input} {tag : UInt8} {value : Input}

theorem not_isCommonNameStringTag : ¬IsCommonNameStringTag tag ↔
    tag ≠ Der.printableString ∧ tag ≠ Der.utf8String ∧ tag ≠ Der.teletexString := by
  simp only [IsCommonNameStringTag, not_or, ne_eq]

theorem matchCommonNameID_ok : ∃ m, matchCommonNameID referenceIDType referenceID tag value = .ok m := by
  simp only [matchCommonNameID, matchPresentedIDWithReferenceID]
  repeat' split
  all_goals exact ⟨_, rfl⟩

/-- In a search for a DNS-ID, a commonName matches when it is a valid presented DNS-ID of a
    string type that matches the reference ID. -/
theorem matchCommonNameID_dNSName :
    matchCommonNameID .dNSName referenceID tag value = .ok .match ↔
      IsCommonNameStringTag tag ∧ isValidPresentedDNSID value = true ∧
        presentedDNSIDMatchesReferenceDNSID value .referenceID referenceID = true := by
  unfold matchCommonNameID
  by_cases ht : IsCommonNameStringTag tag
  · rw [if_neg fun h => not_isCommonNameStringTag.mpr h ht]
    cases isValidPresentedDNSID value
    · cases parseIPv4Address value <;> simp [ht]
    · cases presentedDNSIDMatchesReferenceDNSID value .referenceID referenceID <;> simp [ht]
  · rw [if_pos (not_isCommonNameStringTag.mp ht)]
    simp [ht]

/-- In a search for an IP address, a commonName matches when it is an IPv4 literal of a string
    type, not a valid DNS-ID, for the reference address. -/
theorem matchCommonNameID_iPAddress :
    matchCommonNameID .iPAddress referenceID tag value = .ok .match ↔
      IsCommonNameStringTag tag ∧ isValidPresentedDNSID value = false ∧
        parseIPv4Address value = some referenceID := by
  unfold matchCommonNameID
  by_cases ht : IsCommonNameStringTag tag
  · rw [if_neg fun h => not_isCommonNameStringTag.mpr h ht]
    cases isValidPresentedDNSID value
    · cases parseIPv4Address value with
      | none => simp [ht]
      | some a =>
        by_cases ha : a = referenceID <;> simp [ht, ha, matchPresentedIDWithReferenceID]
    · simp [ht]
  · rw [if_pos (not_isCommonNameStringTag.mp ht)]
    simp [ht]

/-- In name-constraint mode, a commonName that is not a mismatch conforms to the constraints as
    the identifier it stands for. -/
theorem matchCommonNameID_nameConstraints {r : MatchResult}
    (h : matchCommonNameID .nameConstraints referenceID tag value = .ok r) (hr : r ≠ .mismatch)
    (ht : IsCommonNameStringTag tag) :
    (isValidPresentedDNSID value = true →
      checkPresentedIDConformsToConstraints .dNSName value referenceID = .ok ()) ∧
    (isValidPresentedDNSID value = false → ∀ a, parseIPv4Address value = some a →
      checkPresentedIDConformsToConstraints .iPAddress a referenceID = .ok ()) := by
  unfold matchCommonNameID at h
  rw [if_neg fun h => not_isCommonNameStringTag.mpr h ht] at h
  refine ⟨fun hv => ?_, fun hv a ha => ?_⟩
  · simp only [hv, ↓reduceIte] at h
    split at h
    · assumption
    · cases h
      exact absurd rfl hr
  · simp only [hv, Bool.false_eq_true, ↓reduceIte, ha] at h
    split at h
    · assumption
    · cases h
      exact absurd rfl hr

/-- **One commonName, two searches**: a commonName that matches a reference ID of type dNSName
    or iPAddress, and in which a name-constraint search found no mismatch, stands for an
    identifier that matches and conforms. -/
theorem matchCommonNameID_conforms {T : GeneralNameType} {constraints : Input} {r : MatchResult}
    (hT : T = .dNSName ∨ T = .iPAddress)
    (h : matchCommonNameID T referenceID tag value = .ok .match)
    (hnc : matchCommonNameID .nameConstraints constraints tag value = .ok r) (hr : r ≠ .mismatch) :
    ∃ v, CommonNameStandsFor tag value T v ∧
      matchPresentedIDWithReferenceID T v referenceID = .ok true ∧
      checkPresentedIDConformsToConstraints T v constraints = .ok () := by
  rcases hT with rfl | rfl
  · obtain ⟨ht, hv, hm⟩ := matchCommonNameID_dNSName.mp h
    exact ⟨value, ⟨ht, .inl ⟨rfl, hv, rfl⟩⟩, by rw [matchPresentedIDWithReferenceID, hm],
      (matchCommonNameID_nameConstraints hnc hr ht).1 hv⟩
  · obtain ⟨ht, hv, ha⟩ := matchCommonNameID_iPAddress.mp h
    exact ⟨referenceID, ⟨ht, .inr ⟨rfl, hv, ha⟩⟩, by simp [matchPresentedIDWithReferenceID],
      (matchCommonNameID_nameConstraints hnc hr ht).2 hv _ ha⟩

end CommonName

/-! ## 6. The subjectAltName loop -/

section SubjectAltName

variable {referenceIDType : GeneralNameType} {referenceID : Input}

/-- What one round of the subjectAltName loop can do: in name-constraint mode check the entry
    and go on; otherwise match an entry of the reference type, leaving at a match. -/
theorem searchSubjectAltName_eq_ok {st : MatchResult × Bool} {tag : UInt8} {v : Input}
    {r : ForInStep (MatchResult × Bool)} :
    searchSubjectAltName referenceIDType referenceID st tag v = .ok r ↔
      ∃ t, GeneralNameType.ofTag tag = some t ∧
        ((referenceIDType = .nameConstraints ∧
            checkPresentedIDConformsToConstraints t v referenceID = .ok () ∧
            r = .yield (st.1, st.2 || decide (t = .dNSName) || decide (t = .iPAddress))) ∨
         (referenceIDType ≠ .nameConstraints ∧ t = referenceIDType ∧
            matchPresentedIDWithReferenceID t v referenceID = .ok true ∧ r = .done (.match, st.2)) ∨
         (referenceIDType ≠ .nameConstraints ∧ t = referenceIDType ∧
            matchPresentedIDWithReferenceID t v referenceID = .ok false ∧
            r = .yield (.mismatch, st.2 || decide (t = .dNSName) || decide (t = .iPAddress))) ∨
         (referenceIDType ≠ .nameConstraints ∧ t ≠ referenceIDType ∧
            r = .yield (st.1, st.2 || decide (t = .dNSName) || decide (t = .iPAddress)))) := by
  unfold searchSubjectAltName
  cases hof : GeneralNameType.ofTag tag with
  | none => simp
  | some t =>
    simp only [Option.some.injEq, exists_eq_left']
    by_cases hnc : referenceIDType = .nameConstraints
    · subst hnc
      cases checkPresentedIDConformsToConstraints t v referenceID <;>
        simp [Except.ok.injEq, eq_comm]
    · by_cases ht : t = referenceIDType
      · subst ht
        cases matchPresentedIDWithReferenceID t v referenceID with
        | error e => simp [hnc]
        | ok b => cases b <;> simp [hnc, eq_comm]
      · simp [hnc, ht, eq_comm]

/-- A round that goes on: the flag records a dNSName or iPAddress entry; in name-constraint mode
    the match is untouched, and no round that goes on sets it to a match. -/
theorem searchSubjectAltName_yield {st st' : MatchResult × Bool} {tag : UInt8} {v : Input}
    (h : searchSubjectAltName referenceIDType referenceID st tag v = .ok (.yield st')) :
    ∃ t, GeneralNameType.ofTag tag = some t ∧
      st'.2 = (st.2 || decide (t = .dNSName) || decide (t = .iPAddress)) ∧
      (referenceIDType = .nameConstraints → st'.1 = st.1) ∧ (st.1 ≠ .match → st'.1 ≠ .match) := by
  obtain ⟨t, hof, hc⟩ := searchSubjectAltName_eq_ok.mp h
  refine ⟨t, hof, ?_⟩
  rcases hc with ⟨-, -, hr⟩ | ⟨-, -, -, hr⟩ | ⟨hnc, -, -, hr⟩ | ⟨hnc, -, hr⟩ <;> cases hr
  · exact ⟨rfl, fun _ => rfl, id⟩
  · exact ⟨rfl, fun h => absurd h hnc, fun _ => by simp⟩
  · exact ⟨rfl, fun h => absurd h hnc, id⟩

/-- The flag of a round names the entry's tag. -/
theorem ofTag_dNSName_or_iPAddress {tag : UInt8} {t : GeneralNameType}
    (hof : GeneralNameType.ofTag tag = some t) :
    (decide (t = .dNSName) || decide (t = .iPAddress)) = true ↔
      tag = GeneralNameType.dNSName.tag ∨ tag = GeneralNameType.iPAddress.tag := by
  rw [← GeneralNameType.ofTag_eq_iff hof (by decide), ← GeneralNameType.ofTag_eq_iff hof (by decide)]
  simp

/-- **A run of the loop that goes to the end**: the flag says whether a dNSName or iPAddress
    entry was read; in name-constraint mode the match is untouched; no match was found. -/
theorem forEachItem_searchSubjectAltName_yield {items : List (UInt8 × Input)}
    {st st' : MatchResult × Bool}
    (h : Der.forEachItem (searchSubjectAltName referenceIDType referenceID) st items =
      .ok (.yield st')) :
    (st'.2 = true ↔ st.2 = true ∨ ∃ x ∈ items,
      x.1 = GeneralNameType.dNSName.tag ∨ x.1 = GeneralNameType.iPAddress.tag) ∧
      (referenceIDType = .nameConstraints → st'.1 = st.1) ∧ (st.1 ≠ .match → st'.1 ≠ .match) := by
  induction items generalizing st with
  | nil =>
    cases h
    simp
  | cons x items ih =>
    obtain ⟨tag, v⟩ := x
    simp only [Der.forEachItem] at h
    split at h
    · cases h
    · cases h
    · rename_i s'' hb
      obtain ⟨t, hof, h2, hnc, hm⟩ := searchSubjectAltName_yield hb
      obtain ⟨ih1, ih2, ih3⟩ := ih h
      refine ⟨?_, fun h => (ih2 h).trans (hnc h), fun h => ih3 (hm h)⟩
      rw [ih1, h2, Bool.or_assoc, Bool.or_eq_true, ofTag_dNSName_or_iPAddress hof]
      simp only [List.mem_cons, exists_eq_or_imp, or_assoc]

/-- In a run that goes to the end, every entry was a GeneralName, and in name-constraint mode
    every entry conforms. -/
theorem forEachItem_searchSubjectAltName_mem {items : List (UInt8 × Input)}
    {st st' : MatchResult × Bool}
    (h : Der.forEachItem (searchSubjectAltName referenceIDType referenceID) st items =
      .ok (.yield st')) {x : UInt8 × Input} (hx : x ∈ items) :
    ∃ t, GeneralNameType.ofTag x.1 = some t ∧ (referenceIDType = .nameConstraints →
      checkPresentedIDConformsToConstraints t x.2 referenceID = .ok ()) := by
  obtain ⟨_, _, hb⟩ := Der.forEachItem_yield h x hx
  obtain ⟨t, hof, hc⟩ := searchSubjectAltName_eq_ok.mp hb
  refine ⟨t, hof, fun hnc => ?_⟩
  rcases hc with ⟨-, hc, -⟩ | ⟨h', -⟩ | ⟨h', -⟩ | ⟨h', -⟩
  · exact hc
  all_goals exact absurd hnc h'

/-- A run that leaves early found an entry of the reference type that matches. -/
theorem forEachItem_searchSubjectAltName_done {items : List (UInt8 × Input)}
    {st st' : MatchResult × Bool}
    (h : Der.forEachItem (searchSubjectAltName referenceIDType referenceID) st items =
      .ok (.done st')) :
    st'.1 = .match ∧ referenceIDType ≠ .nameConstraints ∧ ∃ x ∈ items,
      GeneralNameType.ofTag x.1 = some referenceIDType ∧
        matchPresentedIDWithReferenceID referenceIDType x.2 referenceID = .ok true := by
  obtain ⟨x, hx, _, hb⟩ := Der.forEachItem_done h
  obtain ⟨t, hof, hc⟩ := searchSubjectAltName_eq_ok.mp hb
  rcases hc with ⟨-, -, hr⟩ | ⟨hnc, rfl, hm, hr⟩ | ⟨-, -, -, hr⟩ | ⟨-, -, hr⟩ <;> cases hr
  exact ⟨rfl, hnc, x, hx, hof, hm⟩

/-- A walk of a subjectAltName extension value read a SEQUENCE whose entries it walked (all of
    them, unless it left early). -/
theorem searchSubjectAltNames_some {san : Input} {r : ForInStep (MatchResult × Bool)}
    (h : searchSubjectAltNames (some san) referenceIDType referenceID = .ok r) :
    ∃ items rest, (∀ x ∈ items, Der.Encodable x.1 x.2) ∧
      Der.expectTagAndGetValueAtEnd san Der.sequence = .ok (Der.encodeAll items ++ rest) ∧
      Der.forEachItem (searchSubjectAltName referenceIDType referenceID)
        (.noNamesOfGivenType, false) items = .ok r ∧ (∀ s, r = .yield s → rest = []) := by
  simp only [searchSubjectAltNames] at h
  split at h
  · cases h
  · rename_i altNames hs
    obtain ⟨items, rest, -, henc, rfl, hf, hy⟩ := Der.forEachTLV_eq_ok _ h
    exact ⟨items, rest, henc, hs, hf, hy⟩

/-- A walk of the subjectAltName that goes to the end found no match; in name-constraint mode
    its match is still `NoNamesOfGivenType`. -/
theorem searchSubjectAltNames_yield {subjectAltName : Option Input} {st : MatchResult × Bool}
    (h : searchSubjectAltNames subjectAltName referenceIDType referenceID = .ok (.yield st)) :
    st.1 ≠ .match ∧ (referenceIDType = .nameConstraints → st.1 = .noNamesOfGivenType) := by
  cases subjectAltName with
  | none =>
    simp only [searchSubjectAltNames, Except.ok.injEq, Der.forInStep_yield_inj] at h
    subst h
    exact ⟨by decide, fun _ => rfl⟩
  | some san =>
    obtain ⟨_, _, -, -, hf, -⟩ := searchSubjectAltNames_some h
    obtain ⟨-, hnc, hm⟩ := forEachItem_searchSubjectAltName_yield hf
    exact ⟨hm (by decide), hnc⟩

/-- **The flag depends on the entries only**: two walks of one subjectAltName that go to the
    end, whatever they look for, agree on whether it has a dNSName or iPAddress entry. -/
theorem searchSubjectAltNames_yield_flag {subjectAltName : Option Input}
    {referenceIDType' : GeneralNameType} {referenceID' : Input} {st st' : MatchResult × Bool}
    (h : searchSubjectAltNames subjectAltName referenceIDType referenceID = .ok (.yield st))
    (h' : searchSubjectAltNames subjectAltName referenceIDType' referenceID' = .ok (.yield st')) :
    st.2 = st'.2 := by
  cases subjectAltName with
  | none =>
    simp only [searchSubjectAltNames, Except.ok.injEq, Der.forInStep_yield_inj] at h h'
    rw [← h, ← h']
  | some san =>
    obtain ⟨items, rest, henc, hs, hf, hy⟩ := searchSubjectAltNames_some h
    obtain ⟨items', rest', henc', hs', hf', hy'⟩ := searchSubjectAltNames_some h'
    obtain rfl := hy _ rfl
    obtain rfl := hy' _ rfl
    rw [hs, Except.ok.injEq, List.append_nil, List.append_nil] at hs'
    obtain rfl := Der.encodeAll_inj henc henc' hs'
    rw [Bool.eq_iff_iff, (forEachItem_searchSubjectAltName_yield hf).1,
      (forEachItem_searchSubjectAltName_yield hf').1]

end SubjectAltName

/-! ## 7. `SearchNames` -/

section SearchNames

variable {subjectAltName : Option Input} {subject : Input} {referenceIDType : GeneralNameType}
  {referenceID : Input} {fallBackToCommonName : FallBackToCommonName}

/-- What `SearchNames` can do: answer from a match among the subjectAltName entries, or walk them
    all, check the subject in name-constraint mode, and consult the commonName when allowed. -/
theorem searchNames_eq_ok {m : MatchResult} :
    searchNames subjectAltName subject referenceIDType referenceID fallBackToCommonName = .ok m ↔
      (∃ b, searchSubjectAltNames subjectAltName referenceIDType referenceID =
        .ok (.done (m, b))) ∨
      ∃ m₀ has, searchSubjectAltNames subjectAltName referenceIDType referenceID =
          .ok (.yield (m₀, has)) ∧
        (referenceIDType = .nameConstraints →
          checkPresentedIDConformsToConstraints .directoryName subject referenceID = .ok ()) ∧
        ((has = true ∨ fallBackToCommonName ≠ .yes) ∧ m = m₀ ∨
          has = false ∧ fallBackToCommonName = .yes ∧
            searchSubject (matchCommonNameID referenceIDType referenceID) m₀ subject = .ok m) := by
  unfold searchNames
  rcases searchSubjectAltNames subjectAltName referenceIDType referenceID with
    e | ⟨m', b⟩ | ⟨m₀, has⟩
  · simp
  · simp [eq_comm]
  · simp only [Except.ok.injEq, Der.forInStep_yield_inj, Prod.mk.injEq, reduceCtorEq,
      exists_false, false_or, exists_and_left, exists_eq_left', exists_eq_left, true_and]
    by_cases hnc : referenceIDType = .nameConstraints
    · cases hc : checkPresentedIDConformsToConstraints .directoryName subject referenceID with
      | error e => simp [hnc, hc]
      | ok u => cases has <;> cases fallBackToCommonName <;> simp [hnc, hc, eq_comm]
    · cases has <;> cases fallBackToCommonName <;> simp [hnc, eq_comm]

/-- `v` is an entry of type `T` of the subjectAltName: the extension value is one SEQUENCE whose
    contents begin with TLVs, `(T.tag, v)` among them. -/
def IsSubjectAltNameEntry (subjectAltName : Option Input) (T : GeneralNameType) (v : Input) :
    Prop :=
  ∃ items rest, subjectAltName = some (Der.tlv Der.sequence (Der.encodeAll items ++ rest)) ∧
    Der.Encodable Der.sequence (Der.encodeAll items ++ rest) ∧
    (∀ x ∈ items, Der.Encodable x.1 x.2) ∧ (T.tag, v) ∈ items

/-- The identifier of type `T` that the common-name fallback selects from the subject: what its
    last commonName stands for. -/
def SelectedCommonNameID (subject : Input) (T : GeneralNameType) (v : Input) : Prop :=
  ∃ tag w, lastCommonNameID subject = .ok (some (tag, w)) ∧ CommonNameStandsFor tag w T v

/-- **Where a match comes from**: a subjectAltName entry of the reference type that matches,
    or, when the subjectAltName has no dNSName or iPAddress entry and the caller allows the
    fallback, the last commonName. -/
theorem searchNames_match
    (h : searchNames subjectAltName subject referenceIDType referenceID fallBackToCommonName =
      .ok .match) :
    (∃ v, IsSubjectAltNameEntry subjectAltName referenceIDType v ∧
        matchPresentedIDWithReferenceID referenceIDType v referenceID = .ok true) ∨
      (∃ m₀, searchSubjectAltNames subjectAltName referenceIDType referenceID =
          .ok (.yield (m₀, false))) ∧ fallBackToCommonName = .yes ∧
        ∃ tag w, lastCommonNameID subject = .ok (some (tag, w)) ∧
          matchCommonNameID referenceIDType referenceID tag w = .ok .match := by
  rcases searchNames_eq_ok.mp h with ⟨b, hs⟩ | ⟨m₀, has, hs, -, ⟨-, hm⟩ | ⟨rfl, hF, hw⟩⟩
  · left
    cases subjectAltName with
    | none => simp [searchSubjectAltNames] at hs
    | some san =>
      obtain ⟨items, rest, henc, hexp, hf, -⟩ := searchSubjectAltNames_some hs
      obtain ⟨-, -, ⟨tag, v⟩, hx, hof, hmatch⟩ := forEachItem_searchSubjectAltName_done hf
      obtain ⟨hseq, rfl⟩ := Der.expectTagAndGetValueAtEnd_eq_ok.mp hexp
      refine ⟨v, ⟨items, rest, rfl, hseq, henc, ?_⟩, hmatch⟩
      rwa [GeneralNameType.tag_of_ofTag hof]
  · exact absurd hm.symm (searchSubjectAltNames_yield hs).1
  · refine .inr ⟨⟨m₀, hs⟩, hF, ?_⟩
    rw [searchSubject_eq_lastCommonNameID (fun _ _ => matchCommonNameID_ok)] at hw
    rcases hl : lastCommonNameID subject with e | _ | ⟨tag, w⟩ <;>
      simp only [hl, Except.bind, Except.ok.injEq, reduceCtorEq] at hw
    · exact absurd hw (searchSubjectAltNames_yield hs).1
    · exact ⟨tag, w, rfl, hw⟩

/-- **What a name-constraint search checked**: every subjectAltName entry conforms, the subject
    conforms as a directoryName, and when the subjectAltName has no dNSName or iPAddress entry
    the last commonName gave the answer. -/
theorem searchNames_nameConstraints {r : MatchResult}
    (h : searchNames subjectAltName subject .nameConstraints referenceID .yes = .ok r) :
    (∀ T v, T ≠ .nameConstraints → IsSubjectAltNameEntry subjectAltName T v →
        checkPresentedIDConformsToConstraints T v referenceID = .ok ()) ∧
      checkPresentedIDConformsToConstraints .directoryName subject referenceID = .ok () ∧
      ∃ has, searchSubjectAltNames subjectAltName .nameConstraints referenceID =
          .ok (.yield (.noNamesOfGivenType, has)) ∧
        (has = false → ∀ tag w, lastCommonNameID subject = .ok (some (tag, w)) →
          matchCommonNameID .nameConstraints referenceID tag w = .ok r) := by
  rcases searchNames_eq_ok.mp h with ⟨b, hs⟩ | ⟨m₀, has, hs, hdir, hcn⟩
  · cases subjectAltName with
    | none => simp [searchSubjectAltNames] at hs
    | some san =>
      obtain ⟨_, _, -, -, hf, -⟩ := searchSubjectAltNames_some hs
      exact absurd rfl (forEachItem_searchSubjectAltName_done hf).2.1
  obtain rfl := (searchSubjectAltNames_yield hs).2 rfl
  refine ⟨fun T v hT hv => ?_, hdir rfl, has, hs, fun hno tag w hl => ?_⟩
  · obtain ⟨items, rest, rfl, hseq, henc, hmem⟩ := hv
    obtain ⟨items', rest', henc', hexp, hf, hy⟩ := searchSubjectAltNames_some hs
    obtain rfl := hy _ rfl
    rw [Der.expectTagAndGetValueAtEnd_eq_ok.mpr ⟨hseq, rfl⟩, Except.ok.injEq, List.append_nil] at hexp
    have hp := Der.encodeAll_prefix_of_eq henc henc' hexp
    obtain ⟨t, hof, hc⟩ := forEachItem_searchSubjectAltName_mem hf (hp.subset hmem)
    obtain rfl := Option.some.inj (hof.symm.trans (GeneralNameType.ofTag_tag_of_ne hT))
    exact hc rfl
  · rcases hcn with ⟨hh, -⟩ | ⟨-, -, hw⟩
    · simp [hno] at hh
    · rw [searchSubject_eq_lastCommonNameID (fun _ _ => matchCommonNameID_ok)] at hw
      simpa only [hl, Except.bind] using hw

/-- A name-constraint search that answers, with or without the fallback, checked the subject as
    a directoryName. -/
theorem searchNames_nameConstraints_subject {r : MatchResult}
    (h : searchNames subjectAltName subject .nameConstraints referenceID fallBackToCommonName =
      .ok r) :
    checkPresentedIDConformsToConstraints .directoryName subject referenceID = .ok () := by
  rcases searchNames_eq_ok.mp h with ⟨b, hs⟩ | ⟨m₀, has, hs, hdir, -⟩
  · cases subjectAltName with
    | none => simp [searchSubjectAltNames] at hs
    | some san =>
      obtain ⟨_, _, -, -, hf, -⟩ := searchSubjectAltNames_some hs
      exact absurd rfl (forEachItem_searchSubjectAltName_done hf).2.1
  · exact hdir rfl

/-- **Identity search and constraint enforcement agree**: when a search for a reference ID of
    type dNSName or iPAddress finds a match, and a name-constraint search of the same names with
    the fallback finds no mismatch, the match was made in a subjectAltName entry, or in the
    commonName the fallback selects, that matches the reference ID and conforms to the
    constraints. -/
theorem searchNames_agree {T : GeneralNameType} {R NC : Input} {r : MatchResult}
    (hT : T = .dNSName ∨ T = .iPAddress)
    (h : searchNames subjectAltName subject T R fallBackToCommonName = .ok .match)
    (hnc : searchNames subjectAltName subject .nameConstraints NC .yes = .ok r)
    (hr : r ≠ .mismatch) :
    ∃ v, (IsSubjectAltNameEntry subjectAltName T v ∨ SelectedCommonNameID subject T v) ∧
      matchPresentedIDWithReferenceID T v R = .ok true ∧
      checkPresentedIDConformsToConstraints T v NC = .ok () := by
  have hT' : T ≠ .nameConstraints := by rcases hT with rfl | rfl <;> decide
  obtain ⟨hsan, -, has, hs', hcn⟩ := searchNames_nameConstraints hnc
  rcases searchNames_match h with ⟨v, hv, hm⟩ | ⟨⟨m₀, hs⟩, -, tag, w, hl, hw⟩
  · exact ⟨v, .inl hv, hm, hsan T v hT' hv⟩
  · obtain ⟨v, hst, hm, hc⟩ := matchCommonNameID_conforms hT hw
      (hcn (searchSubjectAltNames_yield_flag hs' hs) tag w hl) hr
    exact ⟨v, .inr ⟨tag, w, hl, hst⟩, hm, hc⟩

/-- A certificate whose one subjectAltName entry is the dNSName "a", searched for "a" and under
    constraints that permit "a". -/
theorem searchNames_agree_dNSName :
    (searchNames (some [0x30, 3, 0x82, 1, 97]) [0x30, 0] .dNSName [97] .yes = .ok .match ∧
      searchNames (some [0x30, 3, 0x82, 1, 97]) [0x30, 0] .nameConstraints
        [0x30, 7, 0xa0, 5, 0x30, 3, 0x82, 1, 97] .yes = .ok .noNamesOfGivenType) ∧
    ∃ v, (IsSubjectAltNameEntry (some [0x30, 3, 0x82, 1, 97]) .dNSName v ∨
        SelectedCommonNameID [0x30, 0] .dNSName v) ∧
      matchPresentedIDWithReferenceID .dNSName v [97] = .ok true ∧
      checkPresentedIDConformsToConstraints .dNSName v [0x30, 7, 0xa0, 5, 0x30, 3, 0x82, 1, 97] =
        .ok () := by
  have hexp : Der.expectTagAndGetValueAtEnd [0x30, 3, 0x82, 1, 97] Der.sequence =
      .ok [0x82, 1, 97] := rfl
  have hr : Der.readTagAndGetValue [0x82, 1, 97] = .ok (0x82, [97], []) := rfl
  have hof : GeneralNameType.ofTag 0x82 = some .dNSName := rfl
  let nc : NameConstraints := ⟨some [(.dNSName, [97])], none, .inl (by simp),
    by rintro _ ⟨⟩; exact ⟨by simp, by decide, by decide⟩, by simp, by decide⟩
  have h1 : checkPresentedIDConformsToConstraints .dNSName [97]
      [0x30, 7, 0xa0, 5, 0x30, 3, 0x82, 1, 97] = .ok () :=
    (checkPresentedIDConformsToConstraints_encode (Or.inl rfl) nc).mpr
      ⟨⟨by simp [nc, basesOfType, BaseWellFormed]; decide, .inr ⟨[97], by simp [nc, basesOfType],
        show presentedDNSIDMatchesReferenceDNSID [97] .nameConstraint [97] = true by decide⟩⟩,
        by simp [nc, basesOfType, ExcludedConform]⟩
  have h2 : checkPresentedIDConformsToConstraints .directoryName [0x30, 0]
      [0x30, 7, 0xa0, 5, 0x30, 3, 0x82, 1, 97] = .ok () :=
    (checkPresentedIDConformsToConstraints_encode (Or.inr (Or.inr rfl)) nc).mpr
      ⟨⟨by simp [nc, basesOfType], .inl (by simp [nc, basesOfType])⟩,
        by simp [nc, basesOfType, ExcludedConform]⟩
  have hs : searchNames (some [0x30, 3, 0x82, 1, 97]) [0x30, 0] .dNSName [97] .yes = .ok .match := by
    simp only [searchNames, searchSubjectAltNames, hexp]
    rw [Der.forEachTLV_unfold]
    rfl
  have hnc : searchNames (some [0x30, 3, 0x82, 1, 97]) [0x30, 0] .nameConstraints
      [0x30, 7, 0xa0, 5, 0x30, 3, 0x82, 1, 97] .yes = .ok .noNamesOfGivenType := by
    simp only [searchNames, searchSubjectAltNames, hexp]
    rw [Der.forEachTLV_unfold]
    simp only [searchSubjectAltName, hr, hof, h1, h2, if_true]
    rfl
  exact ⟨⟨hs, hnc⟩, searchNames_agree (Or.inl rfl) hs hnc (by decide)⟩

/-- **A DNS-ID search sees its reference only through reference-ID matching**: two references
    that every presented DNS-ID matches alike give the same search, on every subjectAltName and
    subject, with or without the fallback. -/
theorem searchNames_dNSName_congr {R R' : Input}
    (h : ∀ P, presentedDNSIDMatchesReferenceDNSID P .referenceID R' =
      presentedDNSIDMatchesReferenceDNSID P .referenceID R) :
    searchNames subjectAltName subject .dNSName R' fallBackToCommonName =
      searchNames subjectAltName subject .dNSName R fallBackToCommonName := by
  have hsan : searchSubjectAltName .dNSName R' = searchSubjectAltName .dNSName R := by
    funext state tag P
    unfold searchSubjectAltName
    split
    · rfl
    · rename_i T _
      by_cases hT : T = .dNSName
      · subst hT
        simp only [reduceCtorEq, if_false, if_true, matchPresentedIDWithReferenceID, h]
      · simp only [reduceCtorEq, if_false, hT]
  have hcn : matchCommonNameID .dNSName R' = matchCommonNameID .dNSName R := by
    funext tag P
    simp only [matchCommonNameID, h, reduceCtorEq, if_false, if_true]
  simp only [searchNames, searchSubjectAltNames, hsan, hcn, reduceCtorEq, if_false]

end SearchNames

end PkixNames
