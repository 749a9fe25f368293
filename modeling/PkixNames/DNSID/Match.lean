import PkixNames.DNSID.Valid

/-!
# Matching a presented DNS-ID: `PresentedDNSIDMatchesReferenceDNSID`

`PresentedDNSIDMatchesReferenceDNSID` first checks both names' syntax, then (for a name
constraint longer than nothing and shorter than the presented ID) skips the presented ID's
excess prefix, then runs three loops over the two readers. Here:

* `skipWildcardLabel` (the `do`-`while` over the reference after a presented `*`),
  `compareDNSIDBytes` (the `for (;;)` byte comparison) and `referenceTailMatches` (what may be
  left of the reference), each with one spec lemma, and `matchDNSIDLabels`, the three in order;
* `presentedDNSIDMatchesReferenceDNSID`, the whole function;
* **`presentedDNSIDMatchesReferenceDNSID_referenceID_iff`**: in reference-ID mode the matcher
  is case-insensitive equality with the reference ID minus its trailing dot, where a presented
  `*.S` stands for `x.S` with one non-empty dot-free `x`.
-/

namespace PkixNames

/-! ## 1. The matcher -/

/-- `LocaleInsensitveToLower`: ASCII `A` to `Z` to `a` to `z`, every other byte as it is. -/
def localeInsensitveToLower (a : UInt8) : UInt8 :=
  if 65 ≤ a.toNat ∧ a.toNat ≤ 90 then UInt8.ofNat (a.toNat - 65 + 97) else a

/-- The wildcard loop `do { reference.Read(b) } while (!reference.Peek('.'))`: one byte, then
    every byte up to the next `.`. Returns the rest of the reference. -/
def skipWildcardLabel : Input → Option Input
  | [] => none
  | _ :: reference =>
    if reference.head? = some 46 then some reference else skipWildcardLabel reference

/-- The comparison loop `for (;;)`: byte against byte with ASCII case folded, until the
    presented ID ends, which it must not do on a `.` (absolute presented IDs are not allowed).
    Returns the rest of the reference. -/
def compareDNSIDBytes : Input → Input → Option Input
  | [], _ => none
  | _ :: _, [] => none
  | p :: presented, r :: reference =>
    if localeInsensitveToLower p ≠ localeInsensitveToLower r then none
    else if presented = [] then
      if p.toNat = 46 then none else some reference
    else compareDNSIDBytes presented reference

/-- What may be left of the reference: nothing, or, unless it is a name constraint, the one `.`
    of an absolute reference ID. -/
def referenceTailMatches (referenceDNSIDMatchType : ValidDNSIDMatchType) : Input → Bool
  | [] => true
  | r :: reference =>
    referenceDNSIDMatchType ≠ .nameConstraint ∧ r.toNat = 46 ∧ reference = []

/-- `PresentedDNSIDMatchesReferenceDNSID` from the wildcard check on, the readers standing where
    the name-constraint alignment left them. -/
def matchDNSIDLabels (referenceDNSIDMatchType : ValidDNSIDMatchType) (presented reference : Input) :
    Bool :=
  -- we only allow wildcard labels that consist only of `*`
  let afterWildcard : Option (Input × Input) :=
    match presented with
    | p :: rest =>
      if p.toNat = 42 then (skipWildcardLabel reference).map (rest, ·)
      else some (presented, reference)
    | [] => some ([], reference)
  match afterWildcard with
  | none => false
  | some (presented, reference) =>
    match compareDNSIDBytes presented reference with
    | none => false
    | some reference => referenceTailMatches referenceDNSIDMatchType reference

/-- The `NameConstraint` case of `PresentedDNSIDMatchesReferenceDNSID`'s `switch`: align a
    presented ID longer than the constraint with it, then match the labels. The failed `Skip`
    and `Read` are the source's `assert(false)` branches. -/
def matchNameConstraintDNSID (presentedDNSID referenceDNSID : Input) : Bool :=
  if referenceDNSID.length < presentedDNSID.length then
    -- an empty constraint matches everything
    if referenceDNSID.length = 0 then true
    -- a constraint with a leading dot: compare from that dot on
    else if referenceDNSID.head? = some 46 then
      match Der.skip (presentedDNSID.length - referenceDNSID.length) presentedDNSID with
      | .ok presented => matchDNSIDLabels .nameConstraint presented referenceDNSID
      | .error _ => false
    -- otherwise the skipped prefix must end with a dot
    else
      match Der.skip (presentedDNSID.length - referenceDNSID.length - 1) presentedDNSID with
      | .ok (b :: presented) =>
        if b.toNat ≠ 46 then false
        else matchDNSIDLabels .nameConstraint presented referenceDNSID
      | _ => false
  else matchDNSIDLabels .nameConstraint presentedDNSID referenceDNSID

/-- `PresentedDNSIDMatchesReferenceDNSID`. -/
def presentedDNSIDMatchesReferenceDNSID (presentedDNSID : Input)
    (referenceDNSIDMatchType : ValidDNSIDMatchType) (referenceDNSID : Input) : Bool :=
  if !isValidPresentedDNSID presentedDNSID then false
  else if !isValidDNSID referenceDNSID referenceDNSIDMatchType then false
  else
    match referenceDNSIDMatchType with
    | .referenceID => matchDNSIDLabels .referenceID presentedDNSID referenceDNSID
    | .nameConstraint => matchNameConstraintDNSID presentedDNSID referenceDNSID
    | .presentedID => false

/-! ## 2. Case folding -/

/-- A byte string with ASCII case folded. -/
def lowerBytes (l : Input) : Input := l.map localeInsensitveToLower

@[simp] theorem lowerBytes_nil : lowerBytes [] = [] := rfl

@[simp] theorem lowerBytes_cons (a : UInt8) (l : Input) :
    lowerBytes (a :: l) = localeInsensitveToLower a :: lowerBytes l := rfl

@[simp] theorem lowerBytes_append (l m : Input) :
    lowerBytes (l ++ m) = lowerBytes l ++ lowerBytes m := List.map_append _ _ _

@[simp] theorem length_lowerBytes (l : Input) : (lowerBytes l).length = l.length :=
  List.length_map _ _

/-- Only `.` folds to `.`. -/
@[simp] theorem localeInsensitveToLower_eq_dot {a : UInt8} :
    localeInsensitveToLower a = 46 ↔ a = 46 := by
  unfold localeInsensitveToLower
  split
  · rename_i h
    constructor
    · intro e
      have := congrArg UInt8.toNat e
      rw [byte_toNat_ofNat (by omega)] at this
      exact absurd this (by simp)
    · rintro rfl; simp at h
  · exact Iff.rfl

theorem dot_mem_lowerBytes {l : Input} : (46 : UInt8) ∈ lowerBytes l ↔ (46 : UInt8) ∈ l := by
  simp [lowerBytes]

theorem getLast_lowerBytes_eq_dot {l : Input} :
    (lowerBytes l).getLast? = some 46 ↔ l.getLast? = some 46 := by
  simp [lowerBytes, List.getLast?_map]

theorem getLast_ne_dot_of_lowerBytes_eq {a b : Input} (h : lowerBytes a = lowerBytes b)
    (ha : a.getLast? ≠ some 46) : b.getLast? ≠ some 46 := by
  rwa [ne_eq, ← getLast_lowerBytes_eq_dot, ← h, getLast_lowerBytes_eq_dot]

theorem head_lowerBytes_eq_dot {l : Input} :
    (lowerBytes l).head? = some 46 ↔ l.head? = some 46 := by
  cases l <;> simp

theorem lowerBytes_eq_nil {l : Input} : lowerBytes l = [] ↔ l = [] := List.map_eq_nil_iff

/-- What folding does to the code of a byte. -/
theorem toNat_localeInsensitveToLower (a : UInt8) :
    (localeInsensitveToLower a).toNat =
      if 65 ≤ a.toNat ∧ a.toNat ≤ 90 then a.toNat + 32 else a.toNat := by
  unfold localeInsensitveToLower
  split
  · rw [byte_toNat_ofNat (by omega)]
    omega
  · rfl

/-- A byte that is no capital letter folds to itself. -/
theorem localeInsensitveToLower_of_toNat {a : UInt8} (h : a.toNat < 65 ∨ 90 < a.toNat) :
    localeInsensitveToLower a = a := by
  unfold localeInsensitveToLower
  rw [if_neg (by omega)]

@[simp] theorem localeInsensitveToLower_idem (a : UInt8) :
    localeInsensitveToLower (localeInsensitveToLower a) = localeInsensitveToLower a :=
  localeInsensitveToLower_of_toNat (by rw [toNat_localeInsensitveToLower]; split <;> omega)

@[simp] theorem lowerBytes_lowerBytes (l : Input) : lowerBytes (lowerBytes l) = lowerBytes l := by
  simp [lowerBytes, Function.comp_def]

/-- Folding changes no byte that is not a letter into one, nor a letter into one that is not. -/
theorem toNat_localeInsensitveToLower_eq {a : UInt8} {c : Nat}
    (hc : c < 65 ∨ (90 < c ∧ c < 97) ∨ 122 < c) :
    (localeInsensitveToLower a).toNat = c ↔ a.toNat = c := by
  rw [toNat_localeInsensitveToLower]
  split <;> omega

/-- A byte that is no letter is the fold of itself only. -/
theorem localeInsensitveToLower_eq_iff {a b : UInt8}
    (hb : b.toNat < 65 ∨ (90 < b.toNat ∧ b.toNat < 97) ∨ 122 < b.toNat) :
    localeInsensitveToLower a = b ↔ a = b := by
  rw [byte_eq_iff_toNat, byte_eq_iff_toNat, toNat_localeInsensitveToLower_eq hb]

theorem head_lowerBytes_eq {l : Input} {b : UInt8}
    (hb : b.toNat < 65 ∨ (90 < b.toNat ∧ b.toNat < 97) ∨ 122 < b.toNat) :
    (lowerBytes l).head? = some b ↔ l.head? = some b := by
  cases l <;> simp [localeInsensitveToLower_eq_iff hb]

@[simp] theorem isDigitByte_localeInsensitveToLower (a : UInt8) :
    isDigitByte (localeInsensitveToLower a) = isDigitByte a := by
  rw [Bool.eq_iff_iff]
  simp only [isDigitByte, Bool.and_eq_true, decide_eq_true_eq, toNat_localeInsensitveToLower]
  split <;> omega

@[simp] theorem isLetterByte_localeInsensitveToLower (a : UInt8) :
    isLetterByte (localeInsensitveToLower a) = isLetterByte a := by
  rw [Bool.eq_iff_iff]
  simp only [isLetterByte, Bool.or_eq_true, Bool.and_eq_true, decide_eq_true_eq,
    toNat_localeInsensitveToLower]
  split <;> omega

/-! ### The validator does not see case -/

section Validator

variable {matchType : ValidDNSIDMatchType}

/-- One step of the label loop classifies a byte by what folding keeps: hyphen, digit, letter,
    dot. -/
@[simp] theorem scanDNSIDByte_localeInsensitveToLower {s : DNSIDScan} (b : UInt8) :
    scanDNSIDByte matchType s (localeInsensitveToLower b) = scanDNSIDByte matchType s b := by
  simp only [scanDNSIDByte, isDigitByte_localeInsensitveToLower,
    isLetterByte_localeInsensitveToLower, toNat_localeInsensitveToLower_eq (c := 45) (by omega),
    toNat_localeInsensitveToLower_eq (c := 46) (by omega)]

@[simp] theorem scanDNSIDLabels_lowerBytes (s : DNSIDScan) (l : Input) :
    scanDNSIDLabels matchType s (lowerBytes l) = scanDNSIDLabels matchType s l := by
  induction l generalizing s with
  | nil => rfl
  | cons b l ih =>
    rw [lowerBytes_cons, scanDNSIDLabels, scanDNSIDLabels, scanDNSIDByte_localeInsensitveToLower]
    simp only [ih]

/-- The checks after the label loop read the hostname only for `StartsWithIDNALabel`, and only
    after a wildcard. -/
theorem isValidDNSIDLabels_lowerBytes {isWildcard : Bool} {hostname hostname' l : Input}
    (h : isWildcard = true → startsWithIDNALabel hostname' = startsWithIDNALabel hostname) :
    isValidDNSIDLabels matchType isWildcard hostname' (lowerBytes l) =
      isValidDNSIDLabels matchType isWildcard hostname l := by
  unfold isValidDNSIDLabels
  cases isWildcard <;> simp [h, lowerBytes_eq_nil]

/-- **`IsValidDNSID` does not see case**: in every mode, a name is valid exactly when its folded
    form is. -/
@[simp] theorem isValidDNSID_lowerBytes (hostname : Input) :
    isValidDNSID (lowerBytes hostname) matchType = isValidDNSID hostname matchType := by
  have hplain := @isValidDNSIDLabels_lowerBytes matchType false hostname (lowerBytes hostname)
    hostname (fun h => nomatch h)
  unfold isValidDNSID
  simp only [length_lowerBytes, lowerBytes_eq_nil, head_lowerBytes_eq (b := 42) (by decide), hplain]
  by_cases hs : hostname.head? = some 42
  · -- a wildcard: `*` folds to itself, and no name that starts with it starts with `xn--`
    obtain ⟨_ | ⟨b, labels⟩, rfl⟩ := List.head?_eq_some_iff.mp hs
    · rfl
    · simp only [lowerBytes_cons, localeInsensitveToLower_of_toNat (a := 42) (by decide),
        toNat_localeInsensitveToLower_eq (c := 46) (by omega),
        @isValidDNSIDLabels_lowerBytes matchType true (42 :: b :: labels)
          (42 :: localeInsensitveToLower b :: lowerBytes labels) labels (fun _ => rfl)]
  · simp only [hs, and_false, if_false]

end Validator

/-! ## 3. The three loops -/

/-- The wildcard loop eats one byte and then everything before the next `.`. -/
theorem skipWildcardLabel_eq_some {reference rest : Input} :
    skipWildcardLabel reference = some rest ↔
      ∃ c x, reference = c :: (x ++ rest) ∧ (46 : UInt8) ∉ x ∧ rest.head? = some 46 := by
  induction reference with
  | nil => simp [skipWildcardLabel]
  | cons c r ih =>
    simp only [skipWildcardLabel]
    by_cases hr : r.head? = some 46
    · rw [if_pos hr]
      constructor
      · rintro ⟨⟩
        exact ⟨c, [], by simp, by simp, hr⟩
      · rintro ⟨c', x, e, hx, -⟩
        simp only [List.cons.injEq] at e
        obtain ⟨rfl, rfl⟩ := e
        cases x with
        | nil => rfl
        | cons d x =>
          simp only [List.cons_append, List.head?_cons, Option.some.injEq] at hr
          exact absurd (hr ▸ List.mem_cons_self _ _) hx
    · rw [if_neg hr, ih]
      constructor
      · rintro ⟨c', x, rfl, hx, hrest⟩
        refine ⟨c, c' :: x, rfl, ?_, hrest⟩
        simp only [List.cons_append, List.head?_cons, Option.some.injEq] at hr
        simpa [Ne.symm hr] using hx
      · rintro ⟨c', x, e, hx, hrest⟩
        simp only [List.cons.injEq] at e
        obtain ⟨rfl, rfl⟩ := e
        cases x with
        | nil => exact absurd hrest hr
        | cons d x => exact ⟨d, x, rfl, fun h => hx (List.mem_cons_of_mem _ h), hrest⟩

/-- The comparison loop succeeds exactly on a case-folded copy of the presented ID that does not
    end in `.`, and leaves the rest of the reference. -/
theorem compareDNSIDBytes_eq_some {presented reference rest : Input} :
    compareDNSIDBytes presented reference = some rest ↔
      presented ≠ [] ∧ presented.getLast? ≠ some 46 ∧
        ∃ r, reference = r ++ rest ∧ lowerBytes presented = lowerBytes r := by
  induction presented generalizing reference with
  | nil => simp [compareDNSIDBytes]
  | cons p ps ih =>
    cases reference with
    | nil =>
      simp only [compareDNSIDBytes, ne_eq, reduceCtorEq, not_false_eq_true, true_and, false_iff,
        not_and, not_exists]
      intro _ r hr
      obtain ⟨rfl, -⟩ := List.append_eq_nil.mp hr.symm
      simp
    | cons q qs =>
      simp only [compareDNSIDBytes]
      by_cases hpq : localeInsensitveToLower p = localeInsensitveToLower q
      · rw [if_neg (not_not.mpr hpq)]
        by_cases hps : ps = []
        · subst hps
          simp only [if_true]
          constructor
          · intro h
            by_cases hp : p.toNat = 46
            · rw [if_pos hp] at h; cases h
            rw [if_neg hp] at h
            cases h
            refine ⟨by simp, by simpa [byte_eq_iff_toNat] using hp, [q], rfl, by simp [hpq]⟩
          · rintro ⟨-, hl, r, e, hr⟩
            obtain ⟨r', rfl⟩ : ∃ r', r = [r'] := by
              have := congrArg List.length hr
              match r, this with
              | [r'], _ => exact ⟨r', rfl⟩
            simp only [List.singleton_append, List.cons.injEq] at e
            obtain ⟨rfl, rfl⟩ := e
            have hp : ¬p.toNat = 46 := by simpa [byte_eq_iff_toNat] using hl
            rw [if_neg hp]
        · rw [if_neg hps, ih]
          constructor
          · rintro ⟨-, hl, r, rfl, hr⟩
            refine ⟨by simp, ?_, q :: r, rfl, by simp [hpq, hr]⟩
            obtain ⟨b, ps, rfl⟩ := List.exists_cons_of_ne_nil hps
            rwa [List.getLast?_cons_cons]
          · rintro ⟨-, hl, r, e, hr⟩
            cases r with
            | nil => simp at hr
            | cons r₀ r =>
              simp only [List.cons_append, List.cons.injEq] at e
              obtain ⟨rfl, rfl⟩ := e
              simp only [lowerBytes_cons, List.cons.injEq] at hr
              refine ⟨hps, ?_, r, rfl, hr.2⟩
              obtain ⟨b, ps, rfl⟩ := List.exists_cons_of_ne_nil hps
              rwa [List.getLast?_cons_cons] at hl
      · rw [if_pos hpq]
        simp only [ne_eq, reduceCtorEq, not_false_eq_true, true_and, false_iff, not_and,
          not_exists]
        intro _ r e hr
        cases r with
        | nil => simp at hr
        | cons r₀ r =>
          simp only [List.cons_append, List.cons.injEq] at e
          obtain ⟨rfl, rfl⟩ := e
          simp only [lowerBytes_cons, List.cons.injEq] at hr
          exact hpq hr.1

theorem referenceTailMatches_eq_true {referenceDNSIDMatchType : ValidDNSIDMatchType}
    {tail : Input} :
    referenceTailMatches referenceDNSIDMatchType tail = true ↔
      tail = [] ∨ (referenceDNSIDMatchType ≠ .nameConstraint ∧ tail = [46]) := by
  cases tail with
  | nil => simp [referenceTailMatches]
  | cons r t => simp [referenceTailMatches, byte_eq_iff_toNat]

/-- The labels part of the matcher: a presented ID without a leading `*` is compared as it is;
    after a leading `*` the wildcard loop runs first. -/
theorem matchDNSIDLabels_eq_true {referenceDNSIDMatchType : ValidDNSIDMatchType}
    {presented reference : Input} :
    matchDNSIDLabels referenceDNSIDMatchType presented reference = true ↔
      (presented.head? ≠ some 42 ∧ ∃ t, compareDNSIDBytes presented reference = some t ∧
          referenceTailMatches referenceDNSIDMatchType t = true) ∨
      (∃ S, presented = 42 :: S ∧ ∃ r t, skipWildcardLabel reference = some r ∧
          compareDNSIDBytes S r = some t ∧ referenceTailMatches referenceDNSIDMatchType t = true) := by
  unfold matchDNSIDLabels
  cases presented with
  | nil => simp [compareDNSIDBytes]
  | cons p rest =>
    by_cases hp : p.toNat = 42
    · have e : p = 42 := byte_eq_iff_toNat.mpr hp
      subst e
      simp only [if_pos hp]
      cases hw : skipWildcardLabel reference with
      | none => simp
      | some r =>
        simp only [Option.map_some']
        cases hc : compareDNSIDBytes rest r <;> simp [hc]
    · simp only [if_neg hp]
      have hp' : p ≠ 42 := fun e => hp (by rw [e]; rfl)
      cases hc : compareDNSIDBytes (p :: rest) reference <;> simp [hp']

/-! ## 4. Reference-ID mode -/

/-- The reference ID without the one trailing `.` of an absolute name. -/
def stripTrailingDot (reference : Input) : Input :=
  if reference.getLast? = some 46 then reference.dropLast else reference

theorem stripTrailingDot_append {r t : Input} (hr : r.getLast? ≠ some 46)
    (ht : t = [] ∨ t = [46]) : stripTrailingDot (r ++ t) = r := by
  rcases ht with rfl | rfl
  · simp [stripTrailingDot, hr]
  · simp [stripTrailingDot]

theorem getLast_append_of_ne_nil (a : Input) {b : Input} (hb : b ≠ []) :
    (a ++ b).getLast? = b.getLast? := by
  obtain ⟨b, x, rfl⟩ : ∃ b' x, b = b' ++ [x] :=
    ⟨b.dropLast, b.getLast hb, (List.dropLast_append_getLast hb).symm⟩
  simp [← List.append_assoc]

/-- **A valid reference ID is its relative form followed by nothing or one `.`**, and the
    relative form does not end in `.` (no empty label before the trailing dot). -/
theorem isValidReferenceDNSID_split {reference : Input}
    (h : isValidReferenceDNSID reference = true) :
    ∃ t, reference = stripTrailingDot reference ++ t ∧ (t = [] ∨ t = [46]) ∧
      (stripTrailingDot reference).getLast? ≠ some 46 := by
  by_cases hl : reference.getLast? = some 46
  · obtain ⟨r, rfl⟩ := List.getLast?_eq_some_iff.mp hl
    refine ⟨[46], by simp [stripTrailingDot], .inr rfl, ?_⟩
    simp only [stripTrailingDot, hl, if_true, List.dropLast_concat]
    intro hr
    obtain ⟨r, rfl⟩ := List.getLast?_eq_some_iff.mp hr
    exact isValidDNSID_dot_dot h r [] (by simp)
  · exact ⟨[], by simp [stripTrailingDot, hl], .inl rfl, by simp [stripTrailingDot, hl]⟩

/-- The comparison and the tail check of reference-ID mode accept exactly the case-folded
    relative form of the reference. -/
theorem compareDNSIDBytes_referenceTail_iff {presented r t : Input} (hp : presented ≠ [])
    (hpl : presented.getLast? ≠ some 46) (hr : r.getLast? ≠ some 46) (ht : t = [] ∨ t = [46]) :
    (∃ t', compareDNSIDBytes presented (r ++ t) = some t' ∧
        referenceTailMatches .referenceID t' = true) ↔
      lowerBytes presented = lowerBytes r := by
  constructor
  · rintro ⟨t', hc, htail⟩
    obtain ⟨-, -, r', e, hlow⟩ := compareDNSIDBytes_eq_some.mp hc
    have ht' : t' = [] ∨ t' = [46] := by
      rcases referenceTailMatches_eq_true.mp htail with h | ⟨-, h⟩ <;> simp [h]
    have hr' : r'.getLast? ≠ some 46 := getLast_ne_dot_of_lowerBytes_eq hlow hpl
    -- the two splits of the reference agree: neither part before the tail ends in `.`
    have : r = r' := by
      rcases ht with rfl | rfl <;> rcases ht' with rfl | rfl
      · simpa using e
      · simp only [List.append_nil] at e; subst e; simp at hr
      · simp only [List.append_nil] at e; subst e; simp at hr'
      · exact List.append_cancel_right e
    rw [this, hlow]
  · intro h
    refine ⟨t, compareDNSIDBytes_eq_some.mpr ⟨hp, hpl, r, rfl, h⟩, ?_⟩
    rcases ht with rfl | rfl <;> rfl

section ReferenceID

variable {P R : Input}

theorem presentedDNSIDMatchesReferenceDNSID_referenceID_eq (P R : Input) :
    presentedDNSIDMatchesReferenceDNSID P .referenceID R =
      (isValidPresentedDNSID P && isValidReferenceDNSID R && matchDNSIDLabels .referenceID P R) := by
  unfold presentedDNSIDMatchesReferenceDNSID isValidReferenceDNSID
  cases isValidPresentedDNSID P <;> cases isValidDNSID R .referenceID <;> rfl

/-- The labels part of reference-ID mode, for a valid presented and a valid reference ID. -/
theorem matchDNSIDLabels_referenceID_iff (hP : isValidPresentedDNSID P = true)
    (hR : isValidReferenceDNSID R = true) :
    matchDNSIDLabels .referenceID P R = true ↔
      (((42 : UInt8) ∉ P ∧ lowerBytes P = lowerBytes (stripTrailingDot R)) ∨
       ∃ S, P = 42 :: 46 :: S ∧ ∃ x, x ≠ [] ∧ (46 : UInt8) ∉ x ∧
         lowerBytes (stripTrailingDot R) = lowerBytes (x ++ 46 :: S)) := by
  obtain ⟨t, hRt, ht, hR'⟩ := isValidReferenceDNSID_split hR
  have hPl : P.getLast? ≠ some 46 := isValidDNSID_getLast hP (by decide)
  rw [matchDNSIDLabels_eq_true]
  by_cases hw : P.head? = some 42
  · obtain ⟨-, S, rfl, hS, -, -⟩ := isValidDNSID_wildcard hP hw
    have hSl : (46 :: S).getLast? ≠ some 46 := by simpa [List.getLast?_cons] using hPl
    simp only [List.head?_cons, ne_eq, not_true_eq_false, false_and, List.mem_cons, true_or,
      not_true_eq_false, List.cons.injEq, true_and, exists_eq_left', false_or]
    constructor
    · rintro ⟨r, t', hw, hc, htail⟩
      obtain ⟨c, y, hRe, hy, hr⟩ := skipWildcardLabel_eq_some.mp hw
      obtain ⟨-, -, r₁, rfl, hlow⟩ := compareDNSIDBytes_eq_some.mp hc
      have ht' : t' = [] ∨ t' = [46] := by
        rcases referenceTailMatches_eq_true.mp htail with h | ⟨-, h⟩ <;> simp [h]
      have hr₁ : r₁ ≠ [] := by rintro rfl; simp at hlow
      have hr₁l : r₁.getLast? ≠ some 46 := getLast_ne_dot_of_lowerBytes_eq hlow hSl
      have hc46 : c ≠ 46 := by
        rintro rfl
        exact absurd (isValidDNSID_head_dot hR (by rw [hRe]; rfl)) (by decide)
      have hstrip : stripTrailingDot R = c :: (y ++ r₁) := by
        rw [hRe, show c :: (y ++ (r₁ ++ t')) = (c :: (y ++ r₁)) ++ t' by simp]
        refine stripTrailingDot_append ?_ ht'
        rw [show c :: (y ++ r₁) = (c :: y) ++ r₁ by simp, getLast_append_of_ne_nil _ hr₁]
        exact hr₁l
      refine ⟨c :: y, by simp, by simp [hy, Ne.symm hc46], ?_⟩
      rw [hstrip]
      simp only [List.cons_append, lowerBytes_cons, lowerBytes_append, ← hlow]
    · rintro ⟨x, hx, hx46, hlow⟩
      rw [lowerBytes_append] at hlow
      obtain ⟨a, b, hab, ha, hb⟩ := List.map_eq_append_iff.mp hlow
      change lowerBytes a = lowerBytes x at ha
      change lowerBytes b = lowerBytes (46 :: S) at hb
      obtain ⟨d, b', rfl⟩ : ∃ d b', b = d :: b' := by
        cases b with
        | nil => simp at hb
        | cons d b' => exact ⟨d, b', rfl⟩
      simp only [lowerBytes_cons, List.cons.injEq] at hb
      have hd : d = 46 := localeInsensitveToLower_eq_dot.mp hb.1
      subst hd
      obtain ⟨c, y, rfl⟩ : ∃ c y, a = c :: y := by
        cases a with
        | nil =>
          exact absurd (List.length_eq_zero.mp (by simpa using (congrArg List.length ha).symm)) hx
        | cons c y => exact ⟨c, y, rfl⟩
      have hy : (46 : UInt8) ∉ c :: y := by
        rw [← dot_mem_lowerBytes, ha, dot_mem_lowerBytes]; exact hx46
      have hb'l : (46 :: b').getLast? ≠ some 46 := by
        rw [← getLast_append_of_ne_nil (c :: y) (by simp), ← hab]
        exact hR'
      refine ⟨46 :: (b' ++ t), t, ?_, ?_⟩
      · refine skipWildcardLabel_eq_some.mpr ⟨c, y, ?_, fun h => hy (List.mem_cons_of_mem _ h),
          rfl⟩
        rw [hRt, hab]; simp
      · obtain ⟨t', hc, htail⟩ := (compareDNSIDBytes_referenceTail_iff (by simp) hSl hb'l ht).mpr
          (by simp [hb.2])
        have ht' : t' = t := by
          obtain ⟨-, -, r, e, hlow'⟩ := compareDNSIDBytes_eq_some.mp hc
          have hlen : r.length = (46 :: b').length := by
            rw [← length_lowerBytes r, ← hlow', length_lowerBytes]; simp [← length_lowerBytes S, ← hb.2]
          exact (List.append_inj e.symm hlen).2
        subst ht'
        exact ⟨by simpa using hc, htail⟩
  · have hstar : (42 : UInt8) ∉ P := isValidDNSID_star_free hP hw
    have hP : P ≠ [] := isValidDNSID_ne_nil hP (by decide)
    rw [← compareDNSIDBytes_referenceTail_iff hP hPl hR' ht, ← hRt]
    constructor
    · rintro (⟨-, h⟩ | ⟨S, rfl, -⟩)
      · exact .inl ⟨hstar, h⟩
      · exact absurd rfl hw
    · rintro (⟨-, h⟩ | ⟨S, rfl, -⟩)
      · exact .inl ⟨hw, h⟩
      · exact absurd (List.mem_cons_self _ _) hstar

/-- **Reference-ID matching**: a presented and a reference DNS-ID match exactly when both are
    valid and, the reference read without its trailing `.`, they are equal up to ASCII case, a
    presented `*.S` standing for `x.S` with one non-empty `x` without a dot. -/
theorem presentedDNSIDMatchesReferenceDNSID_referenceID_iff :
    presentedDNSIDMatchesReferenceDNSID P .referenceID R = true ↔
      isValidPresentedDNSID P = true ∧ isValidReferenceDNSID R = true ∧
        (((42 : UInt8) ∉ P ∧ lowerBytes P = lowerBytes (stripTrailingDot R)) ∨
         ∃ S, P = 42 :: 46 :: S ∧ ∃ x, x ≠ [] ∧ (46 : UInt8) ∉ x ∧
           lowerBytes (stripTrailingDot R) = lowerBytes (x ++ 46 :: S)) := by
  rw [presentedDNSIDMatchesReferenceDNSID_referenceID_eq, Bool.and_eq_true, Bool.and_eq_true]
  constructor
  · rintro ⟨⟨hP, hR⟩, h⟩
    exact ⟨hP, hR, (matchDNSIDLabels_referenceID_iff hP hR).mp h⟩
  · rintro ⟨hP, hR, h⟩
    exact ⟨⟨hP, hR⟩, (matchDNSIDLabels_referenceID_iff hP hR).mpr h⟩

theorem stripTrailingDot_lowerBytes (R : Input) :
    stripTrailingDot (lowerBytes R) = lowerBytes (stripTrailingDot R) := by
  unfold stripTrailingDot
  simp only [getLast_lowerBytes_eq_dot]
  split <;> simp [lowerBytes]

/-- **Reference-ID mode sees the reference only through its validity and its folded relative
    form**: two references alike in both are matched by the same presented IDs. -/
theorem presentedDNSIDMatchesReferenceDNSID_referenceID_congr {R' : Input}
    (hv : isValidReferenceDNSID R' = isValidReferenceDNSID R)
    (hs : lowerBytes (stripTrailingDot R') = lowerBytes (stripTrailingDot R)) :
    presentedDNSIDMatchesReferenceDNSID P .referenceID R' =
      presentedDNSIDMatchesReferenceDNSID P .referenceID R := by
  rw [presentedDNSIDMatchesReferenceDNSID_referenceID_eq,
    presentedDNSIDMatchesReferenceDNSID_referenceID_eq, hv]
  cases hP : isValidPresentedDNSID P <;> cases hR : isValidReferenceDNSID R <;>
    simp only [Bool.false_and, Bool.true_and]
  rw [Bool.eq_iff_iff, matchDNSIDLabels_referenceID_iff hP (hv.trans hR),
    matchDNSIDLabels_referenceID_iff hP hR, hs]

/-- The matcher does not see the case of the reference. -/
theorem presentedDNSIDMatchesReferenceDNSID_lowerBytes_reference :
    presentedDNSIDMatchesReferenceDNSID P .referenceID (lowerBytes R) =
      presentedDNSIDMatchesReferenceDNSID P .referenceID R :=
  presentedDNSIDMatchesReferenceDNSID_referenceID_congr (isValidDNSID_lowerBytes R)
    (by rw [stripTrailingDot_lowerBytes, lowerBytes_lowerBytes])

end ReferenceID

/-! ## 5. Name-constraint mode -/

/-- What the name-constraint matcher accepts, in the source's alignment of the two names: a
    constraint shorter than the presented ID is empty, or (case folded) a suffix of it that
    starts with `.`, or one that follows a `.`; otherwise the names are equal, or the presented
    ID is `*.S` and the wildcard loop eats a first byte and then the constraint up to a copy of
    `.S`. -/
def NameConstraintAligned (P C : Input) : Prop :=
  if C.length < P.length then
    C = [] ∨ (C.head? = some 46 ∧ lowerBytes C <:+ lowerBytes P) ∨
      (C.head? ≠ some 46 ∧ (46 :: lowerBytes C) <:+ lowerBytes P)
  else
    ((42 : UInt8) ∉ P ∧ lowerBytes P = lowerBytes C) ∨
      ∃ S, P = 42 :: 46 :: S ∧ ∃ c y r, C = c :: (y ++ r) ∧ (46 : UInt8) ∉ y ∧
        lowerBytes r = lowerBytes (46 :: S)

/-- RFC 5280 subtree membership of a DNS name under a `dNSName` base, ASCII case folded, with
    the source's reading of a leading `.`: an empty base holds every name; a base without a
    leading `.` holds itself and the names ending in `.` and the base; a base with one holds the
    names ending in it. -/
def InSubtree (N C : Input) : Prop :=
  C = [] ∨
    (C.head? ≠ some 46 ∧ (lowerBytes N = lowerBytes C ∨ (46 :: lowerBytes C) <:+ lowerBytes N)) ∨
    (C.head? = some 46 ∧ lowerBytes C <:+ lowerBytes N)

instance (N C : Input) : Decidable (InSubtree N C) := inferInstanceAs (Decidable (_ ∨ _))

/-- The names a presented DNS-ID stands for: itself when it has no wildcard, and for `*.S` the
    names `x.S` with `x` one DNS label. -/
def Covers (P N : Input) : Prop :=
  ((42 : UInt8) ∉ P ∧ N = P) ∨ ∃ S x, P = 42 :: 46 :: S ∧ IsDNSLabel x ∧ N = x ++ 46 :: S

theorem inSubtree_congr {N N' C : Input} (h : lowerBytes N = lowerBytes N') :
    InSubtree N C ↔ InSubtree N' C := by
  simp only [InSubtree, h]

theorem lowerBytes_suffix_iff {l m : Input} :
    l <:+ lowerBytes m ↔ l = lowerBytes (m.drop (m.length - l.length)) := by
  rw [List.suffix_iff_eq_drop, length_lowerBytes, lowerBytes, lowerBytes, List.map_drop]

/-- A suffix of `x ++ T` that starts with `.` is a suffix of `T` when `x` has no `.`. -/
theorem dot_suffix_of_suffix_append {x T l : Input} (hx : (46 : UInt8) ∉ x)
    (hl : l.head? = some 46) (h : l <:+ x ++ T) : l <:+ T := by
  obtain ⟨w, hw⟩ := h
  rcases List.append_eq_append_iff.mp hw with ⟨a, rfl, rfl⟩ | ⟨c, -, rfl⟩
  · cases a with
    | nil => exact List.suffix_refl _
    | cons d a =>
      simp only [List.cons_append, List.head?_cons, Option.some.injEq] at hl
      exact absurd (by simp [hl]) hx
  · exact List.suffix_append _ _

theorem presentedDNSIDMatchesReferenceDNSID_nameConstraint_eq (P C : Input) :
    presentedDNSIDMatchesReferenceDNSID P .nameConstraint C =
      (isValidPresentedDNSID P && isValidDNSID C .nameConstraint &&
        matchNameConstraintDNSID P C) := by
  unfold presentedDNSIDMatchesReferenceDNSID
  cases isValidPresentedDNSID P <;> cases isValidDNSID C .nameConstraint <;> rfl

section NameConstraint

variable {P C : Input}

/-- A valid presented ID has no `*` after its first byte. -/
theorem isValidPresentedDNSID_tail_star_free (hP : isValidPresentedDNSID P = true) :
    (42 : UInt8) ∉ P.tail := by
  by_cases hw : P.head? = some 42
  · obtain ⟨-, S, rfl, -, hS, -⟩ := isValidDNSID_wildcard hP hw
    exact fun h => (List.mem_cons.mp h).elim (by decide) hS
  · exact fun h => isValidDNSID_star_free hP hw (List.mem_of_mem_tail h)

/-- Without a wildcard, name-constraint mode compares the whole presented ID. -/
theorem matchDNSIDLabels_nameConstraint_plain {p : Input} (hp : (42 : UInt8) ∉ p)
    (hne : p ≠ []) (hl : p.getLast? ≠ some 46) :
    matchDNSIDLabels .nameConstraint p C = true ↔ lowerBytes p = lowerBytes C := by
  rw [matchDNSIDLabels_eq_true]
  constructor
  · rintro (⟨-, t, hc, ht⟩ | ⟨S, rfl, -⟩)
    · obtain rfl : t = [] := by simpa [referenceTailMatches_eq_true] using ht
      obtain ⟨-, -, r, rfl, h⟩ := compareDNSIDBytes_eq_some.mp hc
      simpa using h
    · exact absurd (List.mem_cons_self _ _) hp
  · intro h
    exact .inl ⟨fun hw => hp (List.mem_of_mem_head? hw), [],
      compareDNSIDBytes_eq_some.mpr ⟨hne, hl, C, by simp, h⟩, rfl⟩

/-- After `*`, name-constraint mode lets the wildcard loop take a first byte and everything up
    to a `.`, then compares the rest with `.S`. -/
theorem matchDNSIDLabels_nameConstraint_wildcard {S : Input}
    (hS : (46 :: S).getLast? ≠ some 46) :
    matchDNSIDLabels .nameConstraint (42 :: 46 :: S) C = true ↔
      ∃ c y r, C = c :: (y ++ r) ∧ (46 : UInt8) ∉ y ∧ lowerBytes r = lowerBytes (46 :: S) := by
  rw [matchDNSIDLabels_eq_true]
  constructor
  · rintro (⟨hw, -⟩ | ⟨S', e, r, t, hs, hc, ht⟩)
    · exact absurd rfl hw
    · obtain rfl : t = [] := by simpa [referenceTailMatches_eq_true] using ht
      obtain rfl := (List.cons.inj e).2
      obtain ⟨c, y, rfl, hy, -⟩ := skipWildcardLabel_eq_some.mp hs
      obtain ⟨-, -, r', rfl, h⟩ := compareDNSIDBytes_eq_some.mp hc
      exact ⟨c, y, r', by simp, hy, h.symm⟩
  · rintro ⟨c, y, r, rfl, hy, h⟩
    refine .inr ⟨46 :: S, rfl, r, [], skipWildcardLabel_eq_some.mpr ⟨c, y, rfl, hy, ?_⟩,
      compareDNSIDBytes_eq_some.mpr ⟨by simp, hS, r, by simp, h.symm⟩, rfl⟩
    rw [← head_lowerBytes_eq_dot, h]
    rfl

/-- Name-constraint mode on a valid presented ID with a prefix skipped. -/
theorem matchDNSIDLabels_nameConstraint_drop (hP : isValidPresentedDNSID P = true) {k : Nat}
    (hk : 0 < k) (hkP : k < P.length) :
    matchDNSIDLabels .nameConstraint (P.drop k) C = true ↔
      lowerBytes (P.drop k) = lowerBytes C := by
  have hne : P.drop k ≠ [] := by simp; omega
  refine matchDNSIDLabels_nameConstraint_plain ?_ hne ?_
  · obtain ⟨j, rfl⟩ : ∃ j, k = j + 1 := ⟨k - 1, by omega⟩
    rw [← List.drop_tail]
    exact fun h => isValidPresentedDNSID_tail_star_free hP (List.drop_subset _ _ h)
  · rw [← getLast_append_of_ne_nil (P.take k) hne, List.take_append_drop]
    exact isValidDNSID_getLast hP (by decide)

/-- **Name-constraint mode, characterised**: for a valid presented ID, the `NameConstraint`
    case accepts exactly the aligned pairs. -/
theorem matchNameConstraintDNSID_iff (hP : isValidPresentedDNSID P = true) :
    matchNameConstraintDNSID P C = true ↔ NameConstraintAligned P C := by
  have hPl : P.getLast? ≠ some 46 := isValidDNSID_getLast hP (by decide)
  unfold matchNameConstraintDNSID NameConstraintAligned
  by_cases hlt : C.length < P.length
  · simp only [if_pos hlt]
    by_cases h0 : C.length = 0
    · simp [h0, List.length_eq_zero.mp h0]
    have hC : C ≠ [] := fun h => h0 (by simp [h])
    rw [if_neg h0]
    by_cases hd : C.head? = some 46
    · -- the constraint starts with `.`: compare from the same length on
      rw [if_pos hd, Der.skip_eq_ok (by omega)]
      dsimp only
      rw [matchDNSIDLabels_nameConstraint_drop hP (by omega) (by omega), lowerBytes_suffix_iff,
        length_lowerBytes]
      constructor
      · exact fun h => .inr (.inl ⟨hd, h.symm⟩)
      · rintro (h | ⟨-, h⟩ | ⟨h, -⟩)
        · exact absurd h hC
        · exact h.symm
        · exact absurd hd h
    · -- otherwise the byte before the aligned suffix must be `.`
      obtain ⟨b, hb⟩ : ∃ b, P.drop (P.length - C.length - 1) =
          b :: P.drop (P.length - C.length) :=
        ⟨_, by rw [List.drop_eq_getElem_cons (by omega)]; congr 2; omega⟩
      have hsuf : (46 :: lowerBytes C) <:+ lowerBytes P ↔ localeInsensitveToLower b = 46 ∧
          lowerBytes (P.drop (P.length - C.length)) = lowerBytes C := by
        rw [lowerBytes_suffix_iff, show P.length - (46 :: lowerBytes C).length =
          P.length - C.length - 1 by simp; omega, hb, lowerBytes_cons, List.cons.injEq]
        exact ⟨fun h => ⟨h.1.symm, h.2.symm⟩, fun h => ⟨h.1.symm, h.2.symm⟩⟩
      rw [if_neg hd, Der.skip_eq_ok (by omega), hb, hsuf]
      dsimp only
      by_cases hb46 : b = 46
      · subst hb46
        rw [if_neg (by decide), matchDNSIDLabels_nameConstraint_drop hP (by omega) (by omega)]
        simp [hC, hd]
      · rw [if_pos (show b.toNat ≠ 46 from fun h => hb46 (byte_eq_iff_toNat.mpr h))]
        simp [hC, hd, hb46]
  · simp only [if_neg hlt]
    by_cases hw : P.head? = some 42
    · obtain ⟨-, S, rfl, -, -, -⟩ := isValidDNSID_wildcard hP hw
      rw [matchDNSIDLabels_nameConstraint_wildcard (by simpa [List.getLast?_cons] using hPl)]
      simp
    · have hstar := isValidDNSID_star_free hP hw
      rw [matchDNSIDLabels_nameConstraint_plain hstar (isValidDNSID_ne_nil hP (by decide)) hPl]
      constructor
      · exact fun h => .inl ⟨hstar, h⟩
      · rintro (⟨-, h⟩ | ⟨S, rfl, -⟩)
        · exact h
        · exact absurd rfl hw

/-- A presented ID without a wildcard that lies in the subtree matches the constraint. -/
theorem matchNameConstraintDNSID_of_inSubtree (hP : isValidPresentedDNSID P = true)
    (hstar : (42 : UInt8) ∉ P) (h : InSubtree P C) : matchNameConstraintDNSID P C = true := by
  rw [matchNameConstraintDNSID_iff hP, NameConstraintAligned]
  rcases h with rfl | ⟨hd, heq | hsuf⟩ | ⟨hd, hsuf⟩
  · simp [isValidDNSID_ne_nil hP (by decide)]
  · have hlen : C.length = P.length := by simpa using congrArg List.length heq.symm
    rw [if_neg (by omega)]
    exact .inl ⟨hstar, heq⟩
  · have hlen : C.length + 1 ≤ P.length := by simpa using hsuf.length_le
    rw [if_pos (by omega)]
    exact .inr (.inr ⟨hd, hsuf⟩)
  · have hlen : C.length ≤ P.length := by simpa using hsuf.length_le
    rcases Nat.lt_or_eq_of_le hlen with hlt | heq
    · rw [if_pos hlt]
      exact .inr (.inl ⟨hd, hsuf⟩)
    · -- a suffix of the same length is the whole name, which cannot start with `.`
      have e : lowerBytes C = lowerBytes P := hsuf.eq_of_length (by simp [heq])
      have hPd : P.head? = some 46 := by rw [← head_lowerBytes_eq_dot, ← e, head_lowerBytes_eq_dot, hd]
      exact absurd (isValidDNSID_head_dot hP hPd) (by decide)

/-- A wildcard presented ID `*.S` matches every constraint whose subtree holds some `x.S`, `x`
    non-empty without a `.`. -/
theorem matchNameConstraintDNSID_of_wildcard_inSubtree {S x : Input}
    (hP : isValidPresentedDNSID (42 :: 46 :: S) = true) (hx : x ≠ []) (hx46 : (46 : UInt8) ∉ x)
    (h : InSubtree (x ++ 46 :: S) C) : matchNameConstraintDNSID (42 :: 46 :: S) C = true := by
  have hlx : (46 : UInt8) ∉ lowerBytes x := by rwa [dot_mem_lowerBytes]
  have hS : lowerBytes (46 :: S) <:+ lowerBytes (42 :: 46 :: S) := List.suffix_cons _ _
  rw [matchNameConstraintDNSID_iff hP, NameConstraintAligned]
  simp only [InSubtree, lowerBytes_append] at h
  rcases h with rfl | ⟨hd, heq | hsuf⟩ | ⟨hd, hsuf⟩
  · simp
  · -- the constraint is `x.S`: the wildcard loop takes `x`
    obtain ⟨a, b, rfl, ha, hb⟩ := List.map_eq_append_iff.mp heq.symm
    change lowerBytes a = lowerBytes x at ha
    change lowerBytes b = lowerBytes (46 :: S) at hb
    have hlen : a.length = x.length := by rw [← length_lowerBytes a, ha, length_lowerBytes]
    have hblen : b.length = S.length + 1 := by rw [← length_lowerBytes b, hb]; simp
    obtain ⟨c, y, rfl⟩ : ∃ c y, a = c :: y := by
      cases a with
      | nil => exact absurd (List.length_eq_zero.mp (by simp at hlen; omega)) hx
      | cons c y => exact ⟨c, y, rfl⟩
    have hxl : 0 < x.length := List.length_pos.mpr hx
    rw [if_neg (by simp at hlen ⊢; omega)]
    refine .inr ⟨S, rfl, c, y, b, by simp, fun hy => hlx ?_, hb⟩
    rw [← ha, lowerBytes_cons, List.mem_cons, dot_mem_lowerBytes]
    exact .inr hy
  · -- `.C` is a suffix of `x.S`, hence of `.S`
    have h' := dot_suffix_of_suffix_append hlx (show (46 :: lowerBytes C).head? = some 46 from rfl) hsuf
    have hlen : C.length + 1 ≤ S.length + 1 := by simpa using h'.length_le
    rw [if_pos (by simp; omega)]
    exact .inr (.inr ⟨hd, h'.trans hS⟩)
  · -- `C` starts with `.`: a suffix of `x.S`, hence of `.S`
    have h' := dot_suffix_of_suffix_append hlx (head_lowerBytes_eq_dot.mpr hd) hsuf
    have hlen : C.length ≤ S.length + 1 := by simpa using h'.length_le
    rw [if_pos (by simp; omega)]
    exact .inr (.inl ⟨hd, h'.trans hS⟩)

/-- **Name-constraint mode misses no covered name**: a constraint whose subtree holds a name
    the presented ID covers always matches it, which is what an excluded subtree needs. -/
theorem presentedDNSIDMatchesReferenceDNSID_of_covers {N : Input}
    (hP : isValidPresentedDNSID P = true) (hC : isValidDNSID C .nameConstraint = true)
    (hN : Covers P N) (h : InSubtree N C) :
    presentedDNSIDMatchesReferenceDNSID P .nameConstraint C = true := by
  rw [presentedDNSIDMatchesReferenceDNSID_nameConstraint_eq, hP, hC]
  rcases hN with ⟨hstar, rfl⟩ | ⟨S, x, rfl, hx, rfl⟩
  · exact matchNameConstraintDNSID_of_inSubtree hP hstar h
  · exact matchNameConstraintDNSID_of_wildcard_inSubtree hP hx.1 hx.dot_not_mem h

/-- The wildcard `*.b.c` covers `a.b.c`, which lies in the subtree of `b.c`: the constraint
    `b.c` matches `*.b.c`. -/
theorem presentedDNSIDMatchesReferenceDNSID_of_covers_wildcard :
    presentedDNSIDMatchesReferenceDNSID [42, 46, 98, 46, 99] .nameConstraint [98, 46, 99] = true :=
  presentedDNSIDMatchesReferenceDNSID_of_covers (N := [97, 46, 98, 46, 99]) (by decide)
    (by decide) (.inr ⟨[98, 46, 99], [97], rfl, by decide, rfl⟩) (by decide)

end NameConstraint

/-- At `*.b.c` against the constraint `.a.b.c` the wildcard loop reads the constraint's leading
    `.` as the first byte of the wildcard label: the matcher accepts, though no `x.b.c` with `x`
    one label lies under `.a.b.c`. -/
theorem presentedDNSIDMatchesReferenceDNSID_wildcard_leading_dot :
    presentedDNSIDMatchesReferenceDNSID [42, 46, 98, 46, 99] .nameConstraint
        [46, 97, 46, 98, 46, 99] = true ∧
      ¬∃ N, Covers [42, 46, 98, 46, 99] N ∧ InSubtree N [46, 97, 46, 98, 46, 99] := by
  refine ⟨by decide, ?_⟩
  rintro ⟨N, ⟨hstar, -⟩ | ⟨S, x, e, hx, rfl⟩, hN⟩
  · exact hstar (List.mem_cons_self _ _)
  · obtain rfl : [98, 46, 99] = S := (List.cons.inj (List.cons.inj e).2).2
    rcases hN with h | ⟨h, -⟩ | ⟨-, w, hw⟩
    · cases h
    · exact h rfl
    · -- `.a.b.c` ends `x.b.c` only if `x` ends in `.a`
      have e' : (w ++ [46, 97]) ++ [46, 98, 46, 99] = lowerBytes x ++ [46, 98, 46, 99] := by
        simpa using hw
      have hx46 : (46 : UInt8) ∈ lowerBytes x := by
        rw [← List.append_cancel_right e']
        simp
      exact hx.dot_not_mem (dot_mem_lowerBytes.mp hx46)

/-! ## 6. The matcher does not see the case of the presented ID -/

/-- The comparison loop folds each presented byte before it compares it, and tests for a final
    `.`, which folding keeps. -/
theorem compareDNSIDBytes_lowerBytes (presented reference : Input) :
    compareDNSIDBytes (lowerBytes presented) reference = compareDNSIDBytes presented reference := by
  induction presented generalizing reference with
  | nil => rfl
  | cons p presented ih =>
    cases reference with
    | nil => rfl
    | cons r reference =>
      rw [lowerBytes_cons, compareDNSIDBytes, compareDNSIDBytes, ih]
      simp only [localeInsensitveToLower_idem, lowerBytes_eq_nil,
        toNat_localeInsensitveToLower_eq (c := 46) (by omega)]

theorem matchDNSIDLabels_lowerBytes (referenceDNSIDMatchType : ValidDNSIDMatchType)
    (presented reference : Input) :
    matchDNSIDLabels referenceDNSIDMatchType (lowerBytes presented) reference =
      matchDNSIDLabels referenceDNSIDMatchType presented reference := by
  cases presented with
  | nil => rfl
  | cons p presented =>
    have hp := compareDNSIDBytes_lowerBytes (p :: presented)
    rw [lowerBytes_cons] at hp ⊢
    simp only [matchDNSIDLabels, toNat_localeInsensitveToLower_eq (c := 42) (by omega)]
    split_ifs
    · cases skipWildcardLabel reference <;>
        simp only [Option.map_none', Option.map_some', compareDNSIDBytes_lowerBytes]
    · simp only [hp]

theorem drop_lowerBytes (l : Input) (n : Nat) : (lowerBytes l).drop n = lowerBytes (l.drop n) :=
  (List.map_drop _ _ _).symm

/-- The alignment reads lengths, which folding keeps, and tests the byte before the constraint
    for a `.`. -/
theorem matchNameConstraintDNSID_lowerBytes (P C : Input) :
    matchNameConstraintDNSID (lowerBytes P) C = matchNameConstraintDNSID P C := by
  unfold matchNameConstraintDNSID
  rw [length_lowerBytes]
  by_cases hlt : C.length < P.length
  swap
  · rw [if_neg hlt, if_neg hlt, matchDNSIDLabels_lowerBytes]
  rw [if_pos hlt, if_pos hlt]
  by_cases h0 : C.length = 0
  · rw [if_pos h0, if_pos h0]
  rw [if_neg h0, if_neg h0]
  -- a constraint with a leading dot, or a skipped prefix that must end with a dot
  by_cases hd : C.head? = some 46
  · rw [if_pos hd, if_pos hd, Der.skip_eq_ok (n := P.length - C.length) (by simp),
      Der.skip_eq_ok (by omega), drop_lowerBytes]
    exact matchDNSIDLabels_lowerBytes ..
  rw [if_neg hd, if_neg hd, Der.skip_eq_ok (n := P.length - C.length - 1) (by simp; omega),
    Der.skip_eq_ok (by omega), drop_lowerBytes]
  cases P.drop (P.length - C.length - 1) with
  | nil => rfl
  | cons b presented =>
    simp only [lowerBytes_cons, ne_eq, toNat_localeInsensitveToLower_eq (c := 46) (by omega),
      matchDNSIDLabels_lowerBytes]

/-- **The matcher does not see the case of the presented ID**, in every mode. -/
theorem presentedDNSIDMatchesReferenceDNSID_lowerBytes_presented (P : Input)
    (referenceDNSIDMatchType : ValidDNSIDMatchType) (R : Input) :
    presentedDNSIDMatchesReferenceDNSID (lowerBytes P) referenceDNSIDMatchType R =
      presentedDNSIDMatchesReferenceDNSID P referenceDNSIDMatchType R := by
  unfold presentedDNSIDMatchesReferenceDNSID isValidPresentedDNSID
  rw [isValidDNSID_lowerBytes, matchDNSIDLabels_lowerBytes, matchNameConstraintDNSID_lowerBytes]

end PkixNames
