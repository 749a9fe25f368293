import PkixNames.Der

/-!
# DNS-ID syntax: `IsValidDNSID`

`IsValidDNSID` (pkixnames.cpp) is one pass over the bytes of a name with four flags and two
counters. Here:

* `DNSIDScan` is its locals, `scanDNSIDByte` one pass of the `do`-`while` body (the `switch` over
  the byte), `scanDNSIDLabels` the loop, and `isValidDNSID` the whole function, wildcard prefix
  and final checks included;
* the facts the matchers rely on are proved once, from the step: what a successful scan of a
  byte leaves in `labelLength` and `isFirstByte` (`scanDNSIDByte_labelLength`, ...), then over a
  whole scan (`scanDNSIDLabels_...`), then of a valid name (`isValidDNSID_...`): no `*` except a
  leading `*.` of a presented ID, no empty label inside, a leading `.` only in a name
  constraint, a trailing `.` only in a reference ID.
-/

namespace PkixNames

/-- `ValidDNSIDMatchType`: which of the three DNS-ID syntaxes a name is checked against. -/
inductive ValidDNSIDMatchType where
  | referenceID
  | presentedID
  | nameConstraint
  deriving DecidableEq, Repr

/-! ## 1. The scan -/

/-- The digit `case` labels of `IsValidDNSID`'s `switch`: `'0'` to `'9'`. -/
def isDigitByte (b : UInt8) : Bool := 48 ≤ b.toNat && b.toNat ≤ 57

/-- The letter `case` labels of `IsValidDNSID`'s `switch`: `'a'` to `'z'` and `'A'` to `'Z'`. -/
def isLetterByte (b : UInt8) : Bool :=
  (65 ≤ b.toNat && b.toNat ≤ 90) || (97 ≤ b.toNat && b.toNat ≤ 122)

/-- The locals of `IsValidDNSID` that its label loop updates. -/
structure DNSIDScan where
  dotCount : Nat
  labelLength : Nat
  labelIsAllNumeric : Bool
  labelEndsWithHyphen : Bool
  isFirstByte : Bool
  deriving DecidableEq, Repr

/-- One pass of the loop body of `IsValidDNSID` on the byte `b` it read; `none` is a
    `return false` (`MAX_LABEL_LENGTH` is 63). -/
def scanDNSIDByte (matchType : ValidDNSIDMatchType) (s : DNSIDScan) (b : UInt8) :
    Option DNSIDScan :=
  if b.toNat = 45 then
    -- '-': labels must not start with a hyphen
    if s.labelLength = 0 then none
    else if 63 < s.labelLength + 1 then none
    else some { s with labelLength := s.labelLength + 1, labelIsAllNumeric := false,
                       labelEndsWithHyphen := true, isFirstByte := false }
  else if isDigitByte b then
    if 63 < s.labelLength + 1 then none
    else some { s with labelLength := s.labelLength + 1,
                       labelIsAllNumeric := if s.labelLength = 0 then true else s.labelIsAllNumeric,
                       labelEndsWithHyphen := false, isFirstByte := false }
  else if isLetterByte b then
    if 63 < s.labelLength + 1 then none
    else some { s with labelLength := s.labelLength + 1, labelIsAllNumeric := false,
                       labelEndsWithHyphen := false, isFirstByte := false }
  else if b.toNat = 46 then
    -- '.': an empty label only as the leading dot of a name constraint
    if s.labelLength = 0 ∧ (matchType ≠ .nameConstraint ∨ s.isFirstByte = false) then none
    else if s.labelEndsWithHyphen then none
    else some { s with dotCount := s.dotCount + 1, labelLength := 0, isFirstByte := false }
  else none

/-- The label loop of `IsValidDNSID` over the bytes after the wildcard prefix. -/
def scanDNSIDLabels (matchType : ValidDNSIDMatchType) : DNSIDScan → Input → Option DNSIDScan
  | s, [] => some s
  | s, b :: rest =>
    match scanDNSIDByte matchType s b with
    | none => none
    | some s => scanDNSIDLabels matchType s rest

/-- `StartsWithIDNALabel`: the name begins with `xn--`. -/
def startsWithIDNALabel (id : Input) : Bool := [120, 110, 45, 45].isPrefixOf id

/-- The label loop of `IsValidDNSID` (a `do`-`while`, so it fails on no bytes at all) and the
    checks after it. `isWildcard` says the name began with `*.`, which counted one dot. -/
def isValidDNSIDLabels (matchType : ValidDNSIDMatchType) (isWildcard : Bool)
    (hostname labels : Input) : Bool :=
  if labels = [] then false
  else
    match scanDNSIDLabels matchType
        ⟨if isWildcard then 1 else 0, 0, false, false, !isWildcard⟩ labels with
    | none => false
    | some s =>
      -- only reference IDs may be absolute
      if s.labelLength = 0 ∧ matchType ≠ .referenceID then false
      else if s.labelEndsWithHyphen then false
      else if s.labelIsAllNumeric then false
      else if isWildcard then
        -- at least two labels after the wildcard, and no wildcard in an A-label
        decide (3 ≤ if s.labelLength = 0 then s.dotCount else s.dotCount + 1) &&
          !startsWithIDNALabel hostname
      else true

/-- `IsValidDNSID`. -/
def isValidDNSID (hostname : Input) (matchType : ValidDNSIDMatchType) : Bool :=
  if 253 < hostname.length then false
  else if matchType = .nameConstraint ∧ hostname = [] then true
  -- only presented IDs may have a wildcard label, and it is exactly `*` followed by `.`
  else if matchType = .presentedID ∧ hostname.head? = some 42 then
    match hostname with
    | _ :: b :: labels => b.toNat = 46 && isValidDNSIDLabels matchType true hostname labels
    | _ => false
  else isValidDNSIDLabels matchType false hostname hostname

/-- `IsValidReferenceDNSID`. -/
def isValidReferenceDNSID (hostname : Input) : Bool := isValidDNSID hostname .referenceID

/-- `IsValidPresentedDNSID`. -/
def isValidPresentedDNSID (hostname : Input) : Bool := isValidDNSID hostname .presentedID

/-! ## 2. What one step and one scan leave behind -/

section Scan

variable {matchType : ValidDNSIDMatchType}

/-- **Everything one step can do**: extend a label by a hyphen, a digit or a letter (never past
    63 bytes, a hyphen never first), or end it at a `.` (an empty label only as the first byte of
    a name constraint, never after a hyphen). -/
theorem scanDNSIDByte_eq_some {s s' : DNSIDScan} {b : UInt8}
    (h : scanDNSIDByte matchType s b = some s') :
    (b.toNat = 45 ∧ s.labelLength ≠ 0 ∧ s.labelLength < 63 ∧
      s' = { s with labelLength := s.labelLength + 1, labelIsAllNumeric := false,
                    labelEndsWithHyphen := true, isFirstByte := false }) ∨
    (isDigitByte b = true ∧ s.labelLength < 63 ∧
      s' = { s with labelLength := s.labelLength + 1,
                    labelIsAllNumeric := if s.labelLength = 0 then true else s.labelIsAllNumeric,
                    labelEndsWithHyphen := false, isFirstByte := false }) ∨
    (isLetterByte b = true ∧ s.labelLength < 63 ∧
      s' = { s with labelLength := s.labelLength + 1, labelIsAllNumeric := false,
                    labelEndsWithHyphen := false, isFirstByte := false }) ∨
    (b.toNat = 46 ∧ (s.labelLength ≠ 0 ∨ (matchType = .nameConstraint ∧ s.isFirstByte = true)) ∧
      s.labelEndsWithHyphen = false ∧
      s' = { s with dotCount := s.dotCount + 1, labelLength := 0, isFirstByte := false }) := by
  unfold scanDNSIDByte at h
  by_cases h45 : b.toNat = 45
  · rw [if_pos h45] at h
    by_cases h0 : s.labelLength = 0
    · rw [if_pos h0] at h; cases h
    rw [if_neg h0] at h
    by_cases h63 : 63 < s.labelLength + 1
    · rw [if_pos h63] at h; cases h
    rw [if_neg h63] at h
    exact .inl ⟨h45, h0, by omega, (Option.some.inj h).symm⟩
  rw [if_neg h45] at h
  by_cases hd : isDigitByte b = true
  · rw [if_pos hd] at h
    by_cases h63 : 63 < s.labelLength + 1
    · rw [if_pos h63] at h; cases h
    rw [if_neg h63] at h
    exact .inr (.inl ⟨hd, by omega, (Option.some.inj h).symm⟩)
  rw [if_neg hd] at h
  by_cases hl : isLetterByte b = true
  · rw [if_pos hl] at h
    by_cases h63 : 63 < s.labelLength + 1
    · rw [if_pos h63] at h; cases h
    rw [if_neg h63] at h
    exact .inr (.inr (.inl ⟨hl, by omega, (Option.some.inj h).symm⟩))
  rw [if_neg hl] at h
  by_cases h46 : b.toNat = 46
  · rw [if_pos h46] at h
    by_cases h0 : s.labelLength = 0 ∧ (matchType ≠ .nameConstraint ∨ s.isFirstByte = false)
    · rw [if_pos h0] at h; cases h
    rw [if_neg h0] at h
    by_cases hh : s.labelEndsWithHyphen = true
    · rw [if_pos hh] at h; cases h
    rw [if_neg hh] at h
    refine .inr (.inr (.inr ⟨h46, ?_, by simpa using hh, (Option.some.inj h).symm⟩))
    by_cases h0' : s.labelLength = 0
    · right
      by_contra hc
      exact h0 ⟨h0', by cases matchType <;> cases s.isFirstByte <;> simp_all⟩
    · exact .inl h0'
  · rw [if_neg h46] at h; cases h

theorem scanDNSIDByte_ne_star {s s' : DNSIDScan} {b : UInt8}
    (h : scanDNSIDByte matchType s b = some s') : b.toNat ≠ 42 := by
  rcases scanDNSIDByte_eq_some h with ⟨hb, -⟩ | ⟨hb, -⟩ | ⟨hb, -⟩ | ⟨hb, -⟩ <;>
    simp_all [isDigitByte, isLetterByte] <;> omega

theorem scanDNSIDByte_isFirstByte {s s' : DNSIDScan} {b : UInt8}
    (h : scanDNSIDByte matchType s b = some s') : s'.isFirstByte = false := by
  rcases scanDNSIDByte_eq_some h with ⟨-, -, -, rfl⟩ | ⟨-, -, rfl⟩ | ⟨-, -, rfl⟩ | ⟨-, -, -, rfl⟩ <;>
    rfl

theorem scanDNSIDByte_labelLength {s s' : DNSIDScan} {b : UInt8}
    (h : scanDNSIDByte matchType s b = some s') : s'.labelLength = 0 ↔ b.toNat = 46 := by
  rcases scanDNSIDByte_eq_some h with ⟨hb, -, -, rfl⟩ | ⟨hb, -, rfl⟩ | ⟨hb, -, rfl⟩ |
      ⟨hb, -, -, rfl⟩ <;> simp_all [isDigitByte, isLetterByte] <;> omega

/-- A `.` read at the start of a label is accepted only as the very first byte of a name
    constraint. -/
theorem scanDNSIDByte_dot {s s' : DNSIDScan} (h : scanDNSIDByte matchType s 46 = some s')
    (h0 : s.labelLength = 0) : matchType = .nameConstraint ∧ s.isFirstByte = true := by
  rcases scanDNSIDByte_eq_some h with ⟨hb, -⟩ | ⟨hb, -⟩ | ⟨hb, -⟩ | ⟨-, hd, -⟩
  · cases hb
  · cases hb
  · cases hb
  · exact hd.resolve_left (· h0)

theorem scanDNSIDLabels_append (s : DNSIDScan) (l m : Input) :
    scanDNSIDLabels matchType s (l ++ m) =
      (scanDNSIDLabels matchType s l).bind (scanDNSIDLabels matchType · m) := by
  induction l generalizing s with
  | nil => rfl
  | cons b l ih =>
    simp only [List.cons_append, scanDNSIDLabels]
    split <;> simp_all

theorem scanDNSIDLabels_star {s s' : DNSIDScan} {l : Input}
    (h : scanDNSIDLabels matchType s l = some s') : ∀ b ∈ l, b.toNat ≠ 42 := by
  induction l generalizing s with
  | nil => simp
  | cons b l ih =>
    simp only [scanDNSIDLabels] at h
    split at h
    · cases h
    · rename_i s₁ h₁
      intro x hx
      rcases List.mem_cons.mp hx with rfl | hx
      · exact scanDNSIDByte_ne_star h₁
      · exact ih h x hx

theorem scanDNSIDLabels_isFirstByte {s s' : DNSIDScan} {l : Input}
    (h : scanDNSIDLabels matchType s l = some s') (hl : l ≠ []) : s'.isFirstByte = false := by
  obtain ⟨l, b, rfl⟩ : ∃ l' b, l = l' ++ [b] :=
    ⟨l.dropLast, l.getLast hl, (List.dropLast_append_getLast hl).symm⟩
  rw [scanDNSIDLabels_append] at h
  obtain ⟨s₁, -, h₁⟩ := Option.bind_eq_some.mp h
  simp only [scanDNSIDLabels] at h₁
  split at h₁
  · cases h₁
  · rename_i s₂ h₂; cases h₁; exact scanDNSIDByte_isFirstByte h₂

theorem scanDNSIDLabels_labelLength {s s' : DNSIDScan} {l : Input}
    (h : scanDNSIDLabels matchType s l = some s') (hl : l ≠ []) :
    s'.labelLength = 0 ↔ l.getLast? = some 46 := by
  obtain ⟨l, b, rfl⟩ : ∃ l' b, l = l' ++ [b] :=
    ⟨l.dropLast, l.getLast hl, (List.dropLast_append_getLast hl).symm⟩
  rw [scanDNSIDLabels_append] at h
  obtain ⟨s₁, -, h₁⟩ := Option.bind_eq_some.mp h
  simp only [scanDNSIDLabels] at h₁
  split at h₁
  · cases h₁
  · rename_i s₂ h₂
    cases h₁
    rw [scanDNSIDByte_labelLength h₂]
    simp [byte_eq_iff_toNat]

/-- No scan gets past two dots in a row. -/
theorem scanDNSIDLabels_dot_dot (s : DNSIDScan) (a b : Input) :
    scanDNSIDLabels matchType s (a ++ 46 :: 46 :: b) = none := by
  rw [show a ++ 46 :: 46 :: b = (a ++ [46]) ++ 46 :: b by simp, scanDNSIDLabels_append]
  cases h₁ : scanDNSIDLabels matchType s (a ++ [46]) with
  | none => rfl
  | some s₁ =>
    have hz : s₁.labelLength = 0 := (scanDNSIDLabels_labelLength h₁ (by simp)).mpr (by simp)
    have hf : s₁.isFirstByte = false := scanDNSIDLabels_isFirstByte h₁ (by simp)
    simp only [Option.some_bind, scanDNSIDLabels]
    split
    · rfl
    · rename_i s₂ h₂
      have := (scanDNSIDByte_dot h₂ hz).2
      simp_all

end Scan

/-! ## 3. What a valid name looks like -/

section Valid

variable {hostname : Input} {matchType : ValidDNSIDMatchType}

/-- The checks after the label loop that do not depend on the wildcard. -/
def DNSIDScan.Final (matchType : ValidDNSIDMatchType) (s : DNSIDScan) : Prop :=
  (s.labelLength = 0 → matchType = .referenceID) ∧ s.labelEndsWithHyphen = false ∧
    s.labelIsAllNumeric = false

theorem isValidDNSIDLabels_cases {isWildcard : Bool} {labels : Input}
    (h : isValidDNSIDLabels matchType isWildcard hostname labels = true) :
    ∃ s, labels ≠ [] ∧
      scanDNSIDLabels matchType ⟨if isWildcard then 1 else 0, 0, false, false, !isWildcard⟩
        labels = some s ∧ s.Final matchType ∧
      (isWildcard = true → 2 ≤ s.dotCount ∧ startsWithIDNALabel hostname = false) := by
  unfold isValidDNSIDLabels at h
  by_cases hl : labels = []
  · simp [hl] at h
  rw [if_neg hl] at h
  cases hs : scanDNSIDLabels matchType
      ⟨if isWildcard then 1 else 0, 0, false, false, !isWildcard⟩ labels with
  | none => simp [hs] at h
  | some s =>
    simp only [hs] at h
    refine ⟨s, hl, rfl, ?_⟩
    by_cases h1 : s.labelLength = 0 ∧ matchType ≠ .referenceID
    · rw [if_pos h1] at h; cases h
    rw [if_neg h1] at h
    by_cases h2 : s.labelEndsWithHyphen = true
    · rw [if_pos h2] at h; cases h
    rw [if_neg h2] at h
    by_cases h3 : s.labelIsAllNumeric = true
    · rw [if_pos h3] at h; cases h
    rw [if_neg h3] at h
    refine ⟨⟨fun h0 => not_not.mp fun hm => h1 ⟨h0, hm⟩, by simpa using h2, by simpa using h3⟩,
      fun hw => ?_⟩
    simp only [hw, if_true, Bool.and_eq_true, decide_eq_true_eq, Bool.not_eq_true'] at h
    exact ⟨by split at h <;> omega, h.2⟩

/-- **What `isValidDNSID` accepts, read off its branches once**: at most 253 bytes, and the
    empty name constraint, or a name without a wildcard whose label loop succeeds from the start
    state, or a presented `*.` followed by labels whose loop succeeds with one dot counted and
    at least two labels. -/
theorem isValidDNSID_cases (h : isValidDNSID hostname matchType = true) :
    hostname.length ≤ 253 ∧
      ((matchType = .nameConstraint ∧ hostname = []) ∨
       (∃ s, ¬(matchType = .presentedID ∧ hostname.head? = some 42) ∧ hostname ≠ [] ∧
          scanDNSIDLabels matchType ⟨0, 0, false, false, true⟩ hostname = some s ∧
          s.Final matchType) ∨
       (∃ S s, matchType = .presentedID ∧ hostname = 42 :: 46 :: S ∧ S ≠ [] ∧
          scanDNSIDLabels matchType ⟨1, 0, false, false, false⟩ S = some s ∧
          s.Final matchType ∧ 2 ≤ s.dotCount ∧ s.labelLength ≠ 0 ∧
          startsWithIDNALabel hostname = false)) := by
  unfold isValidDNSID at h
  by_cases hlen : 253 < hostname.length
  · simp [hlen] at h
  rw [if_neg hlen] at h
  refine ⟨by omega, ?_⟩
  by_cases hnc : matchType = .nameConstraint ∧ hostname = []
  · exact .inl hnc
  rw [if_neg hnc] at h
  by_cases hw : matchType = .presentedID ∧ hostname.head? = some 42
  · rw [if_pos hw] at h
    obtain ⟨hmt, hh⟩ := hw
    match hostname, hh, h with
    | c :: b :: S, hh, h =>
      simp only [Bool.and_eq_true, decide_eq_true_eq] at h
      obtain ⟨hb, h⟩ := h
      obtain ⟨s, hS, hs, hf, hw⟩ := isValidDNSIDLabels_cases h
      obtain ⟨h1, h3⟩ := hw rfl
      have h2 : s.labelLength ≠ 0 := fun h0 => by cases hmt ▸ hf.1 h0
      have ec : c = 42 := by simpa using hh
      have eb : b = 46 := byte_eq_iff_toNat.mpr hb
      subst ec eb
      exact .inr (.inr ⟨S, s, hmt, rfl, hS, by simpa using hs, hf, h1, h2, h3⟩)
    | [_], _, h => simp at h
  · rw [if_neg hw] at h
    obtain ⟨s, hS, hs, hf, -⟩ := isValidDNSIDLabels_cases h
    exact .inr (.inl ⟨s, hw, hS, by simpa using hs, hf⟩)

theorem isValidDNSID_ne_nil (h : isValidDNSID hostname matchType = true)
    (hmt : matchType ≠ .nameConstraint) : hostname ≠ [] := by
  rcases (isValidDNSID_cases h).2 with ⟨hnc, -⟩ | ⟨s, -, hne, -⟩ | ⟨S, s, -, rfl, -⟩
  · exact absurd hnc hmt
  · exact hne
  · simp

/-- A valid name ends in a `.` only if it is a reference ID. -/
theorem isValidDNSID_getLast (h : isValidDNSID hostname matchType = true)
    (hmt : matchType ≠ .referenceID) : hostname.getLast? ≠ some 46 := by
  rcases (isValidDNSID_cases h).2 with ⟨-, rfl⟩ | ⟨s, -, hne, hs, hf⟩ |
      ⟨S, s, -, rfl, hS, hs, -, -, h0, -⟩
  · simp
  · exact fun hl => hmt (hf.1 ((scanDNSIDLabels_labelLength hs hne).mpr hl))
  · intro hl
    refine h0 ((scanDNSIDLabels_labelLength hs hS).mpr ?_)
    obtain ⟨b, S, rfl⟩ := List.exists_cons_of_ne_nil hS
    simpa [List.getLast?_cons_cons] using hl

/-- A valid name begins with a `.` only if it is a name constraint. -/
theorem isValidDNSID_head_dot (h : isValidDNSID hostname matchType = true)
    (hd : hostname.head? = some 46) : matchType = .nameConstraint := by
  rcases (isValidDNSID_cases h).2 with ⟨hnc, -⟩ | ⟨s, -, -, hs, -⟩ | ⟨S, s, -, rfl, -⟩
  · exact hnc
  · obtain ⟨rest, rfl⟩ := List.head?_eq_some_iff.mp hd
    simp only [scanDNSIDLabels] at hs
    split at hs
    · cases hs
    · exact (scanDNSIDByte_dot ‹_› rfl).1
  · cases hd

/-- After the `*.` of a wildcard, the labels do not start with a `.`. -/
theorem scanDNSIDLabels_wildcard_head {s : DNSIDScan} {S : Input}
    (hs : scanDNSIDLabels matchType ⟨1, 0, false, false, false⟩ S = some s) :
    S.head? ≠ some 46 := by
  intro hd
  obtain ⟨rest, rfl⟩ := List.head?_eq_some_iff.mp hd
  simp only [scanDNSIDLabels] at hs
  split at hs
  · cases hs
  · cases (scanDNSIDByte_dot ‹_› rfl).2

/-- **No `*` in a valid name but the leading one of a presented wildcard.** -/
theorem isValidDNSID_star_free (h : isValidDNSID hostname matchType = true)
    (hw : hostname.head? ≠ some 42) : (42 : UInt8) ∉ hostname := by
  rcases (isValidDNSID_cases h).2 with ⟨-, rfl⟩ | ⟨s, -, -, hs, -⟩ | ⟨S, s, -, rfl, -⟩
  · simp
  · exact fun hm => scanDNSIDLabels_star hs _ hm rfl
  · exact absurd rfl hw

/-- **A valid name that begins with `*` is a presented wildcard `*.S`**, with no other `*` and
    a label right after the dot. -/
theorem isValidDNSID_wildcard (h : isValidDNSID hostname matchType = true)
    (hw : hostname.head? = some 42) :
    matchType = .presentedID ∧ ∃ S, hostname = 42 :: 46 :: S ∧ S ≠ [] ∧ (42 : UInt8) ∉ S ∧
      S.head? ≠ some 46 := by
  rcases (isValidDNSID_cases h).2 with ⟨-, rfl⟩ | ⟨s, -, -, hs, -⟩ |
      ⟨S, s, hmt, rfl, hS, hs, -⟩
  · cases hw
  · -- the loop itself would have read the `*`
    exact absurd rfl (scanDNSIDLabels_star hs _ (List.mem_of_mem_head? hw))
  · exact ⟨hmt, S, rfl, hS, fun hm => scanDNSIDLabels_star hs _ hm rfl,
      scanDNSIDLabels_wildcard_head hs⟩

/-- **No empty label inside a valid name.** -/
theorem isValidDNSID_dot_dot (h : isValidDNSID hostname matchType = true) (a b : Input) :
    hostname ≠ a ++ 46 :: 46 :: b := by
  rintro rfl
  rcases (isValidDNSID_cases h).2 with ⟨-, hnil⟩ | ⟨s, -, -, hs, -⟩ |
      ⟨S, s, -, hS, -, hs, -⟩
  · simp at hnil
  · rw [scanDNSIDLabels_dot_dot] at hs; cases hs
  · match a, hS with
    | [], hS => cases hS
    | [_], hS =>
      simp only [List.singleton_append, List.cons.injEq] at hS
      exact scanDNSIDLabels_wildcard_head hs (by simp [← hS.2.2])
    | _ :: _ :: a, hS =>
      simp only [List.cons_append, List.cons.injEq] at hS
      rw [← hS.2.2, scanDNSIDLabels_dot_dot] at hs
      cases hs

/-- A reference ID is checked by the label loop alone, after the length. -/
theorem isValidReferenceDNSID_eq (hostname : Input) :
    isValidReferenceDNSID hostname =
      (decide (hostname.length ≤ 253) && isValidDNSIDLabels .referenceID false hostname hostname) := by
  by_cases hlen : 253 < hostname.length
  · simp [isValidReferenceDNSID, isValidDNSID, hlen]
  · simp [isValidReferenceDNSID, isValidDNSID, hlen, show hostname.length ≤ 253 by omega]

/-- **Appending `.` to a relative reference ID keeps it valid exactly while it fits**: the label
    loop accepts the dot (the last label is not empty and does not end in a hyphen, or the name
    was invalid anyway), and the final checks do not look at the dot; only the 253-byte bound
    counts it. -/
theorem isValidReferenceDNSID_append_dot {hostname : Input} (hd : hostname.getLast? ≠ some 46) :
    isValidReferenceDNSID (hostname ++ [46]) =
      (isValidReferenceDNSID hostname && decide (hostname.length ≤ 252)) := by
  have hlab : isValidDNSIDLabels .referenceID false (hostname ++ [46]) (hostname ++ [46]) =
      isValidDNSIDLabels .referenceID false hostname hostname := by
    unfold isValidDNSIDLabels
    simp only [List.append_eq_nil, List.cons_ne_self, and_false, if_false, scanDNSIDLabels_append]
    by_cases hn : hostname = []
    · subst hn
      simp [scanDNSIDLabels, scanDNSIDByte, isDigitByte, isLetterByte]
    rw [if_neg hn]
    cases hs : scanDNSIDLabels .referenceID ⟨if false = true then 1 else 0, 0, false, false, !false⟩
      hostname with
    | none => rfl
    | some s =>
      have h0 : s.labelLength ≠ 0 := fun h0 => hd ((scanDNSIDLabels_labelLength hs hn).mp h0)
      simp only [Option.some_bind, scanDNSIDLabels, scanDNSIDByte, isDigitByte, isLetterByte]
      cases hh : s.labelEndsWithHyphen <;> simp [h0, hh]
  rw [isValidReferenceDNSID_eq, isValidReferenceDNSID_eq, hlab]
  simp only [List.length_append, List.length_singleton]
  cases isValidDNSIDLabels .referenceID false hostname hostname <;> simp
  omega

end Valid

/-! ## 4. The grammar of DNS-IDs

`IsValidDNSID` decides the grammar its comments describe: labels of letters, digits and hyphens
joined by dots, with the prefix and the suffix each syntax allows. One byte of a label and one
`.` are characterised once (`scanDNSIDByte_label`, `scanDNSIDByte_dot_iff`); the loop over the
start of a label follows by induction on it (`scanDNSIDLabels_word`), over labels joined by dots
by induction on their list (`scanDNSIDLabels_labels`), and an accepting loop is cut after its
first label (`scanDNSIDLabels_eq_labels`). -/

section Grammar

variable {matchType : ValidDNSIDMatchType}

/-- A DNS label: 1 to 63 letters, digits and hyphens, neither starting nor ending with `-`. -/
def IsDNSLabel (x : Input) : Prop :=
  x ≠ [] ∧ x.length ≤ 63 ∧
    (∀ b ∈ x, isLetterByte b = true ∨ isDigitByte b = true ∨ b.toNat = 45) ∧
    x.head? ≠ some 45 ∧ x.getLast? ≠ some 45

instance (x : Input) : Decidable (IsDNSLabel x) := inferInstanceAs (Decidable (_ ∧ _))

theorem IsDNSLabel.dot_not_mem {x : Input} (hx : IsDNSLabel x) : (46 : UInt8) ∉ x := fun h => by
  rcases hx.2.2.1 46 h with h | h | h <;> revert h <;> decide

theorem IsDNSLabel.head_ne {x : Input} (hx : IsDNSLabel x) :
    x.head? ≠ some 42 ∧ x.head? ≠ some 46 := by
  obtain ⟨b, x, rfl⟩ := List.exists_cons_of_ne_nil hx.1
  have hb := hx.2.2.1 b (List.mem_cons_self _ _)
  simp only [List.head?_cons, ne_eq, Option.some.injEq, byte_eq_iff_toNat]
  simp only [isLetterByte, isDigitByte, Bool.or_eq_true, Bool.and_eq_true, decide_eq_true_eq] at hb
  exact ⟨fun h => by rw [h] at hb; revert hb; decide, fun h => by rw [h] at hb; revert hb; decide⟩

/-- Labels joined by `.`: the first label, a dot, and the others. -/
theorem intercalate_dot_cons (l : Input) {ls : List Input} (h : ls ≠ []) :
    [46].intercalate (l :: ls) = l ++ 46 :: [46].intercalate ls := by
  obtain ⟨m, ls, rfl⟩ := List.exists_cons_of_ne_nil h
  simp [List.intercalate, List.intersperse_cons_cons]

/-- The state inside a label: `dotCount` dots read, and `w` read of the label. -/
def DNSIDScan.inLabel (dotCount : Nat) (w : Input) : DNSIDScan :=
  ⟨dotCount, w.length, w.all isDigitByte, decide (w.getLast? = some 45), false⟩

/-- The state after one more letter, digit or hyphen of a label. -/
def DNSIDScan.push (s : DNSIDScan) (b : UInt8) : DNSIDScan :=
  { s with labelLength := s.labelLength + 1,
           labelIsAllNumeric := isDigitByte b && (s.labelLength == 0 || s.labelIsAllNumeric),
           labelEndsWithHyphen := decide (b.toNat = 45), isFirstByte := false }

/-- The state after a `.`. -/
def DNSIDScan.afterDot (s : DNSIDScan) : DNSIDScan :=
  { s with dotCount := s.dotCount + 1, labelLength := 0, isFirstByte := false }

theorem DNSIDScan.push_start {s : DNSIDScan} (hs : s.labelLength = 0) (b : UInt8) :
    s.push b = DNSIDScan.inLabel s.dotCount [b] := by
  simp [DNSIDScan.push, DNSIDScan.inLabel, hs, byte_eq_iff_toNat]

theorem DNSIDScan.push_inLabel (d : Nat) {u : Input} (hu : u ≠ []) (b : UInt8) :
    (DNSIDScan.inLabel d u).push b = DNSIDScan.inLabel d (u ++ [b]) := by
  have hu' : (u.length == 0) = false := by simpa using hu
  simp [DNSIDScan.push, DNSIDScan.inLabel, hu', Bool.and_comm, byte_eq_iff_toNat]

theorem scanDNSIDLabels_cons (s : DNSIDScan) (b : UInt8) (x : Input) :
    scanDNSIDLabels matchType s (b :: x) =
      (scanDNSIDByte matchType s b).bind (scanDNSIDLabels matchType · x) := by
  simp only [scanDNSIDLabels]
  cases scanDNSIDByte matchType s b <;> rfl

theorem scanDNSIDLabels_concat (s : DNSIDScan) (u : Input) (b : UInt8) :
    scanDNSIDLabels matchType s (u ++ [b]) =
      (scanDNSIDLabels matchType s u).bind (scanDNSIDByte matchType · b) := by
  rw [scanDNSIDLabels_append]
  congr
  funext t
  rw [scanDNSIDLabels_cons]
  cases scanDNSIDByte matchType t b <;> rfl

theorem isDigitByte_classes {b : UInt8} (h : isDigitByte b = true) :
    b.toNat ≠ 45 ∧ b.toNat ≠ 46 ∧ isLetterByte b = false := by
  simp only [isDigitByte, isLetterByte, Bool.and_eq_true, decide_eq_true_eq] at h
  simp only [isLetterByte, Bool.or_eq_false_iff, Bool.and_eq_false_iff, decide_eq_false_iff_not]
  omega

theorem isLetterByte_classes {b : UInt8} (h : isLetterByte b = true) :
    b.toNat ≠ 45 ∧ b.toNat ≠ 46 ∧ isDigitByte b = false := by
  simp only [isLetterByte, Bool.or_eq_true, Bool.and_eq_true, decide_eq_true_eq] at h
  simp only [isDigitByte, Bool.and_eq_false_iff, decide_eq_false_iff_not]
  omega

/-- The length guard of the three branches that extend a label. -/
theorem extendLabel_eq_some {s s' t : DNSIDScan} :
    (if 63 < s.labelLength + 1 then none else some t) = some s' ↔
      s.labelLength < 63 ∧ s' = t := by
  by_cases h63 : 63 < s.labelLength + 1
  · rw [if_pos h63]
    exact ⟨fun e => (nomatch e), fun h => by omega⟩
  · rw [if_neg h63, Option.some.injEq]
    exact ⟨fun e => ⟨by omega, e.symm⟩, fun h => h.2.symm⟩

/-- **A letter, digit or hyphen** extends the label, to at most 63 bytes and never with a hyphen
    first; any other byte but `.` stops the loop. -/
theorem scanDNSIDByte_label {s s' : DNSIDScan} {b : UInt8} (hb : b.toNat ≠ 46) :
    scanDNSIDByte matchType s b = some s' ↔
      (isLetterByte b = true ∨ isDigitByte b = true ∨ (b.toNat = 45 ∧ s.labelLength ≠ 0)) ∧
        s.labelLength < 63 ∧ s' = s.push b := by
  unfold scanDNSIDByte
  by_cases h45 : b.toNat = 45
  · have hd : isDigitByte b = false := by simp [isDigitByte, h45]
    have hl : isLetterByte b = false := by simp [isLetterByte, h45]
    rw [if_pos h45]
    by_cases h0 : s.labelLength = 0
    · simp [h0, hd, hl]
    rw [if_neg h0, extendLabel_eq_some]
    simp [DNSIDScan.push, hd, hl, h45, h0]
  rw [if_neg h45]
  by_cases hd : isDigitByte b = true
  · rw [if_pos hd, extendLabel_eq_some]
    by_cases h0 : s.labelLength = 0
    · simp [DNSIDScan.push, hd, h45, h0]
    · simp [DNSIDScan.push, hd, h45, h0, beq_eq_false_iff_ne.mpr h0]
  rw [if_neg hd]
  by_cases hl : isLetterByte b = true
  · rw [if_pos hl, extendLabel_eq_some]
    simp [DNSIDScan.push, (isLetterByte_classes hl).2.2, h45, hl]
  rw [if_neg hl, if_neg hb]
  simp_all

/-- **A `.`** ends a label that is not empty and does not end with a hyphen, and an empty label
    only as the first byte of a name constraint. -/
theorem scanDNSIDByte_dot_iff {s s' : DNSIDScan} :
    scanDNSIDByte matchType s 46 = some s' ↔
      (s.labelLength ≠ 0 ∨ (matchType = .nameConstraint ∧ s.isFirstByte = true)) ∧
        s.labelEndsWithHyphen = false ∧ s' = s.afterDot := by
  have hd : isDigitByte 46 = false := rfl
  have hl : isLetterByte 46 = false := rfl
  unfold scanDNSIDByte
  rw [if_neg (by decide), if_neg (by simp [hd]), if_neg (by simp [hl]),
    if_pos (show (46 : UInt8).toNat = 46 from rfl)]
  by_cases h0 : s.labelLength = 0 ∧ (matchType ≠ .nameConstraint ∨ s.isFirstByte = false)
  · rw [if_pos h0]
    simp only [reduceCtorEq, false_iff, not_and]
    rintro (h | ⟨hm, hf⟩)
    · exact absurd h0.1 h
    · rcases h0.2 with h | h
      · exact absurd hm h
      · simp [hf] at h
  · rw [if_neg h0]
    have hc : s.labelLength ≠ 0 ∨ (matchType = .nameConstraint ∧ s.isFirstByte = true) := by
      by_cases h : s.labelLength = 0
      · right
        cases hf : s.isFirstByte <;> simp_all
      · exact .inl h
    by_cases hh : s.labelEndsWithHyphen = true
    · rw [if_pos hh]
      simp [hh]
    · rw [if_neg hh]
      simp only [Option.some.injEq, hc, true_and, Bool.not_eq_true] at hh ⊢
      exact ⟨fun h => ⟨hh, h.symm⟩, fun h => h.2.symm⟩

/-- **The loop over the start of a label**: from the start of a label it reads a run `w` without
    a `.` exactly when `w` is at most 63 letters, digits and hyphens, the first not a hyphen. -/
theorem scanDNSIDLabels_word {s s' : DNSIDScan} {w : Input} (hs : s.labelLength = 0)
    (hw : w ≠ []) (hdot : (46 : UInt8) ∉ w) :
    scanDNSIDLabels matchType s w = some s' ↔
      (w.length ≤ 63 ∧ (∀ b ∈ w, isLetterByte b = true ∨ isDigitByte b = true ∨ b.toNat = 45) ∧
        w.head? ≠ some 45) ∧ s' = DNSIDScan.inLabel s.dotCount w := by
  induction w using List.reverseRecOn generalizing s' with
  | nil => exact absurd rfl hw
  | append_singleton u b ih =>
    have hb : b.toNat ≠ 46 := fun h => hdot (by simp [show b = 46 from byte_eq_iff_toNat.mpr h])
    rw [scanDNSIDLabels_concat]
    by_cases hu : u = []
    · subst hu
      simp only [List.nil_append, scanDNSIDLabels, Option.some_bind, scanDNSIDByte_label hb,
        DNSIDScan.push_start hs, hs, List.length_singleton, List.forall_mem_singleton,
        List.head?_cons, ne_eq, Option.some.injEq,
        show b = 45 ↔ b.toNat = 45 from byte_eq_iff_toNat]
      constructor
      · rintro ⟨h | h | ⟨-, h⟩, -, rfl⟩
        · exact ⟨⟨by omega, .inl h, (isLetterByte_classes h).1⟩, rfl⟩
        · exact ⟨⟨by omega, .inr (.inl h), (isDigitByte_classes h).1⟩, rfl⟩
        · exact absurd trivial h
      · rintro ⟨⟨-, h | h | h, h45⟩, rfl⟩
        · exact ⟨.inl h, by omega, rfl⟩
        · exact ⟨.inr (.inl h), by omega, rfl⟩
        · exact absurd h h45
    · have hdu : (46 : UInt8) ∉ u := fun h => hdot (List.mem_append_left _ h)
      constructor
      · intro h
        obtain ⟨t, ht, hb'⟩ := Option.bind_eq_some.mp h
        obtain ⟨⟨hlen, hall, hhead⟩, rfl⟩ := (ih hu hdu).mp ht
        obtain ⟨hcls, h63, rfl⟩ := (scanDNSIDByte_label hb).mp hb'
        refine ⟨⟨by simp [DNSIDScan.inLabel] at h63 ⊢; omega, ?_, ?_⟩,
          DNSIDScan.push_inLabel _ hu b⟩
        · intro x hx
          rcases List.mem_append.mp hx with hx | hx
          · exact hall x hx
          · rw [List.mem_singleton.mp hx]
            exact hcls.imp_right (Or.imp_right And.left)
        · rwa [List.head?_append_of_ne_nil _ hu]
      · rintro ⟨⟨hlen, hall, hhead⟩, rfl⟩
        rw [(ih hu hdu).mpr ⟨⟨by simp at hlen; omega,
          fun x hx => hall x (List.mem_append_left _ hx),
          by rwa [List.head?_append_of_ne_nil _ hu] at hhead⟩, rfl⟩, Option.some_bind,
          scanDNSIDByte_label hb, DNSIDScan.push_inLabel _ hu b]
        refine ⟨?_, by simp [DNSIDScan.inLabel] at hlen ⊢; omega, rfl⟩
        exact (hall b (by simp)).imp_right
          (Or.imp_right fun h => ⟨h, by simpa [DNSIDScan.inLabel] using hu⟩)

theorem intercalate_labels_head {l : Input} (ls : List Input) (hl : l ≠ []) :
    ([46].intercalate (l :: ls)).head? = l.head? := by
  cases ls with
  | nil => simp [List.intercalate]
  | cons m ls =>
    rw [intercalate_dot_cons l (List.cons_ne_nil m ls), List.head?_append_of_ne_nil _ hl]

theorem intercalate_labels_ne_nil (ls : List Input) {lk : Input} (hk : lk ≠ []) :
    [46].intercalate (ls ++ [lk]) ≠ [] := by
  cases ls with
  | nil => simpa [List.intercalate] using hk
  | cons l ls => rw [List.cons_append, intercalate_dot_cons l (by simp)]; simp

/-- A run cut at its first `.`: a run without `.`, then nothing or a `.` and the rest. -/
theorem exists_eq_append_dot (x : Input) :
    ∃ w r, x = w ++ r ∧ (46 : UInt8) ∉ w ∧ (r = [] ∨ ∃ r', r = 46 :: r') := by
  induction x with
  | nil => exact ⟨[], [], rfl, by simp, .inl rfl⟩
  | cons b x ih =>
    by_cases hb : b = 46
    · exact ⟨[], b :: x, rfl, by simp, .inr ⟨x, by rw [hb]⟩⟩
    · obtain ⟨w, r, rfl, hw, hr⟩ := ih
      exact ⟨b :: w, r, rfl, fun h => (List.mem_cons.mp h).elim (fun e => hb e.symm) hw, hr⟩

theorem IsDNSLabel.inLabel_final {lk : Input} (hk : IsDNSLabel lk) (d : Nat) :
    (DNSIDScan.inLabel d lk).labelLength ≠ 0 ∧
      (DNSIDScan.inLabel d lk).labelEndsWithHyphen = false := by
  simpa [DNSIDScan.inLabel, List.length_eq_zero] using ⟨hk.1, hk.2.2.2.2⟩

/-- **The loop over labels joined by dots**, from the start of a label: it reads them all and
    stops inside the last, one dot counted for each label before it. -/
theorem scanDNSIDLabels_labels {s : DNSIDScan} (hs : s.labelLength = 0) {ls : List Input}
    {lk : Input} (hl : ∀ l ∈ ls ++ [lk], IsDNSLabel l) :
    scanDNSIDLabels matchType s ([46].intercalate (ls ++ [lk])) =
      some (DNSIDScan.inLabel (s.dotCount + ls.length) lk) := by
  induction ls generalizing s with
  | nil =>
    have h := hl lk (by simp)
    rw [List.nil_append, show [46].intercalate [lk] = lk by simp [List.intercalate],
      (scanDNSIDLabels_word hs h.1 h.dot_not_mem).mpr ⟨⟨h.2.1, h.2.2.1, h.2.2.2.1⟩, rfl⟩]
    simp
  | cons l ls ih =>
    have h := hl l (by simp)
    obtain ⟨h0, hh⟩ := h.inLabel_final s.dotCount
    rw [List.cons_append, intercalate_dot_cons l (by simp), scanDNSIDLabels_append,
      (scanDNSIDLabels_word hs h.1 h.dot_not_mem).mpr ⟨⟨h.2.1, h.2.2.1, h.2.2.2.1⟩, rfl⟩,
      Option.some_bind, scanDNSIDLabels_cons, scanDNSIDByte_dot_iff.mpr ⟨.inl h0, hh, rfl⟩,
      Option.some_bind, ih rfl fun l' hl' => hl l' (List.mem_cons_of_mem l hl')]
    simp only [DNSIDScan.afterDot, DNSIDScan.inLabel, List.length_cons, Option.some.injEq,
      DNSIDScan.mk.injEq, and_true]
    omega

/-- **An accepting loop, cut after each label**: from the start of a label where a leading `.`
    is refused, a loop that accepts a nonempty run and stops inside a label that does not end
    with a hyphen has read labels joined by dots. -/
theorem scanDNSIDLabels_eq_labels (n : Nat) : ∀ {s s' : DNSIDScan} {x : Input}, x.length = n →
    s.labelLength = 0 → (x.head? = some 46 → ¬(matchType = .nameConstraint ∧ s.isFirstByte = true)) →
    x ≠ [] → scanDNSIDLabels matchType s x = some s' → s'.labelLength ≠ 0 →
    s'.labelEndsWithHyphen = false →
    ∃ ls lk, x = [46].intercalate (ls ++ [lk]) ∧ (∀ l ∈ ls ++ [lk], IsDNSLabel l) ∧
      s' = DNSIDScan.inLabel (s.dotCount + ls.length) lk := by
  induction n using Nat.strong_induction_on with
  | _ n ih =>
  intro s s' x hn hs hfirst hx h h0 hh
  obtain ⟨w, r, rfl, hdot, hr⟩ := exists_eq_append_dot x
  have hw : w ≠ [] := by
    rintro rfl
    rcases hr with rfl | ⟨r, rfl⟩
    · exact hx rfl
    · -- a leading `.` is refused here
      rw [List.nil_append, scanDNSIDLabels_cons] at h
      obtain ⟨t, ht, -⟩ := Option.bind_eq_some.mp h
      exact (scanDNSIDByte_dot_iff.mp ht).1.elim (· hs) (hfirst rfl)
  rw [scanDNSIDLabels_append] at h
  obtain ⟨t, ht, h⟩ := Option.bind_eq_some.mp h
  obtain ⟨⟨hlen, hall, hhead⟩, rfl⟩ := (scanDNSIDLabels_word hs hw hdot).mp ht
  rcases hr with rfl | ⟨r, rfl⟩
  · -- the label ends the run
    obtain rfl : DNSIDScan.inLabel s.dotCount w = s' := Option.some.inj h
    exact ⟨[], w, by simp [List.intercalate],
      by simpa using ⟨hw, hlen, hall, hhead, by simpa [DNSIDScan.inLabel] using hh⟩, by simp⟩
  · -- a `.`, and the labels after it
    rw [scanDNSIDLabels_cons] at h
    obtain ⟨t, ht, h⟩ := Option.bind_eq_some.mp h
    obtain ⟨-, hh', rfl⟩ := scanDNSIDByte_dot_iff.mp ht
    have hlabel : IsDNSLabel w := ⟨hw, hlen, hall, hhead, by simpa [DNSIDScan.inLabel] using hh'⟩
    have hr : r ≠ [] := by
      rintro rfl
      obtain rfl := Option.some.inj h
      exact h0 rfl
    obtain ⟨ls, lk, rfl, hl, rfl⟩ := ih r.length (by simp at hn; omega) rfl rfl
      (by simp [DNSIDScan.afterDot]) hr h h0 hh
    refine ⟨w :: ls, lk, by rw [List.cons_append, intercalate_dot_cons w (by simp)],
      List.forall_mem_cons.mpr ⟨hlabel, hl⟩, ?_⟩
    simp only [DNSIDScan.afterDot, DNSIDScan.inLabel, List.length_cons, DNSIDScan.mk.injEq,
      and_true]
    omega

/-- **The label loop and the checks after it**, from the start of a label where a leading `.` is
    refused: they accept a nonempty run exactly when it is labels joined by dots, the last not
    all digits, followed by a `.` only in a reference ID. -/
theorem scanDNSIDLabels_final {s s' : DNSIDScan} {x : Input} (hs : s.labelLength = 0)
    (hfirst : x.head? = some 46 → ¬(matchType = .nameConstraint ∧ s.isFirstByte = true)) :
    (x ≠ [] ∧ scanDNSIDLabels matchType s x = some s' ∧ s'.Final matchType) ↔
      ∃ ls lk, (∀ l ∈ ls ++ [lk], IsDNSLabel l) ∧ ¬(∀ b ∈ lk, isDigitByte b = true) ∧
        ((x = [46].intercalate (ls ++ [lk]) ∧ s' = DNSIDScan.inLabel (s.dotCount + ls.length) lk) ∨
         (x = [46].intercalate (ls ++ [lk]) ++ [46] ∧ matchType = .referenceID ∧
           s' = (DNSIDScan.inLabel (s.dotCount + ls.length) lk).afterDot)) := by
  constructor
  · rintro ⟨hx, h, hf1, hf2, hf3⟩
    by_cases h0 : s'.labelLength = 0
    · -- the run ends with a `.`: a reference ID
      have hM := hf1 h0
      obtain ⟨y, rfl⟩ : ∃ y, x = y ++ [46] := by
        have hl := (scanDNSIDLabels_labelLength h hx).mp h0
        rw [List.getLast?_eq_getLast x hx, Option.some.injEq] at hl
        exact ⟨x.dropLast, by rw [← hl, List.dropLast_append_getLast hx]⟩
      rw [scanDNSIDLabels_concat] at h
      obtain ⟨t, ht, h⟩ := Option.bind_eq_some.mp h
      obtain ⟨hc, hh, rfl⟩ := scanDNSIDByte_dot_iff.mp h
      have ht0 : t.labelLength ≠ 0 := hc.resolve_right fun ⟨hm, _⟩ => by rw [hM] at hm; cases hm
      have hy : y ≠ [] := by
        rintro rfl
        obtain rfl := Option.some.inj ht
        exact ht0 hs
      obtain ⟨ls, lk, rfl, hl, rfl⟩ := scanDNSIDLabels_eq_labels _ rfl hs
        (fun hd => hfirst (by rwa [List.head?_append_of_ne_nil _ hy])) hy ht ht0 hh
      exact ⟨ls, lk, hl, by simpa [DNSIDScan.afterDot, DNSIDScan.inLabel] using hf3,
        .inr ⟨rfl, hM, rfl⟩⟩
    · obtain ⟨ls, lk, rfl, hl, rfl⟩ := scanDNSIDLabels_eq_labels _ rfl hs hfirst hx h h0 hf2
      exact ⟨ls, lk, hl, by simpa [DNSIDScan.inLabel] using hf3, .inl ⟨rfl, rfl⟩⟩
  · rintro ⟨ls, lk, hl, hdig, hx⟩
    have hk := hl lk (by simp)
    obtain ⟨h0, hh⟩ := hk.inLabel_final (s.dotCount + ls.length)
    rcases hx with ⟨rfl, rfl⟩ | ⟨rfl, hM, rfl⟩
    · exact ⟨intercalate_labels_ne_nil ls hk.1, scanDNSIDLabels_labels hs hl,
        fun h => absurd h h0, hh, by simpa [DNSIDScan.inLabel] using hdig⟩
    · refine ⟨by simp, ?_, fun _ => hM, hh,
        by simpa [DNSIDScan.afterDot, DNSIDScan.inLabel] using hdig⟩
      rw [scanDNSIDLabels_concat, scanDNSIDLabels_labels hs hl, Option.some_bind,
        scanDNSIDByte_dot_iff.mpr ⟨.inl h0, hh, rfl⟩]

/-- `isValidDNSIDLabels` is the label loop from its start state and the checks after it. -/
theorem isValidDNSIDLabels_eq_true {isWildcard : Bool} {hostname labels : Input} :
    isValidDNSIDLabels matchType isWildcard hostname labels = true ↔
      ∃ s, labels ≠ [] ∧
        scanDNSIDLabels matchType ⟨if isWildcard then 1 else 0, 0, false, false, !isWildcard⟩
          labels = some s ∧ s.Final matchType ∧
        (isWildcard = true → 3 ≤ (if s.labelLength = 0 then s.dotCount else s.dotCount + 1) ∧
          startsWithIDNALabel hostname = false) := by
  unfold isValidDNSIDLabels
  by_cases hl : labels = []
  · simp [hl]
  rw [if_neg hl]
  cases hs : scanDNSIDLabels matchType ⟨if isWildcard then 1 else 0, 0, false, false, !isWildcard⟩
      labels with
  | none => simp
  | some s =>
    simp only [Option.some.injEq, ne_eq, hl, not_false_eq_true, true_and, exists_eq_left']
    by_cases h1 : s.labelLength = 0 ∧ matchType ≠ .referenceID
    · rw [if_pos h1]
      simp only [Bool.false_eq_true, false_iff, not_and]
      exact fun h => absurd (h.1 h1.1) h1.2
    rw [if_neg h1]
    by_cases h2 : s.labelEndsWithHyphen = true
    · rw [if_pos h2]
      simp [DNSIDScan.Final, h2]
    rw [if_neg h2]
    by_cases h3 : s.labelIsAllNumeric = true
    · rw [if_pos h3]
      simp [DNSIDScan.Final, h3]
    rw [if_neg h3]
    have hf : s.Final matchType :=
      ⟨fun h0 => not_not.mp fun hm => h1 ⟨h0, hm⟩, by simpa using h2, by simpa using h3⟩
    cases isWildcard <;> simp [hf]

/-- The joined labels begin with neither `*` nor `.`. -/
theorem head?_labels (suf : Input) {ls : List Input} {lk : Input}
    (hl : ∀ l ∈ ls ++ [lk], IsDNSLabel l) :
    ([46].intercalate (ls ++ [lk]) ++ suf).head? ≠ some 42 ∧
      ([46].intercalate (ls ++ [lk]) ++ suf).head? ≠ some 46 := by
  obtain ⟨l, ls', he⟩ := List.exists_cons_of_ne_nil (List.append_ne_nil_of_right_ne_nil ls
    (List.cons_ne_nil lk []))
  have hl1 := hl l (he ▸ List.mem_cons_self l ls')
  rw [he, List.head?_append_of_ne_nil _
      (by rw [← he]; exact intercalate_labels_ne_nil ls (hl lk (by simp)).1),
    intercalate_labels_head ls' hl1.1]
  exact hl1.head_ne

/-- After a `*`, a presented ID is a `.` and two labels or more. -/
theorem isValidDNSID_star_iff {rest : Input} (hlen : rest.length < 253) :
    isValidDNSID (42 :: rest) .presentedID = true ↔
      ∃ ls lk, rest = 46 :: [46].intercalate (ls ++ [lk]) ∧ ls ≠ [] ∧
        (∀ l ∈ ls ++ [lk], IsDNSLabel l) ∧ ¬∀ b ∈ lk, isDigitByte b = true := by
  unfold isValidDNSID
  rw [if_neg (by simp; omega), if_neg (by simp), if_pos ⟨rfl, rfl⟩]
  constructor
  · intro h
    match rest, h with
    | b :: S, h =>
      simp only [Bool.and_eq_true, decide_eq_true_eq] at h
      obtain ⟨hb, h⟩ := h
      obtain rfl : b = 46 := byte_eq_iff_toNat.mpr hb
      obtain ⟨s, hS, hsc, hf, hwc⟩ := isValidDNSIDLabels_eq_true.mp h
      obtain ⟨ls, lk, hl, hdig, ⟨rfl, rfl⟩ | ⟨-, hM, -⟩⟩ :=
        (scanDNSIDLabels_final rfl (by simp)).mp ⟨hS, hsc, hf⟩
      · -- the dot count is that of the labels, so there are two or more
        have h3 := (hwc rfl).1
        simp only [DNSIDScan.inLabel, List.length_eq_zero, (hl lk (by simp)).1, if_false,
          if_true] at h3
        exact ⟨ls, lk, rfl, by rintro rfl; simp at h3, hl, hdig⟩
      · cases hM
    | [], h => simp at h
  · rintro ⟨ls, lk, rfl, hls, hl, hdig⟩
    have hk := hl lk (by simp)
    simp only [Bool.and_eq_true, decide_eq_true_eq]
    refine ⟨rfl, isValidDNSIDLabels_eq_true.mpr ⟨_, intercalate_labels_ne_nil ls hk.1,
      scanDNSIDLabels_labels rfl hl, ?_, fun _ => ⟨?_, rfl⟩⟩⟩
    · exact ((scanDNSIDLabels_final rfl (by simp)).mpr ⟨ls, lk, hl, hdig, .inl ⟨rfl, rfl⟩⟩).2.2
    · rw [if_neg (hk.inLabel_final _).1]
      cases ls with
      | nil => exact absurd rfl hls
      | cons => simp [DNSIDScan.inLabel]; omega

/-- After its leading `.`, a name constraint is labels. -/
theorem isValidDNSID_dot_iff {y : Input} (hlen : y.length < 253) :
    isValidDNSID (46 :: y) .nameConstraint = true ↔
      ∃ ls lk, y = [46].intercalate (ls ++ [lk]) ∧ (∀ l ∈ ls ++ [lk], IsDNSLabel l) ∧
        ¬∀ b ∈ lk, isDigitByte b = true := by
  have hdot : scanDNSIDByte .nameConstraint ⟨0, 0, false, false, true⟩ 46 =
      some ⟨1, 0, false, false, false⟩ :=
    rfl
  unfold isValidDNSID
  rw [if_neg (by simp; omega), if_neg (by simp), if_neg (by simp), isValidDNSIDLabels_eq_true]
  simp only [scanDNSIDLabels_cons, hdot, Option.some_bind, ne_eq, List.cons_ne_nil,
    not_false_eq_true, true_and, Bool.false_eq_true, false_implies, and_true]
  constructor
  · rintro ⟨s, hsc, hf⟩
    have hy : y ≠ [] := by
      rintro rfl
      obtain rfl := Option.some.inj hsc
      cases hf.1 rfl
    obtain ⟨ls, lk, hl, hdig, ⟨rfl, -⟩ | ⟨-, hM, -⟩⟩ :=
      (scanDNSIDLabels_final rfl (by simp)).mp ⟨hy, hsc, hf⟩
    · exact ⟨ls, lk, rfl, hl, hdig⟩
    · cases hM
  · rintro ⟨ls, lk, rfl, hl, hdig⟩
    exact ⟨_, ((scanDNSIDLabels_final rfl (by simp)).mpr ⟨ls, lk, hl, hdig, .inl ⟨rfl, rfl⟩⟩).2⟩

/-- Without a prefix, a name is labels, and for a reference ID an optional final `.`. -/
theorem isValidDNSIDLabels_plain_iff {hostname : Input}
    (hfirst : hostname.head? = some 46 → matchType ≠ .nameConstraint) :
    isValidDNSIDLabels matchType false hostname hostname = true ↔
      ∃ ls lk suf, hostname = [46].intercalate (ls ++ [lk]) ++ suf ∧
        (suf = [] ∨ (suf = [46] ∧ matchType = .referenceID)) ∧
        (∀ l ∈ ls ++ [lk], IsDNSLabel l) ∧ ¬∀ b ∈ lk, isDigitByte b = true := by
  have hfirst' : hostname.head? = some 46 →
      ¬(matchType = .nameConstraint ∧ (⟨0, 0, false, false, true⟩ : DNSIDScan).isFirstByte = true) :=
    fun hh h => hfirst hh h.1
  rw [isValidDNSIDLabels_eq_true]
  simp only [Bool.false_eq_true, if_false, Bool.not_false, false_implies, and_true]
  constructor
  · rintro ⟨s, hx, hsc, hf⟩
    obtain ⟨ls, lk, hl, hdig, ⟨rfl, -⟩ | ⟨rfl, hM, -⟩⟩ :=
      (scanDNSIDLabels_final rfl hfirst').mp ⟨hx, hsc, hf⟩
    · exact ⟨ls, lk, [], by simp, .inl rfl, hl, hdig⟩
    · exact ⟨ls, lk, [46], rfl, .inr ⟨rfl, hM⟩, hl, hdig⟩
  · rintro ⟨ls, lk, suf, rfl, hsuf, hl, hdig⟩
    rcases hsuf with rfl | ⟨rfl, hM⟩
    · rw [List.append_nil] at hfirst' ⊢
      exact ⟨_, (scanDNSIDLabels_final rfl hfirst').mpr ⟨ls, lk, hl, hdig, .inl ⟨rfl, rfl⟩⟩⟩
    · exact ⟨_, (scanDNSIDLabels_final rfl hfirst').mpr ⟨ls, lk, hl, hdig, .inr ⟨rfl, hM, rfl⟩⟩⟩

/-- **The DNS-ID syntaxes, characterised**: `IsValidDNSID` accepts exactly the names of at most
    253 bytes that are the empty name constraint, or labels joined by dots, the last not all
    digits, after an optional `*.` (presented IDs only, and then two labels or more) or `.`
    (name constraints only), and before an optional `.` (reference IDs only). -/
theorem isValidDNSID_iff (hostname : Input) (matchType : ValidDNSIDMatchType) :
    isValidDNSID hostname matchType = true ↔ hostname.length ≤ 253 ∧
      ((hostname = [] ∧ matchType = .nameConstraint) ∨
        ∃ pre ls lk suf, hostname = pre ++ [46].intercalate (ls ++ [lk]) ++ suf ∧
          (pre = [] ∨ (pre = [42, 46] ∧ matchType = .presentedID ∧ ls ≠ []) ∨
            (pre = [46] ∧ matchType = .nameConstraint)) ∧
          (suf = [] ∨ (suf = [46] ∧ matchType = .referenceID)) ∧
          (∀ l ∈ ls ++ [lk], IsDNSLabel l) ∧ ¬∀ b ∈ lk, isDigitByte b = true) := by
  by_cases hlen : 253 < hostname.length
  · unfold isValidDNSID
    rw [if_pos hlen]
    simp only [Bool.false_eq_true, false_iff, not_and]
    omega
  by_cases hnc : matchType = .nameConstraint ∧ hostname = []
  · obtain ⟨rfl, rfl⟩ := hnc
    simp [isValidDNSID]
  rw [and_iff_right (by omega), or_iff_right fun h => hnc ⟨h.2, h.1⟩]
  -- the prefix is read off the first byte, since the labels begin with neither `*` nor `.`
  by_cases hw : matchType = .presentedID ∧ hostname.head? = some 42
  · obtain ⟨rfl, hh⟩ := hw
    obtain ⟨rest, rfl⟩ := List.head?_eq_some_iff.mp hh
    rw [isValidDNSID_star_iff (by simp at hlen; omega)]
    constructor
    · rintro ⟨ls, lk, rfl, hls, hl, hdig⟩
      exact ⟨[42, 46], ls, lk, [], by simp, .inr (.inl ⟨rfl, rfl, hls⟩), .inl rfl, hl, hdig⟩
    · rintro ⟨pre, ls, lk, suf, he, hpre, hsuf, hl, hdig⟩
      rcases hpre with rfl | ⟨rfl, -, hls⟩ | ⟨rfl, hm⟩
      · rw [List.nil_append] at he
        exact ((head?_labels suf hl).1 (by rw [← he]; rfl)).elim
      · rcases hsuf with rfl | ⟨-, hm⟩
        · exact ⟨ls, lk, by simpa using he, hls, hl, hdig⟩
        · cases hm
      · cases hm
  by_cases hd : matchType = .nameConstraint ∧ hostname.head? = some 46
  · obtain ⟨rfl, hh⟩ := hd
    obtain ⟨y, rfl⟩ := List.head?_eq_some_iff.mp hh
    rw [isValidDNSID_dot_iff (by simp at hlen; omega)]
    constructor
    · rintro ⟨ls, lk, rfl, hl, hdig⟩
      exact ⟨[46], ls, lk, [], by simp, .inr (.inr ⟨rfl, rfl⟩), .inl rfl, hl, hdig⟩
    · rintro ⟨pre, ls, lk, suf, he, hpre, hsuf, hl, hdig⟩
      rcases hpre with rfl | ⟨rfl, hm, -⟩ | ⟨rfl, -⟩
      · rw [List.nil_append] at he
        exact ((head?_labels suf hl).2 (by rw [← he]; rfl)).elim
      · cases hm
      · rcases hsuf with rfl | ⟨-, hm⟩
        · exact ⟨ls, lk, by simpa using he, hl, hdig⟩
        · cases hm
  unfold isValidDNSID
  rw [if_neg hlen, if_neg hnc, if_neg hw, isValidDNSIDLabels_plain_iff fun hh hm => hd ⟨hm, hh⟩]
  constructor
  · rintro ⟨ls, lk, suf, rfl, hsuf, hl, hdig⟩
    exact ⟨[], ls, lk, suf, rfl, .inl rfl, hsuf, hl, hdig⟩
  · rintro ⟨pre, ls, lk, suf, rfl, hpre, hsuf, hl, hdig⟩
    rcases hpre with rfl | ⟨rfl, hm, -⟩ | ⟨rfl, hm⟩
    · exact ⟨ls, lk, suf, rfl, hsuf, hl, hdig⟩
    · exact absurd ⟨hm, rfl⟩ hw
    · exact absurd ⟨hm, rfl⟩ hd

end Grammar

end PkixNames
