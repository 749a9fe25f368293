import PkixNames.DNSID.Valid

/-!
# IPv4 literals: `ReadIPv4AddressComponent` and `ParseIPv4Address`

The component reader is a loop over the bytes with two locals, the digit count `length` and the
running `value`; it stops at the end of the input (last component) or at a `.` (the others). This
file embeds it and shows the parser inverts the formatter of dotted quads:

* `readIPv4AddressComponentLoop` is the loop, `readIPv4AddressComponent` adds the empty-component
  check, `parseIPv4Address` reads four components;
* `decimalNumeral n` is the decimal numeral of `n` without leading zeros;
* one component: the loop run over a numeral (`readIPv4AddressComponentLoop_decimalNumeral`) and
  what an accepting run consumed (`readIPv4AddressComponentLoop_run`), so a component is exactly
  a numeral of a byte followed by its terminator (`readIPv4AddressComponent_eq_some`);
* the whole literal (`parseIPv4Address_eq_some_iff`).
-/

namespace PkixNames

/-! ## 1. The parser -/

/-- The loop of `ReadIPv4AddressComponent`, from its locals `length` and `value`: it returns them
    with the input after the component (after its `.` unless it is the last). `value` is an
    `unsigned int` that the loop keeps at most 255, so it is a `Nat` here. -/
def readIPv4AddressComponentLoop (lastComponent : Bool) (length value : Nat) :
    Input → Option (Nat × Nat × Input)
  | [] => if lastComponent then some (length, value, []) else none
  | b :: rest =>
    if isDigitByte b then
      -- leading zeros are not allowed, nor a value above 255
      if value = 0 ∧ 0 < length then none
      else if 255 < value * 10 + (b.toNat - 48) then none
      else readIPv4AddressComponentLoop lastComponent (length + 1) (value * 10 + (b.toNat - 48)) rest
    else if !lastComponent ∧ b.toNat = 46 then some (length, value, rest)
    else none

/-- `ReadIPv4AddressComponent`: the component's value as the byte it writes, and the rest of the
    input. -/
def readIPv4AddressComponent (input : Input) (lastComponent : Bool) : Option (UInt8 × Input) :=
  match readIPv4AddressComponentLoop lastComponent 0 0 input with
  | some (length, value, rest) => if length = 0 then none else some (UInt8.ofNat value, rest)
  | none => none

/-- `ParseIPv4Address`: the four bytes it writes to `out` when it returns `true`. -/
def parseIPv4Address (hostname : Input) : Option (List UInt8) := do
  let (a, rest) ← readIPv4AddressComponent hostname false
  let (b, rest) ← readIPv4AddressComponent rest false
  let (c, rest) ← readIPv4AddressComponent rest false
  let (d, _) ← readIPv4AddressComponent rest true
  pure [a, b, c, d]

/-! ## 2. Decimal numerals -/

/-- The decimal numeral of `n`, without leading zeros. -/
def decimalNumeral (n : Nat) : Input :=
  if n < 10 then [UInt8.ofNat (48 + n)] else decimalNumeral (n / 10) ++ [UInt8.ofNat (48 + n % 10)]

/-- What follows a component: nothing after the last, a `.` and the rest after the others. -/
def ipv4Terminator (lastComponent : Bool) (rest : Input) : Input :=
  if lastComponent then [] else 46 :: rest

theorem decimalNumeral_of_lt {n : Nat} (h : n < 10) : decimalNumeral n = [UInt8.ofNat (48 + n)] := by
  rw [decimalNumeral, if_pos h]

theorem decimalNumeral_snoc {v d : Nat} (hv : 0 < v) (hd : d < 10) :
    decimalNumeral (v * 10 + d) = decimalNumeral v ++ [UInt8.ofNat (48 + d)] := by
  rw [decimalNumeral, if_neg (by omega), show (v * 10 + d) / 10 = v by omega,
    show (v * 10 + d) % 10 = d by omega]

theorem isDigitByte_eq_true {b : UInt8} : isDigitByte b = true ↔ 48 ≤ b.toNat ∧ b.toNat ≤ 57 := by
  simp [isDigitByte]

/-- A digit byte is the byte of its digit. -/
theorem ofNat_digit {b : UInt8} (h : isDigitByte b = true) : UInt8.ofNat (48 + (b.toNat - 48)) = b := by
  rw [isDigitByte_eq_true] at h
  rw [show 48 + (b.toNat - 48) = b.toNat by omega, byte_ofNat_toNat]

theorem isDigitByte_ofNat {d : Nat} (hd : d < 10) : isDigitByte (UInt8.ofNat (48 + d)) = true := by
  rw [isDigitByte_eq_true, byte_toNat_ofNat (by omega)]
  omega

theorem toNat_ofNat_digit {d : Nat} (hd : d < 10) : (UInt8.ofNat (48 + d)).toNat - 48 = d := by
  rw [byte_toNat_ofNat (by omega)]
  omega

theorem decimalNumeral_digits (n : Nat) : ∀ b ∈ decimalNumeral n, isDigitByte b = true := by
  induction n using Nat.strong_induction_on with
  | _ n ih =>
    rw [decimalNumeral]
    split
    · simp only [List.mem_singleton, forall_eq]
      exact isDigitByte_ofNat ‹_›
    · intro b hb
      rcases List.mem_append.mp hb with hb | hb
      · exact ih (n / 10) (by omega) b hb
      · rw [List.mem_singleton.mp hb]
        exact isDigitByte_ofNat (Nat.mod_lt _ (by omega))

theorem length_decimalNumeral_le {n : Nat} (h : n ≤ 255) : (decimalNumeral n).length ≤ 3 := by
  rw [decimalNumeral]
  split
  · simp
  · rw [decimalNumeral]
    split
    · simp
    · rw [decimalNumeral, if_pos (by omega)]
      simp

/-! ## 3. One component -/

section Component

variable {lastComponent : Bool}

theorem readIPv4AddressComponentLoop_terminator {length value : Nat} {rest : Input}
    (hrest : lastComponent = true → rest = []) :
    readIPv4AddressComponentLoop lastComponent length value (ipv4Terminator lastComponent rest) =
      some (length, value, rest) := by
  cases lastComponent with
  | true => simp [readIPv4AddressComponentLoop, ipv4Terminator, hrest rfl]
  | false => simp [readIPv4AddressComponentLoop, ipv4Terminator, isDigitByte]

/-- The loop runs through a numeral of at most 255 digit by digit, and stands after it with the
    numeral's length and value. -/
theorem readIPv4AddressComponentLoop_decimalNumeral (n : Nat) (hn : n ≤ 255) (rest : Input) :
    readIPv4AddressComponentLoop lastComponent 0 0 (decimalNumeral n ++ rest) =
      readIPv4AddressComponentLoop lastComponent (decimalNumeral n).length n rest := by
  induction n using Nat.strong_induction_on generalizing rest with
  | _ n ih =>
    by_cases h : n < 10
    · rw [decimalNumeral_of_lt h]
      simp [readIPv4AddressComponentLoop, isDigitByte_ofNat h, toNat_ofNat_digit h]
      omega
    · have hn10 : n = n / 10 * 10 + n % 10 := by omega
      rw [hn10, decimalNumeral_snoc (by omega) (Nat.mod_lt _ (by omega)), List.append_assoc,
        ih (n / 10) (by omega) (by omega)]
      simp only [List.singleton_append, readIPv4AddressComponentLoop,
        isDigitByte_ofNat (Nat.mod_lt n (by omega)), toNat_ofNat_digit (Nat.mod_lt n (by omega)),
        if_true, List.length_append, List.length_singleton]
      rw [if_neg (by omega), if_neg (by omega), ← hn10]
      rfl

/-- **What an accepting run consumed**: started after the numeral of `v`, an accepting run of the
    loop reads more digits `X` extending it to the numeral of its final value, then its
    terminator. -/
theorem readIPv4AddressComponentLoop_run {v length' value' : Nat} {input rest : Input}
    (hv : v ≤ 255)
    (h : readIPv4AddressComponentLoop lastComponent (decimalNumeral v).length v input =
      some (length', value', rest)) :
    value' ≤ 255 ∧ length' = (decimalNumeral value').length ∧ (lastComponent = true → rest = []) ∧
      ∃ X, input = X ++ ipv4Terminator lastComponent rest ∧
        decimalNumeral v ++ X = decimalNumeral value' := by
  induction input generalizing v with
  | nil =>
    cases lastComponent <;> simp [readIPv4AddressComponentLoop] at h
    obtain ⟨rfl, rfl, rfl⟩ := h
    exact ⟨hv, rfl, fun _ => rfl, [], by simp [ipv4Terminator]⟩
  | cons b input ih =>
    have hlen : 0 < (decimalNumeral v).length := by
      rw [decimalNumeral]; split <;> simp
    simp only [readIPv4AddressComponentLoop] at h
    by_cases hb : isDigitByte b = true
    · rw [if_pos hb] at h
      -- after the first digit, a value 0 is a leading zero
      have hv0 : 0 < v := by
        by_contra h0
        rw [if_pos ⟨by omega, hlen⟩] at h
        cases h
      rw [if_neg (by omega)] at h
      by_cases hmax : 255 < v * 10 + (b.toNat - 48)
      · rw [if_pos hmax] at h; cases h
      rw [if_neg hmax] at h
      have hd : b.toNat - 48 < 10 := by rw [isDigitByte_eq_true] at hb; omega
      rw [show (decimalNumeral v).length + 1 = (decimalNumeral (v * 10 + (b.toNat - 48))).length by
        simp [decimalNumeral_snoc hv0 hd]] at h
      obtain ⟨h1, h2, h3, X, rfl, hX⟩ := ih (by omega) h
      refine ⟨h1, h2, h3, b :: X, rfl, ?_⟩
      rw [← hX, decimalNumeral_snoc hv0 hd, ofNat_digit hb]
      simp
    · rw [if_neg hb] at h
      by_cases ht : (!lastComponent && decide (b.toNat = 46)) = true
      · rw [if_pos (by simpa using ht)] at h
        obtain ⟨rfl, rfl, rfl⟩ := h
        simp only [Bool.and_eq_true, Bool.not_eq_true', decide_eq_true_eq] at ht
        refine ⟨hv, rfl, by simp [ht.1], [], ?_, by simp⟩
        rw [ipv4Terminator, if_neg (by simp [ht.1]), show b = 46 from byte_eq_iff_toNat.mpr ht.2]
        rfl
      · rw [if_neg (by simpa using ht)] at h
        cases h

/-- **One component**: a component is read exactly when the input starts with the numeral of a
    byte and its terminator. -/
theorem readIPv4AddressComponent_eq_some {input rest : Input} {v : UInt8} :
    readIPv4AddressComponent input lastComponent = some (v, rest) ↔
      ∃ n, n ≤ 255 ∧ v = UInt8.ofNat n ∧
        input = decimalNumeral n ++ ipv4Terminator lastComponent rest ∧
        (lastComponent = true → rest = []) := by
  constructor
  · intro h
    unfold readIPv4AddressComponent at h
    obtain ⟨length, value, rest', hl, hlen, rfl, rfl⟩ :
        ∃ length value rest', readIPv4AddressComponentLoop lastComponent 0 0 input =
          some (length, value, rest') ∧ length ≠ 0 ∧ v = UInt8.ofNat value ∧ rest = rest' := by
      cases hl : readIPv4AddressComponentLoop lastComponent 0 0 input with
      | none => rw [hl] at h; cases h
      | some res =>
        obtain ⟨length, value, rest'⟩ := res
        rw [hl] at h
        dsimp only at h
        split at h
        · cases h
        · cases h
          exact ⟨_, _, _, rfl, ‹_›, rfl, rfl⟩
    -- the first byte is a digit: a terminator would leave `length` at 0
    cases input with
    | nil => cases lastComponent <;> simp [readIPv4AddressComponentLoop] at hl; omega
    | cons b input =>
      simp only [readIPv4AddressComponentLoop] at hl
      by_cases hb : isDigitByte b = true
      · have hd : b.toNat - 48 < 10 := by rw [isDigitByte_eq_true] at hb; omega
        rw [if_pos hb, if_neg (by omega), if_neg (by omega)] at hl
        have hl' : readIPv4AddressComponentLoop lastComponent
            (decimalNumeral (b.toNat - 48)).length (b.toNat - 48) input = some (length, value, rest) := by
          simpa [decimalNumeral_of_lt hd] using hl
        obtain ⟨h1, -, h3, X, rfl, hX⟩ := readIPv4AddressComponentLoop_run (by omega) hl'
        refine ⟨value, h1, rfl, ?_, h3⟩
        rw [← hX, decimalNumeral_of_lt hd, ofNat_digit hb]
        simp
      · rw [if_neg hb] at hl
        split at hl
        · cases hl; omega
        · cases hl
  · rintro ⟨n, hn, rfl, rfl, hrest⟩
    unfold readIPv4AddressComponent
    rw [readIPv4AddressComponentLoop_decimalNumeral n hn, readIPv4AddressComponentLoop_terminator hrest]
    have : (decimalNumeral n).length ≠ 0 := by rw [decimalNumeral]; split <;> simp
    simp [this]

end Component

/-- The numeral of a byte, then `.`, is read as that byte. -/
theorem readIPv4AddressComponent_decimalNumeral_dot (a : UInt8) (rest : Input) :
    readIPv4AddressComponent (decimalNumeral a.toNat ++ 46 :: rest) false = some (a, rest) :=
  readIPv4AddressComponent_eq_some.mpr
    ⟨a.toNat, by have := byte_toNat_lt a; omega, (byte_ofNat_toNat a).symm, rfl, nofun⟩

/-- The numeral of a byte, alone, is read as that byte by the last component. -/
theorem readIPv4AddressComponent_decimalNumeral_last (a : UInt8) :
    readIPv4AddressComponent (decimalNumeral a.toNat) true = some (a, []) :=
  readIPv4AddressComponent_eq_some.mpr
    ⟨a.toNat, by have := byte_toNat_lt a; omega, (byte_ofNat_toNat a).symm,
      by simp [ipv4Terminator], fun _ => rfl⟩

/-! ## 4. Dotted quads -/

/-- What `ParseIPv4Address` accepts starts with the numeral of a byte and a `.`, and it writes
    four bytes. -/
theorem parseIPv4Address_eq_some {s out : Input} (h : parseIPv4Address s = some out) :
    out.length = 4 ∧ ∃ n rest, n ≤ 255 ∧ s = decimalNumeral n ++ 46 :: rest := by
  simp only [parseIPv4Address, Option.bind_eq_bind, Option.bind_eq_some, Option.pure_def,
    Option.some.injEq, Prod.exists] at h
  obtain ⟨a, r1, h1, b, r2, -, c, r3, -, d, r4, -, rfl⟩ := h
  obtain ⟨n, hn, -, rfl, -⟩ := readIPv4AddressComponent_eq_some.mp h1
  exact ⟨rfl, n, r1, hn, rfl⟩

/-- **IPv4 round trip**: `ParseIPv4Address` accepts exactly the dotted quads of decimal numerals
    without leading zeros, and writes the four bytes they denote. -/
theorem parseIPv4Address_eq_some_iff {s : Input} {a b c d : UInt8} :
    parseIPv4Address s = some [a, b, c, d] ↔
      s = decimalNumeral a.toNat ++ [46] ++ decimalNumeral b.toNat ++ [46] ++
        decimalNumeral c.toNat ++ [46] ++ decimalNumeral d.toNat := by
  constructor
  · intro h
    simp only [parseIPv4Address, Option.bind_eq_bind, Option.bind_eq_some, Option.pure_def,
      Option.some.injEq, Prod.exists] at h
    obtain ⟨a', r1, h1, b', r2, h2, c', r3, h3, d', r4, h4, he⟩ := h
    simp only [List.cons.injEq, and_true] at he
    obtain ⟨rfl, rfl, rfl, rfl⟩ := he
    obtain ⟨n1, hn1, rfl, rfl, -⟩ := readIPv4AddressComponent_eq_some.mp h1
    obtain ⟨n2, hn2, rfl, rfl, -⟩ := readIPv4AddressComponent_eq_some.mp h2
    obtain ⟨n3, hn3, rfl, rfl, -⟩ := readIPv4AddressComponent_eq_some.mp h3
    obtain ⟨n4, hn4, rfl, rfl, -⟩ := readIPv4AddressComponent_eq_some.mp h4
    simp [ipv4Terminator, byte_toNat_ofNat (show n1 < 256 by omega),
      byte_toNat_ofNat (show n2 < 256 by omega), byte_toNat_ofNat (show n3 < 256 by omega),
      byte_toNat_ofNat (show n4 < 256 by omega)]
  · rintro rfl
    simp only [List.append_assoc, List.cons_append, List.nil_append, parseIPv4Address, Option.bind_eq_bind,
      readIPv4AddressComponent_decimalNumeral_dot, readIPv4AddressComponent_decimalNumeral_last,
      Option.some_bind]
    rfl

end PkixNames
