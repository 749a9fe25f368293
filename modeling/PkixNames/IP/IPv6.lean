import PkixNames.IP.IPv4

/-!
# IPv6 literals: `ParseIPv6Address` and `FinishIPv6Address`

The parser reads 16-bit groups of hex digits separated by `:` into the output buffer, two bytes
a group, notes where a `::` stood (`contractionIndex`), backtracks on a `.` to read the rest as a
dotted quad filling two groups, and at the end `FinishIPv6Address` moves the groups after the
contraction to the end of the buffer and zeroes the gap. The buffer is written, never read before
it is written, so the result does not depend on its initial content.

* the buffer operations (`writeBytes`, a `memmove` and a `memset`), `finishIPv6Address`;
* the hex loop (`readIPv6Component`) and the component loop (`parseIPv6Components`);
* the grammar of literals with its denotation (`IPv6Side`, `IPv6Literal`);
* the characterisation (`parseIPv6Address_eq_some_iff`).
-/

namespace PkixNames

/-! ## 1. The buffer -/

/-- `out` with `bs` stored from index `i` on: the stores of the source, and its `memmove` and
    `memset`. -/
def writeBytes (out : List UInt8) (i : Nat) (bs : List UInt8) : List UInt8 :=
  out.take i ++ bs ++ out.drop (i + bs.length)

/-- `FinishIPv6Address`: checks the counts, and moves the groups after a contraction to the end
    of the buffer, zeroes between. -/
def finishIPv6Address (address : List UInt8) (numComponents contractionIndex : Int) :
    Option (List UInt8) :=
  if ¬(0 ≤ numComponents ∧ numComponents ≤ 8 ∧ -1 ≤ contractionIndex ∧ contractionIndex ≤ 8 ∧
      contractionIndex ≤ numComponents) then none
  -- no contraction
  else if contractionIndex = -1 then if numComponents = 8 then some address else none
  -- no room left to expand the contraction
  else if 8 ≤ numComponents then none
  else
    -- past the checks both counts are in `0..8`, so the `unsigned` arithmetic is on naturals
    let numComponents := numComponents.toNat
    let contractionIndex := contractionIndex.toNat
    let componentsToMove := numComponents - contractionIndex
    let address := writeBytes address (2 * (8 - componentsToMove))
      ((address.drop (2 * contractionIndex)).take (componentsToMove * 2))
    some (writeBytes address (2 * contractionIndex) (List.replicate ((8 - numComponents) * 2) 0))

/-! ## 2. The parser -/

/-- The value of a hex digit of either case, from the `case` labels of the source's `switch`. -/
def hexDigitValue (b : UInt8) : Option Nat :=
  if 48 ≤ b.toNat ∧ b.toNat ≤ 57 then some (b.toNat - 48)
  else if 97 ≤ b.toNat ∧ b.toNat ≤ 102 then some (b.toNat - 97 + 10)
  else if 65 ≤ b.toNat ∧ b.toNat ≤ 70 then some (b.toNat - 65 + 10)
  else none

/-- Where the hex loop of `ParseIPv6Address` stops. -/
inductive IPv6Component
  /-- at the end of the input or at a `:`, with the group's value and digit count -/
  | group (componentValue componentLength : Nat) (rest : Input)
  /-- at a `.`: the component is a dotted quad -/
  | dot
  /-- at any other byte, or at a fifth digit -/
  | invalid
  deriving DecidableEq, Repr

/-- The hex loop of `ParseIPv6Address`, from its locals `componentValue` (a `uint16_t` that four
    digits cannot overflow) and `componentLength`. -/
def readIPv6Component (componentValue componentLength : Nat) : Input → IPv6Component
  | [] => .group componentValue componentLength []
  | b :: rest =>
    if b.toNat = 58 then .group componentValue componentLength (b :: rest)
    else if b.toNat = 46 then .dot
    else match hexDigitValue b with
      | none => .invalid
      | some value =>
        if 4 ≤ componentLength then .invalid
        else readIPv6Component (componentValue * 16 + value) (componentLength + 1) rest

/-- The component loop of `ParseIPv6Address`, from the buffer, `contractionIndex` (`-1` before a
    `::`) and `currentComponentIndex`, at the start of a component. -/
def parseIPv6Components (out : List UInt8) (contractionIndex : Int) (currentComponentIndex : Nat)
    (input : Input) : Option (List UInt8) :=
  match readIPv6Component 0 0 input with
  | .invalid => none
  | .dot =>
    -- backtrack: the component and the rest of the input are a dotted quad
    if 6 < currentComponentIndex then none
    else match parseIPv4Address input with
      | none => none
      | some ipv4 =>
        finishIPv6Address (writeBytes out (2 * currentComponentIndex) ipv4)
          (currentComponentIndex + 2 : Nat) contractionIndex
  | .group componentValue componentLength rest =>
    if 8 ≤ currentComponentIndex then none
    else if componentLength = 0 then
      if rest = [] ∧ (currentComponentIndex : Int) = contractionIndex then
        -- don't accept "::"
        if contractionIndex = 0 then none
        else finishIPv6Address out currentComponentIndex contractionIndex
      else none
    else
      let out := writeBytes out (2 * currentComponentIndex)
        [UInt8.ofNat (componentValue / 256), UInt8.ofNat (componentValue % 256)]
      match rest with
      | [] => finishIPv6Address out (currentComponentIndex + 1 : Nat) contractionIndex
      | _ :: rest =>
        -- the byte read is the `:` the hex loop stopped at; a second one is a contraction
        if rest.head? = some 58 then
          if contractionIndex ≠ -1 then none
          else if rest.tail = [] then
            finishIPv6Address out (currentComponentIndex + 1 : Nat) (currentComponentIndex + 1 : Nat)
          else parseIPv6Components out (currentComponentIndex + 1 : Nat) (currentComponentIndex + 1)
            rest.tail
        else parseIPv6Components out contractionIndex (currentComponentIndex + 1) rest
termination_by 8 - currentComponentIndex

/-- `ParseIPv6Address`, from the initial content of its output buffer: the buffer when it
    returns `true`. -/
def parseIPv6Address (hostname : Input) (out : List UInt8) : Option (List UInt8) :=
  if hostname.head? = some 58 then
    -- a valid input can only start with `:` if it starts with a contraction
    if hostname.tail.head? = some 58 then parseIPv6Components out 0 0 hostname.tail.tail
    else none
  else parseIPv6Components out (-1) 0 hostname

/-! ## 3. What the buffer operations leave -/

section Buffer

variable {out : List UInt8}

@[simp] theorem length_writeBytes {i : Nat} {bs : List UInt8} (h : i + bs.length ≤ out.length) :
    (writeBytes out i bs).length = out.length := by
  simp [writeBytes]; omega

theorem take_writeBytes {i : Nat} {bs : List UInt8} (h : i ≤ out.length) :
    (writeBytes out i bs).take (i + bs.length) = out.take i ++ bs := by
  rw [writeBytes, List.append_assoc, List.take_append_eq_append_take, List.length_take,
    min_eq_left h, List.take_of_length_le (by simp [h]), show i + bs.length - i = bs.length by omega,
    List.take_append_eq_append_take, List.take_of_length_le le_rfl]
  simp

/-- A store that reaches the end of the buffer leaves only what stands before it. -/
theorem writeBytes_of_end {i : Nat} {bs : List UInt8} (h : i + bs.length = out.length) :
    writeBytes out i bs = out.take i ++ bs := by
  rw [writeBytes, h, List.drop_length, List.append_nil]

/-- **`FinishIPv6Address`, characterised** on a 16-byte buffer whose first `n` groups are
    written: without a contraction it needs all eight groups; with one at `c` it moves the
    groups after `c` to the end and zeroes the `8 - n` groups between. -/
theorem finishIPv6Address_eq_some (hout : out.length = 16) {n : Nat} {contractionIndex : Int}
    {res : List UInt8} (hn : n ≤ 8) (hci : -1 ≤ contractionIndex) :
    finishIPv6Address out n contractionIndex = some res ↔
      (contractionIndex = -1 ∧ n = 8 ∧ res = out) ∨
      ∃ c : Nat, contractionIndex = c ∧ c ≤ n ∧ n < 8 ∧
        res = out.take (2 * c) ++ List.replicate (2 * (8 - n)) 0 ++ (out.take (2 * n)).drop (2 * c) := by
  by_cases hc : contractionIndex = -1
  · subst hc
    unfold finishIPv6Address
    rw [if_neg (by omega), if_pos rfl]
    by_cases h8 : (n : Int) = 8
    · rw [if_pos h8]; simp [eq_comm]; omega
    · rw [if_neg h8]; simp; omega
  obtain ⟨c, rfl⟩ : ∃ c : Nat, contractionIndex = c := ⟨contractionIndex.toNat, by omega⟩
  have hright : ((∃ c' : Nat, (c : Int) = c' ∧ c' ≤ n ∧ n < 8 ∧
        res = out.take (2 * c') ++ List.replicate (2 * (8 - n)) 0 ++
          (out.take (2 * n)).drop (2 * c')) ↔
      c ≤ n ∧ n < 8 ∧ res = out.take (2 * c) ++ List.replicate (2 * (8 - n)) 0 ++
          (out.take (2 * n)).drop (2 * c)) :=
    ⟨fun ⟨c', hc', h⟩ => by obtain rfl : c = c' := by omega
                            exact h, fun h => ⟨c, rfl, h⟩⟩
  simp only [hc, false_and, false_or, hright]
  unfold finishIPv6Address
  by_cases hcn : c ≤ n ∧ n < 8
  · rw [if_neg (by omega), if_neg hc, if_neg (by omega)]
    simp only [Option.some.injEq, hcn, true_and]
    -- the moved groups land at the end, and the zeroes fill the gap before them
    set X := (out.take (2 * n)).drop (2 * c)
    have hX : X.length = 2 * (n - c) := by simp [X]; omega
    have hmove : (out.drop (2 * c)).take (2 * (n - c)) = X := by
      show _ = (out.take (2 * n)).drop (2 * c)
      rw [List.drop_take, show 2 * n - 2 * c = 2 * (n - c) by omega]
    have htake : (out.take (16 - 2 * (n - c))).length = 16 - 2 * (n - c) := by simp; omega
    simp only [Int.toNat_ofNat]
    rw [Nat.mul_comm (n - c), show 2 * (8 - (n - c)) = 16 - 2 * (n - c) by omega,
      Nat.mul_comm (8 - n), hmove,
      @writeBytes_of_end out (16 - 2 * (n - c)) X (by omega), writeBytes, List.length_replicate,
      show 2 * c + 2 * (8 - n) = 16 - 2 * (n - c) by omega, List.drop_left' htake,
      List.take_append_of_le_length (by omega), List.take_take, min_eq_left (by omega)]
    exact eq_comm
  · have hnone : ¬(c ≤ n ∧ n < 8 ∧ res = out.take (2 * c) ++ List.replicate (2 * (8 - n)) 0 ++
        (out.take (2 * n)).drop (2 * c)) := fun h => hcn ⟨h.1, h.2.1⟩
    by_cases hg : c ≤ n
    · rw [if_neg (by omega), if_neg hc, if_pos (by omega)]
      simpa using hnone
    · rw [if_pos (by omega)]
      simpa using hnone

end Buffer

/-! ## 4. The hex loop -/

/-- One step of the hex loop's accumulator. -/
def hexStep (v : Nat) (b : UInt8) : Nat := v * 16 + (hexDigitValue b).getD 0

theorem hexDigitValue_isSome {b : UInt8} (h : (hexDigitValue b).isSome = true) :
    b.toNat ≠ 58 ∧ b.toNat ≠ 46 := by
  unfold hexDigitValue at h
  split_ifs at h <;> first | omega | simp at h

theorem hexDigitValue_digit {b : UInt8} (h : isDigitByte b = true) :
    (hexDigitValue b).isSome = true := by
  rw [isDigitByte_eq_true] at h
  simp [hexDigitValue, h]

section HexLoop

variable {v len : Nat}

@[simp] theorem readIPv6Component_nil : readIPv6Component v len [] = .group v len [] := rfl

theorem readIPv6Component_colon {rest : Input} :
    readIPv6Component v len (58 :: rest) = .group v len (58 :: rest) := by
  simp [readIPv6Component]

theorem readIPv6Component_dot {rest : Input} : readIPv6Component v len (46 :: rest) = .dot := by
  simp [readIPv6Component]

/-- The hex loop reads up to four hex digits into its accumulator. -/
theorem readIPv6Component_hex_append {g rest : Input}
    (hg : ∀ b ∈ g, (hexDigitValue b).isSome = true) (hlen : len + g.length ≤ 4) :
    readIPv6Component v len (g ++ rest) =
      readIPv6Component (g.foldl hexStep v) (len + g.length) rest := by
  induction g generalizing v len with
  | nil => rfl
  | cons b g ih =>
    have hb := hg b (List.mem_cons_self _ _)
    obtain ⟨value, hv⟩ := Option.isSome_iff_exists.mp hb
    obtain ⟨h58, h46⟩ := hexDigitValue_isSome hb
    rw [List.cons_append]
    simp only [readIPv6Component, if_neg h58, if_neg h46, hv,
      if_neg (show ¬4 ≤ len by simp at hlen; omega)]
    rw [ih (fun b hb => hg b (List.mem_cons_of_mem _ hb)) (by simp at hlen; omega)]
    simp [hexStep, hv, Nat.add_assoc, Nat.add_comm 1]

/-- **What a group the hex loop returns consumed**: hex digits, at most four with what it had
    read, up to the end or a `:`. -/
theorem readIPv6Component_eq_group {input rest : Input} {v' len' : Nat} (hlen : len ≤ 4)
    (h : readIPv6Component v len input = .group v' len' rest) :
    ∃ g, input = g ++ rest ∧ (∀ b ∈ g, (hexDigitValue b).isSome = true) ∧
      len' = len + g.length ∧ len' ≤ 4 ∧ v' = g.foldl hexStep v ∧
      (rest = [] ∨ rest.head? = some 58) := by
  induction input generalizing v len with
  | nil =>
    cases h
    exact ⟨[], rfl, by simp, rfl, hlen, rfl, .inl rfl⟩
  | cons b input ih =>
    simp only [readIPv6Component] at h
    by_cases h58 : b.toNat = 58
    · rw [if_pos h58] at h
      cases h
      exact ⟨[], rfl, by simp, rfl, hlen, rfl, .inr (by simp [show b = 58 from byte_eq_iff_toNat.mpr h58])⟩
    rw [if_neg h58] at h
    by_cases h46 : b.toNat = 46
    · rw [if_pos h46] at h; cases h
    rw [if_neg h46] at h
    cases hv : hexDigitValue b with
    | none => rw [hv] at h; cases h
    | some value =>
      rw [hv] at h
      dsimp only at h
      by_cases h4 : 4 ≤ len
      · rw [if_pos h4] at h; cases h
      rw [if_neg h4] at h
      obtain ⟨g, rfl, hg, rfl, h4', rfl, hrest⟩ := ih (by omega) h
      refine ⟨b :: g, rfl, ?_, by simp; omega, h4', by simp [hexStep, hv], hrest⟩
      intro c hc
      rcases List.mem_cons.mp hc with rfl | hc
      · simp [hv]
      · exact hg c hc

end HexLoop

/-! ## 5. The grammar of IPv6 literals -/

/-- The text of a 16-bit group: one to four hex digits. -/
def IsHexGroup (t : Input) : Prop :=
  t ≠ [] ∧ t.length ≤ 4 ∧ ∀ b ∈ t, (hexDigitValue b).isSome = true

/-- The two bytes a group stands for, big-endian. -/
def groupBytes (t : Input) : List UInt8 :=
  [UInt8.ofNat (t.foldl hexStep 0 / 256), UInt8.ofNat (t.foldl hexStep 0 % 256)]

@[simp] theorem length_groupBytes (t : Input) : (groupBytes t).length = 2 := rfl

/-- Texts joined by `:`. -/
def joinColon : List Input → Input
  | [] => []
  | [t] => t
  | t :: ts => t ++ 58 :: joinColon ts

/-- One side of a `::`, or a literal without one: groups, then perhaps a dotted quad. -/
structure IPv6Side where
  groups : List Input
  quad : Option Input

namespace IPv6Side

/-- The texts of the side's groups and quad, in order. -/
def pieces (p : IPv6Side) : List Input := p.groups ++ p.quad.toList

def text (p : IPv6Side) : Input := joinColon p.pieces

/-- The number of 16-bit groups the side fills; a dotted quad fills two. -/
def count (p : IPv6Side) : Nat := p.groups.length + 2 * p.quad.toList.length

def Valid (p : IPv6Side) : Prop :=
  (∀ g ∈ p.groups, IsHexGroup g) ∧ ∀ q ∈ p.quad, (parseIPv4Address q).isSome = true

/-- The bytes the side stands for: two a group, then the four of the dotted quad. -/
def bytes (p : IPv6Side) : List UInt8 :=
  p.groups.flatMap groupBytes ++ (p.quad.bind parseIPv4Address).getD []

/-- The side with one more group in front. -/
def cons (g : Input) (p : IPv6Side) : IPv6Side := ⟨g :: p.groups, p.quad⟩

@[simp] theorem pieces_cons (g : Input) (p : IPv6Side) : (cons g p).pieces = g :: p.pieces := rfl

@[simp] theorem count_cons (g : Input) (p : IPv6Side) : (cons g p).count = p.count + 1 := by
  simp [cons, count]; omega

@[simp] theorem bytes_cons (g : Input) (p : IPv6Side) :
    (cons g p).bytes = groupBytes g ++ p.bytes := by
  simp [cons, bytes]

@[simp] theorem valid_cons {g : Input} {p : IPv6Side} : (cons g p).Valid ↔ IsHexGroup g ∧ p.Valid := by
  simp [cons, Valid, and_assoc]

theorem text_cons (g : Input) (p : IPv6Side) :
    (cons g p).text = if p.pieces = [] then g else g ++ 58 :: p.text := by
  unfold text
  rw [pieces_cons]
  split
  · rename_i h; rw [h]; rfl
  · obtain ⟨t, ts, e⟩ := List.exists_cons_of_ne_nil ‹_›
    rw [e]; rfl

theorem pieces_eq_nil {p : IPv6Side} : p.pieces = [] ↔ p = ⟨[], none⟩ := by
  rcases p with ⟨_ | _, _ | _⟩ <;> simp [pieces]

@[simp] theorem pieces_nil : (⟨[], none⟩ : IPv6Side).pieces = [] := rfl
@[simp] theorem text_nil : (⟨[], none⟩ : IPv6Side).text = [] := rfl
@[simp] theorem count_nil : (⟨[], none⟩ : IPv6Side).count = 0 := rfl
@[simp] theorem bytes_nil : (⟨[], none⟩ : IPv6Side).bytes = [] := rfl

@[simp] theorem pieces_quad (q : Input) : (⟨[], some q⟩ : IPv6Side).pieces = [q] := rfl
@[simp] theorem text_quad (q : Input) : (⟨[], some q⟩ : IPv6Side).text = q := rfl
@[simp] theorem count_quad (q : Input) : (⟨[], some q⟩ : IPv6Side).count = 2 := rfl
@[simp] theorem bytes_quad (q : Input) :
    (⟨[], some q⟩ : IPv6Side).bytes = (parseIPv4Address q).getD [] := rfl

/-- Every side is empty, a dotted quad alone, or a group in front of a side. -/
theorem cases_eq (p : IPv6Side) :
    p = ⟨[], none⟩ ∨ (∃ q, p = ⟨[], some q⟩) ∨ ∃ g p', p = cons g p' := by
  rcases p with ⟨_ | ⟨g, gs⟩, _ | q⟩
  · exact .inl rfl
  · exact .inr (.inl ⟨q, rfl⟩)
  · exact .inr (.inr ⟨g, ⟨gs, none⟩, rfl⟩)
  · exact .inr (.inr ⟨g, ⟨gs, some q⟩, rfl⟩)

end IPv6Side

/-- A dotted quad sends the hex loop to its `.` branch: it starts with at most three digits. -/
theorem readIPv6Component_quad {q x : Input} (h : parseIPv4Address q = some x) :
    readIPv6Component 0 0 q = .dot := by
  obtain ⟨-, n, rest, hn, rfl⟩ := parseIPv4Address_eq_some h
  rw [readIPv6Component_hex_append (fun b hb => hexDigitValue_digit (decimalNumeral_digits n b hb))
    (by have := length_decimalNumeral_le hn; omega), readIPv6Component_dot]

namespace IPv6Side

/-- The text of a valid side with pieces starts with a group or a quad, so not with `:`. -/
theorem text_head (p : IPv6Side) (hp : p.Valid) (hne : p.pieces ≠ []) :
    p.text ≠ [] ∧ p.text.head? ≠ some 58 := by
  rcases cases_eq p with rfl | ⟨q, rfl⟩ | ⟨g, p', rfl⟩
  · exact absurd rfl hne
  · obtain ⟨x, hx⟩ := Option.isSome_iff_exists.mp (hp.2 q rfl)
    obtain ⟨-, n, rest, -, rfl⟩ := parseIPv4Address_eq_some hx
    have hd := decimalNumeral_digits n
    obtain ⟨b, t, e⟩ := List.exists_cons_of_ne_nil (show decimalNumeral n ≠ [] by
      rw [decimalNumeral]; split <;> simp)
    have hb := hexDigitValue_isSome (hexDigitValue_digit (hd b (by simp [e])))
    simp only [text, pieces, List.nil_append, Option.toList_some, joinColon, e, List.cons_append,
      ne_eq, reduceCtorEq, not_false_eq_true, List.head?_cons, Option.some.injEq, true_and]
    exact fun h => hb.1 (by rw [h]; rfl)
  · obtain ⟨⟨hg, -, hgd⟩, -⟩ := valid_cons.mp hp
    obtain ⟨b, t, rfl⟩ := List.exists_cons_of_ne_nil hg
    have hb := hexDigitValue_isSome (hgd b (List.mem_cons_self _ _))
    rw [text_cons]
    split <;> simp only [List.cons_append, ne_eq, reduceCtorEq, not_false_eq_true,
      List.head?_cons, Option.some.injEq, true_and] <;> exact fun h => hb.1 (by rw [h]; rfl)

theorem text_eq_nil {p : IPv6Side} (hp : p.Valid) : p.text = [] ↔ p.pieces = [] := by
  constructor
  · intro h
    by_contra hne
    exact (text_head p hp hne).1 h
  · intro h
    simp [text, h, joinColon]

end IPv6Side

/-- **IPv6 literals and the 16 bytes each denotes**: eight groups; or groups before and after one
    `::`, at most seven in all, the zero groups filling the rest; the last group of the literal
    may be a dotted quad, counting as two. -/
def IPv6Literal (s addr : List UInt8) : Prop :=
  (∃ p : IPv6Side, p.Valid ∧ p.count = 8 ∧ s = p.text ∧ addr = p.bytes) ∨
  ∃ l r : IPv6Side, l.Valid ∧ l.quad = none ∧ r.Valid ∧ l.count + r.count ≤ 7 ∧
    s = l.text ++ 58 :: 58 :: r.text ∧ s ≠ [58, 58] ∧
    addr = l.bytes ++ List.replicate (2 * (8 - l.count - r.count)) 0 ++ r.bytes

/-! ## 6. The component loop -/

/-- The rest of the input after a `::` at group `c`, read from group `cci` on, with the buffer the
    loop ends with when `B` holds the groups read so far: the side after the `::`, empty only
    right after the `::` and not at the start. -/
def IPv6RestAfter (c cci : Nat) (input B res : List UInt8) : Prop :=
  ∃ r : IPv6Side, r.Valid ∧ cci + r.count ≤ 7 ∧ input = r.text ∧
    (r.pieces = [] → cci = c ∧ c ≠ 0) ∧
    res = B.take (2 * c) ++ List.replicate (2 * (8 - cci - r.count)) 0 ++ B.drop (2 * c) ++ r.bytes

/-- The rest of the input before a `::`, read from group `cci` on: the tail of an eight-group
    literal, or groups, `::` and the side after it. -/
def IPv6RestBefore (cci : Nat) (input B res : List UInt8) : Prop :=
  (∃ p : IPv6Side, p.Valid ∧ p.pieces ≠ [] ∧ cci + p.count = 8 ∧ input = p.text ∧
    res = B ++ p.bytes) ∨
  ∃ l r : IPv6Side, l.Valid ∧ l.groups ≠ [] ∧ l.quad = none ∧ r.Valid ∧
    cci + l.count + r.count ≤ 7 ∧ input = l.text ++ 58 :: 58 :: r.text ∧
    res = B ++ l.bytes ++ List.replicate (2 * (8 - cci - l.count - r.count)) 0 ++ r.bytes

section Loop

variable {out : List UInt8}

/-- A group's store leaves the buffer's length, and its two bytes after the groups before. -/
theorem writeBytes_groupBytes (hout : out.length = 16) {cci : Nat} (hcci : cci < 8) (g : Input) :
    (writeBytes out (2 * cci) (groupBytes g)).length = 16 ∧
      (writeBytes out (2 * cci) (groupBytes g)).take (2 * (cci + 1)) =
        out.take (2 * cci) ++ groupBytes g := by
  refine ⟨by rw [length_writeBytes (by simp; omega), hout], ?_⟩
  rw [show 2 * (cci + 1) = 2 * cci + (groupBytes g).length by simp; omega,
    take_writeBytes (by omega)]

/-- The buffer `FinishIPv6Address` leaves after a contraction at `c`, read off the groups. -/
theorem finish_take_drop {B W : List UInt8} {c cci n : Nat} (hB : out.take (2 * n) = B ++ W)
    (hBlen : B.length = 2 * cci) (hc : c ≤ cci) (hn : cci ≤ n) (z : List UInt8) :
    out.take (2 * c) ++ z ++ (out.take (2 * n)).drop (2 * c) =
      B.take (2 * c) ++ z ++ B.drop (2 * c) ++ W := by
  have htake : out.take (2 * c) = B.take (2 * c) := by
    rw [show out.take (2 * c) = (out.take (2 * n)).take (2 * c) by
      rw [List.take_take, min_eq_left (by omega)], hB, List.take_append_of_le_length (by omega)]
  rw [htake, hB, List.drop_append_of_le_length (by omega), List.append_assoc _ _ W]

/-- A store of the groups read so far shows through the prefix a contraction keeps. -/
theorem take_drop_append {B W : List UInt8} {c cci : Nat} (hB : B.length = 2 * cci)
    (hc : c ≤ cci) : (B ++ W).take (2 * c) = B.take (2 * c) ∧
      (B ++ W).drop (2 * c) = B.drop (2 * c) ++ W :=
  ⟨List.take_append_of_le_length (by omega), List.drop_append_of_le_length (by omega)⟩

/-! The loop's equations, one for each shape of what it reads. -/

section Steps

variable {ci : Int} {cci : Nat} {g : Input}

theorem parseIPv6Components_group_end (hg : IsHexGroup g) (hcci : cci < 8) :
    parseIPv6Components out ci cci g =
      finishIPv6Address (writeBytes out (2 * cci) (groupBytes g)) (cci + 1 : Nat) ci := by
  conv_lhs => rw [← List.append_nil g, parseIPv6Components,
    readIPv6Component_hex_append hg.2.2 (by simpa using hg.2.1), readIPv6Component_nil]
  dsimp only
  rw [if_neg (by omega), if_neg (by simpa using hg.1)]
  rfl

theorem parseIPv6Components_group_next {rest : Input} (hg : IsHexGroup g) (hcci : cci < 8)
    (hrest : rest.head? ≠ some 58) :
    parseIPv6Components out ci cci (g ++ 58 :: rest) =
      parseIPv6Components (writeBytes out (2 * cci) (groupBytes g)) ci (cci + 1) rest := by
  conv_lhs => rw [parseIPv6Components,
    readIPv6Component_hex_append hg.2.2 (by simpa using hg.2.1), readIPv6Component_colon]
  dsimp only
  rw [if_neg (by omega), if_neg (by simpa using hg.1), if_neg hrest]
  rfl

theorem parseIPv6Components_group_contraction {rest : Input} (hg : IsHexGroup g)
    (hcci : cci < 8) :
    parseIPv6Components out (-1) cci (g ++ 58 :: 58 :: rest) =
      if rest = [] then
        finishIPv6Address (writeBytes out (2 * cci) (groupBytes g)) (cci + 1 : Nat) (cci + 1 : Nat)
      else parseIPv6Components (writeBytes out (2 * cci) (groupBytes g)) (cci + 1 : Nat) (cci + 1)
        rest := by
  conv_lhs => rw [parseIPv6Components,
    readIPv6Component_hex_append hg.2.2 (by simpa using hg.2.1), readIPv6Component_colon]
  dsimp only
  rw [if_neg (by omega), if_neg (by simpa using hg.1),
    if_pos (show (58 :: rest).head? = some 58 from rfl),
    if_neg (show ¬((-1 : Int) ≠ -1) from fun h => h rfl)]
  rfl

theorem parseIPv6Components_quad {q ipv4 : Input} (hq : parseIPv4Address q = some ipv4)
    (hcci : cci ≤ 6) :
    parseIPv6Components out ci cci q =
      finishIPv6Address (writeBytes out (2 * cci) ipv4) (cci + 2 : Nat) ci := by
  rw [parseIPv6Components, readIPv6Component_quad hq]
  dsimp only
  rw [if_neg (by omega), hq]

theorem parseIPv6Components_nil (hcci : cci < 8) (hc : cci ≠ 0) :
    parseIPv6Components out cci cci [] = finishIPv6Address out cci cci := by
  rw [parseIPv6Components, readIPv6Component_nil]
  dsimp only
  rw [if_neg (by omega), if_pos rfl, if_pos ⟨rfl, rfl⟩, if_neg (by omega)]

/-- **One turn of the component loop, inverted**: an accepting run reads a dotted quad to the
    end, an empty component right after a `::`, or a group followed by the end, by one `:`, or by
    a `::` that is the first. -/
theorem parseIPv6Components_eq_some {input res : List UInt8}
    (h : parseIPv6Components out ci cci input = some res) :
    (∃ ipv4, parseIPv4Address input = some ipv4 ∧ cci ≤ 6 ∧
      finishIPv6Address (writeBytes out (2 * cci) ipv4) (cci + 2 : Nat) ci = some res) ∨
    (input = [] ∧ (cci : Int) = ci ∧ ci ≠ 0 ∧ cci < 8 ∧ finishIPv6Address out cci ci = some res) ∨
    (IsHexGroup input ∧ cci < 8 ∧
      finishIPv6Address (writeBytes out (2 * cci) (groupBytes input)) (cci + 1 : Nat) ci =
        some res) ∨
    (∃ g rest, IsHexGroup g ∧ input = g ++ 58 :: rest ∧ rest.head? ≠ some 58 ∧ cci < 8 ∧
      parseIPv6Components (writeBytes out (2 * cci) (groupBytes g)) ci (cci + 1) rest = some res) ∨
    ∃ g rest, IsHexGroup g ∧ input = g ++ 58 :: 58 :: rest ∧ ci = -1 ∧ cci < 8 ∧
      (if rest = [] then
        finishIPv6Address (writeBytes out (2 * cci) (groupBytes g)) (cci + 1 : Nat) (cci + 1 : Nat)
      else parseIPv6Components (writeBytes out (2 * cci) (groupBytes g)) (cci + 1 : Nat) (cci + 1)
        rest) = some res := by
  rw [parseIPv6Components] at h
  cases hr : readIPv6Component 0 0 input with
  | invalid => rw [hr] at h; cases h
  | dot =>
    rw [hr] at h
    dsimp only at h
    by_cases h6 : 6 < cci
    · rw [if_pos h6] at h; cases h
    rw [if_neg h6] at h
    cases hq : parseIPv4Address input with
    | none => rw [hq] at h; cases h
    | some ipv4 => rw [hq] at h; exact .inl ⟨ipv4, rfl, by omega, h⟩
  | group v len rest =>
    rw [hr] at h
    dsimp only at h
    obtain ⟨g, rfl, hg, rfl, hg4, rfl, hrest⟩ := readIPv6Component_eq_group (Nat.zero_le 4) hr
    by_cases h8 : 8 ≤ cci
    · rw [if_pos h8] at h; cases h
    rw [if_neg h8] at h
    by_cases hg0 : 0 + g.length = 0
    · -- an empty component: only at the end, right after the `::` and not at the start
      rw [if_pos hg0] at h
      obtain rfl : g = [] := List.length_eq_zero.mp (by omega)
      by_cases hend : rest = [] ∧ (cci : Int) = ci
      · obtain ⟨rfl, hcc⟩ := hend
        rw [if_pos ⟨rfl, hcc⟩] at h
        by_cases hc0 : ci = 0
        · rw [if_pos hc0] at h; cases h
        rw [if_neg hc0] at h
        exact .inr (.inl ⟨rfl, hcc, hc0, by omega, h⟩)
      · rw [if_neg hend] at h; cases h
    rw [if_neg hg0] at h
    have hgroup : IsHexGroup g := ⟨by rintro rfl; simp at hg0, by omega, hg⟩
    rw [show [UInt8.ofNat (g.foldl hexStep 0 / 256), UInt8.ofNat (g.foldl hexStep 0 % 256)] =
      groupBytes g from rfl] at h
    rcases hrest with rfl | hrest
    · rw [List.append_nil]
      exact .inr (.inr (.inl ⟨hgroup, by omega, h⟩))
    obtain ⟨rest, rfl⟩ := List.head?_eq_some_iff.mp hrest
    dsimp only at h
    by_cases hcol : rest.head? = some 58
    · -- a contraction after the group, the first
      obtain ⟨rest, rfl⟩ := List.head?_eq_some_iff.mp hcol
      by_cases hci : ci = -1
      · rw [if_pos hcol, if_neg (not_not.mpr hci)] at h
        exact .inr (.inr (.inr (.inr ⟨g, rest, hgroup, rfl, hci, by omega, h⟩)))
      · rw [if_pos hcol, if_pos hci] at h; cases h
    · rw [if_neg hcol] at h
      exact .inr (.inr (.inr (.inl ⟨g, rest, hgroup, rfl, hcol, by omega, h⟩)))

end Steps

/-- **After a `::`, an accepting run of the loop reads a side.** -/
theorem parseIPv6Components_after_sound {c : Nat} (k : Nat) :
    ∀ {cci : Nat} {out input res : List UInt8}, 8 - cci = k → out.length = 16 → c ≤ cci →
      cci ≤ 8 → parseIPv6Components out c cci input = some res →
      IPv6RestAfter c cci input (out.take (2 * cci)) res := by
  induction k using Nat.strong_induction_on with
  | _ k ih =>
  intro cci out input res hk hout hc hcci h
  have hB : (out.take (2 * cci)).length = 2 * cci := by simp; omega
  rcases parseIPv6Components_eq_some h with ⟨ipv4, hq, h6, h⟩ | ⟨rfl, hcc, hc0, -, h⟩ |
    ⟨hg, h8, h⟩ | ⟨g, rest, hg, rfl, hcol, h8, h⟩ | ⟨-, -, -, -, hci, -⟩
  · -- a dotted quad ends the input
    have h4 : ipv4.length = 4 := (parseIPv4Address_eq_some hq).1
    have hw : (writeBytes out (2 * cci) ipv4).take (2 * (cci + 2)) = out.take (2 * cci) ++ ipv4 := by
      rw [show 2 * (cci + 2) = 2 * cci + ipv4.length by omega, take_writeBytes (by omega)]
    rw [finishIPv6Address_eq_some (by rw [length_writeBytes (by omega)]; exact hout) (by omega)
      (by omega)] at h
    rcases h with ⟨h, -⟩ | ⟨c', hc', -, hn8, rfl⟩
    · omega
    obtain rfl : c' = c := by omega
    refine ⟨⟨[], some input⟩, ⟨by simp, by simp [hq]⟩, by simp; omega, rfl, by simp, ?_⟩
    rw [finish_take_drop hw hB hc (by omega)]
    simp [hq, Nat.sub_sub]
  · -- an empty component: the end, right after the `::` and not at the start
    rw [finishIPv6Address_eq_some hout hcci (by omega)] at h
    rcases h with ⟨h, -⟩ | ⟨c', hc', -, hn8, rfl⟩
    · omega
    obtain rfl : c' = c := by omega
    refine ⟨⟨[], none⟩, ⟨by simp, by simp⟩, by simp; omega, rfl,
      fun _ => ⟨by omega, by omega⟩, ?_⟩
    rw [finish_take_drop (show out.take (2 * cci) = out.take (2 * cci) ++ [] by simp) hB hc le_rfl]
    simp
  · -- a group ends the input
    obtain ⟨hlen', htake'⟩ := writeBytes_groupBytes hout h8 input
    rw [finishIPv6Address_eq_some hlen' (by omega) (by omega)] at h
    rcases h with ⟨h, -⟩ | ⟨c', hc', -, hn8, rfl⟩
    · omega
    obtain rfl : c' = c := by omega
    refine ⟨IPv6Side.cons input ⟨[], none⟩, IPv6Side.valid_cons.mpr ⟨hg, by simp [IPv6Side.Valid]⟩,
      by simp; omega, by simp [IPv6Side.text_cons], by simp, ?_⟩
    rw [finish_take_drop htake' hB hc (by omega)]
    simp [Nat.sub_sub]
  · -- a `:`, and no second one: the next group
    obtain ⟨hlen', htake'⟩ := writeBytes_groupBytes hout h8 g
    obtain ⟨r, hrv, hcount, rfl, hempty, rfl⟩ :=
      ih (8 - (cci + 1)) (by omega) rfl hlen' (by omega) (by omega) h
    have hne : r.pieces ≠ [] := fun h' => by have := (hempty h').1; omega
    obtain ⟨ht, hd⟩ := take_drop_append (W := groupBytes g) hB hc
    refine ⟨IPv6Side.cons g r, IPv6Side.valid_cons.mpr ⟨hg, hrv⟩, by simp; omega,
      by rw [IPv6Side.text_cons, if_neg hne], by simp, ?_⟩
    rw [htake', ht, hd, IPv6Side.count_cons, IPv6Side.bytes_cons,
      show 8 - (cci + 1) - r.count = 8 - cci - (r.count + 1) by omega]
    simp
  · -- a second `::` is refused
    omega

/-- **Before a `::`, an accepting run of the loop reads the tail of a literal.** -/
theorem parseIPv6Components_before_sound (k : Nat) :
    ∀ {cci : Nat} {out input res : List UInt8}, 8 - cci = k → out.length = 16 → cci ≤ 8 →
      parseIPv6Components out (-1) cci input = some res →
      IPv6RestBefore cci input (out.take (2 * cci)) res := by
  induction k using Nat.strong_induction_on with
  | _ k ih =>
  intro cci out input res hk hout hcci h
  rcases parseIPv6Components_eq_some h with ⟨ipv4, hq, h6, h⟩ | ⟨-, hcc, -⟩ |
    ⟨hg, h8, h⟩ | ⟨g, rest, hg, rfl, hcol, h8, h⟩ | ⟨g, rest, hg, rfl, -, h8, h⟩
  · -- a dotted quad ends the input, after six groups
    have h4 : ipv4.length = 4 := (parseIPv4Address_eq_some hq).1
    rw [finishIPv6Address_eq_some (by rw [length_writeBytes (by omega)]; exact hout) (by omega)
      (Int.le_refl (-1))] at h
    rcases h with ⟨-, h8, rfl⟩ | ⟨c, hc, -⟩
    · refine .inl ⟨⟨[], some input⟩, ⟨by simp, by simp [hq]⟩, by simp, by simp; omega, rfl, ?_⟩
      rw [writeBytes_of_end (by omega)]
      simp [hq]
    · omega
  · -- an empty component is never accepted before a `::`
    omega
  · -- the eighth group ends the input
    obtain ⟨hlen', -⟩ := writeBytes_groupBytes hout h8 input
    rw [finishIPv6Address_eq_some hlen' (by omega) (Int.le_refl (-1))] at h
    rcases h with ⟨-, h8, rfl⟩ | ⟨c, hc, -⟩
    · refine .inl ⟨IPv6Side.cons input ⟨[], none⟩,
        IPv6Side.valid_cons.mpr ⟨hg, by simp [IPv6Side.Valid]⟩, by simp, by simp; omega,
        by simp [IPv6Side.text_cons], ?_⟩
      rw [writeBytes_of_end (by simp [hout]; omega)]
      simp
    · omega
  · -- the next group
    obtain ⟨hlen', htake'⟩ := writeBytes_groupBytes hout h8 g
    rcases ih (8 - (cci + 1)) (by omega) rfl hlen' (by omega) h with
      ⟨p, hpv, hne, hcount, rfl, rfl⟩ | ⟨l, r, hlv, hlg, hlq, hrv, hcount, rfl, rfl⟩
    · refine .inl ⟨IPv6Side.cons g p, IPv6Side.valid_cons.mpr ⟨hg, hpv⟩, by simp, by simp; omega,
        by rw [IPv6Side.text_cons, if_neg hne], ?_⟩
      rw [htake']
      simp
    · have hne : l.pieces ≠ [] := by simp [IPv6Side.pieces, hlg]
      refine .inr ⟨IPv6Side.cons g l, r, IPv6Side.valid_cons.mpr ⟨hg, hlv⟩, by simp [IPv6Side.cons],
        hlq, hrv, by simp; omega, by rw [IPv6Side.text_cons, if_neg hne]; simp, ?_⟩
      rw [htake', IPv6Side.count_cons, IPv6Side.bytes_cons,
        show 8 - (cci + 1) - l.count - r.count = 8 - cci - (l.count + 1) - r.count by omega]
      simp
  · -- a contraction after the group
    obtain ⟨hlen', htake'⟩ := writeBytes_groupBytes hout h8 g
    have hBg : (out.take (2 * cci) ++ groupBytes g).length = 2 * (cci + 1) := by
      simp [hout]; omega
    have hl : (IPv6Side.cons g ⟨[], none⟩).Valid :=
      IPv6Side.valid_cons.mpr ⟨hg, by simp [IPv6Side.Valid]⟩
    by_cases hend : rest = []
    · subst hend
      rw [if_pos rfl, finishIPv6Address_eq_some hlen' (by omega) (by omega)] at h
      rcases h with ⟨h, -⟩ | ⟨c, hc, -, hn8, rfl⟩
      · omega
      obtain rfl : c = cci + 1 := by omega
      refine .inr ⟨IPv6Side.cons g ⟨[], none⟩, ⟨[], none⟩, hl, by simp [IPv6Side.cons], rfl,
        by simp [IPv6Side.Valid], by simp; omega, by simp [IPv6Side.text_cons], ?_⟩
      rw [htake', List.drop_of_length_le (le_of_eq hBg)]
      simp [Nat.sub_sub]
    · rw [if_neg hend] at h
      obtain ⟨r, hrv, hcount, rfl, -, rfl⟩ :=
        parseIPv6Components_after_sound (8 - (cci + 1)) rfl hlen' le_rfl (by omega) h
      refine .inr ⟨IPv6Side.cons g ⟨[], none⟩, r, hl, by simp [IPv6Side.cons], rfl, hrv,
        by simp; omega, by simp [IPv6Side.text_cons], ?_⟩
      rw [htake', List.take_of_length_le (le_of_eq hBg), List.drop_of_length_le (le_of_eq hBg)]
      simp [Nat.sub_sub]

/-- **After a `::`, the loop reads every side**, to the buffer the side denotes. -/
theorem parseIPv6Components_after_complete {c : Nat} (r : IPv6Side) (hr : r.Valid) :
    ∀ {cci : Nat} {out : List UInt8}, out.length = 16 → c ≤ cci → cci + r.count ≤ 7 →
      (r.pieces = [] → cci = c ∧ c ≠ 0) →
      parseIPv6Components out c cci r.text = some ((out.take (2 * cci)).take (2 * c) ++
        List.replicate (2 * (8 - cci - r.count)) 0 ++ (out.take (2 * cci)).drop (2 * c) ++
        r.bytes) := by
  obtain ⟨gs, quad⟩ := r
  induction gs with
  | nil =>
    intro cci out hout hc hcount hempty
    have hB : (out.take (2 * cci)).length = 2 * cci := by simp; omega
    cases quad with
    | none =>
      obtain ⟨rfl, hc0⟩ := hempty rfl
      rw [IPv6Side.text_nil, parseIPv6Components_nil (by simp at hcount; omega) hc0,
        finishIPv6Address_eq_some hout (by omega) (by omega)]
      refine .inr ⟨cci, rfl, le_rfl, by simp at hcount; omega, ?_⟩
      rw [finish_take_drop (show out.take (2 * cci) = out.take (2 * cci) ++ [] by simp) hB le_rfl
        le_rfl]
      simp
    | some q =>
      obtain ⟨ipv4, hq⟩ := Option.isSome_iff_exists.mp (hr.2 q rfl)
      have h4 : ipv4.length = 4 := (parseIPv4Address_eq_some hq).1
      have hw : (writeBytes out (2 * cci) ipv4).take (2 * (cci + 2)) = out.take (2 * cci) ++ ipv4 := by
        rw [show 2 * (cci + 2) = 2 * cci + ipv4.length by omega, take_writeBytes (by omega)]
      simp only [IPv6Side.count_quad] at hcount
      rw [IPv6Side.text_quad, parseIPv6Components_quad hq (by omega),
        finishIPv6Address_eq_some (by rw [length_writeBytes (by omega)]; exact hout) (by omega)
          (by omega)]
      refine .inr ⟨c, rfl, by omega, by omega, ?_⟩
      rw [finish_take_drop hw hB hc (by omega)]
      simp [hq, Nat.sub_sub]
  | cons g gs ih =>
    intro cci out hout hc hcount hempty
    have e : (⟨g :: gs, quad⟩ : IPv6Side) = IPv6Side.cons g ⟨gs, quad⟩ := rfl
    rw [e] at hr hcount ⊢
    obtain ⟨hg, hr'⟩ := IPv6Side.valid_cons.mp hr
    simp only [IPv6Side.count_cons] at hcount
    have hB : (out.take (2 * cci)).length = 2 * cci := by simp; omega
    obtain ⟨hlen', htake'⟩ := writeBytes_groupBytes hout (show cci < 8 by omega) g
    by_cases hne : (⟨gs, quad⟩ : IPv6Side).pieces = []
    · -- the last group
      obtain ⟨rfl, rfl⟩ : gs = [] ∧ quad = none := IPv6Side.mk.inj (IPv6Side.pieces_eq_nil.mp hne)
      rw [IPv6Side.text_cons, if_pos hne, parseIPv6Components_group_end hg (by omega),
        finishIPv6Address_eq_some hlen' (by omega) (by omega)]
      refine .inr ⟨c, rfl, by omega, by simp at hcount; omega, ?_⟩
      rw [finish_take_drop htake' hB hc (by omega)]
      simp [Nat.sub_sub]
    · -- a group, a `:`, and the rest of the side
      rw [IPv6Side.text_cons, if_neg hne, parseIPv6Components_group_next hg (by omega)
        (IPv6Side.text_head _ hr' hne).2, ih hr' hlen' (by omega) (by omega) (fun h => absurd h hne),
        htake']
      obtain ⟨ht, hd⟩ := take_drop_append (W := groupBytes g) hB hc
      rw [ht, hd, IPv6Side.count_cons, IPv6Side.bytes_cons,
        show 8 - (cci + 1) - (⟨gs, quad⟩ : IPv6Side).count =
          8 - cci - ((⟨gs, quad⟩ : IPv6Side).count + 1) by omega]
      simp

/-- **Before a `::`, the loop reads every tail of an eight-group literal.** -/
theorem parseIPv6Components_before_complete_full (p : IPv6Side) (hp : p.Valid) :
    ∀ {cci : Nat} {out : List UInt8}, out.length = 16 → p.pieces ≠ [] → cci + p.count = 8 →
      parseIPv6Components out (-1) cci p.text = some (out.take (2 * cci) ++ p.bytes) := by
  obtain ⟨gs, quad⟩ := p
  induction gs with
  | nil =>
    intro cci out hout hne hcount
    cases quad with
    | none => exact absurd rfl hne
    | some q =>
      obtain ⟨ipv4, hq⟩ := Option.isSome_iff_exists.mp (hp.2 q rfl)
      have h4 : ipv4.length = 4 := (parseIPv4Address_eq_some hq).1
      simp only [IPv6Side.count_quad] at hcount
      rw [IPv6Side.text_quad, parseIPv6Components_quad hq (by omega),
        finishIPv6Address_eq_some (by rw [length_writeBytes (by omega)]; exact hout) (by omega)
          (Int.le_refl (-1))]
      refine .inl ⟨rfl, by omega, ?_⟩
      rw [writeBytes_of_end (by omega)]
      simp [hq]
  | cons g gs ih =>
    intro cci out hout _ hcount
    have e : (⟨g :: gs, quad⟩ : IPv6Side) = IPv6Side.cons g ⟨gs, quad⟩ := rfl
    rw [e] at hp hcount ⊢
    obtain ⟨hg, hp'⟩ := IPv6Side.valid_cons.mp hp
    simp only [IPv6Side.count_cons] at hcount
    obtain ⟨hlen', htake'⟩ := writeBytes_groupBytes hout (show cci < 8 by omega) g
    by_cases hne : (⟨gs, quad⟩ : IPv6Side).pieces = []
    · -- the eighth group
      obtain ⟨rfl, rfl⟩ : gs = [] ∧ quad = none := IPv6Side.mk.inj (IPv6Side.pieces_eq_nil.mp hne)
      simp only [IPv6Side.count_nil] at hcount
      rw [IPv6Side.text_cons, if_pos hne, parseIPv6Components_group_end hg (by omega),
        finishIPv6Address_eq_some hlen' (by omega) (Int.le_refl (-1))]
      refine .inl ⟨rfl, by omega, ?_⟩
      rw [writeBytes_of_end (by simp [hout]; omega)]
      simp
    · rw [IPv6Side.text_cons, if_neg hne, parseIPv6Components_group_next hg (by omega)
        (IPv6Side.text_head _ hp' hne).2, ih hp' hlen' hne (by omega), htake']
      simp

/-- **Before a `::`, the loop reads groups, the `::` and every side after it.** -/
theorem parseIPv6Components_before_complete_contraction (l r : IPv6Side) (hl : l.Valid)
    (hlq : l.quad = none) (hr : r.Valid) :
    ∀ {cci : Nat} {out : List UInt8}, out.length = 16 → l.groups ≠ [] →
      cci + l.count + r.count ≤ 7 →
      parseIPv6Components out (-1) cci (l.text ++ 58 :: 58 :: r.text) =
        some (out.take (2 * cci) ++ l.bytes ++
          List.replicate (2 * (8 - cci - l.count - r.count)) 0 ++ r.bytes) := by
  obtain ⟨gs, quad⟩ := l
  obtain rfl : quad = none := hlq
  induction gs with
  | nil => intro cci out _ hne; exact absurd rfl hne
  | cons g gs ih =>
    intro cci out hout _ hcount
    have e : (⟨g :: gs, none⟩ : IPv6Side) = IPv6Side.cons g ⟨gs, none⟩ := rfl
    rw [e] at hl hcount ⊢
    obtain ⟨hg, hl'⟩ := IPv6Side.valid_cons.mp hl
    simp only [IPv6Side.count_cons] at hcount
    have hB : (out.take (2 * cci)).length = 2 * cci := by simp; omega
    obtain ⟨hlen', htake'⟩ := writeBytes_groupBytes hout (show cci < 8 by omega) g
    have hBg : (out.take (2 * cci) ++ groupBytes g).length = 2 * (cci + 1) := by
      rw [List.length_append, hB]; rfl
    cases gs with
    | nil =>
      -- the `::` follows the group
      simp only [IPv6Side.count_nil] at hcount
      rw [IPv6Side.text_cons, if_pos IPv6Side.pieces_nil,
        parseIPv6Components_group_contraction hg (by omega)]
      by_cases hend : r.text = []
      · have hr0 : r.pieces = [] := (IPv6Side.text_eq_nil hr).mp hend
        obtain rfl : r = ⟨[], none⟩ := IPv6Side.pieces_eq_nil.mp hr0
        rw [if_pos hend, finishIPv6Address_eq_some hlen' (by omega) (by omega)]
        refine .inr ⟨cci + 1, rfl, le_rfl, by omega, ?_⟩
        rw [htake', List.drop_of_length_le (le_of_eq hBg)]
        simp [Nat.sub_sub]
      · rw [if_neg hend, parseIPv6Components_after_complete r hr hlen' le_rfl (by omega)
          (fun h => absurd ((IPv6Side.text_eq_nil hr).mpr h) hend), htake',
          List.take_of_length_le (le_of_eq hBg), List.drop_of_length_le (le_of_eq hBg)]
        simp [Nat.sub_sub]
    | cons g' gs =>
      have hne : (⟨g' :: gs, none⟩ : IPv6Side).pieces ≠ [] := by simp [IPv6Side.pieces]
      have hhead := (IPv6Side.text_head _ hl' hne)
      obtain ⟨b, t, ht⟩ := List.exists_cons_of_ne_nil hhead.1
      rw [IPv6Side.text_cons, if_neg hne, List.append_assoc, List.cons_append,
        parseIPv6Components_group_next hg (by omega) (by rw [ht]; simpa [ht] using hhead.2),
        ih hl' hlen' (by simp) (by omega), htake', IPv6Side.count_cons, IPv6Side.bytes_cons,
        show 8 - (cci + 1) - (⟨g' :: gs, none⟩ : IPv6Side).count - r.count =
          8 - cci - ((⟨g' :: gs, none⟩ : IPv6Side).count + 1) - r.count by omega]
      simp

end Loop

/-- **IPv6 literal parser, characterised**: from any initial content of the 16-byte buffer,
    `ParseIPv6Address` succeeds exactly on the literals of the grammar, and leaves in the buffer
    the address the literal denotes. -/
theorem parseIPv6Address_eq_some_iff {s out addr : List UInt8} (hout : out.length = 16) :
    parseIPv6Address s out = some addr ↔ IPv6Literal s addr := by
  -- only a literal that starts with its `::` starts with `:`
  have hhead : ∀ (l : IPv6Side) (t : Input), l.Valid → l.pieces ≠ [] →
      (l.text ++ t).head? ≠ some 58 := fun l t hl hne => by
    obtain ⟨hne', hh⟩ := IPv6Side.text_head l hl hne
    rwa [List.head?_append_of_ne_nil _ hne']
  have hfull : ∀ p : IPv6Side, p.count = 8 → p.pieces ≠ [] := by
    rintro ⟨_ | _, _ | _⟩ <;> simp [IPv6Side.pieces, IPv6Side.count]
  unfold parseIPv6Address
  by_cases hs : s.head? = some 58
  · obtain ⟨t, rfl⟩ := List.head?_eq_some_iff.mp hs
    rw [if_pos hs]
    by_cases ht : t.head? = some 58
    · obtain ⟨u, rfl⟩ := List.head?_eq_some_iff.mp ht
      simp only [List.tail_cons]
      rw [if_pos ht]
      constructor
      · intro h
        obtain ⟨r, hr, hcount, rfl, hr0, rfl⟩ :=
          parseIPv6Components_after_sound (8 - 0) rfl hout le_rfl (by omega) h
        have hne : r.text ≠ [] := fun h => (hr0 ((IPv6Side.text_eq_nil hr).mp h)).2 rfl
        refine .inr ⟨⟨[], none⟩, r, by simp [IPv6Side.Valid], rfl, hr, by simpa using hcount,
          by simp, by simpa using hne, by simp⟩
      · rintro (⟨p, hp, hcount, hs, -⟩ | ⟨l, r, hl, hlq, hr, hcount, hs, hne, rfl⟩)
        · exact absurd (by rw [← hs]; rfl) (IPv6Side.text_head p hp (hfull p hcount)).2
        · by_cases hl0 : l.pieces = []
          · obtain rfl := IPv6Side.pieces_eq_nil.mp hl0
            simp only [IPv6Side.text_nil, List.nil_append, List.cons.injEq, true_and] at hs
            subst hs
            have hr0 : r.pieces ≠ [] := fun h => hne (by simp [(IPv6Side.text_eq_nil hr).mpr h])
            have h := parseIPv6Components_after_complete r hr hout (le_refl 0)
              (show 0 + r.count ≤ 7 by simpa using hcount) (fun h => absurd h hr0)
            refine h.trans ?_
            simp
          · exact absurd (by rw [← hs]; rfl) (hhead l _ hl hl0)
    · simp only [List.tail_cons]
      rw [if_neg ht]
      simp only [reduceCtorEq, false_iff]
      rintro (⟨p, hp, hcount, hs, -⟩ | ⟨l, r, hl, hlq, hr, -, hs, -, -⟩)
      · exact absurd (by rw [← hs]; rfl) (IPv6Side.text_head p hp (hfull p hcount)).2
      · by_cases hl0 : l.pieces = []
        · obtain rfl := IPv6Side.pieces_eq_nil.mp hl0
          simp only [IPv6Side.text_nil, List.nil_append, List.cons.injEq, true_and] at hs
          exact ht (by rw [hs]; rfl)
        · exact absurd (by rw [← hs]; rfl) (hhead l _ hl hl0)
  · rw [if_neg hs]
    constructor
    · intro h
      rcases parseIPv6Components_before_sound (8 - 0) rfl hout (by omega) h with
        ⟨p, hp, -, hcount, rfl, rfl⟩ | ⟨l, r, hl, hlg, hlq, hr, hcount, rfl, rfl⟩
      · exact .inl ⟨p, hp, by simpa using hcount, rfl, by simp⟩
      · refine .inr ⟨l, r, hl, hlq, hr, by omega, rfl, fun h => hs (by rw [h]; rfl), by simp⟩
    · rintro (⟨p, hp, hcount, rfl, rfl⟩ | ⟨l, r, hl, hlq, hr, hcount, rfl, -, rfl⟩)
      · simpa using parseIPv6Components_before_complete_full p hp hout (hfull p hcount)
          (by omega)
      · have hl0 : l.groups ≠ [] := fun h => by
          obtain rfl : l = ⟨[], none⟩ :=
            IPv6Side.pieces_eq_nil.mp (by simp [IPv6Side.pieces, h, hlq])
          exact hs rfl
        simpa [Nat.sub_sub] using
          parseIPv6Components_before_complete_contraction l r hl hlq hr hout hl0
            (show 0 + l.count + r.count ≤ 7 by omega)

/-- `::1`, read from a zeroed buffer. -/
theorem parseIPv6Address_loopback :
    (List.replicate 16 (0 : UInt8)).length = 16 ∧
      (parseIPv6Address [58, 58, 49] (List.replicate 16 0) = some (List.replicate 15 0 ++ [1]) ↔
        IPv6Literal [58, 58, 49] (List.replicate 15 0 ++ [1])) :=
  ⟨rfl, parseIPv6Address_eq_some_iff rfl⟩

end PkixNames
