import Mathlib.Data.Int.Range
import PkixNames.IP.IPv6

/-!
# `ParseIPv6Address` stays inside its buffer

`ParseIPv6Address` writes into the caller's `uint8_t[16]` at indices it computes: a group at
`out[2 * currentComponentIndex]`, an embedded IPv4 address over four bytes from the same place,
and, in `FinishIPv6Address`, a `memmove` and a `memset` whose offsets and lengths come from the
counts it is called with. Its `assert`s say that none of this can leave the buffer. Here the
parser runs with each of these recorded (`parseIPv6AddressEffects`); the run computes what
`parseIPv6Address` computes, and on every input each recorded operation is in bounds and each
`assert` holds.

* the operations (`IPv6Effect`) and what in bounds means for each (`IPv6Effect.Safe`);
* the recorded run (`finishIPv6AddressEffects`, `parseIPv6ComponentsEffects`,
  `parseIPv6AddressEffects`), and that it refines the model of `IPv6.lean`;
* the loop invariant on `contractionIndex`, and the bounds on every input;
* what each operation writes and reads (`IPv6Effect.writes`, `IPv6Effect.reads`): the one read
  of `out`, the `memmove`'s source, only reads bytes written before it, and a run that returns
  `true` has written all sixteen. So the uninitialised `uint8_t ipv6[16]` of `CheckCertHostname`
  is never read before it is written.

The `Read` of the hex loop, whose failure is an `assert(false)`, is the `b :: rest` case of
`readIPv6Component`: it reads only from a nonempty input, so it has nothing to record. The
`assert(input.AtEnd())` after an embedded IPv4 address follows a `SkipToEnd`, and is not
recorded either.
-/

namespace PkixNames

/-! ## 1. Operations on the buffer -/

/-- An operation of `ParseIPv6Address` or `FinishIPv6Address` on the buffer `out`, or one of their
    `assert`s. -/
inductive IPv6Effect
  /-- `out[2 * i]` and `out[2 * i + 1]` set to a group -/
  | storeGroup (i : Nat)
  /-- `out[2 * i]` .. `out[2 * i + 3]` given to `ParseIPv4Address` to store into -/
  | storeIPv4 (i : Nat)
  /-- the call `FinishIPv6Address(out, numComponents, contractionIndex)` -/
  | finish (numComponents contractionIndex : Int)
  /-- `memmove(out + dst, out + src, length)` -/
  | move (dst src length : Int)
  /-- `memset(out + dst, 0, length)` -/
  | zero (dst length : Int)
  /-- an `assert`, with the value of its condition; an `assert(false)` reached is `check false` -/
  | check (holds : Bool)
  deriving DecidableEq, Repr

/-- The operation stays inside `out[0..16)` and the `assert` holds. For a call of
    `FinishIPv6Address` it is the precondition its `assert`s and its guard state, with
    `contractionIndex ≤ 8` following from the other two bounds. -/
def IPv6Effect.Safe : IPv6Effect → Prop
  | .storeGroup i => i ≤ 7
  | .storeIPv4 i => i ≤ 6
  | .finish numComponents contractionIndex =>
    0 ≤ numComponents ∧ numComponents ≤ 8 ∧ -1 ≤ contractionIndex ∧
      contractionIndex ≤ numComponents
  | .move dst src length => 0 ≤ length ∧ 0 ≤ dst ∧ dst + length ≤ 16 ∧ 0 ≤ src ∧
      src + length ≤ 16
  | .zero dst length => 0 ≤ length ∧ 0 ≤ dst ∧ dst + length ≤ 16
  | .check holds => holds = true

section Safe

variable {i : Nat} {n c d o l : Int} {b : Bool}

@[simp] theorem IPv6Effect.safe_storeGroup : (IPv6Effect.storeGroup i).Safe ↔ i ≤ 7 := Iff.rfl
@[simp] theorem IPv6Effect.safe_storeIPv4 : (IPv6Effect.storeIPv4 i).Safe ↔ i ≤ 6 := Iff.rfl
@[simp] theorem IPv6Effect.safe_finish :
    (IPv6Effect.finish n c).Safe ↔ 0 ≤ n ∧ n ≤ 8 ∧ -1 ≤ c ∧ c ≤ n := Iff.rfl
@[simp] theorem IPv6Effect.safe_move :
    (IPv6Effect.move d o l).Safe ↔ 0 ≤ l ∧ 0 ≤ d ∧ d + l ≤ 16 ∧ 0 ≤ o ∧ o + l ≤ 16 := Iff.rfl
@[simp] theorem IPv6Effect.safe_zero :
    (IPv6Effect.zero d l).Safe ↔ 0 ≤ l ∧ 0 ≤ d ∧ d + l ≤ 16 := Iff.rfl
@[simp] theorem IPv6Effect.safe_check : (IPv6Effect.check b).Safe ↔ b = true := Iff.rfl

end Safe

instance (e : IPv6Effect) : Decidable e.Safe :=
  match e with
  | .storeGroup i => inferInstanceAs (Decidable (i ≤ 7))
  | .storeIPv4 i => inferInstanceAs (Decidable (i ≤ 6))
  | .finish n c => inferInstanceAs (Decidable (0 ≤ n ∧ n ≤ 8 ∧ -1 ≤ c ∧ c ≤ n))
  | .move d s l => inferInstanceAs (Decidable (0 ≤ l ∧ 0 ≤ d ∧ d + l ≤ 16 ∧ 0 ≤ s ∧ s + l ≤ 16))
  | .zero d l => inferInstanceAs (Decidable (0 ≤ l ∧ 0 ≤ d ∧ d + l ≤ 16))
  | .check b => inferInstanceAs (Decidable (b = true))

/-! ## 2. The recorded run -/

/-- `FinishIPv6Address(address, numComponents, contractionIndex)` as what it does: the call, its
    five `assert`s, and past its checks the `memmove` of the groups after the contraction and the
    `memset` of the gap, with the offsets and lengths the source computes. -/
def finishIPv6AddressEffects (numComponents contractionIndex : Int) : List IPv6Effect :=
  [.finish numComponents contractionIndex, .check (0 ≤ numComponents),
    .check (numComponents ≤ 8), .check (-1 ≤ contractionIndex), .check (contractionIndex ≤ 8),
    .check (contractionIndex ≤ numComponents)] ++
  if ¬(0 ≤ numComponents ∧ numComponents ≤ 8 ∧ -1 ≤ contractionIndex ∧ contractionIndex ≤ 8 ∧
      contractionIndex ≤ numComponents) then []
  else if contractionIndex = -1 then []
  else if 8 ≤ numComponents then []
  else
    let componentsToMove := numComponents - contractionIndex
    [.move (2 * (8 - componentsToMove)) (2 * contractionIndex) (componentsToMove * 2),
      .zero (2 * contractionIndex) ((8 - numComponents) * 2)]

/-- `if (input.Read(b) != Success || b != ':') { assert(false); return false; }`: the input past
    the `:`, or `none` where the `assert` fails. -/
def readColon : Input → Option Input
  | b :: rest => if b.toNat = 58 then some rest else none
  | [] => none

/-- The component loop of `ParseIPv6Address` with what it does recorded in order, at each point
    where `parseIPv6Components` leaves the source's `Reader` calls implicit following them. -/
def parseIPv6ComponentsEffects (out : List UInt8) (contractionIndex : Int)
    (currentComponentIndex : Nat) (input : Input) : Option (List UInt8) × List IPv6Effect :=
  match readIPv6Component 0 0 input with
  | .invalid => (none, [])
  | .dot =>
    if 6 < currentComponentIndex then (none, [])
    else match parseIPv4Address input with
      | none => (none, [.storeIPv4 currentComponentIndex])
      | some ipv4 =>
        (finishIPv6Address (writeBytes out (2 * currentComponentIndex) ipv4)
            (currentComponentIndex + 2 : Nat) contractionIndex,
          .storeIPv4 currentComponentIndex ::
            finishIPv6AddressEffects (currentComponentIndex + 2 : Nat) contractionIndex)
  | .group componentValue componentLength rest =>
    if 8 ≤ currentComponentIndex then (none, [])
    else if componentLength = 0 then
      if rest = [] ∧ (currentComponentIndex : Int) = contractionIndex then
        if contractionIndex = 0 then (none, [])
        else (finishIPv6Address out currentComponentIndex contractionIndex,
          finishIPv6AddressEffects currentComponentIndex contractionIndex)
      else (none, [])
    else
      let out := writeBytes out (2 * currentComponentIndex)
        [UInt8.ofNat (componentValue / 256), UInt8.ofNat (componentValue % 256)]
      let store := IPv6Effect.storeGroup currentComponentIndex
      if rest = [] then
        (finishIPv6Address out (currentComponentIndex + 1 : Nat) contractionIndex,
          store :: finishIPv6AddressEffects (currentComponentIndex + 1 : Nat) contractionIndex)
      else match readColon rest with
        | none => (none, [store, .check false])
        | some rest =>
          if rest.head? = some 58 then
            -- a contraction: `Peek(':')`, then a second `Read` under the same `assert`
            if contractionIndex ≠ -1 then (none, [store])
            else match readColon rest with
              | none => (none, [store, .check false])
              | some rest =>
                if rest = [] then
                  (finishIPv6Address out (currentComponentIndex + 1 : Nat)
                      (currentComponentIndex + 1 : Nat),
                    store :: finishIPv6AddressEffects (currentComponentIndex + 1 : Nat)
                      (currentComponentIndex + 1 : Nat))
                else
                  let r := parseIPv6ComponentsEffects out (currentComponentIndex + 1 : Nat)
                    (currentComponentIndex + 1) rest
                  (r.1, store :: r.2)
          else
            let r := parseIPv6ComponentsEffects out contractionIndex (currentComponentIndex + 1)
              rest
            (r.1, store :: r.2)
termination_by 8 - currentComponentIndex

/-- `ParseIPv6Address` with what it does recorded in order. -/
def parseIPv6AddressEffects (hostname : Input) (out : List UInt8) :
    Option (List UInt8) × List IPv6Effect :=
  if hostname.head? = some 58 then
    match readColon hostname with
    | none => (none, [.check false])
    | some rest =>
      -- the second byte is read without an `assert`
      if rest.head? = some 58 then parseIPv6ComponentsEffects out 0 0 rest.tail else (none, [])
  else parseIPv6ComponentsEffects out (-1) 0 hostname

/-! ## 3. The recorded run computes what the model computes -/

section Refines

variable {input rest : Input}

@[simp] theorem readColon_colon : readColon (58 :: rest) = some rest := rfl

theorem readColon_eq_some : readColon input = some rest ↔ input = 58 :: rest := by
  cases input with
  | nil => simp [readColon]
  | cons b input => simp [readColon, byte_eq_iff_toNat (b := 58)]

theorem readColon_of_head (h : input.head? = some 58) : readColon input = some input.tail := by
  obtain ⟨rest, rfl⟩ := List.head?_eq_some_iff.mp h
  rfl

/-- The hex loop stops at the end or at a `:`, so the `Read` after a group gives a `:`. -/
theorem readColon_of_group {v len : Nat} (h : readIPv6Component 0 0 input = .group v len rest)
    (hne : rest ≠ []) : readColon rest = some rest.tail := by
  obtain ⟨_, _, _, _, _, _, hrest⟩ := readIPv6Component_eq_group (Nat.zero_le 4) h
  exact readColon_of_head (hrest.resolve_left hne)

/-- **The recorded loop refines the loop of the model**: on every input it takes the branch
    `parseIPv6Components` takes, since the bytes it reads under an `assert` are the `:`s the model
    steps over. -/
theorem parseIPv6ComponentsEffects_fst (out : List UInt8) (ci : Int) (cci : Nat) (input : Input) :
    (parseIPv6ComponentsEffects out ci cci input).1 = parseIPv6Components out ci cci input := by
  induction out, ci, cci, input using parseIPv6ComponentsEffects.induct
  -- the two `Read`s under an `assert`, which cannot fail
  case case10 hr _ _ hne hcolon => rw [readColon_of_group hr hne] at hcolon; cases hcolon
  case case12 hh _ hcolon => rw [readColon_of_head hh] at hcolon; cases hcolon
  all_goals
    try simp only [readColon_eq_some] at *
    subst_vars
    rw [parseIPv6ComponentsEffects, parseIPv6Components]
    simp only [*, readColon_colon, List.tail_cons, ne_eq, not_true_eq_false, not_false_eq_true,
      and_self, if_true, if_false, List.cons_ne_nil]

end Refines

/-! ## 4. Every operation is in bounds -/

/-- The loop invariant on `contractionIndex`: no `::` yet, or one at a component already read. -/
def ContractionBefore (contractionIndex : Int) (currentComponentIndex : Nat) : Prop :=
  contractionIndex = -1 ∨ (0 ≤ contractionIndex ∧ contractionIndex ≤ currentComponentIndex)

/-- What `FinishIPv6Address` does is in bounds exactly when its `assert`s hold: past its guard,
    the `memmove` and the `memset` stay in the buffer. -/
theorem finishIPv6AddressEffects_safe_iff {n c : Int} :
    (∀ e ∈ finishIPv6AddressEffects n c, e.Safe) ↔ (IPv6Effect.finish n c).Safe := by
  refine ⟨fun h => h _ (List.mem_cons_self _ _), fun ⟨h0, h8, hc, hcn⟩ => ?_⟩
  simp only [finishIPv6AddressEffects]
  split_ifs <;>
    simp only [List.cons_append, List.nil_append, List.mem_cons, List.mem_singleton,
      List.not_mem_nil, false_implies, implies_true, and_true, forall_eq_or_imp, forall_eq,
      IPv6Effect.safe_finish, IPv6Effect.safe_check, IPv6Effect.safe_move, IPv6Effect.safe_zero,
      decide_eq_true_eq] <;>
    omega

/-- **Every turn of the loop stays in bounds**, from a state where the invariant holds: each
    store is at a component index its guard bounds, and each `FinishIPv6Address` is called with
    counts the invariant bounds. -/
theorem parseIPv6ComponentsEffects_safe (out : List UInt8) (ci : Int) (cci : Nat) (input : Input)
    (h : ContractionBefore ci cci) :
    ∀ e ∈ (parseIPv6ComponentsEffects out ci cci input).2, e.Safe := by
  induction out, ci, cci, input using parseIPv6ComponentsEffects.induct
  case case10 hr _ _ hne hcolon => rw [readColon_of_group hr hne] at hcolon; cases hcolon
  case case12 hh _ hcolon => rw [readColon_of_head hh] at hcolon; cases hcolon
  all_goals
    simp only [readColon_eq_some, ContractionBefore] at *
    subst_vars
    rw [parseIPv6ComponentsEffects]
    simp only [*, readColon_colon, List.tail_cons, ne_eq, not_true_eq_false, not_false_eq_true,
      and_self, and_true, if_true, if_false, List.cons_ne_nil, List.mem_cons, List.mem_singleton,
      List.not_mem_nil, forall_eq_or_imp, forall_eq, IsEmpty.forall_iff, implies_true,
      IPv6Effect.safe_storeGroup, IPv6Effect.safe_storeIPv4, finishIPv6AddressEffects_safe_iff,
      IPv6Effect.safe_finish]
  -- the turns that go on to the next component keep the invariant
  case case14 ih _ _ _ => exact ⟨by omega, ih (by omega)⟩
  case case15 ih _ _ => exact ⟨by omega, ih (by omega)⟩
  all_goals omega

/-- **`ParseIPv6Address` stays inside its buffer**: on every input the recorded run returns what
    `parseIPv6Address` returns, and everything it records is in bounds. Each `FinishIPv6Address`
    is called with `0 ≤ numComponents ≤ 8` and `-1 ≤ contractionIndex ≤ numComponents`, so its
    `assert`s hold, its guard (their conjunction) passes, and its `memmove` and `memset` stay in
    `out[0..16)`; each group is stored at a component index at most 7, each IPv4 address at one at
    most 6; and no `assert(false)` is reached. -/
theorem parseIPv6Address_bounds (hostname : Input) (out : List UInt8) :
    (parseIPv6AddressEffects hostname out).1 = parseIPv6Address hostname out ∧
      ∀ e ∈ (parseIPv6AddressEffects hostname out).2, e.Safe := by
  unfold parseIPv6AddressEffects parseIPv6Address
  by_cases h : hostname.head? = some 58
  · -- a leading `::`: the contraction is at the first component
    rw [if_pos h, if_pos h, readColon_of_head h]
    dsimp only
    split_ifs
    · exact ⟨parseIPv6ComponentsEffects_fst .., parseIPv6ComponentsEffects_safe _ _ _ _
        (.inr ⟨Int.le_refl 0, Int.le_refl 0⟩)⟩
    · simp
  · rw [if_neg h, if_neg h]
    exact ⟨parseIPv6ComponentsEffects_fst .., parseIPv6ComponentsEffects_safe _ _ _ _ (.inl rfl)⟩

/-- `1::`: the group is stored, and `FinishIPv6Address(out, 1, 1)` moves nothing and zeroes the
    fourteen bytes after it. -/
example : (parseIPv6AddressEffects [49, 58, 58] (List.replicate 16 0)).2 =
    [.storeGroup 0, .finish 1 1, .check true, .check true, .check true, .check true, .check true,
      .move 16 2 0, .zero 2 14] := by
  rw [parseIPv6AddressEffects, if_neg (by decide), parseIPv6ComponentsEffects]
  decide

/-! ## 5. Every byte read was written -/

/-- The bytes `out[first, first + length)` an operation writes, as `(first, length)`: a group's
    two, an IPv4 address's four, the destination of the `memmove` and the bytes the `memset`
    zeroes. -/
def IPv6Effect.writes : IPv6Effect → Int × Int
  | .storeGroup i => (2 * i, 2)
  | .storeIPv4 i => (2 * i, 4)
  | .move dst _ length => (dst, length)
  | .zero dst length => (dst, length)
  | .finish _ _ | .check _ => (0, 0)

/-- The bytes an operation reads: the source of the `memmove`, the only read of `out`. -/
def IPv6Effect.reads : IPv6Effect → Int × Int
  | .move _ src length => (src, length)
  | _ => (0, 0)

/-- `out[j]` is one of the bytes `(first, length)`. -/
def InBytes (j : Int) (bytes : Int × Int) : Prop := bytes.1 ≤ j ∧ j < bytes.1 + bytes.2

instance (j : Int) (bytes : Int × Int) : Decidable (InBytes j bytes) :=
  inferInstanceAs (Decidable (_ ∧ _))

/-- Some operation of `done` wrote `out[j]`. -/
def Written (done : List IPv6Effect) (j : Int) : Prop := ∃ e ∈ done, InBytes j e.writes

instance (done : List IPv6Effect) (j : Int) : Decidable (Written done j) :=
  inferInstanceAs (Decidable (∃ e ∈ done, _))

/-- Every byte an operation of `es` reads was written before it: by one of `done`, the
    operations already run, or by an earlier one of `es`. -/
def ReadsWritten (done : List IPv6Effect) : List IPv6Effect → Prop
  | [] => True
  | e :: es => (∀ j, InBytes j e.reads → Written done j) ∧ ReadsWritten (done ++ [e]) es

instance decidableReadsWritten : (done es : List IPv6Effect) → Decidable (ReadsWritten done es)
  | _, [] => isTrue trivial
  | done, e :: es =>
    have := decidableReadsWritten (done ++ [e]) es
    have : Decidable (∀ j, InBytes j e.reads → Written done j) :=
      decidable_of_iff (∀ j, e.reads.1 ≤ j → j < e.reads.1 + e.reads.2 → Written done j)
        ⟨fun h j hj => h j hj.1 hj.2, fun h j h0 h1 => h j ⟨h0, h1⟩⟩
    inferInstanceAs (Decidable (_ ∧ _))

/-- The invariant of the component loop: the stores so far wrote `out[0, 2 * n)`. -/
def WrittenBelow (done : List IPv6Effect) (n : Int) : Prop :=
  ∀ j, 0 ≤ j → j < 2 * n → Written done j

section Initialised

variable {done es fs : List IPv6Effect} {e : IPv6Effect} {j : Int}

@[simp] theorem written_nil : ¬Written [] j := by simp [Written]

@[simp] theorem written_cons : Written (e :: es) j ↔ InBytes j e.writes ∨ Written es j := by
  simp [Written]

@[simp] theorem written_append : Written (done ++ es) j ↔ Written done j ∨ Written es j := by
  simp only [Written, List.mem_append, or_and_right, exists_or]

@[simp] theorem readsWritten_nil : ReadsWritten done [] := trivial

@[simp] theorem readsWritten_cons : ReadsWritten done (e :: es) ↔
    (∀ j, InBytes j e.reads → Written done j) ∧ ReadsWritten (done ++ [e]) es := Iff.rfl

@[simp] theorem not_inBytes_zero {a : Int} : ¬InBytes j (a, 0) := by simp [InBytes]

theorem readsWritten_append :
    ReadsWritten done (es ++ fs) ↔ ReadsWritten done es ∧ ReadsWritten (done ++ es) fs := by
  induction es generalizing done with
  | nil => simp
  | cons e es ih => simp [ih, and_assoc]

/-- A store at component `i` extends the invariant by its `k` groups. -/
theorem writtenBelow_store {i k : Nat} (h : WrittenBelow done i)
    (he : e.writes = (2 * (i : Int), 2 * (k : Int))) : WrittenBelow (done ++ [e]) (i + k : Nat) := by
  intro j h0 hj
  by_cases hlt : j < 2 * (i : Int)
  · exact written_append.mpr (.inl (h j h0 hlt))
  · simp only [written_append, written_cons, InBytes, he, written_nil, or_false]
    right; push_cast at hj; omega

theorem writtenBelow_mono {n m : Int} (h : WrittenBelow done n) (hmn : m ≤ n) :
    WrittenBelow (done ++ es) m :=
  fun j h0 hj => written_append.mpr (.inl (h j h0 (by omega)))

/-- What a run from the operations `done` guarantees: it reads only bytes written before, and
    when it returns `true` it has written all sixteen. -/
def Initialised (done : List IPv6Effect) (run : Option (List UInt8) × List IPv6Effect) : Prop :=
  ReadsWritten done run.2 ∧ (run.1 ≠ none → WrittenBelow (done ++ run.2) 8)

@[simp] theorem initialised_none : Initialised done (none, es) ↔ ReadsWritten done es := by
  simp [Initialised]

/-- An operation that reads nothing, before a run that guarantees it from one step further. -/
theorem initialised_cons {x : Option (List UInt8)} (he : e.reads = (0, 0))
    (h : Initialised (done ++ [e]) (x, es)) : Initialised done (x, e :: es) := by
  refine ⟨⟨fun j hj => absurd hj (he ▸ not_inBytes_zero), h.1⟩, fun hx => ?_⟩
  rw [List.append_cons]
  exact h.2 hx

/-- **What `FinishIPv6Address` reads was written** once the stores wrote the `numComponents`
    groups: the `memmove` reads the groups after the contraction. And when it returns `true` the
    buffer is written through: the groups before the contraction were stored, the ones after it
    moved to the end, and the `memset` zeroed the gap between. -/
theorem finishIPv6AddressEffects_initialised {out : List UInt8} {n c : Int}
    (hw : WrittenBelow done n) :
    Initialised done (finishIPv6Address out n c, finishIPv6AddressEffects n c) := by
  unfold Initialised finishIPv6AddressEffects finishIPv6Address
  -- the call and its `assert`s read and write nothing
  simp only [readsWritten_append, List.cons_append, List.nil_append, readsWritten_cons,
    IPv6Effect.reads, not_inBytes_zero, false_implies, implies_true, true_and]
  by_cases hg : 0 ≤ n ∧ n ≤ 8 ∧ -1 ≤ c ∧ c ≤ 8 ∧ c ≤ n
  swap
  · -- a count out of range: `false`, and nothing more done
    simp only [hg, not_false_eq_true, if_true, readsWritten_nil, ne_eq, not_true_eq_false,
      false_implies, and_self]
  simp only [hg, and_self, not_true_eq_false, if_false]
  by_cases hc : c = -1
  · simp only [hc, if_true, readsWritten_nil, true_and]
    split_ifs with h8
    · -- no contraction: the eight groups were stored
      subst h8
      exact fun _ => writtenBelow_mono hw le_rfl
    · simp
  simp only [hc, if_false]
  split_ifs with h8
  · -- no room left to expand the contraction
    simp
  -- the `memmove` reads groups stored before; the groups left, moved and zeroed cover the rest
  simp only [readsWritten_cons, readsWritten_nil, IPv6Effect.reads, IPv6Effect.writes,
    not_inBytes_zero, false_implies, implies_true, and_true, ne_eq, Option.some_ne_none,
    not_false_eq_true, true_implies, written_append, written_cons, written_nil, or_false]
  refine ⟨fun j ⟨h0, h1⟩ => hw j (by omega) (by omega), fun j h0 hj => ?_⟩
  by_cases hlt : j < 2 * n
  · exact written_append.mpr (.inl (hw j h0 hlt))
  · simp only [written_append, written_cons, written_nil, IPv6Effect.writes, InBytes]
    omega

/-- **Every turn of the loop reads only written bytes**, from a state where the stores wrote
    the groups read so far; a turn that ends the loop with `true` has written all sixteen. -/
theorem parseIPv6ComponentsEffects_initialised (out : List UInt8) (ci : Int) (cci : Nat)
    (input : Input) (done : List IPv6Effect) (hw : WrittenBelow done cci) :
    Initialised done (parseIPv6ComponentsEffects out ci cci input) := by
  induction out, ci, cci, input using parseIPv6ComponentsEffects.induct generalizing done
  all_goals
    rw [parseIPv6ComponentsEffects]
    simp only [*, ne_eq, not_true_eq_false, not_false_eq_true, and_self, and_true, if_true,
      if_false, initialised_none, readsWritten_nil, readsWritten_cons, IPv6Effect.reads,
      not_inBytes_zero, false_implies, implies_true]
  -- the turns that end in `FinishIPv6Address`, after the stores of the turn
  case case4 => exact initialised_cons rfl (finishIPv6AddressEffects_initialised (writtenBelow_store hw rfl))
  case case7 _ hc _ _ =>
    obtain ⟨-, rfl⟩ := hc
    exact finishIPv6AddressEffects_initialised hw
  case case9 => exact initialised_cons rfl (finishIPv6AddressEffects_initialised (writtenBelow_store hw rfl))
  case case13 => exact initialised_cons rfl (finishIPv6AddressEffects_initialised (writtenBelow_store hw rfl))
  -- the turns that go on to the next component
  case case14 ih => exact initialised_cons rfl (ih _ (writtenBelow_store hw rfl))
  case case15 ih => exact initialised_cons rfl (ih _ (writtenBelow_store hw rfl))

/-- The recorded run returns what `parseIPv6Address` returns. -/
theorem parseIPv6AddressEffects_fst (hostname : Input) (out : List UInt8) :
    (parseIPv6AddressEffects hostname out).1 = parseIPv6Address hostname out := by
  unfold parseIPv6AddressEffects parseIPv6Address
  split_ifs with h h'
  · rw [readColon_of_head h]
    simp only [h', if_true, parseIPv6ComponentsEffects_fst]
  · rw [readColon_of_head h]
    simp only [h', if_false]
  · exact parseIPv6ComponentsEffects_fst ..

/-- **`ParseIPv6Address` reads only bytes it wrote**: on every input, the one read of the buffer,
    the `memmove` of `FinishIPv6Address`, reads bytes that a store before it wrote; and when
    `parseIPv6Address` returns `true` every byte of `out[0..16)` has been written, by a group or
    IPv4 store, by the `memmove` or by the `memset`. The initial content of `out` is never read. -/
theorem parseIPv6Address_initialised (hostname : Input) (out : List UInt8) :
    ReadsWritten [] (parseIPv6AddressEffects hostname out).2 ∧
      (parseIPv6Address hostname out ≠ none →
        ∀ j, 0 ≤ j → j < 16 → Written (parseIPv6AddressEffects hostname out).2 j) := by
  have h0 : WrittenBelow [] (0 : Nat) := fun j h0 hj => absurd hj (by omega)
  have h : Initialised [] (parseIPv6AddressEffects hostname out) := by
    unfold parseIPv6AddressEffects
    split
    · split
      · simp only [initialised_none, readsWritten_cons, readsWritten_nil, IPv6Effect.reads,
          not_inBytes_zero, false_implies, implies_true, and_self]
      · split
        · exact parseIPv6ComponentsEffects_initialised _ _ _ _ _ h0
        · simp
    · exact parseIPv6ComponentsEffects_initialised _ _ _ _ _ h0
  rw [← parseIPv6AddressEffects_fst]
  exact ⟨h.1, fun hs j h0 hj => by simpa using h.2 hs j h0 (by omega)⟩

end Initialised

end PkixNames
