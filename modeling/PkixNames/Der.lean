import Mathlib.Data.List.Basic

/-!
# The DER reader `pkixnames.cpp` reads with, and the writer it inverts

Every structure `pkixnames.cpp` looks at (subjectAltName, subject, name constraints) is read
with the DER reader of mozilla::pkix (`pkixder.h`), whose sources are not part of this
repository's files. This file fixes that reader from the spec (§4.1, §6: DER as RFC 5280 has it,
consumed exactly; an `Input` is at most 65535 bytes):

* an `Input` is a byte string, and a `Reader` is what is left of one, so every read returns the
  suffix it stops at;
* `Result` is the error half of mozilla::pkix's `Result`: success is `Except.ok`;
* `readTagAndGetValue` reads one tag-length-value (`der::ReadTagAndGetValue`), and `tlv` writes
  one; `readTagAndGetValue_eq_ok_iff` says the reader reads exactly what `tlv` writes;
* `forEachTLV` is the loop `do { read one TLV; body } while (!reader.AtEnd())` that every list
  walk of `pkixnames.cpp` is written as, and `forEachTLV_eq_ok` / `forEachTLV_encodeAll` turn a
  run of it into a fold (`forEachItem`) over the decoded items.
-/

namespace PkixNames

/-- A byte string (mozilla::pkix `Input`); a reader is the part of one not yet read. -/
abbrev Input := List UInt8

/-- The failures `pkixnames.cpp` returns or passes on; `Success` is `Except.ok`. -/
inductive Result where
  | errorBadDer
  | errorBadCertDomain
  | errorCertNotInNameSpace
  | fatalErrorLibraryFailure
  | fatalErrorInvalidArgs
  deriving DecidableEq, Repr

/-- A byte has 256 values; stated for `simp`, which otherwise leaves `n % UInt8.size` where a
    byte literal is read as a number. -/
@[simp] theorem uint8_size_eq : UInt8.size = 256 := rfl

theorem byte_ofNat_toNat (b : UInt8) : UInt8.ofNat b.toNat = b :=
  UInt8.toNat.inj (UInt8.toNat_ofNat_of_lt (UInt8.toNat_lt_size b))

theorem byte_eq_iff_toNat {a b : UInt8} : a = b ↔ a.toNat = b.toNat :=
  ⟨congrArg _, UInt8.toNat.inj⟩

theorem byte_toNat_lt (b : UInt8) : b.toNat < 256 := UInt8.toNat_lt_size b

theorem byte_toNat_ofNat {n : Nat} (h : n < 256) : (UInt8.ofNat n).toNat = n :=
  UInt8.toNat_ofNat_of_lt h

theorem byte_xor_toNat (a b : UInt8) : (a ^^^ b).toNat = a.toNat ^^^ b.toNat :=
  BitVec.toNat_xor ..

namespace Der

/-! ## 1. Tags and one TLV -/

def sequence : UInt8 := 0x30
def set : UInt8 := 0x31
def oidTag : UInt8 := 0x06
def utf8String : UInt8 := 0x0c
def printableString : UInt8 := 0x13
def teletexString : UInt8 := 0x14

/-- Modelled from the spec: the length octets of a DER TLV in the three forms an `Input` of at
    most 65535 bytes needs (short, `0x81 n`, `0x82 hi lo`), each in its shortest form. -/
def readLength : Input → Except Result (Nat × Input)
  | [] => .error .errorBadDer
  | l1 :: rest =>
    if l1.toNat < 0x80 then .ok (l1.toNat, rest)
    else if l1.toNat = 0x81 then
      match rest with
      | l2 :: rest => if l2.toNat < 128 then .error .errorBadDer else .ok (l2.toNat, rest)
      | [] => .error .errorBadDer
    else if l1.toNat = 0x82 then
      match rest with
      | l2 :: l3 :: rest =>
        if l2.toNat * 256 + l3.toNat < 256 then .error .errorBadDer
        else .ok (l2.toNat * 256 + l3.toNat, rest)
      | _ => .error .errorBadDer
    else .error .errorBadDer

/-- Modelled from the spec: `read_tag_and_value`, one identifier octet (never the escape
    `tag & 0x1F == 0x1F` to a multi-octet tag), the length, and that many value bytes. Returns
    the tag, the value, and the rest of the reader. -/
def readTagAndGetValue : Input → Except Result (UInt8 × Input × Input)
  | [] => .error .errorBadDer
  | tag :: rest =>
    if tag.toNat % 32 = 31 then .error .errorBadDer
    else
      match readLength rest with
      | .error e => .error e
      | .ok (length, rest) =>
        if length ≤ rest.length then .ok (tag, rest.take length, rest.drop length)
        else .error .errorBadDer

/-- The DER length octets of `n` (for `n < 65536`). -/
def encodeLength (n : Nat) : Input :=
  if n < 128 then [UInt8.ofNat n]
  else if n < 256 then [0x81, UInt8.ofNat n]
  else [0x82, UInt8.ofNat (n / 256), UInt8.ofNat (n % 256)]

/-- One DER tag-length-value. -/
def tlv (tag : UInt8) (value : Input) : Input := tag :: (encodeLength value.length ++ value)

/-- What `tlv tag value` needs to be read back: a one-octet tag and a length `encodeLength`
    can write. -/
def Encodable (tag : UInt8) (value : Input) : Prop := tag.toNat % 32 ≠ 31 ∧ value.length < 65536

instance (tag : UInt8) (value : Input) : Decidable (Encodable tag value) :=
  inferInstanceAs (Decidable (_ ∧ _))

theorem readLength_encodeLength {n : Nat} (h : n < 65536) (rest : Input) :
    readLength (encodeLength n ++ rest) = .ok (n, rest) := by
  unfold encodeLength
  by_cases h1 : n < 128
  · simp [readLength, h1, byte_toNat_ofNat (show n < 256 by omega)]
  by_cases h2 : n < 256
  · simp [readLength, h1, h2, byte_toNat_ofNat h2]
  · have e1 : (UInt8.ofNat (n / 256)).toNat = n / 256 := byte_toNat_ofNat (by omega)
    have e2 : (UInt8.ofNat (n % 256)).toNat = n % 256 := byte_toNat_ofNat (by omega)
    simp only [if_neg h1, if_neg h2, List.cons_append, List.nil_append, readLength, e1, e2]
    have : n / 256 * 256 + n % 256 = n := by omega
    simp [this, h2]

theorem readLength_eq_ok {s rest : Input} {n : Nat} (h : readLength s = .ok (n, rest)) :
    n < 65536 ∧ s = encodeLength n ++ rest := by
  match s with
  | [] => simp [readLength] at h
  | l1 :: s =>
    have hl1 := byte_toNat_lt l1
    simp only [readLength] at h
    by_cases c1 : l1.toNat < 0x80
    · simp only [if_pos c1, Except.ok.injEq, Prod.mk.injEq] at h
      obtain ⟨rfl, rfl⟩ := h
      simp [encodeLength, c1, byte_ofNat_toNat]
      omega
    rw [if_neg c1] at h
    by_cases c2 : l1.toNat = 0x81
    · rw [if_pos c2] at h
      rcases s with _ | ⟨l2, s⟩
      · cases h
      have hl2 := byte_toNat_lt l2
      by_cases c3 : l2.toNat < 128
      · simp [c3] at h
      simp only [if_neg c3, Except.ok.injEq, Prod.mk.injEq] at h
      obtain ⟨rfl, rfl⟩ := h
      have e1 : l1 = 0x81 := byte_eq_iff_toNat.mpr c2
      refine ⟨by omega, ?_⟩
      simp [encodeLength, c3, hl2, e1, byte_ofNat_toNat]
    rw [if_neg c2] at h
    by_cases c3 : l1.toNat = 0x82
    · rw [if_pos c3] at h
      rcases s with _ | ⟨l2, _ | ⟨l3, s⟩⟩
      · cases h
      · cases h
      have hl2 := byte_toNat_lt l2
      have hl3 := byte_toNat_lt l3
      by_cases c4 : l2.toNat * 256 + l3.toNat < 256
      · simp [c4] at h
      simp only [if_neg c4, Except.ok.injEq, Prod.mk.injEq] at h
      obtain ⟨rfl, rfl⟩ := h
      have e1 : l1 = 0x82 := byte_eq_iff_toNat.mpr c3
      have e2 : (l2.toNat * 256 + l3.toNat) / 256 = l2.toNat := by omega
      have e3 : (l2.toNat * 256 + l3.toNat) % 256 = l3.toNat := by omega
      refine ⟨by omega, ?_⟩
      simp [encodeLength, e1, e2, e3, byte_ofNat_toNat, show ¬ l2.toNat * 256 + l3.toNat < 128
        by omega, c4]
    · simp [c3] at h

@[simp] theorem tlv_ne_nil (tag : UInt8) (value : Input) : tlv tag value ≠ [] := by
  simp [tlv]

theorem readTagAndGetValue_tlv {tag : UInt8} {value : Input} (h : Encodable tag value)
    (rest : Input) : readTagAndGetValue (tlv tag value ++ rest) = .ok (tag, value, rest) := by
  simp [tlv, readTagAndGetValue, h.1, readLength_encodeLength h.2]

theorem readTagAndGetValue_eq_ok {input value rest : Input} {tag : UInt8}
    (h : readTagAndGetValue input = .ok (tag, value, rest)) :
    Encodable tag value ∧ input = tlv tag value ++ rest := by
  match input with
  | [] => simp [readTagAndGetValue] at h
  | t :: s =>
    simp only [readTagAndGetValue] at h
    by_cases ht : t.toNat % 32 = 31
    · simp [ht] at h
    rw [if_neg ht] at h
    split at h
    · cases h
    · rename_i length s' hl
      obtain ⟨hn, rfl⟩ := readLength_eq_ok hl
      by_cases hle : length ≤ s'.length
      · simp only [if_pos hle, Except.ok.injEq, Prod.mk.injEq] at h
        obtain ⟨rfl, rfl, rfl⟩ := h
        have hlen : (List.take length s').length = length := by simp [hle]
        refine ⟨⟨ht, by omega⟩, ?_⟩
        simp [tlv, hlen]
      · simp [hle] at h

/-- **The reader reads exactly what `tlv` writes.** -/
theorem readTagAndGetValue_eq_ok_iff {input value rest : Input} {tag : UInt8} :
    readTagAndGetValue input = .ok (tag, value, rest) ↔
      Encodable tag value ∧ input = tlv tag value ++ rest :=
  ⟨readTagAndGetValue_eq_ok, fun ⟨h, e⟩ => e ▸ readTagAndGetValue_tlv h rest⟩

theorem readTagAndGetValue_length_lt {input value rest : Input} {tag : UInt8}
    (h : readTagAndGetValue input = .ok (tag, value, rest)) : rest.length < input.length := by
  obtain ⟨-, rfl⟩ := readTagAndGetValue_eq_ok h
  simp [tlv]
  omega

/-! ## 2. Expecting a tag, and the end of a reader -/

/-- Modelled from the spec: `expect_tag_and_value`, a TLV whose tag must be `expectedTag`. -/
def expectTagAndGetValue (input : Input) (expectedTag : UInt8) : Except Result (Input × Input) :=
  match readTagAndGetValue input with
  | .error e => .error e
  | .ok (tag, value, rest) => if tag = expectedTag then .ok (value, rest) else .error .errorBadDer

/-- Modelled from the spec: `der::End`, the reader must be used up. -/
def derEnd (input : Input) : Except Result Unit :=
  if input = [] then .ok () else .error .errorBadDer

/-- Modelled from the spec: `der::ExpectTagAndGetValueAtEnd`, the whole input is one TLV with
    the expected tag. -/
def expectTagAndGetValueAtEnd (input : Input) (expectedTag : UInt8) : Except Result Input :=
  match expectTagAndGetValue input expectedTag with
  | .error e => .error e
  | .ok (value, rest) => if rest = [] then .ok value else .error .errorBadDer

theorem expectTagAndGetValue_eq_ok {input value rest : Input} {tag : UInt8} :
    expectTagAndGetValue input tag = .ok (value, rest) ↔
      Encodable tag value ∧ input = tlv tag value ++ rest := by
  unfold expectTagAndGetValue
  constructor
  · intro h
    split at h
    · cases h
    · rename_i t v r hr
      split at h
      · rename_i ht
        simp only [Except.ok.injEq, Prod.mk.injEq] at h
        obtain ⟨rfl, rfl⟩ := h
        subst ht
        exact readTagAndGetValue_eq_ok hr
      · cases h
  · rintro ⟨h, rfl⟩
    simp [readTagAndGetValue_tlv h]

theorem expectTagAndGetValue_tlv {tag : UInt8} {value : Input} (h : Encodable tag value)
    (rest : Input) : expectTagAndGetValue (tlv tag value ++ rest) tag = .ok (value, rest) :=
  expectTagAndGetValue_eq_ok.mpr ⟨h, rfl⟩

/-- Two TLVs of one tag are the same bytes exactly when their values are. -/
theorem tlv_inj {tag : UInt8} {v v' : Input} (h : Encodable tag v) (h' : Encodable tag v') :
    tlv tag v = tlv tag v' ↔ v = v' := by
  refine ⟨fun e => ?_, congrArg _⟩
  have hr := readTagAndGetValue_tlv h []
  rw [e, readTagAndGetValue_tlv h' []] at hr
  simp only [Except.ok.injEq, Prod.mk.injEq, true_and, and_true] at hr
  exact hr.symm

theorem expectTagAndGetValue_length_lt {input value rest : Input} {tag : UInt8}
    (h : expectTagAndGetValue input tag = .ok (value, rest)) : rest.length < input.length := by
  obtain ⟨-, rfl⟩ := expectTagAndGetValue_eq_ok.mp h
  simp [tlv]
  omega

@[simp] theorem derEnd_eq_ok {input : Input} : derEnd input = .ok () ↔ input = [] := by
  unfold derEnd
  split <;> simp_all

theorem expectTagAndGetValueAtEnd_eq_ok {input value : Input} {tag : UInt8} :
    expectTagAndGetValueAtEnd input tag = .ok value ↔
      Encodable tag value ∧ input = tlv tag value := by
  unfold expectTagAndGetValueAtEnd
  constructor
  · intro h
    split at h
    · cases h
    · rename_i v r hr
      split at h
      · rename_i hnil
        cases h
        subst hnil
        simpa using expectTagAndGetValue_eq_ok.mp hr
      · cases h
  · rintro ⟨h, rfl⟩
    have : expectTagAndGetValue (tlv tag value ++ []) tag = .ok (value, []) :=
      expectTagAndGetValue_eq_ok.mpr ⟨h, rfl⟩
    simp only [List.append_nil] at this
    simp [this]

/-- Modelled from the spec: `skip(n)`, which fails when fewer than `n` bytes are left. -/
def skip (n : Nat) (input : Input) : Except Result Input :=
  if n ≤ input.length then .ok (input.drop n) else .error .errorBadDer

theorem skip_eq_ok {n : Nat} {input : Input} (h : n ≤ input.length) :
    skip n input = .ok (input.drop n) := if_pos h

/-! ## 3. The reader loop, and the fold it computes -/

section Loop

variable {σ : Type}

/-- A loop body's steps are told apart by their value. -/
@[simp] theorem forInStep_yield_inj {a b : σ} : ForInStep.yield a = ForInStep.yield b ↔ a = b :=
  ⟨fun h => by cases h; rfl, congrArg _⟩

@[simp] theorem forInStep_done_inj {a b : σ} : ForInStep.done a = ForInStep.done b ↔ a = b :=
  ⟨fun h => by cases h; rfl, congrArg _⟩

/-- Modelled from the spec: the loop `do { read one TLV; body } while (!reader.AtEnd())` of the
    reader (a `nested_of` iteration, and the subjectAltName and subtree walks). `body` sees the
    tag and value just read; `.done` leaves the loop (a `return` inside it), and the loop answers
    `.done` then and `.yield` when the reader ran out. -/
def forEachTLV (body : σ → UInt8 → Input → Except Result (ForInStep σ)) (s : σ)
    (input : Input) : Except Result (ForInStep σ) :=
  match h : readTagAndGetValue input with
  | .error e => .error e
  | .ok (tag, value, rest) =>
    match body s tag value with
    | .error e => .error e
    | .ok (.done s') => .ok (.done s')
    | .ok (.yield s') => if rest = [] then .ok (.yield s') else forEachTLV body s' rest
termination_by input.length
decreasing_by exact readTagAndGetValue_length_lt h

/-- The items one after the other: `tlv` of each. -/
def encodeAll : List (UInt8 × Input) → Input
  | [] => []
  | (tag, value) :: items => tlv tag value ++ encodeAll items

/-- The fold `forEachTLV` computes over the items it decodes. -/
def forEachItem (body : σ → UInt8 → Input → Except Result (ForInStep σ)) :
    σ → List (UInt8 × Input) → Except Result (ForInStep σ)
  | s, [] => .ok (.yield s)
  | s, (tag, value) :: items =>
    match body s tag value with
    | .error e => .error e
    | .ok (.done s') => .ok (.done s')
    | .ok (.yield s') => forEachItem body s' items

@[simp] theorem encodeAll_nil : encodeAll [] = [] := rfl

@[simp] theorem encodeAll_cons (tag : UInt8) (value : Input) (items : List (UInt8 × Input)) :
    encodeAll ((tag, value) :: items) = tlv tag value ++ encodeAll items := rfl

@[simp] theorem encodeAll_eq_nil {items : List (UInt8 × Input)} :
    encodeAll items = [] ↔ items = [] := by
  cases items with
  | nil => simp
  | cons x items => obtain ⟨t, v⟩ := x; simp

theorem forEachTLV_unfold (body : σ → UInt8 → Input → Except Result (ForInStep σ)) (s : σ)
    (input : Input) :
    forEachTLV body s input =
      match readTagAndGetValue input with
      | .error e => .error e
      | .ok (tag, value, rest) =>
        match body s tag value with
        | .error e => .error e
        | .ok (.done s') => .ok (.done s')
        | .ok (.yield s') => if rest = [] then .ok (.yield s') else forEachTLV body s' rest := by
  rw [forEachTLV]
  split <;> rename_i h <;> simp only [h]

theorem forEachTLV_tlv (body : σ → UInt8 → Input → Except Result (ForInStep σ)) (s : σ)
    {tag : UInt8} {value : Input} (h : Encodable tag value) (rest : Input) :
    forEachTLV body s (tlv tag value ++ rest) =
      match body s tag value with
      | .error e => .error e
      | .ok (.done s') => .ok (.done s')
      | .ok (.yield s') => if rest = [] then .ok (.yield s') else forEachTLV body s' rest := by
  rw [forEachTLV_unfold, readTagAndGetValue_tlv h]

/-- **On an encoding of items, the loop is the fold over them.** -/
theorem forEachTLV_encodeAll (body : σ → UInt8 → Input → Except Result (ForInStep σ)) :
    ∀ (s : σ) (items : List (UInt8 × Input)), items ≠ [] →
      (∀ x ∈ items, Encodable x.1 x.2) → forEachTLV body s (encodeAll items) = forEachItem body s items
  | _, [], h, _ => absurd rfl h
  | s, (tag, value) :: items, _, hv => by
    rw [encodeAll_cons, forEachTLV_tlv body s (hv _ (List.mem_cons_self _ _))]
    simp only [forEachItem]
    split
    · rfl
    · rfl
    · rename_i s' _
      by_cases hi : items = []
      · subst hi; simp [forEachItem]
      · rw [if_neg (by simpa using hi)]
        exact forEachTLV_encodeAll body s' items hi fun x hx => hv x (List.mem_cons_of_mem _ hx)

/-- **A run of the loop that succeeds decoded a non-empty list of items**: the input is their
    encoding followed by what the loop left unread (nothing, unless the body left it early), and
    the answer is the fold over them. -/
theorem forEachTLV_eq_ok (body : σ → UInt8 → Input → Except Result (ForInStep σ)) {s : σ}
    {input : Input} {r : ForInStep σ} (h : forEachTLV body s input = .ok r) :
    ∃ items rest, items ≠ [] ∧ (∀ x ∈ items, Encodable x.1 x.2) ∧
      input = encodeAll items ++ rest ∧ forEachItem body s items = .ok r ∧
      (∀ s', r = .yield s' → rest = []) := by
  induction s, input using forEachTLV.induct body with
  | case1 s input e he => rw [forEachTLV_unfold, he] at h; cases h
  | case2 s input tag value rest hr e hb =>
    rw [forEachTLV_unfold, hr] at h; simp only [hb] at h; cases h
  | case3 s input tag value rest hr s' hb =>
    rw [forEachTLV_unfold, hr] at h
    simp only [hb, Except.ok.injEq] at h
    subst h
    obtain ⟨henc, rfl⟩ := readTagAndGetValue_eq_ok hr
    exact ⟨[(tag, value)], rest, by simp, by simpa using henc, by simp, by simp [forEachItem, hb],
      by simp⟩
  | case4 s input tag value s' hb hr =>
    rw [forEachTLV_unfold, hr] at h
    simp only [hb, if_true, Except.ok.injEq] at h
    subst h
    obtain ⟨henc, rfl⟩ := readTagAndGetValue_eq_ok hr
    exact ⟨[(tag, value)], [], by simp, by simpa using henc, by simp, by simp [forEachItem, hb],
      by simp⟩
  | case5 s input tag value rest hr s' hb hrest ih =>
    rw [forEachTLV_unfold, hr] at h
    simp only [hb, if_neg hrest] at h
    obtain ⟨items, rest', hne, hv, rfl, hf, hy⟩ := ih h
    obtain ⟨henc, rfl⟩ := readTagAndGetValue_eq_ok hr
    refine ⟨(tag, value) :: items, rest', by simp, ?_, by simp, by simp [forEachItem, hb, hf], hy⟩
    intro x hx
    rcases List.mem_cons.mp hx with rfl | hx
    · exact henc
    · exact hv x hx

theorem readTagAndGetValue_append {input value rest : Input} {tag : UInt8}
    (h : readTagAndGetValue input = .ok (tag, value, rest)) (junk : Input) :
    readTagAndGetValue (input ++ junk) = .ok (tag, value, rest ++ junk) := by
  obtain ⟨henc, rfl⟩ := readTagAndGetValue_eq_ok h
  rw [List.append_assoc, readTagAndGetValue_tlv henc]

/-- **The loop reads nothing after the TLV it leaves at**: bytes appended to its input, whatever
    they are, leave a run that left early as it was. -/
theorem forEachTLV_append_of_done (body : σ → UInt8 → Input → Except Result (ForInStep σ))
    {s r : σ} {input : Input} (h : forEachTLV body s input = .ok (.done r)) (junk : Input) :
    forEachTLV body s (input ++ junk) = .ok (.done r) := by
  induction s, input using forEachTLV.induct body with
  | case1 s input e he => rw [forEachTLV_unfold, he] at h; cases h
  | case2 s input tag value rest hr e hb =>
    rw [forEachTLV_unfold, hr] at h; simp only [hb] at h; cases h
  | case3 s input tag value rest hr s' hb =>
    rw [forEachTLV_unfold, hr] at h
    rw [forEachTLV_unfold, readTagAndGetValue_append hr]
    simpa only [hb] using h
  | case4 s input tag value s' hb hr =>
    rw [forEachTLV_unfold, hr] at h; simp only [hb, if_true] at h; cases h
  | case5 s input tag value rest hr s' hb hrest ih =>
    rw [forEachTLV_unfold, hr] at h
    simp only [hb, if_neg hrest] at h
    rw [forEachTLV_unfold, readTagAndGetValue_append hr]
    simp only [hb, List.append_eq_nil, hrest, false_and, if_false]
    exact ih h

@[simp] theorem encodeAll_append (items items' : List (UInt8 × Input)) :
    encodeAll (items ++ items') = encodeAll items ++ encodeAll items' := by
  induction items with
  | nil => rfl
  | cons x items ih => obtain ⟨t, v⟩ := x; simp [ih]

/-- A run of the fold that leaves early leaves at one of its items. -/
theorem forEachItem_done {body : σ → UInt8 → Input → Except Result (ForInStep σ)} {s s' : σ}
    {items : List (UInt8 × Input)} (h : forEachItem body s items = .ok (.done s')) :
    ∃ x ∈ items, ∃ t, body t x.1 x.2 = .ok (.done s') := by
  induction items generalizing s with
  | nil => cases h
  | cons x items ih =>
    obtain ⟨tag, value⟩ := x
    simp only [forEachItem] at h
    split at h
    · cases h
    · rename_i hb
      cases h
      exact ⟨_, List.mem_cons_self _ _, s, hb⟩
    · obtain ⟨y, hy, t, ht⟩ := ih h
      exact ⟨y, List.mem_cons_of_mem _ hy, t, ht⟩

/-- In a run of the fold that goes to the end, the body went on at every item. -/
theorem forEachItem_yield {body : σ → UInt8 → Input → Except Result (ForInStep σ)} {s s' : σ}
    {items : List (UInt8 × Input)} (h : forEachItem body s items = .ok (.yield s')) :
    ∀ x ∈ items, ∃ t t', body t x.1 x.2 = .ok (.yield t') := by
  induction items generalizing s with
  | nil => simp
  | cons x items ih =>
    obtain ⟨tag, value⟩ := x
    simp only [forEachItem] at h
    split at h
    · cases h
    · cases h
    · rename_i s'' hb
      intro y hy
      rcases List.mem_cons.mp hy with rfl | hy
      · exact ⟨s, s'', hb⟩
      · exact ih h y hy

/-- A body that never fails makes a fold that never fails. -/
theorem forEachItem_ok {body : σ → UInt8 → Input → Except Result (ForInStep σ)}
    {items : List (UInt8 × Input)} (hb : ∀ x ∈ items, ∀ t, ∃ r, body t x.1 x.2 = .ok r) (s : σ) :
    ∃ r, forEachItem body s items = .ok r := by
  induction items generalizing s with
  | nil => exact ⟨_, rfl⟩
  | cons x items ih =>
    obtain ⟨tag, value⟩ := x
    obtain ⟨r, hr⟩ := hb _ (List.mem_cons_self _ _) s
    simp only [forEachItem, hr]
    rcases r with s' | s'
    · exact ⟨_, rfl⟩
    · exact ih (fun y hy => hb y (List.mem_cons_of_mem _ hy)) s'

/-- A loop step with its state seen through `f`. -/
def mapStep {τ : Type} (f : σ → τ) : ForInStep σ → ForInStep τ
  | .done s => .done (f s)
  | .yield s => .yield (f s)

/-- **Two loops in step**: when one body is the other seen through `f` on the state, the two
    runs read the same TLVs and end in states `f` relates. -/
theorem forEachTLV_map {τ : Type} (f : σ → τ) (body : σ → UInt8 → Input → Except Result (ForInStep σ))
    (body' : τ → UInt8 → Input → Except Result (ForInStep τ))
    (h : ∀ s tag value, body' (f s) tag value = (body s tag value).map (mapStep f))
    (s : σ) (input : Input) :
    forEachTLV body' (f s) input = (forEachTLV body s input).map (mapStep f) := by
  induction s, input using forEachTLV.induct body with
  | case1 s input e he => rw [forEachTLV_unfold, forEachTLV_unfold body, he]; rfl
  | case2 s input tag value rest hr e hb =>
    rw [forEachTLV_unfold, forEachTLV_unfold body, hr]
    simp only [h, hb]
    rfl
  | case3 s input tag value rest hr s' hb =>
    rw [forEachTLV_unfold, forEachTLV_unfold body, hr]
    simp only [h, hb]
    rfl
  | case4 s input tag value s' hb hr =>
    rw [forEachTLV_unfold, forEachTLV_unfold body, hr]
    simp only [h, hb]
    rfl
  | case5 s input tag value rest hr s' hb hrest ih =>
    rw [forEachTLV_unfold, forEachTLV_unfold body, hr]
    simp only [h, hb, Except.map, mapStep, if_neg hrest]
    exact ih

end Loop

/-- **DER is read one way**: two lists of TLVs that begin the same input are one a prefix of the
    other. -/
theorem encodeAll_prefix {items items' : List (UInt8 × Input)} {rest rest' : Input}
    (h : ∀ x ∈ items, Encodable x.1 x.2) (h' : ∀ x ∈ items', Encodable x.1 x.2)
    (he : encodeAll items ++ rest = encodeAll items' ++ rest') : items <+: items' ∨ items' <+: items := by
  induction items generalizing items' with
  | nil => exact .inl (List.nil_prefix)
  | cons x items ih =>
    obtain _ | ⟨x', items'⟩ := items'
    · exact .inr (List.nil_prefix)
    obtain ⟨t, v⟩ := x
    obtain ⟨t', v'⟩ := x'
    have hr := readTagAndGetValue_tlv (h _ (List.mem_cons_self _ _)) (encodeAll items ++ rest)
    rw [show tlv t v ++ (encodeAll items ++ rest) = tlv t' v' ++ (encodeAll items' ++ rest') by
      simpa using he, readTagAndGetValue_tlv (h' _ (List.mem_cons_self _ _))] at hr
    simp only [Except.ok.injEq, Prod.mk.injEq] at hr
    obtain ⟨rfl, rfl, htail⟩ := hr
    rcases ih (fun y hy => h y (List.mem_cons_of_mem _ hy)) (fun y hy => h' y (List.mem_cons_of_mem _ hy))
      htail.symm with hp | hp
    · exact .inl (List.prefix_cons_inj _ |>.mpr hp)
    · exact .inr (List.prefix_cons_inj _ |>.mpr hp)

/-- The TLVs a run read before it stopped begin the TLVs of a run that read the same input to
    the end. -/
theorem encodeAll_prefix_of_eq {items items' : List (UInt8 × Input)} {rest : Input}
    (h : ∀ x ∈ items, Encodable x.1 x.2) (h' : ∀ x ∈ items', Encodable x.1 x.2)
    (he : encodeAll items ++ rest = encodeAll items') : items <+: items' := by
  rcases encodeAll_prefix h h' (he.trans (List.append_nil _).symm) with hp | ⟨t, rfl⟩
  · exact hp
  · rw [encodeAll_append, List.append_assoc, List.append_right_eq_self, List.append_eq_nil,
      encodeAll_eq_nil] at he
    simp only [he.1, List.append_nil]
    exact List.prefix_refl _

/-- Encodable TLV lists with the same encoding are the same list. -/
theorem encodeAll_inj {items items' : List (UInt8 × Input)} (h : ∀ x ∈ items, Encodable x.1 x.2)
    (h' : ∀ x ∈ items', Encodable x.1 x.2) (he : encodeAll items = encodeAll items') :
    items = items' := by
  have p := encodeAll_prefix_of_eq h h' (show _ ++ [] = _ by rw [List.append_nil, he])
  have p' := encodeAll_prefix_of_eq h' h (show _ ++ [] = _ by rw [List.append_nil, he])
  exact p.eq_of_length (Nat.le_antisymm p.length_le p'.length_le)

end Der

end PkixNames
