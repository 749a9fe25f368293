import Mathlib.Algebra.Group.Nat.Basic
import PkixNames.DNSID.Match

/-!
# Name constraints: `CheckPresentedIDConformsToConstraints`

A name-constraints extension is a SEQUENCE of an optional `[0]` permittedSubtrees and an
optional `[1]` excludedSubtrees, each a SEQUENCE OF GeneralSubtree (RFC 5280 §4.2.1.10).
`CheckPresentedIDConformsToConstraints` checks one presented ID against it, walking each list in
`CheckPresentedIDConformsToNameConstraintsSubtrees`. Here:

* `readGeneralName`, a GeneralName chosen by its tag;
* the matchers a base of the presented ID's own type is handed to: the DNS-ID matcher in
  name-constraint mode, `matchPresentedIPAddressWithConstraint` and
  `matchPresentedDirectoryNameWithConstraint`, each with its spec lemma;
* the subtree loop and the whole check;
* `NameConstraints`, an extension value in the layout the check reads (an invalid layout cannot
  be built), with `NameConstraints.encode`, and `NameConstraints.Conforms`, what the check asks
  of the bases of the presented ID's type;
* **`checkPresentedIDConformsToConstraints_eq_ok_iff`**: the check succeeds exactly on the
  encodings of the `NameConstraints` the presented ID conforms to, so its verdict depends only on
  the bases of the presented ID's type, and not on their order;
* **`checkPresentedIDConformsToConstraints_unsupported`**: for the other types the verdict is
  fixed by whether any base has the type, with the error of the loop's switch.
-/

namespace PkixNames

/-! ## 1. GeneralName -/

/-- `GeneralNameType`: the GeneralName choices (RFC 5280 §4.2.1.6), and `nameConstraints`, the
    pseudo-type that marks a reference ID as a whole name-constraints extension. -/
inductive GeneralNameType where
  | otherName
  | rfc822Name
  | dNSName
  | x400Address
  | directoryName
  | ediPartyName
  | uniformResourceIdentifier
  | iPAddress
  | registeredID
  | nameConstraints
  deriving DecidableEq, Repr

namespace GeneralNameType

/-- The enum's values: the tag of each choice (`der::CONTEXT_SPECIFIC | n`, and
    `der::CONSTRUCTED` too for directoryName), and `0xff` for the pseudo-type. -/
def tag : GeneralNameType → UInt8
  | otherName => 0x80
  | rfc822Name => 0x81
  | dNSName => 0x82
  | x400Address => 0x83
  | directoryName => 0xa4
  | ediPartyName => 0x85
  | uniformResourceIdentifier => 0x86
  | iPAddress => 0x87
  | registeredID => 0x88
  | nameConstraints => 0xff

/-- The case labels of `ReadGeneralName`'s switch: every type but the pseudo-type. -/
def readable : List GeneralNameType :=
  [otherName, rfc822Name, dNSName, x400Address, directoryName, ediPartyName,
    uniformResourceIdentifier, iPAddress, registeredID]

/-- The switch of `ReadGeneralName`: the type a tag names, if it is one of the case labels. -/
def ofTag (tag : UInt8) : Option GeneralNameType := readable.find? (fun t => t.tag = tag)

/-- A tag the DER reader accepts names exactly one type of the switch: the pseudo-type's `0xff`
    is a high-tag-number form, which the reader refuses. -/
theorem ofTag_tag {t : GeneralNameType} (h : t.tag.toNat % 32 ≠ 31) : ofTag t.tag = some t := by
  cases t <;> first | rfl | exact (h (by decide)).elim

theorem tag_of_ofTag {tag : UInt8} {t : GeneralNameType} (h : ofTag tag = some t) : t.tag = tag := by
  simpa using List.find?_some h

/-- The type the switch names is `T` exactly when the tag is `T`'s. -/
theorem ofTag_eq_iff {tag : UInt8} {t T : GeneralNameType} (h : ofTag tag = some t)
    (hT : T.tag.toNat % 32 ≠ 31) : t = T ↔ tag = T.tag := by
  constructor
  · rintro rfl
    exact (tag_of_ofTag h).symm
  · rintro rfl
    exact Option.some.inj (h.symm.trans (ofTag_tag hT))

/-- The enum's values are distinct. -/
theorem tag_injective : Function.Injective tag := by
  intro a b h
  cases a <;> cases b <;> first | rfl | exact absurd h (by decide)

/-- Every type but the pseudo-type is read back from its tag. -/
theorem ofTag_tag_of_ne {t : GeneralNameType} (h : t ≠ .nameConstraints) : ofTag t.tag = some t :=
  ofTag_tag (by cases t <;> first | decide | exact absurd rfl h)

end GeneralNameType

/-- A GeneralName: its type and its value (a subjectAltName entry, or a constraint's base). -/
abbrev GeneralName := GeneralNameType × Input

/-- `ReadGeneralName`: one TLV, whose tag must be one of the switch's labels. Returns the type,
    the value and the rest of the reader. -/
def readGeneralName (reader : Input) : Except Result (GeneralNameType × Input × Input) :=
  match Der.readTagAndGetValue reader with
  | .error e => .error e
  | .ok (tag, value, rest) =>
    match GeneralNameType.ofTag tag with
    | some generalNameType => .ok (generalNameType, value, rest)
    | none => .error .errorBadDer

/-- **`ReadGeneralName` reads exactly the TLV of a GeneralName.** -/
theorem readGeneralName_eq_ok {reader value rest : Input} {t : GeneralNameType} :
    readGeneralName reader = .ok (t, value, rest) ↔
      Der.Encodable t.tag value ∧ reader = Der.tlv t.tag value ++ rest := by
  constructor
  · intro h
    unfold readGeneralName at h
    split at h
    · cases h
    · rename_i tag v r hr
      split at h
      · rename_i t' hf
        simp only [Except.ok.injEq, Prod.mk.injEq] at h
        obtain ⟨rfl, rfl, rfl⟩ := h
        exact GeneralNameType.tag_of_ofTag hf ▸ Der.readTagAndGetValue_eq_ok hr
      · cases h
  · rintro ⟨he, rfl⟩
    simp only [readGeneralName, Der.readTagAndGetValue_tlv he, GeneralNameType.ofTag_tag he.1]

/-! ## 2. The iPAddress matcher -/

/-- The address `a` lies in the range `addr`/`mask`: `(a XOR addr) AND mask = 0`, byte by
    byte. -/
def InAddressRange (a addr mask : Input) : Prop :=
  ∀ i < a.length, (a.getD i 0 ^^^ addr.getD i 0) &&& mask.getD i 0 = 0

instance (a addr mask : Input) : Decidable (InAddressRange a addr mask) :=
  inferInstanceAs (Decidable (∀ i < a.length, _))

theorem inAddressRange_nil (addr mask : Input) : InAddressRange [] addr mask := fun _ h => by
  simp at h

theorem inAddressRange_cons {p a m : UInt8} {ps as ms : Input} :
    InAddressRange (p :: ps) (a :: as) (m :: ms) ↔
      (p ^^^ a) &&& m = 0 ∧ InAddressRange ps as ms := by
  constructor
  · intro h
    exact ⟨h 0 (by simp), fun i hi => h (i + 1) (by simp [hi])⟩
  · rintro ⟨h0, h⟩ (_ | i) hi
    · exact h0
    · exact h i (by simpa using hi)

/-- The `do`-`while` loop of `MatchPresentedIPAddressWithConstraint`: a byte of the presented
    address, of the constraint's address and of its mask per round, while the masked bytes agree
    and the presented address lasts. A read past the end fails as `Reader::Read` does. -/
def matchIPAddressBytes : Input → Input → Input → Except Result Bool
  | presentedByte :: presented, constraintAddressByte :: constraintAddress,
      constraintMaskByte :: constraintMask =>
    if (presentedByte ^^^ constraintAddressByte) &&& constraintMaskByte = 0 ∧ presented ≠ [] then
      matchIPAddressBytes presented constraintAddress constraintMask
    else .ok (decide ((presentedByte ^^^ constraintAddressByte) &&& constraintMaskByte = 0))
  | _, _, _ => .error .errorBadDer

/-- `MatchPresentedIPAddressWithConstraint`: the constraint is an address and a mask, each as
    long as the presented address; an address of the other IP version never matches. -/
def matchPresentedIPAddressWithConstraint (presentedID iPAddressConstraint : Input) :
    Except Result Bool :=
  if presentedID.length ≠ 4 ∧ presentedID.length ≠ 16 then .error .errorBadDer
  else if iPAddressConstraint.length ≠ 8 ∧ iPAddressConstraint.length ≠ 32 then
    .error .errorBadDer
  else if presentedID.length * 2 ≠ iPAddressConstraint.length then .ok false
  else
    -- the two `Skip`s of half the constraint, and `der::End` after them, which cannot fail on a
    -- constraint of even length
    matchIPAddressBytes presentedID (iPAddressConstraint.take (iPAddressConstraint.length / 2))
      (iPAddressConstraint.drop (iPAddressConstraint.length / 2))

theorem matchIPAddressBytes_eq {p a m : Input} (hp : p ≠ []) (ha : a.length = p.length)
    (hm : m.length = p.length) : matchIPAddressBytes p a m = .ok (decide (InAddressRange p a m)) := by
  induction p generalizing a m with
  | nil => exact absurd rfl hp
  | cons x ps ih =>
    obtain _ | ⟨y, as⟩ := a
    · simp at ha
    obtain _ | ⟨z, ms⟩ := m
    · simp at hm
    simp only [List.length_cons, Nat.add_right_cancel_iff] at ha hm
    rw [matchIPAddressBytes]
    by_cases hps : ps = []
    · subst hps
      simp [inAddressRange_cons, inAddressRange_nil]
    by_cases hx : (x ^^^ y) &&& z = 0
    · rw [if_pos ⟨hx, hps⟩, ih hps ha hm]
      simp [inAddressRange_cons, hx]
    · rw [if_neg (fun h => hx h.1)]
      simp [inAddressRange_cons, hx]

/-- **The iPAddress matcher**: it fails on a presented address that is not 4 or 16 bytes long,
    or a constraint that is not 8 or 32; otherwise the address matches when it has the
    constraint's version and lies in its range. -/
theorem matchPresentedIPAddressWithConstraint_eq_ok {P c : Input} {m : Bool} :
    matchPresentedIPAddressWithConstraint P c = .ok m ↔
      ((P.length = 4 ∨ P.length = 16) ∧ (c.length = 8 ∨ c.length = 32)) ∧
        (m = true ↔ c.length = P.length * 2 ∧
          InAddressRange P (c.take P.length) (c.drop P.length)) := by
  unfold matchPresentedIPAddressWithConstraint
  by_cases hP : P.length ≠ 4 ∧ P.length ≠ 16
  · simp only [if_pos hP]
    simp only [reduceCtorEq, false_iff]
    omega
  rw [if_neg hP]
  by_cases hc : c.length ≠ 8 ∧ c.length ≠ 32
  · simp only [if_pos hc, reduceCtorEq, false_iff]
    omega
  rw [if_neg hc]
  have hwf : (P.length = 4 ∨ P.length = 16) ∧ (c.length = 8 ∨ c.length = 32) := by omega
  by_cases hl : P.length * 2 ≠ c.length
  · simp only [if_pos hl, Except.ok.injEq, hwf, true_and]
    constructor
    · rintro rfl
      simp only [Bool.false_eq_true, false_iff, not_and]
      omega
    · intro h
      cases m
      · rfl
      · exact absurd (h.mp rfl).1 (by omega)
  rw [if_neg hl]
  have hhalf : c.length / 2 = P.length := by omega
  rw [hhalf, matchIPAddressBytes_eq (by rintro rfl; simp at hwf) (by simp; omega) (by simp; omega)]
  simp only [Except.ok.injEq, hwf, true_and]
  cases m <;> simp [show c.length = P.length * 2 by omega]

/-- The range test on a constraint cut in halves, read on the constraint itself: byte `i` of the
    address against byte `i` of the constraint, under its byte `|P| + i`. -/
theorem inAddressRange_take_drop {P C : Input} :
    InAddressRange P (C.take P.length) (C.drop P.length) ↔
      ∀ i < P.length, (P.getD i 0 ^^^ C.getD i 0) &&& C.getD (P.length + i) 0 = 0 := by
  refine forall_congr' fun i => imp_congr_right fun hi => ?_
  simp only [List.getD_eq_getElem?_getD, List.getElem?_take_of_lt hi, List.getElem?_drop]

/-- **The iPAddress matcher as one equation**: `ERROR_BAD_DER` on a presented address that is not
    4 or 16 bytes long or a constraint that is not 8 or 32; otherwise a match exactly when the
    constraint is twice as long as the address and each byte of the address agrees with the
    constraint's address byte under its mask byte. -/
theorem matchPresentedIPAddressWithConstraint_eq (P C : Input) :
    matchPresentedIPAddressWithConstraint P C =
      if (P.length = 4 ∨ P.length = 16) ∧ (C.length = 8 ∨ C.length = 32) then
        .ok (decide (C.length = 2 * P.length ∧
          ∀ i < P.length, (P.getD i 0 ^^^ C.getD i 0) &&& C.getD (P.length + i) 0 = 0))
      else .error .errorBadDer := by
  unfold matchPresentedIPAddressWithConstraint
  by_cases hw : (P.length = 4 ∨ P.length = 16) ∧ (C.length = 8 ∨ C.length = 32)
  · rw [if_neg (by omega), if_neg (by omega), if_pos hw]
    by_cases hl : P.length * 2 ≠ C.length
    · rw [if_pos hl, decide_eq_false fun h => hl (by omega)]
    rw [if_neg hl, show C.length / 2 = P.length by omega,
      matchIPAddressBytes_eq (by rintro rfl; simp at hw) (by simp; omega) (by simp; omega),
      decide_eq_decide.mpr (inAddressRange_take_drop.trans
        (and_iff_right (show C.length = 2 * P.length by omega)).symm)]
  · rw [if_neg hw]
    by_cases hP : P.length ≠ 4 ∧ P.length ≠ 16
    · rw [if_pos hP]
    · rw [if_neg hP, if_pos (by omega)]

/-- Modelled from the spec: the byte of `k ≤ 8` leading one bits. -/
def leadingOnes (k : Nat) : UInt8 := UInt8.ofNat ((2 ^ k - 1) <<< (8 - k))

/-- Modelled from the spec: `mask(n)` of a CIDR prefix over `L` bytes, `n` leading one bits and
    then zero bits. -/
def prefixMask (L n : Nat) : Input := (List.range L).map fun i => leadingOnes (min 8 (n - 8 * i))

/-- Bit `j` of an address, counted from the most significant bit of its first byte. -/
def addressBit (A : Input) (j : Nat) : Bool := (A.getD (j / 8) 0).toNat.testBit (7 - j % 8)

theorem leadingOnes_toNat {k : Nat} (hk : k ≤ 8) :
    (leadingOnes k).toNat = (2 ^ k - 1) <<< (8 - k) := by
  refine byte_toNat_ofNat ?_
  rw [Nat.shiftLeft_eq]
  calc (2 ^ k - 1) * 2 ^ (8 - k) < 2 ^ k * 2 ^ (8 - k) :=
        Nat.mul_lt_mul_of_pos_right (Nat.sub_lt (Nat.two_pow_pos k) Nat.one_pos) (Nat.two_pow_pos _)
    _ = 256 := by rw [← Nat.pow_add, Nat.add_sub_cancel' hk]

/-- A difference of two bytes vanishes under `k` leading one bits exactly when the bytes agree
    on their top `k` bits. -/
theorem xor_and_leadingOnes_eq_zero {a b : UInt8} {k : Nat} (hk : k ≤ 8) :
    (a ^^^ b) &&& leadingOnes k = 0 ↔
      ∀ t < k, a.toNat.testBit (7 - t) = b.toNat.testBit (7 - t) := by
  rw [byte_eq_iff_toNat, UInt8.and_toNat, byte_xor_toNat, leadingOnes_toNat hk]
  show _ = 0 ↔ _
  constructor
  · intro h t ht
    have hb := congrArg (Nat.testBit · (7 - t)) h
    simp only [Nat.testBit_and, Nat.testBit_xor, Nat.testBit_shiftLeft, Nat.testBit_two_pow_sub_one,
      Nat.zero_testBit, decide_eq_true (show 7 - t ≥ 8 - k by omega),
      decide_eq_true (show 7 - t - (8 - k) < k by omega), Bool.and_true] at hb
    simpa using hb
  · intro h
    refine Nat.eq_of_testBit_eq fun i => ?_
    simp only [Nat.testBit_and, Nat.testBit_xor, Nat.testBit_shiftLeft, Nat.testBit_two_pow_sub_one,
      Nat.zero_testBit]
    by_cases hi : 8 - k ≤ i ∧ i < 8
    · rw [show i = 7 - (7 - i) by omega, h (7 - i) (by omega)]
      simp
    · rw [Bool.and_eq_false_iff]
      right
      simp only [Bool.and_eq_false_iff, decide_eq_false_iff_not]
      omega

theorem length_prefixMask (L n : Nat) : (prefixMask L n).length = L := by simp [prefixMask]

theorem getD_prefixMask {L n i : Nat} (hi : i < L) :
    (prefixMask L n).getD i 0 = leadingOnes (min 8 (n - 8 * i)) := by
  simp [prefixMask, List.getD_eq_getElem?_getD, hi]

/-- **A CIDR prefix**: an address `B` matches the constraint `A` / `mask(n)` of its own length
    exactly when it agrees with `A` on the first `n` bits. -/
theorem matchPresentedIPAddressWithConstraint_prefixMask {A B : Input}
    (hA : A.length = 4 ∨ A.length = 16) (hB : B.length = A.length) {n : Nat}
    (hn : n ≤ 8 * A.length) :
    matchPresentedIPAddressWithConstraint B (A ++ prefixMask A.length n) = .ok true ↔
      ∀ j < n, addressBit A j = addressBit B j := by
  have hcat : ∀ i < A.length, (A ++ prefixMask A.length n).getD i 0 = A.getD i 0 ∧
      (A ++ prefixMask A.length n).getD (A.length + i) 0 = leadingOnes (min 8 (n - 8 * i)) :=
    fun i hi => ⟨by simp [List.getD_eq_getElem?_getD, List.getElem?_append_left hi],
      by rw [← getD_prefixMask hi]; simp [List.getD_eq_getElem?_getD, List.getElem?_append_right]⟩
  rw [matchPresentedIPAddressWithConstraint_eq, if_pos (by simp [length_prefixMask]; omega)]
  simp only [Except.ok.injEq, decide_eq_true_eq, List.length_append, length_prefixMask, hB]
  constructor
  · rintro ⟨-, h⟩ j hj
    have hi : j / 8 < A.length := by omega
    have hbyte := h (j / 8) hi
    rw [(hcat _ hi).1, (hcat _ hi).2, xor_and_leadingOnes_eq_zero (by omega)] at hbyte
    exact (hbyte (j % 8) (by omega)).symm
  · intro h
    refine ⟨by omega, fun i hi => ?_⟩
    rw [(hcat i hi).1, (hcat i hi).2, xor_and_leadingOnes_eq_zero (by omega)]
    intro t ht
    have hbit := h (8 * i + t) (by omega)
    simp only [addressBit, show (8 * i + t) / 8 = i by omega,
      show (8 * i + t) % 8 = t by omega] at hbit
    exact hbit.symm

/-- **The iPAddress matcher, and the prefixes it matches**: the matcher is the byte-wise test
    under the constraint's mask, guarded by the lengths; on a prefix mask `mask(n)` that test is
    agreement on the first `n` bits. -/
theorem matchPresentedIPAddressWithConstraint_prefix :
    (∀ P C : Input, matchPresentedIPAddressWithConstraint P C =
      if (P.length = 4 ∨ P.length = 16) ∧ (C.length = 8 ∨ C.length = 32) then
        .ok (decide (C.length = 2 * P.length ∧
          ∀ i < P.length, (P.getD i 0 ^^^ C.getD i 0) &&& C.getD (P.length + i) 0 = 0))
      else .error .errorBadDer) ∧
    ∀ A B : Input, (A.length = 4 ∨ A.length = 16) → B.length = A.length → ∀ n ≤ 8 * A.length,
      (matchPresentedIPAddressWithConstraint B (A ++ prefixMask A.length n) = .ok true ↔
        ∀ j < n, addressBit A j = addressBit B j) :=
  ⟨matchPresentedIPAddressWithConstraint_eq,
    fun _ _ hA hB _ hn => matchPresentedIPAddressWithConstraint_prefixMask hA hB hn⟩

/-- `192.0.2.7` against the class C subnet `192.0.2.0/24`. -/
theorem matchPresentedIPAddressWithConstraint_prefix_classC :
    matchPresentedIPAddressWithConstraint [192, 0, 2, 7] ([192, 0, 2, 0] ++ prefixMask 4 24) =
        .ok true ↔
      ∀ j < 24, addressBit [192, 0, 2, 0] j = addressBit [192, 0, 2, 7] j :=
  matchPresentedIPAddressWithConstraint_prefix.2 [192, 0, 2, 0] [192, 0, 2, 7] (.inl rfl) rfl 24
    (by decide)

/-! ## 3. The directoryName matcher -/

/-- The two subtree lists of a name-constraints extension (`NameConstraintsSubtrees`). -/
inductive NameConstraintsSubtrees where
  | permittedSubtrees
  | excludedSubtrees
  deriving DecidableEq, Repr

/-- The enum's values: the tags `[0]` and `[1]`, constructed. -/
def NameConstraintsSubtrees.tag : NameConstraintsSubtrees → UInt8
  | .permittedSubtrees => 0xa0
  | .excludedSubtrees => 0xa1

/-- The `for (;;)` loop of `MatchPresentedDirectoryNameWithConstraint` for a permitted
    constraint: RDN by RDN, each a SET, the constraint's RDNs must be byte-equal to the first ones
    of the presented name. Only as many RDNs are read as the comparison needs. -/
def matchPresentedRDNs (constraintRDNs presentedRDNs : Input) : Except Result Bool :=
  if constraintRDNs = [] then .ok true
  else if presentedRDNs = [] then .ok false
  else
    match h : Der.expectTagAndGetValue constraintRDNs Der.set with
    | .error e => .error e
    | .ok (constraintRDN, constraintRest) =>
      match Der.expectTagAndGetValue presentedRDNs Der.set with
      | .error e => .error e
      | .ok (presentedRDN, presentedRest) =>
        if constraintRDN ≠ presentedRDN then .ok false
        else matchPresentedRDNs constraintRest presentedRest
termination_by constraintRDNs.length
decreasing_by exact Der.expectTagAndGetValue_length_lt h

/-- `MatchPresentedDirectoryNameWithConstraint`: both names must be one SEQUENCE each. An
    excluded directoryName constraint is refused unless both are empty, and then it matches. -/
def matchPresentedDirectoryNameWithConstraint (subtreesType : NameConstraintsSubtrees)
    (presentedID directoryNameConstraint : Input) : Except Result Bool :=
  match Der.expectTagAndGetValueAtEnd directoryNameConstraint Der.sequence with
  | .error e => .error e
  | .ok constraintRDNs =>
    match Der.expectTagAndGetValueAtEnd presentedID Der.sequence with
    | .error e => .error e
    | .ok presentedRDNs =>
      match subtreesType with
      | .permittedSubtrees => matchPresentedRDNs constraintRDNs presentedRDNs
      | .excludedSubtrees =>
        if constraintRDNs ≠ [] ∨ presentedRDNs ≠ [] then .error .errorCertNotInNameSpace
        else .ok true

/-- An excluded directoryName constraint never lets a name through as a non-match. -/
theorem matchPresentedDirectoryNameWithConstraint_excluded_ne {P C : Input} :
    matchPresentedDirectoryNameWithConstraint .excludedSubtrees P C ≠ .ok false := by
  simp only [matchPresentedDirectoryNameWithConstraint]
  split
  · simp
  · split
    · simp
    · split <;> simp

/-- An empty permitted directoryName constraint covers every name. -/
theorem matchPresentedRDNs_nil (presentedRDNs : Input) :
    matchPresentedRDNs [] presentedRDNs = .ok true := by
  rw [matchPresentedRDNs, if_pos rfl]

/-- The RDN loop over two runs of SETs compares them SET by SET: it answers whether the
    constraint's SETs are the first SETs of the presented name. -/
theorem matchPresentedRDNs_encodeAll {cs ps : List Input} (hc : ∀ c ∈ cs, Der.Encodable Der.set c)
    (hp : ∀ p ∈ ps, Der.Encodable Der.set p) :
    matchPresentedRDNs (Der.encodeAll (cs.map (Der.set, ·))) (Der.encodeAll (ps.map (Der.set, ·))) =
      .ok (decide (cs.map (Der.tlv Der.set) <+: ps.map (Der.tlv Der.set))) := by
  induction cs generalizing ps with
  | nil => simp [matchPresentedRDNs_nil]
  | cons c cs ih =>
    cases ps with
    | nil => rw [matchPresentedRDNs]; simp
    | cons p ps =>
      have hc0 := hc c (List.mem_cons_self _ _)
      have hp0 := hp p (List.mem_cons_self _ _)
      rw [matchPresentedRDNs]
      simp only [List.map_cons, Der.encodeAll_cons, List.append_eq_nil, Der.tlv_ne_nil, false_and,
        if_false]
      split
      · rename_i hr
        rw [Der.expectTagAndGetValue_tlv hc0] at hr
        cases hr
      · rename_i hr
        rw [Der.expectTagAndGetValue_tlv hc0, Except.ok.injEq, Prod.mk.injEq] at hr
        obtain ⟨rfl, rfl⟩ := hr
        simp only [Der.expectTagAndGetValue_tlv hp0, List.cons_prefix_cons, Der.tlv_inj hc0 hp0,
          ih (fun x hx => hc x (List.mem_cons_of_mem c hx))
            (fun x hx => hp x (List.mem_cons_of_mem p hx))]
        by_cases e : c = p <;> simp [e]

/-- **The directoryName matcher, on names made of SETs**: for a permitted constraint it
    succeeds, and matches exactly when the constraint's SETs are, byte for byte, the first SETs
    of the presented name (no more of them, and equal one by one); for an excluded constraint it
    never answers that a name does not match. -/
theorem matchPresentedDirectoryNameWithConstraint_rdnPrefix {ps cs : List Input}
    (hp : ∀ p ∈ ps, Der.Encodable Der.set p) (hc : ∀ c ∈ cs, Der.Encodable Der.set c)
    (hP : Der.Encodable Der.sequence (Der.encodeAll (ps.map (Der.set, ·))))
    (hC : Der.Encodable Der.sequence (Der.encodeAll (cs.map (Der.set, ·)))) :
    matchPresentedDirectoryNameWithConstraint .permittedSubtrees
        (Der.tlv Der.sequence (Der.encodeAll (ps.map (Der.set, ·))))
        (Der.tlv Der.sequence (Der.encodeAll (cs.map (Der.set, ·)))) =
      .ok (decide (cs.map (Der.tlv Der.set) <+: ps.map (Der.tlv Der.set))) ∧
    ∀ P C, matchPresentedDirectoryNameWithConstraint .excludedSubtrees P C ≠ .ok false := by
  refine ⟨?_, fun _ _ => matchPresentedDirectoryNameWithConstraint_excluded_ne⟩
  simp only [matchPresentedDirectoryNameWithConstraint,
    Der.expectTagAndGetValueAtEnd_eq_ok.mpr ⟨hC, rfl⟩,
    Der.expectTagAndGetValueAtEnd_eq_ok.mpr ⟨hP, rfl⟩,
    matchPresentedRDNs_encodeAll hc hp]

/-- The contents of the RDN `CN=a`: one AttributeTypeAndValue, the OID 2.5.4.3 and the
    UTF8String `a`. -/
def rdnCNa : Input := [0x30, 0x08, 0x06, 0x03, 0x55, 0x04, 0x03, 0x0c, 0x01, 0x61]

/-- The contents of the RDN `CN=b`. -/
def rdnCNb : Input := [0x30, 0x08, 0x06, 0x03, 0x55, 0x04, 0x03, 0x0c, 0x01, 0x62]

/-- The two-RDN name `CN=a, CN=b` is under the one-RDN constraint `CN=a`, its first RDN, and not
    under `CN=b`, its second: the RDNs are compared in order. -/
theorem matchPresentedDirectoryNameWithConstraint_rdnPrefix_twoRDNs :
    matchPresentedDirectoryNameWithConstraint .permittedSubtrees
        (Der.tlv Der.sequence (Der.encodeAll ([rdnCNa, rdnCNb].map (Der.set, ·))))
        (Der.tlv Der.sequence (Der.encodeAll ([rdnCNa].map (Der.set, ·)))) = .ok true ∧
      matchPresentedDirectoryNameWithConstraint .permittedSubtrees
        (Der.tlv Der.sequence (Der.encodeAll ([rdnCNa, rdnCNb].map (Der.set, ·))))
        (Der.tlv Der.sequence (Der.encodeAll ([rdnCNb].map (Der.set, ·)))) = .ok false :=
  ⟨(matchPresentedDirectoryNameWithConstraint_rdnPrefix (by decide) (by decide) (by decide)
      (by decide)).1.trans (congrArg Except.ok (by decide)),
    (matchPresentedDirectoryNameWithConstraint_rdnPrefix (by decide) (by decide) (by decide)
      (by decide)).1.trans (congrArg Except.ok (by decide))⟩

/-! ## 4. The subtree loop and the check -/

/-- The `switch (presentedIDType)` of the subtree loop, on a base of the presented ID's own type:
    whether it matches, or the error that ends the check. A DNS-ID base that neither matches nor
    is a valid constraint ends it too. -/
def matchPresentedIDWithBase (subtreesType : NameConstraintsSubtrees)
    (presentedIDType : GeneralNameType) (presentedID base : Input) : Except Result Bool :=
  match presentedIDType with
  | .dNSName =>
    if !presentedDNSIDMatchesReferenceDNSID presentedID .nameConstraint base &&
        !isValidDNSID base .nameConstraint then .error .errorCertNotInNameSpace
    else .ok (presentedDNSIDMatchesReferenceDNSID presentedID .nameConstraint base)
  | .iPAddress => matchPresentedIPAddressWithConstraint presentedID base
  | .directoryName => matchPresentedDirectoryNameWithConstraint subtreesType presentedID base
  | .rfc822Name => .error .fatalErrorLibraryFailure
  | .otherName | .x400Address | .ediPartyName | .uniformResourceIdentifier | .registeredID =>
    .error .errorCertNotInNameSpace
  | .nameConstraints => .error .fatalErrorLibraryFailure

/-- The `switch (subtreesType)` of the subtree loop, after a base of the presented ID's type was
    matched: a permitted base sets one of the two flags (hasPermittedSubtreesMatch,
    hasPermittedSubtreesMismatch), an excluded base that matches ends the check. -/
def recordSubtreeMatch (subtreesType : NameConstraintsSubtrees) (flags : Bool × Bool) :
    Except Result Bool → Except Result (ForInStep (Bool × Bool))
  | .error e => .error e
  | .ok true =>
    match subtreesType with
    | .permittedSubtrees => .ok (.yield (true, flags.2))
    | .excludedSubtrees => .error .errorCertNotInNameSpace
  | .ok false =>
    match subtreesType with
    | .permittedSubtrees => .ok (.yield (flags.1, true))
    | .excludedSubtrees => .ok (.yield flags)

/-- One round of the `do`-`while` loop of `CheckPresentedIDConformsToNameConstraintsSubtrees`: a
    GeneralSubtree, a SEQUENCE holding exactly one GeneralName (no minimum, no maximum), looked at
    when its base has the presented ID's type. -/
def checkSubtree (presentedIDType : GeneralNameType) (presentedID : Input)
    (subtreesType : NameConstraintsSubtrees) (flags : Bool × Bool) (tag : UInt8)
    (subtree : Input) : Except Result (ForInStep (Bool × Bool)) :=
  if tag ≠ Der.sequence then .error .errorBadDer
  else
    match readGeneralName subtree with
    | .error e => .error e
    | .ok (nameConstraintType, base, rest) =>
      if rest ≠ [] then .error .errorBadDer
      else if presentedIDType ≠ nameConstraintType then .ok (.yield flags)
      else
        recordSubtreeMatch subtreesType flags
          (matchPresentedIDWithBase subtreesType presentedIDType presentedID base)

/-- `CheckPresentedIDConformsToNameConstraintsSubtrees`: if the next field has the list's tag,
    the list is walked (it must not be empty), and a permitted list with bases of the presented
    ID's type, none of which matches, ends the check. Returns the reader after the field. -/
def checkPresentedIDConformsToNameConstraintsSubtrees (presentedIDType : GeneralNameType)
    (presentedID nameConstraints : Input) (subtreesType : NameConstraintsSubtrees) :
    Except Result Input :=
  if nameConstraints.head? ≠ some subtreesType.tag then .ok nameConstraints
  else
    match Der.expectTagAndGetValue nameConstraints subtreesType.tag with
    | .error e => .error e
    | .ok (subtrees, rest) =>
      match Der.forEachTLV (checkSubtree presentedIDType presentedID subtreesType) (false, false)
          subtrees with
      | .error e => .error e
      | .ok r => if r.value.2 && !r.value.1 then .error .errorCertNotInNameSpace else .ok rest

/-- `CheckPresentedIDConformsToConstraints`: the extension is one SEQUENCE, not empty, of the
    permitted list, then the excluded list, and nothing after them. -/
def checkPresentedIDConformsToConstraints (presentedIDType : GeneralNameType)
    (presentedID encodedNameConstraints : Input) : Except Result Unit :=
  match Der.expectTagAndGetValueAtEnd encodedNameConstraints Der.sequence with
  | .error e => .error e
  | .ok nameConstraints =>
    if nameConstraints = [] then .error .errorBadDer
    else
      match checkPresentedIDConformsToNameConstraintsSubtrees presentedIDType presentedID
          nameConstraints .permittedSubtrees with
      | .error e => .error e
      | .ok nameConstraints =>
        match checkPresentedIDConformsToNameConstraintsSubtrees presentedIDType presentedID
            nameConstraints .excludedSubtrees with
        | .error e => .error e
        | .ok nameConstraints => Der.derEnd nameConstraints

/-- The check reads a presented DNS-ID only through the name-constraint matcher: two that it
    treats alike on every base are checked alike, against every extension value. -/
theorem checkPresentedIDConformsToConstraints_dNSName_congr {P P' encodedNameConstraints : Input}
    (h : ∀ base, presentedDNSIDMatchesReferenceDNSID P' .nameConstraint base =
      presentedDNSIDMatchesReferenceDNSID P .nameConstraint base) :
    checkPresentedIDConformsToConstraints .dNSName P' encodedNameConstraints =
      checkPresentedIDConformsToConstraints .dNSName P encodedNameConstraints := by
  have hs : checkSubtree .dNSName P' = checkSubtree .dNSName P := by
    funext subtreesType flags tag subtree
    simp only [checkSubtree, matchPresentedIDWithBase, h]
  simp only [checkPresentedIDConformsToConstraints,
    checkPresentedIDConformsToNameConstraintsSubtrees, hs]

/-- **Name constraints do not see the case of a presented DNS-ID**: a dNSName written in
    capitals is permitted, excluded or refused exactly as its folded form is, by every extension
    value, so no choice of case gets a name past a constraint. -/
theorem checkPresentedIDConformsToConstraints_lowerBytes (P encodedNameConstraints : Input) :
    checkPresentedIDConformsToConstraints .dNSName (lowerBytes P) encodedNameConstraints =
      checkPresentedIDConformsToConstraints .dNSName P encodedNameConstraints :=
  checkPresentedIDConformsToConstraints_dNSName_congr fun _ =>
    presentedDNSIDMatchesReferenceDNSID_lowerBytes_presented ..

/-! ## 5. The extension value the check reads, and what it asks of it -/

/-- A GeneralSubtree around one base, as an item of its list: a SEQUENCE holding the base. -/
def encodeSubtree (base : GeneralName) : UInt8 × Input :=
  (Der.sequence, Der.tlv base.1.tag base.2)

/-- A subtree list field: absent, or the list's tag around its subtrees. -/
def encodeSubtrees (subtreesType : NameConstraintsSubtrees) : Option (List GeneralName) → Input
  | none => []
  | some bases => Der.tlv subtreesType.tag (Der.encodeAll (bases.map encodeSubtree))

/-- A list of bases in DER: not empty, and every TLV of it one the reader takes in. -/
def SubtreesEncodable (subtreesType : NameConstraintsSubtrees) (bases : List GeneralName) :
    Prop :=
  bases ≠ [] ∧
    (∀ b ∈ bases, Der.Encodable b.1.tag b.2 ∧ Der.Encodable Der.sequence (Der.tlv b.1.tag b.2)) ∧
    Der.Encodable subtreesType.tag (Der.encodeAll (bases.map encodeSubtree))

/-- Modelled from the spec (RFC 5280 §4.2.1.10): a name-constraints extension value, one
    SEQUENCE of an optional permitted list followed by an optional excluded list, at least one of
    them present, each a non-empty list of GeneralSubtrees of one base each, all in DER. -/
structure NameConstraints where
  permittedSubtrees : Option (List GeneralName)
  excludedSubtrees : Option (List GeneralName)
  present : permittedSubtrees ≠ none ∨ excludedSubtrees ≠ none
  permitted_encodable : ∀ bases ∈ permittedSubtrees, SubtreesEncodable .permittedSubtrees bases
  excluded_encodable : ∀ bases ∈ excludedSubtrees, SubtreesEncodable .excludedSubtrees bases
  encodable : Der.Encodable Der.sequence
    (encodeSubtrees .permittedSubtrees permittedSubtrees ++
      encodeSubtrees .excludedSubtrees excludedSubtrees)

/-- The DER encoding of an extension value. -/
def NameConstraints.encode (nc : NameConstraints) : Input :=
  Der.tlv Der.sequence (encodeSubtrees .permittedSubtrees nc.permittedSubtrees ++
    encodeSubtrees .excludedSubtrees nc.excludedSubtrees)

/-- The values of the bases of type `T`, in order. -/
def basesOfType (T : GeneralNameType) (bases : List GeneralName) : List Input :=
  bases.filterMap fun b => if b.1 = T then some b.2 else none

@[simp] theorem basesOfType_nil (T : GeneralNameType) : basesOfType T [] = [] := rfl

@[simp] theorem basesOfType_cons_self (T : GeneralNameType) (v : Input) (bases : List GeneralName) :
    basesOfType T ((T, v) :: bases) = v :: basesOfType T bases := by
  simp [basesOfType]

theorem basesOfType_cons_of_ne {T t : GeneralNameType} (h : t ≠ T) (v : Input)
    (bases : List GeneralName) : basesOfType T ((t, v) :: bases) = basesOfType T bases := by
  simp [basesOfType, h]

theorem mem_basesOfType {T : GeneralNameType} {v : Input} {bases : List GeneralName} :
    v ∈ basesOfType T bases ↔ (T, v) ∈ bases := by
  simp [basesOfType]

/-- What the matcher for `T` asks of a base beside the presented ID `P`: a valid DNS-ID
    constraint; an address and mask pair beside an IPv4 or IPv6 address; two names whose RDNs
    the directoryName matcher reads without a DER error. -/
def BaseWellFormed (T : GeneralNameType) (P base : Input) : Prop :=
  match T with
  | .dNSName => isValidDNSID base .nameConstraint = true
  | .iPAddress => (P.length = 4 ∨ P.length = 16) ∧ (base.length = 8 ∨ base.length = 32)
  | .directoryName =>
    ∃ m, matchPresentedDirectoryNameWithConstraint .permittedSubtrees P base = .ok m
  | _ => False

/-- When a base of type `T` covers the presented ID `P`. -/
def BaseMatches (T : GeneralNameType) (P base : Input) : Prop :=
  match T with
  | .dNSName => presentedDNSIDMatchesReferenceDNSID P .nameConstraint base = true
  | .iPAddress =>
    base.length = P.length * 2 ∧ InAddressRange P (base.take P.length) (base.drop P.length)
  | .directoryName =>
    matchPresentedDirectoryNameWithConstraint .permittedSubtrees P base = .ok true
  | _ => False

/-- A permitted list with the bases `vs` of type `T` lets `P` through: they are well-formed, and
    there are none or one of them covers `P`. -/
def PermittedConform (T : GeneralNameType) (P : Input) (vs : List Input) : Prop :=
  (∀ v ∈ vs, BaseWellFormed T P v) ∧ (vs = [] ∨ ∃ v ∈ vs, BaseMatches T P v)

/-- An excluded list with the bases `vs` of type `T` lets `P` through: they are well-formed and
    none covers `P`, where an excluded directoryName base covers every name. -/
def ExcludedConform (T : GeneralNameType) (P : Input) (vs : List Input) : Prop :=
  ∀ v ∈ vs, BaseWellFormed T P v ∧ ¬(T = .directoryName ∨ BaseMatches T P v)

/-- The presented ID `P` of type `T` conforms to an extension value: only the bases of type `T`
    count, and an absent list counts as an empty one. -/
def NameConstraints.Conforms (nc : NameConstraints) (T : GeneralNameType) (P : Input) : Prop :=
  PermittedConform T P (basesOfType T (nc.permittedSubtrees.getD [])) ∧
    ExcludedConform T P (basesOfType T (nc.excludedSubtrees.getD []))

theorem permittedConform_perm {T : GeneralNameType} {P : Input} {vs vs' : List Input}
    (h : vs.Perm vs') : PermittedConform T P vs ↔ PermittedConform T P vs' := by
  have hnil : vs = [] ↔ vs' = [] := by
    constructor <;> rintro rfl
    exacts [h.symm.eq_nil, h.eq_nil]
  simp only [PermittedConform, h.mem_iff, hnil]

theorem excludedConform_perm {T : GeneralNameType} {P : Input} {vs vs' : List Input}
    (h : vs.Perm vs') : ExcludedConform T P vs ↔ ExcludedConform T P vs' := by
  simp only [ExcludedConform, h.mem_iff]

/-! ## 6. The matchers, seen through `BaseWellFormed` and `BaseMatches` -/

section Matchers

variable {T : GeneralNameType} {P v : Input}

/-- A DNS-ID constraint that matches is a valid one. -/
theorem isValidDNSID_of_matches (h : presentedDNSIDMatchesReferenceDNSID P .nameConstraint v = true) :
    isValidDNSID v .nameConstraint = true := by
  rw [presentedDNSIDMatchesReferenceDNSID_nameConstraint_eq] at h
  simp only [Bool.and_eq_true] at h
  exact h.1.2

theorem matchPresentedIDWithBase_permitted
    (hT : T = .dNSName ∨ T = .iPAddress ∨ T = .directoryName) {m : Bool} :
    matchPresentedIDWithBase .permittedSubtrees T P v = .ok m ↔
      BaseWellFormed T P v ∧ (m = true ↔ BaseMatches T P v) := by
  rcases hT with rfl | rfl | rfl
  · have hv := @isValidDNSID_of_matches P v
    simp only [matchPresentedIDWithBase, BaseWellFormed, BaseMatches]
    cases hM : presentedDNSIDMatchesReferenceDNSID P .nameConstraint v <;>
      cases hV : isValidDNSID v .nameConstraint <;> cases m <;> simp_all
  · exact matchPresentedIPAddressWithConstraint_eq_ok
  · simp only [matchPresentedIDWithBase, BaseWellFormed, BaseMatches]
    constructor
    · intro h
      simp [h]
    · rintro ⟨⟨m', h⟩, hm⟩
      rw [h] at hm ⊢
      cases m <;> cases m' <;> simp_all

theorem matchPresentedIDWithBase_excluded
    (hT : T = .dNSName ∨ T = .iPAddress ∨ T = .directoryName) :
    matchPresentedIDWithBase .excludedSubtrees T P v = .ok false ↔
      BaseWellFormed T P v ∧ ¬(T = .directoryName ∨ BaseMatches T P v) := by
  rcases hT with rfl | rfl | rfl
  · have h := @matchPresentedIDWithBase_permitted .dNSName P v (Or.inl rfl) false
    simp only [matchPresentedIDWithBase] at h ⊢
    simpa using h
  · have h := @matchPresentedIDWithBase_permitted .iPAddress P v (Or.inr (Or.inl rfl)) false
    simp only [matchPresentedIDWithBase] at h ⊢
    simpa using h
  · simp [matchPresentedIDWithBase, matchPresentedDirectoryNameWithConstraint_excluded_ne]

/-- Under well-formed bases, the permitted list's two flags say what `PermittedConform` says:
    no mismatch without a match. -/
theorem permittedConform_iff_flags
    (hT : T = .dNSName ∨ T = .iPAddress ∨ T = .directoryName) {vs : List Input} :
    ((∀ v ∈ vs, ∃ m, matchPresentedIDWithBase .permittedSubtrees T P v = .ok m) ∧
      ((∃ v ∈ vs, matchPresentedIDWithBase .permittedSubtrees T P v = .ok false) →
        ∃ v ∈ vs, matchPresentedIDWithBase .permittedSubtrees T P v = .ok true)) ↔
      PermittedConform T P vs := by
  simp only [matchPresentedIDWithBase_permitted hT, Bool.false_eq_true, false_iff, true_iff,
    PermittedConform]
  constructor
  · rintro ⟨hw, hflag⟩
    have hw' : ∀ v ∈ vs, BaseWellFormed T P v := fun v hv => (hw v hv).elim fun _ h => h.1
    refine ⟨hw', ?_⟩
    rcases vs with _ | ⟨v, vs⟩
    · exact .inl rfl
    by_cases hm : BaseMatches T P v
    · exact .inr ⟨v, List.mem_cons_self _ _, hm⟩
    · obtain ⟨v', hv', -, hm'⟩ := hflag ⟨v, List.mem_cons_self _ _, hw' v (List.mem_cons_self _ _), hm⟩
      exact .inr ⟨v', hv', hm'⟩
  · rintro ⟨hw, rfl | ⟨v, hv, hm⟩⟩
    · simp
    · refine ⟨fun v' hv' => ?_, fun _ => ⟨v, hv, hw v hv, hm⟩⟩
      by_cases hm' : BaseMatches T P v'
      · exact ⟨true, hw v' hv', by simp [hm']⟩
      · exact ⟨false, hw v' hv', by simp [hm']⟩

end Matchers

/-! ## 7. The subtree loop -/

section Loop

variable {T : GeneralNameType} {P : Input} {st : NameConstraintsSubtrees}

theorem readGeneralName_tlv {t : GeneralNameType} {v : Input} (h : Der.Encodable t.tag v) :
    readGeneralName (Der.tlv t.tag v) = .ok (t, v, []) :=
  readGeneralName_eq_ok.mpr ⟨h, (List.append_nil _).symm⟩

theorem recordSubtreeMatch_eq_ok {flags : Bool × Bool} {x : Except Result Bool}
    {r : ForInStep (Bool × Bool)} (h : recordSubtreeMatch st flags x = .ok r) :
    ∃ flags', r = .yield flags' := by
  unfold recordSubtreeMatch at h
  split at h <;> (try split at h) <;> first | exact ⟨_, (Except.ok.inj h).symm⟩ | cases h

/-- A round of the loop succeeds only on a GeneralSubtree holding one GeneralName, and never
    leaves the loop early. -/
theorem checkSubtree_eq_ok {flags : Bool × Bool} {tag : UInt8} {subtree : Input}
    {r : ForInStep (Bool × Bool)} (h : checkSubtree T P st flags tag subtree = .ok r) :
    (∃ b : GeneralName, Der.Encodable b.1.tag b.2 ∧ (tag, subtree) = encodeSubtree b) ∧
      ∃ flags', r = .yield flags' := by
  unfold checkSubtree at h
  by_cases htag : tag = Der.sequence
  swap
  · simp [htag] at h
  subst htag
  rw [if_neg (not_not.mpr rfl)] at h
  split at h
  · cases h
  · rename_i t base rest hr
    by_cases hrest : rest = []
    swap
    · simp [hrest] at h
    subst hrest
    obtain ⟨he, hsub⟩ := readGeneralName_eq_ok.mp hr
    refine ⟨⟨(t, base), he, by simp [encodeSubtree, hsub]⟩, ?_⟩
    rw [if_neg (not_not.mpr rfl)] at h
    split_ifs at h
    · exact ⟨_, (Except.ok.inj h).symm⟩
    · exact recordSubtreeMatch_eq_ok h

/-- The round on a GeneralSubtree: a base of another type passes the flags on. -/
theorem checkSubtree_tlv {t : GeneralNameType} {v : Input} (hv : Der.Encodable t.tag v)
    (flags : Bool × Bool) :
    checkSubtree T P st flags Der.sequence (Der.tlv t.tag v) =
      if T ≠ t then .ok (.yield flags)
      else recordSubtreeMatch st flags (matchPresentedIDWithBase st T P v) := by
  simp only [checkSubtree, readGeneralName_tlv hv, ne_eq, not_true_eq_false, if_false]

/-- A run of the loop that succeeds walked the GeneralSubtrees of a list of bases. -/
theorem forEachItem_checkSubtree_eq_ok {items : List (UInt8 × Input)} {flags : Bool × Bool}
    {r : ForInStep (Bool × Bool)} (h : Der.forEachItem (checkSubtree T P st) flags items = .ok r) :
    (∃ bases : List GeneralName, (∀ b ∈ bases, Der.Encodable b.1.tag b.2) ∧
      items = bases.map encodeSubtree) ∧ ∃ flags', r = .yield flags' := by
  induction items generalizing flags with
  | nil =>
    simp only [Der.forEachItem, Except.ok.injEq] at h
    exact ⟨⟨[], by simp, rfl⟩, flags, h.symm⟩
  | cons item items ih =>
    obtain ⟨tag, subtree⟩ := item
    simp only [Der.forEachItem] at h
    split at h
    · cases h
    · obtain ⟨-, _, hd⟩ := checkSubtree_eq_ok ‹_›
      cases hd
    · obtain ⟨⟨b, hb, hbe⟩, -⟩ := checkSubtree_eq_ok ‹_›
      obtain ⟨⟨bases, hbs, rfl⟩, hr⟩ := ih h
      refine ⟨⟨b :: bases, ?_, by simp [hbe]⟩, hr⟩
      simpa [hb] using hbs

/-- **The permitted loop**, over the subtrees of a list of bases: it fails on the first base of
    the presented ID's type whose matcher fails; otherwise it sets the match flag when one of
    them matches, and the mismatch flag when one of them does not. -/
theorem forEachItem_permitted {bases : List GeneralName}
    (hb : ∀ b ∈ bases, Der.Encodable b.1.tag b.2) (flags : Bool × Bool)
    {r : ForInStep (Bool × Bool)} :
    Der.forEachItem (checkSubtree T P .permittedSubtrees) flags (bases.map encodeSubtree) =
        .ok r ↔
      (∀ v ∈ basesOfType T bases, ∃ m, matchPresentedIDWithBase .permittedSubtrees T P v = .ok m) ∧
      ∃ a b, r = .yield (a, b) ∧
        (a = true ↔ flags.1 = true ∨
          ∃ v ∈ basesOfType T bases, matchPresentedIDWithBase .permittedSubtrees T P v = .ok true) ∧
        (b = true ↔ flags.2 = true ∨
          ∃ v ∈ basesOfType T bases, matchPresentedIDWithBase .permittedSubtrees T P v = .ok false) := by
  induction bases generalizing flags with
  | nil =>
    obtain ⟨f1, f2⟩ := flags
    simp only [List.map_nil, Der.forEachItem, basesOfType_nil, List.not_mem_nil,
      false_and, exists_false, or_false, Except.ok.injEq]
    constructor
    · rintro rfl
      exact ⟨fun _ h => h.elim, f1, f2, rfl, Iff.rfl, Iff.rfl⟩
    · rintro ⟨-, a, b, rfl, ha, hb⟩
      rw [Bool.coe_iff_coe.mp ha, Bool.coe_iff_coe.mp hb]
  | cons b bases ih =>
    obtain ⟨t, v⟩ := b
    have ih := fun flags => ih (fun b h => hb b (List.mem_cons_of_mem _ h)) flags
    simp only [List.map_cons, encodeSubtree, Der.forEachItem, checkSubtree_tlv (hb _ (List.mem_cons_self _ _))]
    by_cases htv : T = t
    · subst htv
      simp only [ne_eq, not_true_eq_false, if_false, basesOfType_cons_self, List.mem_cons,
        forall_eq_or_imp, exists_eq_or_imp]
      cases hm : matchPresentedIDWithBase .permittedSubtrees T P v with
      | error e => simp [recordSubtreeMatch]
      | ok m => cases m <;> simp only [recordSubtreeMatch] <;> rw [ih] <;> simp
    · simp only [ne_eq, htv, not_false_eq_true, if_true, basesOfType_cons_of_ne (Ne.symm htv)]
      exact ih flags

/-- **The excluded loop**, over the subtrees of a list of bases: it goes through exactly when
    every base of the presented ID's type is a well-formed non-match. -/
theorem forEachItem_excluded {bases : List GeneralName}
    (hb : ∀ b ∈ bases, Der.Encodable b.1.tag b.2) (flags : Bool × Bool)
    {r : ForInStep (Bool × Bool)} :
    Der.forEachItem (checkSubtree T P .excludedSubtrees) flags (bases.map encodeSubtree) =
        .ok r ↔
      (∀ v ∈ basesOfType T bases, matchPresentedIDWithBase .excludedSubtrees T P v = .ok false) ∧
        r = .yield flags := by
  induction bases with
  | nil => simp [Der.forEachItem, eq_comm]
  | cons b bases ih =>
    obtain ⟨t, v⟩ := b
    have ih := ih (fun b h => hb b (List.mem_cons_of_mem _ h))
    simp only [List.map_cons, encodeSubtree, Der.forEachItem, checkSubtree_tlv (hb _ (List.mem_cons_self _ _))]
    by_cases htv : T = t
    · subst htv
      simp only [ne_eq, not_true_eq_false, if_false, basesOfType_cons_self, List.mem_cons,
        forall_eq_or_imp]
      cases hm : matchPresentedIDWithBase .excludedSubtrees T P v with
      | error e => simp [recordSubtreeMatch]
      | ok m =>
        cases m <;> simp only [recordSubtreeMatch]
        · rw [ih]
          simp
        · simp
    · simp only [ne_eq, htv, not_false_eq_true, if_true, basesOfType_cons_of_ne (Ne.symm htv)]
      exact ih

end Loop

/-! ## 8. One list field, and the whole check -/

section Check

variable {T : GeneralNameType} {P : Input} {st : NameConstraintsSubtrees}

/-- What a list field's walk can do: pass over a field of another tag, or read the field, walk
    its list, and keep the permitted flags consistent. -/
theorem checkSubtrees_eq_ok {input rest : Input} :
    checkPresentedIDConformsToNameConstraintsSubtrees T P input st = .ok rest ↔
      (input.head? ≠ some st.tag ∧ rest = input) ∨
      ∃ subtrees, Der.expectTagAndGetValue input st.tag = .ok (subtrees, rest) ∧
        ∃ r, Der.forEachTLV (checkSubtree T P st) (false, false) subtrees = .ok r ∧
          (r.value.2 && !r.value.1) = false := by
  unfold checkPresentedIDConformsToNameConstraintsSubtrees
  by_cases hh : input.head? = some st.tag
  · rw [if_neg (not_not.mpr hh)]
    simp only [hh, ne_eq, not_true_eq_false, false_and, false_or]
    constructor
    · intro h
      split at h
      · cases h
      · rename_i subtrees rest' he
        split at h
        · cases h
        · rename_i r hr
          split_ifs at h with hflag
          cases h
          exact ⟨subtrees, he, r, hr, by simpa using hflag⟩
    · rintro ⟨subtrees, he, r, hr, hflag⟩
      simp only [he, hr, hflag, Bool.false_eq_true, if_false]
  · have hne : ∀ subtrees rest', Der.expectTagAndGetValue input st.tag ≠ .ok (subtrees, rest') :=
      fun _ _ he => hh (by obtain ⟨-, rfl⟩ := Der.expectTagAndGetValue_eq_ok.mp he; simp [Der.tlv])
    rw [if_pos hh]
    simp only [Except.ok.injEq, ne_eq, hh, not_false_eq_true, true_and]
    constructor
    · rintro rfl
      exact .inl rfl
    · rintro (rfl | ⟨_, he, -⟩)
      · rfl
      · exact absurd he (hne _ _)

theorem checkSubtrees_of_head {input : Input} (hh : input.head? ≠ some st.tag) :
    checkPresentedIDConformsToNameConstraintsSubtrees T P input st = .ok input :=
  if_pos hh

/-- A list field walked without an error is one in DER. -/
theorem checkSubtrees_decode {input rest : Input}
    (h : checkPresentedIDConformsToNameConstraintsSubtrees T P input st = .ok rest) :
    ∃ s : Option (List GeneralName), (∀ bases ∈ s, SubtreesEncodable st bases) ∧
      input = encodeSubtrees st s ++ rest := by
  rcases checkSubtrees_eq_ok.mp h with ⟨-, rfl⟩ | ⟨subtrees, he, r, hr, -⟩
  · exact ⟨none, by simp, rfl⟩
  obtain ⟨henc, rfl⟩ := Der.expectTagAndGetValue_eq_ok.mp he
  obtain ⟨items, rest', hne, hitems, rfl, hfold, hdone⟩ := Der.forEachTLV_eq_ok _ hr
  obtain ⟨⟨bases, hb, rfl⟩, flags', rfl⟩ := forEachItem_checkSubtree_eq_ok hfold
  obtain rfl := hdone flags' rfl
  refine ⟨some bases, ?_, by simp [encodeSubtrees]⟩
  rintro _ ⟨⟩
  refine ⟨by rintro rfl; simp at hne, fun b hbm => ⟨hb b hbm, ?_⟩, by simpa using henc⟩
  simpa [encodeSubtree] using hitems _ (List.mem_map_of_mem encodeSubtree hbm)

/-- A list field in DER is walked as its list of bases. -/
theorem checkSubtrees_encode {s : Option (List GeneralName)}
    (hs : ∀ bases ∈ s, SubtreesEncodable st bases) (rest rest' : Input)
    (hhead : s = none → rest.head? ≠ some st.tag) :
    checkPresentedIDConformsToNameConstraintsSubtrees T P (encodeSubtrees st s ++ rest) st =
        .ok rest' ↔
      rest' = rest ∧ ∃ r, Der.forEachItem (checkSubtree T P st) (false, false)
        ((s.getD []).map encodeSubtree) = .ok r ∧ (r.value.2 && !r.value.1) = false := by
  cases s with
  | none =>
    simp only [encodeSubtrees, List.nil_append, checkSubtrees_of_head (hhead rfl),
      Except.ok.injEq, Option.getD_none, List.map_nil, Der.forEachItem]
    constructor
    · rintro rfl
      exact ⟨rfl, _, rfl, rfl⟩
    · rintro ⟨rfl, -⟩
      rfl
  | some bases =>
    obtain ⟨hne, hb, henc⟩ := hs bases rfl
    have he : Der.expectTagAndGetValue (encodeSubtrees st (some bases) ++ rest) st.tag =
        .ok (Der.encodeAll (bases.map encodeSubtree), rest) :=
      Der.expectTagAndGetValue_eq_ok.mpr ⟨henc, rfl⟩
    have hhd : (encodeSubtrees st (some bases) ++ rest).head? = some st.tag := by
      simp [encodeSubtrees, Der.tlv]
    have hloop := Der.forEachTLV_encodeAll (checkSubtree T P st) (false, false)
      (bases.map encodeSubtree) (by simpa using hne)
      (fun x hx => by obtain ⟨b, hbm, rfl⟩ := List.mem_map.mp hx; exact (hb b hbm).2)
    rw [checkSubtrees_eq_ok, he, hhd]
    simp only [Option.getD_some, Except.ok.injEq, Prod.mk.injEq, ne_eq, not_true_eq_false,
      false_and, false_or]
    constructor
    · rintro ⟨_, ⟨rfl, rfl⟩, r, hr, hflag⟩
      exact ⟨rfl, r, hloop ▸ hr, hflag⟩
    · rintro ⟨rfl, r, hr, hflag⟩
      exact ⟨_, ⟨rfl, rfl⟩, r, hloop ▸ hr, hflag⟩

theorem checkSubtrees_permitted_encode
    (hT : T = .dNSName ∨ T = .iPAddress ∨ T = .directoryName) {s : Option (List GeneralName)}
    (hs : ∀ bases ∈ s, SubtreesEncodable .permittedSubtrees bases) (rest rest' : Input)
    (hhead : s = none → rest.head? ≠ some NameConstraintsSubtrees.permittedSubtrees.tag) :
    checkPresentedIDConformsToNameConstraintsSubtrees T P
        (encodeSubtrees .permittedSubtrees s ++ rest) .permittedSubtrees = .ok rest' ↔
      rest' = rest ∧ PermittedConform T P (basesOfType T (s.getD [])) := by
  have hb : ∀ b ∈ s.getD [], Der.Encodable b.1.tag b.2 := by
    cases s with
    | none => simp
    | some bases => exact fun b hbm => ((hs bases rfl).2.1 b hbm).1
  rw [checkSubtrees_encode hs rest rest' hhead, ← permittedConform_iff_flags hT]
  simp only [forEachItem_permitted hb]
  refine and_congr_right fun _ => ⟨?_, fun ⟨hw, hflag⟩ => ?_⟩
  · rintro ⟨r, ⟨hw, a, b, rfl, ha, hb⟩, hflag⟩
    refine ⟨hw, fun hm => (ha.mp ?_).resolve_left (by simp)⟩
    have : b = true := hb.mpr (.inr hm)
    simpa [this] using hflag
  · by_cases hm : ∃ v ∈ basesOfType T (s.getD []),
        matchPresentedIDWithBase .permittedSubtrees T P v = .ok true
    · by_cases hf : ∃ v ∈ basesOfType T (s.getD []),
          matchPresentedIDWithBase .permittedSubtrees T P v = .ok false
      · exact ⟨.yield (true, true), ⟨hw, true, true, rfl, by simp [hm], by simp [hf]⟩, rfl⟩
      · exact ⟨.yield (true, false), ⟨hw, true, false, rfl, by simp [hm], by simpa using hf⟩, rfl⟩
    · exact ⟨.yield (false, false),
        ⟨hw, false, false, rfl, by simpa using hm, by simpa using mt hflag hm⟩, rfl⟩

theorem checkSubtrees_excluded_encode
    (hT : T = .dNSName ∨ T = .iPAddress ∨ T = .directoryName) {s : Option (List GeneralName)}
    (hs : ∀ bases ∈ s, SubtreesEncodable .excludedSubtrees bases) (rest rest' : Input)
    (hhead : s = none → rest.head? ≠ some NameConstraintsSubtrees.excludedSubtrees.tag) :
    checkPresentedIDConformsToNameConstraintsSubtrees T P
        (encodeSubtrees .excludedSubtrees s ++ rest) .excludedSubtrees = .ok rest' ↔
      rest' = rest ∧ ExcludedConform T P (basesOfType T (s.getD [])) := by
  have hb : ∀ b ∈ s.getD [], Der.Encodable b.1.tag b.2 := by
    cases s with
    | none => simp
    | some bases => exact fun b hbm => ((hs bases rfl).2.1 b hbm).1
  rw [checkSubtrees_encode hs rest rest' hhead]
  simp only [forEachItem_excluded hb, ExcludedConform, matchPresentedIDWithBase_excluded hT]
  exact and_congr_right fun _ => ⟨fun ⟨_, ⟨h, _⟩, _⟩ => h, fun h => ⟨_, ⟨h, rfl⟩, rfl⟩⟩

/-- What the check can do: read one SEQUENCE, not empty, and walk the two list fields, which
    must use it up. -/
theorem checkPresentedIDConformsToConstraints_eq_ok {NC : Input} :
    checkPresentedIDConformsToConstraints T P NC = .ok () ↔
      ∃ X, Der.expectTagAndGetValueAtEnd NC Der.sequence = .ok X ∧ X ≠ [] ∧
        ∃ Y, checkPresentedIDConformsToNameConstraintsSubtrees T P X .permittedSubtrees = .ok Y ∧
          checkPresentedIDConformsToNameConstraintsSubtrees T P Y .excludedSubtrees = .ok [] := by
  unfold checkPresentedIDConformsToConstraints
  constructor
  · intro h
    split at h
    · cases h
    · rename_i X hX
      split_ifs at h with hne
      split at h
      · cases h
      · rename_i Y hY
        split at h
        · cases h
        · rename_i Z hZ
          exact ⟨X, hX, hne, Y, hY, by rwa [Der.derEnd_eq_ok.mp h] at hZ⟩
  · rintro ⟨X, hX, hne, Y, hY, hZ⟩
    simp [hX, hne, hY, hZ, Der.derEnd]

/-- A check that succeeds read the encoding of an extension value. -/
theorem checkPresentedIDConformsToConstraints_decode {NC : Input}
    (h : checkPresentedIDConformsToConstraints T P NC = .ok ()) :
    ∃ nc : NameConstraints, NC = nc.encode := by
  obtain ⟨X, hX, hne, Y, hY, hZ⟩ := checkPresentedIDConformsToConstraints_eq_ok.mp h
  obtain ⟨henc, rfl⟩ := Der.expectTagAndGetValueAtEnd_eq_ok.mp hX
  obtain ⟨p, hp, rfl⟩ := checkSubtrees_decode hY
  obtain ⟨e, he, hY⟩ := checkSubtrees_decode hZ
  rw [List.append_nil] at hY
  subst hY
  refine ⟨⟨p, e, ?_, hp, he, henc⟩, rfl⟩
  cases p <;> cases e <;> simp_all [encodeSubtrees]

/-- The check on the encoding of an extension value: it goes through exactly when the
    presented ID conforms to it. -/
theorem checkPresentedIDConformsToConstraints_encode
    (hT : T = .dNSName ∨ T = .iPAddress ∨ T = .directoryName) (nc : NameConstraints) :
    checkPresentedIDConformsToConstraints T P nc.encode = .ok () ↔ nc.Conforms T P := by
  have hX : Der.expectTagAndGetValueAtEnd nc.encode Der.sequence =
      .ok (encodeSubtrees .permittedSubtrees nc.permittedSubtrees ++
        encodeSubtrees .excludedSubtrees nc.excludedSubtrees) :=
    Der.expectTagAndGetValueAtEnd_eq_ok.mpr ⟨nc.encodable, rfl⟩
  have hne : encodeSubtrees .permittedSubtrees nc.permittedSubtrees ++
      encodeSubtrees .excludedSubtrees nc.excludedSubtrees ≠ [] := by
    obtain ⟨_ | _, _ | _, hpresent, -, -, -⟩ := nc
    · exact (hpresent.elim (· rfl) (· rfl)).elim
    all_goals simp [encodeSubtrees]
  have hhead : nc.permittedSubtrees = none → (encodeSubtrees .excludedSubtrees
      nc.excludedSubtrees).head? ≠ some NameConstraintsSubtrees.permittedSubtrees.tag := by
    intro _
    cases nc.excludedSubtrees <;> simp [encodeSubtrees, Der.tlv, NameConstraintsSubtrees.tag]
  have hexcl : ∀ rest', checkPresentedIDConformsToNameConstraintsSubtrees T P
      (encodeSubtrees .excludedSubtrees nc.excludedSubtrees) .excludedSubtrees = .ok rest' ↔
        rest' = [] ∧ ExcludedConform T P (basesOfType T (nc.excludedSubtrees.getD [])) :=
    fun rest' => by
      simpa using checkSubtrees_excluded_encode hT nc.excluded_encodable [] rest' (fun _ => by simp)
  have hperm := fun rest' =>
    @checkSubtrees_permitted_encode T P hT _ nc.permitted_encodable _ rest' hhead
  rw [checkPresentedIDConformsToConstraints_eq_ok]
  constructor
  · rintro ⟨X, hX', -, Y, hY, hZ⟩
    obtain rfl := (Except.ok.inj (hX.symm.trans hX'))
    obtain ⟨rfl, hp⟩ := (hperm Y).mp hY
    exact ⟨hp, ((hexcl []).mp hZ).2⟩
  · rintro ⟨hp, he⟩
    exact ⟨_, hX, hne, _, (hperm _).mpr ⟨rfl, hp⟩, (hexcl []).mpr ⟨rfl, he⟩⟩

end Check

/-! ## 9. The verdict -/

/-- **The name-constraint check.** For a presented ID of type dNSName, iPAddress or
    directoryName, the check succeeds exactly on the encoding of an extension value the presented
    ID conforms to. So two extension values with the same bases of that type in each list, in any
    order and beside any bases of other types, get the same verdict. -/
theorem checkPresentedIDConformsToConstraints_eq_ok_iff {T : GeneralNameType} {P NC : Input}
    (hT : T = .dNSName ∨ T = .iPAddress ∨ T = .directoryName) :
    (checkPresentedIDConformsToConstraints T P NC = .ok () ↔
      ∃ nc : NameConstraints, NC = nc.encode ∧ nc.Conforms T P) ∧
    ∀ nc nc' : NameConstraints,
      (basesOfType T (nc.permittedSubtrees.getD [])).Perm
        (basesOfType T (nc'.permittedSubtrees.getD [])) →
      (basesOfType T (nc.excludedSubtrees.getD [])).Perm
        (basesOfType T (nc'.excludedSubtrees.getD [])) →
      (checkPresentedIDConformsToConstraints T P nc.encode = .ok () ↔
        checkPresentedIDConformsToConstraints T P nc'.encode = .ok ()) := by
  refine ⟨⟨fun h => ?_, ?_⟩, fun nc nc' hp he => ?_⟩
  · obtain ⟨nc, rfl⟩ := checkPresentedIDConformsToConstraints_decode h
    exact ⟨nc, rfl, (checkPresentedIDConformsToConstraints_encode hT nc).mp h⟩
  · rintro ⟨nc, rfl, hc⟩
    exact (checkPresentedIDConformsToConstraints_encode hT nc).mpr hc
  · rw [checkPresentedIDConformsToConstraints_encode hT, checkPresentedIDConformsToConstraints_encode hT,
      NameConstraints.Conforms, NameConstraints.Conforms, permittedConform_perm hp,
      excludedConform_perm he]

/-- Name constraints that permit the dNSName `a`. -/
def permitDNSNameA : NameConstraints :=
  ⟨some [(.dNSName, [97])], none, .inl (by simp),
    by rintro _ ⟨⟩; exact ⟨by simp, by decide, by decide⟩, by simp, by decide⟩

/-- The presented dNSName `a` passes `permitDNSNameA`: its one permitted base `a` is a valid
    constraint that covers it. -/
theorem checkPresentedIDConformsToConstraints_eq_ok_iff_dNSName :
    (GeneralNameType.dNSName = .dNSName ∨ GeneralNameType.dNSName = .iPAddress ∨
        GeneralNameType.dNSName = .directoryName) ∧
      checkPresentedIDConformsToConstraints .dNSName [97] permitDNSNameA.encode = .ok () :=
  ⟨Or.inl rfl, (checkPresentedIDConformsToConstraints_eq_ok_iff (Or.inl rfl)).1.mpr
    ⟨permitDNSNameA, rfl,
      ⟨by simp [permitDNSNameA, basesOfType, BaseWellFormed]; decide,
        .inr ⟨[97], by simp [permitDNSNameA, basesOfType],
          show presentedDNSIDMatchesReferenceDNSID [97] .nameConstraint [97] = true by decide⟩⟩,
      by simp [permitDNSNameA, basesOfType, ExcludedConform]⟩⟩

/-- Modelled from the spec's words: the outer layout of a DER Name, a SEQUENCE of SETs (what the
    SETs hold is not looked at, so this is weaker than being a Name). -/
def IsRDNSequence (name : Input) : Prop :=
  ∃ rdns : List Input, (∀ rdn ∈ rdns, Der.Encodable Der.set rdn) ∧
    Der.Encodable Der.sequence (Der.encodeAll (rdns.map fun rdn => (Der.set, rdn))) ∧
    name = Der.tlv Der.sequence (Der.encodeAll (rdns.map fun rdn => (Der.set, rdn)))

/-- The permitted directoryName base `SEQUENCE {}` lets through a presented "name" that is a
    SEQUENCE holding an OCTET STRING: only the outer SEQUENCE of either is checked, and RDNs are
    read only as far as the comparison needs. -/
theorem checkPresentedIDConformsToConstraints_directoryName_unparsed :
    checkPresentedIDConformsToConstraints .directoryName [0x30, 0x02, 0x04, 0x00]
        [0x30, 0x08, 0xa0, 0x06, 0x30, 0x04, 0xa4, 0x02, 0x30, 0x00] = .ok () ∧
      ¬IsRDNSequence [0x30, 0x02, 0x04, 0x00] := by
  constructor
  · have h1 : Der.expectTagAndGetValueAtEnd [0x30, 0x00] Der.sequence = .ok [] := rfl
    have h2 : Der.expectTagAndGetValueAtEnd [0x30, 0x02, 0x04, 0x00] Der.sequence =
        .ok [0x04, 0x00] := rfl
    have hdir : matchPresentedDirectoryNameWithConstraint .permittedSubtrees
        [0x30, 0x02, 0x04, 0x00] [0x30, 0x00] = .ok true := by
      simp only [matchPresentedDirectoryNameWithConstraint, h1, h2, matchPresentedRDNs_nil]
    let nc : NameConstraints := ⟨some [(.directoryName, [0x30, 0x00])], none, .inl (by simp),
      by rintro _ ⟨⟩; exact ⟨by simp, by decide, by decide⟩, by simp, by decide⟩
    refine (checkPresentedIDConformsToConstraints_encode (Or.inr (Or.inr rfl)) nc).mpr
      ⟨⟨?_, .inr ⟨[0x30, 0x00], by simp [nc, basesOfType], hdir⟩⟩, ?_⟩
    · simp [nc, basesOfType, BaseWellFormed, hdir]
    · simp [nc, basesOfType, ExcludedConform]
  · rintro ⟨rdns, -, he, h⟩
    have hr := Der.readTagAndGetValue_tlv he []
    rw [List.append_nil, ← h] at hr
    have h2 : Der.readTagAndGetValue [0x30, 0x02, 0x04, 0x00] = .ok (0x30, [0x04, 0x00], []) := rfl
    rw [h2] at hr
    simp only [Except.ok.injEq, Prod.mk.injEq] at hr
    cases rdns with
    | nil => simp at hr
    | cons r rs =>
      simp only [List.map_cons, Der.encodeAll_cons, Der.tlv, List.cons_append, List.cons.injEq] at hr
      exact absurd hr.2.1.1 (by decide)

/-! ## 10. Base types without a matcher

The switch of the subtree loop hands a base of the presented ID's type to a matcher only for
dNSName, iPAddress and directoryName. For an rfc822Name (a TODO of the source) it returns
`FATAL_ERROR_LIBRARY_FAILURE`, for otherName, x400Address, ediPartyName,
uniformResourceIdentifier and registeredID `ERROR_CERT_NOT_IN_NAME_SPACE`, whichever list the
base is in. -/

section Unsupported

variable {T : GeneralNameType} {P : Input} {st : NameConstraintsSubtrees}

theorem basesOfType_append (T : GeneralNameType) (bases bases' : List GeneralName) :
    basesOfType T (bases ++ bases') = basesOfType T bases ++ basesOfType T bases' := by
  simp only [basesOfType, List.filterMap_append]

theorem matchPresentedIDWithBase_unsupported
    (hT : T ≠ .dNSName ∧ T ≠ .iPAddress ∧ T ≠ .directoryName) (v : Input) :
    matchPresentedIDWithBase st T P v =
      .error (if T = .rfc822Name ∨ T = .nameConstraints then .fatalErrorLibraryFailure
        else .errorCertNotInNameSpace) := by
  obtain ⟨h1, h2, h3⟩ := hT
  cases T <;> first | exact absurd rfl h1 | exact absurd rfl h2 | exact absurd rfl h3 | rfl

/-- The subtree loop when every base of the presented ID's type makes the matcher fail with
    `e`: it fails with `e` exactly when there is such a base. -/
theorem forEachItem_checkSubtree_of_error {e : Result}
    (hm : ∀ v, matchPresentedIDWithBase st T P v = .error e) {bases : List GeneralName}
    (hb : ∀ b ∈ bases, Der.Encodable b.1.tag b.2) (flags : Bool × Bool) :
    Der.forEachItem (checkSubtree T P st) flags (bases.map encodeSubtree) =
      if basesOfType T bases = [] then .ok (.yield flags) else .error e := by
  induction bases with
  | nil => rfl
  | cons b bases ih =>
    obtain ⟨t, v⟩ := b
    simp only [List.map_cons, encodeSubtree, Der.forEachItem,
      checkSubtree_tlv (hb _ (List.mem_cons_self _ _))]
    by_cases htv : T = t
    · subst htv
      simp only [ne_eq, not_true_eq_false, if_false, hm, recordSubtreeMatch, basesOfType_cons_self,
        List.cons_ne_nil]
    · simp only [ne_eq, htv, not_false_eq_true, if_true, basesOfType_cons_of_ne (Ne.symm htv)]
      exact ih fun b h => hb b (List.mem_cons_of_mem _ h)

/-- One list field in DER, under the same matcher: it is passed over when it has no base of the
    presented ID's type, and ends the check with `e` otherwise. -/
theorem checkSubtrees_of_error {e : Result} (hm : ∀ v, matchPresentedIDWithBase st T P v = .error e)
    {s : Option (List GeneralName)} (hs : ∀ bases ∈ s, SubtreesEncodable st bases) (rest : Input)
    (hhead : s = none → rest.head? ≠ some st.tag) :
    checkPresentedIDConformsToNameConstraintsSubtrees T P (encodeSubtrees st s ++ rest) st =
      if basesOfType T (s.getD []) = [] then .ok rest else .error e := by
  cases s with
  | none => exact checkSubtrees_of_head (hhead rfl)
  | some bases =>
    obtain ⟨hne, hb, henc⟩ := hs bases rfl
    have hloop := Der.forEachTLV_encodeAll (checkSubtree T P st) (false, false)
      (bases.map encodeSubtree) (by simpa using hne)
      (fun x hx => by obtain ⟨b, hbm, rfl⟩ := List.mem_map.mp hx; exact (hb b hbm).2)
    have hhd : (encodeSubtrees st (some bases) ++ rest).head? = some st.tag := by
      simp [encodeSubtrees, Der.tlv]
    have he : Der.expectTagAndGetValue (encodeSubtrees st (some bases) ++ rest) st.tag =
        .ok (Der.encodeAll (bases.map encodeSubtree), rest) :=
      Der.expectTagAndGetValue_eq_ok.mpr ⟨henc, rfl⟩
    simp only [checkPresentedIDConformsToNameConstraintsSubtrees, hhd, ne_eq, not_true_eq_false,
      if_false, he, hloop,
      forEachItem_checkSubtree_of_error hm fun b hbm => (hb b hbm).1, Option.getD_some]
    split_ifs <;> rfl

/-- **A base of a type without a matcher refuses every presented ID of its type**: against an
    extension value in DER, a presented ID of such a type goes through when no base, permitted or
    excluded, has its type, and otherwise the check fails with the error of the loop's switch. -/
theorem checkPresentedIDConformsToConstraints_unsupported
    (hT : T ≠ .dNSName ∧ T ≠ .iPAddress ∧ T ≠ .directoryName) (nc : NameConstraints) :
    checkPresentedIDConformsToConstraints T P nc.encode =
      if basesOfType T (nc.permittedSubtrees.getD [] ++ nc.excludedSubtrees.getD []) = [] then
        .ok ()
      else .error (if T = .rfc822Name ∨ T = .nameConstraints then .fatalErrorLibraryFailure
        else .errorCertNotInNameSpace) := by
  have hm := fun st => @matchPresentedIDWithBase_unsupported T P st hT
  have hX : Der.expectTagAndGetValueAtEnd nc.encode Der.sequence =
      .ok (encodeSubtrees .permittedSubtrees nc.permittedSubtrees ++
        encodeSubtrees .excludedSubtrees nc.excludedSubtrees) :=
    Der.expectTagAndGetValueAtEnd_eq_ok.mpr ⟨nc.encodable, rfl⟩
  have hne : encodeSubtrees .permittedSubtrees nc.permittedSubtrees ++
      encodeSubtrees .excludedSubtrees nc.excludedSubtrees ≠ [] := by
    obtain ⟨_ | _, _ | _, hpresent, -, -, -⟩ := nc
    · exact (hpresent.elim (· rfl) (· rfl)).elim
    all_goals simp [encodeSubtrees]
  have hhead : nc.permittedSubtrees = none → (encodeSubtrees .excludedSubtrees
      nc.excludedSubtrees).head? ≠ some NameConstraintsSubtrees.permittedSubtrees.tag := by
    intro _
    cases nc.excludedSubtrees <;> simp [encodeSubtrees, Der.tlv, NameConstraintsSubtrees.tag]
  have hexcl := checkSubtrees_of_error (hm .excludedSubtrees) nc.excluded_encodable [] fun _ => by
    simp
  rw [List.append_nil] at hexcl
  unfold checkPresentedIDConformsToConstraints
  rw [hX]
  simp only [hne, if_false, checkSubtrees_of_error (hm _) nc.permitted_encodable _ hhead,
    basesOfType_append, List.append_eq_nil]
  by_cases hp : basesOfType T (nc.permittedSubtrees.getD []) = []
  · simp only [hp, if_true, true_and, hexcl]
    split_ifs <;> rfl
  · simp only [hp, if_false, false_and]

/-- The extension value permitting the uniformResourceIdentifier "a". -/
def permitURIA : NameConstraints :=
  ⟨some [(.uniformResourceIdentifier, [0x61])], none, .inl (by simp),
    by rintro _ ⟨⟩; exact ⟨by simp, by decide, by decide⟩, by simp, by decide⟩

theorem checkPresentedIDConformsToConstraints_unsupported_uri :
    (GeneralNameType.uniformResourceIdentifier ≠ .dNSName ∧
        GeneralNameType.uniformResourceIdentifier ≠ .iPAddress ∧
        GeneralNameType.uniformResourceIdentifier ≠ .directoryName) ∧
      checkPresentedIDConformsToConstraints .uniformResourceIdentifier [0x61] permitURIA.encode =
        .error .errorCertNotInNameSpace :=
  ⟨by decide, (checkPresentedIDConformsToConstraints_unsupported (by decide) permitURIA).trans rfl⟩

end Unsupported

end PkixNames
