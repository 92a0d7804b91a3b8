import Immortal.Arith.Lucas
import Immortal.Bitcoin.Serialize

/-!
# `Immortal.Bitcoin.Scalar` — arithmetic modulo the curve order, on bytes

`mkt_swp_verify` adds, negates and multiplies public scalars itself, as big-endian arrays of 32 bytes: addition with a
carry and one conditional subtraction, multiplication by doubling over the bits. The loops run from the last byte to
the first, so here they recurse over the reversed arrays.
-/

namespace Immortal.Bitcoin

/-! ## The loops -/

/-- The loop of `scalar_add_mod`, with the last carry as one more byte. -/
def addBytes : Nat → Bytes → Bytes → Bytes
  | carry, l :: left, r :: right =>
    let value := l.toNat + r.toNat + carry
    UInt8.ofNat value :: addBytes (value / 256) left right
  | carry, _, _ => [UInt8.ofNat carry]

/-- The loop of `subtract_be`. -/
def subtractBytes : Nat → Bytes → Bytes → Bytes
  | borrow, l :: left, r :: right =>
    let subtrahend := r.toNat + borrow
    if subtrahend ≤ l.toNat then UInt8.ofNat (l.toNat - subtrahend) :: subtractBytes 0 left right
    else UInt8.ofNat (l.toNat + 256 - subtrahend) :: subtractBytes 1 left right
  | _, left, _ => left

theorem toNat_ofNat_byte (value : Nat) : (UInt8.ofNat value).toNat = value % 256 := rfl

theorem length_addBytes {left right : Bytes} (carry : Nat) (h : left.length = right.length) :
    (addBytes carry left right).length = left.length + 1 := by
  induction left generalizing right carry with
  | nil =>
    cases right with
    | nil => rfl
    | cons r right => cases h
  | cons l left ih =>
    cases right with
    | nil => cases h
    | cons r right =>
      rw [addBytes, List.length_cons, List.length_cons, ih _ (Nat.succ.inj h)]

theorem littleEndian_addBytes {left right : Bytes} {carry : Nat} (h : left.length = right.length) (hcarry : carry ≤ 1) :
    littleEndian (addBytes carry left right) = littleEndian left + littleEndian right + carry := by
  induction left generalizing right carry with
  | nil =>
    cases right with
    | nil =>
      have hsmall : (UInt8.ofNat carry).toNat = carry := Nat.mod_eq_of_lt (by omega)
      simp [addBytes, littleEndian, hsmall]
    | cons r right => cases h
  | cons l left ih =>
    cases right with
    | nil => cases h
    | cons r right =>
      have hl := UInt8.toNat_lt l
      have hr := UInt8.toNat_lt r
      have htail : littleEndian (addBytes ((l.toNat + r.toNat + carry) / 256) left right) =
          littleEndian left + littleEndian right + (l.toNat + r.toNat + carry) / 256 :=
        ih (Nat.succ.inj h) (by omega)
      rw [addBytes, littleEndian, littleEndian, littleEndian, toNat_ofNat_byte]
      omega

theorem length_subtractBytes (borrow : Nat) (left right : Bytes) :
    (subtractBytes borrow left right).length = left.length := by
  induction left generalizing right borrow with
  | nil => cases right <;> rfl
  | cons l left ih =>
    cases right with
    | nil => rfl
    | cons r right =>
      rw [subtractBytes]
      split <;> rw [List.length_cons, List.length_cons, ih]

theorem littleEndian_subtractBytes {left right : Bytes} {borrow : Nat} (h : left.length = right.length)
    (hborrow : borrow ≤ 1) (hle : littleEndian right + borrow ≤ littleEndian left) :
    littleEndian (subtractBytes borrow left right) + (littleEndian right + borrow) = littleEndian left := by
  induction left generalizing right borrow with
  | nil =>
    cases right with
    | nil =>
      obtain rfl : borrow = 0 := by simpa using hle
      rfl
    | cons r right => cases h
  | cons l left ih =>
    cases right with
    | nil => cases h
    | cons r right =>
      have hl := UInt8.toNat_lt l
      have hr := UInt8.toNat_lt r
      simp only [littleEndian] at hle
      rw [subtractBytes]
      split
      · have htail : littleEndian (subtractBytes 0 left right) + (littleEndian right + 0) = littleEndian left :=
          ih (Nat.succ.inj h) (Nat.zero_le 1) (by omega)
        rw [littleEndian, littleEndian, littleEndian, toNat_ofNat_byte]
        omega
      · have htail : littleEndian (subtractBytes 1 left right) + (littleEndian right + 1) = littleEndian left :=
          ih (Nat.succ.inj h) le_rfl (by omega)
        rw [littleEndian, littleEndian, littleEndian, toNat_ofNat_byte]
        omega

/-! ## The operations -/

/-- `[0; 32]`, which is also `Scalar::ZERO`. -/
def scalarZero : Bytes32 := beBytes32 0

/-- `scalar_add_mod`: at most one subtraction of the order. -/
def scalarAddMod (left right : Bytes32) : Bytes32 :=
  let sum := addBytes 0 left.1.reverse right.1.reverse
  let order := leBytes curveOrder 33
  let reduced := if littleEndian order ≤ littleEndian sum then subtractBytes 0 sum order else sum
  ⟨(reduced.take 32).reverse, by
    have hsum : sum.length = 33 := by
      rw [length_addBytes 0 (by simp [left.2, right.2]), List.length_reverse, left.2]
    have hreduced : reduced.length = 33 := by
      show (if _ then _ else _ : Bytes).length = 33
      split
      · rw [length_subtractBytes, hsum]
      · exact hsum
    rw [List.length_reverse, List.length_take, hreduced]
    rfl⟩

def scalarNegateMod (value : Bytes32) : Bytes32 :=
  if value = scalarZero then value
  else
    ⟨(subtractBytes 0 (leBytes curveOrder 32) value.1.reverse).reverse, by
      rw [List.length_reverse, length_subtractBytes, leBytes_length]⟩

/-- The inner loop of `scalar_multiply_public`, over the low `bits` bits of a byte from the highest. -/
def multiplyBits (right : Bytes32) (byte : UInt8) : Nat → Bytes32 → Bytes32
  | 0, result => result
  | bit + 1, result =>
    let doubled := scalarAddMod result result
    multiplyBits right byte bit (if byte.toNat.testBit bit then scalarAddMod doubled right else doubled)

def scalarMultiplyPublic (left right : Bytes32) : Verified Bytes32 :=
  if curveOrder ≤ bigEndian left.1 ∨ curveOrder ≤ bigEndian right.1 then
    .error (.crypto "MuSig2 scalar multiplication input")
  else .ok (left.1.foldl (fun result byte => multiplyBits right byte 8 result) scalarZero)

/-- A reduced scalar. -/
def Reduced (scalar : Bytes32) : Prop := bigEndian scalar.1 < curveOrder

theorem curveOrder_lt : curveOrder < 256 ^ 32 := by decide

theorem bigEndian_beBytes32 {value : Nat} (h : value < curveOrder) : bigEndian (beBytes32 value).1 = value :=
  bigEndian_beBytes (h.trans curveOrder_lt)

theorem reduced_beBytes32 {value : Nat} (h : value < curveOrder) : Reduced (beBytes32 value) := by
  show bigEndian (beBytes32 value).1 < curveOrder
  rwa [bigEndian_beBytes32 h]

theorem reduced_zero : Reduced scalarZero := reduced_beBytes32 (by decide)

theorem bigEndian_scalarZero : bigEndian scalarZero.1 = 0 := bigEndian_beBytes32 (by decide)

theorem bigEndian_inj {left right : Bytes32} (h : bigEndian left.1 = bigEndian right.1) : left = right := by
  apply Subtype.ext
  rw [← beBytes_bigEndian left.2, h, beBytes_bigEndian right.2]

theorem bigEndian_eq_zero {scalar : Bytes32} : bigEndian scalar.1 = 0 ↔ scalar = scalarZero := by
  constructor
  · intro h
    exact bigEndian_inj (h.trans bigEndian_scalarZero.symm)
  · rintro rfl
    exact bigEndian_scalarZero

/-- The low bytes of a small number are all of it. -/
theorem littleEndian_take {bytes : Bytes} {count : Nat} (h : littleEndian bytes < 256 ^ count) :
    littleEndian (bytes.take count) = littleEndian bytes := by
  induction bytes generalizing count with
  | nil => simp
  | cons byte rest ih =>
    cases count with
    | zero =>
      have hzero : littleEndian (byte :: rest) = 0 := Nat.lt_one_iff.mp h
      rw [hzero]
      rfl
    | succ count =>
      rw [littleEndian] at h
      have htail : littleEndian (rest.take count) = littleEndian rest := ih (by omega)
      rw [List.take_succ_cons, littleEndian, littleEndian, htail]

theorem bigEndian_scalarAddMod {left right : Bytes32} (hleft : Reduced left) (hright : Reduced right) :
    bigEndian (scalarAddMod left right).1 = (bigEndian left.1 + bigEndian right.1) % curveOrder := by
  have hlengths : left.1.reverse.length = right.1.reverse.length := by simp [left.2, right.2]
  have hsum : littleEndian (addBytes 0 left.1.reverse right.1.reverse) = bigEndian left.1 + bigEndian right.1 :=
    littleEndian_addBytes hlengths (Nat.zero_le 1)
  have horder : littleEndian (leBytes curveOrder 33) = curveOrder := littleEndian_leBytes (by decide)
  have hbound := curveOrder_lt
  unfold Reduced at hleft hright
  show littleEndian ((if _ then _ else _ : Bytes).take 32).reverse.reverse = _
  rw [List.reverse_reverse]
  split
  · rename_i hover
    rw [horder, hsum] at hover
    have hwidths : (addBytes 0 left.1.reverse right.1.reverse).length = (leBytes curveOrder 33).length := by
      rw [length_addBytes 0 hlengths, leBytes_length, List.length_reverse, left.2]
    have hdifference := littleEndian_subtractBytes hwidths (Nat.zero_le 1) (by rw [horder]; omega)
    rw [littleEndian_take (by omega), Nat.mod_eq_sub_mod hover, Nat.mod_eq_of_lt (by omega)]
    omega
  · rw [littleEndian_take (by omega), hsum, Nat.mod_eq_of_lt (by omega)]

theorem reduced_scalarAddMod {left right : Bytes32} (hleft : Reduced left) (hright : Reduced right) :
    Reduced (scalarAddMod left right) := by
  show bigEndian (scalarAddMod left right).1 < curveOrder
  rw [bigEndian_scalarAddMod hleft hright]
  exact Nat.mod_lt _ (by decide)

theorem bigEndian_scalarNegateMod {value : Bytes32} (h : Reduced value) :
    bigEndian (scalarNegateMod value).1 = (curveOrder - bigEndian value.1) % curveOrder := by
  unfold Reduced at h
  unfold scalarNegateMod
  split
  · rename_i hzero
    rw [hzero, bigEndian_scalarZero, Nat.sub_zero, Nat.mod_self]
  · rename_i hzero
    have hpositive : bigEndian value.1 ≠ 0 := fun hvalue => hzero (bigEndian_eq_zero.mp hvalue)
    have horder : littleEndian (leBytes curveOrder 32) = curveOrder := littleEndian_leBytes curveOrder_lt
    have hwidths : (leBytes curveOrder 32).length = value.1.reverse.length := by
      rw [leBytes_length, List.length_reverse, value.2]
    have hdifference := littleEndian_subtractBytes hwidths (Nat.zero_le 1) (by rw [horder]; exact h.le)
    show littleEndian (List.reverse (List.reverse _)) = _
    rw [List.reverse_reverse, Nat.mod_eq_of_lt (by omega)]
    exact (Nat.sub_eq_of_eq_add hdifference.symm).symm

theorem reduced_scalarNegateMod {value : Bytes32} (h : Reduced value) : Reduced (scalarNegateMod value) := by
  show bigEndian (scalarNegateMod value).1 < curveOrder
  rw [bigEndian_scalarNegateMod h]
  exact Nat.mod_lt _ (by decide)

theorem mod_two_pow_succ (value bit : Nat) :
    value % 2 ^ (bit + 1) = value % 2 ^ bit + 2 ^ bit * (value.testBit bit).toNat := by
  have hbit : (value.testBit bit).toNat = value / 2 ^ bit % 2 := by
    rw [Nat.testBit_eq_decide_div_mod_eq]
    rcases Nat.mod_two_eq_zero_or_one (value / 2 ^ bit) with h | h <;> simp [h]
  rw [Nat.mod_pow_succ, hbit]

/-- One byte of the multiplier: the result is shifted and the byte's multiple added. -/
theorem multiplyBits_spec {right result : Bytes32} (byte : UInt8) (bits : Nat) (hright : Reduced right)
    (hresult : Reduced result) : Reduced (multiplyBits right byte bits result) ∧
      bigEndian (multiplyBits right byte bits result).1 ≡
        2 ^ bits * bigEndian result.1 + byte.toNat % 2 ^ bits * bigEndian right.1 [MOD curveOrder] := by
  induction bits generalizing result with
  | zero =>
    refine ⟨hresult, ?_⟩
    simp [Nat.mod_one]
    rfl
  | succ bit ih =>
    have hdoubled := reduced_scalarAddMod hresult hresult
    have hdouble : bigEndian (scalarAddMod result result).1 ≡ bigEndian result.1 + bigEndian result.1 [MOD
      curveOrder] := by
      rw [bigEndian_scalarAddMod hresult hresult]
      exact Nat.mod_modEq _ _
    rw [multiplyBits, mod_two_pow_succ]
    cases hbit : byte.toNat.testBit bit with
    | false =>
      obtain ⟨hreduced, hvalue⟩ := ih hdoubled
      refine ⟨hreduced, hvalue.trans ?_⟩
      have hshift := (hdouble.mul_left (2 ^ bit)).add_right (byte.toNat % 2 ^ bit * bigEndian right.1)
      refine hshift.trans (congrArg (· % curveOrder) ?_)
      simp only [Bool.toNat_false]
      ring
    | true =>
      have hadded := reduced_scalarAddMod hdoubled hright
      have hadd : bigEndian (scalarAddMod (scalarAddMod result result) right).1 ≡
          bigEndian result.1 + bigEndian result.1 + bigEndian right.1 [MOD curveOrder] := by
        rw [bigEndian_scalarAddMod hdoubled hright]
        exact (Nat.mod_modEq _ _).trans (hdouble.add_right _)
      obtain ⟨hreduced, hvalue⟩ := ih hadded
      refine ⟨hreduced, hvalue.trans ?_⟩
      have hshift := (hadd.mul_left (2 ^ bit)).add_right (byte.toNat % 2 ^ bit * bigEndian right.1)
      refine hshift.trans (congrArg (· % curveOrder) ?_)
      simp only [Bool.toNat_true]
      ring

/-- A byte in front of a number counts at the width of the number. -/
theorem bigEndian_cons (byte : UInt8) (bytes : Bytes) :
    bigEndian (byte :: bytes) = byte.toNat * 256 ^ bytes.length + bigEndian bytes := by
  have happend : ∀ low : Bytes, littleEndian (low ++ [byte]) = littleEndian low + 256 ^ low.length * byte.toNat := by
    intro low
    induction low with
    | nil => simp [littleEndian]
    | cons first low ih =>
      rw [List.cons_append, littleEndian, ih, littleEndian, List.length_cons]
      ring
  rw [bigEndian, List.reverse_cons, happend, List.length_reverse, bigEndian]
  ring

/-- The outer loop of `scalar_multiply_public`. -/
theorem multiplyBytes_spec {right result : Bytes32} (bytes : Bytes) (hright : Reduced right) (hresult : Reduced
    result) :
    Reduced (bytes.foldl (fun result byte => multiplyBits right byte 8 result) result) ∧
      bigEndian (bytes.foldl (fun result byte => multiplyBits right byte 8 result) result).1 ≡
        256 ^ bytes.length * bigEndian result.1 + bigEndian bytes * bigEndian right.1 [MOD curveOrder] := by
  induction bytes generalizing result with
  | nil =>
    refine ⟨hresult, congrArg (· % curveOrder) ?_⟩
    simp [bigEndian, littleEndian]
  | cons byte bytes ih =>
    obtain ⟨hreduced, hvalue⟩ := multiplyBits_spec byte 8 hright hresult
    obtain ⟨htailReduced, htail⟩ := ih hreduced
    refine ⟨htailReduced, htail.trans ?_⟩
    have hbyte : byte.toNat % 2 ^ 8 = byte.toNat := Nat.mod_eq_of_lt (UInt8.toNat_lt byte)
    rw [hbyte] at hvalue
    have hshift := (hvalue.mul_left (256 ^ bytes.length)).add_right (bigEndian bytes * bigEndian right.1)
    refine hshift.trans (congrArg (· % curveOrder) ?_)
    rw [bigEndian_cons, List.length_cons]
    ring

/-- **Multiplication of residues.** -/
theorem scalarMultiplyPublic_ok {left right : Bytes32} (hleft : Reduced left) (hright : Reduced right) :
    ∃ product, scalarMultiplyPublic left right = .ok product ∧ Reduced product ∧
      bigEndian product.1 = bigEndian left.1 * bigEndian right.1 % curveOrder := by
  obtain ⟨hreduced, hvalue⟩ := multiplyBytes_spec left.1 hright reduced_zero
  unfold scalarMultiplyPublic
  rw [if_neg (by unfold Reduced at hleft hright; omega)]
  refine ⟨_, rfl, hreduced, ?_⟩
  rw [bigEndian_scalarZero, Nat.mul_zero, Nat.zero_add] at hvalue
  rw [← hvalue, Nat.mod_eq_of_lt hreduced]

/-- **Arithmetic of scalars.** On scalars below the curve order, the byte loops of the sum, the negation and the
    product compute in the integers modulo the order, and their results are again below it. -/
theorem scalar_arithmetic {left right : Bytes32} (hleft : Reduced left) (hright : Reduced right) :
    (Reduced (scalarAddMod left right) ∧
      bigEndian (scalarAddMod left right).1 = (bigEndian left.1 + bigEndian right.1) % curveOrder) ∧
    (Reduced (scalarNegateMod left) ∧
      bigEndian (scalarNegateMod left).1 = (curveOrder - bigEndian left.1) % curveOrder) ∧
    ∃ product, scalarMultiplyPublic left right = .ok product ∧ Reduced product ∧
      bigEndian product.1 = bigEndian left.1 * bigEndian right.1 % curveOrder := by
  refine ⟨⟨reduced_scalarAddMod hleft hright, bigEndian_scalarAddMod hleft hright⟩,
    ⟨reduced_scalarNegateMod hleft, bigEndian_scalarNegateMod hleft⟩, ?_⟩
  exact scalarMultiplyPublic_ok hleft hright

/-- The greatest scalar and two. -/
theorem scalar_arithmetic_greatest :
    bigEndian (scalarAddMod (beBytes32 (curveOrder - 1)) (beBytes32 2)).1 = 1 ∧
    bigEndian (scalarNegateMod (beBytes32 (curveOrder - 1))).1 = 1 ∧
    ∃ product, scalarMultiplyPublic (beBytes32 (curveOrder - 1)) (beBytes32 2) = .ok product ∧
      bigEndian product.1 = curveOrder - 2 := by
  have hleft : curveOrder - 1 < curveOrder := by decide
  have hright : 2 < curveOrder := by decide
  obtain ⟨⟨-, hsum⟩, ⟨-, hnegation⟩, product, hproduct, -, hvalue⟩ :=
    scalar_arithmetic (reduced_beBytes32 hleft) (reduced_beBytes32 hright)
  rw [bigEndian_beBytes32 hleft] at hsum hnegation hvalue
  rw [bigEndian_beBytes32 hright] at hsum hvalue
  exact ⟨hsum, hnegation, product, hproduct, hvalue⟩

/-! ## The order -/

/-- A tower of primes under the curve order. -/
def curveOrderCertificate : List Arith.Line :=
  [⟨2, 1, []⟩, ⟨3, 2, [2]⟩, ⟨37, 2, [2, 2, 3, 3]⟩, ⟨149, 2, [2, 2, 37]⟩, ⟨5, 2, [2, 2]⟩, ⟨7, 3, [2, 3]⟩,
   ⟨631, 3, [2, 3, 3, 5, 7]⟩, ⟨11, 2, [2, 5]⟩, ⟨23, 5, [2, 11]⟩, ⟨16699, 3, [2, 3, 11, 11, 23]⟩,
   ⟨13, 2, [2, 2, 3]⟩, ⟨2861, 2, [2, 2, 5, 11, 13]⟩, ⟨85831, 3, [2, 3, 5, 2861]⟩,
   ⟨97, 5, [2, 2, 2, 2, 2, 3]⟩, ⟨67, 2, [2, 3, 11]⟩, ⟨2011, 3, [2, 3, 5, 67]⟩,
   ⟨4681609, 23, [2, 2, 2, 3, 97, 2011]⟩,
   ⟨107361793816595537, 3, [2, 2, 2, 2, 16699, 85831, 4681609]⟩,
   ⟨17, 3, [2, 2, 2, 2]⟩, ⟨29, 2, [2, 2, 7]⟩, ⟨59, 2, [2, 29]⟩, ⟨4051, 10, [2, 3, 3, 3, 3, 5, 5]⟩,
   ⟨19, 2, [2, 3, 3]⟩, ⟨113, 3, [2, 2, 2, 2, 7]⟩, ⟨120233, 3, [2, 2, 2, 7, 19, 113]⟩,
   ⟨199, 3, [2, 3, 3, 11]⟩, ⟨797, 2, [2, 2, 199]⟩, ⟨41, 6, [2, 2, 2, 5]⟩, ⟨9349, 2, [2, 2, 3, 19, 41]⟩,
   ⟨44706919, 6, [2, 3, 797, 9349]⟩,
   ⟨174723607534414371449, 3, [2, 2, 2, 17, 59, 4051, 120233, 44706919]⟩,
   ⟨109, 6, [2, 2, 3, 3, 3]⟩, ⟨73, 5, [2, 2, 2, 3, 3]⟩, ⟨293, 2, [2, 2, 73]⟩,
   ⟨2731, 3, [2, 3, 5, 7, 13]⟩, ⟨305873, 3, [2, 2, 2, 2, 7, 2731]⟩,
   ⟨1409, 3, [2, 2, 2, 2, 2, 2, 2, 11]⟩, ⟨28181, 2, [2, 2, 5, 1409]⟩,
   ⟨545358713, 5, [2, 2, 2, 41, 59, 28181]⟩, ⟨461, 2, [2, 2, 5, 23]⟩, ⟨1871, 14, [2, 5, 11, 17]⟩,
   ⟨1627771, 3, [2, 3, 5, 29, 1871]⟩, ⟨297159362677, 2, [2, 2, 3, 3, 11, 461, 1627771]⟩,
   ⟨29047611873442575647497758179, 2, [2, 293, 305873, 545358713, 297159362677]⟩,
   ⟨341948486974166000522343609283189, 2, [2, 2, 3, 3, 3, 109, 29047611873442575647497758179]⟩,
   ⟨curveOrder, 7, [2, 2, 2, 2, 2, 2, 3, 149, 631, 107361793816595537, 174723607534414371449,
     341948486974166000522343609283189]⟩]

theorem curveOrder_prime : curveOrder.Prime := by
  have hchecked : Arith.certifies [] curveOrderCertificate = true := by decide +kernel
  have hlast : (⟨curveOrder, 7, [2, 2, 2, 2, 2, 2, 3, 149, 631, 107361793816595537, 174723607534414371449,
      341948486974166000522343609283189]⟩ : Arith.Line) ∈ curveOrderCertificate := by
    simp [curveOrderCertificate]
  exact Arith.prime_of_certifies (by simp) hchecked _ hlast

end Immortal.Bitcoin
