import Immortal.Bitcoin.Musig2

/-!
# `Immortal.Bitcoin.Musig2Group` — sessions in the group of the curve

What the MuSig2 functions compute on encodings, said in the group: a point or infinity is a group element, a key
context is the aggregate key under an accumulated sign and moved by an accumulated multiple of the generator, and a
session signs under the sum of its nonces.
-/

namespace Immortal.Bitcoin

open AggregatePoint Curve List

variable {P : Type} [AddCommGroup P] {m : Curve P}

/-! ## The group -/

theorem Curve.order_nsmul (m : Curve P) (p : P) : curveOrder • p = 0 := by
  rw [← m.card]
  exact card_nsmul_eq_zero'

theorem Curve.mod_nsmul (m : Curve P) (k : Nat) (p : P) : (k % curveOrder) • p = k • p := by
  have hsplit : k • p = (curveOrder * (k / curveOrder) + k % curveOrder) • p := by rw [Nat.div_add_mod]
  rw [hsplit, add_nsmul, mul_nsmul, m.order_nsmul, nsmul_zero, zero_add]

variable {key : Bytes33} {p : P}

/-- A residue other than zero takes no point to infinity, since the order is prime. -/
theorem Curve.nsmul_ne_zero (m : Curve P) {k : Nat} (hk : k ≠ 0) (hlt : k < curveOrder) (hp : p ≠ 0) : k • p ≠ 0 := by
  intro hzero
  have horder : addOrderOf p ∣ curveOrder := addOrderOf_dvd_of_nsmul_eq_zero (m.order_nsmul p)
  rcases (Nat.dvd_prime curveOrder_prime).mp horder with hone | hfull
  · exact hp (AddMonoid.addOrderOf_eq_one_iff.mp hone)
  · have hdvd := addOrderOf_dvd_of_nsmul_eq_zero hzero
    rw [hfull] at hdvd
    exact absurd (Nat.le_of_dvd (Nat.pos_of_ne_zero hk) hdvd) (Nat.not_le.mpr hlt)

/-- The opposite of a residue is the opposite multiple. -/
theorem Curve.sub_nsmul (m : Curve P) {k : Nat} (p : P) (hk : k ≤ curveOrder) : (curveOrder - k) • p = -(k • p) := by
  rw [eq_neg_iff_add_eq_zero, ← add_nsmul, Nat.sub_add_cancel hk, m.order_nsmul]

theorem Curve.encode_inj (m : Curve P) {q : P} (hp : p ≠ 0) (hq : q ≠ 0) (h : m.encode p = m.encode q) : p = q := by
  have hdecode := m.decode_encode p hp
  rw [h, m.decode_encode q hq] at hdecode
  exact (Option.some.inj hdecode).symm

theorem Curve.neg_ne_self (m : Curve P) (hp : p ≠ 0) : -p ≠ p := by
  intro h
  have htwo : 2 • p = 0 := by
    rw [two_nsmul]
    nth_rewrite 1 [← h]
    exact neg_add_cancel p
  exact m.nsmul_ne_zero (by decide) (by decide) hp htwo

/-- An encoding is its parity byte and its abscissa. -/
theorem encoding_eq {key' : Bytes33} (hhead : key.1.head? = key'.1.head?) (htail : xOnly key = xOnly key') :
    key = key' := by
  obtain ⟨bytes, hbytes⟩ := key
  obtain ⟨bytes', hbytes'⟩ := key'
  have hdrop : bytes.drop 1 = bytes'.drop 1 := congrArg Subtype.val htail
  apply Subtype.ext
  cases bytes with
  | nil => cases hbytes
  | cons byte rest =>
    cases bytes' with
    | nil => cases hbytes'
    | cons byte' rest' =>
      obtain rfl : byte = byte' := Option.some.inj hhead
      obtain rfl : rest = rest' := hdrop
      rfl

/-- Of two opposite points one is even. -/
theorem Curve.keyParity_neg (m : Curve P) (hp : p ≠ 0) :
    keyParity (m.encode (-p)) = .even ↔ keyParity (m.encode p) = .odd := by
  have hneg : -p ≠ 0 := neg_ne_zero.mpr hp
  have hheads : (m.encode (-p)).1.head? ≠ (m.encode p).1.head? := fun h =>
    m.neg_ne_self hp (m.encode_inj hneg hp (encoding_eq h (m.xOnly_neg p hp)))
  unfold keyParity
  rcases m.parity_byte p hp with h | h <;> rcases m.parity_byte (-p) hneg with h' | h' <;>
    simp_all

theorem fromSecretKey_eq (m : Curve P) (secret : Bytes32) :
    m.fromSecretKey secret = m.encode (bigEndian secret.1 • m.generator) := by
  rw [fromSecretKey, m.times_eq]

/-! ### A point or its opposite -/

/-- The opposite point, where a sign is set. -/
def signed (negative : Bool) (p : P) : P := if negative then -p else p

variable (negative : Bool)

theorem signed_add (p q : P) : signed negative (p + q) = signed negative p + signed negative q := by
  cases negative
  · rfl
  · exact neg_add p q

theorem signed_zero : signed negative (0 : P) = 0 := by
  cases negative
  · rfl
  · exact neg_zero

theorem signed_nsmul (k : Nat) (p : P) : signed negative (k • p) = k • signed negative p := by
  cases negative
  · rfl
  · exact (neg_nsmul p k).symm

theorem signed_signed (a b : Bool) (p : P) : signed a (signed b p) = signed (xor a b) p := by
  cases a <;> cases b
  · rfl
  · rfl
  · rfl
  · exact neg_neg p

/-- A sign and a factor come out of a sum. -/
theorem sum_signed_nsmul {α : Type} (k : Nat) (point : α → P) (items : List α) :
    (items.map fun item => signed negative (k • point item)).sum = signed negative (k • (items.map point).sum) := by
  induction items with
  | nil => simp [signed_zero]
  | cons item items ih => simp only [map_cons, sum_cons, ih, nsmul_add, signed_add]

theorem signed_eq_zero {negative : Bool} : signed negative p = 0 ↔ p = 0 := by
  cases negative
  · exact Iff.rfl
  · exact neg_eq_zero

/-! ### Keys -/

/-- A key that `PublicKey` can hold. -/
def Curve.IsPublicKey (m : Curve P) (key : Bytes33) : Prop := ∃ p, m.decode key.1 = some p

/-- The point of a key. -/
def Curve.pointOf (m : Curve P) (key : Bytes33) : P := (m.decode key.1).getD 0

theorem Curve.pointOf_encode (hp : p ≠ 0) : m.pointOf (m.encode p) = p := by
  rw [pointOf, m.decode_encode p hp, Option.getD_some]

theorem Curve.IsPublicKey.spec (h : m.IsPublicKey key) : m.pointOf key ≠ 0 ∧ key = m.encode (m.pointOf key) := by
  obtain ⟨p, hp⟩ := h
  obtain ⟨hne, hbytes⟩ := m.encode_decode _ _ hp
  rw [pointOf, hp]
  exact ⟨hne, Subtype.ext hbytes.symm⟩

theorem Curve.isPublicKey_encode (hp : p ≠ 0) : m.IsPublicKey (m.encode p) := ⟨p, m.decode_encode p hp⟩

theorem Curve.negate_eq (h : m.IsPublicKey key) : m.negate key = m.encode (-m.pointOf key) := by
  obtain ⟨p, hp⟩ := h
  rw [negate, pointOf, hp]
  rfl

/-! ## Points as the code has them -/

variable [DecidableEq P]

/-- A group element as an `AggregatePoint`. -/
def AggregatePoint.ofPoint (m : Curve P) (p : P) : AggregatePoint := if p = 0 then .infinity else .point (m.encode p)

namespace AggregatePoint

theorem ofPoint_zero : ofPoint m 0 = .infinity := if_pos rfl

theorem ofPoint_of_ne (hp : p ≠ 0) : ofPoint m p = .point (m.encode p) := if_neg hp

theorem ofPoint_inj {q : P} (h : ofPoint m p = ofPoint m q) : p = q := by
  by_cases hp : p = 0 <;> by_cases hq : q = 0
  · rw [hp, hq]
  · rw [hp, ofPoint_zero, ofPoint_of_ne hq] at h
    cases h
  · rw [hq, ofPoint_zero, ofPoint_of_ne hp] at h
    cases h
  · rw [ofPoint_of_ne hp, ofPoint_of_ne hq] at h
    exact m.encode_inj hp hq (point.inj h)

theorem ofPoint_eq_infinity : ofPoint m p = .infinity ↔ p = 0 := by
  constructor
  · intro h
    exact ofPoint_inj (h.trans ofPoint_zero.symm)
  · rintro rfl
    exact ofPoint_zero

theorem combineKeys_encode {points : List P} (h : ∀ p ∈ points, p ≠ 0) :
    m.combineKeys (points.map m.encode) = m.finite points.sum := by
  have hdecode : (points.map m.encode).mapM (fun key => m.decode key.1) = some points := by
    induction points with
    | nil => rfl
    | cons p points ih =>
      obtain ⟨hp, hpoints⟩ := forall_mem_cons.mp h
      simp [m.decode_encode p hp, ih hpoints]
  rw [combineKeys, hdecode]
  rfl

@[simp] theorem add_ofPoint (p q : P) : (ofPoint m p).add m (ofPoint m q) = ofPoint m (p + q) := by
  by_cases hp : p = 0
  · rw [hp, ofPoint_zero, zero_add, add]
  · by_cases hq : q = 0
    · rw [hq, ofPoint_zero, add_zero, ofPoint_of_ne hp, add]
      exact fun h => nomatch h
    · have hcombine : m.combineKeys [m.encode p, m.encode q] = m.finite (p + q) := by
        have hsum := combineKeys_encode (m := m) (forall_mem_cons.mpr ⟨hp, forall_mem_singleton.mpr hq⟩)
        simpa using hsum
      rw [ofPoint_of_ne hp, ofPoint_of_ne hq, add, hcombine, finite, ofPoint]
      by_cases hsum : p + q = 0 <;> simp [hsum]

@[simp] theorem negate_ofPoint (p : P) : (ofPoint m p).negate m = ofPoint m (-p) := by
  by_cases hp : p = 0
  · rw [hp, neg_zero, ofPoint_zero, negate]
  · rw [ofPoint_of_ne hp, ofPoint_of_ne (neg_ne_zero.mpr hp), negate, Curve.negate, m.decode_encode p hp]

theorem multiply_ofPoint (p : P) {scalar : Bytes32} (h : Reduced scalar) :
    (ofPoint m p).multiply m scalar = .ok (ofPoint m (bigEndian scalar.1 • p)) := by
  unfold multiply
  split
  · rename_i hzero
    rw [hzero, bigEndian_scalarZero, zero_nsmul, ofPoint_zero]
  · rename_i hzero
    have hpositive : bigEndian scalar.1 ≠ 0 := fun hvalue => hzero (bigEndian_eq_zero.mp hvalue)
    by_cases hp : p = 0
    · rw [hp, nsmul_zero, ofPoint_zero]
    · have hproduct : m.mulTweak (m.encode p) scalar = some (m.encode (bigEndian scalar.1 • p)) := by
        simp [mulTweak, m.decode_encode p hp, hpositive, m.times_eq]
      rw [ofPoint_of_ne hp, ofPoint_of_ne (m.nsmul_ne_zero hpositive h hp)]
      simp only [hproduct]

/-- What is written for a point is read back as it. -/
theorem fromExtended_serialize (p : P) :
    aggregatePointFromExtended m (ofPoint m p).serializeExtended.1 = .ok (ofPoint m p) := by
  unfold aggregatePointFromExtended
  by_cases hp : p = 0
  · rw [hp, ofPoint_zero]
    exact if_pos rfl
  · have hbytes : (m.encode p).1 ≠ replicate 33 0 := by
      intro hzero
      rcases m.parity_byte p hp with h | h <;>
        · rw [hzero] at h
          cases h
    rw [ofPoint_of_ne hp, serializeExtended, if_neg hbytes, publicKeyOf, m.decode_encode p hp]
    rfl

end AggregatePoint

theorem pointFromScalar_ok {value : Bytes32} (h : Reduced value) :
    pointFromScalar m value = .ok (.ofPoint m (bigEndian value.1 • m.generator)) := by
  unfold pointFromScalar
  split
  · rename_i hzero
    rw [hzero, bigEndian_scalarZero, zero_nsmul, ofPoint_zero]
  · rename_i hzero
    have hpositive : bigEndian value.1 ≠ 0 := fun hvalue => hzero (bigEndian_eq_zero.mp hvalue)
    have hsecret : secretKeyOf value = some value := if_pos ⟨Nat.pos_of_ne_zero hpositive, h⟩
    have hpoint := m.nsmul_ne_zero hpositive h m.generator_ne_zero
    simp only [hsecret]
    rw [ofPoint_of_ne hpoint, fromSecretKey_eq]

/-! ## Key contexts -/

theorem scalarFromHash_ok (hash : Bytes32) :
    ∃ scalar, scalarFromHash hash = .ok scalar ∧ Reduced scalar ∧ bigEndian scalar.1 = bigEndian hash.1 %
      curveOrder := by
  have hbound := bigEndian_lt hash.1
  rw [hash.2] at hbound
  have hdouble : 256 ^ 32 < 2 * curveOrder := by decide
  have hscalar : bigEndian (scalarBytesFromHash hash).1 = bigEndian hash.1 % curveOrder := by
    unfold scalarBytesFromHash
    split
    · rename_i hover
      show bigEndian (beBytes _ 32) = _
      rw [bigEndian_beBytes (by omega), Nat.mod_eq_sub_mod hover, Nat.mod_eq_of_lt (by omega)]
    · rw [Nat.mod_eq_of_lt (by omega)]
  have hreduced : bigEndian (scalarBytesFromHash hash).1 < curveOrder := hscalar ▸ Nat.mod_lt _ (by decide)
  refine ⟨scalarBytesFromHash hash, ?_, hreduced, hscalar⟩
  simp only [scalarFromHash, scalarOf, if_pos hreduced]

theorem musig2CoefficientIn_ok (keys : List Bytes33) (key : Bytes33) :
    ∃ coefficient, musig2CoefficientIn m keys key = .ok coefficient ∧ Reduced coefficient := by
  unfold musig2CoefficientIn musig2KeyCoefficient
  split
  · exact ⟨scalarOne, rfl, by show bigEndian scalarOne.1 < curveOrder; decide⟩
  · obtain ⟨scalar, hscalar, hreduced, -⟩ := scalarFromHash_ok (taggedHash m.crypto "KeyAgg coefficient"
      ((taggedHash m.crypto "KeyAgg list" (keys.flatMap (·.1))).1 ++ key.1))
    exact ⟨scalar, hscalar, hreduced⟩

/-- The point of a key times its coefficient in a list. -/
def Curve.weightedPoint (m : Curve P) (keys : List Bytes33) (key : Bytes33) : P :=
  match musig2CoefficientIn m keys key with
  | .ok coefficient => bigEndian coefficient.1 • m.pointOf key
  | .error _ => 0

variable {keys : List Bytes33} {nonces : List Bytes66} {context : Musig2KeyContext}

theorem Curve.weightedPoint_eq {coefficient : Bytes32} (h : musig2CoefficientIn m keys key = .ok coefficient) :
    m.weightedPoint keys key = bigEndian coefficient.1 • m.pointOf key := by
  rw [weightedPoint, h]

/-- The keys of `musig2_aggregate_plain_key`, weighted: none is infinity. -/
theorem musig2Weighted_ok {all weighted : List Bytes33} (hkeys : ∀ key ∈ keys, m.IsPublicKey key)
    (h : musig2Weighted m.crypto (taggedHash m.crypto "KeyAgg list" (all.flatMap (·.1))) (musig2SecondKey all) keys =
      .ok weighted) :
    weighted = (keys.map (m.weightedPoint all)).map m.encode ∧ ∀ key ∈ keys, m.weightedPoint all key ≠ 0 := by
  induction keys generalizing weighted with
  | nil =>
    cases h
    exact ⟨rfl, fun key hkey => nomatch hkey⟩
  | cons key keys ih =>
    obtain ⟨hkey, hrest⟩ := forall_mem_cons.mp hkeys
    obtain ⟨hpoint, hencoded⟩ := hkey.spec
    obtain ⟨coefficient, hcoefficient, hreduced⟩ := musig2CoefficientIn_ok (m := m) all key
    obtain ⟨p, hdecode⟩ := hkey
    have hp : m.pointOf key = p := by rw [pointOf, hdecode, Option.getD_some]
    obtain ⟨found, hfound, h⟩ := Txn.bind_eq_ok.mp h
    obtain rfl : coefficient = found := Except.ok.inj (hcoefficient.symm.trans hfound)
    have hproduct : m.crypto.mulTweak key coefficient =
        if bigEndian coefficient.1 = 0 then none else some (m.encode (m.weightedPoint all key)) := by
      show m.mulTweak key coefficient = _
      rw [mulTweak, hdecode, m.weightedPoint_eq hcoefficient, hp]
      simp [m.times_eq]
    rw [hproduct] at h
    by_cases hzero : bigEndian coefficient.1 = 0
    · rw [if_pos hzero] at h
      cases h
    · rw [if_neg hzero] at h
      obtain ⟨rest, htail, h⟩ := Txn.bind_eq_ok.mp h
      cases h
      obtain ⟨hweighted, hne⟩ := ih hrest htail
      have hhead : m.weightedPoint all key ≠ 0 := by
        rw [m.weightedPoint_eq hcoefficient]
        exact m.nsmul_ne_zero hzero hreduced hpoint
      exact ⟨by rw [hweighted, map_cons, map_cons], forall_mem_cons.mpr ⟨hhead, hne⟩⟩

/-- The aggregate key is the sum of the weighted keys. -/
theorem musig2AggregatePlainKey_ok (hkeys : ∀ key ∈ keys, m.IsPublicKey key)
    (h : musig2AggregatePlainKey m.crypto keys = .ok key) :
    (keys.map (m.weightedPoint keys)).sum ≠ 0 ∧ key = m.encode (keys.map (m.weightedPoint keys)).sum := by
  obtain ⟨weighted, hweighted, h⟩ := Txn.bind_eq_ok.mp h
  obtain ⟨rfl, hne⟩ := musig2Weighted_ok hkeys hweighted
  have hpoints : ∀ p ∈ keys.map (m.weightedPoint keys), p ≠ 0 := forall_mem_map.mpr hne
  have hcombine : m.crypto.combineKeys ((keys.map (m.weightedPoint keys)).map m.encode) = _ :=
    combineKeys_encode hpoints
  rw [hcombine, finite] at h
  split at h
  · rename_i combined hcombined
    split at hcombined
    · cases hcombined
    · rename_i hsum
      cases hcombined
      cases h
      exact ⟨hsum, rfl⟩
  · cases h

/-- What a key context is: the aggregate key under its sign, moved by a multiple of the generator. -/
structure KeyContextOf (m : Curve P) (keys : List Bytes33) (context : Musig2KeyContext) : Prop where
  isPublicKey : m.IsPublicKey context.key
  reduced : Reduced context.tacc
  point : m.pointOf context.key = signed context.gaccNegative (keys.map (m.weightedPoint keys)).sum +
    bigEndian context.tacc.1 • m.generator

theorem KeyContextOf.opposite (h : KeyContextOf m keys context) : KeyContextOf m keys (context.opposite m) := by
  obtain ⟨hne, -⟩ := h.isPublicKey.spec
  have hneg := neg_ne_zero.mpr hne
  have htacc : bigEndian (scalarNegateMod context.tacc).1 • m.generator = -(bigEndian context.tacc.1 • m.generator) :=
    by
    rw [bigEndian_scalarNegateMod h.reduced, m.mod_nsmul, m.sub_nsmul _ (Nat.le_of_lt h.reduced)]
  refine ⟨?_, reduced_scalarNegateMod h.reduced, ?_⟩
  · show m.IsPublicKey (m.negate context.key)
    rw [m.negate_eq h.isPublicKey]
    exact m.isPublicKey_encode hneg
  · show m.pointOf (m.negate context.key) = signed (!context.gaccNegative) _ + bigEndian (scalarNegateMod _).1 • _
    rw [m.negate_eq h.isPublicKey, m.pointOf_encode hneg, htacc, h.point, neg_add]
    cases context.gaccNegative <;> simp [signed]

theorem KeyContextOf.evened (h : KeyContextOf m keys context) (xonly : Bool) :
    KeyContextOf m keys (context.evened m xonly) := by
  unfold Musig2KeyContext.evened
  split
  · exact h.opposite
  · exact h

theorem KeyContextOf.applyTweak {context' : Musig2KeyContext} {tweak : Musig2Tweak}
    (hcontext : KeyContextOf m keys context) (h : musig2ApplyTweak m context tweak = .ok context') :
    KeyContextOf m keys context' := by
  have hevened := hcontext.evened tweak.xonly
  unfold musig2ApplyTweak scalarOf at h
  by_cases hreduced : bigEndian tweak.value.1 < curveOrder
  · obtain ⟨p, hp⟩ := hevened.isPublicKey
    have hpoint : m.pointOf (context.evened m tweak.xonly).key = p := by rw [pointOf, hp, Option.getD_some]
    have htweaked : m.addExpTweak (context.evened m tweak.xonly).key tweak.value =
        m.finite (p + bigEndian tweak.value.1 • m.generator) := by
      rw [addExpTweak, hp, m.times_eq]
      rfl
    rw [if_pos hreduced] at h
    simp only [htweaked, finite] at h
    by_cases hsum : p + bigEndian tweak.value.1 • m.generator = 0
    · rw [if_pos hsum] at h
      cases h
    · rw [if_neg hsum] at h
      cases h
      refine ⟨m.isPublicKey_encode hsum, reduced_scalarAddMod hevened.reduced hreduced, ?_⟩
      show m.pointOf (m.encode _) = signed _ _ + bigEndian (scalarAddMod _ _).1 • _
      rw [m.pointOf_encode hsum, bigEndian_scalarAddMod hevened.reduced hreduced, m.mod_nsmul, add_nsmul, ← add_assoc,
        ← hevened.point, hpoint]
  · rw [if_neg hreduced] at h
    cases h

/-- **Key contexts.** Every list of tweaks keeps the accumulated sign and multiple in step with the key. -/
theorem musig2KeyContext_ok {tweaks : List Musig2Tweak} (hkeys : ∀ key ∈ keys, m.IsPublicKey key)
    (h : musig2KeyContext m keys tweaks = .ok context) : KeyContextOf m keys context := by
  unfold musig2KeyContext at h
  split at h
  · cases h
  · obtain ⟨key, hkey, h⟩ := Txn.bind_eq_ok.mp h
    obtain ⟨hsum, rfl⟩ := musig2AggregatePlainKey_ok hkeys hkey
    have hstart : KeyContextOf m keys ⟨m.encode (keys.map (m.weightedPoint keys)).sum, false, scalarZero⟩ := by
      refine ⟨m.isPublicKey_encode hsum, reduced_zero, ?_⟩
      rw [m.pointOf_encode hsum, bigEndian_scalarZero, zero_nsmul, add_zero]
      rfl
    exact Txn.foldlM_preserves (fun _ _ _ hcontext hnext => hcontext.applyTweak hnext) hstart h

/-! ## Sessions -/

/-- The first point of a public nonce. -/
def Curve.firstPoint (m : Curve P) (nonce : Bytes66) : P := (m.decode (nonce.1.take 33)).getD 0

/-- The second point of a public nonce. -/
def Curve.secondPoint (m : Curve P) (nonce : Bytes66) : P := (m.decode (nonce.1.drop 33)).getD 0

/-- A public nonce whose two points can be read. -/
def Curve.IsPublicNonce (m : Curve P) (nonce : Bytes66) : Prop :=
  m.decode (nonce.1.take 33) = some (m.firstPoint nonce) ∧ m.decode (nonce.1.drop 33) = some (m.secondPoint nonce)

/-- A signer's nonce under a nonce coefficient. -/
def Curve.nonceUnder (m : Curve P) (coefficient : Bytes32) (nonce : Bytes66) : P :=
  m.firstPoint nonce + bigEndian coefficient.1 • m.secondPoint nonce

theorem publicKeyOf_ok {bytes : Bytes} {message : String} (h : publicKeyOf m bytes message = .ok key) :
    ∃ p, m.decode bytes = some p ∧ point key = .ofPoint m p := by
  unfold publicKeyOf at h
  cases hdecode : m.decode bytes with
  | none =>
    rw [hdecode] at h
    cases h
  | some p =>
    rw [hdecode] at h
    cases h
    exact ⟨p, rfl, (ofPoint_of_ne (m.encode_decode _ _ hdecode).1).symm⟩

theorem publicKeyOf_of_decode {bytes : Bytes} (message : String) (h : m.decode bytes = some p) :
    ∃ key, publicKeyOf m bytes message = .ok key ∧ point key = .ofPoint m p := by
  refine ⟨m.encode p, ?_, (ofPoint_of_ne (m.encode_decode _ _ h).1).symm⟩
  rw [publicKeyOf, h]

theorem aggregateNoncesFrom_ok {first second : P} {result : AggregatePoint × AggregatePoint}
    (h : aggregateNoncesFrom m (.ofPoint m first) (.ofPoint m second) nonces = .ok result) :
    result = (.ofPoint m (first + (nonces.map m.firstPoint).sum), .ofPoint m (second + (nonces.map
      m.secondPoint).sum)) ∧
      ∀ nonce ∈ nonces, m.IsPublicNonce nonce := by
  induction nonces generalizing first second with
  | nil =>
    cases h
    simp
  | cons nonce nonces ih =>
    obtain ⟨firstKey, hfirst, h⟩ := Txn.bind_eq_ok.mp h
    obtain ⟨secondKey, hsecond, h⟩ := Txn.bind_eq_ok.mp h
    obtain ⟨p, hp, hfirstPoint⟩ := publicKeyOf_ok hfirst
    obtain ⟨q, hq, hsecondPoint⟩ := publicKeyOf_ok hsecond
    have hp' : m.firstPoint nonce = p := by rw [firstPoint, hp, Option.getD_some]
    have hq' : m.secondPoint nonce = q := by rw [secondPoint, hq, Option.getD_some]
    rw [hfirstPoint, hsecondPoint, add_ofPoint, add_ofPoint] at h
    obtain ⟨hresult, hnonces⟩ := ih h
    refine ⟨?_, forall_mem_cons.mpr ⟨⟨hp' ▸ hp, hq' ▸ hq⟩, hnonces⟩⟩
    rw [hresult, map_cons, map_cons, sum_cons, sum_cons, hp', hq', add_assoc, add_assoc]

theorem musig2AggregatePublicNonces_ok {aggregate : Bytes66}
    (h : musig2AggregatePublicNonces m nonces = .ok aggregate) :
    aggregate = noncePair (ofPoint m (nonces.map m.firstPoint).sum).serializeExtended
      (ofPoint m (nonces.map m.secondPoint).sum).serializeExtended ∧
      ∀ nonce ∈ nonces, m.IsPublicNonce nonce := by
  unfold musig2AggregatePublicNonces musig2AggregateNonces at h
  split at h
  · cases h
  · obtain ⟨⟨first, second⟩, hpair, h⟩ := Txn.bind_eq_ok.mp h
    cases h
    rw [← ofPoint_zero (m := m)] at hpair
    obtain ⟨hresult, hnonces⟩ := aggregateNoncesFrom_ok hpair
    rw [zero_add, zero_add] at hresult
    obtain ⟨rfl, rfl⟩ := hresult
    exact ⟨rfl, hnonces⟩

theorem noncePair_take (first second : Bytes33) : (noncePair first second).1.take 33 = first.1 :=
  take_left' first.2

theorem noncePair_drop (first second : Bytes33) : (noncePair first second).1.drop 33 = second.1 :=
  drop_left' first.2

omit [DecidableEq P] in
/-- The signers' nonces under a coefficient add up to the combined nonce. -/
theorem sum_nonceUnder (m : Curve P) (coefficient : Bytes32) (nonces : List Bytes66) :
    (nonces.map (m.nonceUnder coefficient)).sum =
      (nonces.map m.firstPoint).sum + bigEndian coefficient.1 • (nonces.map m.secondPoint).sum := by
  induction nonces with
  | nil => simp
  | cons nonce nonces ih =>
    simp only [map_cons, sum_cons, ih, nonceUnder, nsmul_add]
    abel

/-- The combined nonce, and the one a session signs under. -/
theorem musig2CombinedNonce_ok {aggregate : Bytes66} {key coefficient : Bytes32} {message : Bytes}
    {combined : AggregatePoint} (haggregate : musig2AggregatePublicNonces m nonces = .ok aggregate)
    (h : musig2CombinedNonce m aggregate key message = .ok (coefficient, combined)) :
    Reduced coefficient ∧ combined = .ofPoint m (nonces.map (m.nonceUnder coefficient)).sum := by
  obtain ⟨rfl, -⟩ := musig2AggregatePublicNonces_ok haggregate
  obtain ⟨first, hfirst, h⟩ := Txn.bind_eq_ok.mp h
  obtain ⟨second, hsecond, h⟩ := Txn.bind_eq_ok.mp h
  obtain ⟨scalar, hscalar, h⟩ := Txn.bind_eq_ok.mp h
  obtain ⟨weighted, hweighted, hpair⟩ := Txn.bind_eq_ok.mp h
  rw [noncePair_take, fromExtended_serialize] at hfirst
  rw [noncePair_drop, fromExtended_serialize] at hsecond
  obtain rfl := Except.ok.inj hfirst
  obtain rfl := Except.ok.inj hsecond
  obtain ⟨rfl, rfl⟩ := Prod.mk.inj (Except.ok.inj hpair)
  obtain ⟨found, hfound, hreduced, -⟩ := scalarFromHash_ok (taggedHash m.crypto "MuSig/noncecoef"
    ((noncePair (ofPoint m (nonces.map m.firstPoint).sum).serializeExtended
      (ofPoint m (nonces.map m.secondPoint).sum).serializeExtended).1 ++ key.1 ++ message))
  obtain rfl : scalar = found := Except.ok.inj (hscalar.symm.trans hfound)
  rw [multiply_ofPoint _ hreduced] at hweighted
  cases hweighted
  exact ⟨hreduced, by rw [add_ofPoint, sum_nonceUnder]⟩

/-- The combined nonce of a session is infinity. -/
def NonceAtInfinity (m : Curve P) (keys : List Bytes33) (publicNonces : List Bytes66) (tweaks : List Musig2Tweak)
    (message : Bytes) : Prop :=
  ∃ aggregateNonce context coefficient, musig2AggregatePublicNonces m publicNonces = .ok aggregateNonce ∧
    musig2KeyContext m keys tweaks = .ok context ∧
    musig2CombinedNonce m aggregateNonce (xOnly context.key) message = .ok (coefficient, .infinity)

/-- What a session is: a key context, the combined nonce or the generator in its place, and BIP-340's challenge. -/
structure SessionOf (m : Curve P) (keys : List Bytes33) (publicNonces : List Bytes66) (tweaks : List Musig2Tweak)
    (message : Bytes) (session : Musig2SessionValues) : Prop where
  computed : musig2KeyContext m keys tweaks = .ok session.keyContext
  context : KeyContextOf m keys session.keyContext
  nonces : ∀ nonce ∈ publicNonces, m.IsPublicNonce nonce
  coefficient : Reduced session.nonceCoefficient
  infinite : NonceAtInfinity m keys publicNonces tweaks message ↔
    (publicNonces.map (m.nonceUnder session.nonceCoefficient)).sum = 0
  finalNonce : (publicNonces.map (m.nonceUnder session.nonceCoefficient)).sum ≠ 0 →
    session.finalNonce = m.encode (publicNonces.map (m.nonceUnder session.nonceCoefficient)).sum
  challenge : Reduced session.challenge
  challengeHash : bigEndian session.challenge.1 =
    bigEndian (bip340Challenge m (xOnly session.finalNonce) (xOnly session.keyContext.key) message).1 % curveOrder
  nonceOdd : session.nonceOdd = decide (keyParity session.finalNonce = .odd)
  keyOdd : session.keyOdd = decide (keyParity session.keyContext.key = .odd)

theorem musig2SessionValues_ok {publicNonces : List Bytes66} {tweaks : List Musig2Tweak} {message : Bytes}
    {session : Musig2SessionValues} (hkeys : ∀ key ∈ keys, m.IsPublicKey key)
    (h : musig2SessionValues m keys publicNonces tweaks message = .ok session) :
    SessionOf m keys publicNonces tweaks message session := by
  unfold musig2SessionValues musig2SessionValuesFromAggregateNonce at h
  obtain ⟨-, h⟩ := Txn.check_bind_eq_ok.mp h
  obtain ⟨aggregateNonce, haggregate, h⟩ := Txn.bind_eq_ok.mp h
  split at h
  · cases h
  split at h
  · cases h
  split at h
  · cases h
  obtain ⟨context, hcontext, h⟩ := Txn.bind_eq_ok.mp h
  obtain ⟨⟨coefficient, combined⟩, hcombined, h⟩ := Txn.bind_eq_ok.mp h
  obtain ⟨finalNonce, hfinal, h⟩ := Txn.bind_eq_ok.mp h
  obtain ⟨challenge, hchallenge, h⟩ := Txn.bind_eq_ok.mp h
  cases h
  obtain ⟨hcoefficient, rfl⟩ := musig2CombinedNonce_ok haggregate hcombined
  obtain ⟨-, hnonces⟩ := musig2AggregatePublicNonces_ok haggregate
  obtain ⟨found, hfound, hreduced, hvalue⟩ := scalarFromHash_ok
    (bip340Challenge m (xOnly finalNonce) (xOnly context.key) message)
  obtain rfl : challenge = found := Except.ok.inj (hchallenge.symm.trans hfound)
  refine ⟨hcontext, musig2KeyContext_ok hkeys hcontext, hnonces, hcoefficient, ⟨?_, ?_⟩, ?_, hreduced, hvalue, rfl, rfl⟩
  · rintro ⟨aggregate', context', coefficient', haggregate', hcontext', hinfinite⟩
    obtain rfl : aggregateNonce = aggregate' := Except.ok.inj (haggregate.symm.trans haggregate')
    obtain rfl : context = context' := Except.ok.inj (hcontext.symm.trans hcontext')
    have hpair := Except.ok.inj (hcombined.symm.trans hinfinite)
    exact ofPoint_eq_infinity.mp (Prod.mk.inj hpair).2
  · intro hsum
    refine ⟨aggregateNonce, context, coefficient, haggregate, hcontext, ?_⟩
    rw [hcombined, ofPoint_eq_infinity.mpr hsum]
  · intro hsum
    rw [ofPoint_of_ne hsum] at hfinal
    exact (Except.ok.inj hfinal).symm

end Immortal.Bitcoin
