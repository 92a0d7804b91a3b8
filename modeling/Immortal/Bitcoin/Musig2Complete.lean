import Immortal.Bitcoin.Musig2Group

/-!
# `Immortal.Bitcoin.Musig2Complete` — partial signatures add up to a signature

A partial signature is checked against one signer's nonce and weighted key. The sum of the signers' equations, with the
share of the tweaks, is BIP-340's equation for the tweaked key, under every combination of the three signs.

The nonce of the sum is the combined nonce of the session, so the sum verifies exactly when that nonce is not infinity:
the generator that BIP-327 puts in the place of infinity is the nonce of no signer.
-/

namespace Immortal.Bitcoin

open AggregatePoint List Txn

variable {P : Type} [AddCommGroup P] {m : Curve P} [DecidableEq P]

/-! ## One signer's equation -/

variable {keys : List Bytes33}

theorem validateMusig2SessionBounds_ok {publicNonces : List Bytes66} {tweaks : List Musig2Tweak} {message : Bytes} :
    validateMusig2SessionBounds keys publicNonces tweaks message = .ok () ↔
      keys ≠ [] ∧ keys.length ≤ maxMusigKeys ∧ keys.length = publicNonces.length ∧ tweaks.length ≤ maxMusigTweaks ∧
        message.length ≤ maxMusigMessageBytes := by
  unfold validateMusig2SessionBounds
  split_ifs with hparticipants htweaks hmessage
  · simp only [false_iff]
    rintro ⟨hkeys, hcount, hnonces, -⟩
    rcases hparticipants with h | h | h
    · exact hkeys h
    · omega
    · exact h hnonces
  · simp only [false_iff]
    omega
  · simp only [false_iff]
    omega
  · simp only [true_iff]
    push Not at hparticipants
    exact ⟨hparticipants.1, hparticipants.2.1, hparticipants.2.2, Nat.not_lt.mp htweaks, Nat.not_lt.mp hmessage⟩

variable {scalar : Bytes32}

/-- Verification at an index is that of the signer's key and nonce in the session that all signers share. -/
theorem verifyPartial_eq_ok {publicNonces : List Bytes66} {tweaks : List Musig2Tweak} {index : Nat} {message : Bytes} :
    verifyMusig2PartialSignatureWithTweaks m keys publicNonces tweaks index message scalar = .ok () ↔
      ∃ session key nonce, musig2SessionValues m keys publicNonces tweaks message = .ok session ∧
        keys[index]? = some key ∧ publicNonces[index]? = some nonce ∧ Reduced scalar ∧
        verifyPartialOf m session keys key nonce scalar = .ok () := by
  unfold verifyMusig2PartialSignatureWithTweaks musig2SessionValues
  rw [check_bind_eq_ok]
  constructor
  · rintro ⟨hbounds, h⟩
    cases hnonce : publicNonces[index]? with
    | none =>
      rw [hnonce] at h
      cases h
    | some nonce =>
      simp only [hnonce] at h
      split at h
      · cases h
      obtain ⟨aggregateNonce, haggregate, h⟩ := bind_eq_ok.mp h
      unfold verifyMusig2PartialSignatureWithAggregateNonce at h
      cases hkey : keys[index]? with
      | none =>
        rw [hkey] at h
        cases h
      | some key =>
        rw [hkey] at h
        split_ifs at h
        obtain ⟨session, hsession, h⟩ := bind_eq_ok.mp h
        refine ⟨session, key, nonce, ?_, rfl, rfl, Nat.not_le.mp ‹_›, h⟩
        exact check_bind_eq_ok.mpr ⟨hbounds, bind_eq_ok.mpr ⟨aggregateNonce, haggregate, hsession⟩⟩
  · rintro ⟨session, key, nonce, hsession, hkey, hnonce, hscalar, h⟩
    obtain ⟨hbounds, hsession⟩ := check_bind_eq_ok.mp hsession
    obtain ⟨aggregateNonce, haggregate, hsession⟩ := bind_eq_ok.mp hsession
    obtain ⟨-, hcount, -, htweaks, hmessage⟩ := validateMusig2SessionBounds_ok.mp hbounds
    have hreduced : ¬curveOrder ≤ bigEndian scalar.1 := Nat.not_le.mpr hscalar
    refine ⟨hbounds, ?_⟩
    simp only [hnonce, if_neg hreduced]
    refine bind_eq_ok.mpr ⟨aggregateNonce, haggregate, ?_⟩
    unfold verifyMusig2PartialSignatureWithAggregateNonce
    simp only [hkey, if_neg hreduced, if_neg (Nat.not_lt.mpr hcount)]
    rw [if_neg (by omega)]
    exact bind_eq_ok.mpr ⟨session, hsession, h⟩

/-- What a partial signature has to be a multiple of: the signer's nonce and challenged key, under the session's
    signs. -/
def Musig2SessionValues.target (session : Musig2SessionValues) (m : Curve P) (keys : List Bytes33) (key : Bytes33)
    (nonce : Bytes66) : P :=
  signed session.nonceOdd (m.nonceUnder session.nonceCoefficient nonce) +
    signed (xor session.keyOdd session.keyContext.gaccNegative) (bigEndian session.challenge.1 • m.weightedPoint keys
      key)

theorem AggregatePoint.negateIf_ofPoint (negative : Bool) (p : P) :
    (if negative then (ofPoint m p).negate m else ofPoint m p) = ofPoint m (signed negative p) := by
  cases negative
  · rfl
  · exact negate_ofPoint p

theorem musig2EffectiveSignerNonce_ok {nonce : Bytes66} {coefficient : Bytes32} (odd : Bool)
    (hnonce : m.IsPublicNonce nonce) (hcoefficient : Reduced coefficient) :
    musig2EffectiveSignerNonce m nonce coefficient odd = .ok (.ofPoint m (signed odd (m.nonceUnder coefficient
      nonce))) := by
  obtain ⟨first, hfirst, hfirstPoint⟩ := publicKeyOf_of_decode "MuSig2 first public nonce" hnonce.1
  obtain ⟨second, hsecond, hsecondPoint⟩ := publicKeyOf_of_decode "MuSig2 second public nonce" hnonce.2
  refine bind_eq_ok.mpr ⟨first, hfirst, bind_eq_ok.mpr ⟨second, hsecond, bind_eq_ok.mpr
    ⟨.ofPoint m (bigEndian coefficient.1 • m.secondPoint nonce), ?_, ?_⟩⟩⟩
  · rw [hsecondPoint, multiply_ofPoint _ hcoefficient]
  · rw [hfirstPoint, add_ofPoint]
    show Except.ok (if odd then (ofPoint m _).negate m else ofPoint m _) = _
    rw [negateIf_ofPoint]
    rfl

variable {session : Musig2SessionValues}

/-- **The check of a partial signature is its equation.** -/
theorem verifyPartialOf_eq_ok {key : Bytes33} {nonce : Bytes66}
    (hkey : m.IsPublicKey key) (hnonce : m.IsPublicNonce nonce) (hcoefficient : Reduced session.nonceCoefficient)
    (hchallenge : Reduced session.challenge) (hscalar : Reduced scalar) :
    verifyPartialOf m session keys key nonce scalar = .ok () ↔
      bigEndian scalar.1 • m.generator = session.target m keys key nonce := by
  obtain ⟨hne, hencoded⟩ := hkey.spec
  obtain ⟨weight, hweight, hreduced⟩ := musig2CoefficientIn_ok (m := m) keys key
  have hpoint : point key = .ofPoint m (m.pointOf key) := by
    rw [ofPoint_of_ne hne, ← hencoded]
  have hrun : verifyPartialOf m session keys key nonce scalar =
      if ofPoint m (bigEndian scalar.1 • m.generator) = .ofPoint m (session.target m keys key nonce)
      then .ok () else .error (.crypto "MuSig2 partial signature verification") := by
    unfold verifyPartialOf
    simp only [musig2EffectiveSignerNonce_ok _ hnonce hcoefficient, hweight, hpoint,
      multiply_ofPoint _ hreduced, multiply_ofPoint _ hchallenge, pointFromScalar_ok
        hscalar,
      negateIf_ofPoint, add_ofPoint, bind, Except.bind, Musig2SessionValues.target,
      m.weightedPoint_eq hweight]
  rw [hrun]
  split
  · rename_i hequal
    exact ⟨fun _ => ofPoint_inj hequal, fun _ => rfl⟩
  · rename_i hdifferent
    constructor
    · intro h
      cases h
    · intro hequal
      exact absurd (congrArg (ofPoint m) hequal) hdifferent

/-! ### Signing -/

/-- A value that `SecretKey` can hold. -/
def IsSecretKey (secret : Bytes32) : Prop := 0 < bigEndian secret.1 ∧ bigEndian secret.1 < curveOrder

theorem secretKeyOf_eq_some {bytes secret : Bytes32} : secretKeyOf bytes = some secret ↔ bytes = secret ∧ IsSecretKey
    bytes := by
  unfold secretKeyOf IsSecretKey
  split
  · rename_i h
    simp [h]
  · rename_i h
    simp [h]

/-- A term of a partial signature is a multiple of the generator: no term is zero. -/
structure TermOf (m : Curve P) (term : Option Bytes32) (p : P) : Prop where
  isSecretKey : ∀ secret, term = some secret → IsSecretKey secret
  point : bigEndian (term.getD scalarZero).1 • m.generator = p

section Terms

omit [DecidableEq P]

theorem TermOf.none (m : Curve P) : TermOf m none 0 :=
  ⟨fun _ h => (nomatch h), by rw [Option.getD_none, bigEndian_scalarZero, zero_nsmul]⟩

theorem TermOf.some (m : Curve P) (secret : Bytes32) (h : IsSecretKey secret) :
    TermOf m (some secret) (bigEndian secret.1 • m.generator) := by
  refine ⟨?_, rfl⟩
  intro found hfound
  cases hfound
  exact h

theorem TermOf.reduced {term : Option Bytes32} {p : P} (h : TermOf m term p) : Reduced (term.getD scalarZero) := by
  cases term with
  | none => exact reduced_zero
  | some secret => exact (h.isSecretKey secret rfl).2

variable {secret : Bytes32}

theorem isSecretKey_negate (h : IsSecretKey secret) :
    IsSecretKey (secretNegate secret) ∧ bigEndian (secretNegate secret).1 = curveOrder - bigEndian secret.1 := by
  obtain ⟨hpositive, hlt⟩ := h
  have hvalue : bigEndian (secretNegate secret).1 = curveOrder - bigEndian secret.1 := bigEndian_beBytes32 (by omega)
  refine ⟨?_, hvalue⟩
  unfold IsSecretKey
  omega

/-- A secret, negated under a sign. -/
theorem negateIf_secret (m : Curve P) (negative : Bool) (h : IsSecretKey secret) :
    IsSecretKey (if negative then secretNegate secret else secret) ∧
      bigEndian (if negative then secretNegate secret else secret).1 • m.generator =
        signed negative (bigEndian secret.1 • m.generator) := by
  cases negative
  · exact ⟨h, rfl⟩
  · obtain ⟨hsecret, hvalue⟩ := isSecretKey_negate h
    refine ⟨hsecret, ?_⟩
    show bigEndian (secretNegate secret).1 • m.generator = -(bigEndian secret.1 • m.generator)
    rw [hvalue, m.sub_nsmul _ (Nat.le_of_lt h.2)]

theorem multiplySecretTerm_ok (m : Curve P) (hsecret : IsSecretKey secret)
    (hscalar : Reduced scalar) :
    ∃ term, multiplySecretTerm secret scalar = .ok term ∧
      TermOf m term (bigEndian scalar.1 • bigEndian secret.1 • m.generator) := by
  unfold multiplySecretTerm
  split
  · rename_i hzero
    refine ⟨none, rfl, ?_⟩
    rw [hzero, bigEndian_scalarZero, zero_nsmul]
    exact TermOf.none m
  · rename_i hzero
    have hpositive : bigEndian scalar.1 ≠ 0 := fun hvalue => hzero (bigEndian_eq_zero.mp hvalue)
    have hmod : bigEndian secret.1 * bigEndian scalar.1 % curveOrder < curveOrder := Nat.mod_lt _ (by decide)
    -- the product of two residues other than zero is not zero
    have hproduct : 0 < bigEndian secret.1 * bigEndian scalar.1 % curveOrder := by
      apply Nat.pos_of_ne_zero
      intro hproduct
      rcases (Nat.Prime.dvd_mul curveOrder_prime).mp (Nat.dvd_of_mod_eq_zero hproduct) with h | h
      · exact absurd (Nat.le_of_dvd hsecret.1 h) (Nat.not_le.mpr hsecret.2)
      · exact absurd (Nat.le_of_dvd (Nat.pos_of_ne_zero hpositive) h) (Nat.not_le.mpr hscalar)
    have hvalue := bigEndian_beBytes32 hmod
    have hterm := TermOf.some m (beBytes32 (bigEndian secret.1 * bigEndian scalar.1 % curveOrder))
      (by unfold IsSecretKey; rw [hvalue]; exact ⟨hproduct, hmod⟩)
    rw [hvalue, m.mod_nsmul, mul_nsmul] at hterm
    refine ⟨_, ?_, hterm⟩
    simp only [secretMulTweak, if_neg hpositive]

theorem multiplyTerm_ok {term : Option Bytes32} {p : P} (hterm : TermOf m term p)
    (hscalar : Reduced scalar) :
    ∃ product, multiplyTerm term scalar = .ok product ∧ TermOf m product (bigEndian scalar.1 • p) := by
  cases term with
  | none =>
    refine ⟨none, rfl, ?_⟩
    rw [← hterm.point, Option.getD_none, bigEndian_scalarZero, zero_nsmul, nsmul_zero]
    exact TermOf.none m
  | some secret =>
    rw [← hterm.point]
    exact multiplySecretTerm_ok m (hterm.isSecretKey secret rfl) hscalar

theorem addSecretTerms_ok {left right : Option Bytes32} {p q : P} (hleft : TermOf m left p) (hright : TermOf m right
    q) :
    TermOf m (addSecretTerms left right) (p + q) := by
  cases left with
  | none =>
    have hp : p = 0 := by rw [← hleft.point, Option.getD_none, bigEndian_scalarZero, zero_nsmul]
    rw [hp, zero_add]
    exact hright
  | some l =>
    cases right with
    | none =>
      have hq : q = 0 := by rw [← hright.point, Option.getD_none, bigEndian_scalarZero, zero_nsmul]
      rw [hq, add_zero]
      exact hleft
    | some r =>
      have hmod : (bigEndian l.1 + bigEndian r.1) % curveOrder < curveOrder := Nat.mod_lt _ (by decide)
      have hsum : ((bigEndian l.1 + bigEndian r.1) % curveOrder) • m.generator = p + q := by
        rw [m.mod_nsmul, add_nsmul, ← hleft.point, ← hright.point]
        rfl
      show TermOf m (secretKeyOf (beBytes32 ((bigEndian l.1 + bigEndian r.1) % curveOrder))) (p + q)
      rw [← hsum]
      unfold secretKeyOf
      rw [bigEndian_beBytes32 hmod]
      split
      · rename_i hsecret
        have hterm := TermOf.some m (beBytes32 ((bigEndian l.1 + bigEndian r.1) % curveOrder))
          (by unfold IsSecretKey; rw [bigEndian_beBytes32 hmod]; exact hsecret)
        rwa [bigEndian_beBytes32 hmod] at hterm
      · have hvalue : (bigEndian l.1 + bigEndian r.1) % curveOrder = 0 := by omega
        rw [hvalue, zero_nsmul]
        exact TermOf.none m

end Terms

omit [DecidableEq P] in
theorem isPublicKey_fromSecretKey (m : Curve P) {secret : Bytes32} (h : IsSecretKey secret) :
    m.decode (m.fromSecretKey secret).1 = some (bigEndian secret.1 • m.generator) := by
  rw [fromSecretKey_eq]
  exact m.decode_encode _ (m.nsmul_ne_zero (Nat.pos_iff_ne_zero.mp h.1) h.2 m.generator_ne_zero)

variable {message : Bytes} {scalar secretKey : Bytes32} {scalars : List Bytes32} {publicNonces : List Bytes66}
  {tweaks : List Musig2Tweak}

/-- **A signer's scalar solves their equation.** -/
theorem musig2PartialScalar_ok (m : Curve P) (session : Musig2SessionValues) (keys : List Bytes33)
    {first second : Bytes32} (hfirst : IsSecretKey first) (hsecond : IsSecretKey second)
    (hsecret : IsSecretKey secretKey) (hcoefficient : Reduced session.nonceCoefficient)
    (hchallenge : Reduced session.challenge) :
    ∃ scalar, musig2PartialScalar m session keys (m.fromSecretKey secretKey) first second secretKey = .ok scalar ∧
      Reduced scalar ∧ bigEndian scalar.1 • m.generator = session.target m keys (m.fromSecretKey secretKey)
        (noncePair (m.fromSecretKey first) (m.fromSecretKey second)) := by
  obtain ⟨hfirst', hfirstPoint⟩ := negateIf_secret m session.nonceOdd hfirst
  obtain ⟨hsecond', hsecondPoint⟩ := negateIf_secret m session.nonceOdd hsecond
  obtain ⟨hsecret', hsecretPoint⟩ := negateIf_secret m (xor session.keyOdd session.keyContext.gaccNegative) hsecret
  obtain ⟨weight, hweight, hweightReduced⟩ := musig2CoefficientIn_ok (m := m) keys (m.fromSecretKey secretKey)
  obtain ⟨secondTerm, hsecondTerm, hsecondOf⟩ := multiplySecretTerm_ok m hsecond' hcoefficient
  obtain ⟨weightedTerm, hweightedTerm, hweightedOf⟩ := multiplySecretTerm_ok m hsecret' hweightReduced
  obtain ⟨keyTerm, hkeyTerm, hkeyOf⟩ := multiplyTerm_ok hweightedOf hchallenge
  have hsum := addSecretTerms_ok (addSecretTerms_ok (TermOf.some m _ hfirst') hsecondOf) hkeyOf
  refine ⟨_, ?_, hsum.reduced, hsum.point.trans ?_⟩
  · unfold musig2PartialScalar
    simp only [hsecondTerm, hweight, hweightedTerm, hkeyTerm, bind, Except.bind, pure, Except.pure]
  · rw [Musig2SessionValues.target, Curve.nonceUnder, Curve.firstPoint, Curve.secondPoint, noncePair_take,
    noncePair_drop,
      isPublicKey_fromSecretKey m hfirst, isPublicKey_fromSecretKey m hsecond, m.weightedPoint_eq hweight,
        Curve.pointOf,
      isPublicKey_fromSecretKey m hsecret, hfirstPoint, hsecondPoint, hsecretPoint]
    simp only [Option.getD_some, signed_add, signed_nsmul]

/-- A secret nonce that has not been used. -/
structure Musig2SecretNonce.Fresh (m : Curve P) (secretKey : Bytes32) (nonce : Musig2SecretNonce) : Prop where
  first : IsSecretKey nonce.first
  second : IsSecretKey nonce.second
  publicKey : nonce.publicKey = m.fromSecretKey secretKey
  publicNonce : nonce.publicNonce = noncePair (m.fromSecretKey nonce.first) (m.fromSecretKey nonce.second)
  consumed : nonce.consumed = false

theorem musig2NonceScalar_ok {input : Bytes} {index : UInt8} {secret : Bytes32}
    (h : musig2NonceScalar m input index = .ok secret) : IsSecretKey secret := by
  unfold musig2NonceScalar at h
  split at h
  · rename_i found hfound
    cases h
    obtain ⟨rfl, hsecret⟩ := secretKeyOf_eq_some.mp hfound
    exact hsecret
  · cases h

theorem musig2NonceGen_fresh {aggregateKey randomness : Bytes32} {extraInput : Bytes} {nonce : Musig2SecretNonce}
    (h : musig2NonceGen m secretKey aggregateKey message extraInput randomness = .ok nonce) : nonce.Fresh m
      secretKey := by
  unfold musig2NonceGen at h
  split at h
  · cases h
  split at h
  · cases h
  obtain ⟨first, hfirst, h⟩ := bind_eq_ok.mp h
  obtain ⟨second, hsecond, h⟩ := bind_eq_ok.mp h
  cases h
  exact ⟨musig2NonceScalar_ok hfirst, musig2NonceScalar_ok hsecond, rfl, rfl, rfl⟩

/-- A session is defined where its key context and its nonces are. -/
theorem musig2SessionValues_exists {context : Musig2KeyContext} {aggregateNonce : Bytes66}
    (hbounds : validateMusig2SessionBounds keys publicNonces tweaks message = .ok ())
    (hcontext : musig2KeyContext m keys tweaks = .ok context)
    (haggregate : musig2AggregatePublicNonces m publicNonces = .ok aggregateNonce) :
    ∃ session, musig2SessionValues m keys publicNonces tweaks message = .ok session := by
  obtain ⟨hkeys, hcount, -, htweaks, hmessage⟩ := validateMusig2SessionBounds_ok.mp hbounds
  obtain ⟨coefficient, hcoefficient, hreduced, -⟩ := scalarFromHash_ok
    (taggedHash m.crypto "MuSig/noncecoef" (aggregateNonce.1 ++ (xOnly context.key).1 ++ message))
  have hcombined : ∃ pair, musig2CombinedNonce m aggregateNonce (xOnly context.key) message = .ok pair := by
    unfold musig2CombinedNonce
    simp only [hcoefficient]
    obtain ⟨rfl, -⟩ := musig2AggregatePublicNonces_ok haggregate
    simp only [noncePair_take, noncePair_drop, fromExtended_serialize,
      multiply_ofPoint _ hreduced, bind, Except.bind]
    exact ⟨_, rfl⟩
  obtain ⟨⟨found, combined⟩, hcombined⟩ := hcombined
  have hfinal : ∃ finalNonce, combined.orGenerator m = .ok finalNonce := by
    cases combined with
    | infinity =>
      have hsecret : IsSecretKey scalarOne := by
        unfold IsSecretKey
        decide
      have hone : secretKeyOf scalarOne = some scalarOne := secretKeyOf_eq_some.mpr ⟨rfl, hsecret⟩
      exact ⟨m.fromSecretKey scalarOne, by rw [orGenerator, generatorPoint, hone]⟩
    | point key => exact ⟨key, rfl⟩
  obtain ⟨finalNonce, hfinal⟩ := hfinal
  obtain ⟨challenge, hchallenge, -⟩ := scalarFromHash_ok (bip340Challenge m (xOnly finalNonce) (xOnly context.key)
    message)
  refine ⟨⟨context, found, finalNonce, challenge, decide (keyParity finalNonce = .odd),
    decide (keyParity context.key = .odd)⟩, ?_⟩
  refine check_bind_eq_ok.mpr ⟨hbounds, bind_eq_ok.mpr ⟨aggregateNonce, haggregate, ?_⟩⟩
  unfold musig2SessionValuesFromAggregateNonce
  rw [if_neg (not_or.mpr ⟨hkeys, Nat.not_lt.mpr hcount⟩), if_neg (Nat.not_lt.mpr htweaks), if_neg (Nat.not_lt.mpr
    hmessage)]
  simp only [hcontext, hcombined, hfinal, hchallenge, bind, Except.bind]
  rfl

/-- Signing checks its own result, in the session that verification computes. -/
theorem verifyWithTweaks_of_aggregate {index : Nat} {nonce aggregateNonce : Bytes66}
    (hbounds : validateMusig2SessionBounds keys publicNonces tweaks message = .ok ())
    (hnonce : publicNonces[index]? = some nonce)
    (haggregate : musig2AggregatePublicNonces m publicNonces = .ok aggregateNonce)
    (h : verifyMusig2PartialSignatureWithAggregateNonce m keys nonce aggregateNonce tweaks index message scalar = .ok
      ()) : verifyMusig2PartialSignatureWithTweaks m keys publicNonces tweaks index message scalar = .ok () := by
  have hreduced : ¬curveOrder ≤ bigEndian scalar.1 := by
    intro hlarge
    unfold verifyMusig2PartialSignatureWithAggregateNonce at h
    split at h
    · cases h
    · split_ifs at h
  refine check_bind_eq_ok.mpr ⟨hbounds, ?_⟩
  simp only [hnonce, if_neg hreduced]
  exact bind_eq_ok.mpr ⟨aggregateNonce, haggregate, h⟩

/-- **A partial signature that signing returns verifies at the signer's index.** -/
theorem musig2PartialSign_verifies {secretNonce secretNonce' : Musig2SecretNonce}
    (h : musig2PartialSign m secretNonce secretKey keys publicNonces tweaks message = (.ok scalar, secretNonce')) :
    ∃ index, keys.findIdx? (· = m.fromSecretKey secretKey) = some index ∧
      verifyMusig2PartialSignatureWithTweaks m keys publicNonces tweaks index message scalar = .ok () := by
  unfold musig2PartialSign at h
  cases hbounds : validateMusig2SessionBounds keys publicNonces tweaks message with
  | error error => simp [hbounds] at h
  | ok checked =>
    cases hindex : keys.findIdx? (· = m.fromSecretKey secretKey) with
    | none => simp [hbounds, hindex] at h
    | some index =>
      simp only [hbounds, hindex, ite_not] at h
      split at h
      · rename_i hnonce
        cases haggregate : musig2AggregatePublicNonces m publicNonces with
        | error error => simp [haggregate] at h
        | ok aggregateNonce =>
          simp only [haggregate, musig2PartialSignWithAggregateNonce] at h
          refine ⟨index, rfl, verifyWithTweaks_of_aggregate hbounds hnonce haggregate ?_⟩
          split at h
          · cases h
          · obtain ⟨hsigned, -⟩ := Prod.mk.inj h
            unfold musig2SignConsumed at hsigned
            dsimp only at hsigned
            split_ifs at hsigned
            obtain ⟨session, -, hsigned⟩ := bind_eq_ok.mp hsigned
            split at hsigned
            · cases hsigned
            · cases hsigned
            · obtain ⟨found, -, hsigned⟩ := bind_eq_ok.mp hsigned
              obtain ⟨hverified, hfound⟩ := check_bind_eq_ok.mp hsigned
              cases hfound
              exact hverified
      · simp at h

/-- **Signing does not fail** on a fresh nonce in a session that is defined. -/
theorem musig2PartialSign_exists {secretNonce : Musig2SecretNonce} {index : Nat}
    (hkeys : ∀ key ∈ keys, m.IsPublicKey key) (hsecret : IsSecretKey secretKey)
    (hfresh : secretNonce.Fresh m secretKey) (hindex : keys.findIdx? (· = m.fromSecretKey secretKey) = some index)
    (hnonce : publicNonces[index]? = some secretNonce.publicNonce)
    (hsession : musig2SessionValues m keys publicNonces tweaks message = .ok session) :
    ∃ scalar secretNonce',
      musig2PartialSign m secretNonce secretKey keys publicNonces tweaks message = (.ok scalar, secretNonce') := by
  have hof := musig2SessionValues_ok hkeys hsession
  obtain ⟨hbounds, hvalues⟩ := check_bind_eq_ok.mp hsession
  obtain ⟨aggregateNonce, haggregate, hvalues⟩ := bind_eq_ok.mp hvalues
  obtain ⟨-, hcount, -, htweaks, hmessage⟩ := validateMusig2SessionBounds_ok.mp hbounds
  have hkey : keys[index]? = some (m.fromSecretKey secretKey) := by
    obtain ⟨hlt, hfound, -⟩ := findIdx?_eq_some_iff_getElem.mp hindex
    rw [getElem?_eq_getElem hlt, of_decide_eq_true hfound]
  obtain ⟨scalar, hscalar, hreduced, hequation⟩ := musig2PartialScalar_ok m session keys hfresh.first hfresh.second
    hsecret
    hof.coefficient hof.challenge
  rw [← hfresh.publicNonce] at hequation
  -- the check at the end of signing is the signer's equation
  have hverified : verifyPartialOf m session keys (m.fromSecretKey secretKey) secretNonce.publicNonce scalar = .ok () :=
    (verifyPartialOf_eq_ok (hkeys _ (mem_of_getElem? hkey)) (hof.nonces _ (mem_of_getElem? hnonce))
      hof.coefficient hof.challenge hreduced).mpr hequation
  have hfinal : verifyMusig2PartialSignatureWithAggregateNonce m keys secretNonce.publicNonce aggregateNonce tweaks
    index
      message scalar = .ok () := by
    unfold verifyMusig2PartialSignatureWithAggregateNonce
    simp only [hkey, if_neg (Nat.not_le.mpr hreduced), if_neg (Nat.not_lt.mpr hcount)]
    rw [if_neg (by omega)]
    exact bind_eq_ok.mpr ⟨session, hvalues, hverified⟩
  have hfirst := secretKeyOf_eq_some.mpr ⟨rfl, hfresh.first⟩
  have hsecond := secretKeyOf_eq_some.mpr ⟨rfl, hfresh.second⟩
  refine ⟨scalar, secretNonce.consume.2, ?_⟩
  unfold musig2PartialSign musig2PartialSignWithAggregateNonce musig2SignConsumed Musig2SecretNonce.consume
  simp [hbounds, hindex, hnonce, haggregate, hfresh.consumed, hfresh.publicKey, hkey, hvalues, hfirst, hsecond, hscalar,
    hfinal, bind, Except.bind, pure, Except.pure]

/-! ## Assembly -/

/-- The even one of a point and its opposite. -/
def Curve.evenPoint (m : Curve P) (p : P) : P := signed (decide (keyParity (m.encode p) = .odd)) p

theorem keyParity_eq_odd {key : Bytes33} : keyParity key = .odd ↔ keyParity key ≠ .even := by
  cases keyParity key <;> simp

omit [DecidableEq P] in
theorem Curve.evenPoint_spec (m : Curve P) {p : P} (hp : p ≠ 0) :
    m.evenPoint p ≠ 0 ∧ keyParity (m.encode (m.evenPoint p)) = .even ∧ xOnly (m.encode (m.evenPoint p)) = xOnly
      (m.encode p) := by
  refine ⟨fun h => hp (signed_eq_zero.mp h), ?_, ?_⟩
  · by_cases hodd : keyParity (m.encode p) = .odd
    · rw [Curve.evenPoint, decide_eq_true hodd]
      exact (m.keyParity_neg hp).mpr hodd
    · rw [Curve.evenPoint, decide_eq_false hodd]
      exact not_not.mp fun heven => hodd (keyParity_eq_odd.mpr heven)
  · by_cases hodd : keyParity (m.encode p) = .odd
    · rw [Curve.evenPoint, decide_eq_true hodd]
      exact m.xOnly_neg p hp
    · rw [Curve.evenPoint, decide_eq_false hodd]
      rfl

omit [DecidableEq P] in
/-- An x-only key is lifted to the even point over it. -/
theorem Curve.liftX_xOnly (m : Curve P) {p : P} (hp : p ≠ 0) : m.liftX (xOnly (m.encode p)) = some (m.evenPoint p) := by
  obtain ⟨hne, heven, habscissa⟩ := m.evenPoint_spec hp
  have hbytes : (m.encode (m.evenPoint p)).1 = 2 :: (xOnly (m.encode p)).1 := by
    rw [← habscissa]
    unfold keyParity at heven
    split at heven
    · rename_i hhead
      obtain ⟨byte, rest, hcons⟩ := exists_cons_of_ne_nil (l := (m.encode (m.evenPoint p)).1)
        (fun hnil => by rw [hnil] at hhead; cases hhead)
      have htail : (xOnly (m.encode (m.evenPoint p))).1 = rest := by
        show (m.encode (m.evenPoint p)).1.drop 1 = rest
        rw [hcons, drop_one, tail_cons]
      rw [htail, hcons]
      rw [hcons] at hhead
      rw [Option.some.inj hhead]
    · cases heven
  rw [Curve.liftX, ← hbytes, m.decode_encode _ hne]

/-- BIP-340's equation, for an encoded key and a reduced scalar. -/
theorem verifySchnorr_signatureOf {p r : P} (nonce : Bytes32) (message : Bytes) (hp : p ≠ 0)
    (hscalar : Reduced scalar) (hr : bigEndian scalar.1 • m.generator =
      r + bigEndian (bip340Challenge m nonce (xOnly (m.encode p)) message).1 • m.evenPoint p) :
    m.verifySchnorr (signatureOf nonce scalar) message (xOnly (m.encode p)) =
      decide (r ≠ 0 ∧ keyParity (m.encode r) = .even ∧ xOnly (m.encode r) = nonce) := by
  have hnonce : Bytes32.ofBytes ((signatureOf nonce scalar).1.take 32) = some nonce :=
    Bytes32.ofBytes_eq_some.mpr (take_left' nonce.2).symm
  have hrest : Bytes32.ofBytes ((signatureOf nonce scalar).1.drop 32) = some scalar :=
    Bytes32.ofBytes_eq_some.mpr (drop_left' nonce.2).symm
  unfold Curve.verifySchnorr
  simp only [hnonce, hrest, m.liftX_xOnly hp, m.times_eq, hr, add_sub_cancel_right]
  simp only [show bigEndian scalar.1 < curveOrder from hscalar, true_and]

theorem verifyPartials_ok {start : Nat} (h : ∀ index scalar, scalars[index]? = some scalar →
      verifyMusig2PartialSignatureWithTweaks m keys publicNonces tweaks (start + index) message scalar = .ok ()) :
    verifyPartials m keys publicNonces tweaks message start scalars = .ok () := by
  induction scalars generalizing start with
  | nil => rfl
  | cons scalar scalars ih =>
    refine check_bind_eq_ok.mpr ⟨h 0 scalar rfl, ih ?_⟩
    intro index found hfound
    have hnext := h (index + 1) found hfound
    rwa [← Nat.add_assoc, Nat.add_right_comm] at hnext

omit [DecidableEq P] in
theorem sumPartials_ok (m : Curve P) {start : Bytes32} (hstart : Reduced start)
    (h : ∀ scalar ∈ scalars, Reduced scalar) :
    ∃ sum, sumPartials start scalars = .ok sum ∧ Reduced sum ∧ bigEndian sum.1 • m.generator =
      bigEndian start.1 • m.generator + (scalars.map fun scalar => bigEndian scalar.1 • m.generator).sum := by
  induction scalars generalizing start with
  | nil => exact ⟨start, rfl, hstart, by simp⟩
  | cons scalar scalars ih =>
    obtain ⟨hscalar, hscalars⟩ := forall_mem_cons.mp h
    obtain ⟨sum, hsum, hreduced, hvalue⟩ := ih (reduced_scalarAddMod hstart hscalar) hscalars
    refine ⟨sum, ?_, hreduced, ?_⟩
    · rw [sumPartials, if_neg (Nat.not_le.mpr hscalar), hsum]
    · rw [hvalue, bigEndian_scalarAddMod hstart hscalar, m.mod_nsmul, add_nsmul, map_cons, sum_cons,
      add_assoc]

omit [DecidableEq P] in
/-- Equations that hold at every index hold of the sums. -/
theorem sum_eq_of_getElem? {α β γ : Type} {f : α → P} {g : β → P} {h : γ → P} {as : List α} {bs : List β} {cs : List γ}
    (hbs : as.length = bs.length) (hcs : as.length = cs.length)
    (heq : ∀ (index : Nat) a b c, as[index]? = some a → bs[index]? = some b → cs[index]? = some c → f a = g b + h c) :
    (as.map f).sum = (bs.map g).sum + (cs.map h).sum := by
  induction as generalizing bs cs with
  | nil =>
    obtain rfl := eq_nil_of_length_eq_zero hbs.symm
    obtain rfl := eq_nil_of_length_eq_zero hcs.symm
    simp
  | cons a as ih =>
    cases bs with
    | nil => cases hbs
    | cons b bs =>
      cases cs with
      | nil => cases hcs
      | cons c cs =>
        have htail := ih (Nat.succ.inj hbs) (Nat.succ.inj hcs)
          fun index a b c ha hb hc => heq (index + 1) a b c ha hb hc
        have hhead := heq 0 a b c rfl rfl rfl
        simp only [map_cons, sum_cons, htail, hhead]
        abel

omit [DecidableEq P] in
/-- The tweaks' share of a signature: the challenged multiple, under the sign of the key. -/
theorem tweakTerm_ok (m : Curve P) (odd : Bool) {product : Bytes32} (h : Reduced product) :
    Reduced (if odd then scalarNegateMod product else product) ∧
      bigEndian (if odd then scalarNegateMod product else product).1 • m.generator =
        signed odd (bigEndian product.1 • m.generator) := by
  cases odd
  · exact ⟨h, rfl⟩
  · refine ⟨reduced_scalarNegateMod h, ?_⟩
    show bigEndian (scalarNegateMod product).1 • m.generator = -(bigEndian product.1 • m.generator)
    rw [bigEndian_scalarNegateMod h, m.mod_nsmul, m.sub_nsmul _ (Nat.le_of_lt h)]

/-- What is assembled from checked partial signatures: the equation of the tweaked key under the combined nonce. -/
theorem musig2Aggregate_eq (hkeys : ∀ key ∈ keys, m.IsPublicKey key)
    (hsession : musig2SessionValues m keys publicNonces tweaks message = .ok session)
    (hcount : scalars.length = keys.length) (hscalars : ∀ (index : Nat) scalar, scalars[index]? = some scalar →
      verifyMusig2PartialSignatureWithTweaks m keys publicNonces tweaks index message scalar = .ok ()) :
    ∃ scalar, Reduced scalar ∧
      bigEndian scalar.1 • m.generator =
        signed session.nonceOdd (publicNonces.map (m.nonceUnder session.nonceCoefficient)).sum +
          bigEndian session.challenge.1 • signed session.keyOdd (m.pointOf session.keyContext.key) ∧
      musig2AggregatePartialSignatures m keys publicNonces tweaks message scalars =
        (verifyMusig2Signature m (xOnly session.keyContext.key) message (signatureOf (xOnly session.finalNonce)
          scalar)).map
          fun _ => signatureOf (xOnly session.finalNonce) scalar := by
  have hof := musig2SessionValues_ok hkeys hsession
  obtain ⟨hbounds, -⟩ := check_bind_eq_ok.mp hsession
  obtain ⟨-, -, hnonces, -⟩ := validateMusig2SessionBounds_ok.mp hbounds
  -- each signer's equation, in the one session
  have hequation : ∀ (index : Nat) scalar nonce key, scalars[index]? = some scalar → publicNonces[index]? = some nonce →
      keys[index]? = some key → Reduced scalar ∧ bigEndian scalar.1 • m.generator = session.target m keys key nonce :=
        by
    intro index scalar nonce key hscalar hnonce hkey
    obtain ⟨session', key', nonce', hsession', hkey', hnonce', hreduced, hverified⟩ :=
      verifyPartial_eq_ok.mp (hscalars index scalar hscalar)
    obtain rfl : session = session' := Except.ok.inj (hsession.symm.trans hsession')
    obtain rfl : key = key' := Option.some.inj (hkey.symm.trans hkey')
    obtain rfl : nonce = nonce' := Option.some.inj (hnonce.symm.trans hnonce')
    exact ⟨hreduced, (verifyPartialOf_eq_ok (hkeys _ (mem_of_getElem? hkey)) (hof.nonces _ (mem_of_getElem?
      hnonce))
      hof.coefficient hof.challenge hreduced).mp hverified⟩
  have hreduced : ∀ scalar ∈ scalars, Reduced scalar := by
    intro scalar hscalar
    obtain ⟨index, hindex⟩ := mem_iff_getElem?.mp hscalar
    obtain ⟨session', key', nonce', -, -, -, hreduced, -⟩ := verifyPartial_eq_ok.mp (hscalars index scalar hindex)
    exact hreduced
  have htargets := sum_eq_of_getElem? (hcount.trans hnonces) hcount
    fun index scalar nonce key hscalar hnonce hkey => (hequation index scalar nonce key hscalar hnonce hkey).2
  obtain ⟨sum, hsum, hsumReduced, hsumPoint⟩ := sumPartials_ok m reduced_zero hreduced
  obtain ⟨product, hproduct, hproductReduced, hproductValue⟩ := scalarMultiplyPublic_ok hof.challenge
    hof.context.reduced
  obtain ⟨htermReduced, htermPoint⟩ := tweakTerm_ok m session.keyOdd hproductReduced
  refine ⟨_, reduced_scalarAddMod hsumReduced htermReduced, ?_, ?_⟩
  · have hnonceSum := sum_signed_nsmul session.nonceOdd 1 (m.nonceUnder session.nonceCoefficient) publicNonces
    simp only [one_nsmul] at hnonceSum
    rw [bigEndian_scalarAddMod hsumReduced htermReduced, m.mod_nsmul, add_nsmul, htermPoint, hsumPoint,
      bigEndian_scalarZero, zero_nsmul, zero_add, htargets, hnonceSum, sum_signed_nsmul, hproductValue, m.mod_nsmul,
      Nat.mul_comm, mul_nsmul, hof.context.point, ← signed_signed, ← signed_nsmul, nsmul_add, ← signed_nsmul,
        signed_add,
      add_assoc]
  · have hverified : verifyPartials m keys publicNonces tweaks message 0 scalars = .ok () := by
      apply verifyPartials_ok
      intro index scalar hscalar
      rw [Nat.zero_add]
      exact hscalars index scalar hscalar
    unfold musig2AggregatePartialSignatures
    simp only [hbounds, hcount, hverified, hsession, hsum, hproduct, ne_eq, bind,
      Except.bind]
    cases verifyMusig2Signature m _ message _ <;> rfl

/-- Checked partial signatures assemble into a signature of the tweaked key when the combined nonce is not infinity, and
    into no signature when it is. -/
theorem musig2Aggregate_outcome (hkeys : ∀ key ∈ keys, m.IsPublicKey key) (hnonempty : keys ≠ [])
    (hcount : scalars.length = keys.length) (hscalars : ∀ (index : Nat) scalar, scalars[index]? = some scalar →
      verifyMusig2PartialSignatureWithTweaks m keys publicNonces tweaks index message scalar = .ok ()) :
    (¬NonceAtInfinity m keys publicNonces tweaks message → ∃ context signature,
      musig2KeyContext m keys tweaks = .ok context ∧
      musig2AggregatePartialSignatures m keys publicNonces tweaks message scalars = .ok signature ∧
      m.verifySchnorr signature message (xOnly context.key) = true) ∧
    (NonceAtInfinity m keys publicNonces tweaks message →
      musig2AggregatePartialSignatures m keys publicNonces tweaks message scalars =
        .error (.crypto "MuSig2 aggregate signature")) := by
  -- the first signer's check defines the session
  have hfirst : 0 < scalars.length := hcount ▸ length_pos_iff.mpr hnonempty
  obtain ⟨session, -, -, hsession, -⟩ := verifyPartial_eq_ok.mp (hscalars 0 _ (getElem?_eq_getElem hfirst))
  have hof := musig2SessionValues_ok hkeys hsession
  obtain ⟨scalar, hreduced, hequation, hassembled⟩ := musig2Aggregate_eq hkeys hsession hcount hscalars
  obtain ⟨hne, hencoded⟩ := hof.context.isPublicKey.spec
  have heven : signed session.keyOdd (m.pointOf session.keyContext.key) = m.evenPoint (m.pointOf
    session.keyContext.key) := by
    rw [Curve.evenPoint, ← hencoded, hof.keyOdd]
  have hschnorr := verifySchnorr_signatureOf (xOnly session.finalNonce) message hne hreduced (by
    rw [← hencoded, ← m.mod_nsmul (bigEndian (bip340Challenge _ _ _ _).1), ← hof.challengeHash, ← heven]
    exact hequation)
  rw [← hencoded] at hschnorr
  constructor
  · intro hfinite
    have hsum : (publicNonces.map (m.nonceUnder session.nonceCoefficient)).sum ≠ 0 := fun hsum => hfinite
      (hof.infinite.mpr hsum)
    have hfinal := hof.finalNonce hsum
    -- the nonce of the signature is the even one of the combined nonce and its opposite
    have hnonce : signed session.nonceOdd (publicNonces.map (m.nonceUnder session.nonceCoefficient)).sum =
        m.evenPoint (publicNonces.map (m.nonceUnder session.nonceCoefficient)).sum := by
      rw [Curve.evenPoint, ← hfinal, hof.nonceOdd]
    have hpoint := m.evenPoint_spec hsum
    rw [hnonce, hfinal, decide_eq_true hpoint, ← hfinal] at hschnorr
    refine ⟨session.keyContext, _, hof.computed, ?_, hschnorr⟩
    rw [hassembled, verifyMusig2Signature, hschnorr]
    rfl
  · intro hinfinite
    have hnonce : signed session.nonceOdd (publicNonces.map (m.nonceUnder session.nonceCoefficient)).sum = 0 :=
      signed_eq_zero.mpr (hof.infinite.mp hinfinite)
    rw [hnonce, decide_eq_false (fun h => h.1 rfl)] at hschnorr
    rw [hassembled, verifyMusig2Signature, hschnorr]
    rfl

/-- **MuSig2 is complete.** What signing returns passes the check at the signer's index, and with a generated nonce
    signing does return. Partial signatures that all pass assemble into a BIP-340 signature of the tweaked aggregate key
    when the combined nonce is not infinity, and never otherwise. -/
theorem musig2_complete (m : Curve P) {keys : List Bytes33} (hkeys : ∀ key ∈ keys, m.IsPublicKey key)
    (publicNonces : List Bytes66) (tweaks : List Musig2Tweak) (message : Bytes) :
    (∀ secretNonce secretKey scalar secretNonce',
      musig2PartialSign m secretNonce secretKey keys publicNonces tweaks message = (.ok scalar, secretNonce') →
      ∃ index, keys.findIdx? (· = m.fromSecretKey secretKey) = some index ∧
        verifyMusig2PartialSignatureWithTweaks m keys publicNonces tweaks index message scalar = .ok ()) ∧
    (∀ secretKey aggregateKey nonceMessage extraInput randomness secretNonce index context aggregateNonce,
      IsSecretKey secretKey →
      musig2NonceGen m secretKey aggregateKey nonceMessage extraInput randomness = .ok secretNonce →
      keys.findIdx? (· = m.fromSecretKey secretKey) = some index →
      publicNonces[index]? = some secretNonce.publicNonce →
      validateMusig2SessionBounds keys publicNonces tweaks message = .ok () →
      musig2KeyContext m keys tweaks = .ok context →
      musig2AggregatePublicNonces m publicNonces = .ok aggregateNonce →
      ∃ scalar secretNonce',
        musig2PartialSign m secretNonce secretKey keys publicNonces tweaks message = (.ok scalar, secretNonce')) ∧
    ∀ scalars : List Bytes32, keys ≠ [] → scalars.length = keys.length →
      (∀ (index : Nat) scalar, scalars[index]? = some scalar →
        verifyMusig2PartialSignatureWithTweaks m keys publicNonces tweaks index message scalar = .ok ()) →
      (¬NonceAtInfinity m keys publicNonces tweaks message → ∃ context signature,
        musig2KeyContext m keys tweaks = .ok context ∧
        musig2AggregatePartialSignatures m keys publicNonces tweaks message scalars = .ok signature ∧
        m.verifySchnorr signature message (xOnly context.key) = true) ∧
      (NonceAtInfinity m keys publicNonces tweaks message →
        musig2AggregatePartialSignatures m keys publicNonces tweaks message scalars =
          .error (.crypto "MuSig2 aggregate signature")) := by
  refine ⟨fun _ _ _ _ => musig2PartialSign_verifies, ?_, ?_⟩
  · intro secretKey aggregateKey nonceMessage extraInput randomness secretNonce index context aggregateNonce hsecret
      hnonce hindex hpublic hbounds hcontext haggregate
    obtain ⟨session, hsession⟩ := musig2SessionValues_exists hbounds hcontext haggregate
    exact musig2PartialSign_exists hkeys hsecret (musig2NonceGen_fresh hnonce) hindex hpublic hsession
  · intro scalars hnonempty hcount hscalars
    exact musig2Aggregate_outcome hkeys hnonempty hcount hscalars

/-! ### The residues as a curve

The additive group of the residues has the curve's order. A residue is encoded as the smaller of itself and its
opposite; the digests are those of SHA-256 on the messages of the two sessions below. -/

section Residues

variable {order : Nat} [NeZero order]

def residueEncode (p : ZMod order) : Bytes33 :=
  if 2 * p.val < order then ⟨2 :: beBytes p.val 32, by rw [List.length_cons, length_beBytes]⟩
  else ⟨3 :: beBytes (order - p.val) 32, by rw [List.length_cons, length_beBytes]⟩

def residueDecode (order : Nat) : Bytes → Option (ZMod order)
  | [] => none
  | byte :: rest =>
    if rest.length = 32 ∧ 0 < bigEndian rest ∧ 2 * bigEndian rest < order then
      if byte = 2 then some (bigEndian rest : Nat) else if byte = 3 then some (-(bigEndian rest : Nat)) else none
    else none

variable {p : ZMod order}

omit [NeZero order] in
theorem residueEncode_small (h : 2 * p.val < order) : (residueEncode p).1 = 2 :: beBytes p.val 32 := by
  rw [residueEncode, if_pos h]

omit [NeZero order] in
theorem residueEncode_large (h : ¬2 * p.val < order) : (residueEncode p).1 = 3 :: beBytes (order - p.val) 32 := by
  rw [residueEncode, if_neg h]

omit [NeZero order] in
theorem residue_bytes {value : Nat} (hwidth : order < 256 ^ 32) (hpositive : 0 < value) (hlt : 2 * value < order) :
    bigEndian (beBytes value 32) = value ∧ (beBytes value 32).length = 32 ∧ 0 < bigEndian (beBytes value 32) ∧
      2 * bigEndian (beBytes value 32) < order := by
  have hvalue : bigEndian (beBytes value 32) = value := bigEndian_beBytes (by omega)
  rw [hvalue]
  exact ⟨rfl, length_beBytes value 32, hpositive, hlt⟩

theorem residue_val (hp : p ≠ 0) : 0 < p.val ∧ p.val < order :=
  ⟨Nat.pos_of_ne_zero fun h => hp ((ZMod.val_eq_zero p).mp h), ZMod.val_lt p⟩

theorem residueDecode_encode (hodd : order % 2 = 1) (hwidth : order < 256 ^ 32) (p : ZMod order) (hp : p ≠ 0) :
    residueDecode order (residueEncode p).1 = some p := by
  obtain ⟨hpositive, hlt⟩ := residue_val hp
  by_cases hsmall : 2 * p.val < order
  · obtain ⟨hvalue, hbytes⟩ := residue_bytes hwidth hpositive hsmall
    rw [residueEncode_small hsmall, residueDecode, if_pos hbytes, if_pos rfl, hvalue, ZMod.natCast_zmod_val]
  · obtain ⟨hvalue, hbytes⟩ := residue_bytes hwidth (show 0 < order - p.val by omega) (by omega)
    have hopposite : -((order - p.val : Nat) : ZMod order) = p := by
      rw [Nat.cast_sub hlt.le, ZMod.natCast_self, zero_sub, neg_neg, ZMod.natCast_zmod_val]
    rw [residueEncode_large hsmall, residueDecode, if_pos hbytes, if_neg (by decide), if_pos rfl, hvalue, hopposite]

theorem residue_cast {value : Nat} (hpositive : 0 < value) (hlt : 2 * value < order) :
    (value : ZMod order).val = value ∧ (value : ZMod order) ≠ 0 ∧ (-(value : ZMod order)).val = order - value := by
  have hval : (value : ZMod order).val = value := ZMod.val_cast_of_lt (by omega)
  have hne : (value : ZMod order) ≠ 0 := by
    intro h
    rw [h, ZMod.val_zero] at hval
    omega
  have : NeZero (value : ZMod order) := ⟨hne⟩
  refine ⟨hval, hne, ?_⟩
  rw [ZMod.val_neg_of_ne_zero, hval]

theorem residueEncode_decode (bytes : Bytes) (p : ZMod order) (h : residueDecode order bytes = some p) :
    p ≠ 0 ∧ (residueEncode p).1 = bytes := by
  cases bytes with
  | nil => cases h
  | cons byte rest =>
    rw [residueDecode] at h
    split_ifs at h with hrest htwo hthree
    · obtain ⟨hlength, hpositive, hlt⟩ := hrest
      obtain ⟨hval, hne, -⟩ := residue_cast hpositive hlt
      cases h
      refine ⟨hne, ?_⟩
      rw [residueEncode_small (hval.symm ▸ hlt), hval, htwo, beBytes_bigEndian hlength]
    · obtain ⟨hlength, hpositive, hlt⟩ := hrest
      obtain ⟨-, hne, hval⟩ := residue_cast hpositive hlt
      cases h
      refine ⟨neg_ne_zero.mpr hne, ?_⟩
      have hlarge : ¬2 * (-(bigEndian rest : ZMod order)).val < order := by omega
      have hback : order - (order - bigEndian rest) = bigEndian rest := by omega
      rw [residueEncode_large hlarge, hval, hthree, hback, beBytes_bigEndian hlength]

theorem xOnly_residueEncode_neg (hodd : order % 2 = 1) (p : ZMod order) (hp : p ≠ 0) :
    xOnly (residueEncode (-p)) = xOnly (residueEncode p) := by
  obtain ⟨hpositive, hlt⟩ := residue_val hp
  have : NeZero p := ⟨hp⟩
  have hval : (-p).val = order - p.val := ZMod.val_neg_of_ne_zero p
  have hback : order - (order - p.val) = p.val := by omega
  apply Subtype.ext
  show (residueEncode (-p)).1.drop 1 = (residueEncode p).1.drop 1
  by_cases hsmall : 2 * p.val < order
  · have hlarge : ¬2 * (-p).val < order := by omega
    rw [residueEncode_large hlarge, residueEncode_small hsmall, hval, hback]
    rfl
  · have hopposite : 2 * (-p).val < order := by omega
    rw [residueEncode_large hsmall, residueEncode_small hopposite, hval]
    rfl

end Residues

instance : NeZero curveOrder := ⟨by decide⟩

def demoTagged (digest body length : Nat) : Bytes := beBytes digest 32 ++ beBytes digest 32 ++ beBytes body length

def keyAggListTag : Nat := 0x481c971c3c0b46d7f0b275ae598d4e2c7ed7319c594a5c6ec79ea0d4990294f0

def keyAggCoefficientTag : Nat := 0xbfc904034d1c88e8c80e22e53d24566d64824ed6427281c09100f94dcd52c981

def nonceCoefficientTag : Nat := 0x5a6d45f6da29e651cb1ba2b8ac2cdd4ebc15c2fbb289f0cc821bbf0a34095f32

def challengeTag : Nat := 0x7bb52d7a9fef58323eb1bf7a407db382d2f3f2d81bb1224f49fe518f6d48d37c

def demoDigests : List (Bytes × Nat) :=
  [(tagBytes "KeyAgg list", keyAggListTag), (tagBytes "KeyAgg coefficient", keyAggCoefficientTag),
   (tagBytes "MuSig/noncecoef", nonceCoefficientTag), (tagBytes "BIP0340/challenge", challengeTag),
   (demoTagged keyAggListTag
     0x020000000000000000000000000000000000000000000000000000000000000001020000000000000000000000000000000000000000000000000000000000000002 66,
    0x79f2fa9827351c6ca9fdae1965c655e7b1f50932114bf8947ffa85634d67be87),
   (demoTagged keyAggCoefficientTag
     0x79f2fa9827351c6ca9fdae1965c655e7b1f50932114bf8947ffa85634d67be87020000000000000000000000000000000000000000000000000000000000000001 65,
    0xaa33399c39ca87216c298971d70e8d7f632646079443e29063bacf53d323ac36),
   (demoTagged nonceCoefficientTag 0x55ccc663c63578de93d6768e28f1727f578896df1b04bdab5c178f38fd1295096d 99,
    0xd5fbd387dbc93b6dd0b4c64bec173f3bd9e91b4d97d54f17b4714e804ded8592),
   (demoTagged challengeTag 0x155ccc663c63578de93d6768e28f1727f578896df1b04bdab5c178f38fd1295096d 65,
    0x97a87a28a54fb459bfc9faad04ece45a8f15a968799da6134651c01c12559a4b),
   (demoTagged nonceCoefficientTag
     0x02000000000000000000000000000000000000000000000000000000000000000802000000000000000000000000000000000000000000000000000000000000000a55ccc663c63578de93d6768e28f1727f578896df1b04bdab5c178f38fd1295496d 99,
    0x665bf5d7c039b93bcadd3e0a284d9c48d777587f6f3106f35b0d3fa07659f0ab),
   (demoTagged challengeTag
     0x6865927dbec3aa135b939a6cf7e5228011fea065383b6d70c4fdeea1559e4e55ccc663c63578de93d6768e28f1727f578896df1b04bdab5c178f38fd1295496d 65,
    0xdbafc8e53484c147dddf8509e7d74ffea5927650d263dd11741837f022c2537a)]

def demoCurve : Curve (ZMod curveOrder) where
  sha256 message := beBytes32 ((demoDigests.lookup message).getD 0)
  generator := 1
  times k p := (k * p.val : Nat)
  encode := residueEncode
  decode := residueDecode curveOrder
  card := Nat.card_zmod curveOrder
  generator_ne_zero := by decide +kernel
  times_eq k p := by rw [Nat.cast_mul, ZMod.natCast_zmod_val, nsmul_eq_mul]
  decode_encode := residueDecode_encode (by decide) curveOrder_lt
  encode_decode := residueEncode_decode
  parity_byte p _ := by
    unfold residueEncode
    split
    · exact .inl rfl
    · exact .inr rfl
  xOnly_neg := xOnly_residueEncode_neg (by decide)

def demoKeys : List Bytes33 := [demoCurve.encode 1, demoCurve.encode 2]

theorem demoKeys_isPublicKey : ∀ key ∈ demoKeys, demoCurve.IsPublicKey key := by
  intro key hkey
  simp only [demoKeys, mem_cons, not_mem_nil, or_false] at hkey
  rcases hkey with rfl | rfl
  · exact ⟨1, demoCurve.decode_encode 1 (by decide +kernel)⟩
  · exact ⟨2, demoCurve.decode_encode 2 (by decide +kernel)⟩

def demoMessage : Bytes := [0x6d]

def demoNonces : List Bytes66 :=
  [noncePair (demoCurve.encode 3) (demoCurve.encode 4), noncePair (demoCurve.encode 5) (demoCurve.encode 6)]

/-- An x-only tweak of an odd key and a plain one. -/
def demoTweaks : List Musig2Tweak := [⟨beBytes32 59, true⟩, ⟨beBytes32 5, false⟩]

def demoScalars : List Bytes32 :=
  [beBytes32 0x85061dd32deabb3f9d1fb53c32e99ad6ce6a696a19ff7b1121ba9b32ba856c00,
   beBytes32 0xe278ab27159c2609831181af3e7fb6474d7950e32c7d3d53b49beb1d056efb4a]

def demoSecretNonce : Musig2SecretNonce where
  first := beBytes32 3
  second := beBytes32 4
  publicKey := demoCurve.encode 1
  publicNonce := noncePair (demoCurve.encode 3) (demoCurve.encode 4)
  consumed := false

def demoContext : Musig2KeyContext where
  key := demoCurve.encode (0x55ccc663c63578de93d6768e28f1727f578896df1b04bdab5c178f38fd129549 : Nat)
  gaccNegative := true
  tacc := beBytes32 64

theorem demoScalars_verify : ∀ (index : Nat) scalar, demoScalars[index]? = some scalar →
    verifyMusig2PartialSignatureWithTweaks demoCurve demoKeys demoNonces demoTweaks index demoMessage scalar = .ok ()
  | 0, _, rfl => by decide +kernel
  | 1, _, rfl => by decide +kernel

theorem demo_finite : ¬NonceAtInfinity demoCurve demoKeys demoNonces demoTweaks demoMessage := by
  rintro ⟨aggregateNonce, context, coefficient, haggregate, hcontext, hinfinite⟩
  have hnonce : musig2AggregatePublicNonces demoCurve demoNonces =
      .ok (noncePair (demoCurve.encode 8) (demoCurve.encode 10)) := by decide +kernel
  have hkey : musig2KeyContext demoCurve demoKeys demoTweaks = .ok demoContext := by decide +kernel
  have hcombined : musig2CombinedNonce demoCurve (noncePair (demoCurve.encode 8) (demoCurve.encode 10))
      (xOnly demoContext.key) demoMessage = .ok (beBytes32
        0x665bf5d7c039b93bcadd3e0a284d9c48d777587f6f3106f35b0d3fa07659f0ab,
        .point (demoCurve.encode (0xff979a6d82413c55eca46c6593081adc3a9cde464a1064ce4f0d609e2ee0a2f3 : Nat))) := by
    decide +kernel
  cases hnonce.symm.trans haggregate
  cases hkey.symm.trans hcontext
  cases hcombined.symm.trans hinfinite

/-- Two signers, two tweaks, and three signs. -/
theorem musig2_complete_demo :
    (∃ index, demoKeys.findIdx? (· = demoCurve.fromSecretKey (beBytes32 1)) = some index ∧
      verifyMusig2PartialSignatureWithTweaks demoCurve demoKeys demoNonces demoTweaks index demoMessage demoScalars[0] =
        .ok ()) ∧
    ∃ context signature, musig2KeyContext demoCurve demoKeys demoTweaks = .ok context ∧
      musig2AggregatePartialSignatures demoCurve demoKeys demoNonces demoTweaks demoMessage demoScalars = .ok
        signature ∧
      demoCurve.verifySchnorr signature demoMessage (xOnly context.key) = true := by
  obtain ⟨hsigned, -, hassembled⟩ := musig2_complete demoCurve demoKeys_isPublicKey demoNonces demoTweaks demoMessage
  refine ⟨?_, (hassembled demoScalars (by decide +kernel) rfl demoScalars_verify).1 demo_finite⟩
  exact hsigned demoSecretNonce (beBytes32 1) _ demoSecretNonce.consume.2 (by decide +kernel)

/-! ### Opposite nonces -/

def oppositeNonces : List Bytes66 :=
  [noncePair (demoCurve.encode 3) (demoCurve.encode 4), noncePair (demoCurve.encode (-3)) (demoCurve.encode (-4))]

def oppositeScalars : List Bytes32 :=
  [beBytes32 0xd1a6311fd8c38c2d08019baedbd0a379a3c9f2d7b76892f629182adb07ebe162,
   beBytes32 0x78bfbd8f463ba9953d98f17645c93a551f9a907a19da98a560b31e86b4adfb64]

theorem oppositeScalars_verify : ∀ (index : Nat) scalar, oppositeScalars[index]? = some scalar →
    verifyMusig2PartialSignatureWithTweaks demoCurve demoKeys oppositeNonces [] index demoMessage scalar = .ok ()
  | 0, _, rfl => by decide +kernel
  | 1, _, rfl => by decide +kernel

theorem opposite_infinite : NonceAtInfinity demoCurve demoKeys oppositeNonces [] demoMessage := by
  refine ⟨⟨replicate 66 0, rfl⟩,
    ⟨demoCurve.encode (0xaa33399c39ca87216c298971d70e8d7f632646079443e29063bacf53d323ac38 : Nat), false, scalarZero⟩,
    beBytes32 0xd5fbd387dbc93b6dd0b4c64bec173f3bd9e91b4d97d54f17b4714e804ded8592, ?_, ?_, ?_⟩
  · decide +kernel
  · decide +kernel
  · decide +kernel

/-- Two signers whose nonces cancel sign correctly and get no signature. -/
theorem opposite_nonces_refused :
    (∀ (index : Nat) scalar, oppositeScalars[index]? = some scalar →
      verifyMusig2PartialSignatureWithTweaks demoCurve demoKeys oppositeNonces [] index demoMessage scalar = .ok ()) ∧
    musig2AggregatePartialSignatures demoCurve demoKeys oppositeNonces [] demoMessage oppositeScalars =
      .error (.crypto "MuSig2 aggregate signature") :=
  ⟨oppositeScalars_verify, (musig2Aggregate_outcome demoKeys_isPublicKey (by decide +kernel) rfl
    oppositeScalars_verify).2 opposite_infinite⟩

end Immortal.Bitcoin
