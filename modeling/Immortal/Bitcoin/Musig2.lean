import Immortal.Bitcoin.Scalar

/-!
# `Immortal.Bitcoin.Musig2` — two-round multi-signatures

The MuSig2 functions of `mkt_swp_verify`: key aggregation under plain and x-only tweaks, nonce generation and
aggregation, partial signing, verification of partial signatures, and their assembly into one BIP-340 signature.

The curve is any group of the curve's order whose points have the compressed encoding: a parity byte, two for an even
ordinate and three for an odd one, before the abscissa that a point shares with its opposite (`Curve`). The functions
of `secp256k1` that the repository calls are defined on it as their documentation has them.
-/

namespace Immortal.Bitcoin

/-- `[u8; 64]`, a Schnorr signature. -/
abbrev Bytes64 := { bytes : Bytes // bytes.length = 64 }

/-- `[u8; 66]`, two compressed keys. -/
abbrev Bytes66 := { bytes : Bytes // bytes.length = 66 }

/-! ## The curve -/

/-- A group of the curve's order with compressed encodings, and the hash. -/
structure Curve (P : Type) [AddCommGroup P] where
  /-- `Sha256::digest`. -/
  sha256 : Bytes → Bytes32
  generator : P
  /-- Multiplication of a point by a number. -/
  times : Nat → P → P
  /-- `PublicKey::serialize`, of a point other than infinity. -/
  encode : P → Bytes33
  /-- `PublicKey::from_slice`, of 33 bytes. -/
  decode : Bytes → Option P
  card : Nat.card P = curveOrder
  generator_ne_zero : generator ≠ 0
  times_eq : ∀ k p, times k p = k • p
  decode_encode : ∀ p, p ≠ 0 → decode (encode p).1 = some p
  encode_decode : ∀ bytes p, decode bytes = some p → p ≠ 0 ∧ (encode p).1 = bytes
  parity_byte : ∀ p, p ≠ 0 → (encode p).1.head? = some 2 ∨ (encode p).1.head? = some 3
  /-- Opposite points have one abscissa. -/
  xOnly_neg : ∀ p, p ≠ 0 → xOnly (encode (-p)) = xOnly (encode p)

section Library

variable {P : Type} [AddCommGroup P] [DecidableEq P] (m : Curve P)

/-- `x_only_public_key().1`. -/
def keyParity (key : Bytes33) : Parity := if key.1.head? = some 2 then .even else .odd

/-- The encoding of a sum that must not be infinity. -/
def Curve.finite (p : P) : Option Bytes33 := if p = 0 then none else some (m.encode p)

/-- `PublicKey::mul_tweak`. -/
def Curve.mulTweak (key : Bytes33) (scalar : Bytes32) : Option Bytes33 := do
  let p ← m.decode key.1
  if bigEndian scalar.1 = 0 then none else some (m.encode (m.times (bigEndian scalar.1) p))

/-- `PublicKey::add_exp_tweak`. -/
def Curve.addExpTweak (key : Bytes33) (scalar : Bytes32) : Option Bytes33 := do
  let p ← m.decode key.1
  m.finite (p + m.times (bigEndian scalar.1) m.generator)

/-- `PublicKey::combine_keys`. -/
def Curve.combineKeys (keys : List Bytes33) : Option Bytes33 := do
  let points ← keys.mapM fun key => m.decode key.1
  m.finite points.sum

/-- `PublicKey::negate`. -/
def Curve.negate (key : Bytes33) : Bytes33 :=
  match m.decode key.1 with
  | some p => m.encode (-p)
  | none => key

/-- `PublicKey::from_secret_key`. -/
def Curve.fromSecretKey (secret : Bytes32) : Bytes33 := m.encode (m.times (bigEndian secret.1) m.generator)

/-- The point with an even ordinate over an abscissa. -/
def Curve.liftX (key : Bytes32) : Option P := m.decode (2 :: key.1)

/-- The primitives that trees and key aggregation are built on. -/
def Curve.crypto : Crypto where
  sha256 := m.sha256
  isXOnly key := (m.liftX key).isSome
  publicKey bytes := (m.decode bytes).map m.encode
  addTweak key scalar := do
    let p ← m.liftX key
    let output ← m.finite (p + m.times (bigEndian scalar.1) m.generator)
    some (xOnly output, keyParity output)
  mulTweak := m.mulTweak
  combineKeys := m.combineKeys

/-- `SecretKey::from_byte_array`. -/
def secretKeyOf (bytes : Bytes32) : Option Bytes32 :=
  if 0 < bigEndian bytes.1 ∧ bigEndian bytes.1 < curveOrder then some bytes else none

/-- `SecretKey::negate`. -/
def secretNegate (secret : Bytes32) : Bytes32 := beBytes32 (curveOrder - bigEndian secret.1)

/-- `SecretKey::mul_tweak`. -/
def secretMulTweak (secret scalar : Bytes32) : Option Bytes32 :=
  if bigEndian scalar.1 = 0 then none
  else some (beBytes32 (bigEndian secret.1 * bigEndian scalar.1 % curveOrder))

/-- `SecretKey::add_tweak`. -/
def secretAddTweak (secret scalar : Bytes32) : Option Bytes32 :=
  secretKeyOf (beBytes32 ((bigEndian secret.1 + bigEndian scalar.1) % curveOrder))

/-- BIP-340's challenge of a nonce, a key and a message. -/
def bip340Challenge (nonce key : Bytes32) (message : Bytes) : Bytes32 :=
  taggedHash m.crypto "BIP0340/challenge" (nonce.1 ++ key.1 ++ message)

/-- `verify_schnorr`. -/
def Curve.verifySchnorr (signature : Bytes64) (message : Bytes) (key : Bytes32) : Bool :=
  match Bytes32.ofBytes (signature.1.take 32), Bytes32.ofBytes (signature.1.drop 32), m.liftX key with
  | some nonce, some scalar, some p =>
    let challenge := bip340Challenge m nonce key message
    let r := m.times (bigEndian scalar.1) m.generator - m.times (bigEndian challenge.1) p
    decide (bigEndian scalar.1 < curveOrder ∧ r ≠ 0 ∧ keyParity (m.encode r) = .even ∧ xOnly (m.encode r) = nonce)
  | _, _, _ => false

end Library

/-! ## Points with infinity -/

inductive AggregatePoint where
  | infinity
  | point (key : Bytes33)
deriving DecidableEq, Repr

section Session

variable {P : Type} [AddCommGroup P] [DecidableEq P] (m : Curve P)

/-- `AggregatePoint::add`, which never fails: keys that cannot be combined are opposite. -/
def AggregatePoint.add : AggregatePoint → AggregatePoint → AggregatePoint
  | .infinity, other => other
  | self, .infinity => self
  | .point left, .point right =>
    match m.combineKeys [left, right] with
    | some key => .point key
    | none => .infinity

def AggregatePoint.multiply (self : AggregatePoint) (scalar : Bytes32) : Verified AggregatePoint :=
  if scalar = scalarZero then .ok .infinity
  else
    match self with
    | .infinity => .ok .infinity
    | .point key =>
      match m.mulTweak key scalar with
      | some product => .ok (.point product)
      | none => .error (.crypto "MuSig2 point multiplication")

def AggregatePoint.negate : AggregatePoint → AggregatePoint
  | .infinity => .infinity
  | .point key => .point (m.negate key)

def AggregatePoint.serializeExtended : AggregatePoint → Bytes33
  | .infinity => ⟨List.replicate 33 0, length_zeroKey⟩
  | .point key => key

/-- `PublicKey::from_slice`, with the error of the caller. -/
def publicKeyOf (bytes : Bytes) (message : String) : Verified Bytes33 :=
  match m.decode bytes with
  | some p => .ok (m.encode p)
  | none => .error (.crypto message)

def aggregatePointFromExtended (bytes : Bytes) : Verified AggregatePoint :=
  if bytes = List.replicate 33 0 then .ok .infinity
  else (publicKeyOf m bytes "MuSig2 aggregate public nonce").map .point

/-- `generator_point`, the key of the secret one. -/
def generatorPoint : Verified Bytes33 :=
  match secretKeyOf scalarOne with
  | some secret => .ok (m.fromSecretKey secret)
  | none => .error (.crypto "generator scalar")

/-- The match on `combined_nonce`: the generator stands in for infinity. -/
def AggregatePoint.orGenerator : AggregatePoint → Verified Bytes33
  | .infinity => generatorPoint m
  | .point key => .ok key

def pointFromScalar (value : Bytes32) : Verified AggregatePoint :=
  if value = scalarZero then .ok .infinity
  else
    match secretKeyOf value with
    | some secret => .ok (.point (m.fromSecretKey secret))
    | none => .error (.crypto "MuSig2 scalar point")

/-! ## Sessions -/

structure Musig2Tweak where
  value : Bytes32
  xonly : Bool
deriving DecidableEq

structure Musig2KeyContext where
  key : Bytes33
  gaccNegative : Bool
  tacc : Bytes32
deriving DecidableEq

structure Musig2SessionValues where
  keyContext : Musig2KeyContext
  nonceCoefficient : Bytes32
  finalNonce : Bytes33
  challenge : Bytes32
  nonceOdd : Bool
  keyOdd : Bool
deriving DecidableEq

def maxMusigMessageBytes : Nat := 4096

def maxMusigExtraInputBytes : Nat := 1024

def maxMusigTweaks : Nat := 8

def scalarFromHash (hash : Bytes32) : Verified Bytes32 :=
  match scalarOf (scalarBytesFromHash hash) with
  | some scalar => .ok scalar
  | none => .error (.crypto "scalar exceeds curve order")

/-- `musig2_key_coefficient` over the material of a key list. -/
def musig2CoefficientIn (keys : List Bytes33) (key : Bytes33) : Verified Bytes32 :=
  musig2KeyCoefficient m.crypto key (taggedHash m.crypto "KeyAgg list" (keys.flatMap (·.1))) (musig2SecondKey keys)

def validateMusig2SessionBounds (keys : List Bytes33) (publicNonces : List Bytes66) (tweaks : List Musig2Tweak)
    (message : Bytes) : Verified Unit :=
  if keys = [] ∨ maxMusigKeys < keys.length ∨ keys.length ≠ publicNonces.length then
    .error (.bounds "MuSig2 session participants")
  else if maxMusigTweaks < tweaks.length then .error (.bounds "MuSig2 tweak count")
  else if maxMusigMessageBytes < message.length then .error (.bounds "MuSig2 message byte length")
  else .ok ()

/-- The opposite key, with the signs of what has been accumulated. -/
def Musig2KeyContext.opposite (context : Musig2KeyContext) : Musig2KeyContext :=
  { key := m.negate context.key, gaccNegative := !context.gaccNegative, tacc := scalarNegateMod context.tacc }

/-- An x-only tweak starts from the even one of the two keys. -/
def Musig2KeyContext.evened (context : Musig2KeyContext) (xonly : Bool) : Musig2KeyContext :=
  if xonly ∧ keyParity context.key = .odd then context.opposite m else context

/-- One turn of the loop of `musig2_key_context`. -/
def musig2ApplyTweak (context : Musig2KeyContext) (tweak : Musig2Tweak) : Verified Musig2KeyContext :=
  match scalarOf tweak.value with
  | none => .error (.crypto "MuSig2 tweak exceeds curve order")
  | some scalar =>
    let context := context.evened m tweak.xonly
    match m.addExpTweak context.key scalar with
    | none => .error (.crypto "MuSig2 aggregate tweak")
    | some key => .ok { context with key, tacc := scalarAddMod context.tacc tweak.value }

def musig2KeyContext (keys : List Bytes33) (tweaks : List Musig2Tweak) : Verified Musig2KeyContext :=
  if keys = [] ∨ maxMusigKeys < keys.length ∨ maxMusigTweaks < tweaks.length then
    .error (.bounds "MuSig2 key context")
  else do
    let key ← musig2AggregatePlainKey m.crypto keys
    tweaks.foldlM (musig2ApplyTweak m) { key, gaccNegative := false, tacc := scalarZero }

/-- The loop of `musig2_aggregate_nonces`. -/
def aggregateNoncesFrom : AggregatePoint → AggregatePoint → List Bytes66 →
    Verified (AggregatePoint × AggregatePoint)
  | first, second, [] => .ok (first, second)
  | first, second, nonce :: nonces => do
    let firstPoint ← publicKeyOf m (nonce.1.take 33) "MuSig2 first public nonce"
    let secondPoint ← publicKeyOf m (nonce.1.drop 33) "MuSig2 second public nonce"
    aggregateNoncesFrom (first.add m (.point firstPoint)) (second.add m (.point secondPoint)) nonces

def musig2AggregateNonces (publicNonces : List Bytes66) : Verified (AggregatePoint × AggregatePoint) :=
  aggregateNoncesFrom m .infinity .infinity publicNonces

/-- Two compressed keys as one array. -/
def noncePair (first second : Bytes33) : Bytes66 :=
  ⟨first.1 ++ second.1, by rw [List.length_append, first.2, second.2]⟩

def musig2AggregatePublicNonces (publicNonces : List Bytes66) : Verified Bytes66 :=
  if publicNonces = [] ∨ maxMusigKeys < publicNonces.length then .error (.bounds "MuSig2 public nonce count")
  else do
    let (first, second) ← musig2AggregateNonces m publicNonces
    return noncePair first.serializeExtended second.serializeExtended

/-- The nonce coefficient of a session and the nonce it combines, which may be infinity. -/
def musig2CombinedNonce (aggregateNonce : Bytes66) (key : Bytes32) (message : Bytes) :
    Verified (Bytes32 × AggregatePoint) := do
  let aggregateFirst ← aggregatePointFromExtended m (aggregateNonce.1.take 33)
  let aggregateSecond ← aggregatePointFromExtended m (aggregateNonce.1.drop 33)
  let nonceCoefficient ← scalarFromHash
    (taggedHash m.crypto "MuSig/noncecoef" (aggregateNonce.1 ++ key.1 ++ message))
  let weighted ← aggregateSecond.multiply m nonceCoefficient
  return (nonceCoefficient, aggregateFirst.add m weighted)

/-- The values of a session, from its aggregate nonce on. -/
def musig2SessionValuesFromAggregateNonce (keys : List Bytes33) (aggregateNonce : Bytes66)
    (tweaks : List Musig2Tweak) (message : Bytes) : Verified Musig2SessionValues :=
  if keys = [] ∨ maxMusigKeys < keys.length then .error (.bounds "MuSig2 participant count")
  else if maxMusigTweaks < tweaks.length then .error (.bounds "MuSig2 tweak count")
  else if maxMusigMessageBytes < message.length then .error (.bounds "MuSig2 message byte length")
  else do
    let keyContext ← musig2KeyContext m keys tweaks
    let (nonceCoefficient, combinedNonce) ← musig2CombinedNonce m aggregateNonce (xOnly keyContext.key) message
    let finalNonce ← combinedNonce.orGenerator m
    let challenge ← scalarFromHash (bip340Challenge m (xOnly finalNonce) (xOnly keyContext.key) message)
    return { keyContext, nonceCoefficient, finalNonce, challenge
             nonceOdd := keyParity finalNonce = .odd, keyOdd := keyParity keyContext.key = .odd }

def musig2SessionValues (keys : List Bytes33) (publicNonces : List Bytes66) (tweaks : List Musig2Tweak)
    (message : Bytes) : Verified Musig2SessionValues := do
  validateMusig2SessionBounds keys publicNonces tweaks message
  let aggregateNonce ← musig2AggregatePublicNonces m publicNonces
  musig2SessionValuesFromAggregateNonce m keys aggregateNonce tweaks message

/-! ## Nonces -/

structure Musig2SecretNonce where
  first : Bytes32
  second : Bytes32
  publicKey : Bytes33
  publicNonce : Bytes66
  consumed : Bool
deriving DecidableEq

structure ConsumedMusig2Nonce where
  first : Bytes32
  second : Bytes32
  publicKey : Bytes33

/-- `consume`: a nonce is handed out once and its secrets are erased. -/
def Musig2SecretNonce.consume (nonce : Musig2SecretNonce) : Verified ConsumedMusig2Nonce × Musig2SecretNonce :=
  if nonce.consumed then (.error (.invalid "MuSig2 secret nonce reuse"), nonce)
  else (.ok ⟨nonce.first, nonce.second, nonce.publicKey⟩,
    { nonce with first := scalarZero, second := scalarZero, publicKey := ⟨List.replicate 33 0, length_zeroKey⟩, consumed := true })

def musig2NonceScalar (input : Bytes) (index : UInt8) : Verified Bytes32 :=
  match secretKeyOf (scalarBytesFromHash (taggedHash m.crypto "MuSig/nonce" (input ++ [index]))) with
  | some secret => .ok secret
  | none => .error (.crypto "MuSig2 nonce generation produced zero")

/-- The input of the two nonce hashes. -/
def musig2NonceInput (secretKey : Bytes32) (aggregateKey : Bytes32) (message extraInput : Bytes) (randomness :
    Bytes32) :
    Bytes :=
  let auxiliary := taggedHash m.crypto "MuSig/aux" randomness.1
  List.zipWith (· ^^^ ·) secretKey.1 auxiliary.1 ++ 33 :: (m.fromSecretKey secretKey).1 ++ 32 :: aggregateKey.1 ++
    1 :: beBytes message.length 8 ++ message ++ beBytes extraInput.length 4 ++ extraInput

def musig2NonceGen (secretKey aggregateKey : Bytes32) (message extraInput : Bytes) (randomness : Bytes32) :
    Verified Musig2SecretNonce :=
  if maxMusigMessageBytes < message.length then .error (.bounds "MuSig2 message byte length")
  else if maxMusigExtraInputBytes < extraInput.length then .error (.bounds "MuSig2 extra input byte length")
  else do
    let input := musig2NonceInput m secretKey aggregateKey message extraInput randomness
    let first ← musig2NonceScalar m input 0
    let second ← musig2NonceScalar m input 1
    return { first, second, publicKey := m.fromSecretKey secretKey
             publicNonce := noncePair (m.fromSecretKey first) (m.fromSecretKey second), consumed := false }

/-! ## Partial signatures -/

def musig2EffectiveSignerNonce (publicNonce : Bytes66) (nonceCoefficient : Bytes32) (aggregateNonceOdd : Bool) :
    Verified AggregatePoint := do
  let first ← publicKeyOf m (publicNonce.1.take 33) "MuSig2 first public nonce"
  let second ← publicKeyOf m (publicNonce.1.drop 33) "MuSig2 second public nonce"
  let weighted ← (AggregatePoint.point second).multiply m nonceCoefficient
  let nonce := (AggregatePoint.point first).add m weighted
  return if aggregateNonceOdd then nonce.negate m else nonce

/-- `verify_musig2_partial_signature_with_aggregate_nonce`, from the signer's key on. -/
def verifyPartialOf (session : Musig2SessionValues) (keys : List Bytes33) (signerKey : Bytes33)
    (signerPublicNonce : Bytes66) (partialSignature : Bytes32) : Verified Unit := do
  let signerNonce ← musig2EffectiveSignerNonce m signerPublicNonce session.nonceCoefficient session.nonceOdd
  let coefficient ← musig2CoefficientIn m keys signerKey
  let weighted ← (AggregatePoint.point signerKey).multiply m coefficient
  let challenged ← weighted.multiply m session.challenge
  let signerPoint := if xor session.keyOdd session.keyContext.gaccNegative then challenged.negate m else challenged
  let supplied ← pointFromScalar m partialSignature
  if supplied = signerNonce.add m signerPoint then .ok ()
  else .error (.crypto "MuSig2 partial signature verification")

def verifyMusig2PartialSignatureWithAggregateNonce (keys : List Bytes33) (signerPublicNonce aggregateNonce : Bytes66)
    (tweaks : List Musig2Tweak) (signerIndex : Nat) (message : Bytes) (partialSignature : Bytes32) : Verified Unit :=
  match keys[signerIndex]? with
  | none => .error (.bounds "MuSig2 signer index")
  | some signerKey =>
    if maxMusigKeys < keys.length then .error (.bounds "MuSig2 signer index")
    else if maxMusigTweaks < tweaks.length ∨ maxMusigMessageBytes < message.length then
      .error (.bounds "MuSig2 session context")
    else if curveOrder ≤ bigEndian partialSignature.1 then .error (.crypto "MuSig2 partial signature scalar")
    else do
      let session ← musig2SessionValuesFromAggregateNonce m keys aggregateNonce tweaks message
      verifyPartialOf m session keys signerKey signerPublicNonce partialSignature

def verifyMusig2PartialSignatureWithTweaks (keys : List Bytes33) (publicNonces : List Bytes66)
    (tweaks : List Musig2Tweak) (signerIndex : Nat) (message : Bytes) (partialSignature : Bytes32) : Verified Unit := do
  validateMusig2SessionBounds keys publicNonces tweaks message
  match publicNonces[signerIndex]? with
  | none => .error (.bounds "MuSig2 signer index")
  | some signerPublicNonce =>
    if curveOrder ≤ bigEndian partialSignature.1 then .error (.crypto "MuSig2 partial signature scalar")
    else do
      let aggregateNonce ← musig2AggregatePublicNonces m publicNonces
      verifyMusig2PartialSignatureWithAggregateNonce m keys signerPublicNonce aggregateNonce tweaks signerIndex
        message
        partialSignature

/-- `multiply_secret_term`: no term stands for zero. -/
def multiplySecretTerm (secret scalar : Bytes32) : Verified (Option Bytes32) :=
  if scalar = scalarZero then .ok none
  else
    match secretMulTweak secret scalar with
    | some product => .ok (some product)
    | none => .error (.crypto "MuSig2 secret scalar multiplication")

/-- `multiply_secret_term` on a term that may be zero. -/
def multiplyTerm (term : Option Bytes32) (scalar : Bytes32) : Verified (Option Bytes32) :=
  match term with
  | some secret => multiplySecretTerm secret scalar
  | none => .ok none

/-- `add_secret_terms`, which never fails. -/
def addSecretTerms : Option Bytes32 → Option Bytes32 → Option Bytes32
  | none, right => right
  | left, none => left
  | some left, some right => secretAddTweak left right

/-- The scalar of a partial signature, from the secrets of a signer. -/
def musig2PartialScalar (session : Musig2SessionValues) (keys : List Bytes33) (signerKey : Bytes33)
    (first second secretKey : Bytes32) : Verified Bytes32 := do
  let effectiveFirst := if session.nonceOdd then secretNegate first else first
  let effectiveSecond := if session.nonceOdd then secretNegate second else second
  let secondTerm ← multiplySecretTerm effectiveSecond session.nonceCoefficient
  let nonceTerm := addSecretTerms (some effectiveFirst) secondTerm
  let coefficient ← musig2CoefficientIn m keys signerKey
  let signingKey := if xor session.keyOdd session.keyContext.gaccNegative then secretNegate secretKey else secretKey
  let coefficientTerm ← multiplySecretTerm signingKey coefficient
  let keyTerm ← multiplyTerm coefficientTerm session.challenge
  return (addSecretTerms nonceTerm keyTerm).getD scalarZero

/-- `musig2_partial_sign_with_aggregate_nonce` behind the nonce it has consumed. -/
def musig2SignConsumed (consumed : ConsumedMusig2Nonce) (publicNonce : Bytes66) (secretKey : Bytes32)
    (keys : List Bytes33) (signerIndex : Nat) (signerPublicNonce aggregateNonce : Bytes66) (tweaks : List Musig2Tweak)
    (message : Bytes) : Verified Bytes32 :=
  let publicKey := m.fromSecretKey secretKey
  if publicKey ≠ consumed.publicKey then .error (.invalid "MuSig2 nonce key changed before signing")
  else if keys[signerIndex]? ≠ some publicKey then .error (.invalid "MuSig2 signer is not a participant")
  else if signerPublicNonce ≠ publicNonce then .error (.invalid "MuSig2 signer public nonce mismatch")
  else do
    let session ← musig2SessionValuesFromAggregateNonce m keys aggregateNonce tweaks message
    match secretKeyOf consumed.first, secretKeyOf consumed.second with
    | none, _ => .error (.crypto "MuSig2 first secret nonce")
    | _, none => .error (.crypto "MuSig2 second secret nonce")
    | some first, some second => do
      let scalar ← musig2PartialScalar m session keys publicKey first second secretKey
      verifyMusig2PartialSignatureWithAggregateNonce m keys signerPublicNonce aggregateNonce tweaks signerIndex
        message
        scalar
      return scalar

def musig2PartialSignWithAggregateNonce (secretNonce : Musig2SecretNonce) (secretKey : Bytes32) (keys : List Bytes33)
    (signerIndex : Nat) (signerPublicNonce aggregateNonce : Bytes66) (tweaks : List Musig2Tweak) (message : Bytes) :
    Verified Bytes32 × Musig2SecretNonce :=
  match secretNonce.consume with
  | (.error error, secretNonce) => (.error error, secretNonce)
  | (.ok consumed, secretNonce) =>
    (musig2SignConsumed m consumed secretNonce.publicNonce secretKey keys signerIndex signerPublicNonce aggregateNonce
      tweaks message, secretNonce)

/-- `musig2_partial_sign`: the first failing check before the nonce is consumed leaves it as it was. -/
def musig2PartialSign (secretNonce : Musig2SecretNonce) (secretKey : Bytes32) (keys : List Bytes33)
    (publicNonces : List Bytes66) (tweaks : List Musig2Tweak) (message : Bytes) :
    Verified Bytes32 × Musig2SecretNonce :=
  match validateMusig2SessionBounds keys publicNonces tweaks message with
  | .error error => (.error error, secretNonce)
  | .ok () =>
    match keys.findIdx? (· = m.fromSecretKey secretKey) with
    | none => (.error (.invalid "MuSig2 signer is not a participant"), secretNonce)
    | some signerIndex =>
      if publicNonces[signerIndex]? ≠ some secretNonce.publicNonce then
        (.error (.invalid "MuSig2 signer public nonce mismatch"), secretNonce)
      else
        match musig2AggregatePublicNonces m publicNonces with
        | .error error => (.error error, secretNonce)
        | .ok aggregateNonce =>
          musig2PartialSignWithAggregateNonce m secretNonce secretKey keys signerIndex secretNonce.publicNonce
            aggregateNonce tweaks message

/-! ## Assembly -/

def verifyMusig2Signature (aggregateKey : Bytes32) (message : Bytes) (signature : Bytes64) : Verified Unit :=
  if m.verifySchnorr signature message aggregateKey then .ok ()
  else .error (.crypto "MuSig2 aggregate signature")

/-- The verification loop of `musig2_aggregate_partial_signatures`. -/
def verifyPartials (keys : List Bytes33) (publicNonces : List Bytes66) (tweaks : List Musig2Tweak) (message : Bytes) :
    Nat → List Bytes32 → Verified Unit
  | _, [] => .ok ()
  | index, partialSignature :: rest => do
    verifyMusig2PartialSignatureWithTweaks m keys publicNonces tweaks index message partialSignature
    verifyPartials keys publicNonces tweaks message (index + 1) rest

/-- The summation loop of `musig2_aggregate_partial_signatures`. -/
def sumPartials : Bytes32 → List Bytes32 → Verified Bytes32
  | scalar, [] => .ok scalar
  | scalar, partialSignature :: rest =>
    if curveOrder ≤ bigEndian partialSignature.1 then .error (.crypto "MuSig2 partial signature scalar")
    else sumPartials (scalarAddMod scalar partialSignature) rest

/-- A nonce and a scalar as one array. -/
def signatureOf (nonce scalar : Bytes32) : Bytes64 :=
  ⟨nonce.1 ++ scalar.1, by rw [List.length_append, nonce.2, scalar.2]⟩

def musig2AggregatePartialSignatures (keys : List Bytes33) (publicNonces : List Bytes66) (tweaks : List Musig2Tweak)
    (message : Bytes) (partialSignatures : List Bytes32) : Verified Bytes64 := do
  validateMusig2SessionBounds keys publicNonces tweaks message
  if partialSignatures.length ≠ keys.length then .error (.bounds "MuSig2 partial signature count")
  else do
    verifyPartials m keys publicNonces tweaks message 0 partialSignatures
    let session ← musig2SessionValues m keys publicNonces tweaks message
    let sum ← sumPartials scalarZero partialSignatures
    let product ← scalarMultiplyPublic session.challenge session.keyContext.tacc
    let tweakTerm := if session.keyOdd then scalarNegateMod product else product
    let signature := signatureOf (xOnly session.finalNonce) (scalarAddMod sum tweakTerm)
    verifyMusig2Signature m (xOnly session.keyContext.key) message signature
    return signature

end Session

end Immortal.Bitcoin
