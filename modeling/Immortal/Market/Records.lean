import Immortal.Market.Wrap

/-!
# `Immortal.Market.Records` — signed market records and their canonical text

What the network and hardening validators of `mkt.rs` share: the code they call that is not modelled, the readers
of single tags and of marked references, and the canonical JSON text that content digests are taken over.
-/

namespace Immortal.Market

open Immortal.Domain Txn
open Client (Members Value lowerHex quoted utf8)

/-! ## Envelopes and the code outside the model -/

structure MktPrivateEnvelope where
  schema : String
  protocolRevision : Nat
  profileId : String
  profileVersion : Nat
  sessionId : String
  body : Members
deriving DecidableEq

def mktHardeningSchema : String := "openagents.mkt.v2"
def mktHardeningProtocolRevision : Nat := 2
def mktSwpProfileId : String := "mkt-swp"
def mktSwpProfileVersion : Nat := 1

def mktQuoteKind : Nat := 39605
def mktOrderKind : Nat := 39606
def mktStatusKind : Nat := 39607
def mktCloseKind : Nat := 39609
def mktSwpIntentAckKind : Nat := 39611
def mktSwpRedriveKind : Nat := 39612
def mktSwpSettlementReceiptKind : Nat := 39613
def mktSwpKeyRotationKind : Nat := 39614

/-- The functions the validators call and the model takes as they are. -/
structure MktEnv where
  /-- `Event::validate_crypto`: the id and the Schnorr signature. -/
  validateCrypto : Event → Except DomainError Unit
  /-- `Event::computed_id`. -/
  computedId : Event → Except DomainError String
  /-- `validate_mkt_private_with_profiles` for readers of MKT-SWP version 1 without critical members. -/
  validateMktPrivate : Event → Except MktValidationError MktPrivateEnvelope
  /-- `parse_unique_json`: the text and what it is called in an error. -/
  parseUniqueJson : String → String → Except String Value
  /-- `serde_json::to_string` of a JSON value. -/
  jsonText : Value → String
  /-- `Sha256::digest`. -/
  sha256 : Bytes → Bytes32

/-- `validate_structure().and_then(validate_crypto)`. -/
def MktEnv.validateSigned (env : MktEnv) (event : Event) : Except DomainError Unit := do
  event.validateStructure
  env.validateCrypto event

theorem MktEnv.validateSigned_eq_ok {env : MktEnv} {event : Event} :
    env.validateSigned event = .ok () ↔ event.validateStructure = .ok () ∧ env.validateCrypto event = .ok () := by
  simp [validateSigned, check_bind_eq_ok]

/-! ## Tags and values -/

def lowerHex32 (value subject : String) : Except String Unit :=
  if isLowerHex 32 value then .ok () else .error (subject ++ " must be 64 lowercase hexadecimal characters")

theorem lowerHex32_eq_ok {value subject : String} {u : Unit} :
    lowerHex32 value subject = .ok u ↔ isLowerHex 32 value = true := by
  unfold lowerHex32
  split <;> simp_all

/-- The tags of a name. -/
def named (event : Event) (name : String) : List Tag := event.tags.filter fun tag => tag.name = some name

/-- The tags that carry a marker in their fourth element. -/
def marked (event : Event) (marker : String) : List Tag := event.tags.filter fun tag => tag[3]? = some marker

/-- `single_value`: the value of the one tag of that name, which has exactly two elements. -/
def singleValue (event : Event) (name subject : String) : Except String String :=
  match named event name with
  | [[_, value]] => .ok value
  | _ => .error (subject ++ " requires exactly one two-element " ++ name ++ " tag")

/-- `canonical_decimal`. -/
def canonicalDecimal (value : String) (positive : Bool) (subject : String) : Except String Nat :=
  if value.toList = [] ∨ ¬ value.toList.all (fun c => (decimalDigit c).isSome) ∨
      (1 < value.toList.length ∧ value.toList.head? = some '0') then
    .error (subject ++ " must be a canonical decimal")
  else match parseUnsigned u64Max value with
    | none => .error (subject ++ " is out of range")
    | some number => if positive ∧ number = 0 then .error (subject ++ " must be positive") else .ok number

/-! ## Canonical text -/

/-- Names in the order of their bytes. -/
def byteLe (left right : String) : Prop := utf8 left ≤ utf8 right

instance : DecidableRel byteLe := fun left right => inferInstanceAs (Decidable (utf8 left ≤ utf8 right))

mutual

/-- `write_mkt_canonical_json`: no white space, members in byte order, nonnegative integers only. -/
def writeMktCanonicalJson : Value → Except String Bytes
  | .null => .ok (utf8 "null")
  | .bool true => .ok (utf8 "true")
  | .bool false => .ok (utf8 "false")
  | .string value => .ok (quoted value)
  | .integer value =>
    if 0 ≤ value ∧ value < 2 ^ 64 then .ok (utf8 (toString value))
    else .error "mkt_receipt_noncanonical: only non-negative integers are admitted"
  | .float _ => .error "mkt_receipt_noncanonical: only non-negative integers are admitted"
  | .array items => do
    let items ← writeMktCanonicalItems items
    return [91] ++ List.intercalate [44] items ++ [93]
  | .object members => do
    let members ← writeMktCanonicalMembers members
    -- the members are written in order; the only error is the same for each of them
    let sorted := members.insertionSort fun left right => byteLe left.1 right.1
    let written := sorted.map fun member => quoted member.1 ++ [58] ++ member.2
    return [123] ++ List.intercalate [44] written ++ [125]

def writeMktCanonicalItems : List Value → Except String (List Bytes)
  | [] => .ok []
  | item :: items => do
    let item ← writeMktCanonicalJson item
    let items ← writeMktCanonicalItems items
    return item :: items

def writeMktCanonicalMembers : List (String × Value) → Except String (List (String × Bytes))
  | [] => .ok []
  | (name, value) :: members => do
    let value ← writeMktCanonicalJson value
    let members ← writeMktCanonicalMembers members
    return (name, value) :: members

end

/-- `String::from_utf8(canonical)`, with the message for text that is not UTF-8. -/
def canonicalText (value : Value) (message : String) : Except String String := do
  let canonical ← writeMktCanonicalJson value
  match textOfBytes canonical with
  | some text => .ok text
  | none => .error message

theorem canonicalText_eq_ok {value : Value} {message text : String}
    (h : writeMktCanonicalJson value = .ok (utf8 text)) : canonicalText value message = .ok text := by
  have htext : textOfBytes (utf8 text) = some text := by
    have hdata : (⟨text.toUTF8.data.toList.toArray⟩ : ByteArray) = text.toUTF8 := by simp
    simp only [textOfBytes, utf8, String.fromUTF8?, hdata]
    rw [dif_pos (show text.toUTF8.IsValidUTF8 from text.isValidUTF8)]
    rfl
  simp only [canonicalText, h, htext, bind, Except.bind]

/-- The digest of an object's canonical text without the member that carries the digest. -/
def MktEnv.contentId (env : MktEnv) (members : Members) (idMember : String) : Except String String := do
  let canonical ← writeMktCanonicalJson (.object (members.remove idMember))
  return lowerHex (env.sha256 canonical).1

end Immortal.Market
