import Immortal.Domain.Expanded
import Immortal.Market.Nip44

/-!
# `Immortal.Market.Wrap` — gift wraps around signed market records

`market` of `immortal-core`: a signed private record travels as the content of an unsigned rumor, encrypted into a seal
of its sender, encrypted into a gift wrap of a one-time key. Unwrapping takes the three envelopes apart again and holds
their identities against each other.

Text encoding of events and rumors is `serde_json`, signatures and key agreement are `secp256k1`, and the validation of
a record's envelope against the supported profiles is the whole profile grammar of `mkt.rs`: these are the fields of
`WrapEnv`. NIP-44 is the model of `Immortal.Market.Nip44`.
-/

namespace Immortal.Market

open Bitcoin Domain
open Client (utf8 lowerHex isLowerHexByte Value)

/-! ## Parameters -/

structure Rumor where
  id : String
  pubkey : String
  createdAt : Nat
  kind : Nat
  tags : List Tag
  content : String
deriving DecidableEq, Repr

inductive MktValidationCode where
  | eventTooLarge
  | invalidJson
  | duplicateJsonMember
  | invalidEventShape
  | invalidEventStructure
  | invalidEventSignature
  | invalidKind
  | collectionLimit
  | tagGrammar
  | invalidIdentifier
  | invalidReference
  | envelopeMismatch
  | unsupportedProfile
  | unsupportedProfileVersion
  | unsupportedCriticalMember
deriving DecidableEq, Repr

/-- `as_str`. -/
def MktValidationCode.text : MktValidationCode → String
  | .eventTooLarge => "event_too_large"
  | .invalidJson => "invalid_json"
  | .duplicateJsonMember => "duplicate_json_member"
  | .invalidEventShape => "invalid_event_shape"
  | .invalidEventStructure => "invalid_event_structure"
  | .invalidEventSignature => "invalid_event_signature"
  | .invalidKind => "invalid_kind"
  | .collectionLimit => "collection_limit"
  | .tagGrammar => "tag_grammar"
  | .invalidIdentifier => "invalid_identifier"
  | .invalidReference => "invalid_reference"
  | .envelopeMismatch => "envelope_mismatch"
  | .unsupportedProfile => "unsupported_profile"
  | .unsupportedProfileVersion => "unsupported_profile_version"
  | .unsupportedCriticalMember => "unsupported_critical_member"

structure MktValidationError where
  code : MktValidationCode
  detail : String
deriving DecidableEq, Repr

/-- `Display`. -/
def MktValidationError.display (error : MktValidationError) : String := error.code.text ++ ": " ++ error.detail

/-- What wrapping takes from other crates and from the profile grammar. `Secret` is a secret key, `Profiles` the
    supported profiles and `Envelope` what the grammar reads off a record. -/
structure WrapEnv (Secret Profiles Envelope : Type) where
  /-- `serde_json::from_slice::<Event>`. -/
  eventOfBytes : Bytes → Except String Event
  /-- `serde_json::from_str::<Event>`. -/
  eventOfText : String → Except String Event
  /-- `serde_json::to_string` of an event. -/
  eventText : Event → String
  /-- `serde_json::from_str::<Rumor>`. -/
  rumorOfText : String → Except String Rumor
  /-- `serde_json::to_string` of a rumor. -/
  rumorText : Rumor → String
  /-- `parse_unique_json`: the text and what it is called in an error. -/
  parseUniqueJson : String → String → Except String Value
  /-- `classify_syntax_error`. -/
  classifySyntaxError : String → MktValidationError
  /-- `serde_json::from_value::<Event>`. -/
  eventOfValue : Value → Except String Event
  /-- `Event::computed_id`. -/
  computedId : Event → Except DomainError String
  /-- `Event::validate_crypto`: the id and the Schnorr signature. -/
  validateCrypto : Event → Except DomainError Unit
  /-- `validate_mkt_private_with_profiles`. -/
  validateMktPrivateWithProfiles : Event → Profiles → Except MktValidationError Envelope
  /-- The hex public key of a secret key. -/
  pubkey : Secret → String
  /-- `SecretKey::from_byte_array` and `RelaySigner::from_secret_hex`. -/
  secretOfBytes : Bytes32 → Except String Secret
  /-- `RelaySigner::sign`. -/
  sign : Secret → Nat → Nat → List Tag → String → Event
  /-- `MarketSigner::conversation_key`. -/
  conversationKey : Secret → String → Except String Bytes32
  /-- `Sha256::digest`. -/
  sha256 : Bytes → Bytes32

section Wrapping

variable {Secret Profiles Envelope : Type} (m : WrapEnv Secret Profiles Envelope)

/-- The values of the source's `u64` and `u16` fields. -/
def TypedEvent (event : Event) : Prop := event.createdAt ≤ u64Max ∧ event.kind ≤ u16Max

/-! ## Records -/

structure MktValidatedPrivateRecord (Envelope : Type) where
  rawSignedEvent : Bytes
  event : Event
  envelope : Envelope

def mktMaxPrivateEventBytes : Nat := 32 * 1024

/-- `MktValidationError` around another error, with the text before it. -/
def validated {ε α : Type} (result : Except ε α) (code : MktValidationCode) (detail : ε → String) :
    Except MktValidationError α :=
  result.mapError fun error => ⟨code, detail error⟩

def eventFields : List String := ["id", "pubkey", "created_at", "kind", "tags", "content", "sig"]

/-- A record is an object with no other members than those of an event. -/
def requireEventMembers (value : Value) : Except MktValidationError Unit :=
  match value.asObject with
  | none => .error ⟨.invalidEventShape, "private MKT signed record must be an event object"⟩
  | some fields =>
    match (fields.map (·.1)).find? fun name => name ∉ eventFields with
    | some name =>
      .error ⟨.invalidEventShape, "private MKT signed record has unknown event member " ++ name.quote⟩
    | none => .ok ()

def validateMktPrivateRaw (rawEvent : Bytes) (supportedProfiles : Profiles) :
    Except MktValidationError (MktValidatedPrivateRecord Envelope) :=
  if mktMaxPrivateEventBytes < rawEvent.length then
    .error ⟨.eventTooLarge, "private MKT signed record exceeds " ++ toString mktMaxPrivateEventBytes ++ " raw bytes"⟩
  else
    match textOfBytes rawEvent with
    | none => .error ⟨.invalidJson, "private MKT signed record is not UTF-8"⟩
    | some rawText => do
      let value ← (m.parseUniqueJson rawText "private MKT signed record").mapError m.classifySyntaxError
      requireEventMembers value
      let event ← validated (m.eventOfValue value) .invalidEventShape
        ("private MKT signed record has invalid event shape: " ++ ·)
      validated event.validateStructure .invalidEventStructure
        ("private MKT signed record structure is invalid: " ++ ·.display)
      validated (m.validateCrypto event) .invalidEventSignature
        ("private MKT signed record signature is invalid: " ++ ·.display)
      let envelope ← m.validateMktPrivateWithProfiles event supportedProfiles
      return { rawSignedEvent := rawEvent, event, envelope }

/-! ## Wrapping -/

/-- `map_err(|error| format!(..))`. -/
def explained {ε α : Type} (result : Except ε α) (explain : ε → String) : Except String α := result.mapError explain

/-- `if condition { return Err(..) }`. -/
def failIf (condition : Prop) [Decidable condition] (message : String) : Except String Unit :=
  if condition then .error message else .ok ()

def isLowerHex32 (value : String) : Bool := (utf8 value).length = 64 && (utf8 value).all isLowerHexByte

/-- `decode_hex_32`, whose bytes are not used where it is called here. -/
def decodeHex32 (value : String) : Except String Unit :=
  failIf (isLowerHex32 value = false) "market public key must be 64 lowercase hexadecimal characters"

/-- `validate_structure().and_then(validate_crypto)`. -/
def validateSigned (event : Event) : Except DomainError Unit := do
  event.validateStructure
  m.validateCrypto event

structure MarketEventSigningRequest where
  pubkey : String
  createdAt : Nat
  kind : Nat
  tags : List Tag
  content : String
deriving DecidableEq, Repr

/-- `verify_signed`: the signer returned the event it was asked for, and signed it. -/
def MarketEventSigningRequest.verifySigned (request : MarketEventSigningRequest) (event : Event) :
    Except String Event := do
  failIf (event.pubkey ≠ request.pubkey ∨ event.createdAt ≠ request.createdAt ∨ event.kind ≠ request.kind ∨
    event.tags ≠ request.tags ∨ event.content ≠ request.content) "external signer changed the requested market event"
  explained (validateSigned m event) ("external market signature is invalid: " ++ ·.display)
  return event

structure Nip44EncryptRequest where
  actorPubkey : String
  peerPubkey : String
  plaintext : String
  nonce : Bytes32

/-- `WrapMaterial`; the time of the seal is a `u64`. -/
structure WrapMaterial where
  sealCreatedAt : Nat
  wrapCreatedAt : Nat
  rumorIdentifier : Bytes32
  sealNonce : Bytes32
  wrapNonce : Bytes32
  wrapSecret : Bytes32
  sealTyped : sealCreatedAt ≤ u64Max

structure WrappedMktRecord where
  event : Event
  innerEventId : String

def rumorId (rumor : Rumor) : Except String String :=
  explained (m.computedId
    { id := "", pubkey := rumor.pubkey, createdAt := rumor.createdAt, kind := rumor.kind, tags := rumor.tags,
      content := rumor.content, sig := "" }) ("failed to compute rumor ID: " ++ ·.display)

/-- What the crates promise: a signed event and a rumor with its id are read back from their texts, the two readers
    of a record agree, and key agreement is symmetric. -/
structure WrapEnv.Lawful : Prop where
  event_read_back : ∀ event, TypedEvent event → validateSigned m event = .ok () →
    m.eventOfText (m.eventText event) = .ok event
  rumor_read_back : ∀ rumor : Rumor, rumor.createdAt ≤ u64Max → rumor.kind ≤ u16Max →
    rumorId m rumor = .ok rumor.id → m.rumorOfText (m.rumorText rumor) = .ok rumor
  event_typed : ∀ raw event, m.eventOfBytes raw = .ok event → TypedEvent event
  readers_agree : ∀ raw text subject value event event', textOfBytes raw = some text →
    m.parseUniqueJson text subject = .ok value → m.eventOfValue value = .ok event →
    m.eventOfBytes raw = .ok event' → event = event'
  conversation_symmetric : ∀ secret peer, m.conversationKey secret (m.pubkey peer) =
    m.conversationKey peer (m.pubkey secret)

def sealKind : Nat := 13

def giftWrapKind : Nat := 1059

/-- The rumor of a record, before its id. -/
def recordRumor (inner : Event) (senderPubkey recipient raw : String) (rumorIdentifier : Bytes32) : Rumor :=
  { id := "", pubkey := senderPubkey, createdAt := inner.createdAt, kind := inner.kind
    tags := [["p", recipient], ["d", lowerHex rumorIdentifier.1]], content := raw }

def wrapMktRecordWithCallbacks (rawSignedEvent : Bytes) (senderPubkey recipient wrapperPubkey : String)
    (material : WrapMaterial) (signEvent : MarketEventSigningRequest → Except String Event)
    (encryptText : Nip44EncryptRequest → Except String String) : Except String WrappedMktRecord := do
  let inner ← explained (m.eventOfBytes rawSignedEvent) ("private MKT record is not an event: " ++ ·)
  explained (validateSigned m inner) ("private MKT record is invalid: " ++ ·.display)
  failIf (isMktPrivateKind inner.kind = false) "only private NIP-MKT records may be gift-wrapped"
  failIf (inner.pubkey ≠ senderPubkey) "private MKT record signer does not match wrapping sender"
  decodeHex32 recipient
  decodeHex32 senderPubkey
  decodeHex32 wrapperPubkey
  failIf (wrapperPubkey = senderPubkey) "gift-wrap key must be distinct from the sender key"
  let raw ← ((textOfBytes rawSignedEvent).elim (.error "private MKT record is not UTF-8") .ok : Except String String)
  let rumor := recordRumor inner senderPubkey recipient raw material.rumorIdentifier
  let id ← rumorId m rumor
  let sealedContent ← encryptText ⟨senderPubkey, recipient, m.rumorText { rumor with id }, material.sealNonce⟩
  let sealRequest : MarketEventSigningRequest := ⟨senderPubkey, material.sealCreatedAt, sealKind, [], sealedContent⟩
  let sealSigned ← signEvent sealRequest
  let sealEvent ← sealRequest.verifySigned m sealSigned
  let wrapContent ← encryptText ⟨wrapperPubkey, recipient, m.eventText sealEvent, material.wrapNonce⟩
  let wrapRequest : MarketEventSigningRequest :=
    ⟨wrapperPubkey, material.wrapCreatedAt, giftWrapKind, [["p", recipient]], wrapContent⟩
  let wrapSigned ← signEvent wrapRequest
  let event ← wrapRequest.verifySigned m wrapSigned
  return { event, innerEventId := inner.id }

/-- Which of the two signers a request names. -/
def signerOf (sender oneTime : Secret) (pubkey message : String) : Except String Secret :=
  if pubkey = m.pubkey sender then .ok sender
  else if pubkey = m.pubkey oneTime then .ok oneTime
  else .error message

def wrapMktRecord (rawSignedEvent : Bytes) (sender : Secret) (recipient : String) (material : WrapMaterial) :
    Except String WrappedMktRecord := do
  let oneTime ← m.secretOfBytes material.wrapSecret
  wrapMktRecordWithCallbacks m rawSignedEvent (m.pubkey sender) recipient (m.pubkey oneTime) material
    (fun request => do
      let signer ← signerOf m sender oneTime request.pubkey "market signing request names an unknown key"
      return m.sign signer request.createdAt request.kind request.tags request.content)
    (fun request => do
      let signer ← signerOf m sender oneTime request.actorPubkey "NIP-44 request names an unknown market key"
      let key ← m.conversationKey signer request.peerPubkey
      encrypt m.sha256 request.plaintext key request.nonce)

/-! ## Unwrapping -/

structure Nip44DecryptRequest where
  recipientPubkey : String
  peerPubkey : String
  ciphertext : String

structure DeliveredMktRecord (Envelope : Type) where
  wrapEventId : String
  sender : String
  record : MktValidatedPrivateRecord Envelope
  rawWrapEvent : Option Bytes

def requireRecipient (event : Event) (recipient layer : String) : Except String Unit :=
  failIf (¬ (event.tagValues "p" = [recipient] ∧ event.tags.length = 1))
    (layer ++ " must contain exactly one recipient tag")

def oneRecipientTag : String := "gift wrap rumor must contain exactly one recipient tag"

def requireRumorRecipient (rumor : Rumor) (recipient : String) : Except String Unit :=
  failIf (rumor.tags.filter (fun tag => tag.head? = some "p") ≠ [["p", recipient]]) oneRecipientTag

def unwrapRumorWithCallback (wrap : Event) (recipientPubkey : String)
    (decryptText : Nip44DecryptRequest → Except String String) : Except String Rumor := do
  explained (validateSigned m wrap) ("gift wrap is invalid: " ++ ·.display)
  failIf (wrap.kind ≠ giftWrapKind) "wrapped MKT record must use kind 1059"
  decodeHex32 recipientPubkey
  requireRecipient wrap recipientPubkey "gift wrap"
  let sealJson ← decryptText ⟨recipientPubkey, wrap.pubkey, wrap.content⟩
  let sealEvent ← explained (m.eventOfText sealJson) ("gift wrap seal is not an event: " ++ ·)
  explained (validateSigned m sealEvent) ("gift wrap seal is invalid: " ++ ·.display)
  failIf (sealEvent.kind ≠ sealKind ∨ sealEvent.tags ≠ []) "gift wrap seal must be kind 13 with no tags"
  let rumorJson ← decryptText ⟨recipientPubkey, sealEvent.pubkey, sealEvent.content⟩
  let rumor ← explained (m.rumorOfText rumorJson) ("gift wrap rumor is invalid: " ++ ·)
  let id ← rumorId m rumor
  failIf (rumor.id ≠ id) "gift wrap rumor ID is invalid"
  failIf (rumor.pubkey ≠ sealEvent.pubkey) "gift wrap rumor author does not match the seal signer"
  requireRumorRecipient rumor recipientPubkey
  return rumor

def oneIdentifierTag : String :=
  "gift wrap rumor must contain exactly one 32-byte lowercase-hex identifier tag"

/-- The loop of `require_mkt_rumor_bindings` over the tags, with its two flags. -/
def rumorBindings (recipient : String) (foundRecipient foundIdentifier : Bool) :
    List Tag → Except String (Bool × Bool)
  | [] => .ok (foundRecipient, foundIdentifier)
  | tag :: tags =>
    if tag = ["p", recipient] ∧ foundRecipient = false then rumorBindings recipient true foundIdentifier tags
    else if tag.length = 2 ∧ tag.head? = some "d" ∧ isLowerHex32 (tag.getD 1 "") ∧ foundIdentifier = false then
      rumorBindings recipient foundRecipient true tags
    else if tag.head? = some "p" then .error oneRecipientTag
    else if tag.head? = some "d" then .error oneIdentifierTag
    else .error "gift wrap rumor contains an unsupported tag"

def requireMktRumorBindings (rumor : Rumor) (recipient : String) : Except String Unit := do
  failIf (rumor.tags.length ≠ 2) "gift wrap rumor must contain exactly one recipient tag and one identifier tag"
  let (foundRecipient, foundIdentifier) ← rumorBindings recipient false false rumor.tags
  failIf (foundRecipient = false) oneRecipientTag
  failIf (foundIdentifier = false) oneIdentifierTag

def validateRumorRecord (wrap : Event) (rumor : Rumor) (supportedProfiles : Profiles) :
    Except String (DeliveredMktRecord Envelope) := do
  let record ← explained (validateMktPrivateRaw m (utf8 rumor.content) supportedProfiles)
    ("wrapped private MKT record is invalid: " ++ ·.display)
  failIf (record.event.pubkey ≠ rumor.pubkey ∨ record.event.kind ≠ rumor.kind ∨
    record.event.createdAt ≠ rumor.createdAt) "wrapped private MKT record does not match its rumor"
  return { wrapEventId := wrap.id, sender := rumor.pubkey, record, rawWrapEvent := none }

def unwrapMktRecordWithCallback (wrap : Event) (recipientPubkey : String) (supportedProfiles : Profiles)
    (decryptText : Nip44DecryptRequest → Except String String) : Except String (DeliveredMktRecord Envelope) := do
  let rumor ← unwrapRumorWithCallback m wrap recipientPubkey decryptText
  requireMktRumorBindings rumor recipientPubkey
  validateRumorRecord m wrap rumor supportedProfiles

/-- The decryption callback of a recipient. -/
def decryptAs (recipient : Secret) (request : Nip44DecryptRequest) : Except String String := do
  let key ← m.conversationKey recipient request.peerPubkey
  decrypt m.sha256 request.ciphertext key

def unwrapMktRecord (wrap : Event) (recipient : Secret) (supportedProfiles : Profiles) :
    Except String (DeliveredMktRecord Envelope) :=
  unwrapMktRecordWithCallback m wrap (m.pubkey recipient) supportedProfiles (decryptAs m recipient)

end Wrapping

/-! ## Inversion -/

theorem explained_eq_ok {ε α : Type} {result : Except ε α} {explain : ε → String} {a : α} :
    explained result explain = .ok a ↔ result = .ok a := Txn.mapError_eq_ok

theorem failIf_eq_ok {condition : Prop} [Decidable condition] {message : String} {u : Unit} :
    failIf condition message = .ok u ↔ ¬ condition := by
  unfold failIf
  split
  · rename_i h
    simp [h]
  · rename_i h
    simp [h]

/-- The hexadecimal text of 32 bytes passes the check of identifiers. -/
theorem isLowerHex32_lowerHex (bytes : Bytes32) : isLowerHex32 (lowerHex bytes.1) = true := by
  have hdigit : ∀ n < 16, ∃ byte, String.utf8EncodeChar (Nat.digitChar n) = [byte] ∧ isLowerHexByte byte = true := by
    intro n hn
    have hall : ∀ n < 16, String.utf8EncodeChar (Nat.digitChar n) =
        [((String.utf8EncodeChar (Nat.digitChar n)).headD 0)] ∧
        isLowerHexByte ((String.utf8EncodeChar (Nat.digitChar n)).headD 0) = true := by
      decide +kernel
    exact ⟨_, hall n hn⟩
  have hbytes : ∀ bytes : Bytes, (utf8 (lowerHex bytes)).length = 2 * bytes.length ∧
      (utf8 (lowerHex bytes)).all isLowerHexByte = true := by
    intro bytes
    have hencode : utf8 (lowerHex bytes) = bytes.flatMap fun byte =>
        String.utf8EncodeChar (Nat.digitChar (byte.toNat / 16)) ++
          String.utf8EncodeChar (Nat.digitChar (byte.toNat % 16)) := by
      simp [utf8, lowerHex, List.utf8Encode, List.flatMap_assoc]
    rw [hencode]
    clear hencode
    induction bytes with
    | nil => exact ⟨rfl, rfl⟩
    | cons byte bytes ih =>
      have hlt : byte.toNat < 256 := byte.toNat_lt
      obtain ⟨high, hhigh, hhigh'⟩ := hdigit (byte.toNat / 16) (by omega)
      obtain ⟨low, hlow, hlow'⟩ := hdigit (byte.toNat % 16) (by omega)
      rw [List.flatMap_cons, hhigh, hlow, List.all_append, ih.2]
      refine ⟨?_, by simp [hhigh', hlow']⟩
      simp only [List.length_append, List.length_cons, List.length_nil]
      omega
  obtain ⟨hlength, hall⟩ := hbytes bytes.1
  rw [bytes.2] at hlength
  simp [isLowerHex32, hlength, hall]

theorem textOfBytes_eq_some {bytes : Bytes} {text : String} (h : textOfBytes bytes = some text) : utf8 text = bytes := by
  unfold textOfBytes String.fromUTF8? at h
  split at h
  · cases h
    rfl
  · cases h

section Inversion

variable {Secret Profiles Envelope : Type} {m : WrapEnv Secret Profiles Envelope}

/-- What an accepted record is. -/
theorem validateMktPrivateRaw_ok {raw : Bytes} {profiles : Profiles} {record : MktValidatedPrivateRecord Envelope}
    (h : validateMktPrivateRaw m raw profiles = .ok record) :
    record.rawSignedEvent = raw ∧ m.validateCrypto record.event = .ok () ∧
      ∃ text value, textOfBytes raw = some text ∧
        m.parseUniqueJson text "private MKT signed record" = .ok value ∧ m.eventOfValue value = .ok record.event := by
  unfold validateMktPrivateRaw at h
  split at h
  · cases h
  split at h
  · cases h
  rename_i text htext
  simp only [Txn.bind_eq_ok, Txn.mapError_eq_ok, validated] at h
  obtain ⟨value, hvalue, _, -, event, hevent, _, -, _, hcrypto, envelope, -, hrecord⟩ := h
  cases hrecord
  exact ⟨rfl, hcrypto, text, value, htext, hvalue, hevent⟩

theorem verifySigned_eq_ok {request : MarketEventSigningRequest} {signed event : Event} :
    request.verifySigned m signed = .ok event ↔
      event = signed ∧ validateSigned m signed = .ok () ∧ signed.pubkey = request.pubkey ∧
        signed.createdAt = request.createdAt ∧ signed.kind = request.kind ∧ signed.tags = request.tags ∧
        signed.content = request.content := by
  unfold MarketEventSigningRequest.verifySigned
  simp only [Txn.check_bind_eq_ok, failIf_eq_ok, explained_eq_ok, Txn.pure_eq_ok, not_or, not_not]
  constructor
  · rintro ⟨hfields, hsigned, rfl⟩
    exact ⟨rfl, hsigned, hfields⟩
  · rintro ⟨rfl, hsigned, hfields⟩
    exact ⟨hfields, hsigned, rfl⟩

/-- What unwrapping a rumor establishes about the envelopes. -/
structure Opened (m : WrapEnv Secret Profiles Envelope) (wrap : Event) (recipient : String)
    (decryptText : Nip44DecryptRequest → Except String String) (sealEvent : Event) (rumor : Rumor) : Prop where
  wrapSigned : validateSigned m wrap = .ok ()
  wrapKind : wrap.kind = giftWrapKind
  recipientKey : isLowerHex32 recipient = true
  recipientTag : wrap.tagValues "p" = [recipient] ∧ wrap.tags.length = 1
  sealText : ∃ text, decryptText ⟨recipient, wrap.pubkey, wrap.content⟩ = .ok text ∧ m.eventOfText text = .ok sealEvent
  sealSigned : validateSigned m sealEvent = .ok ()
  sealShape : sealEvent.kind = sealKind ∧ sealEvent.tags = []
  rumorText : ∃ text, decryptText ⟨recipient, sealEvent.pubkey, sealEvent.content⟩ = .ok text ∧
    m.rumorOfText text = .ok rumor
  rumorIdentity : rumorId m rumor = .ok rumor.id
  author : rumor.pubkey = sealEvent.pubkey
  rumorRecipient : rumor.tags.filter (fun tag => tag.head? = some "p") = [["p", recipient]]

/-- **Unwrapping a rumor, inverted.** -/
theorem unwrapRumor_eq_ok {wrap : Event} {recipient : String}
    {decryptText : Nip44DecryptRequest → Except String String} {rumor : Rumor} :
    unwrapRumorWithCallback m wrap recipient decryptText = .ok rumor ↔
      ∃ sealEvent, Opened m wrap recipient decryptText sealEvent rumor := by
  unfold unwrapRumorWithCallback requireRecipient requireRumorRecipient decodeHex32
  simp only [Txn.bind_eq_ok, explained_eq_ok, failIf_eq_ok, not_or, not_not, Txn.pure_eq_ok]
  constructor
  · rintro ⟨_, hwrap, _, hkind, _, hkey, _, htag, sealText, hsealText, sealEvent, hseal, _, hsigned, _, hshape,
      rumorText, hrumorText, rumor', hrumor, id, hid, _, hidentity, _, hauthor, _, hrecipient, rfl⟩
    refine ⟨sealEvent, hwrap, hkind, by simpa using hkey, htag, ⟨sealText, hsealText, hseal⟩, hsigned, hshape,
      ⟨rumorText, hrumorText, hrumor⟩, ?_, hauthor, hrecipient⟩
    rw [hidentity]
    exact hid
  · rintro ⟨sealEvent, hwrap, hkind, hkey, htag, ⟨sealText, hsealText, hseal⟩, hsigned, hshape,
      ⟨rumorText, hrumorText, hrumor⟩, hid, hauthor, hrecipient⟩
    exact ⟨(), hwrap, (), hkind, (), by simpa using hkey, (), htag, sealText, hsealText, sealEvent, hseal, (), hsigned,
      (), hshape, rumorText, hrumorText, rumor, hrumor, rumor.id, hid, (), rfl, (), hauthor, (), hrecipient, rfl⟩

end Inversion

/-! ## Fidelity and authenticity -/

section Claims

variable {Secret Profiles Envelope : Type} {m : WrapEnv Secret Profiles Envelope}

/-- The encryption callback of `wrap_mkt_record` on a request of one of the two signers. -/
theorem decryptAs_encrypted (hm : m.Lawful) {actor recipient : Secret} {key nonce : Bytes32}
    {plaintext payload : String} (hkey : m.conversationKey actor (m.pubkey recipient) = .ok key)
    (h : encrypt m.sha256 plaintext key nonce = .ok payload) :
    decryptAs m recipient ⟨m.pubkey recipient, m.pubkey actor, payload⟩ = .ok plaintext := by
  unfold decryptAs
  rw [hm.conversation_symmetric, hkey]
  exact decrypt_encrypted m.sha256 h

theorem rumorBindings_record (recipient : String) (identifier : Bytes32) :
    rumorBindings recipient false false [["p", recipient], ["d", lowerHex identifier.1]] = .ok (true, true) := by
  have hhex := isLowerHex32_lowerHex identifier
  simp [rumorBindings, hhex]

/-- **A wrapped record opens.** Its recipient finds the seal of the sender and a rumor with the bytes in it. -/
theorem opened_wrapped (hm : m.Lawful) {raw : Bytes} {sender peer : Secret} {material : WrapMaterial}
    {wrapped : WrappedMktRecord} (h : wrapMktRecord m raw sender (m.pubkey peer) material = .ok wrapped) :
    ∃ inner sealEvent rumor, m.eventOfBytes raw = .ok inner ∧ inner.pubkey = m.pubkey sender ∧
      Opened m wrapped.event (m.pubkey peer) (decryptAs m peer) sealEvent rumor ∧ rumor.pubkey = m.pubkey sender ∧
      rumor.createdAt = inner.createdAt ∧ rumor.kind = inner.kind ∧ utf8 rumor.content = raw ∧
      requireMktRumorBindings rumor (m.pubkey peer) = .ok () := by
  unfold wrapMktRecord wrapMktRecordWithCallbacks decodeHex32 at h
  simp only [Txn.bind_eq_ok, explained_eq_ok, failIf_eq_ok, verifySigned_eq_ok, Txn.pure_eq_ok,
    Bool.not_eq_false, not_not] at h
  obtain ⟨oneTime, -, inner, hinner, _, -, _, -, _, hauthor, _, hrecipient, _, -, _, -, _, hdistinct, h⟩ := h
  obtain ⟨text, htext, id, hid, sealedContent, ⟨sealer, hsealer, sealKey, hsealKey, hsealed⟩, h⟩ := h
  obtain ⟨sealSigned, -, sealEvent, ⟨hsealEvent, hsealValid, hsealPubkey, hsealCreated, hsealKind, hsealTags,
    hsealContent⟩, h⟩ := h
  obtain ⟨wrapContent, ⟨wrapper, hwrapper, wrapKey, hwrapKey, hwrapped⟩, h⟩ := h
  obtain ⟨wrapSigned, -, event, ⟨hevent, hwrapValid, hwrapPubkey, -, hwrapKind, hwrapTags, hwrapContent⟩, h⟩ := h
  subst hsealEvent hevent h
  have hraw : textOfBytes raw = some text := by
    cases hbytes : textOfBytes raw with
    | none =>
      rw [hbytes] at htext
      cases htext
    | some read =>
      rw [hbytes] at htext
      cases htext
      rfl
  obtain rfl : sender = sealer := by
    rw [signerOf, if_pos rfl] at hsealer
    exact Except.ok.inj hsealer
  obtain rfl : oneTime = wrapper := by
    rw [signerOf, if_neg hdistinct, if_pos rfl] at hwrapper
    exact Except.ok.inj hwrapper
  obtain ⟨hcreated, hkind⟩ := hm.event_typed raw inner hinner
  have hseal : TypedEvent sealEvent := by
    rw [TypedEvent, hsealCreated, hsealKind]
    exact ⟨material.sealTyped, by decide⟩
  refine ⟨inner, sealEvent,
    { recordRumor inner (m.pubkey sender) (m.pubkey peer) text material.rumorIdentifier with id }, hinner, hauthor,
    ⟨hwrapValid, hwrapKind, hrecipient, ?_, ⟨_, ?_, hm.event_read_back sealEvent hseal hsealValid⟩, hsealValid,
      ⟨hsealKind, hsealTags⟩, ⟨_, ?_, hm.rumor_read_back _ hcreated hkind hid⟩, hid, ?_, ?_⟩, rfl, rfl, rfl,
    textOfBytes_eq_some hraw, ?_⟩
  · rw [Event.tagValues, hwrapTags]
    exact ⟨rfl, rfl⟩
  · rw [hwrapPubkey, hwrapContent]
    exact decryptAs_encrypted hm hwrapKey hwrapped
  · rw [hsealPubkey, hsealContent]
    exact decryptAs_encrypted hm hsealKey hsealed
  · exact hsealPubkey.symm
  · rfl
  · unfold requireMktRumorBindings
    simp only [Txn.bind_eq_ok, failIf_eq_ok]
    exact ⟨(), fun h => h rfl, _, rumorBindings_record _ _, (), by decide, by decide⟩

/-- **Wraps are faithful and authentic.** A record that the validator accepts is delivered to the recipient it was
    wrapped for, byte for byte and with its sender. Whatever a recipient unwraps names that recipient alone, comes in a
    seal signed by the rumor's author, and carries bytes that the validator accepts as a record of the same key. -/
theorem wrap_faithful_and_authentic (hm : m.Lawful) :
    (∀ raw profiles record sender recipient material wrapped, validateMktPrivateRaw m raw profiles = .ok record →
      wrapMktRecord m raw sender (m.pubkey recipient) material = .ok wrapped →
      ∃ delivered, unwrapMktRecord m wrapped.event recipient profiles = .ok delivered ∧
        delivered.record.rawSignedEvent = raw ∧ delivered.sender = m.pubkey sender) ∧
    ∀ wrap recipient profiles delivered, unwrapMktRecord m wrap recipient profiles = .ok delivered →
      ∃ sealEvent rumor, Opened m wrap (m.pubkey recipient) (decryptAs m recipient) sealEvent rumor ∧
        m.validateCrypto delivered.record.event = .ok () ∧ delivered.record.event.pubkey = rumor.pubkey ∧
        rumor.pubkey = sealEvent.pubkey ∧ delivered.sender = rumor.pubkey ∧
        wrap.tagValues "p" = [m.pubkey recipient] ∧ wrap.tags.length = 1 ∧
        validateMktPrivateRaw m delivered.record.rawSignedEvent profiles = .ok delivered.record := by
  refine ⟨?_, ?_⟩
  · intro raw profiles record sender recipient material wrapped hrecord hwrap
    obtain ⟨inner, sealEvent, rumor, hinner, hauthor, hopened, hpubkey, hcreated, hkind, hcontent, hbindings⟩ :=
      opened_wrapped hm hwrap
    obtain ⟨hraw, -, text, value, htext, hvalue, hevent⟩ := validateMktPrivateRaw_ok hrecord
    -- the record that was validated is the event that was wrapped
    obtain rfl := hm.readers_agree raw text _ value record.event inner htext hvalue hevent hinner
    refine ⟨⟨wrapped.event.id, rumor.pubkey, record, none⟩, ?_, hraw, hpubkey⟩
    unfold unwrapMktRecord unwrapMktRecordWithCallback validateRumorRecord
    simp only [Txn.bind_eq_ok, explained_eq_ok, failIf_eq_ok]
    refine ⟨rumor, unwrapRumor_eq_ok.mpr ⟨sealEvent, hopened⟩, (), hbindings, record, by rw [hcontent, hrecord], (), ?_,
      rfl⟩
    simp [hpubkey, hauthor, hcreated, hkind]
  · intro wrap recipient profiles delivered h
    unfold unwrapMktRecord unwrapMktRecordWithCallback validateRumorRecord at h
    simp only [Txn.bind_eq_ok, explained_eq_ok, failIf_eq_ok, not_or, not_not] at h
    obtain ⟨rumor, hrumor, _, -, record, hrecord, _, ⟨hpubkey, -, -⟩, hdelivered⟩ := h
    cases hdelivered
    obtain ⟨sealEvent, hopened⟩ := unwrapRumor_eq_ok.mp hrumor
    obtain ⟨hraw, hcrypto, -⟩ := validateMktPrivateRaw_ok hrecord
    refine ⟨sealEvent, rumor, hopened, hcrypto, hpubkey, hopened.author, rfl, hopened.recipientTag.1,
      hopened.recipientTag.2, ?_⟩
    rw [hraw]
    exact hrecord

end Claims

/-! ### A delivery

The record that the repository's own test wraps, under the same keys: the RFQ with its id and signature, the texts of
the four layers, and the conversation keys. The payloads are those of the hash `vectorSha256`. -/

inductive DemoSecret where
  | sender
  | recipient
  | oneTime
deriving DecidableEq, Repr

def demoPubkey : DemoSecret → String
  | .sender => "1b84c5567b126440995d3ed5aaba0565d71e1834604819ff9c17f5e9d5dd078f"
  | .recipient => "4d4b6cd1361032ca9bd2aeb9d900aa4d45d9ead80ac9423374c451a7254d0766"
  | .oneTime => "62c0a046dacce86ddd0343c6d3c7c79c2208ba0d9c9cf24a6d046d21d21f90f7"

/-- The key that two parties agree on. -/
def demoKey : DemoSecret → DemoSecret → Nat
  | .sender, .sender => 0x01f27a0be300eee4aea563ac902fd3f79ab0600d3347f5d854758cd06b00e71a
  | .sender, .recipient | .recipient, .sender =>
    0x59c6d24d9c3a7bf8ca4cec54031a3e2ecfaa553452a2b2fa3147e31ee55f33d5
  | .sender, .oneTime | .oneTime, .sender => 0x3e696b2e789c6dda3847824d53e568081599269bef38e8d7e45042572afa362d
  | .recipient, .recipient => 0x03b60e162670a9fc0c7ab3e5989e1985cf2594e8984bacaa6f9041fe362dd5f9
  | .recipient, .oneTime | .oneTime, .recipient =>
    0x35e8a1ebd54f71443b8510fbe8f40c3eff72f9cd1ad9de132e3f1ef2f93d565d
  | .oneTime, .oneTime => 0xd559401837f54be7d2513f95e6f30d3eaf0abd0c97b2ed06126f02ea858c8f59

def demoConversationKey (secret : DemoSecret) (peer : String) : Except String Bytes32 :=
  match [DemoSecret.sender, .recipient, .oneTime].find? fun other => demoPubkey other = peer with
  | some other => .ok ⟨beBytes (demoKey secret other) 32, length_beBytes _ _⟩
  | none => .error "market peer public key is invalid"

def demoSession : String := "1111111111111111111111111111111111111111111111111111111111111111"

def demoInner : Event where
  id := "fd9fe89e28891f7ac6f0b51101a2c5bbeb991e3d7af507435425988e7814de69"
  pubkey := demoPubkey .sender
  createdAt := 10
  kind := 39604
  tags := [["d", "2222222222222222222222222222222222222222222222222222222222222222"], ["session", demoSession],
    ["profile", "local-dev", "1"], ["p", demoPubkey .recipient, "", "provider"], ["alt", "Local development RFQ"]]
  content := "\x7b\"profile\":\"local-dev\",\"profile_version\":1,\"schema\":\"openage" ++
    "nts.mkt.v1\",\"session_id\":\"1111111111111111111111111111111111" ++
    "111111111111111111111111111111\"\x7d"
  sig := "eff3307c109b59aca42084df284e425be4b37f5169e5486efccd92457c84cae9" ++
    "1645127877d04dbb7b92fe6c18cff656902373f67c1d86c3384b4d7a07c2cc6b"

/-! A text begins with the id of its event. -/

def demoRawHead : String := "\x7b\"id\":\"fd9fe89e28891f7ac6f0b51101a2c5bbeb991e3d7af5074354259"

def demoRaw : String := demoRawHead ++
  ("88e7814de69\",\"pubkey\":\"1b84c5567b126440995d3ed5aaba0565d71e1" ++
    "834604819ff9c17f5e9d5dd078f\",\"created_at\":10,\"kind\":39604,\"t" ++
    "ags\":[[\"d\",\"222222222222222222222222222222222222222222222222" ++
    "2222222222222222\"],[\"session\",\"11111111111111111111111111111" ++
    "11111111111111111111111111111111111\"],[\"profile\",\"local-dev\"" ++
    ",\"1\"],[\"p\",\"4d4b6cd1361032ca9bd2aeb9d900aa4d45d9ead80ac94233" ++
    "74c451a7254d0766\",\"\",\"provider\"],[\"alt\",\"Local development R" ++
    "FQ\"]],\"content\":\"\x7b\\\"profile\\\":\\\"local-dev\\\",\\\"profile_versio" ++
    "n\\\":1,\\\"schema\\\":\\\"openagents.mkt.v1\\\",\\\"session_id\\\":\\\"1111" ++
    "111111111111111111111111111111111111111111111111111111111111" ++
    "\\\"\x7d\",\"sig\":\"eff3307c109b59aca42084df284e425be4b37f5169e5486e" ++
    "fccd92457c84cae91645127877d04dbb7b92fe6c18cff656902373f67c1d" ++
    "86c3384b4d7a07c2cc6b\"\x7d")

def demoValue : Value :=
  .object [("content", .string demoInner.content), ("created_at", .integer 10), ("id", .string demoInner.id),
    ("kind", .integer 39604), ("pubkey", .string demoInner.pubkey), ("sig", .string demoInner.sig),
    ("tags", .array (demoInner.tags.map fun tag => .array (tag.map .string)))]

def demoRumorId : String := "db9b259f76df518e8509d1a30a379420af128e3a3eff2c37f4623b87b02d9ed6"

def demoMaterial : WrapMaterial where
  sealCreatedAt := 8
  wrapCreatedAt := 9
  rumorIdentifier := ⟨List.replicate 32 6, rfl⟩
  sealNonce := ⟨List.replicate 32 3, rfl⟩
  wrapNonce := ⟨List.replicate 32 4, rfl⟩
  wrapSecret := ⟨List.replicate 32 5, rfl⟩
  sealTyped := by decide

def demoRumor : Rumor :=
  { recordRumor demoInner (demoPubkey .sender) (demoPubkey .recipient) demoRaw demoMaterial.rumorIdentifier with
    id := demoRumorId }

def demoRumorText : String :=
  "\x7b\"id\":\"db9b259f76df518e8509d1a30a379420af128e3a3eff2c37f4623" ++
    "b87b02d9ed6\",\"pubkey\":\"1b84c5567b126440995d3ed5aaba0565d71e1" ++
    "834604819ff9c17f5e9d5dd078f\",\"created_at\":10,\"kind\":39604,\"t" ++
    "ags\":[[\"p\",\"4d4b6cd1361032ca9bd2aeb9d900aa4d45d9ead80ac94233" ++
    "74c451a7254d0766\"],[\"d\",\"06060606060606060606060606060606060" ++
    "60606060606060606060606060606\"]],\"content\":\"\x7b\\\"id\\\":\\\"fd9fe8" ++
    "9e28891f7ac6f0b51101a2c5bbeb991e3d7af507435425988e7814de69\\\"" ++
    ",\\\"pubkey\\\":\\\"1b84c5567b126440995d3ed5aaba0565d71e1834604819" ++
    "ff9c17f5e9d5dd078f\\\",\\\"created_at\\\":10,\\\"kind\\\":39604,\\\"tags" ++
    "\\\":[[\\\"d\\\",\\\"22222222222222222222222222222222222222222222222" ++
    "22222222222222222\\\"],[\\\"session\\\",\\\"111111111111111111111111" ++
    "1111111111111111111111111111111111111111\\\"],[\\\"profile\\\",\\\"l" ++
    "ocal-dev\\\",\\\"1\\\"],[\\\"p\\\",\\\"4d4b6cd1361032ca9bd2aeb9d900aa4d4" ++
    "5d9ead80ac9423374c451a7254d0766\\\",\\\"\\\",\\\"provider\\\"],[\\\"alt\\" ++
    "\",\\\"Local development RFQ\\\"]],\\\"content\\\":\\\"\x7b\\\\\\\"profile\\\\\\\"" ++
    ":\\\\\\\"local-dev\\\\\\\",\\\\\\\"profile_version\\\\\\\":1,\\\\\\\"schema\\\\\\\":" ++
    "\\\\\\\"openagents.mkt.v1\\\\\\\",\\\\\\\"session_id\\\\\\\":\\\\\\\"11111111111" ++
    "11111111111111111111111111111111111111111111111111111\\\\\\\"\x7d\\\"" ++
    ",\\\"sig\\\":\\\"eff3307c109b59aca42084df284e425be4b37f5169e5486ef" ++
    "ccd92457c84cae91645127877d04dbb7b92fe6c18cff656902373f67c1d8" ++
    "6c3384b4d7a07c2cc6b\\\"\x7d\"\x7d"

/-- The payload of a text, or nothing when it cannot be encrypted. Its length is all that is needed of it. -/
@[irreducible] def demoPayload (secret : DemoSecret) (plaintext : String) (nonce : Bytes32) : String :=
  (encrypt vectorSha256 plaintext ⟨beBytes (demoKey secret .recipient) 32, length_beBytes _ _⟩ nonce).toOption.getD ""

def demoSeal : Event where
  id := "f44bd4812d1b72eac2e5b04526efd95266e2fd644ad509e625086cecf913071c"
  pubkey := demoPubkey .sender
  createdAt := 8
  kind := sealKind
  tags := []
  content := demoPayload .sender demoRumorText demoMaterial.sealNonce
  sig := "a9f0091ee7d46ad3f727bf4df90ffe16072e9506ebedc52bdc0e1fbb077258b0" ++
    "d6304da3d7747f2207f8f6c3a0906cf95061c7a67bf774a436cb056f4fbdcfbf"

def demoSealHead : String := "\x7b\"id\":\"f44bd4812d1b72eac2e5b04526efd95266e2fd644ad509e625086"

def demoSealMiddle : String :=
  "cecf913071c\",\"pubkey\":\"1b84c5567b126440995d3ed5aaba0565d71e1" ++
    "834604819ff9c17f5e9d5dd078f\",\"created_at\":8,\"kind\":13,\"tags\"" ++
    ":[],\"content\":\""

def demoSealTail : String :=
  "\",\"sig\":\"a9f0091ee7d46ad3f727bf4df90ffe16072e9506ebedc52bdc0" ++
    "e1fbb077258b0d6304da3d7747f2207f8f6c3a0906cf95061c7a67bf774a" ++
    "436cb056f4fbdcfbf\"\x7d"

def demoSealText : String := demoSealHead ++ (demoSealMiddle ++ demoSeal.content ++ demoSealTail)

def demoWrap : Event where
  id := "9bdf7195e3185d86fb4e638e70f6f8f55ad0feda3bcc7ee259867f153b513f77"
  pubkey := demoPubkey .oneTime
  createdAt := 9
  kind := giftWrapKind
  tags := [["p", demoPubkey .recipient]]
  content := demoPayload .oneTime demoSealText demoMaterial.wrapNonce
  sig := "67b9ca39b44c6761c4f9e98b517ae39c263fceb24f44df7c9c93202f04038e90" ++
    "c5b57d9a812497928b76cbdb9284a15786db3ec238e6539487056efe902474e7"

def demoWrapHead : String := "\x7b\"id\":\"9bdf7195e3185d86fb4e638e70f6f8f55ad0feda3bcc7ee259867"

def demoWrapText : String := demoWrapHead ++
  ("f153b513f77\",\"pubkey\":\"62c0a046dacce86ddd0343c6d3c7c79c2208b" ++
    "a0d9c9cf24a6d046d21d21f90f7\",\"created_at\":9,\"kind\":1059,\"tag" ++
    "s\":[[\"p\",\"4d4b6cd1361032ca9bd2aeb9d900aa4d45d9ead80ac9423374" ++
    "c451a7254d0766\"]],\"content\":\"" ++
    demoWrap.content ++ "\",\"sig\":\"67b9ca39b44c6761c4f9e98b517ae39c263fceb24f44df7c9c9" ++
    "3202f04038e90c5b57d9a812497928b76cbdb9284a15786db3ec238e6539" ++
    "487056efe902474e7\"\x7d")

/-- The crates on this delivery: they know its keys, its signatures and its texts. -/
def demoEnv : WrapEnv DemoSecret Unit Unit where
  eventOfBytes raw := if raw = utf8 demoRaw then .ok demoInner else .error "expected value"
  eventOfText text :=
    if text = demoRaw then .ok demoInner
    else if text = demoSealText then .ok demoSeal
    else if text = demoWrapText then .ok demoWrap
    else .error "expected value"
  eventText event := if event = demoInner then demoRaw else if event = demoSeal then demoSealText else demoWrapText
  rumorOfText text := if text = demoRumorText then .ok demoRumor else .error "expected value"
  rumorText _ := demoRumorText
  parseUniqueJson text subject :=
    if text = demoRaw then .ok demoValue else .error (subject ++ " is invalid JSON: expected value")
  classifySyntaxError detail := ⟨.invalidJson, detail⟩
  eventOfValue value := if value.same demoValue then .ok demoInner else .error "invalid type"
  computedId event :=
    if event = ⟨"", demoRumor.pubkey, demoRumor.createdAt, demoRumor.kind, demoRumor.tags, demoRumor.content, ""⟩ then
      .ok demoRumorId
    else .error (.serialization "unknown event")
  validateCrypto event :=
    if event = demoInner ∨ event = demoSeal ∨ event = demoWrap then .ok () else .error .invalidSignature
  validateMktPrivateWithProfiles _ _ := .ok ()
  pubkey := demoPubkey
  secretOfBytes bytes :=
    if bytes = demoMaterial.wrapSecret then .ok .oneTime else .error "market secret key is invalid"
  sign secret createdAt kind tags content :=
    { id := if kind = sealKind then demoSeal.id else demoWrap.id, pubkey := demoPubkey secret, createdAt, kind, tags,
      content, sig := if kind = sealKind then demoSeal.sig else demoWrap.sig }
  conversationKey := demoConversationKey
  sha256 := vectorSha256

theorem append_ne_append {a b c d : String} (hlength : a.length = b.length) (hne : a ≠ b) : a ++ c ≠ b ++ d := by
  intro h
  have hlists := congrArg String.toList h
  rw [String.toList_append, String.toList_append] at hlists
  have hheads := List.append_inj_left hlists (by rwa [String.length_toList])
  exact hne (String.toList_inj.mp hheads)

theorem demoEnv_lawful : demoEnv.Lawful where
  event_read_back := by
    intro event _ hsigned
    have hsealNe : demoRaw ≠ demoSealText := append_ne_append (by decide +kernel) (by decide +kernel)
    have hwrapNe : demoRaw ≠ demoWrapText := append_ne_append (by decide +kernel) (by decide +kernel)
    have htextNe : demoSealText ≠ demoWrapText := append_ne_append (by decide +kernel) (by decide +kernel)
    have hcrypto : demoEnv.validateCrypto event = .ok () := by
      rw [validateSigned, Txn.check_bind_eq_ok] at hsigned
      exact hsigned.2
    have hidNe : demoSeal ≠ demoInner ∧ demoWrap ≠ demoInner ∧ demoWrap ≠ demoSeal :=
      ⟨fun h => absurd (congrArg Event.id h) (by decide +kernel),
        fun h => absurd (congrArg Event.id h) (by decide +kernel),
        fun h => absurd (congrArg Event.id h) (by decide +kernel)⟩
    by_cases hknown : event = demoInner ∨ event = demoSeal ∨ event = demoWrap
    · rcases hknown with rfl | rfl | rfl
      · simp [demoEnv]
      · simp [demoEnv, hidNe.1, hsealNe.symm]
      · simp [demoEnv, hidNe.2.1, hidNe.2.2, hwrapNe.symm, htextNe.symm]
    · simp [demoEnv, hknown] at hcrypto
  rumor_read_back := by
    intro rumor _ _ hid
    have hrumor : rumor = demoRumor := by
      rw [rumorId, explained_eq_ok] at hid
      simp only [demoEnv] at hid
      split at hid
      · rename_i hevent
        obtain ⟨id, pubkey, createdAt, kind, tags, content⟩ := rumor
        obtain ⟨rfl, rfl, rfl, rfl, rfl⟩ := hevent
        cases hid
        rfl
      · cases hid
    rw [hrumor]
    simp [demoEnv]
  event_typed := by
    intro raw event h
    simp only [demoEnv] at h
    split at h
    · cases h
      exact ⟨by decide, by decide⟩
    · cases h
  readers_agree := by
    intro raw text subject value event event' _ _ hevent hevent'
    simp only [demoEnv] at hevent hevent'
    split at hevent
    · split at hevent'
      · exact (Except.ok.inj hevent).symm.trans (Except.ok.inj hevent')
      · cases hevent'
    · cases hevent
  conversation_symmetric := by
    intro secret peer
    cases secret <;> cases peer <;> decide +kernel

/-- The payload of a text within the bound, and its length. -/
theorem demoPayload_spec (secret : DemoSecret) {plaintext : String} (nonce : Bytes32)
    (hpos : 1 ≤ (utf8 plaintext).length) (hmax : (utf8 plaintext).length ≤ maxClientPlaintextBytes) :
    encrypt vectorSha256 plaintext ⟨beBytes (demoKey secret .recipient) 32, length_beBytes _ _⟩ nonce =
        .ok (demoPayload secret plaintext nonce) ∧
      ∃ padded, pad (utf8 plaintext) = .ok padded ∧
        (utf8 (demoPayload secret plaintext nonce)).length = (65 + padded.length + 2) / 3 * 4 := by
  obtain ⟨payload, padded, hpad, hlength, hpayload, -⟩ := encrypt_within vectorSha256
    ⟨beBytes (demoKey secret .recipient) 32, length_beBytes _ _⟩ nonce hpos hmax
  rw [demoPayload, hpayload]
  exact ⟨rfl, padded, hpad, hlength⟩

theorem demoRumorText_payload :
    encrypt vectorSha256 demoRumorText ⟨beBytes (demoKey .sender .recipient) 32, length_beBytes _ _⟩
        demoMaterial.sealNonce = .ok demoSeal.content ∧ (utf8 demoSeal.content).length = 1796 := by
  have hlength : ((pad (utf8 demoRumorText)).map List.length) = .ok 1282 := by decide +kernel
  have htext : 1 ≤ (utf8 demoRumorText).length ∧ (utf8 demoRumorText).length ≤ maxClientPlaintextBytes := by
    decide +kernel
  obtain ⟨hpayload, padded, hpad, hpayloadLength⟩ := demoPayload_spec .sender demoMaterial.sealNonce htext.1 htext.2
  rw [hpad] at hlength
  have hpadded : padded.length = 1282 := Except.ok.inj hlength
  rw [hpadded] at hpayloadLength
  exact ⟨hpayload, hpayloadLength⟩

theorem utf8_append (a b : String) : utf8 (a ++ b) = utf8 a ++ utf8 b := by
  simp [utf8]

theorem length_demoSealText : (utf8 demoSealText).length = 2130 := by
  have hpayload := demoRumorText_payload.2
  have hhead : (utf8 demoSealHead).length = 60 := by decide +kernel
  have hrest : (utf8 demoSealMiddle).length = 135 := by decide +kernel
  have htail : (utf8 demoSealTail).length = 139 := by decide +kernel
  rw [demoSealText, utf8_append, utf8_append, utf8_append, List.length_append, List.length_append, List.length_append]
  omega

theorem validateSigned_demo (event : Event) (hknown : event = demoInner ∨ event = demoSeal ∨ event = demoWrap) :
    validateSigned demoEnv event = .ok () := by
  rw [validateSigned, Txn.check_bind_eq_ok]
  refine ⟨?_, by simp [demoEnv, hknown]⟩
  rcases hknown with rfl | rfl | rfl
  · decide +kernel
  · decide +kernel
  · decide +kernel

theorem demoRaw_accepted : ∃ record, validateMktPrivateRaw demoEnv (utf8 demoRaw) () = .ok record := by
  have hlength : (utf8 demoRaw).length ≤ mktMaxPrivateEventBytes := by decide +kernel
  have hmembers : requireEventMembers demoValue = .ok () := by decide +kernel
  have hsigned := validateSigned_demo demoInner (.inl rfl)
  rw [validateSigned, Txn.check_bind_eq_ok] at hsigned
  refine ⟨⟨utf8 demoRaw, demoInner, ()⟩, ?_⟩
  unfold validateMktPrivateRaw
  rw [if_neg (by omega), textOfBytes_utf8]
  simp only [Txn.bind_eq_ok, Txn.mapError_eq_ok, validated]
  refine ⟨demoValue, by simp [demoEnv], (), hmembers, demoInner, ?_, (), hsigned.1, (), hsigned.2, (), rfl, rfl⟩
  simp [demoEnv, Value.same_iff]

theorem demoRaw_wrapped :
    wrapMktRecord demoEnv (utf8 demoRaw) .sender (demoEnv.pubkey .recipient) demoMaterial =
      .ok ⟨demoWrap, demoInner.id⟩ := by
  unfold wrapMktRecord wrapMktRecordWithCallbacks decodeHex32
  simp only [Txn.bind_eq_ok, explained_eq_ok, verifySigned_eq_ok, not_not]
  refine ⟨.oneTime, by simp [demoEnv], demoInner, by simp [demoEnv], (),
    validateSigned_demo demoInner (.inl rfl), (), by decide, (), rfl, (), by decide +kernel, (),
    by decide +kernel, (), by decide +kernel, (), by decide +kernel, demoRaw, by rw [textOfBytes_utf8]; rfl,
    demoRumorId, ?_, demoSeal.content, ⟨.sender, rfl, _, rfl, ?_⟩, demoSeal, ⟨.sender, rfl, ?_⟩, demoSeal,
    ⟨rfl, validateSigned_demo demoSeal (.inr (.inl rfl)), rfl, rfl, rfl, rfl, rfl⟩, demoWrap.content,
    ⟨.oneTime, ?_, _, rfl, ?_⟩, demoWrap, ⟨.oneTime, ?_, ?_⟩, demoWrap,
    ⟨rfl, validateSigned_demo demoWrap (.inr (.inr rfl)), rfl, rfl, rfl, rfl, rfl⟩, rfl⟩
  · rw [rumorId, explained_eq_ok]
    simp only [demoEnv]
    exact if_pos rfl
  · exact demoRumorText_payload.1
  · rfl
  · decide +kernel
  · have hlength := length_demoSealText
    have hmaximum : maxClientPlaintextBytes = 262144 := rfl
    have hpayload : encrypt vectorSha256 demoSealText
        ⟨beBytes (demoKey .oneTime .recipient) 32, length_beBytes _ _⟩ demoMaterial.wrapNonce = .ok demoWrap.content :=
      (demoPayload_spec .oneTime demoMaterial.wrapNonce (by omega) (by omega)).1
    have htext : demoEnv.eventText demoSeal = demoSealText := by
      have hne : demoSeal ≠ demoInner := fun h => absurd (congrArg Event.id h) (by decide +kernel)
      simp [demoEnv, hne]
    rw [htext]
    exact hpayload
  · decide +kernel
  · rfl

theorem wrap_faithful_and_authentic_demo :
    ∃ delivered, unwrapMktRecord demoEnv demoWrap .recipient () = .ok delivered ∧
      delivered.record.rawSignedEvent = utf8 demoRaw ∧ delivered.sender = demoPubkey .sender ∧
      demoWrap.tagValues "p" = [demoPubkey .recipient] := by
  obtain ⟨hfaithful, hauthentic⟩ := wrap_faithful_and_authentic demoEnv_lawful
  obtain ⟨record, hrecord⟩ := demoRaw_accepted
  obtain ⟨delivered, hdelivered, hraw, hsender⟩ := hfaithful _ _ _ _ _ _ _ hrecord demoRaw_wrapped
  obtain ⟨sealEvent, rumor, -, -, -, -, -, htag, -⟩ := hauthentic _ _ _ _ hdelivered
  exact ⟨delivered, hdelivered, hraw, hsender, htag⟩

end Immortal.Market
