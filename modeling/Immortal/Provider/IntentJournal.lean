import Immortal.Market.Hardening
import Immortal.Collections.OrderedMap

/-!
# `Immortal.Provider.IntentJournal` — the provider's durable journal of intents

`network_hardening.rs`: before a provider acts on an Order it binds the Order's idempotency key and nonce, signs an
acknowledgment and persists both; it claims the one attempt at the effect, records outcomes and emits receipts
through the same journal. Each operation changes a copy, hands a snapshot of it to the caller's `persist` callback
and puts the old journal back when that fails.

An operation's callbacks appear in its `Answer`: the requests it passed to `sign`, the snapshots it passed to
`persist` and the one that was stored.
-/

namespace Immortal.Provider

open Immortal.Domain Immortal.Market Txn
open Client (lowerHex utf8)

/-! ## The journal -/

inductive ProviderHardeningErrorCode where
  | invalidIntent
  | idempotencyConflict
  | replay
  | nonceWindow
  | unsupportedRevision
  | bounds
  | persistence
  | signature
deriving DecidableEq, Repr

structure ProviderHardeningError where
  code : ProviderHardeningErrorCode
  detail : String
deriving DecidableEq, Repr

abbrev Hardened (α : Type) := Except ProviderHardeningError α

/-- `if condition { return Err(error(code, detail)) }`. -/
def refuseWhen (condition : Prop) [Decidable condition] (code : ProviderHardeningErrorCode) (detail : String) :
    Hardened Unit :=
  if condition then .error ⟨code, detail⟩ else .ok ()

/-- `ok_or_else(|| error(code, detail))`. -/
def required {α : Type} (value : Option α) (code : ProviderHardeningErrorCode) (detail : String) : Hardened α :=
  match value with
  | some value => .ok value
  | none => .error ⟨code, detail⟩

structure StoredReceipt where
  receipt : Event
  quote : Event
  clientConfirmation : Option Event
deriving DecidableEq

structure IntentBinding where
  intent : Event
  acknowledgment : Event
  outcomes : List Event
  receipts : List StoredReceipt
  effectAttemptClaimed : Bool
deriving DecidableEq

/-- Maps are the source's `BTreeMap`s: in key order, and equal when they agree on every key. -/
structure ProviderIntentJournal where
  schema : String
  providerPubkey : String
  sessionId : String
  bindings : Std.ExtTreeMap String IntentBinding
  nonces : Std.ExtTreeMap String String
deriving DecidableEq

def journalSchema : String := "openagents.mkt-swp.intent-journal.v2"
def journalSchemaV1 : String := "openagents.mkt-swp.intent-journal.v1"
def maxIntentBindings : Nat := 512
def maxOutcomes : Nat := 128
def maxReceipts : Nat := 128

/-- The market environment with the text of a journal. -/
structure JournalEnv (Snapshot : Type) extends ReceiptEnv where
  /-- `serde_json::to_vec` of a journal, which has no values it cannot write. -/
  toVec : ProviderIntentJournal → Snapshot
  /-- `serde_json::from_slice::<ProviderIntentJournal>`. -/
  fromSlice : Snapshot → Except String ProviderIntentJournal

/-- `IntentAckSigningRequest` and `SettlementReceiptSigningRequest`. -/
structure SigningRequest where
  pubkey : String
  createdAt : Nat
  kind : Nat
  tags : List Tag
  content : String
  expectedEventId : String
deriving DecidableEq

def scopeKey (requesterPubkey idempotencyKey : String) : String :=
  requesterPubkey ++ ":" ++ mktSwpProfileId ++ ":" ++ idempotencyKey

def nonceKey (requesterPubkey nonce : String) : String := requesterPubkey ++ ":" ++ nonce

/-- The lookup of the source: a journal key is 64 lowercase hexadecimal characters. -/
def journalHex32 (value subject : String) : Hardened Unit :=
  refuseWhen (isLowerHex32 value = false) .invalidIntent (subject ++ " must be 64 lowercase hexadecimal characters")

/-- `ProviderIntentJournal::new`. -/
def ProviderIntentJournal.new (providerPubkey sessionId : String) : Hardened ProviderIntentJournal := do
  journalHex32 providerPubkey "provider pubkey"
  journalHex32 sessionId "session id"
  return { schema := journalSchema, providerPubkey, sessionId, bindings := ∅, nonces := ∅ }

/-- The number of outcomes, or of receipts, over all bindings. -/
def ProviderIntentJournal.total (journal : ProviderIntentJournal) (count : IntentBinding → Nat) : Nat :=
  Collections.total journal.bindings count

/-- `scope_for_intent`: the key of the first binding of that intent. -/
def ProviderIntentJournal.scopeForIntent (journal : ProviderIntentJournal) (eventId : String) : Hardened String :=
  match journal.bindings.toList.find? fun entry => entry.2.intent.id = eventId with
  | some entry => .ok entry.1
  | none => .error ⟨.invalidIntent, "intent event id is not present in the durable journal"⟩

/-- The binding under a key, with the caller's message for one that is absent. -/
def ProviderIntentJournal.binding (journal : ProviderIntentJournal) (scope message : String) : Hardened IntentBinding :=
  required journal.bindings[scope]? .invalidIntent message

/-! ## Records -/

section Operations

variable {Snapshot : Type} (env : JournalEnv Snapshot) (journal : ProviderIntentJournal)

/-- `validate_signed`. -/
def requireSigned (event : Event) : Hardened Unit :=
  (env.validateSigned event).mapError fun detail => ⟨.signature, "signed record is invalid: " ++ detail.display⟩

def hardeningEnvelope (event : Event) : Hardened MktPrivateEnvelope :=
  (env.validateMktPrivate event).mapError fun detail =>
    ⟨.invalidIntent, "revision-2 record violates NIP-MKT: " ++ detail.display⟩

def hardeningCode : MktHardeningErrorCode → ProviderHardeningErrorCode
  | .invalidIntent => .invalidIntent
  | .nonceWindow => .nonceWindow
  | .unsupportedRevision => .unsupportedRevision

def hardeningRecord (event : Event) (observedAt : Option Nat) : Hardened MktHardeningRecord := do
  let envelope ← hardeningEnvelope env event
  (validateMktHardeningEvent event envelope observedAt).mapError fun detail => ⟨hardeningCode detail.code, detail.detail⟩

def requireProviderRecipient (event : Event) (providerPubkey : String) : Hardened Unit :=
  refuseWhen (event.tags.countP (fun tag =>
      tag.head? = some "p" && tag[1]? = some providerPubkey && tag[3]? = some "provider") ≠ 1)
    .invalidIntent "intent must name this provider exactly once"

def requireReference (event : Event) (marker expected : String) : Hardened Unit :=
  refuseWhen ((marked event marker).map (·[1]?) ≠ [some expected]) .invalidIntent
    ("record does not reference the exact " ++ marker ++ " event")

def requiredTag (event : Event) (name : String) : Hardened String :=
  match named event name with
  | [[_, value]] => .ok value
  | _ => .error ⟨.invalidIntent, "record requires exactly one " ++ name ++ " tag"⟩

/-- `verify_signed`: the signer returned the event it was asked for, and signed it. -/
def SigningRequest.verifySigned (request : SigningRequest) (subject : String) (event : Event) : Hardened Event := do
  refuseWhen (event.pubkey ≠ request.pubkey ∨ event.createdAt ≠ request.createdAt ∨ event.kind ≠ request.kind ∨
      event.tags ≠ request.tags ∨ event.content ≠ request.content ∨ event.id ≠ request.expectedEventId)
    .signature (subject ++ " signer changed the requested bytes")
  requireSigned env event
  return event

def eventReference (eventId marker : String) : Tag := ["e", eventId, "", marker]

/-- The tags every provider record of a session begins with. -/
def recordTags (distinct sessionId requester alt : String) : List Tag :=
  [["d", distinct], ["session", sessionId], ["profile", mktSwpProfileId, toString mktSwpProfileVersion],
    ["p", requester, "", "requester"], ["alt", alt]]

/-- A request with the id the signed event must have. -/
def signingRequest (pubkey : String) (createdAt kind : Nat) (tags : List Tag) (content message : String) :
    Hardened SigningRequest := do
  let expectedEventId ← (env.computedId ⟨"", pubkey, createdAt, kind, tags, content, ""⟩).mapError fun detail =>
    (⟨.invalidIntent, message ++ detail.display⟩ : ProviderHardeningError)
  return { pubkey, createdAt, kind, tags, content, expectedEventId }

def acknowledgmentRequest (providerPubkey : String) (intent : Event) (record : MktHardeningRecord)
    (observedAt : Nat) : Hardened SigningRequest := do
  let outcomeDeadline ← required record.outcomeDeadlineSeconds .invalidIntent "intent has no outcome deadline"
  let expiration := saturatingAdd observedAt outcomeDeadline
  let distinct := lowerHex (env.sha256 (utf8 ("mkt-v2-ack:" ++ providerPubkey ++ ":" ++ intent.id))).1
  let envelope ← hardeningEnvelope env intent
  let tags := recordTags distinct envelope.sessionId intent.pubkey "MKT-SWP Intent Acknowledgment" ++
    [eventReference intent.id "intent", ["ack", "accepted"], ["response", record.responsePubkey],
      ["expiration", toString expiration]]
  let content := env.jsonText (.object [("schema", .string mktHardeningSchema),
    ("protocol_rev", .integer mktHardeningProtocolRevision), ("profile", .string mktSwpProfileId),
    ("profile_version", .integer mktSwpProfileVersion), ("session_id", .string envelope.sessionId),
    ("ack", .object [("intent_event_id", .string intent.id), ("idempotency_key", .string record.idempotencyKey),
      ("disposition", .string "accepted"), ("accepted_at", .integer observedAt), ("error_code", .null)])])
  signingRequest env providerPubkey observedAt mktSwpIntentAckKind tags content
    "could not compute acknowledgment event id: "

def validateAcknowledgment (providerPubkey : String) (intent : Event) (intentRecord : MktHardeningRecord)
    (acknowledgment : Event) : Hardened Unit := do
  requireSigned env acknowledgment
  let ack ← hardeningRecord env acknowledgment none
  refuseWhen (acknowledgment.pubkey ≠ providerPubkey ∨ ack.kind ≠ .acknowledgment ∨
      ack.intentEventId ≠ some intent.id ∨ ack.idempotencyKey ≠ intentRecord.idempotencyKey ∨
      ack.responsePubkey ≠ intentRecord.responsePubkey ∨ ack.disposition ≠ some "accepted")
    .invalidIntent "acknowledgment does not bind the admitted intent"

/-! ## Callbacks -/

/-- What an operation returned and what it did on the way: the journal after it, the requests it passed to `sign`,
    the snapshots it passed to `persist`, and the snapshot that is durable because of it. -/
structure Answer (Snapshot α : Type) where
  result : Hardened α
  journal : ProviderIntentJournal
  signed : List SigningRequest
  persisted : List Snapshot
  stored : Option Snapshot

/-- An answer that leaves the journal alone and persists nothing. -/
def unchanged {α : Type} (result : Hardened α) (signed : List SigningRequest) :
    Answer Snapshot α :=
  { result, journal, signed, persisted := [], stored := none }

/-- The end of every operation that changes the journal: persist the changed copy or put the old one back. -/
def commit {α : Type} (journal changed : ProviderIntentJournal) (value : α) (signed : List SigningRequest)
    (persist : Snapshot → Except String Unit) (message : String) : Answer Snapshot α :=
  let snapshot := env.toVec changed
  match persist snapshot with
  | .ok () => { result := .ok value, journal := changed, signed, persisted := [snapshot], stored := some snapshot }
  | .error detail =>
    { result := .error ⟨.persistence, message ++ detail⟩, journal, signed, persisted := [snapshot], stored := none }

/-! ## Admission -/

inductive IntentAdmission where
  | new (acknowledgment : Event)
  | replay (acknowledgment : Event) (outcomes receipts : List Event)
deriving DecidableEq

inductive EffectAttemptClaim where
  | claimed
  | alreadyClaimed
deriving DecidableEq, Repr

/-- `validate_redrive_target`. -/
def ProviderIntentJournal.validateRedriveTarget (record : MktHardeningRecord) :
    Hardened Unit := do
  let orderId ← required record.orderEventId .invalidIntent "re-drive has no Order reference"
  let scope ← journal.scopeForIntent orderId
  let order ← journal.binding scope "re-drive references an unknown Order"
  refuseWhen (record.ackEventId ≠ some order.acknowledgment.id) .invalidIntent
    "re-drive does not reference the original Order acknowledgment"
  refuseWhen (record.lastKnownEventId.any fun lastKnown => order.outcomes.all (·.id ≠ lastKnown)) .invalidIntent
    "re-drive last-known event is not a durable Order outcome"

/-- Only a Re-drive has a target. -/
def ProviderIntentJournal.checkTarget (record : MktHardeningRecord) : Hardened Unit :=
  if record.kind = .redriveIntent then journal.validateRedriveTarget record else .ok ()

/-- An intent after the checks of `admit_with_ack`: already bound, or to be acknowledged. -/
inductive CheckedIntent where
  | bound (binding : IntentBinding)
  | fresh (record : MktHardeningRecord) (nonce : String) (request : SigningRequest)

/-- `admit_with_ack` up to the call of `sign`. -/
def ProviderIntentJournal.checkIntent (intent : Event) (observedAt : Nat) :
    Hardened CheckedIntent := do
  requireSigned env intent
  let record ← hardeningRecord env intent (some observedAt)
  refuseWhen (record.kind = .acknowledgment) .invalidIntent
    "provider journal admits Orders and Re-drive intents, not acknowledgments"
  let envelope ← hardeningEnvelope env intent
  refuseWhen (journal.sessionId ≠ envelope.sessionId) .invalidIntent "intent belongs to another provider session"
  requireProviderRecipient intent journal.providerPubkey
  match journal.bindings[scopeKey intent.pubkey record.idempotencyKey]? with
  | some existing =>
    refuseWhen (existing.intent ≠ intent) .idempotencyConflict
      "idempotency key is already bound to different signed bytes"
    return .bound existing
  | none =>
    let nonce ← required record.nonce .invalidIntent "intent has no validated nonce"
    refuseWhen (journal.nonces[nonceKey intent.pubkey nonce]?.any (· ≠ intent.id)) .replay
      "nonce is already bound to a different signed intent"
    refuseWhen (maxIntentBindings ≤ journal.bindings.size) .bounds "intent journal is full"
    journal.checkTarget record
    let request ← acknowledgmentRequest env journal.providerPubkey intent record observedAt
    return .fresh record nonce request

/-- The signer's answer, checked. -/
def signedAcknowledgment (intent : Event) (record : MktHardeningRecord)
    (request : SigningRequest) (sign : SigningRequest → Except String Event) : Hardened Event := do
  let acknowledgment ← (sign request).mapError fun detail =>
    (⟨.signature, "acknowledgment signing failed: " ++ detail⟩ : ProviderHardeningError)
  let acknowledgment ← request.verifySigned env "acknowledgment" acknowledgment
  validateAcknowledgment env journal.providerPubkey intent record acknowledgment
  return acknowledgment

/-- A journal with one more intent bound. -/
def ProviderIntentJournal.bind (intent : Event) (record : MktHardeningRecord)
    (nonce : String) (acknowledgment : Event) : ProviderIntentJournal :=
  { journal with
    bindings := journal.bindings.insert (scopeKey intent.pubkey record.idempotencyKey)
      { intent, acknowledgment, outcomes := [], receipts := [], effectAttemptClaimed := false }
    nonces := journal.nonces.insert (nonceKey intent.pubkey nonce) intent.id }

def IntentBinding.receiptEvents (binding : IntentBinding) : List Event := binding.receipts.map (·.receipt)

/-- `admit_with_ack`. -/
def ProviderIntentJournal.admitWithAck (intent : Event) (observedAt : Nat)
    (sign : SigningRequest → Except String Event) (persist : Snapshot → Except String Unit) :
    Answer Snapshot IntentAdmission :=
  match journal.checkIntent env intent observedAt with
  | .error error => unchanged journal (.error error) []
  | .ok (.bound existing) =>
    unchanged journal (.ok (.replay existing.acknowledgment existing.outcomes existing.receiptEvents)) []
  | .ok (.fresh record nonce request) =>
    match signedAcknowledgment env journal intent record request sign with
    | .error error => unchanged journal (.error error) [request]
    | .ok acknowledgment =>
      commit env journal (journal.bind intent record nonce acknowledgment) (.new acknowledgment) [request] persist
        "intent acknowledgment was not persisted: "

/-! ## Effects and outcomes -/

/-- A journal with one binding replaced. -/
def ProviderIntentJournal.update (scope : String) (binding : IntentBinding) :
    ProviderIntentJournal :=
  { journal with bindings := journal.bindings.insert scope binding }

def ProviderIntentJournal.claimTarget (orderEventId : String) :
    Hardened (String × IntentBinding) := do
  let scope ← journal.scopeForIntent orderEventId
  let binding ← journal.binding scope "effect claim references an unknown intent"
  refuseWhen (binding.intent.kind ≠ mktOrderKind) .invalidIntent "only a revision-2 Order can claim an effect attempt"
  return (scope, binding)

/-- `claim_effect_attempt`. -/
def ProviderIntentJournal.claimEffectAttempt (orderEventId : String)
    (persist : Snapshot → Except String Unit) : Answer Snapshot EffectAttemptClaim :=
  match journal.claimTarget orderEventId with
  | .error error => unchanged journal (.error error) []
  | .ok (scope, binding) =>
    if binding.effectAttemptClaimed then unchanged journal (.ok .alreadyClaimed) []
    else
      commit env journal (journal.update scope { binding with effectAttemptClaimed := true }) .claimed [] persist
        "effect-attempt claim was not persisted: "

/-- `record_outcome` up to the change: the binding it belongs to, unless it is already there. -/
def ProviderIntentJournal.checkOutcome (orderEventId : String) (outcome : Event) :
    Hardened (Option (String × IntentBinding)) := do
  requireSigned env outcome
  refuseWhen (outcome.kind ≠ mktStatusKind ∧ outcome.kind ≠ mktCloseKind) .invalidIntent
    "revision-2 outcome must be a signed Status or Close"
  requireReference outcome "order" orderEventId
  let scope ← journal.scopeForIntent orderEventId
  let binding ← journal.binding scope "outcome references an unknown Order"
  match binding.outcomes.find? fun event => event.id = outcome.id with
  | some existing =>
    refuseWhen (existing ≠ outcome) .idempotencyConflict "one outcome event id has conflicting signed bytes"
    return none
  | none =>
    refuseWhen (maxOutcomes ≤ journal.total (·.outcomes.length)) .bounds "outcome journal is full"
    return some (scope, binding)

/-- `record_outcome`. -/
def ProviderIntentJournal.recordOutcome (orderEventId : String) (outcome : Event)
    (persist : Snapshot → Except String Unit) : Answer Snapshot Bool :=
  match journal.checkOutcome env orderEventId outcome with
  | .error error => unchanged journal (.error error) []
  | .ok none => unchanged journal (.ok false) []
  | .ok (some (scope, binding)) =>
    commit env journal (journal.update scope { binding with outcomes := binding.outcomes ++ [outcome] }) true [] persist
      "outcome was not persisted: "

/-! ## Receipts -/

structure SettlementReceiptClaim where
  failureCode : Option String
  startedAt : Nat
  finishedAt : Nat
  legs : List MktReceiptLeg
  fees : List MktReceiptFee
deriving DecidableEq

structure SettlementReceiptEmissionRequest where
  orderEventId : String
  outcomeEventId : String
  quote : Event
  clientConfirmation : Option Event
  claim : SettlementReceiptClaim
  createdAt : Nat
deriving DecidableEq

inductive ReceiptEmission where
  | new (receipt : Event)
  | replay (receipt : Event)
deriving DecidableEq

/-- The event of an emission. -/
def ReceiptEmission.receipt : ReceiptEmission → Event
  | .new receipt => receipt
  | .replay receipt => receipt

def requireConfirmation (intent : Event) (orderEventId : String) : Option Event → Hardened Unit
  | none => .ok ()
  | some confirmation => do
    requireSigned env confirmation
    refuseWhen (confirmation.pubkey ≠ intent.pubkey) .invalidIntent
      "client confirmation is not signed by the requester"
    requireReference confirmation "order" orderEventId

/-- The claim a request asks for, under its own digest. -/
def receiptClaim (binding : IntentBinding) (outcome : Event) (outcomeName : String)
    (request : SettlementReceiptEmissionRequest) : Hardened MktSettlementReceipt := do
  let claim : MktSettlementReceipt := {
    schema := mktReceiptSchema, version := mktReceiptVersion, receiptId := "", intentEventId := binding.intent.id,
    acknowledgmentEventId := binding.acknowledgment.id, quoteEventId := request.quote.id,
    outcomeEventId := outcome.id, clientConfirmationEventId := request.clientConfirmation.map (·.id),
    outcome := outcomeName, failureCode := request.claim.failureCode, startedAt := request.claim.startedAt,
    finishedAt := request.claim.finishedAt, legs := request.claim.legs, fees := request.claim.fees }
  let receiptId ← (mktReceiptId env.toReceiptEnv claim).mapError fun detail =>
    (⟨.invalidIntent, "receipt claim is invalid: " ++ detail⟩ : ProviderHardeningError)
  return { claim with receiptId }

/-- A stored receipt with a reference to that Close. -/
def StoredReceipt.settles (stored : StoredReceipt) (outcomeEventId : String) : Bool :=
  stored.receipt.tags.any fun tag => tag[3]? = some "outcome" && tag[1]? = some outcomeEventId

def receiptSigningRequest (providerPubkey : String) (intent : Event) (sessionId : String)
    (receipt : MktSettlementReceipt) (createdAt : Nat) : Hardened SigningRequest := do
  let tags := recordTags receipt.receiptId sessionId intent.pubkey "MKT-SWP Settlement Receipt" ++
    [eventReference receipt.intentEventId "intent", eventReference receipt.acknowledgmentEventId "ack",
      eventReference receipt.quoteEventId "quote", eventReference receipt.outcomeEventId "outcome"] ++
    (receipt.clientConfirmationEventId.toList.map (eventReference · "client-confirmation")) ++
    [["outcome", receipt.outcome], ["receipt", toString mktReceiptVersion]]
  let content ← (canonicalMktReceiptContent sessionId receipt).mapError fun detail =>
    (⟨.invalidIntent, "could not canonicalize receipt: " ++ detail⟩ : ProviderHardeningError)
  signingRequest env providerPubkey createdAt mktSwpSettlementReceiptKind tags content
    "could not compute receipt event id: "

/-- What a request for a receipt is about, once it is known to be well founded. -/
structure ReceiptTarget where
  scope : String
  binding : IntentBinding
  outcome : Event
  sessionId : String
  claim : MktSettlementReceipt

/-- `emit_receipt_with_sign` up to the search for an earlier receipt. -/
def ProviderIntentJournal.checkReceipt (request : SettlementReceiptEmissionRequest) :
    Hardened ReceiptTarget := do
  requireSigned env request.quote
  refuseWhen (request.quote.kind ≠ mktQuoteKind ∨ request.quote.pubkey ≠ journal.providerPubkey) .invalidIntent
    "receipt Quote must be signed by this provider"
  let scope ← journal.scopeForIntent request.orderEventId
  let binding ← journal.binding scope "receipt references an unknown Order"
  refuseWhen (binding.intent.kind ≠ mktOrderKind) .invalidIntent "only a revision-2 Order can produce a receipt"
  requireReference binding.intent "quote" request.quote.id
  let outcome ← required ((binding.outcomes.find? fun event => event.id = request.outcomeEventId).filter
    fun event => event.kind = mktCloseKind) .invalidIntent "receipt requires a durable terminal Close"
  let outcomeName ← requiredTag outcome "outcome"
  requireConfirmation env binding.intent request.orderEventId request.clientConfirmation
  let intentEnvelope ← hardeningEnvelope env binding.intent
  let quoteEnvelope ← hardeningEnvelope env request.quote
  refuseWhen (quoteEnvelope.sessionId ≠ intentEnvelope.sessionId) .invalidIntent
    "receipt Quote belongs to another session"
  let claim ← receiptClaim env binding outcome outcomeName request
  return { scope, binding, outcome, sessionId := intentEnvelope.sessionId, claim }

/-- An earlier receipt for the same Close is returned when it makes the same claim. -/
def replayReceipt (target : ReceiptTarget) (request : SettlementReceiptEmissionRequest) (existing : StoredReceipt) :
    Hardened Event := do
  let existingClaim ← (verifyMktReceiptChain env.toReceiptEnv existing.receipt target.binding.intent
    target.binding.acknowledgment existing.quote target.outcome existing.clientConfirmation).mapError fun detail =>
    (⟨.persistence, "durable receipt chain is invalid: " ++ detail.display⟩ : ProviderHardeningError)
  refuseWhen (existingClaim ≠ target.claim ∨ existing.quote ≠ request.quote ∨
      existing.clientConfirmation ≠ request.clientConfirmation) .idempotencyConflict
    "terminal Close is already bound to a different receipt claim"
  return existing.receipt

/-- The request for the signer, once the journal has room and the unsigned receipt fits the grammar. -/
def ProviderIntentJournal.prepareReceipt (target : ReceiptTarget)
    (createdAt : Nat) : Hardened SigningRequest := do
  refuseWhen (maxReceipts ≤ journal.total (·.receipts.length)) .bounds "receipt journal is full"
  let request ← receiptSigningRequest env journal.providerPubkey target.binding.intent target.sessionId target.claim
    createdAt
  let _ ← hardeningEnvelope env ⟨request.expectedEventId, request.pubkey, request.createdAt, request.kind,
    request.tags, request.content, String.ofList (List.replicate 128 '0')⟩
  return request

/-- The signer's answer, checked against the whole chain. -/
def signedReceipt (target : ReceiptTarget) (request : SettlementReceiptEmissionRequest) (signing : SigningRequest)
    (sign : SigningRequest → Except String Event) : Hardened Event := do
  let receipt ← (sign signing).mapError fun detail =>
    (⟨.signature, "receipt signing failed: " ++ detail⟩ : ProviderHardeningError)
  let receipt ← signing.verifySigned env "receipt" receipt
  let _ ← (verifyMktReceiptChain env.toReceiptEnv receipt target.binding.intent target.binding.acknowledgment
    request.quote target.outcome request.clientConfirmation).mapError fun detail =>
    (⟨.invalidIntent, "signed receipt chain is invalid: " ++ detail.display⟩ : ProviderHardeningError)
  return receipt

/-- `emit_receipt_with_sign`. -/
def ProviderIntentJournal.emitReceiptWithSign
    (request : SettlementReceiptEmissionRequest) (sign : SigningRequest → Except String Event)
    (persist : Snapshot → Except String Unit) : Answer Snapshot ReceiptEmission :=
  match journal.checkReceipt env request with
  | .error error => unchanged journal (.error error) []
  | .ok target =>
    match target.binding.receipts.find? (·.settles request.outcomeEventId) with
    | some existing =>
      unchanged journal ((replayReceipt env target request existing).map .replay) []
    | none =>
      match journal.prepareReceipt env target request.createdAt with
      | .error error => unchanged journal (.error error) []
      | .ok signing =>
        match signedReceipt env target request signing sign with
        | .error error => unchanged journal (.error error) [signing]
        | .ok receipt =>
          commit env journal
            (journal.update target.scope { target.binding with
              receipts := target.binding.receipts ++ [⟨receipt, request.quote, request.clientConfirmation⟩] })
            (.new receipt) [signing] persist "receipt was not persisted: "

/-! ## Restatement -/

structure RedriveRestatement where
  redriveAcknowledgment : Event
  originalAcknowledgment : Event
  outcomes : List Event
  receipts : List Event
deriving DecidableEq

/-- `restate`. -/
def ProviderIntentJournal.restate (redriveEventId : String) :
    Hardened RedriveRestatement := do
  let redriveScope ← journal.scopeForIntent redriveEventId
  let redrive ← journal.binding redriveScope "re-drive is not admitted"
  let redriveRecord ← hardeningRecord env redrive.intent none
  refuseWhen (redriveRecord.kind ≠ .redriveIntent) .invalidIntent "restatement requires a Re-drive Intent"
  let orderEventId ← required redriveRecord.orderEventId .invalidIntent "re-drive has no Order reference"
  let orderScope ← journal.scopeForIntent orderEventId
  let order ← journal.binding orderScope "re-drive Order is not admitted"
  return {
    redriveAcknowledgment := redrive.acknowledgment, originalAcknowledgment := order.acknowledgment,
    outcomes := order.outcomes, receipts := order.receiptEvents }

/-! ## Snapshots -/

/-- One stored receipt against its Close and its chain. -/
def validateStoredReceipt (binding : IntentBinding) (stored : StoredReceipt) : Hardened Unit := do
  let outcomeId ← required ((stored.receipt.tags.find? fun tag => tag[3]? = some "outcome").bind (·[1]?)) .persistence
    "stored receipt has no terminal outcome reference"
  let outcome ← required (binding.outcomes.find? fun event => event.id = outcomeId) .persistence
    "stored receipt outcome is not durable"
  let _ ← (verifyMktReceiptChain env.toReceiptEnv stored.receipt binding.intent binding.acknowledgment stored.quote
    outcome stored.clientConfirmation).mapError fun detail =>
    (⟨.persistence, "stored receipt chain is invalid: " ++ detail.display⟩ : ProviderHardeningError)

def validateStoredOutcome (intentId : String) (outcome : Event) : Hardened Unit := do
  requireSigned env outcome
  requireReference outcome "order" intentId

/-- One binding of a snapshot; the nonce index is rebuilt on the way. -/
def validateBinding (nonces : Std.ExtTreeMap String String)
    (entry : String × IntentBinding) : Hardened (Std.ExtTreeMap String String) := do
  let (scope, binding) := entry
  requireSigned env binding.intent
  let record ← hardeningRecord env binding.intent none
  refuseWhen (scope ≠ scopeKey binding.intent.pubkey record.idempotencyKey) .persistence
    "intent journal scope key does not match its signed event"
  let envelope ← hardeningEnvelope env binding.intent
  refuseWhen (envelope.sessionId ≠ journal.sessionId) .persistence "intent journal contains another session"
  validateAcknowledgment env journal.providerPubkey binding.intent record binding.acknowledgment
  let nonce ← required record.nonce .persistence "stored intent has no nonce"
  binding.outcomes.forM (validateStoredOutcome env binding.intent.id)
  binding.receipts.forM (validateStoredReceipt env binding)
  refuseWhen (binding.intent.kind ≠ mktOrderKind ∧ (binding.effectAttemptClaimed ∨ binding.receipts ≠ [])) .persistence
    "read-only Re-drive contains effect or receipt state"
  return nonces.insert (nonceKey binding.intent.pubkey nonce) binding.intent.id

/-- `validate_snapshot`. -/
def ProviderIntentJournal.validateSnapshot : Hardened Unit := do
  refuseWhen (journal.schema ≠ journalSchema ∧ journal.schema ≠ journalSchemaV1) .persistence
    "intent journal schema is unsupported"
  journalHex32 journal.providerPubkey "provider pubkey"
  journalHex32 journal.sessionId "session id"
  refuseWhen (maxIntentBindings < journal.bindings.size ∨ maxOutcomes < journal.total (·.outcomes.length) ∨
      maxReceipts < journal.total (·.receipts.length)) .bounds "intent journal snapshot exceeds its bounds"
  let nonces ← journal.bindings.toList.foldlM (validateBinding env journal) ∅
  refuseWhen (nonces ≠ journal.nonces) .persistence "intent journal nonce index does not match its bindings"

/-- `restore`. -/
def restore (snapshot : Snapshot) : Hardened ProviderIntentJournal := do
  let journal ← (env.fromSlice snapshot).mapError fun detail =>
    (⟨.persistence, "intent journal snapshot is invalid: " ++ detail⟩ : ProviderHardeningError)
  journal.validateSnapshot env
  return { journal with schema := journalSchema }

end Operations

end Immortal.Provider
