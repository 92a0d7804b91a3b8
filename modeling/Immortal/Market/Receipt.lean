import Immortal.Market.KeyRotation
import Immortal.Client.FlowLegs

/-!
# `Immortal.Market.Receipt` — settlement receipts and the chain of events behind them

A provider's Settlement Receipt names the Order it settles, its acknowledgment, the Quote, the Close that decides
the outcome and, optionally, a confirmation by the requester. `verify_mkt_receipt_chain` checks a receipt against
those events from the signed bytes alone.
-/

namespace Immortal.Market

open Immortal.Domain Txn
open Client (Members Value assetRail quoted rsplitOnce splitOnce stripLead stripTail utf8)

/-! ## Receipts -/

structure MktReceiptLeg where
  legId : String
  assetId : String
  rail : String
  direction : String
  grossAmount : String
  netAmount : String
deriving DecidableEq, Repr

structure MktReceiptFee where
  feeId : String
  assetId : String
  rail : String
  amount : String
  payerRole : String
  recipientRole : String
deriving DecidableEq, Repr

structure MktSettlementReceipt where
  schema : String
  version : Nat
  receiptId : String
  intentEventId : String
  acknowledgmentEventId : String
  quoteEventId : String
  outcomeEventId : String
  clientConfirmationEventId : Option String
  outcome : String
  failureCode : Option String
  startedAt : Nat
  finishedAt : Nat
  legs : List MktReceiptLeg
  fees : List MktReceiptFee
deriving DecidableEq, Repr

def mktReceiptSchema : String := "openagents.mkt.receipt.v1"
def mktReceiptVersion : Nat := 1
def mktReceiptMaxLegs : Nat := 8
def mktReceiptMaxFees : Nat := 16
def mktReceiptOutcomes : List String :=
  ["completed", "cancelled", "expired", "failed", "refunded", "disputed", "unresolved"]
def mktReceiptFailureCodes : List String :=
  ["rail-failed", "expired", "cancelled", "refunded", "verification-failed", "provider-internal", "disputed",
    "unresolved"]
def mktIdentifierMaxBytes : Nat := 64

/-- `serde_json::to_value`. -/
def MktReceiptLeg.toValue (leg : MktReceiptLeg) : Value :=
  .object [("leg_id", .string leg.legId), ("asset_id", .string leg.assetId), ("rail", .string leg.rail),
    ("direction", .string leg.direction), ("gross_amount", .string leg.grossAmount),
    ("net_amount", .string leg.netAmount)]

def MktReceiptFee.toValue (fee : MktReceiptFee) : Value :=
  .object [("fee_id", .string fee.feeId), ("asset_id", .string fee.assetId), ("rail", .string fee.rail),
    ("amount", .string fee.amount), ("payer_role", .string fee.payerRole),
    ("recipient_role", .string fee.recipientRole)]

def MktSettlementReceipt.members (receipt : MktSettlementReceipt) : Members :=
  [("schema", .string receipt.schema), ("version", .integer receipt.version),
    ("receipt_id", .string receipt.receiptId), ("intent_event_id", .string receipt.intentEventId),
    ("acknowledgment_event_id", .string receipt.acknowledgmentEventId),
    ("quote_event_id", .string receipt.quoteEventId), ("outcome_event_id", .string receipt.outcomeEventId),
    ("client_confirmation_event_id", Value.ofOption receipt.clientConfirmationEventId),
    ("outcome", .string receipt.outcome), ("failure_code", Value.ofOption receipt.failureCode),
    ("started_at", .integer receipt.startedAt), ("finished_at", .integer receipt.finishedAt),
    ("legs", .array (receipt.legs.map MktReceiptLeg.toValue)),
    ("fees", .array (receipt.fees.map MktReceiptFee.toValue))]

/-- The market environment with the reader of receipt objects. -/
structure ReceiptEnv extends MktEnv where
  /-- `serde_json::from_value::<MktSettlementReceipt>`, closed to unknown members. -/
  receiptOfValue : Value → Except String MktSettlementReceipt

def canonicalMktReceiptContent (sessionId : String) (receipt : MktSettlementReceipt) : Except String String := do
  lowerHex32 sessionId "receipt session id"
  canonicalText
    (.object [("schema", .string mktHardeningSchema), ("protocol_rev", .integer mktHardeningProtocolRevision),
      ("profile", .string mktSwpProfileId), ("profile_version", .integer mktSwpProfileVersion),
      ("session_id", .string sessionId), ("receipt", .object receipt.members)])
    "canonical mkt receipt unexpectedly produced invalid UTF-8"

/-! ## The claim -/

def requireEnum (value : String) (allowed : List String) (subject : String) : Except String Unit :=
  failIf (value ∉ allowed) (subject ++ " is unknown")

def isIdentifierHead (byte : UInt8) : Bool := (97 ≤ byte && byte ≤ 122) || (48 ≤ byte && byte ≤ 57)

/-- `validate_identifier`: `[a-z0-9][a-z0-9._-]*`. -/
def validateIdentifier (value subject : String) : Except String Unit :=
  let accepted := match utf8 value with
    | [] => false
    | head :: rest =>
      rest.length < mktIdentifierMaxBytes && isIdentifierHead head &&
        rest.all fun byte => isIdentifierHead byte || byte = 46 || byte = 95 || byte = 45
  failIf (accepted = false) (subject ++ " must match [a-z0-9][a-z0-9._-]* within 64 bytes")

def invalidAssetId (detail : String) : Except String String := .error ("swp_invalid_asset_id: " ++ detail)

def validateSwpNetworkId (value : Bytes) : Except String Unit :=
  match stripLead (utf8 "bip122:") value with
  | none => .error "swp_invalid_asset_id: network ID must use bip122"
  | some reference =>
    failIf (Client.isLowerHex 32 reference = false)
      "swp_invalid_asset_id: network ID has an invalid BIP-122 reference"

/-- `validate_swp_asset_id`; only the rail is used. -/
def validateSwpAssetId (value : String) : Except String String :=
  match stripLead (utf8 "swp:1:") (utf8 value) with
  | none => invalidAssetId "asset ID has the wrong profile"
  | some value =>
    match rsplitOnce (utf8 ":btc:") value with
    | some (network, rail) => do
      validateSwpNetworkId network
      if rail = utf8 "chain" then return "chain"
      else if rail = utf8 "lightning" then return "lightning"
      else invalidAssetId "asset ID has an unknown rail"
    | none =>
      match splitOnce (utf8 ":elements:") value with
      | none => invalidAssetId "asset ID has the wrong shape"
      | some (network, liquid) =>
        match stripTail (utf8 ":liquid") liquid with
        | none => invalidAssetId "Elements asset ID has an unknown rail"
        | some asset => do
          validateSwpNetworkId network
          if Client.isLowerHex 64 asset then return "liquid"
          else invalidAssetId "Elements asset ID is not lowercase 32-byte hex"

def validateReceiptAssetRail (assetId rail : String) : Except String Unit := do
  let assetRail ← validateSwpAssetId assetId
  let expected := if assetRail = "chain" then "bitcoin" else assetRail
  failIf (rail ≠ expected) "mkt_receipt_invalid: asset and rail do not agree"

/-- One leg, after the ids of the legs before it. -/
def validateReceiptLeg (legIds : List String) (leg : MktReceiptLeg) : Except String (List String) := do
  validateIdentifier leg.legId "receipt leg id"
  failIf (leg.legId ∈ legIds) "mkt_receipt_invalid: duplicate receipt leg id"
  validateReceiptAssetRail leg.assetId leg.rail
  requireEnum leg.direction ["provider-receives", "provider-sends"] "receipt leg direction"
  let _ ← canonicalDecimal leg.grossAmount false "receipt gross_amount"
  let _ ← canonicalDecimal leg.netAmount false "receipt net_amount"
  return leg.legId :: legIds

def validateReceiptFee (feeIds : List String) (fee : MktReceiptFee) : Except String (List String) := do
  validateIdentifier fee.feeId "receipt fee id"
  failIf (fee.feeId ∈ feeIds) "mkt_receipt_invalid: duplicate receipt fee id"
  validateReceiptAssetRail fee.assetId fee.rail
  let _ ← canonicalDecimal fee.amount false "receipt fee amount"
  requireEnum fee.payerRole ["requester", "provider", "external"] "receipt fee payer role"
  requireEnum fee.recipientRole ["requester", "provider", "external"] "receipt fee recipient role"
  return fee.feeId :: feeIds

/-- A completed receipt carries no failure code, any other carries one of the list. -/
def validateFailureCode (outcome : String) (failureCode : Option String) : Except String Unit :=
  if outcome = "completed" then
    failIf failureCode.isSome "mkt_receipt_invalid: completed receipt failure_code must be null"
  else
    failIf (failureCode.all (· ∉ mktReceiptFailureCodes))
      "mkt_receipt_invalid: non-completed receipt requires a typed failure_code"

section Chain

variable (env : ReceiptEnv)

/-- `mkt_receipt_id`. -/
def mktReceiptId (receipt : MktSettlementReceipt) : Except String String :=
  env.contentId receipt.members "receipt_id"

/-- `validate_receipt_claim`. The search for forbidden member names is left out: it reads the names of the claim's
    own fields, which are fixed and none of which is forbidden. -/
def validateReceiptClaim (receipt : MktSettlementReceipt) : Except String Unit := do
  failIf (receipt.schema ≠ mktReceiptSchema ∨ receipt.version ≠ mktReceiptVersion)
    "mkt_receipt_unsupported_version: receipt schema/version is unsupported"
  lowerHex32 receipt.receiptId "receipt receipt_id"
  lowerHex32 receipt.intentEventId "receipt intent_event_id"
  lowerHex32 receipt.acknowledgmentEventId "receipt acknowledgment_event_id"
  lowerHex32 receipt.quoteEventId "receipt quote_event_id"
  lowerHex32 receipt.outcomeEventId "receipt outcome_event_id"
  match receipt.clientConfirmationEventId with
  | some value => lowerHex32 value "receipt client_confirmation_event_id"
  | none => .ok ()
  requireEnum receipt.outcome mktReceiptOutcomes "receipt outcome"
  validateFailureCode receipt.outcome receipt.failureCode
  failIf (receipt.finishedAt < receipt.startedAt) "mkt_receipt_invalid: finished_at precedes started_at"
  failIf (receipt.legs = [] ∨ mktReceiptMaxLegs < receipt.legs.length)
    "mkt_receipt_bounds: receipt requires 1..=8 legs"
  failIf (mktReceiptMaxFees < receipt.fees.length) "mkt_receipt_bounds: receipt exceeds 16 fees"
  let _ ← receipt.legs.foldlM validateReceiptLeg []
  let _ ← receipt.fees.foldlM validateReceiptFee []
  let id ← mktReceiptId env receipt
  failIf (id ≠ receipt.receiptId) "mkt_receipt_digest_mismatch: receipt_id does not bind the canonical claim"

/-! ## The receipt event -/

def hardeningTag (event : Event) (name : String) : Except String String :=
  singleValue event name "revision-2 MKT-SWP record"

/-- `receipt_closed`. -/
def receiptClosed (members : Members) (allowed : List String) (subject : String) : Except String Unit :=
  failIf (members.length ≠ allowed.length ∨ members.any (fun member => member.1 ∉ allowed))
    ("mkt_receipt_invalid: " ++ subject ++ " is not closed")

/-- `receipt_reference`: as many references with the marker as the claim names, with the id it names. -/
def receiptReference (event : Event) (marker : String) (required : Bool) (expected : Option String) :
    Except String Unit := do
  let expectedCount := if required || expected.isSome then 1 else 0
  failIf ((marked event marker).length ≠ expectedCount)
    ("mkt_receipt_invalid: receipt requires " ++ toString expectedCount ++ " " ++ marker ++ " reference")
  match expected with
  | none => .ok ()
  | some expected =>
    failIf ((marked event marker).all fun tag => tag.length ≠ 4 || tag[1]? ≠ some expected)
      ("mkt_receipt_invalid: " ++ marker ++ " reference does not agree with content")

/-- One counterparty, marked as requester, who is not the author. -/
def requesterCounterparty (event : Event) : Bool :=
  match named event "p" with
  | [tag] => tag.length = 4 && tag[3]? = some "requester" && tag[1]? ≠ some event.pubkey
  | _ => false

def readReceipt (body : Members) : Except String MktSettlementReceipt :=
  match body.get "receipt" with
  | none => .error "mkt_receipt_invalid: content requires receipt object"
  | some value =>
    explained (env.receiptOfValue value) ("mkt_receipt_invalid: receipt is not a closed version-1 object: " ++ ·)

def validateMktReceiptEvent (event : Event) (envelope : MktPrivateEnvelope) :
    Except String MktSettlementReceipt := do
  failIf (event.kind ≠ mktSwpSettlementReceiptKind ∨ envelope.schema ≠ mktHardeningSchema ∨
      envelope.protocolRevision ≠ mktHardeningProtocolRevision ∨ envelope.profileId ≠ mktSwpProfileId ∨
      envelope.profileVersion ≠ mktSwpProfileVersion)
    "mkt_receipt_unsupported_version: receipt requires MKT-SWP revision 2"
  receiptClosed envelope.body ["schema", "protocol_rev", "profile", "profile_version", "session_id", "receipt"]
    "outer content"
  let receipt ← readReceipt env envelope.body
  validateReceiptClaim env receipt
  let content ← canonicalMktReceiptContent envelope.sessionId receipt
  failIf (event.content ≠ content) "mkt_receipt_noncanonical: content is not canonical JSON"
  let distinct ← hardeningTag event "d"
  failIf (distinct ≠ receipt.receiptId) "mkt_receipt_digest_mismatch: d does not equal receipt_id"
  let version ← hardeningTag event "receipt"
  failIf (version ≠ toString mktReceiptVersion) "mkt_receipt_unsupported_version: receipt tag must be 1"
  let outcome ← hardeningTag event "outcome"
  failIf (outcome ≠ receipt.outcome) "mkt_receipt_invalid: outcome tag does not agree with content"
  let alt ← hardeningTag event "alt"
  failIf (alt ≠ "MKT-SWP Settlement Receipt") "mkt_receipt_invalid: alt tag is not the receipt protocol label"
  receiptReference event "intent" true (some receipt.intentEventId)
  receiptReference event "ack" true (some receipt.acknowledgmentEventId)
  receiptReference event "quote" true (some receipt.quoteEventId)
  receiptReference event "outcome" true (some receipt.outcomeEventId)
  receiptReference event "client-confirmation" false receipt.clientConfirmationEventId
  failIf (requesterCounterparty event = false)
    "mkt_receipt_invalid: receipt requires one distinct requester counterparty"
  return receipt

/-! ## The chain -/

inductive MktReceiptChainErrorCode where
  | incomplete
  | invalid
deriving DecidableEq, Repr

structure MktReceiptChainError where
  code : MktReceiptChainErrorCode
  detail : String
deriving DecidableEq, Repr

def MktReceiptChainErrorCode.text : MktReceiptChainErrorCode → String
  | .incomplete => "mkt_receipt_chain_incomplete"
  | .invalid => "mkt_receipt_chain_invalid"

/-- `Display`. -/
def MktReceiptChainError.display (error : MktReceiptChainError) : String := error.code.text ++ ": " ++ error.detail

def MktNetworkChainErrorCode.text : MktNetworkChainErrorCode → String
  | .incomplete => "mkt_network_chain_incomplete"
  | .invalid => "mkt_network_chain_invalid"
  | .ambiguous => "mkt_network_chain_ambiguous"

def MktNetworkChainError.display (error : MktNetworkChainError) : String := error.code.text ++ ": " ++ error.detail

/-- `validate_provider_event`: the event is signed, by the key active at its time. -/
def MktProviderKeyChain.validateProviderEvent (chain : MktProviderKeyChain) (event : Event) :
    Except MktNetworkChainError Unit := do
  networkChecked (explained (env.validateSigned event) ("provider event signature is invalid: " ++ ·.display)) .invalid
  let expected := chain.activePubkeyAt event.createdAt
  networkChecked (failIf (event.pubkey ≠ expected)
    ("provider event at " ++ toString event.createdAt ++ " requires signer " ++ expected ++ ", got " ++ event.pubkey))
    .invalid

def validateReceiptChainSignature (name : String) (event : Event) : Except String Unit :=
  explained (env.validateSigned event) ("mkt_receipt_chain_invalid: " ++ name ++ " signature: " ++ ·.display)

/-- `receipt_reference_value`: the id in the one reference with the marker. -/
def receiptReferenceValue (event : Event) (marker : String) : Except String String :=
  match marked event marker with
  | [_ :: value :: _ :: _ :: _] => .ok value
  | _ => .error ("mkt_receipt_chain_invalid: expected one " ++ marker ++ " reference")

/-- `role_pubkey`: the key in the one four-element tag with the role. -/
def rolePubkey (event : Event) (role : String) : Except String String :=
  match marked event role with
  | [[_, pubkey, _, _]] => .ok pubkey
  | _ => .error ("mkt_receipt_chain_invalid: expected one " ++ role ++ " counterparty")

/-- The envelope of one event of the chain. -/
def chainEnvelope (name : String) (event : Event) : Except String MktPrivateEnvelope :=
  explained (env.validateMktPrivate event) ("mkt_receipt_chain_invalid: " ++ name ++ ": " ++ ·.display)

/-- The author of receipt, acknowledgment and Quote: by the supplied keys, or one key for the three. -/
def validateProviderAuthors (receiptEvent acknowledgment quote : Event) :
    Option MktProviderKeyChain → Except String Unit
  | some providerKeys => do
    let check (name : String) (event : Event) := explained (providerKeys.validateProviderEvent env event)
      ("mkt_receipt_chain_invalid: " ++ name ++ " provider rotation: " ++ ·.display)
    check "quote" quote
    check "acknowledgment" acknowledgment
    check "receipt" receiptEvent
  | none =>
    failIf (receiptEvent.pubkey ≠ acknowledgment.pubkey ∨ receiptEvent.pubkey ≠ quote.pubkey)
      "mkt_receipt_chain_invalid: receipt, acknowledgment, and quote require one provider author"

def validateClientConfirmation (intent : Event) : Option String → Option Event → Except String Unit
  | none, none => .ok ()
  | some expected, some event => do
    validateReceiptChainSignature env "client confirmation" event
    let unbound := "mkt_receipt_chain_invalid: requester confirmation is not bound to the Order"
    failIf (event.id ≠ expected ∨ event.pubkey ≠ intent.pubkey) unbound
    let order ← receiptReferenceValue event "order"
    failIf (order ≠ intent.id) unbound
  | _, _ => .error "mkt_receipt_chain_incomplete: requester confirmation link is missing or unexpected"

/-- `verify_mkt_receipt_chain_inner`. -/
def verifyMktReceiptChainInner (receiptEvent intent acknowledgment quote outcome : Event)
    (clientConfirmation : Option Event) (providerKeys : Option MktProviderKeyChain) :
    Except String MktSettlementReceipt := do
  validateReceiptChainSignature env "receipt" receiptEvent
  validateReceiptChainSignature env "intent" intent
  validateReceiptChainSignature env "acknowledgment" acknowledgment
  validateReceiptChainSignature env "quote" quote
  validateReceiptChainSignature env "outcome" outcome
  failIf (intent.kind ≠ mktOrderKind ∨ acknowledgment.kind ≠ mktSwpIntentAckKind ∨ quote.kind ≠ mktQuoteKind ∨
      outcome.kind ≠ mktCloseKind)
    "mkt_receipt_chain_invalid: chain requires Order, Ack, Quote, and terminal Close"
  let receiptEnvelope ← chainEnvelope env "receipt" receiptEvent
  let intentEnvelope ← chainEnvelope env "intent" intent
  let acknowledgmentEnvelope ← chainEnvelope env "acknowledgment" acknowledgment
  let quoteEnvelope ← chainEnvelope env "quote" quote
  let outcomeEnvelope ← chainEnvelope env "outcome" outcome
  let receipt ← validateMktReceiptEvent env receiptEvent receiptEnvelope
  failIf (receipt.intentEventId ≠ intent.id ∨ receipt.acknowledgmentEventId ≠ acknowledgment.id ∨
      receipt.quoteEventId ≠ quote.id ∨ receipt.outcomeEventId ≠ outcome.id)
    "mkt_receipt_chain_invalid: receipt event IDs do not match the chain"
  validateProviderAuthors env receiptEvent acknowledgment quote providerKeys
  let strange := "mkt_receipt_chain_invalid: requester counterparty does not match Order author"
  let receiptRequester ← rolePubkey receiptEvent "requester"
  failIf (receiptRequester ≠ intent.pubkey) strange
  let acknowledgmentRequester ← rolePubkey acknowledgment "requester"
  failIf (acknowledgmentRequester ≠ intent.pubkey) strange
  let broken := "mkt_receipt_chain_invalid: a causal reference is broken"
  let orderQuote ← receiptReferenceValue intent "quote"
  failIf (orderQuote ≠ quote.id) broken
  let acknowledged ← receiptReferenceValue acknowledgment "intent"
  failIf (acknowledged ≠ intent.id) broken
  let closed ← receiptReferenceValue outcome "order"
  failIf (closed ≠ intent.id) broken
  let disagree := "mkt_receipt_chain_invalid: Ack disposition or Close outcome does not agree"
  let disposition ← hardeningTag acknowledgment "ack"
  failIf (disposition ≠ "accepted") disagree
  let outcomeName ← hardeningTag outcome "outcome"
  failIf (outcomeName ≠ receipt.outcome) disagree
  failIf (intentEnvelope.sessionId ≠ receiptEnvelope.sessionId ∨
      acknowledgmentEnvelope.sessionId ≠ receiptEnvelope.sessionId ∨
      quoteEnvelope.sessionId ≠ receiptEnvelope.sessionId ∨ outcomeEnvelope.sessionId ≠ receiptEnvelope.sessionId)
    "mkt_receipt_chain_invalid: session IDs do not agree"
  validateClientConfirmation env intent receipt.clientConfirmationEventId clientConfirmation
  return receipt

/-- `receipt_chain_error`. -/
def receiptChainError (detail : String) : MktReceiptChainError :=
  ⟨if "mkt_receipt_chain_incomplete:".isPrefixOf detail then .incomplete else .invalid, detail⟩

def verifyMktReceiptChain (receiptEvent intent acknowledgment quote outcome : Event)
    (clientConfirmation : Option Event) : Except MktReceiptChainError MktSettlementReceipt :=
  (verifyMktReceiptChainInner env receiptEvent intent acknowledgment quote outcome clientConfirmation none).mapError
    receiptChainError

def verifyMktReceiptChainWithProviderKeys (receiptEvent intent acknowledgment quote outcome : Event)
    (clientConfirmation : Option Event) (providerKeys : MktProviderKeyChain) :
    Except MktReceiptChainError MktSettlementReceipt :=
  (verifyMktReceiptChainInner env receiptEvent intent acknowledgment quote outcome clientConfirmation
    (some providerKeys)).mapError receiptChainError

/-- What the verifier that fits the supplied keys returns. -/
def VerifiedChain (receiptEvent intent acknowledgment quote outcome : Event) (clientConfirmation : Option Event)
    (receipt : MktSettlementReceipt) : Option MktProviderKeyChain → Prop
  | none => verifyMktReceiptChain env receiptEvent intent acknowledgment quote outcome clientConfirmation = .ok receipt
  | some providerKeys =>
    verifyMktReceiptChainWithProviderKeys env receiptEvent intent acknowledgment quote outcome clientConfirmation
      providerKeys = .ok receipt

/-! ## Who wrote an accepted chain -/

/-- The session a record is tagged with. -/
def sessionTag (event : Event) : Except String String := singleValue event "session" "private MKT event"

/-- The envelope grammar takes the session of a record from its `session` tag. -/
def MktEnv.SessionTagged (env : MktEnv) : Prop :=
  ∀ event envelope, env.validateMktPrivate event = .ok envelope → sessionTag event = .ok envelope.sessionId

/-- The record carries one reference with the marker, and it names that event. -/
def ReferencesOnly (event : Event) (marker id : String) : Prop :=
  ∃ tag, marked event marker = [tag] ∧ tag.value = some id

/-- The author is the provider: the key active at the event's time, or the receipt's own key for the whole chain. -/
def ByProvider (receiptEvent : Event) (providerKeys : Option MktProviderKeyChain) (event : Event) : Prop :=
  match providerKeys with
  | some keys => event.pubkey = keys.activePubkeyAt event.createdAt
  | none => event.pubkey = receiptEvent.pubkey

/-- The events of a chain. -/
def chainEvents (receiptEvent intent acknowledgment quote outcome : Event) (clientConfirmation : Option Event) :
    List Event :=
  [receiptEvent, intent, acknowledgment, quote, outcome] ++ clientConfirmation.toList

/-- **A chain that is the work of its two parties**: one session, the references that tie it together, and every
    event signed by the requester or by the provider. -/
structure Authored (receiptEvent intent acknowledgment quote outcome : Event) (clientConfirmation : Option Event)
    (providerKeys : Option MktProviderKeyChain) : Prop where
  session : ∃ session, ∀ event ∈ chainEvents receiptEvent intent acknowledgment quote outcome clientConfirmation,
    sessionTag event = .ok session
  quoted : ReferencesOnly intent "quote" quote.id
  acknowledged : ReferencesOnly acknowledgment "intent" intent.id
  closed : ReferencesOnly outcome "order" intent.id
  signed : ∀ event ∈ chainEvents receiptEvent intent acknowledgment quote outcome clientConfirmation,
    env.validateSigned event = .ok ()
  party : ∀ event ∈ chainEvents receiptEvent intent acknowledgment quote outcome clientConfirmation,
    event.pubkey = intent.pubkey ∨ ByProvider receiptEvent providerKeys event

variable {env} {receiptEvent intent acknowledgment quote outcome : Event} {clientConfirmation : Option Event}
  {providerKeys : Option MktProviderKeyChain} {receipt : MktSettlementReceipt}

theorem receiptReferenceValue_eq_ok {event : Event} {marker value : String}
    (h : receiptReferenceValue event marker = .ok value) : ReferencesOnly event marker value := by
  unfold receiptReferenceValue at h
  split at h
  · rename_i name found hint mark rest hmarked
    cases h
    exact ⟨_, hmarked, rfl⟩
  · cases h

theorem validateProviderAuthors_eq_ok
    (h : validateProviderAuthors env receiptEvent acknowledgment quote providerKeys = .ok ()) :
    ByProvider receiptEvent providerKeys receiptEvent ∧ ByProvider receiptEvent providerKeys acknowledgment ∧
      ByProvider receiptEvent providerKeys quote := by
  cases providerKeys with
  | none =>
    simp only [validateProviderAuthors, failIf_eq_ok, not_or, not_not] at h
    exact ⟨rfl, h.1.symm, h.2.symm⟩
  | some keys =>
    simp only [validateProviderAuthors, MktProviderKeyChain.validateProviderEvent, networkChecked, check_bind_eq_ok,
      explained_eq_ok, mapError_eq_ok, failIf_eq_ok, not_not] at h
    obtain ⟨⟨-, hquote⟩, ⟨-, hacknowledgment⟩, -, hreceipt⟩ := h
    exact ⟨hreceipt, hacknowledgment, hquote⟩

theorem validateClientConfirmation_eq_ok {expected : Option String}
    (h : validateClientConfirmation env intent expected clientConfirmation = .ok ()) :
    ∀ event ∈ clientConfirmation, env.validateSigned event = .ok () ∧ event.pubkey = intent.pubkey ∧
      ReferencesOnly event "order" intent.id := by
  intro event hevent
  obtain rfl : clientConfirmation = some event := hevent
  cases expected with
  | none => simp [validateClientConfirmation] at h
  | some expected =>
    simp only [validateClientConfirmation, validateReceiptChainSignature, bind_eq_ok, explained_eq_ok, failIf_eq_ok,
      not_or, not_not] at h
    obtain ⟨_, hsigned, _, ⟨-, hauthor⟩, order, horder, rfl⟩ := h
    exact ⟨hsigned, hauthor, receiptReferenceValue_eq_ok horder⟩

/-- What the verifier has checked of the events of an accepted chain. -/
theorem verifyMktReceiptChainInner_ok
    (h : verifyMktReceiptChainInner env receiptEvent intent acknowledgment quote outcome clientConfirmation
      providerKeys = .ok receipt) :
    (∀ event ∈ [receiptEvent, intent, acknowledgment, quote, outcome], env.validateSigned event = .ok ()) ∧
      (∃ session, ∀ event ∈ [receiptEvent, intent, acknowledgment, quote, outcome],
        ∃ envelope, env.validateMktPrivate event = .ok envelope ∧ envelope.sessionId = session) ∧
      validateProviderAuthors env receiptEvent acknowledgment quote providerKeys = .ok () ∧
      ReferencesOnly intent "quote" quote.id ∧ ReferencesOnly acknowledgment "intent" intent.id ∧
      ReferencesOnly outcome "order" intent.id ∧
      validateClientConfirmation env intent receipt.clientConfirmationEventId clientConfirmation = .ok () := by
  simp only [verifyMktReceiptChainInner, validateReceiptChainSignature, chainEnvelope, bind_eq_ok, explained_eq_ok,
    failIf_eq_ok, not_or, not_not, pure, Except.pure, Except.ok.injEq] at h
  obtain ⟨_, hs₁, _, hs₂, _, hs₃, _, hs₄, _, hs₅, _, -, e₁, he₁, e₂, he₂, e₃, he₃, e₄, he₄, e₅, he₅, receipt', -, _, -,
    _, hauthors, _, -, _, -, _, -, _, -, _, hquote, _, rfl, _, hack, _, rfl, _, horder, _, rfl, _, -, _, -, _, -, _, -,
    _, ⟨h₂, h₃, h₄, h₅⟩, _, hconfirmation, rfl⟩ := h
  refine ⟨by simp [hs₁, hs₂, hs₃, hs₄, hs₅], ⟨e₁.sessionId, ?_⟩, hauthors, receiptReferenceValue_eq_ok hquote,
    receiptReferenceValue_eq_ok hack, receiptReferenceValue_eq_ok horder, hconfirmation⟩
  simp [he₁, he₂, he₃, he₄, he₅, h₂, h₃, h₄, h₅]

theorem verifiedChain_iff :
    VerifiedChain env receiptEvent intent acknowledgment quote outcome clientConfirmation receipt providerKeys ↔
      verifyMktReceiptChainInner env receiptEvent intent acknowledgment quote outcome clientConfirmation
        providerKeys = .ok receipt := by
  cases providerKeys <;>
    simp [VerifiedChain, verifyMktReceiptChain, verifyMktReceiptChainWithProviderKeys, mapError_eq_ok]

end Chain

/-- **Receipt chains and their authors.** An accepted chain is the work of its two parties exactly when the Close was
    signed by one of them and the requester's confirmation, where there is one, is tagged with the chain's session:
    the verifier ties every other event to its author, its references and the session. -/
theorem receipt_chain_authored_iff (env : ReceiptEnv) (hsession : env.SessionTagged)
    (receiptEvent intent acknowledgment quote outcome : Event) (clientConfirmation : Option Event)
    (providerKeys : Option MktProviderKeyChain) (receipt : MktSettlementReceipt)
    (h : VerifiedChain env receiptEvent intent acknowledgment quote outcome clientConfirmation receipt providerKeys) :
    Authored env receiptEvent intent acknowledgment quote outcome clientConfirmation providerKeys ↔
      (outcome.pubkey = intent.pubkey ∨ ByProvider receiptEvent providerKeys outcome) ∧
        ∀ confirmation ∈ clientConfirmation, sessionTag confirmation = sessionTag receiptEvent := by
  obtain ⟨hsigned, ⟨session, henvelopes⟩, hauthors, hquoted, hacknowledged, hclosed, hconfirmation⟩ :=
    verifyMktReceiptChainInner_ok (verifiedChain_iff.mp h)
  have hconfirmed := validateClientConfirmation_eq_ok hconfirmation
  obtain ⟨hreceipt, hack, hquote⟩ := validateProviderAuthors_eq_ok hauthors
  have htags : ∀ event ∈ [receiptEvent, intent, acknowledgment, quote, outcome], sessionTag event = .ok session := by
    intro event hevent
    obtain ⟨envelope, henvelope, rfl⟩ := henvelopes event hevent
    exact hsession event envelope henvelope
  have hreceiptTag : sessionTag receiptEvent = .ok session := htags receiptEvent List.mem_cons_self
  constructor
  · intro hauthored
    obtain ⟨session', hsame⟩ := hauthored.session
    refine ⟨hauthored.party outcome (by simp [chainEvents]), fun confirmation hmem => ?_⟩
    rw [hsame confirmation (by simp [chainEvents, Option.mem_def.mp hmem]), hsame receiptEvent (by simp [chainEvents])]
  · rintro ⟨hclose, hconfirmationTag⟩
    refine ⟨⟨session, ?_⟩, hquoted, hacknowledged, hclosed, ?_, ?_⟩
    · refine List.forall_mem_append.mpr ⟨htags, fun event hevent => ?_⟩
      rw [hconfirmationTag event (Option.mem_toList.mp hevent), hreceiptTag]
    · exact List.forall_mem_append.mpr ⟨hsigned, fun event hevent => (hconfirmed event (Option.mem_toList.mp hevent)).1⟩
    · intro event hevent
      rcases List.mem_append.mp hevent with hevent | hevent
      · -- the Order is the requester's own; the receipt, the acknowledgment and the Quote are the provider's
        simp only [List.mem_cons, List.not_mem_nil, or_false] at hevent
        rcases hevent with rfl | rfl | rfl | rfl | rfl
        · exact .inr hreceipt
        · exact .inl rfl
        · exact .inr hack
        · exact .inr hquote
        · exact hclose
      · exact .inl (hconfirmed event (Option.mem_toList.mp hevent)).2.1

/-! ### A Close by a third key -/

def chainRequester : String := "1b84c5567b126440995d3ed5aaba0565d71e1834604819ff9c17f5e9d5dd078f"

def chainSession : String := "aaaaaaaaaaaaaaaaaaaaaaaaaaaaaaaaaaaaaaaaaaaaaaaaaaaaaaaaaaaaaaaa"

def chainKey : String := "2222222222222222222222222222222222222222222222222222222222222222"

def chainNonce : String := "cccccccccccccccccccccccccccccccccccccccccccccccccccccccccccccccc"

/-- The tags every record of the session begins with. -/
def sessionTags (distinct counterparty role alt : String) : List Tag :=
  [["d", distinct], ["session", chainSession], ["profile", "mkt-swp", "1"], ["p", counterparty, "", role], ["alt", alt]]

/-- The content of a record that has nothing to add to its tags. -/
def plainContent : String :=
  "\x7b\"mkt_swp\":\x7b\x7d,\"profile\":\"mkt-swp\",\"profile_version\":1,\"schema\":\"openagents.mkt.v1\",\"sessi" ++
  "on_id\":\"" ++ chainSession ++ "\"\x7d"

def chainQuote : Event where
  id := "5e374533e48906d8937cff32972202390b784dd5ded47e9ae6aa7731279cd4e0"
  pubkey := demoProvider
  createdAt := 990
  kind := 39605
  tags := sessionTags "1111111111111111111111111111111111111111111111111111111111111111" chainRequester "requester"
    "MKT-SWP Quote"
  content := plainContent
  sig := "59454b2f035d67c15a784c3f803e58a294f778f13aee0b0f12a36aee38464c15" ++
    "991f296b86b3be219f619ac34f6917808f847181f9fed553ada9c53e9265cc23"

def chainOrder : Event where
  id := "5a09dd836499e38d7a4ed51099476b1d5f36bb80c8e4af222ac31f41b20353d8"
  pubkey := chainRequester
  createdAt := 1000
  kind := 39606
  tags := sessionTags chainKey demoProvider "provider" "MKT-SWP Order" ++
    [["e", chainQuote.id, "", "quote"], ["intent", "effectful"], ["nonce", chainNonce], ["nonce_at", "1000"],
      ["response", chainRequester]]
  content :=
    "\x7b\"intent\":\x7b\"ack_deadline_seconds\":30,\"idempotency_key\":\"" ++ chainKey ++ "\",\"nonce\":\"" ++
    chainNonce ++ "\",\"nonce_at\":1000,\"outcome_deadline_seconds\":300,\"response_pubkey\":\"" ++ chainRequester ++
    "\"\x7d,\"mkt_swp\":\x7b\x7d,\"profile\":\"mkt-swp\",\"profile_version\":1,\"protocol_rev\":2,\"schema\":\"opena" ++
    "gents.mkt.v2\",\"session_id\":\"" ++ chainSession ++ "\"\x7d"
  sig := "a8d276c16fe99dfb64d11286ddba3bcb331088b693f3825785670ee816fed5c3" ++
    "db6f7ac16533bce69c5fa9dccbd1af95625b2dff47395b614899b3b6180f8cda"

/-- The tags and the content of the acknowledgment of an intent. -/
def ackTags (distinct requester intentId expiration : String) : List Tag :=
  sessionTags distinct requester "requester" "MKT-SWP Intent Acknowledgment" ++
    [["e", intentId, "", "intent"], ["ack", "accepted"], ["response", requester], ["expiration", expiration]]

def ackContent (intentId idempotencyKey acceptedAt : String) : String :=
  "\x7b\"ack\":\x7b\"accepted_at\":" ++ acceptedAt ++
  ",\"disposition\":\"accepted\",\"error_code\":null,\"idempotency_key\":\"" ++ idempotencyKey ++
  "\",\"intent_event_id\":\"" ++ intentId ++
  "\"\x7d,\"profile\":\"mkt-swp\",\"profile_version\":1,\"protocol_rev\":2,\"schema\":\"openagents.mkt.v2\",\"sess" ++
  "ion_id\":\"" ++ chainSession ++ "\"\x7d"

def chainAck : Event where
  id := "8c8be82b2730f8e41ac2cd66046581c21a84cb7fe4f3309fc98566784d46b33c"
  pubkey := demoProvider
  createdAt := 1001
  kind := 39611
  tags := ackTags "126199e2af54ea45839ed050c9c6bbd8845f6fecd26794371b8fa04ed3a20f2b" chainRequester
    chainOrder.id "1301"
  content := ackContent chainOrder.id chainKey "1001"
  sig := "829d07bd67627ba13dbf9ba15ddcdb9687211feda5600e2350bc540ea2b4cbca" ++
    "037cd15d5f22284c29eb4c8e0efc633830b076d9ae2039d995cfad9ba1fced90"

def closeTags (distinct closedAt : String) : List Tag :=
  sessionTags distinct chainRequester "requester" "MKT-SWP Close" ++
    [["e", chainOrder.id, "", "order"], ["outcome", "completed"], ["terminal_at", closedAt]]

/-- A Close of the Order by a key that is neither the requester's nor the provider's. -/
def strangerClose : Event where
  id := "136e06431d9d376f8d1b2e3aa8abfab2b35d324eb14fa75501d2986fd546bcee"
  pubkey := demoSuccessor
  createdAt := 1091
  kind := 39609
  tags := closeTags "5555555555555555555555555555555555555555555555555555555555555555" "1091"
  content := plainContent
  sig := "cdacb8d66510c6796b651cd69f6cb30a8b18c06351ed84402146537e09604fbb" ++
    "d09550ee9d2bd03cae07fec2aa24b2a286625b35fcca4f28f6881b841ca53145"

/-- The claim that the Close with that id settles the Order, with the tags and the content of its receipt. -/
def settledClaim (closeId receiptId : String) (finishedAt : Nat) : MktSettlementReceipt where
  schema := mktReceiptSchema
  version := mktReceiptVersion
  receiptId
  intentEventId := chainOrder.id
  acknowledgmentEventId := chainAck.id
  quoteEventId := chainQuote.id
  outcomeEventId := closeId
  clientConfirmationEventId := none
  outcome := "completed"
  failureCode := none
  startedAt := 1000
  finishedAt
  legs := [⟨"source", "swp:1:bip122:00000000000000000000000000000000:btc:chain", "bitcoin", "provider-receives", "100000", "100000"⟩]
  fees := []

def receiptTags (closeId receiptId : String) : List Tag :=
  sessionTags receiptId chainRequester "requester" "MKT-SWP Settlement Receipt" ++
    [["e", chainOrder.id, "", "intent"], ["e", chainAck.id, "", "ack"], ["e", chainQuote.id, "", "quote"],
      ["e", closeId, "", "outcome"], ["outcome", "completed"], ["receipt", "1"]]

def receiptContent (closeId receiptId finishedAt : String) : String :=
  "\x7b\"profile\":\"mkt-swp\",\"profile_version\":1,\"protocol_rev\":2,\"receipt\":\x7b\"acknowledgment_event_id\"" ++
  ":\"" ++ chainAck.id ++
  "\",\"client_confirmation_event_id\":null,\"failure_code\":null,\"fees\":[],\"finished_at\":" ++ finishedAt ++
  ",\"intent_event_id\":\"" ++ chainOrder.id ++
  "\",\"legs\":[\x7b\"asset_id\":\"swp:1:bip122:00000000000000000000000000000000:btc:chain\",\"direction\":\"provi" ++
  "der-receives\",\"gross_amount\":\"100000\",\"leg_id\":\"source\",\"net_amount\":\"100000\",\"rail\":\"bitcoin\"" ++
  "\x7d],\"outcome\":\"completed\",\"outcome_event_id\":\"" ++ closeId ++ "\",\"quote_event_id\":\"" ++ chainQuote.id ++
  "\",\"receipt_id\":\"" ++ receiptId ++
  "\",\"schema\":\"openagents.mkt.receipt.v1\",\"started_at\":1000,\"version\":1\x7d,\"schema\":\"openagents.mkt.v" ++
  "2\",\"session_id\":\"" ++ chainSession ++ "\"\x7d"

def strangerReceiptId : String := "5f09faedd9bd0a31d9d67d60fcc575f6afb52ee6ec6a744aca6c14805ea05a3a"

def strangerReceipt : Event where
  id := "4b8d9eedcc7c21cc5bbb52d0cb844822b0d83cb4c22d4dd4d18c37fffbc800c5"
  pubkey := demoProvider
  createdAt := 1101
  kind := 39613
  tags := receiptTags strangerClose.id strangerReceiptId
  content := receiptContent strangerClose.id strangerReceiptId "1091"
  sig := "209e2222519c0ff2fe6bc4d3e43f6d9ae183fb2a5ab1d42a760538afec3accbe" ++
    "8dae2261c7fe968001b3aee12acc06de5405eb1c1517a6ba73cbac43ccd9e043"

def sessionEnvelope (schema : String) (protocolRevision : Nat) (body : Members) : MktPrivateEnvelope :=
  ⟨schema, protocolRevision, mktSwpProfileId, mktSwpProfileVersion, chainSession, body⟩

def plainEnvelope : MktPrivateEnvelope :=
  sessionEnvelope "openagents.mkt.v1" 1
    [("mkt_swp", .object []), ("profile", .string "mkt-swp"), ("profile_version", .integer 1),
      ("schema", .string "openagents.mkt.v1"), ("session_id", .string chainSession)]

/-- The envelope of a revision-2 record with one member of its own. -/
def hardenedEnvelope (name : String) (members extra : Members) : MktPrivateEnvelope :=
  sessionEnvelope mktHardeningSchema mktHardeningProtocolRevision
    ([(name, .object members), ("profile", .string "mkt-swp"), ("profile_version", .integer 1),
      ("protocol_rev", .integer 2), ("schema", .string "openagents.mkt.v2"), ("session_id", .string chainSession)] ++
      extra)

def orderEnvelope : MktPrivateEnvelope :=
  hardenedEnvelope "intent"
    [("ack_deadline_seconds", .integer 30), ("idempotency_key", .string chainKey), ("nonce", .string chainNonce),
      ("nonce_at", .integer 1000), ("outcome_deadline_seconds", .integer 300),
      ("response_pubkey", .string chainRequester)] [("mkt_swp", .object [])]

def ackEnvelope (intentId idempotencyKey : String) (acceptedAt : Nat) : MktPrivateEnvelope :=
  hardenedEnvelope "ack"
    [("accepted_at", .integer acceptedAt), ("disposition", .string "accepted"), ("error_code", .null),
      ("idempotency_key", .string idempotencyKey), ("intent_event_id", .string intentId)] []

/-- The Quote, the Order and its acknowledgment, with their envelopes. -/
def chainRecords : List (Event × MktPrivateEnvelope) :=
  [(chainQuote, plainEnvelope), (chainOrder, orderEnvelope), (chainAck, ackEnvelope chainOrder.id chainKey 1001)]

/-- A Close and its receipt. -/
def settlementRecords (close receipt : Event) (claim : MktSettlementReceipt) : List (Event × MktPrivateEnvelope) :=
  [(close, plainEnvelope), (receipt, hardenedEnvelope "receipt" claim.members [])]

def strangerClaim : MktSettlementReceipt := settledClaim strangerClose.id strangerReceiptId 1091

/-- The record of that time and kind. -/
def recordOf (records : List (Event × MktPrivateEnvelope)) (event : Event) : Option (Event × MktPrivateEnvelope) :=
  records.find? fun record => record.1.createdAt = event.createdAt ∧ record.1.kind = event.kind

/-- An environment that knows some signed records and claims. -/
def recordsEnv (records : List (Event × MktPrivateEnvelope)) (claims : List MktSettlementReceipt)
    (jsonText : Value → String) (sha256 : Bytes → Bytes32) : ReceiptEnv where
  validateCrypto event := if ∃ record ∈ records, record.1 = event then .ok () else .error .invalidSignature
  computedId event := match recordOf records event with
    | some record => .ok record.1.id
    | none => .error .invalidSignature
  validateMktPrivate event := match recordOf records event with
    | some record =>
      if event.tags = record.1.tags then .ok record.2
      else .error ⟨.invalidKind, "event kind is outside the private NIP-MKT range"⟩
    | none => .error ⟨.invalidKind, "event kind is outside the private NIP-MKT range"⟩
  parseUniqueJson _ subject := .error (subject ++ " is invalid JSON")
  jsonText
  sha256
  receiptOfValue value := match claims.find? fun claim => value = .object claim.members with
    | some claim => .ok claim
    | none => .error "unknown field"

def strangerEnv : ReceiptEnv :=
  recordsEnv (chainRecords ++ settlementRecords strangerClose strangerReceipt strangerClaim) [strangerClaim] (fun _ => "")
    fun _ => Bitcoin.beBytes32 0x5f09faedd9bd0a31d9d67d60fcc575f6afb52ee6ec6a744aca6c14805ea05a3a

section Session

variable {records : List (Event × MktPrivateEnvelope)} {claims : List MktSettlementReceipt}
  {jsonText : Value → String} {sha256 : Bytes → Bytes32}

/-- What makes such an environment read its own records: they are well formed, told apart by time and kind, and
    tagged with their session. -/
structure Readable (records : List (Event × MktPrivateEnvelope)) : Prop where
  wellFormed : ∀ record ∈ records, record.1.validateStructure = .ok ()
  found : ∀ record ∈ records, recordOf records record.1 = some record
  session : ∀ record ∈ records, sessionTag record.1 = .ok record.2.sessionId

variable (h : Readable records) {event : Event} {body : MktPrivateEnvelope}

include h

theorem Readable.signed (hmem : (event, body) ∈ records) :
    (recordsEnv records claims jsonText sha256).validateSigned event = .ok () := by
  refine MktEnv.validateSigned_eq_ok.mpr ⟨h.wellFormed (event, body) hmem, ?_⟩
  exact if_pos ⟨(event, body), hmem, rfl⟩

theorem Readable.envelope (hmem : (event, body) ∈ records) :
    (recordsEnv records claims jsonText sha256).validateMktPrivate event = .ok body := by
  simp only [recordsEnv, h.found (event, body) hmem, if_true]

theorem Readable.sessionTagged : (recordsEnv records claims jsonText sha256).SessionTagged := by
  intro event envelope hprivate
  simp only [recordsEnv] at hprivate
  split at hprivate
  · rename_i record hrecord
    split at hprivate
    · rename_i htags
      cases hprivate
      rw [← h.session record (List.mem_of_find?_eq_some hrecord)]
      simp only [sessionTag, singleValue, named, htags]
    · cases hprivate
  · cases hprivate

end Session

theorem chainRecords_wellFormed : ∀ record ∈ chainRecords, record.1.validateStructure = .ok () := by
  decide +kernel

theorem strangerRecords_readable :
    Readable (chainRecords ++ settlementRecords strangerClose strangerReceipt strangerClaim) where
  wellFormed := List.forall_mem_append.mpr ⟨chainRecords_wellFormed, by decide +kernel⟩
  found := by
    simp only [chainRecords, settlementRecords, List.cons_append, List.nil_append, List.forall_mem_cons,
      List.not_mem_nil, false_imp_iff, implies_true, and_true]
    exact ⟨rfl, rfl, rfl, rfl, rfl⟩
  session := by
    decide

theorem strangerReceipt_valid :
    validateMktReceiptEvent strangerEnv strangerReceipt (hardenedEnvelope "receipt" strangerClaim.members []) =
      .ok strangerClaim := by
  have hread : readReceipt strangerEnv (hardenedEnvelope "receipt" strangerClaim.members []).body = .ok strangerClaim :=
    explained_eq_ok.mpr (by simp [strangerEnv, recordsEnv])
  have hclaim : validateReceiptClaim strangerEnv strangerClaim = .ok () := by decide +kernel
  have hcontent : canonicalMktReceiptContent chainSession strangerClaim = .ok strangerReceipt.content := by
    simp only [canonicalMktReceiptContent, bind_eq_ok, lowerHex32_eq_ok]
    exact ⟨(), by decide +kernel, canonicalText_eq_ok (by decide +kernel)⟩
  simp only [validateMktReceiptEvent, hread, bind_eq_ok, failIf_eq_ok, pure, Except.pure]
  refine ⟨(), by decide, (), by decide, _, rfl, (), hclaim, _, hcontent, (), not_not.mpr rfl,
    strangerReceiptId, by decide, (), by decide, "1", by decide, (), by decide, "completed", by decide, (), by decide,
    "MKT-SWP Settlement Receipt", by decide, (), by decide, (), by decide, (), by decide, (), by decide, (), by decide, (),
    by decide, (), by decide, rfl⟩

/-- A Close that refers to the Order settles it, whoever signed it. -/
theorem strangerReceipt_verified :
    verifyMktReceiptChainInner strangerEnv strangerReceipt chainOrder chainAck chainQuote strangerClose none none =
      .ok strangerClaim := by
  have hread : ∀ record ∈ chainRecords ++ settlementRecords strangerClose strangerReceipt strangerClaim,
      strangerEnv.validateSigned record.1 = .ok () ∧ strangerEnv.validateMktPrivate record.1 = .ok record.2 :=
    fun record hmem => ⟨strangerRecords_readable.signed hmem, strangerRecords_readable.envelope hmem⟩
  simp only [chainRecords, settlementRecords, List.cons_append, List.nil_append, List.forall_mem_cons] at hread
  obtain ⟨⟨hquote, hquoteBody⟩, ⟨horder, horderBody⟩, ⟨hack, hackBody⟩, ⟨hclose, hcloseBody⟩, hreceipt, hreceiptBody⟩ :=
    hread
  simp only [verifyMktReceiptChainInner, validateReceiptChainSignature, hquote, horder, hack, hclose,
    hreceipt, bind_eq_ok, explained_eq_ok, failIf_eq_ok]
  exact ⟨(), trivial, (), trivial, (), trivial, (), trivial, (), trivial, (), by decide, _, rfl, _, rfl, _, rfl, _, rfl,
    _, rfl, _, strangerReceipt_valid, (), by decide, (), by decide, chainRequester, by decide, (), not_not.mpr rfl,
    chainRequester, by decide, (), not_not.mpr rfl, chainQuote.id, by decide, (), not_not.mpr rfl, chainOrder.id,
    by decide, (), not_not.mpr rfl, _, rfl, (), not_not.mpr rfl, "accepted", by decide, (), not_not.mpr rfl, _, rfl, (),
    not_not.mpr rfl, (), by decide, (), rfl, rfl⟩

theorem strangerClose_stranger :
    strangerClose.pubkey ≠ chainOrder.pubkey ∧ strangerClose.pubkey ≠ strangerReceipt.pubkey := by
  simp [strangerClose, chainOrder, strangerReceipt, demoSuccessor, chainRequester, demoProvider]

/-- The chain that a third key closed is accepted, and it is not the work of its two parties. -/
theorem strangers_close_accepted :
    verifyMktReceiptChain strangerEnv strangerReceipt chainOrder chainAck chainQuote strangerClose none =
        .ok strangerClaim ∧
      ¬ Authored strangerEnv strangerReceipt chainOrder chainAck chainQuote strangerClose none none := by
  refine ⟨mapError_eq_ok.mpr strangerReceipt_verified, fun hauthored => ?_⟩
  rcases hauthored.party strangerClose (by simp [chainEvents]) with hparty | hparty
  · exact strangerClose_stranger.1 hparty
  · exact strangerClose_stranger.2 hparty

theorem receipt_chain_authored_stranger :
    Authored strangerEnv strangerReceipt chainOrder chainAck chainQuote strangerClose none none ↔
      (strangerClose.pubkey = chainOrder.pubkey ∨ ByProvider strangerReceipt none strangerClose) ∧
        ∀ confirmation ∈ (none : Option Event), sessionTag confirmation = sessionTag strangerReceipt :=
  receipt_chain_authored_iff strangerEnv strangerRecords_readable.sessionTagged strangerReceipt chainOrder chainAck
    chainQuote strangerClose none none strangerClaim (verifiedChain_iff.mpr strangerReceipt_verified)

end Immortal.Market
