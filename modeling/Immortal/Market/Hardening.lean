import Immortal.Market.Receipt

/-!
# `Immortal.Market.Hardening` — revision-2 intents and acknowledgments

The grammar of an effectful Order, of a Re-drive and of the provider's acknowledgment, as
`validate_mkt_hardening_event` reads it off a record's tags and content. An intent carries a nonce and the time the
nonce was made; a reader that passes its own clock refuses an intent outside a window around that time.
-/

namespace Immortal.Market

open Immortal.Domain Txn
open Client (Members Value)

/-! ## Records -/

inductive MktHardeningRecordKind where
  | effectfulIntent
  | acknowledgment
  | redriveIntent
deriving DecidableEq, Repr

structure MktHardeningRecord where
  kind : MktHardeningRecordKind
  idempotencyKey : String
  nonce : Option String
  nonceAt : Option Nat
  responsePubkey : String
  ackDeadlineSeconds : Option Nat
  outcomeDeadlineSeconds : Option Nat
  intentEventId : Option String
  orderEventId : Option String
  ackEventId : Option String
  lastKnownEventId : Option String
  disposition : Option String
  acceptedAt : Option Nat
  errorCode : Option String
deriving DecidableEq, Repr

inductive MktHardeningErrorCode where
  | invalidIntent
  | nonceWindow
  | unsupportedRevision
deriving DecidableEq, Repr

structure MktHardeningError where
  code : MktHardeningErrorCode
  detail : String
deriving DecidableEq, Repr

def mktHardeningNoncePastSeconds : Nat := 300
def mktHardeningNonceFutureSeconds : Nat := 60
def mktHardeningAckDeadlineMaxSeconds : Nat := 60
def mktHardeningOutcomeDeadlineMaxSeconds : Nat := 86400
def mktHardeningAckDispositions : List String := ["accepted", "rejected"]
def mktHardeningErrorCodes : List String :=
  ["mkt-v2-idempotency-conflict", "mkt-v2-replay", "mkt-v2-nonce-window", "mkt-v2-unsupported-revision",
    "mkt-v2-intent-invalid"]

/-- `map_err(|detail| hardening_error(InvalidIntent, detail))`. -/
def intentChecked {α : Type} (result : Except String α) : Except MktHardeningError α :=
  result.mapError fun detail => ⟨.invalidIntent, detail⟩

/-! ## Members and references -/

/-- `u64::saturating_add`. -/
def saturatingAdd (a b : Nat) : Nat := min (a + b) u64Max

/-- The observation window of a nonce. -/
def withinNonceWindow (observedAt nonceAt : Nat) : Prop :=
  observedAt ≤ saturatingAdd nonceAt mktHardeningNoncePastSeconds ∧
    nonceAt ≤ saturatingAdd observedAt mktHardeningNonceFutureSeconds

instance (observedAt nonceAt : Nat) : Decidable (withinNonceWindow observedAt nonceAt) :=
  inferInstanceAs (Decidable (_ ∧ _))

/-- A tag that must be 32 bytes of lowercase hexadecimal. -/
def hardeningHexTag (event : Event) (name subject : String) : Except String String := do
  let value ← hardeningTag event name
  lowerHex32 value subject
  return value

/-- `hardening_reference`. -/
def hardeningReference (event : Event) (marker : String) (required : Bool) :
    Except MktHardeningError (Option String) :=
  intentChecked <|
    match marked event marker with
    | [] => if required then .error ("record requires one " ++ marker ++ " reference") else .ok none
    | [tag] =>
      match tag[1]? with
      | none => .error (marker ++ " reference has no event id")
      | some value => do
        lowerHex32 value "revision-2 event reference"
        return some value
    | _ => .error ("record requires " ++ (if required then "one" else "at most one") ++ " " ++ marker ++ " reference")

/-- A required reference, with the message of the caller for one that is absent. -/
def requiredReference (event : Event) (marker message : String) : Except MktHardeningError String := do
  match ← hardeningReference event marker true with
  | some value => .ok value
  | none => .error ⟨.invalidIntent, message⟩

def hardeningClosed (members : Members) (allowed : List String) (subject : String) : Except String Unit :=
  match (members.map (·.1)).find? fun name => name ∉ allowed with
  | some name => .error ("revision-2 " ++ subject ++ " has unknown member " ++ name.quote)
  | none =>
    failIf (members.length ≠ allowed.length) ("revision-2 " ++ subject ++ " is missing a required member")

def hardeningRequiredString (members : Members) (name : String) : Except String String :=
  match members.text name with
  | some value => .ok value
  | none => .error ("revision-2 content requires string member " ++ name)

def hardeningRequiredU64 (members : Members) (name : String) : Except String Nat :=
  match (members.get name).bind Value.asU64 with
  | some value => .ok value
  | none => .error ("revision-2 content requires unsigned integer member " ++ name)

def hardeningBodyString (members : Members) (name expected : String) : Except String Unit := do
  let value ← hardeningRequiredString members name
  failIf (value ≠ expected) ("revision-2 content member " ++ name ++ " does not agree with its tag")

def hardeningBodyU64 (members : Members) (name : String) (expected : Nat) : Except String Unit := do
  let value ← hardeningRequiredU64 members name
  failIf (value ≠ expected) ("revision-2 content member " ++ name ++ " does not agree with its tag")

/-- The object member of that name. -/
def hardeningObject (body : Members) (name message : String) : Except String Members :=
  match (body.get name).bind Value.asObject with
  | some members => .ok members
  | none => .error message

/-! ## Acknowledgments -/

/-- The error code of an acknowledgment: `null` when accepted, one of the list when rejected. -/
def ackErrorCode (ack : Members) (disposition : String) : Except String (Option String) :=
  match ack.get "error_code" with
  | some .null =>
    if disposition = "accepted" then .ok none
    else .error "acknowledgment error_code does not agree with its disposition"
  | some (.string code) =>
    if disposition = "rejected" ∧ code ∈ mktHardeningErrorCodes then .ok (some code)
    else .error "acknowledgment error_code does not agree with its disposition"
  | _ => .error "acknowledgment error_code does not agree with its disposition"

def validateMktHardeningAck (event : Event) (envelope : MktPrivateEnvelope) :
    Except MktHardeningError MktHardeningRecord := do
  let intentEventId ← requiredReference event "intent" "acknowledgment requires one intent reference"
  intentChecked do
    let disposition ← hardeningTag event "ack"
    failIf (disposition ∉ mktHardeningAckDispositions) "acknowledgment disposition is invalid"
    let responsePubkey ← hardeningHexTag event "response" "acknowledgment response pubkey"
    let ack ← hardeningObject envelope.body "ack" "acknowledgment content requires an ack object"
    hardeningClosed ack ["intent_event_id", "idempotency_key", "disposition", "accepted_at", "error_code"] "ack"
    hardeningBodyString ack "intent_event_id" intentEventId
    let idempotencyKey ← hardeningRequiredString ack "idempotency_key"
    lowerHex32 idempotencyKey "acknowledgment idempotency key"
    hardeningBodyString ack "disposition" disposition
    let acceptedAt ← hardeningRequiredU64 ack "accepted_at"
    let errorCode ← ackErrorCode ack disposition
    let expirationText ← hardeningTag event "expiration"
    let expiration ← canonicalDecimal expirationText false "acknowledgment expiration"
    failIf (expiration < acceptedAt) "acknowledgment expires before it was accepted"
    return {
      kind := .acknowledgment, idempotencyKey, nonce := none, nonceAt := none, responsePubkey,
      ackDeadlineSeconds := none, outcomeDeadlineSeconds := none, intentEventId := some intentEventId,
      orderEventId := none, ackEventId := none, lastKnownEventId := none, disposition := some disposition,
      acceptedAt := some acceptedAt, errorCode }

/-! ## Intents -/

/-- What an intent's tags say before its clock is looked at. -/
structure IntentHead where
  idempotencyKey : String
  nonce : String
  nonceAt : Nat

def intentHead (event : Event) : Except String IntentHead := do
  let expected := if event.kind = mktOrderKind then "effectful" else "redrive"
  let intentType ← hardeningTag event "intent"
  failIf (intentType ≠ expected) ("intent tag must be " ++ expected.quote ++ " for this kind")
  let idempotencyKey ← hardeningHexTag event "d" "revision-2 idempotency key"
  let nonce ← hardeningHexTag event "nonce" "revision-2 nonce"
  let nonceAtText ← hardeningTag event "nonce_at"
  let nonceAt ← canonicalDecimal nonceAtText false "revision-2 nonce_at"
  return { idempotencyKey, nonce, nonceAt }

/-- A reader that passes its clock refuses an intent outside the window; one that passes none does not look. -/
def requireWindow (observedAt : Option Nat) (nonceAt : Nat) : Except MktHardeningError Unit :=
  if observedAt.all (withinNonceWindow · nonceAt) then .ok ()
  else .error ⟨.nonceWindow, "intent nonce_at is outside the accepted observation window"⟩

/-- The key answers go to: the author's unless a `response` tag names another. -/
def responsePubkeyOf (event : Event) : Except String String :=
  match named event "response" with
  | [] => .ok event.pubkey
  | [[_, value]] => .ok value
  | _ => .error "intent accepts at most one two-element response tag"

def intentMembers : List String :=
  ["idempotency_key", "nonce", "nonce_at", "response_pubkey", "ack_deadline_seconds", "outcome_deadline_seconds"]

def redriveMembers : List String := intentMembers ++ ["order_event_id", "ack_event_id", "last_known_event_id"]

/-- The references of a Re-drive: the Order, its acknowledgment and the last outcome the requester knows. -/
def redriveReferences (event : Event) (intent : Members) :
    Except MktHardeningError (String × String × Option String) := do
  let orderEventId ← requiredReference event "order" "re-drive requires one Order reference"
  let ackEventId ← requiredReference event "ack" "re-drive requires one acknowledgment reference"
  let status ← hardeningReference event "status" false
  let close ← hardeningReference event "close" false
  intentChecked do
    failIf (status.isSome ∧ close.isSome) "re-drive accepts at most one last-known Status or Close"
    let lastKnown := status.or close
    hardeningBodyString intent "order_event_id" orderEventId
    hardeningBodyString intent "ack_event_id" ackEventId
    failIf (intent.get "last_known_event_id" ≠ some (Value.ofOption lastKnown))
      "last_known_event_id does not agree with the Status or Close reference"
    return (orderEventId, ackEventId, lastKnown)

/-- What follows the clock: the answer key and the content against the tags. -/
def intentBody (event : Event) (envelope : MktPrivateEnvelope) (head : IntentHead) :
    Except MktHardeningError MktHardeningRecord := do
  let responsePubkey ← intentChecked (responsePubkeyOf event)
  intentChecked (lowerHex32 responsePubkey "revision-2 response pubkey")
  let intent ← intentChecked (hardeningObject envelope.body "intent"
    "revision-2 intent content requires an intent object")
  intentChecked do
    hardeningClosed intent (if event.kind = mktOrderKind then intentMembers else redriveMembers) "intent"
    hardeningBodyString intent "idempotency_key" head.idempotencyKey
    hardeningBodyString intent "nonce" head.nonce
    hardeningBodyU64 intent "nonce_at" head.nonceAt
    hardeningBodyString intent "response_pubkey" responsePubkey
  let ackDeadlineSeconds ← intentChecked (hardeningRequiredU64 intent "ack_deadline_seconds")
  intentChecked (failIf (¬ (1 ≤ ackDeadlineSeconds ∧ ackDeadlineSeconds ≤ mktHardeningAckDeadlineMaxSeconds))
    "ack_deadline_seconds is outside 1..=60")
  let outcomeDeadlineSeconds ← intentChecked (hardeningRequiredU64 intent "outcome_deadline_seconds")
  intentChecked (failIf (outcomeDeadlineSeconds < ackDeadlineSeconds ∨
      mktHardeningOutcomeDeadlineMaxSeconds < outcomeDeadlineSeconds)
    "outcome_deadline_seconds is outside its signed bounds")
  let record : MktHardeningRecord := {
    kind := .effectfulIntent, idempotencyKey := head.idempotencyKey, nonce := some head.nonce,
    nonceAt := some head.nonceAt, responsePubkey, ackDeadlineSeconds := some ackDeadlineSeconds,
    outcomeDeadlineSeconds := some outcomeDeadlineSeconds, intentEventId := none, orderEventId := none,
    ackEventId := none, lastKnownEventId := none, disposition := none, acceptedAt := none, errorCode := none }
  if event.kind = mktSwpRedriveKind then
    let (orderEventId, ackEventId, lastKnown) ← redriveReferences event intent
    return { record with
      kind := .redriveIntent, orderEventId := some orderEventId, ackEventId := some ackEventId,
      lastKnownEventId := lastKnown }
  else return record

def validateMktHardeningIntent (event : Event) (envelope : MktPrivateEnvelope) (observedAt : Option Nat) :
    Except MktHardeningError MktHardeningRecord := do
  let head ← intentChecked (intentHead event)
  requireWindow observedAt head.nonceAt
  intentBody event envelope head

/-- The envelope and the kinds that have a revision-2 grammar. -/
def requireRevision2 (event : Event) (envelope : MktPrivateEnvelope) : Except MktHardeningError Unit :=
  if envelope.schema ≠ mktHardeningSchema ∨ envelope.protocolRevision ≠ mktHardeningProtocolRevision ∨
      envelope.profileId ≠ mktSwpProfileId ∨ envelope.profileVersion ≠ mktSwpProfileVersion then
    .error ⟨.unsupportedRevision, "record does not select the adopted MKT-SWP revision-2 envelope"⟩
  else if event.kind ∉ [mktOrderKind, mktSwpIntentAckKind, mktSwpRedriveKind] then
    .error ⟨.unsupportedRevision, "record kind has no revision-2 hardening grammar"⟩
  else .ok ()

def validateMktHardeningEvent (event : Event) (envelope : MktPrivateEnvelope) (observedAt : Option Nat) :
    Except MktHardeningError MktHardeningRecord := do
  requireRevision2 event envelope
  if event.kind = mktSwpIntentAckKind then validateMktHardeningAck event envelope
  else validateMktHardeningIntent event envelope observedAt

/-! ## What an accepted record says -/

variable {event : Event} {record : MktHardeningRecord} {envelope : MktPrivateEnvelope} {observedAt : Option Nat}

theorem hardeningHexTag_eq_ok {name subject value : String} :
    hardeningHexTag event name subject = .ok value ↔
      hardeningTag event name = .ok value ∧ isLowerHex 32 value = true := by
  simp only [hardeningHexTag, bind_eq_ok, lowerHex32_eq_ok, pure_eq_ok]
  constructor
  · rintro ⟨found, hfound, _, hhex, rfl⟩
    exact ⟨hfound, hhex⟩
  · rintro ⟨hfound, hhex⟩
    exact ⟨value, hfound, (), hhex, rfl⟩

theorem intentHead_ok {head : IntentHead} (h : intentHead event = .ok head) :
    hardeningTag event "d" = .ok head.idempotencyKey ∧ hardeningTag event "nonce" = .ok head.nonce := by
  simp only [intentHead, bind_eq_ok, hardeningHexTag_eq_ok, pure_eq_ok] at h
  obtain ⟨_, -, _, -, key, hkey, nonce, hnonce, _, -, _, -, rfl⟩ := h
  exact ⟨hkey.1, hnonce.1⟩

/-- The record of an intent repeats its tags and has a deadline for the outcome. -/
structure IntentRecord (event : Event) (head : IntentHead) (record : MktHardeningRecord) : Prop where
  kind : record.kind = if event.kind = mktSwpRedriveKind then .redriveIntent else .effectfulIntent
  idempotencyKey : record.idempotencyKey = head.idempotencyKey
  nonce : record.nonce = some head.nonce
  nonceAt : record.nonceAt = some head.nonceAt

theorem intentBody_ok {head : IntentHead} (h : intentBody event envelope head = .ok record) :
    IntentRecord event head record := by
  simp only [intentBody, bind_eq_ok] at h
  obtain ⟨_, -, _, -, _, -, _, -, _, -, _, -, _, -, _, -, h⟩ := h
  by_cases hkind : event.kind = mktSwpRedriveKind
  · simp only [if_pos hkind, bind_eq_ok, pure_eq_ok] at h
    obtain ⟨_, -, rfl⟩ := h
    exact ⟨by simp [hkind], rfl, rfl, rfl⟩
  · simp only [if_neg hkind, pure_eq_ok] at h
    subst h
    exact ⟨by simp [hkind], rfl, rfl, rfl⟩

theorem requireWindow_eq_ok {nonceAt : Nat} {u : Unit} :
    requireWindow observedAt nonceAt = .ok u ↔ ∀ time ∈ observedAt, withinNonceWindow time nonceAt := by
  unfold requireWindow
  cases observedAt with
  | none => simp
  | some time => by_cases h : withinNonceWindow time nonceAt <;> simp

theorem validateMktHardeningIntent_eq_ok :
    validateMktHardeningIntent event envelope observedAt = .ok record ↔
      ∃ head, intentHead event = .ok head ∧ (∀ time ∈ observedAt, withinNonceWindow time head.nonceAt) ∧
        intentBody event envelope head = .ok record := by
  simp only [validateMktHardeningIntent, bind_eq_ok, intentChecked, mapError_eq_ok, requireWindow_eq_ok]
  constructor
  · rintro ⟨head, hhead, _, hwindow, hbody⟩
    exact ⟨head, hhead, hwindow, hbody⟩
  · rintro ⟨head, hhead, hwindow, hbody⟩
    exact ⟨head, hhead, (), hwindow, hbody⟩

theorem validateMktHardeningAck_ok (h : validateMktHardeningAck event envelope = .ok record) :
    record.kind = .acknowledgment ∧ record.nonceAt = none := by
  simp only [validateMktHardeningAck, bind_eq_ok, intentChecked, mapError_eq_ok, pure_eq_ok] at h
  obtain ⟨_, -, _, -, _, -, _, -, _, -, _, -, _, -, _, -, _, -, _, -, _, -, _, -, _, -, _, -, _, -, rfl⟩ := h
  exact ⟨rfl, rfl⟩

theorem validateMktHardeningEvent_eq_ok :
    validateMktHardeningEvent event envelope observedAt = .ok record ↔
      requireRevision2 event envelope = .ok () ∧
        if event.kind = mktSwpIntentAckKind then validateMktHardeningAck event envelope = .ok record
        else validateMktHardeningIntent event envelope observedAt = .ok record := by
  simp only [validateMktHardeningEvent, check_bind_eq_ok]
  split <;> rfl

/-- **A clock adds the window and nothing else**: the record is the one read without a clock. -/
theorem validateMktHardeningEvent_observed {observedAt : Nat} :
    validateMktHardeningEvent event envelope (some observedAt) = .ok record ↔
      validateMktHardeningEvent event envelope none = .ok record ∧
        ∀ nonceAt ∈ record.nonceAt, withinNonceWindow observedAt nonceAt := by
  simp only [validateMktHardeningEvent_eq_ok]
  by_cases hkind : event.kind = mktSwpIntentAckKind
  · simp only [if_pos hkind]
    constructor
    · rintro ⟨hrevision, hack⟩
      exact ⟨⟨hrevision, hack⟩, by simp [(validateMktHardeningAck_ok hack).2]⟩
    · exact fun h => h.1
  · simp only [if_neg hkind, validateMktHardeningIntent_eq_ok]
    constructor
    · rintro ⟨hrevision, head, hhead, hwindow, hbody⟩
      refine ⟨⟨hrevision, head, hhead, by simp, hbody⟩, ?_⟩
      rw [(intentBody_ok hbody).nonceAt]
      simpa using hwindow
    · rintro ⟨⟨hrevision, head, hhead, -, hbody⟩, hwindow⟩
      rw [(intentBody_ok hbody).nonceAt] at hwindow
      exact ⟨hrevision, head, hhead, by simpa using hwindow, hbody⟩

/-- What the record of an Order or a Re-drive takes from the event's tags. -/
theorem validateMktHardeningEvent_intent (h : validateMktHardeningEvent event envelope observedAt = .ok record)
    (hkind : record.kind ≠ .acknowledgment) : ∃ head, intentHead event = .ok head ∧ IntentRecord event head record := by
  obtain ⟨-, h⟩ := validateMktHardeningEvent_eq_ok.mp h
  split at h
  · exact absurd (validateMktHardeningAck_ok h).1 hkind
  · obtain ⟨head, hhead, -, hbody⟩ := validateMktHardeningIntent_eq_ok.mp h
    exact ⟨head, hhead, intentBody_ok hbody⟩

end Immortal.Market
