import Immortal.Store.Tables

/-!
# `Immortal.Store.Admit` — the admission transaction

`Store::admit_inner` as a transaction program: the checks that need no database, the unlocked replay, duplicate
and policy checks, the advisory locks of `admission_lock_keys`, the group, replay, duplicate, tombstone and
head checks made again under those locks, the ingest lock, and the writes. The order of the pieces and of the
checks inside each piece is the source's.

What admission calls but does not define is a parameter (`Relay`): the extension validators, the Schnorr check,
PostgreSQL's `hashtextextended`, the size of an event's JSON and the writes of a NIP-29 group action.
-/

namespace Immortal.Store

open Immortal.Domain Txn

/-! ## Outcomes and errors -/

inductive AdmissionRejection where
  | blockedPubkey (reason : String)
  | blockedKind (reason : String)
  | pubkeyNotAllowed
  | kindNotAllowed
  | notMember
  | contentTooLarge (actualBytes maxBytes : Nat)
  | tooManyTags (actual max : Nat)
  | timestampTooFarInFuture (createdAt latestAllowed : Nat)
  | timestampTooOld (createdAt earliestAllowed : Nat)
  | authEvent
  | deleted
  | superseded
  | groupNotFound
  | groupUnauthorized
  | groupClosed
  | groupAlreadyMember
  | groupUnsupportedKind
  | groupPreviousUnknown
  | groupSigningUnavailable
  | mktIdempotencyConflict
  deriving DecidableEq, Repr

inductive AdmissionOutcome where
  | stored (ingestSeq : Nat)
  | duplicate
  | ephemeral
  | rejected (reason : AdmissionRejection)
  deriving DecidableEq, Repr

inductive StoreError where
  | database (reason : String)
  | domain (error : DomainError)
  | connectionClosed
  | workQueueFull
  | migrationDrift (reason : String)
  | invalidPolicy (reason : String)
  | management (reason : String)
  | media (reason : String)
  | queryCancelled
  | ephemeralTooLarge (bytes : Nat)
  | timestampOutOfRange (field : String) (value : Nat)
  | invalidLimit (value : Nat)
  | serialization (reason : String)
  | corruptRow (reason : String)
  | legacyImport (reason : String)
  | coordination (reason : String)
  deriving DecidableEq, Repr

/-- Advisory locks: one key space for hashed text, another for the two-integer ingest lock. -/
inductive LockId where
  | text (hash : Int)
  | ingest
  deriving DecidableEq, Repr

abbrev Admission (α : Type) := Prog Db Write LockId StoreError AdmissionOutcome α

inductive AdmissionMode where
  | «public»
  | legacy
  deriving DecidableEq, Repr

/-- One call of `admit_inner`. -/
structure Call where
  event : Event
  now : Nat
  relaySigner : Option String
  virtualOwner : Option String
  mode : AdmissionMode
  deriving DecidableEq, Repr

/-- What admission calls outside this model. -/
structure Relay where
  validateExpandedEvent : Event → Except DomainError Unit
  validateCrypto : Event → Except DomainError Unit
  validateBlockIngest : Event → Nat → Except String Unit
  validateMktPublicEvent : Event → Except String Unit
  validateOpenagentsWorkEvent : Event → Except String Unit
  validateMktPrivateBase : Event → Except String Unit
  hashtextextended : String → Int
  serializedLength : Event → Nat
  applyGroupAction : String → Call → GroupAction → Admission Unit

/-! ## Before the transaction -/

def i64Max : Nat := 2 ^ 63 - 1

def pgI64 (value : Nat) (field : String) : Except StoreError Nat :=
  if value ≤ i64Max then .ok value else .error (.timestampOutOfRange field value)

def liftDomain {α : Type} (result : Except DomainError α) : Except StoreError α :=
  result.mapError .domain

def liftInvalid {α : Type} (result : Except String α) : Except StoreError α :=
  result.mapError (fun reason => .domain (.invalidEvent reason))

variable (relay : Relay) (call : Call)

def validate : Except StoreError Unit :=
  match call.mode with
  | .public => do
    liftDomain call.event.validateNip01Structure
    liftDomain (relay.validateExpandedEvent call.event)
    liftDomain (relay.validateCrypto call.event)
    liftInvalid (relay.validateBlockIngest call.event call.now)
    liftInvalid (relay.validateMktPublicEvent call.event)
    liftInvalid (relay.validateOpenagentsWorkEvent call.event)
  | .legacy => do
    -- `admit_legacy` checks the NIP-01 shape before it calls `admit_inner`
    liftDomain call.event.validateNip01Structure
    liftDomain (relay.validateCrypto call.event)

/-- The base validation of a private market record; imports skip it. -/
def mktPrivateBase : Except StoreError Unit :=
  if call.mode = .public then liftInvalid (relay.validateMktPrivateBase call.event) else .ok ()

/-- The expiration tag, when there is one, lies after `now`. -/
def unexpired : Except StoreError Unit :=
  match call.event.expiration with
  | some expiration =>
    if expiration ≤ call.now then .error (.domain (.expiredEvent expiration call.now)) else .ok ()
  | none => .ok ()

/-- The two timestamps fit the `bigint` columns. -/
def timestamps : Except StoreError Unit := do
  let _ ← pgI64 call.event.createdAt "created_at"
  match call.event.expiration with
  | some expiration => let _ ← pgI64 expiration "expiration"
  | none => pure ()

def deletionRequest (event : Event) : Option DeletionRequest :=
  (DeletionRequest.fromEvent event).toOption

def groupActionOf : Except StoreError (Option GroupAction) :=
  if call.mode = .public then liftDomain (GroupAction.fromEvent call.event) else .ok none

def groupScope (event : Event) : Option String :=
  if event.kind ∈ blockGlobalOnlyKinds then none else event.groupId

def eventLockKey (pubkey id : String) : String := "event:" ++ pubkey ++ ":" ++ id

def addressLockKey (address : ReplacementAddress) : String := "address:" ++ address.display

def admissionLockKeys (event : Event) : List String :=
  btreeSet (
    [eventLockKey event.pubkey event.id] ++
    event.replacementAddress.toList.map addressLockKey ++
    (match deletionRequest event with
      | some request =>
        request.eventIds.map (eventLockKey request.author) ++ request.addresses.map addressLockKey
      | none => []) ++
    (groupScope event).toList.map ("group:" ++ ·))

/-! ## Checks inside the transaction -/

open Prog (query exec execUnless acquire acquireAll ofExcept)

/-- Reject and end the transaction when `refused`. -/
def rejectIf (refused : Bool) (reason : AdmissionRejection) : Admission Unit :=
  if refused then .commit (.rejected reason) else pure ()

/-- The decision on a private market event at the binding its coordinate has now. -/
def mktReplay (address : ReplacementAddress) : Admission Unit := do
  let binding ← query (fun d => d.mktImmutableBinding address)
  match decideMktImmutableAdmission binding call.event.id call.event.sig with
  | .storeFirst => pure ()
  | .replay => .commit .duplicate
  | .conflict => .commit (.rejected .mktIdempotencyConflict)

def duplicateCheck : Admission Unit := do
  if ← query (fun d => d.duplicate call.event.id) then .commit .duplicate

def membershipCheck (policy : AdmissionPolicy) : Admission Unit := do
  if policy.closedMembership then
    let directMember ← query (fun d => d.member call.event.pubkey)
    if !directMember then
      match call.virtualOwner with
      | some owner =>
        let virtualMember ← query (fun d => d.agentOwner call.event.pubkey owner)
        rejectIf (!virtualMember) .notMember
      | none => .commit (.rejected .notMember)

/-- The bounds of the policy row; the sums saturate at `u64` as in the source. -/
def boundsCheck (policy : AdmissionPolicy) : Admission Unit := do
  rejectIf (policy.maxContentBytes < call.event.content.utf8ByteSize)
    (.contentTooLarge call.event.content.utf8ByteSize policy.maxContentBytes)
  rejectIf (policy.maxTags < call.event.tags.length) (.tooManyTags call.event.tags.length policy.maxTags)
  let latestAllowed := min (call.now + policy.maxFutureSeconds) u64Max
  rejectIf (latestAllowed < call.event.createdAt) (.timestampTooFarInFuture call.event.createdAt latestAllowed)
  if 0 < policy.maxPastSeconds then
    let earliestAllowed := call.now - policy.maxPastSeconds
    rejectIf (call.event.createdAt < earliestAllowed) (.timestampTooOld call.event.createdAt earliestAllowed)

def policyCheck : Admission Unit := do
  match ← query (fun d => d.administration.policy) with
  | none => .fail (.invalidPolicy "singleton row is missing")
  | some policy =>
    match ← query (fun d => d.blockedPubkey call.event.pubkey) with
    | some reason => .commit (.rejected (.blockedPubkey reason))
    | none =>
      match ← query (fun d => d.blockedKind call.event.kind) with
      | some reason => .commit (.rejected (.blockedKind reason))
      | none =>
        rejectIf (!(← query (fun d => d.allowedPubkey call.event.pubkey))) .pubkeyNotAllowed
        rejectIf (!(← query (fun d => d.allowedKind call.event.kind))) .kindNotAllowed
        membershipCheck call policy
        boundsCheck call policy

/-- The values of every `previous` tag. -/
def previousReferences (event : Event) : List String :=
  (event.tags.filter (fun tag => tag.name = some "previous")).flatMap (fun tag => tag.drop 1)

def groupPreviousReferencesAreCurrent (groupId : String) : Admission Bool := do
  if previousReferences call.event = [] then return true
  let _ ← ofExcept (pgI64 call.now "now")
  let prefixes ← query (fun d =>
    (d.groupRecentIds groupId call.event.pubkey call.now).map (fun id => String.ofList (id.toList.take 8)))
  return (previousReferences call.event).all (fun reference => prefixes.contains reference)

def signedByRelay : Bool := call.relaySigner = some call.event.pubkey

/-- What the group demands of an event that carries `action`, or no action at all. -/
def groupActionCheck (groupId : String) (group : Option GroupRow) : Option GroupAction → Admission Unit
  | some .createGroup => rejectIf (group.isSome || !signedByRelay call) .groupUnauthorized
  | action => do
    rejectIf group.isNone .groupNotFound
    let roles ← query (fun d => d.groupMember groupId call.event.pubkey)
    match action with
    | some (.join code) =>
      rejectIf roles.isSome .groupAlreadyMember
      if group.any (·.closed) then
        rejectIf (!(← query (fun d => d.validGroupInvite groupId code))) .groupClosed
    | some .leave => rejectIf roles.isNone .groupUnauthorized
    | some _ => rejectIf (!signedByRelay call && !roles.any (· ≠ [])) .groupUnauthorized
    | none =>
      rejectIf roles.isNone .groupUnauthorized
      rejectIf (group.any (fun g => g.supportedKinds.any (fun kinds => !kinds.contains call.event.kind)))
        .groupUnsupportedKind

def groupCheck (action : Option GroupAction) : Admission Unit := do
  if call.mode = .public then
    rejectIf (39000 ≤ call.event.kind && call.event.kind ≤ 39005 && !signedByRelay call) .groupUnauthorized
    match groupScope call.event with
    | none => pure ()
    | some groupId =>
      let group ← query (fun d => d.loadGroup groupId)
      rejectIf (!(← groupPreviousReferencesAreCurrent call groupId)) .groupPreviousUnknown
      groupActionCheck call groupId group action
      rejectIf (action.isSome && call.relaySigner.isNone) .groupSigningUnavailable

def tombstoneCheck : Admission Unit := do
  if call.event.kind ≠ 5 then
    rejectIf (← query (fun d => d.tombstoneMatch call.event.id call.event.pubkey call.event.kind
      (call.event.replacementAddress.map (·.identifier)) call.event.createdAt)) .deleted

/-- Compete with the head of the address; the answer is the id of the event to be replaced. -/
def headCheck (address : ReplacementAddress) : Admission (Option String) := do
  match ← query (fun d => d.head address) with
  | none => return none
  | some row =>
    match compareReplacementOrder row.createdAt row.eventId call.event.createdAt call.event.id with
    | .keepCurrent => .commit (.rejected .superseded)
    | .duplicate => .commit .duplicate
    | .replaceCurrent => return some row.eventId

/-- The head check of an event that has an address to compete on. -/
def competition : Admission (Option String) :=
  match call.event.replacementAddress with
  | some address => headCheck call address
  | none => pure none

/-! ## Writes -/

/-- A `DELETE` on `nostr_event`. -/
def deleteRows (select : EventRow → Bool) : Admission Unit :=
  exec (fun d => [.deleteEvents (d.selectedIds select)]) (fun _ => ())

/-- `INSERT_EVENT`: no row when the id is taken, else the allocated sequence number. -/
def insertEvent : Admission (Option Nat) :=
  exec (fun d => if d.duplicate call.event.id then [] else [.insertEvent ⟨call.event, d.ingestSequence + 1⟩])
    (fun d => if d.duplicate call.event.id then none else some (d.ingestSequence + 1))

def insertMktImmutableCoordinate (address : ReplacementAddress) : Admission Unit :=
  let row : CoordinateRow := ⟨address, call.event.id, call.event.sig⟩
  execUnless (fun d => d.coordinateTaken row)
    (.corruptRow "private MKT coordinate changed while its address lock was held") (fun _ => [.insertCoordinate row])

def upsertHead (address : ReplacementAddress) : Admission Unit :=
  let row : HeadRow := ⟨address, call.event.id, call.event.createdAt⟩
  execUnless (fun d => d.headTaken row) (.database "replaceable_head_event_id_key") (fun _ => [.upsertHead row])

def applyTombstone : DeletionTombstone → Admission Unit
  | .event eventId author requestId => do
    exec (fun _ => [.insertTombstone (.event eventId author requestId)]) (fun _ => ())
    deleteRows (deleteEventTarget eventId author)
  | .address address through requestId => do
    let _ ← ofExcept (pgI64 through "deletion timestamp")
    exec (fun _ => [.insertTombstone (.address address through requestId)]) (fun _ => ())
    deleteRows (deleteAddressTarget address through)

def applyTombstones : List DeletionTombstone → Admission Unit
  | [] => pure ()
  | tombstone :: rest => do
    applyTombstone tombstone
    applyTombstones rest

def applyDeletion (request : DeletionRequest) : Admission Unit := applyTombstones request.tombstones

def ephemeralMaxBytes : Nat := 1048576

def notifyEphemeral : Admission Unit :=
  if ephemeralMaxBytes < relay.serializedLength call.event then
    .fail (.ephemeralTooLarge (relay.serializedLength call.event))
  else pure ()

/-- The writes of an event that is not a private market record, after its row went in. -/
def storeReplacement (replaced : Option String) : Admission Unit :=
  match call.event.replacementAddress with
  | none => pure ()
  | some address => do
    upsertHead call address
    match replaced with
    | some oldId => deleteRows (fun row => row.event.id = oldId)
    | none => pure ()

def storeDeletion : Admission Unit :=
  match deletionRequest call.event with
  | some request => applyDeletion request
  | none => pure ()

def storeGroupAction (action : Option GroupAction) : Admission Unit :=
  match (if call.mode = .public then groupScope call.event else none), action with
  | some groupId, some action => relay.applyGroupAction groupId call action
  | _, _ => pure ()

/-! ## The transaction -/

/-- An ordinary event from its locks on. -/
def admitOrdinary (action : Option GroupAction) : Admission Empty := do
  acquireAll ((admissionLockKeys call.event).map (fun key => .text (relay.hashtextextended key)))
  groupCheck call action
  duplicateCheck call
  tombstoneCheck call
  let replaced ← competition call
  if call.event.eventClass = .ephemeral then
    notifyEphemeral relay call
    .commit .ephemeral
  else
    acquire .ingest
    match ← insertEvent call with
    | none => .commit .duplicate
    | some ingestSeq =>
      storeReplacement call replaced
      storeDeletion call
      storeGroupAction relay call action
      .commit (.stored ingestSeq)

/-- A private market record from its locks on: it never competes for a head. -/
def admitMktPrivate (address : ReplacementAddress) (action : Option GroupAction) : Admission Empty := do
  acquireAll ((admissionLockKeys call.event).map (fun key => .text (relay.hashtextextended key)))
  groupCheck call action
  mktReplay call address
  tombstoneCheck call
  acquire .ingest
  match ← insertEvent call with
  | none => .fail (.corruptRow "private MKT event exists without an immutable coordinate")
  | some ingestSeq =>
    insertMktImmutableCoordinate call address
    storeGroupAction relay call action
    .commit (.stored ingestSeq)

/-- `Store::admit_inner`. -/
def admitInner : Admission Empty := do
  ofExcept (validate relay call)
  if call.event.kind = 22242 then .commit (.rejected .authEvent)
  else if isMktPrivateKind call.event.kind then
    ofExcept (timestamps call)
    let action ← ofExcept (groupActionOf call)
    match call.event.replacementAddress with
    | none => .fail (.domain (.invalidEvent "private MKT kind must have an addressable event class"))
    | some address =>
      mktReplay call address
      ofExcept (mktPrivateBase relay call)
      ofExcept (unexpired call)
      policyCheck call
      admitMktPrivate relay call address action
  else
    ofExcept (unexpired call)
    ofExcept (timestamps call)
    let action ← ofExcept (groupActionOf call)
    duplicateCheck call
    policyCheck call
    admitOrdinary relay call action

end Immortal.Store
