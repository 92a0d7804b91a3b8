import Immortal.Provider.Tables

/-!
# `Immortal.Provider.Transactions` — reserving and releasing as transactions

The five store calls that move capacity and coins: `reserve`, `release_reservation`,
`mark_reservation_unresolved`, `configure_capacity_bucket` and `observe_utxo`, each a program over the provider's
tables that takes the locks its statements take. An advisory lock is the hash of its text; a row lock is named
after the row. An insert into a unique index waits for another transaction that has inserted the same key, so it
holds that key's lock too. The last two calls are one upsert each, which locks the row it finds.

Some answers are committed together with an error: the call found a different request under its id, changed
nothing and says so. The result type of a commit therefore holds errors as well.
-/

namespace Immortal.Provider

open Txn Immortal.Client Immortal.Bitcoin

/-! ## Outcomes -/

inductive ProviderStoreError where
  | database (detail : String)
  | invalidInput (detail : String)
  | conflict (detail : String)
  | notFound (subject : String)
  | migrationDrift (detail : String)
deriving DecidableEq, Repr

inductive StoreWriteOutcome where
  | stored
  | replay
deriving DecidableEq, Repr

inductive ReservationOutcome where
  | reserved (record : ReservationRecord)
  | replay (record : ReservationRecord)
  | insufficientCapacity
  | allocationSequenceMismatch (current : Nat)
  | utxoUnavailable (outpoint : OutPoint)
  | arkReserveUnitUnavailable (reserveUnit : String)
deriving DecidableEq, Repr

/-- What a call answers. -/
inductive ProviderAnswer where
  | reservation (outcome : ReservationOutcome)
  | write (outcome : StoreWriteOutcome)
  | done
deriving DecidableEq, Repr

/-- The names of the locks. `advisory` holds the hash of the lock's text. -/
inductive LockKey where
  | advisory (hash : Int)
  | bucket (bucketId : String)
  | reservation (reservationId : String)
  | reservationEffect (effectId : String)
  | reservationSession (sessionId : String)
  | arkUnit (reservationId : String)
  | utxo (outpoint : OutPoint)
  | effect (effectId : String)
  | alert (alertId : String)
deriving DecidableEq, Repr

abbrev Stored := Except ProviderStoreError

abbrev ProviderTxn (α : Type) :=
  Prog ProviderDb ProviderWrite LockKey ProviderStoreError (Stored ProviderAnswer) α

/-- What the store takes from Postgres, `sha2`, `serde_json` and the custody scan. -/
structure StoreEnv where
  hashtextextended : String → Int
  /-- Lowercase hexadecimal SHA-256. -/
  digest : Bytes → String
  /-- `serde_json::to_vec`. -/
  toVec : Value → Bytes
  rejectCustodyMaterial : Value → Except String Unit

/-! ## Checks -/

def refuseUnless (condition : Bool) (detail : String) : Stored Unit :=
  if condition then .ok () else .error (.invalidInput detail)

def validateHex (value label : String) : Stored Unit :=
  refuseUnless ((utf8 value).length = 64 && (utf8 value).all isLowerHexByte)
    (label ++ " must be 64 lowercase hexadecimal characters")

def isLowerAlphanumeric (byte : UInt8) : Bool :=
  (97 ≤ byte.toNat && byte.toNat ≤ 122) || (48 ≤ byte.toNat && byte.toNat ≤ 57)

def validateIdentifier (value label : String) : Stored Unit :=
  let bytes := utf8 value
  refuseUnless (bytes.length ≤ 64 && bytes.head?.any isLowerAlphanumeric &&
      bytes.tail.all fun byte => isLowerAlphanumeric byte || byte = 46 || byte = 95 || byte = 45)
    (label ++ " is not a bounded identifier")

/-- `char::is_control`. -/
def isControl (c : Char) : Bool := c.toNat < 32 || (127 ≤ c.toNat && c.toNat < 160)

def validateAsset (value : String) : Stored Unit :=
  refuseUnless ((stripLead (utf8 "swp:1:") (utf8 value)).isSome && (utf8 value).length ≤ 512 &&
    !value.toList.any isControl) "asset ID is invalid"

/-- `database_u64` -/
def databaseU64 (value : Nat) (label : String) : Stored Nat :=
  if value < 2 ^ 63 then .ok value else .error (.invalidInput (label ++ " exceeds bigint"))

/-- `i32::try_from`. -/
def databaseI32 (value : Nat) (detail : String) : Stored Nat :=
  if value < 2 ^ 31 then .ok value else .error (.invalidInput detail)

def maxReservationUtxos : Nat := 64

def maxJsonBytes : Nat := 1024 * 1024

def outpointLe (left right : OutPoint) : Prop :=
  left.txid ≠ right.txid ∧ stringLe left.txid right.txid ∨ left.txid = right.txid ∧ left.vout ≤ right.vout

instance : DecidableRel outpointLe := fun _ _ => inferInstanceAs (Decidable (_ ∨ _))

def sortOutpoints (outpoints : List OutPoint) : List OutPoint := outpoints.insertionSort outpointLe

def validateArkReserve (unit : ArkReserveUnit) : Stored Unit := do
  refuseUnless (unit.protocolFamily ∈ ["arkade", "bark"]) "Ark reserve protocol family must be arkade or bark"
  validateHex unit.operatorIdentitySha256 "Ark operator identity"
  validateHex unit.vtxo.txid "Ark reserve VTXO txid"
  validateHex unit.proofSha256 "Ark reserve proof digest"
  let _ ← databaseI32 unit.vtxo.vout "Ark reserve VTXO vout exceeds i32"

def validateReservationRequest (request : HardReservationRequest) : Stored Unit := do
  validateHex request.reservationId "reservation ID"
  validateHex request.effectId "reservation effect ID"
  validateHex request.sessionId "reservation session"
  validateIdentifier request.bucketId "capacity bucket"
  validateAsset request.assetId
  validateHex request.requestSha256 "reservation request digest"
  refuseUnless (request.amount ≠ 0 && request.expectedAllocationSequence ≠ 0 && request.createdAt < request.expiresAt &&
    request.utxos.length ≤ maxReservationUtxos) "reservation amount, sequence, expiry, or UTXO bound is invalid"
  -- adjacent equal outpoints of the sorted list are repeated ones
  refuseUnless (request.utxos.Nodup) "reservation repeats a UTXO"
  (sortOutpoints request.utxos).forM fun outpoint => validateHex outpoint.txid "reservation UTXO txid"
  match request.arkReserve with
  | none => .ok ()
  | some unit => validateArkReserve unit

/-- The states a chain observation may report. -/
def observedState : String → Option UtxoState
  | "available" => some .available
  | "spent" => some .spent
  | "reorged" => some .reorged
  | "replaced" => some .replaced
  | "unresolved" => some .unresolved
  | _ => none

def validateOptionalHex (value : Option String) (label : String) : Stored Unit :=
  match value with
  | none => .ok ()
  | some value => validateHex value label

/-- `validate_utxo`, with the state it admits. -/
def validateUtxo (observation : UtxoObservation) : Stored UtxoState := do
  validateHex observation.outpoint.txid "UTXO txid"
  validateAsset observation.assetId
  let script := utf8 observation.scriptPubkey
  match observedState observation.state with
  | none => .error (.invalidInput "UTXO public observation is invalid")
  | some state =>
    refuseUnless (observation.amount ≠ 0 && script ≠ [] && script.length ≤ 20000 && script.all isLowerHexByte)
      "UTXO public observation is invalid"
    validateOptionalHex observation.blockHash "UTXO block hash"
    validateOptionalHex observation.replacementTxid "UTXO replacement txid"
    return state

/-! ## Public documents -/

def outpointJson (outpoint : OutPoint) : Value :=
  .object [("txid", .string outpoint.txid), ("vout", .integer outpoint.vout)]

def arkReserveJson (unit : ArkReserveUnit) : Value :=
  .object [("operator_identity_sha256", .string unit.operatorIdentitySha256), ("proof_sha256", .string unit.proofSha256),
    ("protocol_family", .string unit.protocolFamily), ("reserve_unit", .string unit.canonicalId),
    ("vout", .integer unit.vtxo.vout), ("vtxo_txid", .string unit.vtxo.txid)]

def reservePublicRequestWithSequence (request : HardReservationRequest) (outpoints : List OutPoint)
    (allocationSequence : Nat) : Value :=
  .object [("amount", .string (toString request.amount)),
    ("ark_reserve", (request.arkReserve.map arkReserveJson).getD .null),
    ("asset_id", .string request.assetId), ("bucket_id", .string request.bucketId),
    ("expected_allocation_sequence", .string (toString allocationSequence)), ("expires_at", .integer request.expiresAt),
    ("reservation_id", .string request.reservationId), ("utxos", .array (outpoints.map outpointJson))]

def reservePublicRequest (request : HardReservationRequest) (outpoints : List OutPoint) : Value :=
  reservePublicRequestWithSequence request outpoints request.expectedAllocationSequence

def reservePublicResult (request : HardReservationRequest) (allocationSequence : Nat) : Value :=
  .object [("allocation_sequence", .string (toString allocationSequence)),
    ("reservation_id", .string request.reservationId), ("state", .string "reserved")]

section Calls

variable (env : StoreEnv) (request : HardReservationRequest)

def boundedJson (value : Value) : Stored Bytes :=
  if (env.toVec value).length ≤ maxJsonBytes then .ok (env.toVec value)
  else .error (.invalidInput "public JSON exceeds its byte bound")

def validatePublicJson (value : Value) : Stored Unit :=
  match env.rejectCustodyMaterial value with
  | .error detail => .error (.invalidInput detail)
  | .ok () => (boundedJson env value).map fun _ => ()

/-! ## Locks and replays -/

open Prog (query exec execUnless acquire acquireAll ofExcept lockRow)

def arkLock (reserveUnit : String) : LockKey := .advisory (env.hashtextextended ("provider-ark-reserve:" ++ reserveUnit))

/-- Commit with an answer. -/
def answer {α : Type} (result : ProviderAnswer) : ProviderTxn α := .commit (.ok result)

def replayOrConflict {α : Type} (exact : Bool) (subject : String) : ProviderTxn α :=
  if exact then answer (.write .replay) else .commit (.error (.conflict (subject ++ " replay changed immutable bytes")))

def reservationMatches (existing : ReservationRecord) (request : HardReservationRequest) : Bool :=
  existing.effectId = request.effectId && existing.sessionId = request.sessionId &&
    existing.bucketId = request.bucketId && existing.assetId = request.assetId && existing.amount = request.amount &&
    existing.requestSha256 = request.requestSha256 && existing.expiresAt = request.expiresAt

def arkReserveMatches (stored : Option ArkUnitRow) : Bool :=
  match request.arkReserve, stored with
  | none, stored => stored.isNone
  | some _, none => false
  | some requested, some stored => stored.reserveUnit = requested.canonicalId && stored.unit = requested

def reserveEffectMatches (row : EffectRow) (request : HardReservationRequest) (outpoints : List OutPoint)
    (allocationSequence : Nat) : Stored Bool := do
  let publicResult := reservePublicResult request allocationSequence
  let bytes ← boundedJson env publicResult
  return row.sessionId = request.sessionId && row.operation = "reserve" && row.requestSha256 = request.requestSha256 &&
    row.publicRequest = reservePublicRequestWithSequence request outpoints allocationSequence &&
    row.state = .applied && row.resultSha256 = some (env.digest bytes) && row.publicResult = some publicResult &&
    row.externalReference = some request.reservationId

/-! ## `reserve` -/

def boundToAnother {α : Type} : ProviderTxn α := .commit (.error (.conflict "reservation ID is bound to another request"))

/-- The reservation id is taken: the same request again, or a conflict. -/
def replayReservation (outpoints : List OutPoint) (existing : ReservationRecord) :
    ProviderTxn Empty := do
  let effect ← lockRow (.effect request.effectId) (·.effects request.effectId)
  if !reservationMatches existing request then boundToAnother
  else
    let arkRow ← lockRow (.arkUnit request.reservationId) (·.arkUnit request.reservationId)
    if !arkReserveMatches request arkRow then boundToAnother
    else
      match effect with
      | none => boundToAnother
      | some row =>
        let exact ← ofExcept (reserveEffectMatches env row request outpoints existing.allocationSequence)
        if exact then answer (.reservation (.replay existing)) else boundToAnother

def checkArkReserve : ProviderTxn Unit :=
  match request.arkReserve with
  | none => pure ()
  | some unit => do
    let blocking ← query (·.blockingArkUnit unit.canonicalId)
    if blocking.isSome then answer (.reservation (.arkReserveUnitUnavailable unit.canonicalId)) else pure ()

/-- The request fits its bucket, which stays locked. -/
def checkBucket : ProviderTxn Unit := do
  let bucket ← lockRow (.bucket request.bucketId) (·.buckets request.bucketId)
  match bucket with
  | none => .fail (.notFound request.bucketId)
  | some bucket =>
    if bucket.assetId ≠ request.assetId then .fail (.conflict "reservation asset differs from capacity bucket")
    else if 2 ^ 63 ≤ bucket.allocationSequence + 1 then .fail (.conflict "allocation sequence overflow")
    else if 2 ^ 63 ≤ request.expectedAllocationSequence then
      .fail (.invalidInput "expected allocation sequence exceeds bigint")
    else if request.expectedAllocationSequence ≠ bucket.allocationSequence + 1 then
      answer (.reservation (.allocationSequenceMismatch bucket.allocationSequence))
    else if 2 ^ 63 ≤ request.amount then .fail (.invalidInput "reservation amount exceeds bigint")
    else if 2 ^ 63 ≤ bucket.allocatedCapacity + request.amount ∨
        bucket.totalCapacity < bucket.allocatedCapacity + request.amount then
      answer (.reservation .insufficientCapacity)
    else pure ()

/-- What the loop over the outpoints asks of a coin. -/
def selectable (assetId : String) (row : UtxoRow) : Bool :=
  row.assetId = assetId && row.state = .available && row.reservationId.isNone

/-- The first loop over the outpoints, which locks the coins and adds up what they hold. -/
def lockUtxos (assetId : String) : List OutPoint → Nat → ProviderTxn Nat
  | [], selected => pure selected
  | outpoint :: rest, selected =>
    if 2 ^ 31 ≤ outpoint.vout then .fail (.invalidInput "vout exceeds i32")
    else do
      let row ← lockRow (.utxo outpoint) (·.utxo outpoint)
      match row with
      | none => answer (.reservation (.utxoUnavailable outpoint))
      | some row =>
        if selectable assetId row then
          if 2 ^ 63 ≤ selected + row.amount then .fail (.migrationDrift "selected UTXO capacity overflow")
          else lockUtxos assetId rest (selected + row.amount)
        else answer (.reservation (.utxoUnavailable outpoint))

/-- The effect row `insert_reserve_effect` wants to find or to leave. -/
def reserveEffect (outpoints : List OutPoint) : EffectRow where
  sessionId := request.sessionId
  operation := "reserve"
  requestSha256 := request.requestSha256
  publicRequest := reservePublicRequest request outpoints
  state := .pending
  resultSha256 := none
  publicResult := none
  externalReference := none

def effectRequestMatches (row candidate : EffectRow) : Bool :=
  row.sessionId = candidate.sessionId && row.operation = candidate.operation &&
    row.requestSha256 = candidate.requestSha256 && row.publicRequest = candidate.publicRequest

/-- `INSERT_EFFECT_SQL` and what follows when the id is taken. -/
def insertReserveEffect (outpoints : List OutPoint) : ProviderTxn Unit := do
  let candidate := reserveEffect request outpoints
  ofExcept (validatePublicJson env candidate.publicRequest)
  let _ ← ofExcept (databaseU64 request.createdAt "reserve effect time")
  acquire (.effect request.effectId)
  let existing ← exec
    (fun d => if (d.effects request.effectId).isSome then [] else [.putEffect request.effectId candidate])
    (·.effects request.effectId)
  match existing with
  | none => pure ()
  | some row =>
    if effectRequestMatches row candidate then pure ()
    else .fail (.conflict "reserve effect ID is bound to another request")

def reservationRow : ReservationRecord where
  reservationId := request.reservationId
  effectId := request.effectId
  sessionId := request.sessionId
  bucketId := request.bucketId
  assetId := request.assetId
  amount := request.amount
  requestSha256 := request.requestSha256
  allocationSequence := request.expectedAllocationSequence
  expiresAt := request.expiresAt
  state := .active
  releaseCause := none

def arkUnitRow (unit : ArkReserveUnit) : ArkUnitRow where
  reservationId := request.reservationId
  reserveUnit := unit.canonicalId
  unit := unit
  state := .active
  releaseCause := none

/-- A unique index of `provider_reservation` has the row's key. -/
def reservationTaken (row : ReservationRecord) (d : ProviderDb) : Bool :=
  d.reservations.any fun other => other.reservationId = row.reservationId || other.effectId = row.effectId ||
    other.sessionId = row.sessionId

def insertReservation (row : ReservationRecord) : ProviderTxn Unit := do
  acquireAll [.reservation row.reservationId, .reservationEffect row.effectId, .reservationSession row.sessionId]
  execUnless (reservationTaken row) (.database "duplicate key value violates unique constraint")
    fun _ => [.insertReservation row]

/-- The second loop over the outpoints. -/
def reserveUtxos (reservationId : String) (now : Nat) : List OutPoint → ProviderTxn Unit
  | [] => pure ()
  | outpoint :: rest => do
    let updated ← exec
      (fun d => match d.utxo outpoint with
        | some row =>
          if row.state = .available ∧ row.reservationId = none then
            [.updateUtxo { row with
              state := .reserved, reservationId := some reservationId, observedAt := max row.observedAt now }]
          else []
        | none => [])
      (fun d => (d.utxo outpoint).any fun row => row.state = .available && row.reservationId.isNone)
    if updated then reserveUtxos reservationId now rest
    else .fail (.conflict "locked UTXO changed before reservation")

def completeReserveEffect : ProviderTxn Unit := do
  let publicResult := reservePublicResult request request.expectedAllocationSequence
  ofExcept (validatePublicJson env publicResult)
  let bytes ← ofExcept (boundedJson env publicResult)
  let updated ← exec
    (fun d => match d.effects request.effectId with
      | some row => [.putEffect request.effectId { row with
          state := .applied, resultSha256 := some (env.digest bytes), publicResult := some publicResult
          externalReference := some request.reservationId }]
      | none => [])
    (fun d => (d.effects request.effectId).isSome)
  if updated then pure () else .fail (.notFound request.effectId)

/-- The row `UPDATE_BUCKET_RESERVE_SQL` leaves. -/
def Bucket.reserve (bucket : Bucket) (amount : Nat) : Bucket :=
  { bucket with
    allocatedCapacity := bucket.allocatedCapacity + amount, allocationSequence := bucket.allocationSequence + 1 }

def updateBucketReserve (bucketId : String) (amount : Nat) : ProviderTxn Unit :=
  exec (fun d => ((d.buckets bucketId).map fun bucket => .putBucket bucketId (bucket.reserve amount)).toList) fun _ => ()

def insertArkReserve : ProviderTxn Unit :=
  match request.arkReserve with
  | none => pure ()
  | some unit => exec (fun _ => [.insertArkUnit (arkUnitRow request unit)]) fun _ => ()

/-- The statements that write the reservation. -/
def writeReservation (outpoints : List OutPoint) : ProviderTxn Empty := do
  insertReserveEffect env request outpoints
  let now ← ofExcept (databaseU64 request.createdAt "reservation time")
  updateBucketReserve request.bucketId request.amount
  let _ ← ofExcept (databaseU64 request.expiresAt "reservation expiry")
  insertReservation (reservationRow request)
  insertArkReserve request
  reserveUtxos request.reservationId now outpoints
  completeReserveEffect env request
  answer (.reservation (.reserved (reservationRow request)))

/-- `reserve` for a reservation id that no row has. -/
def reserveFresh (outpoints : List OutPoint) : ProviderTxn Empty := do
  checkArkReserve request
  checkBucket request
  let selected ← lockUtxos request.assetId outpoints 0
  if outpoints ≠ [] ∧ selected < request.amount then answer (.reservation .insufficientCapacity)
  else writeReservation env request outpoints

/-- The advisory locks of `reserve`. -/
def reserveLocks : List LockKey :=
  .advisory (env.hashtextextended request.bucketId) :: (request.arkReserve.map fun unit => arkLock env unit.canonicalId).toList

def reserve : ProviderTxn Empty := do
  ofExcept (validateReservationRequest request)
  let outpoints := sortOutpoints request.utxos
  acquireAll (reserveLocks env request)
  let existing ← lockRow (.reservation request.reservationId) (·.reservation request.reservationId)
  match existing with
  | some existing => replayReservation env request outpoints existing
  | none => reserveFresh env request outpoints

/-! ## `release_reservation` and `mark_reservation_unresolved` -/

/-- The reservation under its bucket's advisory lock and its own row lock. -/
def lockedReservation (reservationId : String) : ProviderTxn (ReservationRecord × ReservationRecord) := do
  let initial ← query (·.reservation reservationId)
  match initial with
  | none => .fail (.notFound reservationId)
  | some initial =>
    acquire (.advisory (env.hashtextextended initial.bucketId))
    let existing ← lockRow (.reservation reservationId) (·.reservation reservationId)
    match existing with
    | none => .fail (.notFound reservationId)
    | some existing => pure (initial, existing)

/-- `RELEASE_RESERVATION_SQL` and `MARK_RESERVATION_UNRESOLVED_SQL`, with the number of rows they change. -/
def settleReservation (reservationId : String) (state : ReservationState) (cause : String) : ProviderTxn Bool :=
  exec
    (fun d => if (d.reservation reservationId).any (·.state = .active) then
      [.settleReservation reservationId state cause] else [])
    (fun d => (d.reservation reservationId).any (·.state = .active))

/-- The row `UPDATE_BUCKET_RELEASE_SQL` leaves. -/
def Bucket.release (bucket : Bucket) (amount : Nat) : Bucket :=
  { bucket with allocatedCapacity := bucket.allocatedCapacity - amount }

/-- The row that `UPDATE_BUCKET_RELEASE_SQL` changes, if there is one. -/
def releasable (bucketId : String) (amount : Nat) (d : ProviderDb) : Option Bucket :=
  (d.buckets bucketId).filter (amount ≤ ·.allocatedCapacity)

def updateBucketRelease (bucketId : String) (amount : Nat) : ProviderTxn Unit := do
  acquire (.bucket bucketId)
  let updated ← exec
    (fun d => ((releasable bucketId amount d).map fun bucket => .putBucket bucketId (bucket.release amount)).toList)
    (fun d => (releasable bucketId amount d).isSome)
  if updated then pure () else .fail (.conflict "capacity allocation underflow during release")

/-- The writes of `RELEASE_UTXOS_SQL` on the rows it has locked, those that still match. -/
def releaseUtxoWrites (reservationId : String) (now : Nat) (locked : List OutPoint) (d : ProviderDb) :
    List ProviderWrite :=
  locked.filterMap fun outpoint => (d.utxo outpoint).bind fun row =>
    if row.reservationId = some reservationId ∧ row.state = .reserved then
      some (.updateUtxo { row with state := .available, reservationId := none, observedAt := max row.observedAt now })
    else none

def releaseUtxos (reservationId : String) (now : Nat) : ProviderTxn Unit := do
  let matching ← query (·.reservedFor reservationId)
  acquireAll (matching.map .utxo)
  exec (releaseUtxoWrites reservationId now matching) fun _ => ()

def transitionArkReserveUnit (reservationId : String) (target : ReservationState) (cause : String) :
    ProviderTxn Unit := do
  let initial ← query (·.arkUnit reservationId)
  match initial with
  | none => pure ()
  | some initial =>
    acquire (arkLock env initial.reserveUnit)
    let row ← lockRow (.arkUnit reservationId) (·.arkUnit reservationId)
    match row with
    | none => .fail (.migrationDrift "Ark reserve unit disappeared during transition")
    | some row =>
      if row.reserveUnit ≠ initial.reserveUnit then
        .fail (.migrationDrift "Ark reserve unit identity changed after insertion")
      else if row.state = target then
        if row.releaseCause = some cause then pure ()
        else .fail (.conflict "Ark reserve unit transition changed its cause")
      else if row.state ≠ .active then .fail (.conflict "Ark reserve unit cannot change terminal state")
      else
        let updated ← exec
          (fun d => if (d.arkUnit reservationId).any (·.state = .active) then
            [.settleArkUnit reservationId target cause] else [])
          (fun d => (d.arkUnit reservationId).any (·.state = .active))
        if updated then pure () else .fail (.notFound reservationId)

/-- The statements that release an active reservation. -/
def writeRelease (existing : ReservationRecord) (reservationId cause : String) (now : Nat) : ProviderTxn Empty := do
  let amount ← ofExcept (databaseU64 existing.amount "reservation amount")
  let _ ← settleReservation reservationId .released cause
  updateBucketRelease existing.bucketId amount
  releaseUtxos reservationId now
  transitionArkReserveUnit env reservationId .released cause
  answer (.write .stored)

def releaseReservation (reservationId cause : String) (now : Nat) : ProviderTxn Empty := do
  ofExcept (validateHex reservationId "reservation ID")
  ofExcept (validateIdentifier cause "release cause")
  let now ← ofExcept (databaseU64 now "release time")
  let (initial, existing) ← lockedReservation env reservationId
  if existing.bucketId ≠ initial.bucketId then .fail (.migrationDrift "reservation bucket changed after insertion")
  else
    match existing.state with
    | .released => replayOrConflict (existing.releaseCause = some cause) "reservation release"
    | .unresolved => .fail (.conflict "unresolved reservation cannot be silently released")
    | .active => writeRelease env existing reservationId cause now

def unresolvedAlertId (reservationId : String) : String :=
  env.digest (utf8 ("provider-reservation-unresolved\u0000" ++ reservationId))

/-- The reservation is unresolved already: the same report again, or a conflict. -/
def replayUnresolved (existing : ReservationRecord) (reservationId detailCode : String) (publicContext : Value) :
    ProviderTxn Empty := do
  let alert ← query (·.alerts (unresolvedAlertId env reservationId))
  match alert with
  | none => .fail (.migrationDrift "unresolved reservation has no durable alert")
  | some alert =>
    replayOrConflict (existing.releaseCause = some detailCode && alert.detailCode = detailCode &&
      alert.publicContext = publicContext) "reservation unresolved state"

/-- The statements that mark an active reservation. -/
def writeUnresolved (existing : ReservationRecord) (reservationId detailCode : String) (publicContext : Value) :
    ProviderTxn Empty := do
  let updated ← settleReservation reservationId .unresolved detailCode
  if !updated then .fail (.notFound reservationId)
  else
    transitionArkReserveUnit env reservationId .unresolved detailCode
    acquire (.alert (unresolvedAlertId env reservationId))
    exec (fun _ => [.putAlert (unresolvedAlertId env reservationId)
      ⟨some existing.sessionId, "reservation", detailCode, publicContext⟩]) fun _ => ()
    answer (.write .stored)

def markReservationUnresolved (reservationId detailCode : String) (publicContext : Value) (now : Nat) :
    ProviderTxn Empty := do
  ofExcept (validateHex reservationId "reservation ID")
  ofExcept (validateIdentifier detailCode "reservation unresolved code")
  ofExcept (validatePublicJson env publicContext)
  let _ ← ofExcept (databaseU64 now "reservation unresolved time")
  let (_, existing) ← lockedReservation env reservationId
  match existing.state with
  | .unresolved => replayUnresolved env existing reservationId detailCode publicContext
  | .released => .fail (.conflict "released reservation cannot become unresolved")
  | .active => writeUnresolved env existing reservationId detailCode publicContext

/-! ## `configure_capacity_bucket` and `observe_utxo` -/

/-- The row `UPSERT_BUCKET_SQL` leaves, unless its `WHERE` refuses. -/
def upsertBucket (assetId : String) (totalCapacity : Nat) (existing : Option Bucket) : Option Bucket :=
  match existing with
  | none => some ⟨assetId, totalCapacity, 0, 0⟩
  | some bucket =>
    if bucket.allocatedCapacity ≤ totalCapacity ∧ bucket.assetId = assetId then some { bucket with totalCapacity }
    else none

def configureCapacityBucket (bucketId assetId : String) (totalCapacity now : Nat) : ProviderTxn Empty := do
  ofExcept (validateIdentifier bucketId "capacity bucket")
  ofExcept (validateAsset assetId)
  let totalCapacity ← ofExcept (databaseU64 totalCapacity "capacity")
  let _ ← ofExcept (databaseU64 now "bucket update time")
  acquire (.bucket bucketId)
  let updated ← exec
    (fun d => ((upsertBucket assetId totalCapacity (d.buckets bucketId)).map (.putBucket bucketId)).toList)
    (fun d => (upsertBucket assetId totalCapacity (d.buckets bucketId)).isSome)
  if updated then answer .done
  else .fail (.conflict "capacity update changes the asset or drops below allocation")

/-- The state `UPSERT_UTXO_SQL` leaves on a row it finds: a reserved coin stays reserved when it is seen available. -/
def mergedState (current observed : UtxoState) : UtxoState :=
  if current = .reserved ∧ observed = .available then current else observed

/-- The row `UPSERT_UTXO_SQL` leaves where it finds one. Its reservation is not touched. -/
def UtxoRow.observe (row : UtxoRow) (observation : UtxoObservation) (state : UtxoState) : UtxoRow :=
  { row with
    confirmations := observation.confirmations, blockHash := observation.blockHash
    replacementTxid := observation.replacementTxid, observedAt := max row.observedAt observation.observedAt
    state := mergedState row.state state }

/-- The write of `UPSERT_UTXO_SQL`, unless its `WHERE` refuses. -/
def upsertUtxo (observation : UtxoObservation) (state : UtxoState) (existing : Option UtxoRow) : Option ProviderWrite :=
  match existing with
  | none =>
    some (.insertUtxo
      { outpoint := observation.outpoint, assetId := observation.assetId, amount := observation.amount
        scriptPubkey := observation.scriptPubkey, state, reservationId := none
        confirmations := observation.confirmations, blockHash := observation.blockHash
        replacementTxid := observation.replacementTxid, observedAt := observation.observedAt })
  | some row =>
    if row.assetId = observation.assetId ∧ row.amount = observation.amount ∧
        row.scriptPubkey = observation.scriptPubkey then some (.updateUtxo (row.observe observation state))
    else none

/-- What an observation writes: a row without reservation, or the row it finds with the reservation that has. -/
theorem upsertUtxo_cases {observation : UtxoObservation} {state : UtxoState} {existing : Option UtxoRow}
    {w : ProviderWrite} (h : upsertUtxo observation state existing = some w) :
    (existing = none ∧ ∃ row, w = .insertUtxo row ∧ row.outpoint = observation.outpoint ∧ row.state = state ∧
      row.reservationId = none) ∨
    ∃ row, existing = some row ∧ w = .updateUtxo (row.observe observation state) ∧ row.assetId = observation.assetId ∧
      row.amount = observation.amount ∧ row.scriptPubkey = observation.scriptPubkey := by
  unfold upsertUtxo at h
  split at h
  · exact .inl ⟨rfl, _, (Option.some_inj.mp h).symm, rfl, rfl, rfl⟩
  · rename_i row
    split at h
    · rename_i hfields
      exact .inr ⟨row, rfl, (Option.some_inj.mp h).symm, hfields⟩
    · cases h

/-- The checks and conversions of `observe_utxo` before its statement. -/
def checkObservation (observation : UtxoObservation) : Stored UtxoState := do
  let state ← validateUtxo observation
  let _ ← databaseI32 observation.outpoint.vout "vout exceeds i32"
  let _ ← databaseU64 observation.amount "UTXO amount"
  let _ ← databaseI32 observation.confirmations "confirmation count exceeds i32"
  let _ ← databaseU64 observation.observedAt "UTXO observation time"
  return state

def observeUtxo (observation : UtxoObservation) : ProviderTxn Empty := do
  let state ← ofExcept (checkObservation observation)
  acquire (.utxo observation.outpoint)
  let updated ← exec
    (fun d => (upsertUtxo observation state (d.utxo observation.outpoint)).toList)
    (fun d => (upsertUtxo observation state (d.utxo observation.outpoint)).isSome)
  if updated then answer .done else .fail (.conflict "UTXO immutable public fields changed")

/-! ## Calls -/

inductive ProviderCall where
  | reserve (request : HardReservationRequest)
  | releaseReservation (reservationId cause : String) (now : Nat)
  | markReservationUnresolved (reservationId detailCode : String) (publicContext : Value) (now : Nat)
  | configureCapacityBucket (bucketId assetId : String) (totalCapacity now : Nat)
  | observeUtxo (observation : UtxoObservation)

def ProviderCall.program : ProviderCall → ProviderTxn Empty
  | .reserve request => Provider.reserve env request
  | .releaseReservation reservationId cause now => Provider.releaseReservation env reservationId cause now
  | .markReservationUnresolved reservationId detailCode publicContext now =>
    Provider.markReservationUnresolved env reservationId detailCode publicContext now
  | .configureCapacityBucket bucketId assetId totalCapacity now =>
    Provider.configureCapacityBucket bucketId assetId totalCapacity now
  | .observeUtxo observation => Provider.observeUtxo observation

end Calls

end Immortal.Provider
