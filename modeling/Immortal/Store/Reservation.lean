import Immortal.Store.Admit

/-!
# `Immortal.Store.Reservation` — capacity reservations of swap quotes

`apply_mkt_swp_coordination` on a quote: the claim on a provider's capacity bucket is decided once and the
decision is stored with it. A replay of the quote finds the stored decision. The capacity that a claim is
measured against is the one the claim itself declares (`handler_committed_capacity`), and a claim stops counting
when its `expires_at` has passed, whether or not the sweep has released its row by then.

`ReservationDb` holds the rows of migration `0011` in the order in which they were committed, with the clock that
the calls read their `now` from. The public-evidence part of the coordination transaction writes other tables
and is left out: a failure there loses the transaction.
-/

namespace Immortal.Store

open Immortal.Domain Txn

/-! ## Claims and rows -/

inductive ReservationClass where
  | none
  | soft
  | hard
  deriving DecidableEq, Repr

inductive ProofClass where
  | providerSigned
  | handlerAccounted
  | utxoControl
  | lightningLiquidity
  | fundedHtlc
  | covenantReserve
  | thirdPartyGuarantee
  deriving DecidableEq, Repr

/-- The stored decision on a claim; its `code` is the text of the column. -/
inductive ReservationDecision where
  | none
  | active
  | expired
  | overallocated
  | fork
  | idempotencyConflict
  | covenantReserveInvalid
  deriving DecidableEq, Repr

def ReservationDecision.code : ReservationDecision → String
  | .none => "mkt_swp_reservation_none"
  | .active => "mkt_swp_reservation_active"
  | .expired => "swp_reservation_expired"
  | .overallocated => "swp_reservation_overallocated"
  | .fork => "swp_reservation_fork"
  | .idempotencyConflict => "swp_idempotency_conflict"
  | .covenantReserveInvalid => "swp_covenant_reserve_invalid"

structure MktSwpReservationClaim where
  quoteEventId : String
  providerPubkey : String
  sessionId : String
  rfqEventId : String
  reservationId : String
  capacityBucketId : Option String
  reservedAssetId : Option String
  reservationClass : ReservationClass
  reservedAmount : Int
  handlerCommittedCapacity : Int
  allocationSequence : Option Int
  proofClass : Option ProofClass
  proofStrength : Int
  proofRefSha256 : Option String
  reserveUnitSha256 : Option String
  capacityCommitmentSha256 : Option String
  expiresAt : Option Int
  deriving DecidableEq, Repr

/-- A row of `mkt_swp_reservation_claim`; `release_reason` is `expired` exactly where `releasedAt` is set. -/
structure ReservationRow where
  wrapEventId : String
  claim : MktSwpReservationClaim
  decision : ReservationDecision
  active : Bool
  releasedAt : Option Int
  deriving DecidableEq, Repr

def ProofClass.strength : ProofClass → Int
  | .providerSigned => 10
  | .handlerAccounted => 20
  | .thirdPartyGuarantee => 40
  | .lightningLiquidity => 50
  | .utxoControl => 60
  | .fundedHtlc => 80
  | .covenantReserve => 100

/-- `^[a-z0-9][a-z0-9._-]{0,63}$` -/
def bucketShape (text : String) : Bool :=
  let plain := fun (c : Char) => ('a' ≤ c ∧ c ≤ 'z') ∨ ('0' ≤ c ∧ c ≤ '9')
  match text.toList with
  | [] => false
  | c :: rest => plain c && rest.length ≤ 63 && rest.all (fun c => plain c ∨ c = '.' ∨ c = '_' ∨ c = '-')

/-- `^swp:1:bip122:[0-9a-f]{32}:btc:(chain|lightning)$` -/
def assetShape (text : String) : Bool :=
  let chars := text.toList
  let digits := (chars.drop 13).take 32
  chars.take 13 = "swp:1:bip122:".toList && isLowerHex 16 (String.ofList digits) &&
    (chars.drop 45 = ":btc:chain".toList || chars.drop 45 = ":btc:lightning".toList)

/-- The `CHECK` constraints on a row as it is inserted. -/
def ReservationRow.checks (row : ReservationRow) : Bool :=
  let claim := row.claim
  isLowerHex 32 claim.quoteEventId && isLowerHex 32 row.wrapEventId && isLowerHex 32 claim.providerPubkey &&
  isLowerHex 32 claim.sessionId && isLowerHex 32 claim.rfqEventId && isLowerHex 32 claim.reservationId &&
  claim.capacityBucketId.all bucketShape && claim.reservedAssetId.all assetShape &&
  (0 ≤ claim.reservedAmount && 0 ≤ claim.handlerCommittedCapacity &&
    claim.reservedAmount ≤ claim.handlerCommittedCapacity) &&
  claim.allocationSequence.all (0 ≤ ·) && claim.expiresAt.all (0 ≤ ·) &&
  claim.proofStrength = (claim.proofClass.map ProofClass.strength).getD 0 &&
  claim.proofRefSha256.all (isLowerHex 32) && claim.capacityCommitmentSha256.all (isLowerHex 32) &&
  (if claim.proofClass = some .covenantReserve then claim.reserveUnitSha256.any (isLowerHex 32)
    else claim.reserveUnitSha256.isNone) &&
  (if claim.reservationClass = .none then
    claim.capacityBucketId.isNone && claim.reservedAssetId.isNone && claim.reservedAmount = 0 &&
    claim.handlerCommittedCapacity = 0 && claim.allocationSequence.isNone && claim.proofClass.isNone &&
    claim.proofRefSha256.isNone && claim.capacityCommitmentSha256.isNone && claim.expiresAt.isNone && !row.active
  else
    claim.capacityBucketId.isSome && claim.reservedAssetId.isSome && 0 < claim.reservedAmount &&
    0 < claim.handlerCommittedCapacity && claim.allocationSequence.isSome && claim.proofClass.isSome &&
    claim.proofRefSha256.isSome && claim.capacityCommitmentSha256.isSome && claim.expiresAt.isSome)

structure ReservationDb where
  claims : List ReservationRow
  clock : Nat
  deriving DecidableEq, Repr

inductive ReservationWrite where
  | insertClaim (row : ReservationRow)
  | releaseClaim (quoteEventId : String) (now : Int)
  deriving DecidableEq, Repr

/-- The row has run out at `now`; a row without `expires_at` never does. -/
def ReservationRow.due (now : Int) (row : ReservationRow) : Bool :=
  row.active && row.claim.expiresAt.any (· ≤ now)

def ReservationRow.release (now : Int) (row : ReservationRow) : ReservationRow :=
  { row with active := false, releasedAt := some now }

def ReservationDb.write (d : ReservationDb) : ReservationWrite → ReservationDb
  | .insertClaim row => { d with claims := d.claims ++ [row] }
  | .releaseClaim quoteEventId now => { d with
      claims := d.claims.map (fun row =>
        if row.claim.quoteEventId = quoteEventId ∧ row.due now then row.release now else row) }

instance : Database ReservationDb ReservationWrite := ⟨ReservationDb.write⟩

/-! ## Statements -/

namespace ReservationDb
variable (d : ReservationDb)

/-- `MKT_SWP_RESERVATION_OUTCOME` -/
def outcome (quoteEventId : String) : Option ReservationRow :=
  d.claims.find? (fun row => row.claim.quoteEventId = quoteEventId)

/-- The active claims on a bucket. -/
def bucketClaims (provider bucket : String) : List ReservationRow :=
  d.claims.filter (fun row =>
    row.active ∧ row.claim.providerPubkey = provider ∧ row.claim.capacityBucketId = some bucket)

/-- The active claims on a bucket that have not run out at `now`. -/
def activeClaims (provider bucket : String) (now : Int) : List ReservationRow :=
  (d.bucketClaims provider bucket).filter (fun row => row.claim.expiresAt.any (now < ·))

/-- What those claims reserve of one asset. -/
def reserved (provider bucket asset : String) (now : Int) : Int :=
  (((d.activeClaims provider bucket now).filter (fun row => row.claim.reservedAssetId = some asset)).map
    (fun row => row.claim.reservedAmount)).sum

/-- `MKT_SWP_RESERVATION_CAPACITY` -/
def capacityAvailable (provider bucket asset : String) (maximumActive : Nat) (capacity amount now : Int) : Bool :=
  (d.activeClaims provider bucket now).length < maximumActive && d.reserved provider bucket asset now ≤ capacity - amount

/-- `MKT_SWP_RESERVATION_FORK`, first column. -/
def idempotencyConflict (claim : MktSwpReservationClaim) : Bool :=
  d.claims.any (fun row => row.claim.providerPubkey = claim.providerPubkey ∧
    row.claim.quoteEventId ≠ claim.quoteEventId ∧ row.claim.reservationId = claim.reservationId)

/-- `MKT_SWP_RESERVATION_FORK`, second column; a comparison with a null matches nothing. -/
def allocationFork (claim : MktSwpReservationClaim) (bucket : String) (allocationSequence : Int) : Bool :=
  d.claims.any (fun row => row.claim.providerPubkey = claim.providerPubkey ∧
    row.claim.quoteEventId ≠ claim.quoteEventId ∧ row.claim.capacityBucketId = some bucket ∧
    (row.claim.allocationSequence.any (allocationSequence ≤ ·) ∨
      row.claim.capacityCommitmentSha256.any (fun digest => claim.capacityCommitmentSha256 = some digest)))

/-- `MKT_SWP_COVENANT_REUSE` -/
def covenantReuse (reserveUnitSha256 : String) (now : Int) : Bool :=
  d.claims.any (fun row => row.claim.proofClass = some .covenantReserve ∧
    row.claim.reserveUnitSha256 = some reserveUnitSha256 ∧ row.active ∧ row.claim.expiresAt.any (now < ·))

/-- `RELEASE_EXPIRED_MKT_SWP_RESERVATIONS`: at most a thousand due rows, oldest first, passing over the rows that
    another transaction has locked. -/
def releaseExpired (now : Int) (locked : List String) : ReservationDb :=
  let due := d.claims.filter (fun row => row.due now ∧ row.claim.quoteEventId ∉ locked)
  let order := fun (a b : ReservationRow) =>
    let ea := a.claim.expiresAt.getD 0
    let eb := b.claim.expiresAt.getD 0
    decide (ea < eb ∨ (ea = eb ∧ a.claim.quoteEventId ≤ b.claim.quoteEventId))
  let selected := ((due.mergeSort order).take 1000).map (fun row => row.claim.quoteEventId)
  { d with claims := d.claims.map (fun row =>
      if row.due now ∧ row.claim.quoteEventId ∈ selected then row.release now else row) }

end ReservationDb

/-! ## The transaction -/

structure MktSwpCoordinationOutcome where
  accepted : Bool
  code : ReservationDecision
  deriving DecidableEq, Repr

abbrev Reservation (α : Type) :=
  Prog ReservationDb ReservationWrite LockId StoreError MktSwpCoordinationOutcome α

/-- One call of `apply_mkt_swp_coordination` with a reservation claim. -/
structure ReservationCall where
  sourceEventId : String
  wrapEventId : String
  claim : MktSwpReservationClaim
  now : Nat
  deriving DecidableEq, Repr

def maxActiveReservationsPerBucket : Nat := 1024

def coordinationLockKey (sourceEventId : String) : String := "mkt-swp-coordination:" ++ sourceEventId

def reservationLockKey (provider reservationId : String) : String :=
  "mkt-swp-reservation-id:" ++ provider ++ ":" ++ reservationId

def bucketLockKey (provider bucket : String) : String := "mkt-swp-reservation:" ++ provider ++ ":" ++ bucket

def covenantLockKey (reserveUnitSha256 : String) : String := "mkt-swp-covenant-reserve:" ++ reserveUnitSha256

open Prog (query exec execUnless acquire ofExcept)

section
variable (hashtextextended : String → Int) (claim : MktSwpReservationClaim)

def required {α : Type} (value : Option α) (reason : String) : Except StoreError α :=
  match value with
  | some a => .ok a
  | none => .error (.coordination reason)

/-- Whether the reserve unit of a covenant claim is already pledged. -/
def covenantReuseCheck (now : Int) : Reservation Bool :=
  match claim.proofClass, claim.reserveUnitSha256 with
  | some .covenantReserve, some reserveUnitSha256 => do
    acquire (.text (hashtextextended (covenantLockKey reserveUnitSha256)))
    query (fun d => d.covenantReuse reserveUnitSha256 now)
  | some .covenantReserve, none => .fail (.coordination "covenant reservation is missing its reserve-unit digest")
  | _, some _ => .fail (.coordination "only covenant_reserve may identify a reserve unit")
  | _, none => pure false

/-- The decision on a claim that has no row yet, and whether the row is active. -/
def decideReservation (now : Int) : Reservation (ReservationDecision × Bool) :=
  if claim.reservationClass = .none then pure (.none, false)
  else do
    let bucket ← ofExcept (required claim.capacityBucketId "reserving claim is missing its capacity bucket")
    let asset ← ofExcept (required claim.reservedAssetId "reserving claim is missing its asset identifier")
    let allocationSequence ←
      ofExcept (required claim.allocationSequence "reserving claim is missing allocation sequence")
    acquire (.text (hashtextextended (bucketLockKey claim.providerPubkey bucket)))
    let expiresAt ← ofExcept (required claim.expiresAt "reserving claim is missing expiration")
    if expiresAt ≤ now then return (.expired, false)
    let (conflict, fork) ← query (fun d =>
      (d.idempotencyConflict claim, d.allocationFork claim bucket allocationSequence))
    let covenantReuse ← covenantReuseCheck hashtextextended claim now
    let available ← query (fun d => d.capacityAvailable claim.providerPubkey bucket asset
      maxActiveReservationsPerBucket claim.handlerCommittedCapacity claim.reservedAmount now)
    if conflict then return (.idempotencyConflict, false)
    else if fork then return (.fork, false)
    else if covenantReuse then return (.covenantReserveInvalid, false)
    else if !available then return (.overallocated, false)
    else return (.active, true)

/-- `INSERT_MKT_SWP_RESERVATION`, with the count check on its result. -/
def insertMktSwpReservation (row : ReservationRow) : Reservation Unit :=
  if row.checks then
    execUnless (fun d => (d.outcome row.claim.quoteEventId).isSome)
      (.corruptRow "MKT-SWP reservation outcome changed while its lock was held") (fun _ => [.insertClaim row])
  else .fail (.database "mkt_swp_reservation_claim check constraint")

/-- The answer to a quote that was decided before. -/
def replayReservation (row : ReservationRow) (now : Int) : Reservation MktSwpCoordinationOutcome :=
  if row.decision = .active ∧ (row.releasedAt.isSome ∨ row.claim.expiresAt.any (· ≤ now)) then do
    if row.active then
      exec (fun _ => [.releaseClaim claim.quoteEventId now]) (fun _ => ())
    return ⟨false, .expired⟩
  else return ⟨row.active || row.decision = .none, row.decision⟩

def applyMktSwpReservation (wrapEventId : String) (now : Nat) : Reservation MktSwpCoordinationOutcome := do
  let now ← ofExcept (pgI64 now "MKT-SWP coordination time")
  match ← query (fun d => d.outcome claim.quoteEventId) with
  | some row => replayReservation claim row now
  | none =>
    acquire (.text (hashtextextended (reservationLockKey claim.providerPubkey claim.reservationId)))
    let (decision, active) ← decideReservation hashtextextended claim now
    insertMktSwpReservation ⟨wrapEventId, claim, decision, active, none⟩
    return ⟨active || decision = .none, decision⟩

end

/-- `Store::apply_mkt_swp_coordination` on a reservation claim. -/
def applyMktSwpCoordination (hashtextextended : String → Int) (call : ReservationCall) : Reservation Empty := do
  acquire (.text (hashtextextended (coordinationLockKey call.sourceEventId)))
  let outcome ← applyMktSwpReservation hashtextextended call.claim call.wrapEventId call.now
  .commit outcome

end Immortal.Store
