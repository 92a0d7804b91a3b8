import Immortal.Provider.Transactions

/-!
# `Immortal.Provider.Discipline` — what the provider's locks guard, and what its calls commit

Every statement that changes a bucket, a reservation, a coin or an effect holds that row's lock, and every change
of an Ark reserve unit holds the advisory lock of the unit and the lock of its reservation. `providerGuard` says
so; with it, what a call has checked under its locks is still true when it commits.

A call then either commits one of the logs of `CallLog`, computed from the database it commits to, or leaves the
database as it is. `calls_verified` is that statement for every interleaving of calls, with the invariant
`ProviderInv` as what is known of each committed state.
-/

namespace Immortal.Provider

open Txn Immortal.Client ProviderDb

/-! ## Invariant -/

namespace ProviderDb
variable (d : ProviderDb)

/-- The reservations on a bucket, in the order of their insertion. -/
def bucketRows (bucketId : String) : List ReservationRecord := d.reservations.filter (·.bucketId = bucketId)

/-- What the active and the unresolved reservations on a bucket hold. -/
def heldAmount (bucketId : String) : Nat :=
  (((d.bucketRows bucketId).filter ReservationRecord.holding).map (·.amount)).sum

end ProviderDb

/-- The outpoint stands in the public request of an effect. -/
def namesOutpoint (row : EffectRow) (outpoint : OutPoint) : Bool :=
  ((row.publicRequest.get "utxos").bind Value.asArray).any (·.contains (outpointJson outpoint))

/-- A reservation that is active or unresolved and whose request names the outpoint. -/
def HoldsOutpoint (d : ProviderDb) (outpoint : OutPoint) (reservationId : String) : Prop :=
  ∃ row, d.reservation reservationId = some row ∧ row.holding = true ∧
    ∃ effect, d.effects row.effectId = some effect ∧ namesOutpoint effect outpoint = true

/-- The capacity ledger. -/
structure LedgerInv (d : ProviderDb) : Prop where
  ids : (d.reservations.map (·.reservationId)).Nodup
  unused : ∀ bucketId, d.buckets bucketId = none → d.bucketRows bucketId = []
  allocated : ∀ bucketId bucket, d.buckets bucketId = some bucket →
    bucket.allocatedCapacity = d.heldAmount bucketId
  bounded : ∀ bucketId bucket, d.buckets bucketId = some bucket → bucket.allocatedCapacity ≤ bucket.totalCapacity
  sequences : ∀ bucketId bucket, d.buckets bucketId = some bucket →
    (d.bucketRows bucketId).map (·.allocationSequence) = List.range' 1 bucket.allocationSequence

/-- Coins and Ark units are held by the reservations that name them. -/
structure HoldingInv (d : ProviderDb) : Prop where
  outpoints : (d.utxos.map (·.outpoint)).Nodup
  reserved : ∀ outpoint row, d.utxo outpoint = some row → row.state = .reserved →
    ∃ reservationId, row.reservationId = some reservationId ∧ HoldsOutpoint d outpoint reservationId
  arkIds : (d.arkUnits.map (·.reservationId)).Nodup
  arkState : ∀ row ∈ d.arkUnits, ∃ held, d.reservation row.reservationId = some held ∧ held.state = row.state
  arkUnique : ∀ row ∈ d.arkUnits, ∀ other ∈ d.arkUnits, row.blocking = true → other.blocking = true →
    row.reserveUnit = other.reserveUnit → row = other

structure ProviderInv (d : ProviderDb) : Prop where
  ledger : LedgerInv d
  holding : HoldingInv d

theorem ProviderInv.empty : ProviderInv empty := by
  refine ⟨⟨?_, ?_, ?_, ?_, ?_⟩, ⟨?_, ?_, ?_, ?_, ?_⟩⟩ <;>
    simp [ProviderDb.empty, ProviderDb.bucketRows, ProviderDb.utxo]

/-! ## Guard -/

section Guard
variable (env : StoreEnv)

/-- The Ark rows that an advisory lock covers. -/
def ProviderDb.arkCovered (d : ProviderDb) (hash : Int) : List ArkUnitRow :=
  d.arkUnits.filter fun row => env.hashtextextended ("provider-ark-reserve:" ++ row.reserveUnit) = hash

/-- The part of the database a lock guards is the same. A reservation's lock guards its row, its Ark unit, and
    that no coin becomes reserved for it. -/
def keeps : LockKey → ProviderDb → ProviderDb → Prop
  | .advisory hash, d, d' => d.arkCovered env hash = d'.arkCovered env hash
  | .bucket bucketId, d, d' => d.buckets bucketId = d'.buckets bucketId
  | .reservation reservationId, d, d' =>
    d.reservation reservationId = d'.reservation reservationId ∧
      d.arkUnit reservationId = d'.arkUnit reservationId ∧
      ∀ outpoint, outpoint ∈ d'.reservedFor reservationId → outpoint ∈ d.reservedFor reservationId
  | .utxo outpoint, d, d' => d.utxo outpoint = d'.utxo outpoint
  | .effect effectId, d, d' => d.effects effectId = d'.effects effectId
  | .reservationEffect _, _, _ | .reservationSession _, _, _ | .arkUnit _, _, _ | .alert _, _, _ => True

def providerGuard : Guard ProviderDb LockKey where
  keeps := keeps env
  refl k d := by cases k <;> simp [keeps]
  trans k a b c hab hbc := by
    cases k with
    | reservation reservationId =>
      exact ⟨hab.1.trans hbc.1, hab.2.1.trans hbc.2.1, fun outpoint h => hab.2.2 outpoint (hbc.2.2 outpoint h)⟩
    | advisory hash => exact Eq.trans hab hbc
    | bucket bucketId => exact Eq.trans hab hbc
    | utxo outpoint => exact Eq.trans hab hbc
    | effect effectId => exact Eq.trans hab hbc
    | reservationEffect effectId => trivial
    | reservationSession sessionId => trivial
    | arkUnit reservationId => trivial
    | alert alertId => trivial

/-- A write that touches only what the held locks guard. -/
def Allowed (held : List LockKey) (d : ProviderDb) : ProviderWrite → Prop
  | .putBucket bucketId _ => .bucket bucketId ∈ held
  | .insertReservation row => .reservation row.reservationId ∈ held
  | .settleReservation reservationId _ _ => .reservation reservationId ∈ held
  | .insertArkUnit row => .reservation row.reservationId ∈ held ∧ arkLock env row.reserveUnit ∈ held
  | .settleArkUnit reservationId _ _ => .reservation reservationId ∈ held ∧
      ∀ row ∈ d.arkUnits, row.reservationId = reservationId → arkLock env row.reserveUnit ∈ held
  | .insertUtxo row => .utxo row.outpoint ∈ held ∧ row.state ≠ .reserved
  | .updateUtxo row => .utxo row.outpoint ∈ held ∧ (row.state = .reserved → ∀ reservationId,
      row.reservationId = some reservationId →
        .reservation reservationId ∈ held ∨ row.outpoint ∈ d.reservedFor reservationId)
  | .putEffect effectId _ => .effect effectId ∈ held
  | .putAlert _ _ => True

variable {d : ProviderDb} {reservationId : String}

theorem mem_reservedFor {outpoint : OutPoint} :
    outpoint ∈ d.reservedFor reservationId ↔
      ∃ row ∈ d.utxos, row.outpoint = outpoint ∧ row.reservationId = some reservationId ∧ row.state = .reserved := by
  simp only [reservedFor, List.mem_map, List.mem_filter, Bool.and_eq_true, decide_eq_true_eq]
  constructor
  · rintro ⟨row, ⟨hmem, hid, hstate⟩, houtpoint⟩
    exact ⟨row, hmem, houtpoint, hid, hstate⟩
  · rintro ⟨row, hmem, houtpoint, hid, hstate⟩
    exact ⟨row, ⟨hmem, hid, hstate⟩, houtpoint⟩

theorem arkUnit_settle {settled cause : String} {state : ReservationState} :
    (d.write (.settleArkUnit settled state cause)).arkUnit reservationId =
      (d.arkUnit reservationId).map fun row =>
        if row.reservationId = settled then { row with state, releaseCause := some cause } else row := by
  refine find?_map_key (fun row => ?_) reservationId d.arkUnits
  split <;> rfl

theorem arkUnit_id {row : ArkUnitRow} (h : d.arkUnit reservationId = some row) : row.reservationId = reservationId := by
  simpa using List.find?_some h

theorem map_eq_self {α : Type} {found : Option α} {f : α → α} (h : ∀ row, found = some row → f row = row) :
    found.map f = found := by
  cases found with
  | none => rfl
  | some row => exact congrArg some (h row rfl)

variable {env}

/-- An allowed write leaves alone what the other locks guard. -/
theorem allowed_keeps {held : List LockKey} {w : ProviderWrite} (h : Allowed env held d w) {k : LockKey}
    (hk : k ∉ held) : keeps env k d (d.write w) := by
  have hne : ∀ {key : LockKey}, key ∈ held → key ≠ k := fun hmem heq => hk (heq ▸ hmem)
  cases w with
  | putBucket bucketId bucket =>
    cases k with
    | bucket other =>
      have : other ≠ bucketId := fun heq => hne h (by rw [heq])
      simp [keeps, Function.update_of_ne this]
    | _ => first | trivial | exact ⟨rfl, rfl, fun _ h => h⟩
  | insertReservation row =>
    cases k with
    | reservation other =>
      have : row.reservationId ≠ other := fun heq => hne h (by rw [heq])
      refine ⟨?_, rfl, fun _ h => h⟩
      simp [this]
    | _ => trivial
  | settleReservation reservationId state cause =>
    cases k with
    | reservation other =>
      have hother : other ≠ reservationId := fun heq => hne h (by rw [heq])
      refine ⟨?_, rfl, fun _ h => h⟩
      rw [reservation_settle]
      exact (map_eq_self fun row hrow => if_neg (by rwa [reservation_id hrow])).symm
    | _ => trivial
  | insertArkUnit row =>
    cases k with
    | reservation other =>
      have : row.reservationId ≠ other := fun heq => hne h.1 (by rw [heq])
      exact ⟨rfl, by simp [arkUnit, write, this], fun _ h => h⟩
    | advisory hash =>
      have : env.hashtextextended ("provider-ark-reserve:" ++ row.reserveUnit) ≠ hash := by
        intro heq
        exact hne h.2 (by rw [arkLock, heq])
      simp [keeps, arkCovered, write, this]
    | _ => trivial
  | settleArkUnit reservationId state cause =>
    cases k with
    | reservation other =>
      have hother : other ≠ reservationId := fun heq => hne h.1 (by rw [heq])
      refine ⟨rfl, ?_, fun _ h => h⟩
      rw [arkUnit_settle]
      exact (map_eq_self fun row hrow => if_neg (by rwa [arkUnit_id hrow])).symm
    | advisory hash =>
      -- the settled rows are under the unit's own lock
      have huncovered : ∀ row ∈ d.arkUnits, row.reservationId = reservationId →
          env.hashtextextended ("provider-ark-reserve:" ++ row.reserveUnit) ≠ hash := by
        intro row hmem hid heq
        exact hne (h.2 row hmem hid) (by rw [arkLock, heq])
      simp only [keeps, arkCovered, write, List.filter_map]
      rw [List.map_congr_left (g := id), List.map_id]
      · refine List.filter_congr fun row _ => ?_
        simp only [Function.comp_apply]
        split <;> rfl
      · intro row hrow
        obtain ⟨hmem, hcovered⟩ := List.mem_filter.mp hrow
        refine if_neg fun hid => huncovered row hmem hid ?_
        simpa [hid] using hcovered
    | _ => trivial
  | insertUtxo row =>
    cases k with
    | utxo other =>
      have : row.outpoint ≠ other := fun heq => hne h.1 (by rw [heq])
      simp [keeps, this]
    | reservation other =>
      refine ⟨rfl, rfl, fun outpoint hmem => ?_⟩
      obtain ⟨found, hfound, houtpoint, hid, hstate⟩ := mem_reservedFor.mp hmem
      rcases List.mem_append.mp hfound with hfound | hfound
      · exact mem_reservedFor.mpr ⟨found, hfound, houtpoint, hid, hstate⟩
      · rw [List.mem_singleton.mp hfound] at hstate
        exact absurd hstate h.2
    | _ => trivial
  | updateUtxo row =>
    cases k with
    | utxo other =>
      have hother : other ≠ row.outpoint := fun heq => hne h.1 (by rw [heq])
      simp only [keeps, utxo_update]
      exact (map_eq_self fun found hrow => if_neg (by rwa [utxo_outpoint hrow])).symm
    | reservation other =>
      refine ⟨rfl, rfl, fun outpoint hmem => ?_⟩
      obtain ⟨found, hfound, houtpoint, hid, hstate⟩ := mem_reservedFor.mp hmem
      obtain ⟨source, hsource, rfl⟩ := List.mem_map.mp hfound
      split at houtpoint
      · rename_i hsame
        rw [if_pos hsame] at hid hstate
        rcases h.2 hstate other hid with hheld | hbefore
        · exact absurd hheld hk
        · exact houtpoint ▸ hbefore
      · rename_i hsame
        rw [if_neg hsame] at hid hstate
        exact mem_reservedFor.mpr ⟨source, hsource, houtpoint, hid, hstate⟩
    | _ => trivial
  | putEffect effectId row =>
    cases k with
    | effect other =>
      have : other ≠ effectId := fun heq => hne h (by rw [heq])
      simp [keeps, write, Function.update_of_ne this]
    | _ => first | trivial | exact ⟨rfl, rfl, fun _ h => h⟩
  | putAlert alertId row =>
    cases k with
    | _ => first | trivial | exact ⟨rfl, rfl, fun _ h => h⟩

/-- A log whose writes are each allowed where they are applied. -/
def AllowedLog (env : StoreEnv) (held : List LockKey) : ProviderDb → List ProviderWrite → Prop
  | _, [] => True
  | d, w :: log => Allowed env held d w ∧ AllowedLog env held (d.write w) log

theorem allowedLog_keeps {held : List LockKey} {log : List ProviderWrite} (h : AllowedLog env held d log)
    {k : LockKey} (hk : k ∉ held) : keeps env k d (overlay log d) := by
  induction log generalizing d with
  | nil => exact (providerGuard env).refl k d
  | cons w log ih => exact (providerGuard env).trans k _ _ _ (allowed_keeps h.1 hk) (ih h.2)

end Guard

/-! ## Logs -/

section Logs
variable (env : StoreEnv)

/-- The coin as `RESERVE_UTXO_SQL` leaves it. -/
def UtxoRow.reserve (row : UtxoRow) (reservationId : String) (now : Nat) : UtxoRow :=
  { row with state := .reserved, reservationId := some reservationId, observedAt := max row.observedAt now }

/-- The coin as `RELEASE_UTXOS_SQL` leaves it. -/
def UtxoRow.release (row : UtxoRow) (now : Nat) : UtxoRow :=
  { row with state := .available, reservationId := none, observedAt := max row.observedAt now }

/-- What `reserve` has checked when it starts to write: its bucket fits, `rows` are its coins and its Ark unit is
    free. -/
structure ReserveReady (request : HardReservationRequest) (bucket : Bucket) (rows : List UtxoRow) (d : ProviderDb) :
    Prop where
  bucket_eq : d.buckets request.bucketId = some bucket
  sequence : request.expectedAllocationSequence = bucket.allocationSequence + 1
  fits : bucket.allocatedCapacity + request.amount ≤ bucket.totalCapacity
  outpoints : rows.map (·.outpoint) = sortOutpoints request.utxos
  coins : ∀ row ∈ rows, d.utxo row.outpoint = some row ∧ selectable request.assetId row = true
  ark : ∀ unit, request.arkReserve = some unit → d.blockingArkUnit unit.canonicalId = none

/-- The effect row of a reservation once it is written. -/
def appliedEffect (request : HardReservationRequest) (row : EffectRow) : EffectRow :=
  let publicResult := reservePublicResult request request.expectedAllocationSequence
  { row with
    state := .applied, resultSha256 := some (env.digest (env.toVec publicResult)), publicResult := some publicResult
    externalReference := some request.reservationId }

def reserveEffectLog (request : HardReservationRequest) (existing : Option EffectRow) : List ProviderWrite :=
  if existing.isSome then [] else [.putEffect request.effectId (reserveEffect request (sortOutpoints request.utxos))]

def reserveArkLog (request : HardReservationRequest) : List ProviderWrite :=
  (request.arkReserve.map fun unit => .insertArkUnit (arkUnitRow request unit)).toList

def reserveUtxoLog (request : HardReservationRequest) (rows : List UtxoRow) : List ProviderWrite :=
  rows.map fun row => .updateUtxo (row.reserve request.reservationId request.createdAt)

/-- The writes of a reservation before its effect is completed. -/
def reserveWrites (request : HardReservationRequest) (bucket : Bucket) (rows : List UtxoRow)
    (existing : Option EffectRow) : List ProviderWrite :=
  reserveEffectLog request existing ++ [.putBucket request.bucketId (bucket.reserve request.amount)] ++
    [.insertReservation (reservationRow request)] ++ reserveArkLog request ++ reserveUtxoLog request rows

/-- The writes of a reservation. -/
def reserveLog (request : HardReservationRequest) (bucket : Bucket) (rows : List UtxoRow)
    (existing : Option EffectRow) : List ProviderWrite :=
  reserveWrites request bucket rows existing ++ [.putEffect request.effectId (appliedEffect env request
    (existing.getD (reserveEffect request (sortOutpoints request.utxos))))]

/-- The write that settles the Ark unit of a reservation, if it has one. -/
def arkLog (d : ProviderDb) (reservationId : String) (state : ReservationState) (cause : String) : List ProviderWrite :=
  if (d.arkUnit reservationId).isSome then [.settleArkUnit reservationId state cause] else []

/-- The writes of a release. `rows` are the coins reserved for it. -/
def releaseLog (d : ProviderDb) (existing : ReservationRecord) (bucket : Bucket) (rows : List UtxoRow) (cause : String)
    (now : Nat) : List ProviderWrite :=
  [.settleReservation existing.reservationId .released cause,
    .putBucket existing.bucketId (bucket.release existing.amount)] ++
    (rows.map fun row => .updateUtxo (row.release now)) ++ arkLog d existing.reservationId .released cause

/-- What a call that changes something commits, as a log computed from the database it commits to. -/
inductive CallLog : ProviderCall → ProviderDb → List ProviderWrite → Prop where
  | reserve {request bucket rows existing d} (ready : ReserveReady request bucket rows d)
      (nodup : (rows.map (·.outpoint)).Nodup)
      (fresh : d.reservation request.reservationId = none)
      (effect : d.effects request.effectId = existing)
      (same : ∀ row, existing = some row →
        effectRequestMatches row (reserveEffect request (sortOutpoints request.utxos)) = true) :
      CallLog (.reserve request) d (reserveLog env request bucket rows existing)
  | release {cause now bucket d existing rows} (found : d.reservation existing.reservationId = some existing)
      (active : existing.state = .active) (bucket_eq : d.buckets existing.bucketId = some bucket)
      (nodup : (rows.map (·.outpoint)).Nodup)
      (coins : ∀ row ∈ rows, d.utxo row.outpoint = some row)
      (all : ∀ outpoint, outpoint ∈ d.reservedFor existing.reservationId ↔ outpoint ∈ rows.map (·.outpoint)) :
      CallLog (.releaseReservation existing.reservationId cause now) d (releaseLog d existing bucket rows cause now)
  | unresolved {detailCode publicContext now alertId alert d existing}
      (found : d.reservation existing.reservationId = some existing) (active : existing.state = .active) :
      CallLog (.markReservationUnresolved existing.reservationId detailCode publicContext now) d
        ([.settleReservation existing.reservationId .unresolved detailCode] ++
          arkLog d existing.reservationId .unresolved detailCode ++ [.putAlert alertId alert])
  | configure {bucketId assetId totalCapacity now bucket d}
      (upsert : upsertBucket assetId totalCapacity (d.buckets bucketId) = some bucket) :
      CallLog (.configureCapacityBucket bucketId assetId totalCapacity now) d [.putBucket bucketId bucket]
  | observe {observation state w d} (checked : checkObservation observation = .ok state)
      (upsert : upsertUtxo observation state (d.utxo observation.outpoint) = some w) :
      CallLog (.observeUtxo observation) d [w]

/-- The answer of a call that changed the database. -/
def Applied : Except ProviderStoreError (Stored ProviderAnswer) → Bool
  | .ok (.ok (.reservation (.reserved _))) => true
  | .ok (.ok (.write .stored)) => true
  | .ok (.ok .done) => true
  | _ => false

/-- **What a finished call has done**: it committed its log, or it changed nothing. -/
def CallPost (call : ProviderCall) (result : Except ProviderStoreError (Stored ProviderAnswer))
    (before after : ProviderDb) : Prop :=
  (Applied result = true ∧ ∃ log, CallLog env call before log ∧ after = overlay log before) ∨
    (Applied result = false ∧ after = before)

end Logs

end Immortal.Provider
