import Immortal.Client.CooperativeSigning
import Immortal.Txn.RowLocks

/-!
# `Immortal.Provider.Tables` — the provider's capacity, coins and reservations

The rows of the provider migrations `0001` and `0004` that reserving and releasing capacity reads or writes, the
row writes a statement leaves in the transaction log, and the lookups of the prepared statements. Time columns
that no statement reads back (`created_at`, `updated_at`) are left out.

Amounts and sequences are `bigint` columns that are never negative; a `u64` enters the database through
`databaseU64`, which refuses what does not fit.
-/

namespace Immortal.Provider

open Txn Immortal.Client

/-! ## Rows and requests -/

structure OutPoint where
  txid : String
  vout : Nat
deriving DecidableEq, Repr

/-- A row of `provider_capacity_bucket`. -/
structure Bucket where
  assetId : String
  totalCapacity : Nat
  allocatedCapacity : Nat
  allocationSequence : Nat
deriving DecidableEq, Repr

inductive UtxoState where
  | available
  | reserved
  | spent
  | reorged
  | replaced
  | unresolved
deriving DecidableEq, Repr

/-- A row of `provider_utxo`. -/
structure UtxoRow where
  outpoint : OutPoint
  assetId : String
  amount : Nat
  scriptPubkey : String
  state : UtxoState
  reservationId : Option String
  confirmations : Nat
  blockHash : Option String
  replacementTxid : Option String
  observedAt : Nat
deriving DecidableEq, Repr

/-- The states of a reservation and of an Ark reserve unit. -/
inductive ReservationState where
  | active
  | released
  | unresolved
deriving DecidableEq, Repr

/-- A row of `provider_reservation`, `ReservationRecord` in the store. -/
structure ReservationRecord where
  reservationId : String
  effectId : String
  sessionId : String
  bucketId : String
  assetId : String
  amount : Nat
  requestSha256 : String
  allocationSequence : Nat
  expiresAt : Nat
  state : ReservationState
  releaseCause : Option String
deriving DecidableEq, Repr

/-- The reservation counts against its bucket. -/
def ReservationRecord.holding (row : ReservationRecord) : Bool := row.state = .active || row.state = .unresolved

structure ArkReserveUnit where
  protocolFamily : String
  operatorIdentitySha256 : String
  vtxo : OutPoint
  proofSha256 : String
deriving DecidableEq, Repr

def ArkReserveUnit.canonicalId (unit : ArkReserveUnit) : String :=
  "ark:" ++ unit.protocolFamily ++ ":" ++ unit.operatorIdentitySha256 ++ ":" ++ unit.vtxo.txid ++ ":" ++
    toString unit.vtxo.vout

/-- A row of `provider_ark_reserve_unit`. -/
structure ArkUnitRow where
  reservationId : String
  reserveUnit : String
  unit : ArkReserveUnit
  state : ReservationState
  releaseCause : Option String
deriving DecidableEq, Repr

/-- The unit is pledged. -/
def ArkUnitRow.blocking (row : ArkUnitRow) : Bool := row.state = .active || row.state = .unresolved

inductive EffectState where
  | pending
  | applied
  | unresolved
deriving DecidableEq, Repr

/-- A row of `provider_effect`. -/
structure EffectRow where
  sessionId : String
  operation : String
  requestSha256 : String
  publicRequest : Value
  state : EffectState
  resultSha256 : Option String
  publicResult : Option Value
  externalReference : Option String
deriving DecidableEq

/-- A row of `provider_alert`. -/
structure AlertRow where
  sessionId : Option String
  alertClass : String
  detailCode : String
  publicContext : Value
deriving DecidableEq

structure HardReservationRequest where
  reservationId : String
  effectId : String
  sessionId : String
  bucketId : String
  assetId : String
  amount : Nat
  requestSha256 : String
  expectedAllocationSequence : Nat
  expiresAt : Nat
  utxos : List OutPoint
  arkReserve : Option ArkReserveUnit
  createdAt : Nat
deriving DecidableEq, Repr

structure UtxoObservation where
  outpoint : OutPoint
  assetId : String
  amount : Nat
  scriptPubkey : String
  state : String
  confirmations : Nat
  blockHash : Option String
  replacementTxid : Option String
  observedAt : Nat
deriving DecidableEq, Repr

/-! ## Database -/

structure ProviderDb where
  buckets : String → Option Bucket
  /-- In the order of their insertion. -/
  reservations : List ReservationRecord
  arkUnits : List ArkUnitRow
  utxos : List UtxoRow
  effects : String → Option EffectRow
  alerts : String → Option AlertRow

def ProviderDb.empty : ProviderDb := ⟨fun _ => none, [], [], [], fun _ => none, fun _ => none⟩

inductive ProviderWrite where
  | putBucket (bucketId : String) (bucket : Bucket)
  | insertReservation (row : ReservationRecord)
  | settleReservation (reservationId : String) (state : ReservationState) (cause : String)
  | insertArkUnit (row : ArkUnitRow)
  | settleArkUnit (reservationId : String) (state : ReservationState) (cause : String)
  | insertUtxo (row : UtxoRow)
  | updateUtxo (row : UtxoRow)
  | putEffect (effectId : String) (row : EffectRow)
  | putAlert (alertId : String) (row : AlertRow)

namespace ProviderDb

def write (d : ProviderDb) : ProviderWrite → ProviderDb
  | .putBucket bucketId bucket => { d with buckets := Function.update d.buckets bucketId (some bucket) }
  | .insertReservation row => { d with reservations := d.reservations ++ [row] }
  | .settleReservation reservationId state cause => { d with
      reservations := d.reservations.map fun row =>
        if row.reservationId = reservationId then { row with state, releaseCause := some cause } else row }
  | .insertArkUnit row => { d with arkUnits := d.arkUnits ++ [row] }
  | .settleArkUnit reservationId state cause => { d with
      arkUnits := d.arkUnits.map fun row =>
        if row.reservationId = reservationId then { row with state, releaseCause := some cause } else row }
  | .insertUtxo row => { d with utxos := d.utxos ++ [row] }
  | .updateUtxo row => { d with
      utxos := d.utxos.map fun other => if other.outpoint = row.outpoint then row else other }
  | .putEffect effectId row => { d with effects := Function.update d.effects effectId (some row) }
  | .putAlert alertId row => { d with alerts := Function.update d.alerts alertId (some row) }

instance : Database ProviderDb ProviderWrite := ⟨write⟩

section Lookups
variable (d : ProviderDb)

def reservation (reservationId : String) : Option ReservationRecord :=
  d.reservations.find? (·.reservationId = reservationId)

def arkUnit (reservationId : String) : Option ArkUnitRow := d.arkUnits.find? (·.reservationId = reservationId)

/-- `SELECT_BLOCKING_ARK_RESERVE_UNIT_SQL` -/
def blockingArkUnit (reserveUnit : String) : Option ArkUnitRow :=
  d.arkUnits.find? fun row => row.reserveUnit = reserveUnit && row.blocking

def utxo (outpoint : OutPoint) : Option UtxoRow := d.utxos.find? (·.outpoint = outpoint)

/-- The outpoints of `RELEASE_UTXOS_SQL`. -/
def reservedFor (reservationId : String) : List OutPoint :=
  (d.utxos.filter fun row => row.reservationId = some reservationId && row.state = .reserved).map (·.outpoint)

/-- The order of `SELECT_AVAILABLE_UTXOS_SQL`. -/
def availableOrder (left right : UtxoRow) : Prop :=
  right.amount < left.amount ∨ (left.amount = right.amount ∧
    (left.outpoint.txid ≠ right.outpoint.txid ∧ stringLe left.outpoint.txid right.outpoint.txid ∨
      left.outpoint.txid = right.outpoint.txid ∧ left.outpoint.vout ≤ right.outpoint.vout))

instance : DecidableRel availableOrder := fun _ _ => inferInstanceAs (Decidable (_ ∨ _))

/-- `SELECT_AVAILABLE_UTXOS_SQL` -/
def availableUtxos (assetId : String) (scriptPubkeys : List String) (minimumConfirmations limit : Nat) : List UtxoRow :=
  ((d.utxos.filter fun row => row.assetId = assetId && row.state = .available &&
    minimumConfirmations ≤ row.confirmations && row.scriptPubkey ∈ scriptPubkeys).insertionSort availableOrder).take limit

end Lookups

/-! ## Lookups after a write -/

/-- Looking a row up after an update that keeps the keys. -/
theorem find?_map_key {α κ : Type} [DecidableEq κ] {key : α → κ} {f : α → α} (hf : ∀ a, key (f a) = key a) (k : κ)
    (rows : List α) : (rows.map f).find? (key · = k) = (rows.find? (key · = k)).map f := by
  rw [List.find?_map]
  congr 2
  funext a
  simp [hf a]

/-- With distinct keys a row is found under its key. -/
theorem find?_of_mem {α κ : Type} [DecidableEq κ] {key : α → κ} {rows : List α} (hnodup : (rows.map key).Nodup) {a : α}
    (hmem : a ∈ rows) : rows.find? (key · = key a) = some a := by
  induction rows with
  | nil => cases hmem
  | cons first rest ih =>
    obtain ⟨hfirst, hrest⟩ := List.nodup_cons.mp hnodup
    rcases List.mem_cons.mp hmem with rfl | hmem
    · simp
    · have hne : key first ≠ key a := fun heq => hfirst (List.mem_map.mpr ⟨a, hmem, heq.symm⟩)
      rw [List.find?_cons_of_neg (by simpa using hne)]
      exact ih hrest hmem

variable {d : ProviderDb}

@[simp] theorem write_putBucket_buckets (bucketId : String) (bucket : Bucket) :
    (d.write (.putBucket bucketId bucket)).buckets = Function.update d.buckets bucketId (some bucket) := rfl

@[simp] theorem reservation_insert (row : ReservationRecord) (reservationId : String) :
    (d.write (.insertReservation row)).reservation reservationId =
      (d.reservation reservationId).or (if row.reservationId = reservationId then some row else none) := by
  simp only [reservation, write]
  congr 1
  by_cases h : row.reservationId = reservationId <;> simp

@[simp] theorem reservation_settle (settled : String) (state : ReservationState) (cause reservationId : String) :
    (d.write (.settleReservation settled state cause)).reservation reservationId =
      (d.reservation reservationId).map fun row =>
        if row.reservationId = settled then { row with state, releaseCause := some cause } else row := by
  refine find?_map_key (fun row => ?_) reservationId d.reservations
  split <;> rfl

@[simp] theorem utxo_insert (row : UtxoRow) (outpoint : OutPoint) :
    (d.write (.insertUtxo row)).utxo outpoint =
      (d.utxo outpoint).or (if row.outpoint = outpoint then some row else none) := by
  simp only [utxo, write]
  congr 1
  by_cases h : row.outpoint = outpoint <;> simp

theorem replaced_outpoint (row other : UtxoRow) :
    (if other.outpoint = row.outpoint then row else other).outpoint = other.outpoint := by
  split
  · rename_i h
    exact h.symm
  · rfl

@[simp] theorem utxo_update (row : UtxoRow) (outpoint : OutPoint) :
    (d.write (.updateUtxo row)).utxo outpoint =
      (d.utxo outpoint).map fun other => if other.outpoint = row.outpoint then row else other :=
  find?_map_key (replaced_outpoint row) outpoint d.utxos

theorem utxo_outpoint {outpoint : OutPoint} {row : UtxoRow} (h : d.utxo outpoint = some row) : row.outpoint = outpoint := by
  simpa using List.find?_some h

theorem reservation_id {reservationId : String} {row : ReservationRecord} (h : d.reservation reservationId = some row) :
    row.reservationId = reservationId := by
  simpa using List.find?_some h

end ProviderDb

end Immortal.Provider
