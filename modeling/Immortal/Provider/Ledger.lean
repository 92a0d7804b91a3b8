import Immortal.Provider.Discipline

/-!
# `Immortal.Provider.Ledger` — every committed log keeps the ledger and the holdings

What a call commits is one of the logs of `CallLog`. Each of them is first computed table by table, then shown to
keep the two halves of the invariant: the capacity ledger (`LedgerInv`), where a bucket's allocation is the sum of
what its reservations hold, and the holdings (`HoldingInv`), where a reserved coin belongs to the reservation that
names it.
-/

namespace Immortal.Provider

open Txn Immortal.Client ProviderDb ReservationRecord Function List

/-! ## Tables after a log -/

variable (d : ProviderDb)

theorem overlay_singleton (w : ProviderWrite) : overlay [w] d = d.write w := rfl

/-- The coins after updates of some of them. -/
def updateRows (utxos rows : List UtxoRow) : List UtxoRow :=
  rows.foldl (fun utxos row => utxos.map fun other => if other.outpoint = row.outpoint then row else other) utxos

theorem overlay_updateUtxos (f : UtxoRow → UtxoRow) (rows : List UtxoRow) (d : ProviderDb) :
    overlay (rows.map fun row => .updateUtxo (f row)) d = { d with utxos := updateRows d.utxos (rows.map f) } := by
  induction rows generalizing d with
  | nil => rfl
  | cons row rest ih =>
    rw [map_cons, overlay_cons, ih]
    rfl

theorem outpoints_updateRows (utxos rows : List UtxoRow) :
    (updateRows utxos rows).map (·.outpoint) = utxos.map (·.outpoint) := by
  induction rows generalizing utxos with
  | nil => rfl
  | cons row rest ih =>
    have hstep : (utxos.map fun other => if other.outpoint = row.outpoint then row else other).map (·.outpoint) =
        utxos.map (·.outpoint) := by
      rw [map_map]
      exact map_congr_left fun other _ => replaced_outpoint row other
    exact (ih _).trans hstep

variable {rows utxos : List UtxoRow}

theorem find_updateRows_other {outpoint : OutPoint} (h : outpoint ∉ rows.map (·.outpoint)) :
    (updateRows utxos rows).find? (·.outpoint = outpoint) = utxos.find? (·.outpoint = outpoint) := by
  induction rows generalizing utxos with
  | nil => rfl
  | cons row rest ih =>
    simp only [map_cons, mem_cons, not_or] at h
    refine (ih h.2).trans ?_
    rw [find?_map_key (replaced_outpoint row)]
    cases hfound : utxos.find? (·.outpoint = outpoint) with
    | none => rfl
    | some found =>
      have hfoundKey : found.outpoint = outpoint := by simpa using find?_some hfound
      simp [hfoundKey, h.1]

variable {row : UtxoRow}

theorem find_updateRows_mem (hnodup : (rows.map (·.outpoint)).Nodup)
    (hmem : row ∈ rows) (hfound : (utxos.find? (·.outpoint = row.outpoint)).isSome = true) :
    (updateRows utxos rows).find? (·.outpoint = row.outpoint) = some row := by
  induction rows generalizing utxos with
  | nil => cases hmem
  | cons first rest ih =>
    obtain ⟨hfirst, hrest⟩ := nodup_cons.mp hnodup
    have hkey := replaced_outpoint first
    obtain ⟨found, hfound⟩ := Option.isSome_iff_exists.mp hfound
    have hfoundKey : found.outpoint = row.outpoint := by simpa using find?_some hfound
    rcases mem_cons.mp hmem with rfl | hmem
    · refine (find_updateRows_other hfirst).trans ?_
      rw [find?_map_key hkey, hfound]
      simp [hfoundKey]
    · refine ih hrest hmem ?_
      rw [find?_map_key hkey, hfound]
      rfl

/-- A coin after some of the coins have been rewritten: one of those, or as it was. -/
theorem find_updateRows {f : UtxoRow → UtxoRow} {outpoint : OutPoint}
    (hkey : ∀ row, (f row).outpoint = row.outpoint) (hnodup : (rows.map (·.outpoint)).Nodup)
    (hcoins : ∀ row ∈ rows, utxos.find? (·.outpoint = row.outpoint) = some row) :
    (updateRows utxos (rows.map f)).find? (·.outpoint = outpoint) = some row ↔
      (∃ source ∈ rows, source.outpoint = outpoint ∧ f source = row) ∨
        (outpoint ∉ rows.map (·.outpoint) ∧ utxos.find? (·.outpoint = outpoint) = some row) := by
  have hkeys : (rows.map f).map (·.outpoint) = rows.map (·.outpoint) := by
    rw [map_map]
    exact map_congr_left fun row _ => hkey row
  have hmem : ∀ source ∈ rows, (updateRows utxos (rows.map f)).find? (·.outpoint = source.outpoint) =
      some (f source) := by
    intro source hsource
    rw [← hkey source]
    refine find_updateRows_mem (hkeys ▸ hnodup) (mem_map_of_mem hsource) ?_
    rw [hkey, hcoins source hsource]
    rfl
  constructor
  · intro hrow
    by_cases hselected : outpoint ∈ rows.map (·.outpoint)
    · obtain ⟨source, hsource, rfl⟩ := mem_map.mp hselected
      exact .inl ⟨source, hsource, rfl, Option.some_inj.mp ((hmem source hsource).symm.trans hrow)⟩
    · exact .inr ⟨hselected, (find_updateRows_other (hkeys ▸ hselected)).symm.trans hrow⟩
  · rintro (⟨source, hsource, rfl, rfl⟩ | ⟨hselected, hrow⟩)
    · exact hmem source hsource
    · exact (find_updateRows_other (hkeys ▸ hselected)).trans hrow

section Overlays
variable {env : StoreEnv} {request : HardReservationRequest} {bucket : Bucket} {rows : List UtxoRow}

theorem overlay_reserveWrites (existing : Option EffectRow) (d : ProviderDb) :
    overlay (reserveWrites request bucket rows existing) d =
      { buckets := update d.buckets request.bucketId (some (bucket.reserve request.amount))
        reservations := d.reservations ++ [reservationRow request]
        arkUnits := d.arkUnits ++ (request.arkReserve.map (arkUnitRow request)).toList
        utxos := updateRows d.utxos (rows.map fun row => row.reserve request.reservationId request.createdAt)
        effects := if existing.isSome then d.effects else
          update d.effects request.effectId (some (reserveEffect request (sortOutpoints request.utxos)))
        alerts := d.alerts } := by
  simp only [reserveWrites, overlay_append, reserveUtxoLog, overlay_updateUtxos]
  cases existing with
  | none =>
    cases hark : request.arkReserve <;>
      simp [reserveEffectLog, reserveArkLog, hark, overlay_singleton, write]
  | some row =>
    cases hark : request.arkReserve <;>
      simp [reserveEffectLog, reserveArkLog, hark, overlay_singleton, write]

theorem overlay_reserveLog (existing : Option EffectRow) (d : ProviderDb) :
    overlay (reserveLog env request bucket rows existing) d =
      { buckets := update d.buckets request.bucketId (some (bucket.reserve request.amount))
        reservations := d.reservations ++ [reservationRow request]
        arkUnits := d.arkUnits ++ (request.arkReserve.map (arkUnitRow request)).toList
        utxos := updateRows d.utxos (rows.map fun row => row.reserve request.reservationId request.createdAt)
        effects := update d.effects request.effectId (some (appliedEffect env request
          (existing.getD (reserveEffect request (sortOutpoints request.utxos)))))
        alerts := d.alerts } := by
  rw [reserveLog, overlay_append, overlay_reserveWrites, overlay_singleton]
  cases existing with
  | none => simp [write]
  | some row => simp [write]

/-- The reservation rows with one of them settled. -/
def settleRow (reservationId : String) (state : ReservationState) (cause : String) (row : ReservationRecord) :
    ReservationRecord :=
  if row.reservationId = reservationId then { row with state, releaseCause := some cause } else row

/-- The Ark rows with one of them settled. -/
def settleArkRow (reservationId : String) (state : ReservationState) (cause : String) (row : ArkUnitRow) : ArkUnitRow :=
  if row.reservationId = reservationId then { row with state, releaseCause := some cause } else row

theorem overlay_arkLog {d d' : ProviderDb} (h : d'.arkUnits = d.arkUnits) (reservationId : String)
    (state : ReservationState) (cause : String) :
    overlay (arkLog d reservationId state cause) d' =
      { d' with arkUnits := d'.arkUnits.map (settleArkRow reservationId state cause) } := by
  unfold arkLog
  cases hark : d.arkUnit reservationId with
  | some row => rfl
  | none =>
    -- no row has this reservation, so the update changes nothing
    have hid : d'.arkUnits.map (settleArkRow reservationId state cause) = d'.arkUnits := by
      rw [h, map_congr_left (g := id), map_id]
      intro row hmem
      have hne := find?_eq_none.mp hark row hmem
      simp only [decide_eq_true_eq] at hne
      simp [settleArkRow, hne]
    simp [hid]

theorem overlay_releaseLog (existing : ReservationRecord) (cause : String) (now : Nat) :
    overlay (releaseLog d existing bucket rows cause now) d =
      { buckets := update d.buckets existing.bucketId (some (bucket.release existing.amount))
        reservations := d.reservations.map (settleRow existing.reservationId .released cause)
        arkUnits := d.arkUnits.map (settleArkRow existing.reservationId .released cause)
        utxos := updateRows d.utxos (rows.map fun row => row.release now)
        effects := d.effects
        alerts := d.alerts } := by
  rw [releaseLog, overlay_append, overlay_append, overlay_updateUtxos]
  exact overlay_arkLog rfl _ _ _

theorem overlay_unresolvedLog (reservationId detailCode alertId : String) (alert : AlertRow) :
    overlay ([.settleReservation reservationId .unresolved detailCode] ++
        arkLog d reservationId .unresolved detailCode ++ [.putAlert alertId alert]) d =
      { d with
        reservations := d.reservations.map (settleRow reservationId .unresolved detailCode)
        arkUnits := d.arkUnits.map (settleArkRow reservationId .unresolved detailCode)
        alerts := update d.alerts alertId (some alert) } := by
  have hark := overlay_arkLog (show (d.write (.settleReservation reservationId .unresolved detailCode)).arkUnits =
    d.arkUnits from rfl) reservationId .unresolved detailCode
  rw [overlay_append, overlay_append, overlay_singleton, overlay_singleton, hark]
  rfl

end Overlays

/-! ## The ledger -/

section Ledger

/-- What a reservation row counts against a bucket. -/
def ReservationRecord.weight (bucketId : String) (row : ReservationRecord) : Nat :=
  if row.bucketId = bucketId ∧ row.holding = true then row.amount else 0

theorem heldAmount_eq (bucketId : String) :
    d.heldAmount bucketId = (d.reservations.map (·.weight bucketId)).sum := by
  unfold heldAmount bucketRows
  induction d.reservations with
  | nil => rfl
  | cons row rest ih =>
    by_cases hbucket : row.bucketId = bucketId
    · by_cases hholding : row.holding = true
      · simpa [weight, hbucket, hholding] using ih
      · simpa [weight, hholding] using ih
    · simpa [weight, hbucket] using ih

variable {state : ReservationState}

theorem settleRow_other {reservationId cause : String} {row : ReservationRecord}
    (h : row.reservationId ≠ reservationId) : settleRow reservationId state cause row = row := by
  simp [settleRow, h]

theorem settleRow_id (reservationId cause : String) (state : ReservationState) (row : ReservationRecord) :
    (settleRow reservationId state cause row).reservationId = row.reservationId := by
  unfold settleRow
  split <;> rfl

theorem settleRow_bucket (reservationId cause : String) (state : ReservationState) (row : ReservationRecord) :
    (settleRow reservationId state cause row).bucketId = row.bucketId ∧
      (settleRow reservationId state cause row).allocationSequence = row.allocationSequence := by
  unfold settleRow
  split <;> exact ⟨rfl, rfl⟩

variable {bucket : Bucket} {existing : ReservationRecord} {cause : String}

/-- The sum after one row is settled. -/
theorem sum_settle {rows : List ReservationRecord} (hnodup : (rows.map (·.reservationId)).Nodup)
    (hmem : existing ∈ rows) (state : ReservationState) (cause : String) (weight : ReservationRecord → Nat) :
    ((rows.map (settleRow existing.reservationId state cause)).map weight).sum + weight existing =
      (rows.map weight).sum + weight (settleRow existing.reservationId state cause existing) := by
  induction rows with
  | nil => cases hmem
  | cons row rest ih =>
    obtain ⟨hrow, hrest⟩ := nodup_cons.mp hnodup
    simp only [map_cons, sum_cons]
    rcases mem_cons.mp hmem with rfl | hmem
    · -- the other rows have other ids
      have hother : rest.map (settleRow existing.reservationId state cause) = rest := by
        rw [map_congr_left (g := id), map_id]
        exact fun other hother => settleRow_other fun heq => hrow (mem_map.mpr ⟨other, hother, heq⟩)
      rw [hother]
      omega
    · have hne : row.reservationId ≠ existing.reservationId := fun heq =>
        hrow (mem_map.mpr ⟨existing, hmem, heq.symm⟩)
      have := ih hrest hmem
      rw [settleRow_other hne]
      omega

theorem bucketRows_settle (reservationId cause bucketId : String) (state : ReservationState) :
    ((d.reservations.map (settleRow reservationId state cause)).filter (·.bucketId = bucketId)) =
      (d.bucketRows bucketId).map (settleRow reservationId state cause) := by
  rw [filter_map]
  congr 1
  refine filter_congr fun row _ => ?_
  simp [(settleRow_bucket reservationId cause state row).1]

variable {d d' : ProviderDb}

/-- A fresh reservation is not in the table. -/
theorem reservation_fresh {reservationId : String} (h : d.reservation reservationId = none) :
    ∀ other ∈ d.reservations, other.reservationId ≠ reservationId := by
  intro other hmem
  simpa using find?_eq_none.mp h other hmem

/-- **One bucket changes.** The others keep their row, what they hold and their sequences. -/
theorem LedgerInv.change (h : LedgerInv d) (own : String) (hids : (d'.reservations.map (·.reservationId)).Nodup)
    (hother : ∀ other, other ≠ own → d'.buckets other = d.buckets other ∧ d'.heldAmount other = d.heldAmount other ∧
      (d'.bucketRows other).map (·.allocationSequence) = (d.bucketRows other).map (·.allocationSequence))
    (hown : d'.buckets own = some bucket) (hallocated : bucket.allocatedCapacity = d'.heldAmount own)
    (hbounded : bucket.allocatedCapacity ≤ bucket.totalCapacity)
    (hsequences : (d'.bucketRows own).map (·.allocationSequence) = range' 1 bucket.allocationSequence) :
    LedgerInv d' := by
  have hcases : ∀ other found, d'.buckets other = some found →
      other = own ∧ found = bucket ∨ other ≠ own ∧ d.buckets other = some found := by
    intro other found hfound
    by_cases hb : other = own
    · subst hb
      exact .inl ⟨rfl, Option.some_inj.mp (hfound.symm.trans hown)⟩
    · exact .inr ⟨hb, (hother other hb).1 ▸ hfound⟩
  refine ⟨hids, ?_, ?_, ?_, ?_⟩
  · intro other hnone
    have hb : other ≠ own := by
      rintro rfl
      cases hnone.symm.trans hown
    obtain ⟨hbucket, -, hsame⟩ := hother other hb
    rw [h.unused other (hbucket ▸ hnone)] at hsame
    exact map_eq_nil_iff.mp hsame
  · intro other found hfound
    rcases hcases other found hfound with ⟨rfl, rfl⟩ | ⟨hb, hold⟩
    · exact hallocated
    · rw [(hother other hb).2.1]
      exact h.allocated other found hold
  · intro other found hfound
    rcases hcases other found hfound with ⟨rfl, rfl⟩ | ⟨hb, hold⟩
    · exact hbounded
    · exact h.bounded other found hold
  · intro other found hfound
    rcases hcases other found hfound with ⟨rfl, rfl⟩ | ⟨hb, hold⟩
    · exact hsequences
    · rw [(hother other hb).2.2]
      exact h.sequences other found hold

variable {request : HardReservationRequest}

/-- **Reserving.** The bucket grows by the amount, and the new row takes the next sequence. -/
theorem LedgerInv.reserve (h : LedgerInv d)
    (ready : ReserveReady request bucket rows d) (fresh : d.reservation request.reservationId = none)
    (hbuckets : d'.buckets = update d.buckets request.bucketId (some (bucket.reserve request.amount)))
    (hrows : d'.reservations = d.reservations ++ [reservationRow request]) : LedgerInv d' := by
  have hheld : ∀ bucketId, d'.heldAmount bucketId =
      d.heldAmount bucketId + (reservationRow request).weight bucketId := by
    intro bucketId
    simp [heldAmount_eq, hrows]
  have hbucketRows : ∀ bucketId, d'.bucketRows bucketId =
      d.bucketRows bucketId ++ [reservationRow request].filter (·.bucketId = bucketId) := by
    intro bucketId
    rw [bucketRows, hrows, filter_append]
    rfl
  refine h.change request.bucketId ?_ ?_ (by rw [hbuckets, update_self]) ?_ ready.fits ?_
  · rw [hrows]
    exact nodup_keys_concat h.ids (reservation_fresh fresh)
  · intro other hb
    have hb' : ¬ request.bucketId = other := fun heq => hb heq.symm
    rw [hbuckets, update_of_ne hb, hheld, hbucketRows]
    simp [weight, reservationRow, hb']
  · rw [hheld, ← h.allocated _ _ ready.bucket_eq]
    simp [Bucket.reserve, weight, reservationRow, holding]
  · rw [hbucketRows, map_append, h.sequences _ _ ready.bucket_eq, Bucket.reserve, range'_concat]
    simp [reservationRow, ready.sequence, Nat.add_comm]

/-- What settling an active reservation does to what a bucket holds. -/
theorem heldAmount_settle (h : LedgerInv d) (hmem : existing ∈ d.reservations)
    (hrows : d'.reservations = d.reservations.map (settleRow existing.reservationId state cause)) (bucketId : String) :
    d'.heldAmount bucketId + existing.weight bucketId =
      d.heldAmount bucketId + (settleRow existing.reservationId state cause existing).weight bucketId := by
  rw [heldAmount_eq, heldAmount_eq, hrows]
  exact sum_settle h.ids hmem state cause (·.weight bucketId)

/-- **Settling.** The rows keep their ids, buckets and sequences; the bucket gives back what the row held and no longer
    holds. -/
theorem LedgerInv.settle (h : LedgerInv d) {left : Bucket}
    (hmem : existing ∈ d.reservations)
    (hrows : d'.reservations = d.reservations.map (settleRow existing.reservationId state cause))
    (hbucket : d.buckets existing.bucketId = some bucket)
    (hbuckets : d'.buckets = update d.buckets existing.bucketId (some left))
    (hsequence : left.allocationSequence = bucket.allocationSequence)
    (hbounded : left.allocatedCapacity ≤ left.totalCapacity)
    (hleft : left.allocatedCapacity + existing.weight existing.bucketId = bucket.allocatedCapacity +
      (settleRow existing.reservationId state cause existing).weight existing.bucketId) : LedgerInv d' := by
  have hsum := heldAmount_settle h hmem hrows
  have hsequences : ∀ bucketId, (d'.bucketRows bucketId).map (·.allocationSequence) =
      (d.bucketRows bucketId).map (·.allocationSequence) := by
    intro bucketId
    rw [bucketRows, hrows, bucketRows_settle, map_map]
    exact map_congr_left fun row _ => (settleRow_bucket _ _ _ row).2
  refine h.change existing.bucketId ?_ ?_ (by rw [hbuckets, update_self]) ?_ hbounded ?_
  · have hids : (d.reservations.map (settleRow existing.reservationId state cause)).map (·.reservationId) =
        d.reservations.map (·.reservationId) := by
      rw [map_map]
      exact map_congr_left fun row _ => settleRow_id _ _ _ row
    rw [hrows, hids]
    exact h.ids
  · intro other hb
    have hb' : ¬ existing.bucketId = other := fun heq => hb heq.symm
    have hheld := hsum other
    simp only [weight, settleRow_bucket, hb'] at hheld
    exact ⟨by rw [hbuckets, update_of_ne hb], hheld, hsequences other⟩
  · have hheld := hsum existing.bucketId
    rw [← h.allocated _ _ hbucket] at hheld
    omega
  · rw [hsequences, hsequence]
    exact h.sequences _ _ hbucket

theorem LedgerInv.release (h : LedgerInv d) (found : d.reservation existing.reservationId = some existing)
    (active : existing.state = .active) (bucket_eq : d.buckets existing.bucketId = some bucket)
    (hbuckets : d'.buckets = update d.buckets existing.bucketId (some (bucket.release existing.amount)))
    (hrows : d'.reservations = d.reservations.map (settleRow existing.reservationId .released cause)) :
    LedgerInv d' := by
  have hmem := mem_of_find?_eq_some found
  have hbounded := h.bounded _ _ bucket_eq
  have hheld := heldAmount_settle h hmem hrows existing.bucketId
  rw [← h.allocated _ _ bucket_eq] at hheld
  refine h.settle hmem hrows bucket_eq hbuckets rfl ?_ ?_
  · simp only [Bucket.release]
    omega
  · simp [settleRow, weight, holding, active, Bucket.release] at hheld ⊢
    omega

theorem LedgerInv.unresolved (h : LedgerInv d) (found : d.reservation existing.reservationId = some existing)
    (active : existing.state = .active) (hbuckets : d'.buckets = d.buckets)
    (hrows : d'.reservations = d.reservations.map (settleRow existing.reservationId .unresolved cause)) :
    LedgerInv d' := by
  have hmem := mem_of_find?_eq_some found
  cases hbucket : d.buckets existing.bucketId with
  | none =>
    have hrow : existing ∈ d.bucketRows existing.bucketId := mem_filter.mpr ⟨hmem, by simp⟩
    rw [h.unused _ hbucket] at hrow
    cases hrow
  | some bucket =>
    refine h.settle hmem hrows hbucket ?_ rfl (h.bounded _ _ hbucket) ?_
    · rw [hbuckets, ← hbucket, update_eq_self]
    · simp [settleRow, weight, holding, active]

theorem LedgerInv.configure (h : LedgerInv d) {bucketId assetId : String} {totalCapacity : Nat}
    (upsert : upsertBucket assetId totalCapacity (d.buckets bucketId) = some bucket)
    (hbuckets : d'.buckets = update d.buckets bucketId (some bucket))
    (hrows : d'.reservations = d.reservations) : LedgerInv d' := by
  have hheld : ∀ other, d'.heldAmount other = d.heldAmount other := by
    intro other
    rw [heldAmount_eq, heldAmount_eq, hrows]
  have hbucketRows : ∀ other, d'.bucketRows other = d.bucketRows other := by
    intro other
    rw [bucketRows, bucketRows, hrows]
  -- the upserted row: a new one for an unused bucket, or the old one with another total
  have hrow : bucket.allocatedCapacity = d.heldAmount bucketId ∧ bucket.allocatedCapacity ≤ bucket.totalCapacity ∧
      (d.bucketRows bucketId).map (·.allocationSequence) = range' 1 bucket.allocationSequence := by
    unfold upsertBucket at upsert
    split at upsert
    · rename_i hnone
      cases upsert
      have hempty := h.unused bucketId hnone
      refine ⟨?_, Nat.zero_le _, by rw [hempty]; rfl⟩
      rw [heldAmount, hempty]
      rfl
    · rename_i old hold
      split at upsert
      · rename_i hguard
        cases upsert
        exact ⟨h.allocated bucketId old hold, hguard.1, h.sequences bucketId old hold⟩
      · cases upsert
  refine h.change bucketId (hrows ▸ h.ids) ?_ (by rw [hbuckets, update_self]) ?_ hrow.2.1 ?_
  · intro other hb
    exact ⟨by rw [hbuckets, update_of_ne hb], hheld other, by rw [hbucketRows]⟩
  · exact hrow.1.trans (hheld bucketId).symm
  · rw [hbucketRows]
    exact hrow.2.2

end Ledger

/-! ## The holdings -/

section Holdings
variable {d d' : ProviderDb} {reservationId cause : String} {state : ReservationState}

variable {outpoint : OutPoint} {observation : UtxoObservation}

/-- A held outpoint stays held when its reservation still counts and no effect changes its request. -/
theorem HoldsOutpoint.carry (h : HoldsOutpoint d outpoint reservationId)
    (hreservation : ∀ row, d.reservation reservationId = some row → row.holding = true →
      ∃ row', d'.reservation reservationId = some row' ∧ row'.holding = true ∧ row'.effectId = row.effectId)
    (heffects : ∀ effectId effect, d.effects effectId = some effect →
      ∃ effect', d'.effects effectId = some effect' ∧ effect'.publicRequest = effect.publicRequest) :
    HoldsOutpoint d' outpoint reservationId := by
  obtain ⟨row, hrow, hholding, effect, heffect, hnames⟩ := h
  obtain ⟨row', hrow', hholding', hid⟩ := hreservation row hrow hholding
  obtain ⟨effect', heffect', hrequest⟩ := heffects row.effectId effect heffect
  refine ⟨row', hrow', hholding', effect', by rw [hid]; exact heffect', ?_⟩
  simpa [namesOutpoint, hrequest] using hnames

theorem HoldingInv.mem_reservedFor_iff (h : HoldingInv d) :
    outpoint ∈ d.reservedFor reservationId ↔ ∃ row, d.utxo outpoint = some row ∧
      row.reservationId = some reservationId ∧ row.state = .reserved := by
  rw [mem_reservedFor]
  constructor
  · rintro ⟨row, hmem, rfl, hid, hstate⟩
    exact ⟨row, find?_of_mem h.outpoints hmem, hid, hstate⟩
  · rintro ⟨row, hrow, hid, hstate⟩
    exact ⟨row, mem_of_find?_eq_some hrow, utxo_outpoint hrow, hid, hstate⟩

theorem outpointJson_inj : Function.Injective outpointJson := by
  intro left right h
  simp only [outpointJson] at h
  cases left
  cases right
  simp_all

theorem namesOutpoint_iff {row : EffectRow}
    (hrequest : row.publicRequest = reservePublicRequest request (sortOutpoints request.utxos)) :
    namesOutpoint row outpoint = true ↔ outpoint ∈ sortOutpoints request.utxos := by
  have hutxos : (row.publicRequest.get "utxos").bind Value.asArray =
      some ((sortOutpoints request.utxos).map outpointJson) := by
    rw [hrequest]
    rfl
  unfold namesOutpoint
  rw [hutxos, Option.any_some, contains_iff_mem, mem_map_of_injective outpointJson_inj]

/-- The effect of a reservation asks for it, whether it is new or was there. -/
theorem reserveRequest_eq {existing : Option EffectRow}
    (same : ∀ row, existing = some row →
      effectRequestMatches row (reserveEffect request (sortOutpoints request.utxos)) = true) :
    (existing.getD (reserveEffect request (sortOutpoints request.utxos))).publicRequest =
      reservePublicRequest request (sortOutpoints request.utxos) := by
  cases existing with
  | none => rfl
  | some row =>
    have hmatches := same row rfl
    simp only [effectRequestMatches, Bool.and_eq_true, decide_eq_true_eq] at hmatches
    exact hmatches.2

/-- **Reserving** gives the selected coins and the Ark unit to the new reservation. -/
theorem HoldingInv.reserve (h : HoldingInv d) {env : StoreEnv} {bucket : Bucket} {existing : Option EffectRow}
    (ready : ReserveReady request bucket rows d) (nodup : (rows.map (·.outpoint)).Nodup)
    (fresh : d.reservation request.reservationId = none)
    (effect : d.effects request.effectId = existing)
    (same : ∀ row, existing = some row →
      effectRequestMatches row (reserveEffect request (sortOutpoints request.utxos)) = true) :
    HoldingInv (overlay (reserveLog env request bucket rows existing) d) := by
  rw [overlay_reserveLog]
  -- old reservations are still found, the new one is found under its id
  have hreservation : ∀ reservationId row, d.reservation reservationId = some row →
      (d.reservations ++ [reservationRow request]).find? (·.reservationId = reservationId) = some row := by
    intro reservationId row hrow
    rw [find?_append]
    unfold reservation at hrow
    rw [hrow]
    rfl
  have hnew : (d.reservations ++ [reservationRow request]).find? (·.reservationId = request.reservationId) =
      some (reservationRow request) := by
    rw [find?_append]
    unfold reservation at fresh
    rw [fresh]
    simp [reservationRow]
  have harkRows : ∀ {row : ArkUnitRow}, row ∈ d.arkUnits ++ (request.arkReserve.map (arkUnitRow request)).toList ↔
      row ∈ d.arkUnits ∨ ∃ unit, request.arkReserve = some unit ∧ arkUnitRow request unit = row := by
    intro row
    rw [mem_append, Option.mem_toList, Option.map_eq_some_iff]
  refine ⟨?_, ?_, ?_, ?_, ?_⟩
  · exact (outpoints_updateRows d.utxos _).symm ▸ h.outpoints
  · intro outpoint row hrow hstate
    rcases (find_updateRows (by intro; rfl) nodup fun source hsource => (ready.coins source hsource).1).mp hrow with
      ⟨source, hsource, rfl, rfl⟩ | ⟨-, hrow'⟩
    · -- a selected coin
      refine ⟨request.reservationId, rfl, reservationRow request, hnew, rfl, _, update_self _ _ _, ?_⟩
      exact (namesOutpoint_iff (reserveRequest_eq same)).mpr (ready.outpoints ▸ mem_map_of_mem hsource)
    · -- any other coin is as it was
      obtain ⟨reservationId, hid, hholds⟩ := h.reserved outpoint row hrow' hstate
      refine ⟨reservationId, hid, hholds.carry ?_ ?_⟩
      · intro held hheld hholding
        exact ⟨held, hreservation reservationId held hheld, hholding, rfl⟩
      · intro effectId old hold
        by_cases heq : effectId = request.effectId
        · subst heq
          refine ⟨_, update_self _ _ _, ?_⟩
          rw [effect] at hold
          rw [hold]
          rfl
        · exact ⟨old, by rw [← hold]; exact update_of_ne heq _ _, rfl⟩
  · cases hark : request.arkReserve with
    | none => simpa using h.arkIds
    | some unit =>
      refine nodup_keys_concat h.arkIds fun row hmem hid => ?_
      obtain ⟨held, hheld, -⟩ := h.arkState row hmem
      rw [hid] at hheld
      cases fresh.symm.trans hheld
  · intro row hmem
    rcases harkRows.mp hmem with hmem | ⟨unit, -, rfl⟩
    · obtain ⟨held, hheld, hstate⟩ := h.arkState row hmem
      exact ⟨held, hreservation _ _ hheld, hstate⟩
    · exact ⟨reservationRow request, hnew, rfl⟩
  · -- the unit was free, so the new row blocks it alone
    have hfree : ∀ row ∈ d.arkUnits, row.blocking = true → ∀ unit, request.arkReserve = some unit →
        row.reserveUnit ≠ unit.canonicalId := by
      intro row hmem hblocking unit hunit heq
      have := find?_eq_none.mp (ready.ark unit hunit) row hmem
      simp [heq, hblocking] at this
    intro row hmem other hother hblocking hblocking' hunit
    rcases harkRows.mp hmem with hmem | ⟨unit, hark, rfl⟩ <;>
      rcases harkRows.mp hother with hother | ⟨unit', hark', rfl⟩
    · exact h.arkUnique row hmem other hother hblocking hblocking' hunit
    · exact absurd hunit (hfree row hmem hblocking unit' hark')
    · exact absurd hunit.symm (hfree other hother hblocking' unit hark)
    · rw [hark, Option.some_inj] at hark'
      rw [hark']

/-- The reservation found after settling. -/
theorem reservation_settled (hrows : d'.reservations = d.reservations.map (settleRow reservationId state cause))
    (other : String) : d'.reservation other = (d.reservation other).map (settleRow reservationId state cause) := by
  unfold reservation
  rw [hrows]
  exact find?_map_key (fun row => settleRow_id _ _ _ row) other d.reservations

theorem settleArkRow_keys (reservationId cause : String) (state : ReservationState) (row : ArkUnitRow) :
    (settleArkRow reservationId state cause row).reservationId = row.reservationId ∧
      (settleArkRow reservationId state cause row).reserveUnit = row.reserveUnit := by
  unfold settleArkRow
  split <;> exact ⟨rfl, rfl⟩

/-- **Settling** an active reservation, with its Ark unit. `hcoins` says that the coins still reserved belong to
    reservations that still count. -/
theorem HoldingInv.settle (h : HoldingInv d) {existing : ReservationRecord}
    (found : d.reservation existing.reservationId = some existing) (active : existing.state = .active)
    (hrows : d'.reservations = d.reservations.map (settleRow existing.reservationId state cause))
    (hark : d'.arkUnits = d.arkUnits.map (settleArkRow existing.reservationId state cause))
    (heffects : d'.effects = d.effects) (houtpoints : d'.utxos.map (·.outpoint) = d.utxos.map (·.outpoint))
    (hcoins : ∀ outpoint row, d'.utxo outpoint = some row → row.state = .reserved → d.utxo outpoint = some row ∧
      (row.reservationId = some existing.reservationId → state = .unresolved)) : HoldingInv d' := by
  have hactiveRow : ∀ row ∈ d.arkUnits, row.reservationId = existing.reservationId → row.state = .active := by
    intro row hmem hid
    obtain ⟨held, hheld, hstate⟩ := h.arkState row hmem
    rw [hid, found, Option.some_inj] at hheld
    rw [← hstate, ← hheld, active]
  refine ⟨by rw [houtpoints]; exact h.outpoints, ?_, ?_, ?_, ?_⟩
  · intro outpoint row hrow hstate
    obtain ⟨hold, howner⟩ := hcoins outpoint row hrow hstate
    obtain ⟨reservationId, hid, hholds⟩ := h.reserved outpoint row hold hstate
    refine ⟨reservationId, hid, hholds.carry ?_ ?_⟩
    · intro held hheld hholding
      refine ⟨settleRow existing.reservationId state cause held, ?_, ?_, ?_⟩
      · rw [reservation_settled hrows, hheld]
        rfl
      · by_cases hsame : held.reservationId = existing.reservationId
        · -- the coin's own reservation becomes unresolved, which still counts
          have hreservationId : reservationId = existing.reservationId := by
            rw [← reservation_id hheld, hsame]
          have hunresolved := howner (by rw [hid, hreservationId])
          simp [settleRow, hsame, holding, hunresolved]
        · rw [settleRow_other hsame]
          exact hholding
      · unfold settleRow
        split <;> rfl
    · intro effectId effect heffect
      exact ⟨effect, by rw [heffects]; exact heffect, rfl⟩
  · have hids : (d.arkUnits.map (settleArkRow existing.reservationId state cause)).map (·.reservationId) =
        d.arkUnits.map (·.reservationId) := by
      rw [map_map]
      exact map_congr_left fun row _ => (settleArkRow_keys _ _ _ row).1
    rw [hark, hids]
    exact h.arkIds
  · intro row hmem
    rw [hark] at hmem
    obtain ⟨source, hsource, rfl⟩ := mem_map.mp hmem
    obtain ⟨held, hheld, hstate⟩ := h.arkState source hsource
    refine ⟨settleRow existing.reservationId state cause held, ?_, ?_⟩
    · rw [(settleArkRow_keys _ _ _ source).1, reservation_settled hrows, hheld]
      rfl
    · have hheldId := reservation_id hheld
      by_cases hsame : source.reservationId = existing.reservationId
      · simp [settleRow, settleArkRow, hheldId, hsame]
      · simp [settleRow, settleArkRow, hheldId, hsame, hstate]
  · intro row hmem other hother hblocking hblocking' hunit
    rw [hark] at hmem hother
    obtain ⟨source, hsource, rfl⟩ := mem_map.mp hmem
    obtain ⟨source', hsource', rfl⟩ := mem_map.mp hother
    -- a row that blocks after settling blocked before
    have hbefore : ∀ row ∈ d.arkUnits, (settleArkRow existing.reservationId state cause row).blocking = true →
        row.blocking = true := by
      intro row hrow hafter
      by_cases hsame : row.reservationId = existing.reservationId
      · simp [ArkUnitRow.blocking, hactiveRow row hrow hsame]
      · simpa [settleArkRow, hsame] using hafter
    rw [(settleArkRow_keys _ _ _ source).2, (settleArkRow_keys _ _ _ source').2] at hunit
    rw [h.arkUnique source hsource source' hsource' (hbefore _ hsource hblocking) (hbefore _ hsource' hblocking') hunit]

theorem HoldingInv.release (h : HoldingInv d) {existing : ReservationRecord} {bucket : Bucket}
    {now : Nat} (found : d.reservation existing.reservationId = some existing) (active : existing.state = .active)
    (nodup : (rows.map (·.outpoint)).Nodup) (coins : ∀ row ∈ rows, d.utxo row.outpoint = some row)
    (all : ∀ outpoint, outpoint ∈ d.reservedFor existing.reservationId ↔ outpoint ∈ rows.map (·.outpoint)) :
    HoldingInv (overlay (releaseLog d existing bucket rows cause now) d) := by
  rw [overlay_releaseLog]
  refine h.settle found active rfl rfl rfl (outpoints_updateRows _ _) fun outpoint row hrow hstate => ?_
  rcases (find_updateRows (by intro; rfl) nodup coins).mp hrow with ⟨source, hsource, rfl, rfl⟩ | ⟨hmem, hrow'⟩
  · -- a released coin is available
    cases hstate
  · refine ⟨hrow', fun hid => absurd ?_ hmem⟩
    exact (all outpoint).mp (h.mem_reservedFor_iff.mpr ⟨row, hrow', hid, hstate⟩)

variable {state : UtxoState}

/-- An observation that passes its checks reports one of the five states. -/
theorem observedState_of_checked (h : checkObservation observation = .ok state) :
    observedState observation.state = some state := by
  unfold checkObservation validateUtxo at h
  simp only [bind_eq_ok] at h
  obtain ⟨checked, ⟨_, -, _, -, h⟩, _, -, _, -, _, -, _, -, hchecked⟩ := h
  obtain rfl : checked = state := Except.ok.inj hchecked
  cases hstate : observedState observation.state with
  | none =>
    rw [hstate] at h
    cases h
  | some found =>
    rw [hstate] at h
    simp only [bind_eq_ok] at h
    obtain ⟨_, -, _, -, _, -, h⟩ := h
    exact congrArg some (Except.ok.inj h)

/-- The states of an observation are not the reserved one. -/
theorem observedState_ne_reserved {text : String} (h : observedState text = some state) :
    state ≠ .reserved := by
  rintro rfl
  unfold observedState at h
  split at h <;> cases h

theorem UtxoRow.observe_outpoint (state : UtxoState) (h : d.utxo observation.outpoint = some row) :
    (row.observe observation state).outpoint = observation.outpoint := by
  show row.outpoint = observation.outpoint
  exact utxo_outpoint h

theorem reserved_of_observe (hstate : state ≠ .reserved)
    (h : (row.observe observation state).state = .reserved) : row.state = .reserved := by
  simp only [UtxoRow.observe, mergedState] at h
  split at h
  · exact h
  · exact absurd h hstate

/-- A coin after an observation: as it was, new, or the one observed with what was seen. -/
theorem utxo_upsert {w : ProviderWrite}
    (upsert : upsertUtxo observation state (d.utxo observation.outpoint) = some w)
    (hrow : (d.write w).utxo outpoint = some row) :
    d.utxo outpoint = some row ∨ (row.state = state ∧ row.reservationId = none) ∨
      ∃ old, d.utxo outpoint = some old ∧ observation.outpoint = outpoint ∧ row = old.observe observation state ∧
        old.assetId = observation.assetId ∧ old.amount = observation.amount ∧
        old.scriptPubkey = observation.scriptPubkey := by
  obtain ⟨-, new, rfl, -, hstate, hid⟩ | ⟨old, hold, rfl, hfields⟩ := upsertUtxo_cases upsert
  · rw [utxo_insert] at hrow
    cases hfound : d.utxo outpoint with
    | some found =>
      rw [hfound] at hrow
      exact .inl hrow
    | none =>
      rw [hfound] at hrow
      split at hrow
      · exact .inr (.inl (Option.some_inj.mp hrow ▸ ⟨hstate, hid⟩))
      · cases hrow
  · rw [utxo_update] at hrow
    obtain ⟨before, hbefore, hafter⟩ := Option.map_eq_some_iff.mp hrow
    split at hafter
    · rename_i hkey
      have houtpoint : observation.outpoint = outpoint := by
        rw [← utxo_outpoint hbefore, hkey, UtxoRow.observe_outpoint state hold]
      exact .inr (.inr ⟨old, houtpoint ▸ hold, houtpoint, hafter.symm, hfields⟩)
    · exact .inl (hafter ▸ hbefore)

/-- **Observing** never reserves a coin and never changes the reservation of one. -/
theorem HoldingInv.observe (h : HoldingInv d) {w : ProviderWrite}
    (admitted : observedState observation.state = some state)
    (upsert : upsertUtxo observation state (d.utxo observation.outpoint) = some w) : HoldingInv (d.write w) := by
  have hnotReserved := observedState_ne_reserved admitted
  have houtpoints : ((d.write w).utxos.map (·.outpoint)).Nodup := by
    obtain ⟨hnone, new, rfl, hkey, -⟩ | ⟨old, -, rfl, -⟩ := upsertUtxo_cases upsert
    · refine nodup_keys_concat h.outpoints fun row hrow hsame => ?_
      have hfound : d.utxo row.outpoint = some row := find?_of_mem h.outpoints hrow
      rw [hsame, hkey, hnone] at hfound
      cases hfound
    · exact (outpoints_updateRows d.utxos [old.observe observation state]).symm ▸ h.outpoints
  have hreserved : ∀ outpoint row, (d.write w).utxo outpoint = some row → row.state = .reserved →
      ∃ reservationId, row.reservationId = some reservationId ∧ HoldsOutpoint d outpoint reservationId := by
    intro outpoint row hrow hstate
    rcases utxo_upsert upsert hrow with hold | ⟨hnew, -⟩ | ⟨old, hold, -, rfl, -⟩
    · exact h.reserved outpoint row hold hstate
    · exact absurd (hnew.symm.trans hstate) hnotReserved
    · exact h.reserved outpoint old hold (reserved_of_observe hnotReserved hstate)
  obtain ⟨-, new, rfl, -⟩ | ⟨old, -, rfl, -⟩ := upsertUtxo_cases upsert <;>
    exact ⟨houtpoints, hreserved, h.arkIds, h.arkState, h.arkUnique⟩

end Holdings

/-! ## Result -/

/-- **Every committed log keeps the invariant.** -/
theorem CallLog.inv {env : StoreEnv} {call : ProviderCall} {d : ProviderDb} {log : List ProviderWrite}
    (h : CallLog env call d log) (hd : ProviderInv d) : ProviderInv (overlay log d) := by
  cases h with
  | reserve ready nodup fresh effect same =>
    refine ⟨?_, hd.holding.reserve ready nodup fresh effect same⟩
    exact hd.ledger.reserve ready fresh (by rw [overlay_reserveLog]) (by rw [overlay_reserveLog])
  | release found active bucket_eq nodup coins all =>
    refine ⟨?_, hd.holding.release found active nodup coins all⟩
    exact hd.ledger.release found active bucket_eq (by rw [overlay_releaseLog]) (by rw [overlay_releaseLog])
  | unresolved found active =>
    rw [overlay_unresolvedLog]
    refine ⟨hd.ledger.unresolved found active rfl rfl, ?_⟩
    exact hd.holding.settle found active rfl rfl rfl rfl fun _ _ hrow _ => ⟨hrow, fun _ => rfl⟩
  | configure upsert =>
    have hholding := hd.holding
    exact ⟨hd.ledger.configure upsert rfl rfl,
      ⟨hholding.outpoints, hholding.reserved, hholding.arkIds, hholding.arkState, hholding.arkUnique⟩⟩
  | @observe observation state w d checked upsert =>
    refine ⟨?_, hd.holding.observe (observedState_of_checked checked) upsert⟩
    -- the coins are no part of the ledger
    have hledger := hd.ledger
    obtain ⟨-, _, rfl, -⟩ | ⟨_, -, rfl, -⟩ := upsertUtxo_cases upsert <;>
      exact ⟨hledger.ids, hledger.unused, hledger.allocated, hledger.bounded, hledger.sequences⟩

end Immortal.Provider
