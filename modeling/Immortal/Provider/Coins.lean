import Immortal.Provider.Runs

/-!
# `Immortal.Provider.Coins` — coins and Ark units along every run

A reserved coin belongs to one reservation that still counts and that names it, and no other such reservation names
it; an Ark unit is pledged to at most one reservation that still counts. Both hold in every run. That an available
coin carries no reservation holds only while no observation makes a coin available that a reservation has left
behind: `UPSERT_UTXO_SQL` changes the state of a row and never its reservation, so a coin that was reserved, then seen
spent and then seen available again keeps the reservation it had and no call can select it any more.
-/

namespace Immortal.Provider

open Txn Immortal.Client ProviderDb Option

/-! ## Names -/

/-- Every reservation has its effect, and a coin that a counting reservation names carries that reservation. -/
structure NamedInv (d : ProviderDb) : Prop where
  effects : ∀ row ∈ d.reservations, ∃ effect, d.effects row.effectId = some effect ∧
    effect.publicRequest.get "reservation_id" = some (.string row.reservationId)
  named : ∀ outpoint reservationId, HoldsOutpoint d outpoint reservationId →
    ∃ row, d.utxo outpoint = some row ∧ row.reservationId = some reservationId

section Named
variable {env : StoreEnv} {d d' : ProviderDb}

/-- A call that keeps the effects, adds no counting reservation and leaves the reservation of every named coin. -/
theorem NamedInv.carry (h : NamedInv d) (heffects : d'.effects = d.effects)
    (hrows : ∀ row' ∈ d'.reservations, ∃ row ∈ d.reservations, row'.effectId = row.effectId ∧
      row'.reservationId = row.reservationId)
    (hholding : ∀ reservationId row', d'.reservation reservationId = some row' → row'.holding = true →
      ∃ row, d.reservation reservationId = some row ∧ row.holding = true ∧ row.effectId = row'.effectId)
    (hcoins : ∀ outpoint reservationId row, HoldsOutpoint d' outpoint reservationId →
      d.utxo outpoint = some row → row.reservationId = some reservationId →
      ∃ row', d'.utxo outpoint = some row' ∧ row'.reservationId = some reservationId) : NamedInv d' := by
  refine ⟨?_, ?_⟩
  · intro row' hmem
    obtain ⟨row, hrow, heffectId, hid⟩ := hrows row' hmem
    rw [heffects, heffectId, hid]
    exact h.effects row hrow
  · intro outpoint reservationId hholds
    obtain ⟨row', hrow', hcounts', effect, heffect, hnames⟩ := id hholds
    obtain ⟨row, hrow, hcounts, heffectId⟩ := hholding reservationId row' hrow' hcounts'
    rw [heffects, ← heffectId] at heffect
    obtain ⟨coin, hcoin, hid⟩ := h.named outpoint reservationId ⟨row, hrow, hcounts, effect, heffect, hnames⟩
    exact hcoins outpoint reservationId coin hholds hcoin hid

variable {request : HardReservationRequest} {existing : Option EffectRow}

/-- The effect of a new reservation is not the effect of another one. -/
theorem NamedInv.effect_fresh (h : NamedInv d)
    (fresh : d.reservation request.reservationId = none) (effect : d.effects request.effectId = existing)
    (same : ∀ row, existing = some row →
      effectRequestMatches row (reserveEffect request (sortOutpoints request.utxos)) = true) :
    ∀ row ∈ d.reservations, row.effectId ≠ request.effectId := by
  intro row hmem heffectId
  obtain ⟨found, hfound, hid⟩ := h.effects row hmem
  rw [heffectId, effect] at hfound
  have hmatches := same found hfound
  simp only [effectRequestMatches, Bool.and_eq_true, decide_eq_true_eq] at hmatches
  -- an effect with this request belongs to the new reservation's id, which no row has
  rw [hmatches.2] at hid
  have hname : request.reservationId = row.reservationId := by
    have : (some (.string request.reservationId) : Option Value) = some (.string row.reservationId) := hid
    simpa using this
  have hnone := List.find?_eq_none.mp fresh row hmem
  simp [hname] at hnone

variable {rows : List UtxoRow} {bucket : Bucket}

/-- **Reserving** names the selected coins, which no other counting reservation names. -/
theorem NamedInv.reserve (h : NamedInv d)
    {applied : EffectRow} (ready : ReserveReady request bucket rows d) (nodup : (rows.map (·.outpoint)).Nodup)
    (fresh : d.reservation request.reservationId = none)
    (hother : ∀ row ∈ d.reservations, row.effectId ≠ request.effectId)
    (hpublic : applied.publicRequest = reservePublicRequest request (sortOutpoints request.utxos))
    (hrows : d'.reservations = d.reservations ++ [reservationRow request])
    (heffects : d'.effects = Function.update d.effects request.effectId (some applied))
    (hutxos : d'.utxos = updateRows d.utxos
      (rows.map fun row => row.reserve request.reservationId request.createdAt)) : NamedInv d' := by
  have hold : ∀ row ∈ d.reservations, d'.effects row.effectId = d.effects row.effectId := by
    intro row hmem
    rw [heffects, Function.update_of_ne (hother row hmem)]
  have hnew : d'.effects request.effectId = some applied := by
    rw [heffects, Function.update_self]
  have hcoins := fun source hsource => (ready.coins source hsource).1
  refine ⟨?_, ?_⟩
  · intro row hmem
    rw [hrows] at hmem
    rcases List.mem_append.mp hmem with hmem | hmem
    · rw [hold row hmem]
      exact h.effects row hmem
    · rw [List.mem_singleton.mp hmem]
      refine ⟨applied, hnew, ?_⟩
      rw [hpublic]
      rfl
  · rintro outpoint reservationId ⟨row, hrow, hcounts, found, hfound, hnames⟩
    unfold utxo
    rw [hutxos]
    by_cases hid : reservationId = request.reservationId
    · -- the new reservation: its coins are the selected ones
      have hrowEq : row = reservationRow request := by
        unfold reservation at hrow fresh
        rw [hrows, List.find?_append, hid, fresh, none_or] at hrow
        exact List.mem_singleton.mp (List.mem_of_find?_eq_some hrow)
      have heffect : found = applied := by
        rw [hrowEq] at hfound
        exact some_inj.mp (hfound.symm.trans hnew)
      have hmem := (namesOutpoint_iff (heffect ▸ hpublic)).mp hnames
      rw [← ready.outpoints] at hmem
      obtain ⟨selected, hselected, rfl⟩ := List.mem_map.mp hmem
      exact ⟨_, (find_updateRows (by intro; rfl) nodup hcoins).mpr (.inl ⟨selected, hselected, rfl, rfl⟩), by rw [hid]; rfl⟩
    · -- an older reservation: its coin is not among the selected ones, which have no reservation
      have hrowOld : d.reservation reservationId = some row := by
        have hne : ¬ (reservationRow request).reservationId = reservationId := fun heq => hid heq.symm
        unfold reservation at hrow ⊢
        rw [hrows, List.find?_append, List.find?_cons_of_neg (by simpa using hne), List.find?_nil, or_none] at hrow
        exact hrow
      rw [hold row (List.mem_of_find?_eq_some hrowOld)] at hfound
      obtain ⟨coin, hcoin, hcoinId⟩ := h.named outpoint reservationId ⟨row, hrowOld, hcounts, found, hfound, hnames⟩
      have hunselected : outpoint ∉ rows.map (·.outpoint) := by
        intro hselected
        obtain ⟨selected, hmemSelected, rfl⟩ := List.mem_map.mp hselected
        obtain ⟨hat, hselectable⟩ := ready.coins selected hmemSelected
        rw [hat, some_inj] at hcoin
        rw [selectable, hcoin, hcoinId] at hselectable
        simp at hselectable
      exact ⟨coin, (find_updateRows (by intro; rfl) nodup hcoins).mpr (.inr ⟨hunselected, hcoin⟩), hcoinId⟩

/-- **Settling** a reservation keeps the names: those of the others are the same, and `hcoins` is about theirs. -/
theorem NamedInv.settle (h : NamedInv d) {reservationId cause : String} {state : ReservationState}
    (hactive : ∀ row, d.reservation reservationId = some row → row.state = .active)
    (hrows : d'.reservations = d.reservations.map (settleRow reservationId state cause)) (heffects : d'.effects = d.effects)
    (hcoins : ∀ outpoint other row, HoldsOutpoint d' outpoint other → d.utxo outpoint = some row →
      row.reservationId = some other → ∃ row', d'.utxo outpoint = some row' ∧ row'.reservationId = some other) :
    NamedInv d' := by
  have hkept : ∀ row, (settleRow reservationId state cause row).effectId = row.effectId := by
    intro row
    unfold settleRow
    split <;> rfl
  refine h.carry heffects ?_ ?_ hcoins
  · intro row' hmem
    rw [hrows] at hmem
    obtain ⟨row, hrow, rfl⟩ := List.mem_map.mp hmem
    exact ⟨row, hrow, hkept row, settleRow_id _ _ _ row⟩
  · intro other row' hrow' hcounts
    rw [reservation_settled hrows] at hrow'
    obtain ⟨row, hrow, rfl⟩ := map_eq_some_iff.mp hrow'
    refine ⟨row, hrow, ?_, (hkept row).symm⟩
    by_cases hid : row.reservationId = reservationId
    · -- the settled row was active
      have hother : other = reservationId := (reservation_id hrow).symm.trans hid
      rw [hother] at hrow
      simp [ReservationRecord.holding, hactive row hrow]
    · rw [settleRow_other hid] at hcounts
      exact hcounts

variable {existing : ReservationRecord}

/-- A released coin was reserved for the reservation that ends, so no other one names it. -/
theorem NamedInv.release (h : NamedInv d) (hd : HoldingInv d) {cause : String} {now : Nat}
    (found : d.reservation existing.reservationId = some existing) (active : existing.state = .active)
    (all : ∀ outpoint, outpoint ∈ d.reservedFor existing.reservationId ↔ outpoint ∈ rows.map (·.outpoint)) :
    NamedInv (overlay (releaseLog d existing bucket rows cause now) d) := by
  have hreservations : (overlay (releaseLog d existing bucket rows cause now) d).reservations =
      d.reservations.map (settleRow existing.reservationId .released cause) := by
    rw [overlay_releaseLog]
  refine h.settle (fun row hrow => ?_) hreservations (by rw [overlay_releaseLog]) ?_
  · rw [found, some_inj] at hrow
    exact hrow ▸ active
  · intro outpoint other row hholds hrow hid
    have hother : other ≠ existing.reservationId := by
      rintro rfl
      obtain ⟨settled, hsettled, hcounts, -⟩ := hholds
      rw [reservation_settled hreservations, found, map_some, some_inj] at hsettled
      rw [← hsettled, settleRow] at hcounts
      simp [ReservationRecord.holding] at hcounts
    have hkept : outpoint ∉ (rows.map fun row => row.release now).map (·.outpoint) := by
      rw [List.map_map]
      intro hmem
      obtain ⟨reserved, hreserved, hreservedId, -⟩ := hd.mem_reservedFor_iff.mp ((all outpoint).mpr hmem)
      rw [hrow, some_inj] at hreserved
      rw [← hreserved, hid, some_inj] at hreservedId
      exact hother hreservedId
    refine ⟨row, ?_, hid⟩
    rw [overlay_releaseLog]
    exact (find_updateRows_other hkept).trans hrow

variable {observation : UtxoObservation} {w : ProviderWrite} {state : UtxoState}

/-- An observation changes no reservation of a coin that is there. -/
theorem upsert_reservationId
    (upsert : upsertUtxo observation state (d.utxo observation.outpoint) = some w) {outpoint : OutPoint} {row : UtxoRow}
    (hrow : d.utxo outpoint = some row) :
    ∃ row', (d.write w).utxo outpoint = some row' ∧ row'.reservationId = row.reservationId := by
  obtain ⟨-, _, rfl, -⟩ | ⟨old, hold, rfl, -⟩ := upsertUtxo_cases upsert
  · refine ⟨row, ?_, rfl⟩
    rw [utxo_insert, hrow, some_or]
  · rw [utxo_update, hrow, map_some]
    refine ⟨_, rfl, ?_⟩
    split
    · rename_i hsame
      have hkey := UtxoRow.observe_outpoint state hold
      rw [← utxo_outpoint hrow, hsame, hkey, hold, some_inj] at hrow
      rw [← hrow]
      rfl
    · rfl

theorem upsert_tables {existing : Option UtxoRow} (upsert : upsertUtxo observation state existing = some w) :
    (d.write w).reservations = d.reservations ∧ (d.write w).effects = d.effects := by
  obtain ⟨-, _, rfl, -⟩ | ⟨_, -, rfl, -⟩ := upsertUtxo_cases upsert <;> exact ⟨rfl, rfl⟩

variable {call : ProviderCall}

/-- **Every committed log keeps the names.** -/
theorem CallLog.named {log : List ProviderWrite} (h : CallLog env call d log)
    (hd : HoldingInv d) (hnamed : NamedInv d) : NamedInv (overlay log d) := by
  cases h with
  | @reserve request bucket rows existing d ready nodup fresh effect same =>
    rw [overlay_reserveLog]
    refine hnamed.reserve ready nodup fresh (hnamed.effect_fresh fresh effect same) ?_ rfl rfl rfl
    exact reserveRequest_eq same
  | release found active bucket_eq nodup coins all => exact hnamed.release hd found active all
  | unresolved found active =>
    rw [overlay_unresolvedLog]
    refine hnamed.settle (fun row hrow => ?_) rfl rfl fun _ _ row _ hrow hid => ⟨row, hrow, hid⟩
    rw [found, some_inj] at hrow
    exact hrow ▸ active
  | configure upsert => exact ⟨hnamed.effects, hnamed.named⟩
  | @observe observation state w d checked upsert =>
    obtain ⟨hrows, heffects⟩ := upsert_tables (d := d) upsert
    rw [overlay_singleton]
    refine hnamed.carry heffects (fun row hmem => ⟨row, hrows ▸ hmem, rfl, rfl⟩) ?_ ?_
    · intro reservationId row hrow hcounts
      refine ⟨row, ?_, hcounts, rfl⟩
      unfold reservation at hrow ⊢
      rw [hrows] at hrow
      exact hrow
    · intro outpoint reservationId row _ hrow hid
      obtain ⟨row', hrow', hid'⟩ := upsert_reservationId upsert hrow
      exact ⟨row', hrow', hid'.trans hid⟩

theorem NamedInv.empty : NamedInv empty := by
  refine ⟨?_, ?_⟩
  · simp [ProviderDb.empty]
  · rintro outpoint reservationId ⟨row, hrow, -⟩
    cases hrow

end Named

/-! ## Available coins -/

/-- A coin that is available carries no reservation. -/
def AvailableFree (d : ProviderDb) : Prop :=
  ∀ outpoint row, d.utxo outpoint = some row → row.state = .available → row.reservationId = none

/-- The observation makes a coin available that still carries a reservation: it passes the checks, it reports the coin
    available, and the row it finds has the same immutable fields, is not reserved and has a reservation. -/
def Strands (observation : UtxoObservation) (d : ProviderDb) : Prop :=
  checkObservation observation = .ok .available ∧ ∃ row, d.utxo observation.outpoint = some row ∧
    row.assetId = observation.assetId ∧ row.amount = observation.amount ∧
    row.scriptPubkey = observation.scriptPubkey ∧ row.state ≠ .reserved ∧ row.reservationId ≠ none

section Available
variable {env : StoreEnv} {d : ProviderDb}

theorem AvailableFree.reserve (h : AvailableFree d) (ready : ReserveReady request bucket rows d)
    (nodup : (rows.map (·.outpoint)).Nodup) :
    AvailableFree (overlay (reserveLog env request bucket rows existing) d) := by
  intro outpoint row hrow hstate
  rw [overlay_reserveLog] at hrow
  rcases (find_updateRows (by intro; rfl) nodup fun source hsource => (ready.coins source hsource).1).mp hrow with
    ⟨selected, hselected, rfl, rfl⟩ | ⟨-, hrow'⟩
  · -- a selected coin is reserved afterwards
    cases hstate
  · exact h outpoint row hrow' hstate

theorem AvailableFree.release (h : AvailableFree d) {cause : String} {now : Nat} (nodup : (rows.map (·.outpoint)).Nodup)
    (coins : ∀ row ∈ rows, d.utxo row.outpoint = some row) :
    AvailableFree (overlay (releaseLog d existing bucket rows cause now) d) := by
  intro outpoint row hrow hstate
  rw [overlay_releaseLog] at hrow
  rcases (find_updateRows (by intro; rfl) nodup coins).mp hrow with ⟨selected, hselected, rfl, rfl⟩ | ⟨-, hrow'⟩
  · rfl
  · exact h outpoint row hrow' hstate

theorem mergedState_available {current observed : UtxoState} :
    mergedState current observed = .available ↔ observed = .available ∧ current ≠ .reserved := by
  cases current <;> cases observed <;> decide

theorem AvailableFree.observe (h : AvailableFree d) (checked : checkObservation observation = .ok state)
    (upsert : upsertUtxo observation state (d.utxo observation.outpoint) = some w) (hstrands : ¬ Strands observation d) :
    AvailableFree (d.write w) := by
  intro outpoint row hrow hstate
  rcases utxo_upsert upsert hrow with hold | ⟨-, hid⟩ | ⟨old, hold, rfl, rfl, hasset, hamount, hscript⟩
  · exact h outpoint row hold hstate
  · exact hid
  · -- the observed coin becomes available only when it is seen so and was not reserved
    obtain ⟨hobserved, hnot⟩ := mergedState_available.mp hstate
    by_contra hid
    exact hstrands ⟨hobserved ▸ checked, old, hold, hasset, hamount, hscript, hnot, hid⟩

/-- **A committed log keeps available coins free**, unless it is the log of an observation that strands one. -/
theorem CallLog.availableFree {log : List ProviderWrite} (h : CallLog env call d log)
    (hfree : AvailableFree d) (hstrands : ∀ observation, call = .observeUtxo observation → ¬ Strands observation d) :
    AvailableFree (overlay log d) := by
  cases h with
  | reserve ready nodup fresh effect same => exact hfree.reserve ready nodup
  | release found active bucket_eq nodup coins all => exact hfree.release nodup coins
  | unresolved found active =>
    rw [overlay_unresolvedLog]
    exact hfree
  | configure upsert => exact hfree
  | observe checked upsert => exact hfree.observe checked upsert (hstrands _ rfl)

/-- The row an observation that strands a coin leaves behind. -/
theorem Strands.not_availableFree (h : Strands observation d)
    (upsert : upsertUtxo observation .available (d.utxo observation.outpoint) = some w) :
    ¬ AvailableFree (d.write w) := by
  obtain ⟨-, row, hrow, hasset, hamount, hscript, hstate, hid⟩ := h
  intro hfree
  have hwrite : w = .updateUtxo (row.observe observation .available) := by
    simp only [upsertUtxo, hrow, hasset, hamount, hscript, and_self, if_true, some_inj] at upsert
    exact upsert.symm
  have hupdated : (d.write w).utxo observation.outpoint = some (row.observe observation .available) := by
    have hkey : row.outpoint = (row.observe observation .available).outpoint := rfl
    rw [hwrite, utxo_update, hrow, map_some, if_pos hkey]
  have hnone := hfree _ _ hupdated (mergedState_available.mpr ⟨rfl, hstate⟩)
  exact hid hnone

end Available

/-! ## Result -/

/-- A counting reservation that an Ark unit is pledged to. -/
def HoldsUnit (d : ProviderDb) (reserveUnit reservationId : String) : Prop :=
  ∃ row ∈ d.arkUnits, row.reserveUnit = reserveUnit ∧ row.reservationId = reservationId ∧
    ∃ held, d.reservation reservationId = some held ∧ held.holding = true

/-- Coins and Ark units are held by one reservation each, and what is available can be selected. -/
structure CoinsHeld (d : ProviderDb) : Prop where
  reserved : ∀ outpoint row, d.utxo outpoint = some row → row.state = .reserved →
    ∃ reservationId, row.reservationId = some reservationId ∧
      ∀ other, HoldsOutpoint d outpoint other ↔ other = reservationId
  ark : ∀ reserveUnit left right, HoldsUnit d reserveUnit left → HoldsUnit d reserveUnit right → left = right
  available : AvailableFree d
  selectable : ∀ assetId scriptPubkeys minimumConfirmations limit,
    ∀ row ∈ d.availableUtxos assetId scriptPubkeys minimumConfirmations limit,
      d.utxo row.outpoint = some row ∧ selectable assetId row = true

section Result
variable {env : StoreEnv} {d : ProviderDb}

theorem HoldsUnit.unique (hd : HoldingInv d) {reserveUnit left right : String} (hleft : HoldsUnit d reserveUnit left)
    (hright : HoldsUnit d reserveUnit right) : left = right := by
  -- an Ark row is in the state of its reservation
  have hblocking : ∀ {row : ArkUnitRow} {held : ReservationRecord}, row ∈ d.arkUnits →
      d.reservation row.reservationId = some held → held.holding = true → row.blocking = true := by
    intro row held hmem hheld hcounts
    obtain ⟨found, hfound, hstate⟩ := hd.arkState row hmem
    rw [hheld, some_inj] at hfound
    unfold ArkUnitRow.blocking
    rw [← hstate, ← hfound]
    exact hcounts
  obtain ⟨row, hmem, hunit, rfl, held, hheld, hcounts⟩ := hleft
  obtain ⟨other, hmemOther, hunitOther, rfl, heldOther, hheldOther, hcountsOther⟩ := hright
  have hsame := hd.arkUnique row hmem other hmemOther (hblocking hmem hheld hcounts)
    (hblocking hmemOther hheldOther hcountsOther) (hunit.trans hunitOther.symm)
  rw [hsame]

theorem coinsHeld_iff (hd : ProviderInv d) (hnamed : NamedInv d) : CoinsHeld d ↔ AvailableFree d := by
  refine ⟨fun h => h.available, fun hfree => ⟨?_, ?_, hfree, ?_⟩⟩
  · intro outpoint row hrow hstate
    obtain ⟨reservationId, hid, hholds⟩ := hd.holding.reserved outpoint row hrow hstate
    refine ⟨reservationId, hid, fun other => ⟨fun hother => ?_, fun heq => heq ▸ hholds⟩⟩
    obtain ⟨found, hfound, hfoundId⟩ := hnamed.named outpoint other hother
    rw [hrow, some_inj] at hfound
    rw [← hfound, hid, some_inj] at hfoundId
    exact hfoundId.symm
  · intro reserveUnit left right hleft hright
    exact hleft.unique hd.holding hright
  · intro assetId scriptPubkeys minimumConfirmations limit row hmem
    have hsorted := List.mem_of_mem_take hmem
    have hfilter := (List.perm_insertionSort availableOrder _).mem_iff.mp hsorted
    obtain ⟨hrow, hconditions⟩ := List.mem_filter.mp hfilter
    simp only [Bool.and_eq_true, decide_eq_true_eq] at hconditions
    have hat := find?_of_mem hd.holding.outpoints hrow
    refine ⟨hat, ?_⟩
    simp [selectable, hconditions.1.1.1, hconditions.1.1.2, hfree row.outpoint row hat hconditions.1.1.2]

variable {result : Except ProviderStoreError (Stored ProviderAnswer)}

theorem FinishedPost.availableFree {before after : ProviderDb}
    (h : FinishedPost env call result before after)
    (hstrands : ∀ observation, call = .observeUtxo observation → ¬ Strands observation before)
    (hfree : AvailableFree before) : AvailableFree after := by
  rcases h.1 with ⟨-, log, hlog, rfl⟩ | ⟨-, rfl⟩
  · exact hlog.availableFree hfree hstrands
  · exact hfree

/-- An observation that strands a coin is applied: nothing refuses it. -/
theorem FinishedPost.strands {before after : ProviderDb}
    (h : FinishedPost env (.observeUtxo observation) result before after) (hstrands : Strands observation before) :
    ¬ AvailableFree after := by
  obtain ⟨hpost, hrefused⟩ := h.2 observation rfl
  rcases hpost with ⟨-, log, hlog, rfl⟩ | ⟨hnot, -⟩
  · cases hlog with
    | @observe _ state w _ checked upsert =>
      rw [hstrands.1, Except.ok.injEq] at checked
      subst checked
      exact hstrands.not_availableFree upsert
  · have hnone := hrefused hnot .available hstrands.1
    obtain ⟨-, row, hrow, hasset, hamount, hscript, -⟩ := hstrands
    simp [upsertUtxo, hrow, hasset, hamount, hscript] at hnone

/-- **Coins along every run.** Every committed state of a run of interleaved calls holds its coins and Ark units as
    `CoinsHeld` says if and only if no observation of the run makes a coin available that still carries a
    reservation. -/
theorem coins_held_iff {s : ProviderSystem} (h : ProviderReachable env s) :
    (∀ finished ∈ s.history, CoinsHeld finished.after) ↔
      ∀ finished ∈ s.history, ∀ observation, finished.call = .observeUtxo observation →
        ¬ Strands observation finished.before := by
  obtain ⟨hchained, hfinished⟩ := finished_calls h
  have hnamed := hchained.invariant (P := fun d => ProviderInv d ∧ NamedInv d)
    ⟨ProviderInv.empty, NamedInv.empty⟩ fun finished hmem hbefore => by
      refine ⟨(hfinished finished hmem).2.2, ?_⟩
      rcases (hfinished finished hmem).1.1 with ⟨-, log, hlog, hafter⟩ | ⟨-, hsame⟩
      · rw [hafter]
        exact hlog.named hbefore.1.holding hbefore.2
      · rw [hsame]
        exact hbefore.2
  have hiff : ∀ finished ∈ s.history, CoinsHeld finished.after ↔ AvailableFree finished.after := by
    intro finished hmem
    obtain ⟨hinv, hnames⟩ := (hnamed.1 finished hmem).2
    exact coinsHeld_iff hinv hnames
  constructor
  · intro hheld finished hmem observation hcall hstrands
    have hpost := (hfinished finished hmem).1
    rw [hcall] at hpost
    exact hpost.strands hstrands ((hiff finished hmem).mp (hheld finished hmem))
  · intro hstrands finished hmem
    have hempty : AvailableFree ProviderDb.empty := fun _ _ hrow => by cases hrow
    have hfree := hchained.invariant hempty fun finished hmem =>
      (hfinished finished hmem).1.availableFree (hstrands finished hmem)
    exact (hiff finished hmem).mpr (hfree.1 finished hmem).2

end Result

theorem coins_held_oneReserved : ∃ s : ProviderSystem, ProviderReachable oneReserveEnv s ∧
    s.db.reservedFor oneReserve.reservationId = [oneCoin.outpoint] ∧
    ∀ finished ∈ s.history, CoinsHeld finished.after := by
  obtain ⟨s, hs, hdb, hhistory⟩ := runAlone_reachable oneReserveCalls
    (show ProviderReachable oneReserveEnv (System.idle ProviderDb.empty) from .idle) fun _ => rfl
  refine ⟨s, hs, ?_, (coins_held_iff hs).mpr ?_⟩
  · rw [hdb]
    decide +kernel
  · rw [hhistory]
    intro finished hmem observation hcall hstrands
    -- the only observation of the run finds no row
    simp only [System.idle, List.nil_append, oneReserveCalls, aloneHistory, List.mem_cons, List.not_mem_nil,
      or_false] at hmem
    rcases hmem with rfl | rfl | rfl
    · obtain ⟨-, row, hrow, -⟩ := hstrands
      cases hrow
    · cases hcall
    · cases hcall

/-- The coin is reserved, seen spent, seen available again, and its reservation is released. -/
def strandingCalls : List ProviderCall :=
  oneReserveCalls ++ [.observeUtxo { oneCoin with state := "spent", observedAt := 110 },
    .observeUtxo { oneCoin with observedAt := 120 }, .releaseReservation oneReserve.reservationId "expired" 210]

/-- **A stranded coin.** `available_utxos` returns the coin, no reservation counts any more, and `reserve` cannot
    select it. -/
theorem stranded_coin : ∃ s : ProviderSystem, ProviderReachable oneReserveEnv s ∧
    (∃ row ∈ s.db.availableUtxos "swp:1:btc" ["51"] 1 10, selectable "swp:1:btc" row = false) ∧
    (s.db.reservations.map (·.state)) = [.released] ∧ ¬ CoinsHeld s.db := by
  obtain ⟨s, hs, hdb, -⟩ := runAlone_reachable strandingCalls
    (show ProviderReachable oneReserveEnv (System.idle ProviderDb.empty) from .idle) fun _ => rfl
  have hstranded : ∃ row ∈ s.db.availableUtxos "swp:1:btc" ["51"] 1 10, selectable "swp:1:btc" row = false := by
    rw [hdb]
    decide +kernel
  refine ⟨s, hs, hstranded, ?_, fun hheld => ?_⟩
  · rw [hdb]
    decide +kernel
  · obtain ⟨row, hmem, hnot⟩ := hstranded
    have hselectable := (hheld.selectable _ _ _ _ row hmem).2
    rw [hnot] at hselectable
    cases hselectable

end Immortal.Provider
