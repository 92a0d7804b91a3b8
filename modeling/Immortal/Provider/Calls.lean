import Immortal.Provider.Ledger

/-!
# `Immortal.Provider.Calls` — the ledger over every interleaving of calls

Each call of the store is followed through its statements with arbitrary calls of others between them. Whatever
it has checked is guarded by a lock it keeps, so at its commit the log it has written is the log of `CallLog` for
the database it commits to; every other way out has written nothing. `calls_verified` collects the five calls,
and `ledger_over_runs` is what follows for the capacity ledger along every run.
-/

namespace Immortal.Provider

open Txn Immortal.Client ProviderDb Prog List
open Prog (query exec execUnless acquire acquireAll ofExcept lockRow)

/-- The discipline of the provider's locks. -/
abbrev providerDiscipline (env : StoreEnv) : Discipline ProviderDb LockKey := (providerGuard env).discipline ProviderInv

/-- What is to hold when a program returns a value: of the value, the locks held, the log written and the database. -/
abbrev Post (α : Type) := α → List LockKey → List ProviderWrite → ProviderDb → Prop

/-- What other calls may have done to the database while these locks are held. -/
abbrev Later (env : StoreEnv) (held : List LockKey) (d d' : ProviderDb) : Prop := (providerDiscipline env).Later held d d'

/-- A program of a call, followed from some locks, log and database: it commits or fails as the call may, or returns. -/
abbrev Follows (env : StoreEnv) (call : ProviderCall) {α : Type} (program : ProviderTxn α) (Q : Post α)
    (held : List LockKey) (log : List ProviderWrite) (d : ProviderDb) : Prop :=
  program.wp (providerDiscipline env) (CallPost env call) Q held log d

section Calls
variable {α : Type} {env : StoreEnv} {call : ProviderCall} {held : List LockKey} {log : List ProviderWrite}
variable {d : ProviderDb} {Q : Post α}

/-! ## Ways out -/

theorem wp_refused {r : Stored ProviderAnswer} (hr : Applied (.ok r) = false) (hd : ProviderInv d) :
    Follows env call (Prog.commit r : ProviderTxn α) Q held [] d := by
  intro d' hl
  exact ⟨.inr ⟨hr, rfl⟩, hl.inv hd, fun k _ => (providerGuard env).refl k d'⟩

theorem wp_fail (e : ProviderStoreError) :
    Follows env call (fail e : ProviderTxn α) Q held log d :=
  fun _ _ => .inr ⟨rfl, rfl⟩

theorem wp_ofExcept {x : Stored α} (h : ∀ a, x = .ok a → Q a held log d) :
    Follows env call (ofExcept x : ProviderTxn α) Q held log d := by
  cases x with
  | error e => exact wp_fail e
  | ok a => exact h a rfl

/-- A call that has written nothing may end with any answer that says so. -/
theorem quiet (env : StoreEnv) (call : ProviderCall) :
    Quiet (providerDiscipline env) (CallPost env call) (fun r => Applied (.ok r) = false) where
  result _ d _ _ hr := ⟨.inr ⟨hr, rfl⟩, fun k _ => (providerGuard env).refl k d⟩
  error _ _ _ := .inr ⟨rfl, rfl⟩

/-- The commit of a log. -/
theorem wp_applied {a : ProviderAnswer} (ha : Applied (.ok (.ok a)) = true) (hd : ProviderInv d)
    (h : ∀ d', Later env held d d' →
      CallLog env call d' log ∧ AllowedLog env held d' log) :
    Follows env call (answer a : ProviderTxn Empty) NoValue held log d := by
  intro d' hl
  obtain ⟨hlog, hallowed⟩ := h d' hl
  exact ⟨.inl ⟨ha, log, hlog, rfl⟩, hlog.inv (hl.inv hd), fun k hk => allowedLog_keeps hallowed hk⟩

theorem allowedLog_append {log' : List ProviderWrite} :
    AllowedLog env held d (log ++ log') ↔ AllowedLog env held d log ∧ AllowedLog env held (overlay log d) log' := by
  induction log generalizing d with
  | nil => simp [AllowedLog]
  | cons w log ih => simp [AllowedLog, ih, overlay_cons, and_assoc, Database.write]

/-- A log of writes that are allowed in every database. -/
theorem allowedLog_of_forall (h : ∀ w ∈ log, ∀ d, Allowed env held d w) : AllowedLog env held d log := by
  induction log generalizing d with
  | nil => trivial
  | cons w log ih =>
    exact ⟨h w mem_cons_self d, ih fun other hmem => h other (.tail _ hmem)⟩

section Kept
variable {d' : ProviderDb} (hl : Later env held d d')
include hl

theorem kept_utxo {outpoint : OutPoint} (hk : .utxo outpoint ∈ held) : d'.utxo outpoint = d.utxo outpoint :=
  Eq.symm (Guard.later_keeps hl hk)

theorem kept_bucket {bucketId : String} (hk : .bucket bucketId ∈ held) : d'.buckets bucketId = d.buckets bucketId :=
  Eq.symm (Guard.later_keeps hl hk)

theorem kept_effect {effectId : String} (hk : .effect effectId ∈ held) : d'.effects effectId = d.effects effectId :=
  Eq.symm (Guard.later_keeps hl hk)

variable {reservationId : String}

theorem kept_reservation (hk : .reservation reservationId ∈ held) :
    d'.reservation reservationId = d.reservation reservationId :=
  (Guard.later_keeps hl hk).1.symm

theorem kept_arkUnit (hk : .reservation reservationId ∈ held) :
    d'.arkUnit reservationId = d.arkUnit reservationId :=
  (Guard.later_keeps hl hk).2.1.symm

end Kept

/-! ## `reserve` -/

section Reserve
variable {request : HardReservationRequest}

theorem replayReservation_quietly {outpoints : List OutPoint} {existing : ReservationRecord} :
    (replayReservation env request outpoints existing).Quietly (fun r => Applied (.ok r) = false) := by
  have hanother : (boundToAnother : ProviderTxn Empty).Quietly (fun r => Applied (.ok r) = false) := rfl
  refine (quietly_lockRow _ _).bind fun effect => ?_
  split
  · exact hanother
  · refine (quietly_lockRow _ _).bind fun arkRow => ?_
    split
    · exact hanother
    · split
      · exact hanother
      · refine (quietly_ofExcept _).bind fun exact => ?_
        split
        · rfl
        · exact hanother

variable {Q : Post Unit}

theorem wp_checkArkReserve (hd : ProviderInv d)
    (h : ∀ d', Later env held d d' →
      (∀ unit, request.arkReserve = some unit → d'.blockingArkUnit unit.canonicalId = none) → Q () held [] d') :
    Follows env call (checkArkReserve request) Q held [] d := by
  unfold checkArkReserve
  cases hark : request.arkReserve with
  | none => exact h d .refl (by simp [hark])
  | some unit =>
    simp only [wp_bind]
    refine wp_query fun d' hl => ?_
    cases hblocking : d'.blockingArkUnit unit.canonicalId with
    | some row => exact wp_refused rfl (hl.inv hd)
    | none =>
      refine h d' hl fun other hother => ?_
      rw [hark, Option.some_inj] at hother
      rw [← hother]
      exact hblocking

theorem wp_checkBucket (hd : ProviderInv d)
    (h : ∀ d' bucket, Later env held d d' → d'.buckets request.bucketId = some bucket →
      request.expectedAllocationSequence = bucket.allocationSequence + 1 →
      bucket.allocatedCapacity + request.amount ≤ bucket.totalCapacity →
      Q () (.bucket request.bucketId :: held) [] d') :
    Follows env call (checkBucket request) Q held [] d := by
  unfold checkBucket
  rw [Follows, wp_bind]
  refine wp_lockRow (fun d' _ _ => wp_fail _) fun d' hl => ?_
  rw [overlay_nil]
  cases hbucket : d'.buckets request.bucketId with
  | none => exact wp_fail _
  | some bucket =>
    have hinv := hl.inv hd
    dsimp only
    split
    · exact wp_fail _
    split
    · exact wp_fail _
    split
    · exact wp_fail _
    split
    · exact wp_refused rfl hinv
    split
    · exact wp_fail _
    split
    · exact wp_refused rfl hinv
    · rename_i hsequence _ hfits
      exact h d' bucket hl hbucket (not_not.mp hsequence) (by omega)

/-- The coins the loop has locked. -/
structure LockedCoins (assetId : String) (held : List LockKey) (d : ProviderDb) (rows : List UtxoRow) : Prop where
  key : ∀ row ∈ rows, .utxo row.outpoint ∈ held
  coin : ∀ row ∈ rows, d.utxo row.outpoint = some row ∧ selectable assetId row = true

variable {bucket : Bucket} {rows : List UtxoRow} {d' : ProviderDb} {assetId : String}

theorem LockedCoins.later (h : LockedCoins assetId held d rows) (hl : Later env held d d') :
    LockedCoins assetId held d' rows where
  key := h.key
  coin row hmem := by
    rw [kept_utxo hl (h.key row hmem)]
    exact h.coin row hmem

theorem wp_lockUtxos {Q : Post Nat} (outpoints : List OutPoint) (selected : Nat) (hd : ProviderInv d)
    (h : ∀ d' held' rows total, Later env held d d' → (∀ k ∈ held, k ∈ held') →
      rows.map (·.outpoint) = outpoints → LockedCoins assetId held' d' rows → Q total held' [] d') :
    Follows env call (lockUtxos assetId outpoints selected) Q held [] d := by
  induction outpoints generalizing held selected d with
  | nil => exact h d held [] selected .refl (fun _ hk => hk) rfl ⟨by simp, by simp⟩
  | cons outpoint rest ih =>
    unfold lockUtxos
    split
    · exact wp_fail _
    rw [Follows, wp_bind]
    refine wp_lockRow (fun d' hl _ => wp_refused rfl (hl.inv hd)) fun d' hl => ?_
    rw [overlay_nil]
    cases hrow : d'.utxo outpoint with
    | none => exact wp_refused rfl (hl.inv hd)
    | some row =>
      dsimp only
      split
      · rename_i hselectable
        split
        · exact wp_fail _
        · refine ih (selected + row.amount) (hl.inv hd) fun d'' held' rows total hl' hsub hrows hcoins => ?_
          have hlater : Later env held d' d'' :=
            hl'.mono fun k hk => .tail _ hk
          have hkey : LockKey.utxo outpoint ∈ LockKey.utxo outpoint :: held := mem_cons_self
          have houtpoint := utxo_outpoint hrow
          refine h d'' held' (row :: rows) total (hl.trans hlater)
            (fun k hk => hsub k (.tail _ hk)) (by rw [map_cons, hrows, houtpoint]) ⟨?_, ?_⟩
          · intro other hother
            rcases mem_cons.mp hother with rfl | hother
            · rw [houtpoint]
              exact hsub _ hkey
            · exact hcoins.key other hother
          · intro other hother
            rcases mem_cons.mp hother with rfl | hother
            · rw [houtpoint, kept_utxo hl' hkey]
              exact ⟨hrow, hselectable⟩
            · exact hcoins.coin other hother
      · exact wp_refused rfl (hl.inv hd)

theorem wp_insertReserveEffect
    (h : ∀ d' existing, Later env held d d' → d'.effects request.effectId = existing →
      (∀ row, existing = some row →
        effectRequestMatches row (reserveEffect request (sortOutpoints request.utxos)) = true) →
      Q () (.effect request.effectId :: held) (reserveEffectLog request existing) d') :
    Follows env call (insertReserveEffect env request (sortOutpoints request.utxos)) Q
      held [] d := by
  unfold insertReserveEffect
  simp only [wp_bind]
  refine wp_ofExcept fun _ _ => wp_ofExcept fun _ _ => ?_
  refine wp_acquire fun d₁ hl₁ => ?_
  refine wp_exec fun d₂ hl₂ => ?_
  rw [overlay_nil]
  have hlater : Later env held d d₂ :=
    hl₁.trans (hl₂.mono fun k hk => .tail _ hk)
  cases hexisting : d₂.effects request.effectId with
  | none => exact h d₂ none hlater hexisting (by simp)
  | some row =>
    dsimp only
    split
    · rename_i hmatches
      refine h d₂ (some row) hlater hexisting ?_
      rintro _ ⟨⟩
      exact hmatches
    · exact wp_fail _

theorem wp_reserveUtxos {now : Nat}
    (hcoins : LockedCoins assetId held d rows) (hnodup : (rows.map (·.outpoint)).Nodup)
    (hlog : ∀ row ∈ rows, ∀ d' : ProviderDb, (overlay log d').utxo row.outpoint = d'.utxo row.outpoint)
    (h : ∀ d', Later env held d d' →
      Q () held (log ++ rows.map fun row => .updateUtxo (row.reserve reservationId now)) d') :
    (reserveUtxos reservationId now (rows.map (·.outpoint))).wp (providerDiscipline env) (CallPost env call) Q held
      log d := by
  induction rows generalizing log d with
  | nil =>
    have := h d .refl
    rw [map_nil, append_nil] at this
    exact this
  | cons row rest ih =>
    obtain ⟨hrow, hrest⟩ := nodup_cons.mp hnodup
    rw [map_cons, reserveUtxos, wp_bind]
    refine wp_exec fun d' hl => ?_
    obtain ⟨hfound, hselectable⟩ := (hcoins.later hl).coin row mem_cons_self
    simp only [selectable, Bool.and_eq_true, decide_eq_true_eq, Option.isNone_iff_eq_none] at hselectable
    rw [hlog row mem_cons_self, hfound]
    simp only [Option.any_some, hselectable, if_true, and_self]
    have hcoins' := hcoins.later hl
    refine ih ⟨fun other hmem => hcoins'.key other (.tail _ hmem),
      fun other hmem => hcoins'.coin other (.tail _ hmem)⟩ hrest ?_ ?_
    · intro other hmem d''
      -- the coins still to come have other outpoints
      have hne : other.outpoint ≠ row.outpoint := fun heq => hrow (mem_map.mpr ⟨other, hmem, heq⟩)
      rw [overlay_append, overlay_singleton, utxo_update, hlog other (.tail _ hmem)]
      cases hother : d''.utxo other.outpoint with
      | none => rfl
      | some found => simp [utxo_outpoint hother, hne]
    · intro d'' hl'
      have := h d'' (hl.trans hl')
      simpa [UtxoRow.reserve, hselectable] using this

theorem wp_completeReserveEffect (row : EffectRow)
    (heffect : ∀ d', Later env held d d' →
      (overlay log d').effects request.effectId = some row)
    (h : ∀ d', Later env held d d' →
      Q () held (log ++ [.putEffect request.effectId (appliedEffect env request row)]) d') :
    Follows env call (completeReserveEffect env request) Q held log d := by
  unfold completeReserveEffect
  simp only [wp_bind]
  refine wp_ofExcept fun _ _ => wp_ofExcept fun bytes hbytes => ?_
  refine wp_exec fun d' hl => ?_
  have hvec : bytes = env.toVec (reservePublicResult request request.expectedAllocationSequence) := by
    unfold boundedJson at hbytes
    split at hbytes
    · exact (Except.ok.inj hbytes).symm
    · cases hbytes
  simp only [heffect d' hl, hvec]
  exact h d' hl

/-- The reservation key is free. -/
theorem reservation_none_of_taken {row : ReservationRecord} (h : reservationTaken row d = false) :
    d.reservation row.reservationId = none := by
  refine find?_eq_none.mpr fun other hmem => ?_
  have hother := any_eq_false.mp h other hmem
  simp only [Bool.or_eq_true, not_or] at hother
  simpa using hother.1.1

/-- The writes of a reservation touch only what its locks guard. -/
theorem allowed_reserveLog {existing : Option EffectRow} (hbucket : .bucket request.bucketId ∈ held)
    (hreservation : .reservation request.reservationId ∈ held) (heffect : .effect request.effectId ∈ held)
    (hcoins : ∀ row ∈ rows, .utxo row.outpoint ∈ held)
    (hark : ∀ unit, request.arkReserve = some unit → arkLock env unit.canonicalId ∈ held) :
    AllowedLog env held d (reserveLog env request bucket rows existing) := by
  refine allowedLog_of_forall fun w hw d => ?_
  simp only [reserveLog, reserveWrites, mem_append, mem_singleton] at hw
  rcases hw with ((((hw | rfl) | rfl) | hw) | hw) | rfl
  · unfold reserveEffectLog at hw
    split at hw
    · cases hw
    · rw [mem_singleton.mp hw]
      exact heffect
  · exact hbucket
  · exact hreservation
  · simp only [reserveArkLog, Option.mem_toList, Option.map_eq_some_iff] at hw
    obtain ⟨unit, hunit, rfl⟩ := hw
    exact ⟨hreservation, hark unit hunit⟩
  · obtain ⟨row, hmem, rfl⟩ := mem_map.mp hw
    refine ⟨hcoins row hmem, fun _ reservationId hid => .inl ?_⟩
    rw [show reservationId = request.reservationId from (Option.some_inj.mp hid).symm]
    exact hreservation
  · exact heffect

theorem wp_insertArkReserve
    (h : ∀ d', Later env held d d' → Q () held (log ++ reserveArkLog request) d') :
    Follows env call (insertArkReserve request) Q held log d := by
  unfold insertArkReserve
  cases hark : request.arkReserve with
  | none =>
    have hnone : reserveArkLog request = [] := by simp [reserveArkLog, hark]
    rw [hnone] at h
    have := h d .refl
    rw [append_nil] at this
    exact this
  | some unit =>
    have hsome : reserveArkLog request = [.insertArkUnit (arkUnitRow request unit)] := by simp [reserveArkLog, hark]
    rw [hsome] at h
    exact h

/-- The tables a reservation has not touched yet before its coins. -/
theorem overlay_reserveEffectLog (request : HardReservationRequest) (existing : Option EffectRow) (d : ProviderDb) :
    (overlay (reserveEffectLog request existing) d).buckets = d.buckets ∧
      (overlay (reserveEffectLog request existing) d).reservations = d.reservations ∧
      (overlay (reserveEffectLog request existing) d).utxos = d.utxos := by
  cases existing with
  | none => exact ⟨rfl, rfl, rfl⟩
  | some row => exact ⟨rfl, rfl, rfl⟩

theorem overlay_reserveArkLog (d : ProviderDb) : (overlay (reserveArkLog request) d).utxos = d.utxos := by
  cases hark : request.arkReserve with
  | none => simp [reserveArkLog, hark]
  | some unit => simp [reserveArkLog, hark, overlay_singleton, write]

theorem blockingArkUnit_eq (env : StoreEnv) (d : ProviderDb) (reserveUnit : String) :
    d.blockingArkUnit reserveUnit =
      (d.arkCovered env (env.hashtextextended ("provider-ark-reserve:" ++ reserveUnit))).find? fun row =>
        row.reserveUnit = reserveUnit && row.blocking := by
  unfold blockingArkUnit arkCovered
  rw [find?_filter]
  congr 1
  funext row
  by_cases hunit : row.reserveUnit = reserveUnit
  · simp [hunit]
  · simp [hunit]

/-- The advisory lock of an Ark unit covers every row of that unit. -/
theorem blockingArkUnit_later (hl : Later env held d d') {reserveUnit : String} (hk : arkLock env reserveUnit ∈ held) :
    d.blockingArkUnit reserveUnit = d'.blockingArkUnit reserveUnit := by
  have hsame : d.arkCovered env _ = d'.arkCovered env _ := Guard.later_keeps hl hk
  rw [blockingArkUnit_eq env, blockingArkUnit_eq env, hsame]

/-- The locks `reserve` holds when it starts to write. -/
structure ReserveKeys (env : StoreEnv) (request : HardReservationRequest) (rows : List UtxoRow) (held : List LockKey) :
    Prop where
  bucket : .bucket request.bucketId ∈ held
  coins : ∀ row ∈ rows, .utxo row.outpoint ∈ held
  ark : ∀ unit, request.arkReserve = some unit → arkLock env unit.canonicalId ∈ held

/-- What `reserve` has checked stays true while it holds its locks. -/
theorem ReserveReady.later (h : ReserveReady request bucket rows d) (hkeys : ReserveKeys env request rows held)
    (hl : Later env held d d') : ReserveReady request bucket rows d' := by
  refine ⟨?_, h.sequence, h.fits, h.outpoints, ?_, ?_⟩
  · exact (kept_bucket hl hkeys.bucket).trans h.bucket_eq
  · exact (LockedCoins.later ⟨hkeys.coins, h.coins⟩ hl).coin
  · intro unit hunit
    rw [← blockingArkUnit_later hl (hkeys.ark unit hunit)]
    exact h.ark unit hunit

theorem databaseU64_ok {value stored : Nat} {label : String} (h : databaseU64 value label = .ok stored) :
    stored = value := by
  unfold databaseU64 at h
  split at h
  · exact (Except.ok.inj h).symm
  · cases h

theorem wp_updateBucketReserve (bucket : Bucket)
    (hbucket : ∀ d', Later env held d d' →
      (overlay log d').buckets request.bucketId = some bucket)
    (h : ∀ d', Later env held d d' →
      Q () held (log ++ [.putBucket request.bucketId (bucket.reserve request.amount)]) d') :
    Follows env call (updateBucketReserve request.bucketId request.amount) Q held log
      d := by
  refine wp_exec fun d' hl => ?_
  rw [hbucket d' hl]
  exact h d' hl

/-- The keys of the reservation row are taken before the row is inserted, and the insert finds its id unused. -/
theorem wp_insertReservation
    {row : ReservationRecord} (hlog : ∀ d' : ProviderDb, (overlay log d').reservations = d'.reservations)
    (h : ∀ d' held', Later env held d d' → (∀ k ∈ held, k ∈ held') →
      .reservation row.reservationId ∈ held' → d'.reservation row.reservationId = none →
      Q () held' (log ++ [.insertReservation row]) d') :
    Follows env call (insertReservation row) Q held log d := by
  unfold insertReservation
  rw [Follows, wp_bind]
  refine wp_acquireAll fun d₁ hl₁ => ?_
  refine wp_execUnless (fun d₂ _ => .inr ⟨rfl, rfl⟩) fun d₂ hl₂ htaken => ?_
  have hsub : ∀ k ∈ held, k ∈ [LockKey.reservation row.reservationId, .reservationEffect row.effectId,
      .reservationSession row.sessionId].reverse ++ held := fun k hk => mem_append_right _ hk
  refine h d₂ _ (hl₁.trans (hl₂.mono hsub)) hsub (by simp) ?_
  have hfree := reservation_none_of_taken htaken
  unfold reservation at hfree ⊢
  rw [hlog] at hfree
  exact hfree

theorem wp_writeReservation (hd : ProviderInv d) (hready : ReserveReady request bucket rows d)
    (hkeys : ReserveKeys env request rows held) (hnodup : (rows.map (·.outpoint)).Nodup) :
    Follows env (.reserve request) (writeReservation env request (sortOutpoints request.utxos)) NoValue held [] d := by
  unfold writeReservation
  simp only [wp_bind]
  refine wp_insertReserveEffect fun d₁ existing hl₁ heffect hmatches => ?_
  have hkeys₁ : ReserveKeys env request rows (.effect request.effectId :: held) :=
    ⟨.tail _ hkeys.bucket, fun row hmem => .tail _ (hkeys.coins row hmem),
      fun unit hunit => .tail _ (hkeys.ark unit hunit)⟩
  have hready₁ := hready.later hkeys hl₁
  have hinv₁ : ProviderInv d₁ := hl₁.inv hd
  refine wp_ofExcept fun now hnow => ?_
  obtain rfl := databaseU64_ok hnow
  refine wp_updateBucketReserve bucket (fun d' hl => ?_) fun d₂ hl₂ => ?_
  · rw [(overlay_reserveEffectLog request existing d').1]
    exact (hready₁.later hkeys₁ hl).bucket_eq
  refine wp_ofExcept fun _ _ => ?_
  refine wp_insertReservation (fun d' => ?_) fun d₃ held' hl₃ hsub hreservation hfresh => ?_
  · rw [overlay_append]
    exact (overlay_reserveEffectLog request existing d').2.1
  have hkeys' : ReserveKeys env request rows held' :=
    ⟨hsub _ hkeys₁.bucket, fun row hmem => hsub _ (hkeys₁.coins row hmem), fun unit hunit => hsub _ (hkeys₁.ark unit hunit)⟩
  have hready₃ := (hready₁.later hkeys₁ hl₂).later hkeys₁ hl₃
  have heffect₃ : d₃.effects request.effectId = existing :=
    (kept_effect (hl₂.trans hl₃) mem_cons_self).trans heffect
  refine wp_insertArkReserve fun d₄ hl₄ => ?_
  rw [← hready.outpoints]
  have hcoins₄ := (hready₃.later hkeys' hl₄).coins
  refine wp_reserveUtxos ⟨hkeys'.coins, hcoins₄⟩ hnodup (fun row _ d' => ?_) fun d₅ hl₅ => ?_
  · have hutxos := (overlay_reserveEffectLog request existing d').2.2
    unfold utxo
    rw [overlay_append, overlay_append, overlay_append, overlay_reserveArkLog]
    exact congrArg _ hutxos
  -- the effect is still as it was found, or as the first statement has inserted it
  have heffectAt : ∀ d', Later env held' d₃ d' → d'.effects request.effectId = existing := by
    intro d' hl
    exact (kept_effect hl (hsub _ mem_cons_self)).trans heffect₃
  refine wp_completeReserveEffect (existing.getD (reserveEffect request (sortOutpoints request.utxos)))
    (fun d' hl => ?_) fun d₆ hl₆ => ?_
  · have hat := heffectAt d' (hl₄.trans (hl₅.trans hl))
    show (overlay (reserveWrites request bucket rows existing) d').effects request.effectId = _
    rw [overlay_reserveWrites]
    cases existing with
    | none => simp
    | some row => simpa using hat
  have hinv₃ : ProviderInv d₃ := (hl₂.trans hl₃).inv hinv₁
  have hinv₆ : ProviderInv d₆ := (hl₄.trans (hl₅.trans hl₆)).inv hinv₃
  refine wp_applied rfl hinv₆ fun d₇ hl₇ => ⟨?_, ?_⟩
  · have hl : Later env held' d₃ d₇ := hl₄.trans (hl₅.trans (hl₆.trans hl₇))
    have hfresh₇ := (kept_reservation hl hreservation).trans hfresh
    exact .reserve (hready₃.later hkeys' hl) hnodup hfresh₇ (heffectAt d₇ hl) hmatches
  · exact allowed_reserveLog hkeys'.bucket hreservation (hsub _ mem_cons_self) hkeys'.coins hkeys'.ark

/-- A request that passes its checks does not repeat a coin. -/
theorem nodup_of_validated (h : validateReservationRequest request = .ok ()) : request.utxos.Nodup := by
  unfold validateReservationRequest at h
  simp only [bind_eq_ok] at h
  obtain ⟨_, -, _, -, _, -, _, -, _, -, _, -, _, -, _, hnodup, -⟩ := h
  unfold refuseUnless at hnodup
  split at hnodup
  · rename_i hdecided
    exact of_decide_eq_true hdecided
  · cases hnodup

theorem wp_reserveFresh (hd : ProviderInv d) (hvalid : validateReservationRequest request = .ok ())
    (hlocks : ∀ k ∈ reserveLocks env request, k ∈ held) :
    Follows env (.reserve request) (reserveFresh env request (sortOutpoints request.utxos)) NoValue held [] d := by
  have hlocked : ∀ unit, request.arkReserve = some unit → arkLock env unit.canonicalId ∈ held := by
    intro unit hunit
    exact hlocks _ (by simp [reserveLocks, hunit])
  unfold reserveFresh
  simp only [wp_bind]
  refine wp_checkArkReserve hd fun d₁ hl₁ hark => ?_
  refine wp_checkBucket (hl₁.inv hd) fun d₂ bucket hl₂ hbucket hsequence hfits => ?_
  have hinv₂ : ProviderInv d₂ := (hl₁.trans hl₂).inv hd
  refine wp_lockUtxos _ _ hinv₂ fun d₃ held' rows total hl₃ hsub hrows hcoins => ?_
  have hinv₃ : ProviderInv d₃ := hl₃.inv hinv₂
  split
  · exact wp_refused rfl hinv₃
  have hbucket₃ := (kept_bucket hl₃ mem_cons_self).trans hbucket
  have hark₃ : ∀ unit, request.arkReserve = some unit → d₃.blockingArkUnit unit.canonicalId = none := by
    intro unit hunit
    have hl : Later env held d₁ d₃ := hl₂.trans (hl₃.mono fun k hk => .tail _ hk)
    rw [← blockingArkUnit_later hl (hlocked unit hunit)]
    exact hark unit hunit
  have hnodup : (rows.map (·.outpoint)).Nodup := by
    rw [hrows]
    exact (perm_insertionSort outpointLe request.utxos).nodup_iff.mpr (nodup_of_validated hvalid)
  exact wp_writeReservation hinv₃ ⟨hbucket₃, hsequence, hfits, hrows, hcoins.coin, hark₃⟩
    ⟨hsub _ mem_cons_self, hcoins.key, fun unit hunit => hsub _ (.tail _ (hlocked unit hunit))⟩ hnodup

theorem wp_reserve (hd : ProviderInv d) :
    Follows env (.reserve request) (reserve env request) NoValue [] [] d := by
  unfold reserve
  simp only [wp_bind]
  refine wp_ofExcept fun _ hvalid => ?_
  refine wp_acquireAll fun d₁ hl₁ => ?_
  have hinv₁ : ProviderInv d₁ := hl₁.inv hd
  have hlocks : ∀ k ∈ reserveLocks env request, k ∈ (reserveLocks env request).reverse ++ [] := by
    intro k hk
    rw [append_nil]
    exact mem_reverse.mpr hk
  refine wp_lockRow (fun d₂ hl₂ _ => wp_reserveFresh (hl₂.inv hinv₁) hvalid hlocks) fun d₂ hl₂ => ?_
  rw [overlay_nil]
  cases hexisting : d₂.reservation request.reservationId with
  | none =>
    -- the row was there when it was read and is gone now
    exact wp_reserveFresh (hl₂.inv hinv₁) hvalid fun k hk => .tail _ (hlocks k hk)
  | some existing => exact wp_quietly (quiet env _) replayReservation_quietly (hl₂.inv hinv₁)

end Reserve

/-! ## `release_reservation` and `mark_reservation_unresolved` -/

section Settle
variable {reservationId cause : String} {existing : ReservationRecord}

theorem wp_lockedReservation {Q : Post (ReservationRecord × ReservationRecord)} (hd : ProviderInv d)
    (h : ∀ d' held' initial existing, ProviderInv d' → .reservation reservationId ∈ held' →
      d'.reservation reservationId = some existing → Q (initial, existing) held' [] d') :
    Follows env call (lockedReservation env reservationId) Q held [] d := by
  unfold lockedReservation
  rw [Follows, wp_bind]
  refine wp_query fun d₁ hl₁ => ?_
  cases d₁.reservation reservationId with
  | none => exact wp_fail _
  | some initial =>
    simp only [wp_bind]
    refine wp_acquire fun d₂ hl₂ => ?_
    refine wp_lockRow (fun d₃ _ _ => wp_fail _) fun d₃ hl₃ => ?_
    rw [overlay_nil]
    cases hexisting : d₃.reservation reservationId with
    | none => exact wp_fail _
    | some existing =>
      exact h d₃ _ initial existing (hl₃.inv (hl₂.inv (hl₁.inv hd))) mem_cons_self hexisting

/-- An active reservation under its lock. -/
structure LockedActive (reservationId : String) (existing : ReservationRecord) (held : List LockKey) (d : ProviderDb) :
    Prop where
  inv : ProviderInv d
  key : .reservation reservationId ∈ held
  found : d.reservation reservationId = some existing
  active : existing.state = .active

variable {now : Nat} {d' : ProviderDb} {state : ReservationState}

theorem LockedActive.later (h : LockedActive reservationId existing held d) (hl : Later env held d d') :
    LockedActive reservationId existing held d' := by
  exact ⟨hl.inv h.inv, h.key, (kept_reservation hl h.key).trans h.found, h.active⟩

theorem LockedActive.mono (h : LockedActive reservationId existing held d) {held' : List LockKey}
    (hsub : ∀ k ∈ held, k ∈ held') : LockedActive reservationId existing held' d :=
  ⟨h.inv, hsub _ h.key, h.found, h.active⟩

/-- The Ark unit of an active reservation is active. -/
theorem LockedActive.arkActive (h : LockedActive reservationId existing held d) {row : ArkUnitRow}
    (hrow : d.arkUnit reservationId = some row) : row.state = .active := by
  obtain ⟨found, hfound, hstate⟩ := h.inv.holding.arkState row (mem_of_find?_eq_some hrow)
  rw [arkUnit_id hrow, h.found, Option.some_inj] at hfound
  rw [← hstate, ← hfound]
  exact h.active

theorem wp_settleReservation {Q : Post Bool} (hactive : LockedActive reservationId existing held d)
    (h : ∀ d', LockedActive reservationId existing held d' → Later env held d d' →
      Q true held [.settleReservation reservationId state cause] d') :
    Follows env call (settleReservation reservationId state cause) Q held [] d := by
  refine wp_exec fun d' hl => ?_
  have hactive' := hactive.later hl
  rw [overlay_nil, hactive'.found, Option.any_some, decide_eq_true hactive'.active]
  exact h d' hactive' hl

variable {Q : Post Unit}

/-- The Ark unit of the reservation moves with it. -/
theorem wp_transitionArkReserveUnit
    {target : ReservationState} (hactive : LockedActive reservationId existing held d) (htarget : target ≠ .active)
    (hlog : ∀ d' : ProviderDb, (overlay log d').arkUnits = d'.arkUnits)
    (h : ∀ d' held', Later env held d d' → (∀ k ∈ held, k ∈ held') →
      (∀ row, d'.arkUnit reservationId = some row → arkLock env row.reserveUnit ∈ held') →
      Q () held' (log ++ arkLog d' reservationId target cause) d') :
    Follows env call (transitionArkReserveUnit env reservationId target cause) Q held
      log d := by
  have hark : ∀ d' : ProviderDb, (overlay log d').arkUnit reservationId = d'.arkUnit reservationId := by
    intro d'
    unfold arkUnit
    rw [hlog]
  unfold transitionArkReserveUnit
  rw [Follows, wp_bind]
  refine wp_read fun d₁ hl₁ => ?_
  rw [hark]
  cases hinitial : d₁.arkUnit reservationId with
  | none =>
    have := h d₁ held hl₁ (fun _ hk => hk) (by simp [hinitial])
    rw [arkLog, hinitial, Option.isSome_none, if_neg Bool.false_ne_true, append_nil] at this
    exact this
  | some initial =>
    have hactive₁ := hactive.later hl₁
    simp only [wp_bind]
    refine wp_acquire fun d₂ hl₂ => ?_
    refine wp_lockRow (fun d₃ _ _ => wp_fail _) fun d₃ hl₃ => ?_
    have hmore : ∀ k ∈ held, k ∈ arkLock env initial.reserveUnit :: held := fun k hk => .tail _ hk
    have hl₁₃ : Later env held d₁ d₃ := hl₂.trans (hl₃.mono hmore)
    rw [hark, kept_arkUnit hl₁₃ hactive.key, hinitial]
    -- the unit is active as its reservation is, so only the last branch is left
    have hstate := hactive₁.arkActive hinitial
    dsimp only
    rw [if_neg (not_not.mpr rfl), if_neg (hstate ▸ htarget.symm), if_neg (not_not.mpr hstate), wp_bind]
    refine wp_exec fun d₄ hl₄ => ?_
    have hmore₄ : ∀ k ∈ held, k ∈ LockKey.arkUnit reservationId :: arkLock env initial.reserveUnit :: held :=
      fun k hk => .tail _ (hmore k hk)
    have hl₁₄ : Later env held d₁ d₄ := hl₁₃.trans (hl₄.mono hmore₄)
    have hrow₄ := (kept_arkUnit hl₁₄ hactive.key).trans hinitial
    rw [hark, hrow₄, Option.any_some, decide_eq_true hstate]
    have := h d₄ _ (hl₁.trans hl₁₄) hmore₄ (by simp [hrow₄])
    rw [arkLog, hrow₄] at this
    exact this

theorem wp_updateBucketRelease {bucketId : String}
    {amount : Nat} (hlog : ∀ d' : ProviderDb, (overlay log d').buckets = d'.buckets)
    (h : ∀ d' bucket, Later env held d d' → d'.buckets bucketId = some bucket →
      Q () (.bucket bucketId :: held) (log ++ [.putBucket bucketId (bucket.release amount)]) d') :
    Follows env call (updateBucketRelease bucketId amount) Q held log d := by
  unfold updateBucketRelease
  simp only [wp_bind]
  refine wp_acquire fun d₁ hl₁ => ?_
  refine wp_exec fun d₂ hl₂ => ?_
  have hrow : releasable bucketId amount (overlay log d₂) = releasable bucketId amount d₂ := by
    unfold releasable
    rw [hlog]
  rw [hrow]
  cases hbucket : releasable bucketId amount d₂ with
  | none => exact wp_fail _
  | some bucket =>
    have hfound : d₂.buckets bucketId = some bucket := (Option.filter_eq_some_iff.mp hbucket).1
    exact h d₂ bucket (hl₁.trans (hl₂.mono fun k hk => .tail _ hk)) hfound

/-- The coin at the outpoint, if it is reserved for the reservation. -/
def reservedRow (d : ProviderDb) (reservationId : String) (outpoint : OutPoint) : Option UtxoRow :=
  (d.utxo outpoint).filter fun row => row.reservationId = some reservationId && row.state = .reserved

theorem reservedRow_eq_some {outpoint : OutPoint} {row : UtxoRow} :
    reservedRow d reservationId outpoint = some row ↔
      d.utxo outpoint = some row ∧ row.reservationId = some reservationId ∧ row.state = .reserved := by
  simp [reservedRow]

theorem releaseUtxoWrites_eq (now : Nat) (locked : List OutPoint) (d : ProviderDb) :
    releaseUtxoWrites reservationId now locked d =
      (locked.filterMap (reservedRow d reservationId)).map fun row => .updateUtxo (row.release now) := by
  rw [map_filterMap]
  refine filterMap_congr fun outpoint _ => ?_
  cases hrow : d.utxo outpoint with
  | none => simp [reservedRow, hrow]
  | some row =>
    by_cases hreserved : row.reservationId = some reservationId ∧ row.state = .reserved
    · simp [reservedRow, hrow, hreserved, UtxoRow.release]
    · simp only [reservedRow, hrow]
      simp only [not_and] at hreserved
      by_cases hid : row.reservationId = some reservationId
      · simp [hreserved hid]
      · simp [hid]

/-- The coins a release gives back: all that are reserved for it, each under its lock. -/
structure ReleasedCoins (reservationId : String) (held : List LockKey) (d : ProviderDb) (rows : List UtxoRow) : Prop
    where
  key : ∀ row ∈ rows, .utxo row.outpoint ∈ held
  nodup : (rows.map (·.outpoint)).Nodup
  coins : ∀ row ∈ rows, d.utxo row.outpoint = some row
  all : ∀ outpoint, outpoint ∈ d.reservedFor reservationId ↔ outpoint ∈ rows.map (·.outpoint)

/-- The coins found by their locked outpoints. -/
theorem outpoints_reservedRows (matching : List OutPoint) :
    (matching.filterMap (reservedRow d reservationId)).map (·.outpoint) =
      matching.filter fun outpoint => (reservedRow d reservationId outpoint).isSome := by
  induction matching with
  | nil => rfl
  | cons outpoint rest ih =>
    cases hrow : reservedRow d reservationId outpoint with
    | none => simpa [hrow] using ih
    | some row =>
      have houtpoint : row.outpoint = outpoint := utxo_outpoint (reservedRow_eq_some.mp hrow).1
      simpa [hrow, houtpoint] using ih

theorem releasedCoins {matching : List OutPoint} (hd : ProviderInv d) (hkeys : ∀ outpoint ∈ matching, .utxo outpoint ∈ held)
    (hnodup : matching.Nodup) (hall : ∀ outpoint ∈ d.reservedFor reservationId, outpoint ∈ matching) :
    ReleasedCoins reservationId held d (matching.filterMap (reservedRow d reservationId)) := by
  have hof : ∀ row ∈ matching.filterMap (reservedRow d reservationId), ∃ outpoint ∈ matching,
      row.outpoint = outpoint ∧ reservedRow d reservationId outpoint = some row := by
    intro row hmem
    obtain ⟨outpoint, hmatching, hrow⟩ := mem_filterMap.mp hmem
    exact ⟨outpoint, hmatching, utxo_outpoint (reservedRow_eq_some.mp hrow).1, hrow⟩
  refine ⟨?_, ?_, ?_, ?_⟩
  · intro row hmem
    obtain ⟨outpoint, hmatching, rfl, -⟩ := hof row hmem
    exact hkeys _ hmatching
  · rw [outpoints_reservedRows]
    exact hnodup.filter _
  · intro row hmem
    obtain ⟨outpoint, -, rfl, hrow⟩ := hof row hmem
    exact (reservedRow_eq_some.mp hrow).1
  · intro outpoint
    rw [outpoints_reservedRows, mem_filter, Option.isSome_iff_exists]
    simp only [reservedRow_eq_some]
    constructor
    · intro hmem
      exact ⟨hall outpoint hmem, hd.holding.mem_reservedFor_iff.mp hmem⟩
    · rintro ⟨-, hrow⟩
      exact hd.holding.mem_reservedFor_iff.mpr hrow

/-- The released coins stay what they are: their rows are locked, and no coin becomes reserved for a locked
    reservation. -/
theorem ReleasedCoins.later {rows : List UtxoRow} (h : ReleasedCoins reservationId held d rows)
    (hkey : .reservation reservationId ∈ held) (hd : ProviderInv d) (hl : Later env held d d') :
    ReleasedCoins reservationId held d' rows := by
  have hd' : ProviderInv d' := hl.inv hd
  have hcoin : ∀ row ∈ rows, d'.utxo row.outpoint = some row := by
    intro row hmem
    exact (kept_utxo hl (h.key row hmem)).trans (h.coins row hmem)
  refine ⟨h.key, h.nodup, hcoin, fun outpoint => ⟨fun hmem => ?_, fun hmem => ?_⟩⟩
  · exact (h.all outpoint).mp ((Guard.later_keeps hl hkey).2.2 outpoint hmem)
  · obtain ⟨row, hrow, rfl⟩ := mem_map.mp hmem
    obtain ⟨found, hfound, hreservation⟩ := hd.holding.mem_reservedFor_iff.mp ((h.all row.outpoint).mpr hmem)
    rw [h.coins row hrow, Option.some_inj] at hfound
    exact hd'.holding.mem_reservedFor_iff.mpr ⟨row, hcoin row hrow, hfound ▸ hreservation⟩

theorem wp_releaseUtxos (hd : ProviderInv d) (hkey : .reservation reservationId ∈ held)
    (hlog : ∀ d' : ProviderDb, (overlay log d').utxos = d'.utxos)
    (h : ∀ d' held' rows, Later env held d d' → (∀ k ∈ held, k ∈ held') →
      (∀ d'', Later env held' d' d'' → ReleasedCoins reservationId held' d'' rows) →
      Q () held' (log ++ rows.map fun row => .updateUtxo (row.release now)) d') :
    Follows env call (releaseUtxos reservationId now) Q held log d := by
  unfold releaseUtxos
  simp only [wp_bind]
  refine wp_read fun d₁ hl₁ => ?_
  have hmatching : (overlay log d₁).reservedFor reservationId = d₁.reservedFor reservationId := by
    unfold reservedFor
    rw [hlog]
  rw [hmatching]
  have hinv₁ : ProviderInv d₁ := hl₁.inv hd
  refine wp_acquireAll fun d₂ hl₂ => ?_
  refine wp_exec fun d₃ hl₃ => ?_
  have hsub : ∀ k ∈ held, k ∈ ((d₁.reservedFor reservationId).map LockKey.utxo).reverse ++ held :=
    fun k hk => mem_append_right _ hk
  have hkeys : ∀ outpoint ∈ d₁.reservedFor reservationId,
      LockKey.utxo outpoint ∈ ((d₁.reservedFor reservationId).map LockKey.utxo).reverse ++ held := by
    intro outpoint hmem
    refine mem_append_left _ (mem_reverse.mpr ?_)
    exact mem_map.mpr ⟨outpoint, hmem, rfl⟩
  have hl₁₃ : Later env held d₁ d₃ := hl₂.trans (hl₃.mono hsub)
  have hinv₃ : ProviderInv d₃ := hl₁₃.inv hinv₁
  have hnodup : (d₁.reservedFor reservationId).Nodup :=
    (filter_sublist.map _).nodup hinv₁.holding.outpoints
  have hall : ∀ outpoint ∈ d₃.reservedFor reservationId, outpoint ∈ d₁.reservedFor reservationId :=
    (Guard.later_keeps hl₁₃ hkey).2.2
  have hwrites : releaseUtxoWrites reservationId now (d₁.reservedFor reservationId) (overlay log d₃) =
      releaseUtxoWrites reservationId now (d₁.reservedFor reservationId) d₃ := by
    unfold releaseUtxoWrites utxo
    rw [hlog]
  rw [hwrites, releaseUtxoWrites_eq]
  have hcoins := releasedCoins hinv₃ hkeys hnodup hall
  exact h d₃ _ _ (hl₁.trans hl₁₃) hsub fun d₄ hl₄ => hcoins.later (hsub _ hkey) hinv₃ hl₄

/-- The write that settles an Ark unit, under the locks of the unit and of its reservation. -/
theorem allowed_arkLog (hd : HoldingInv d) (hunits : d'.arkUnits = d.arkUnits)
    (hkey : .reservation reservationId ∈ held)
    (hark : ∀ row, d.arkUnit reservationId = some row → arkLock env row.reserveUnit ∈ held) :
    AllowedLog env held d' (arkLog d reservationId state cause) := by
  unfold arkLog
  split
  · refine ⟨⟨hkey, fun row hmem hid => ?_⟩, trivial⟩
    rw [hunits] at hmem
    have hrow : d.arkUnit row.reservationId = some row := find?_of_mem hd.arkIds hmem
    rw [hid] at hrow
    exact hark row hrow
  · trivial

theorem arkLog_later (hl : Later env held d d') (hkey : .reservation reservationId ∈ held) :
    arkLog d reservationId state cause = arkLog d' reservationId state cause := by
  unfold arkLog
  rw [kept_arkUnit hl hkey]

theorem wp_writeRelease (hactive : LockedActive reservationId existing held d) :
    Follows env (.releaseReservation reservationId cause now) (writeRelease env existing reservationId cause now)
      NoValue held [] d := by
  obtain rfl := reservation_id hactive.found
  unfold writeRelease
  simp only [wp_bind]
  refine wp_ofExcept fun amount hamount => ?_
  obtain rfl := databaseU64_ok hamount
  refine wp_settleReservation hactive fun d₁ hactive₁ _ => ?_
  refine wp_updateBucketRelease (fun d' => rfl) fun d₂ bucket hl₂ hbucket => ?_
  have hactive₂ := (hactive₁.later hl₂).mono fun k hk => mem_cons_of_mem (.bucket existing.bucketId) hk
  refine wp_releaseUtxos hactive₂.inv hactive₂.key (fun d' => rfl) fun d₃ held₃ rows hl₃ hsub₃ hcoins => ?_
  have hactive₃ := (hactive₂.later hl₃).mono hsub₃
  have hunits : ∀ d' : ProviderDb, (overlay ([ProviderWrite.settleReservation existing.reservationId .released cause] ++
      [.putBucket existing.bucketId (bucket.release existing.amount)] ++
      rows.map fun row => .updateUtxo (row.release now)) d').arkUnits = d'.arkUnits := by
    intro d'
    rw [overlay_append, overlay_updateUtxos]
    rfl
  refine wp_transitionArkReserveUnit hactive₃ (by decide) hunits fun d₄ held₄ hl₄ hsub₄ hark => ?_
  have hactive₄ := (hactive₃.later hl₄).mono hsub₄
  have hbucketKey₃ : LockKey.bucket existing.bucketId ∈ held₃ := hsub₃ _ mem_cons_self
  refine wp_applied rfl hactive₄.inv fun d₅ hl₅ => ?_
  have hactive₅ := hactive₄.later hl₅
  have hlater₃ : Later env held₃ d₃ d₅ := hl₄.trans (hl₅.mono hsub₄)
  have hcoins₅ := hcoins d₅ hlater₃
  have hbucket₅ : d₅.buckets existing.bucketId = some bucket :=
    (kept_bucket (hl₃.trans (hlater₃.mono hsub₃)) mem_cons_self).trans hbucket
  rw [arkLog_later hl₅ hactive₄.key]
  refine ⟨?_, ?_⟩
  · exact .release hactive₅.found hactive₅.active hbucket₅ hcoins₅.nodup hcoins₅.coins hcoins₅.all
  · refine allowedLog_append.mpr ⟨?_, ?_⟩
    · refine allowedLog_of_forall fun w hw d => ?_
      simp only [mem_append, mem_cons, not_mem_nil, or_false, mem_map] at hw
      rcases hw with (rfl | rfl) | ⟨row, hmem, rfl⟩
      · exact hactive₄.key
      · exact hsub₄ _ hbucketKey₃
      · exact ⟨hsub₄ _ (hcoins₅.key row hmem), by simp [UtxoRow.release]⟩
    · refine allowed_arkLog hactive₅.inv.holding (hunits d₅) hactive₅.key fun row hrow => hark row ?_
      rw [← kept_arkUnit hl₅ hactive₄.key]
      exact hrow

/-- The same settlement again. -/
theorem replayOrConflict_quietly (exact : Bool) (subject : String) :
    (replayOrConflict exact subject : ProviderTxn Empty).Quietly (fun r => Applied (.ok r) = false) := by
  unfold replayOrConflict
  split
  · rfl
  · rfl

theorem wp_releaseReservation (hd : ProviderInv d) :
    Follows env (.releaseReservation reservationId cause now) (releaseReservation env reservationId cause now)
      NoValue [] [] d := by
  unfold releaseReservation
  simp only [wp_bind]
  refine wp_ofExcept fun _ _ => wp_ofExcept fun _ _ => wp_ofExcept fun stored hnow => ?_
  obtain rfl := databaseU64_ok hnow
  refine wp_lockedReservation hd fun d' held' initial existing hd' hkey hfound => ?_
  split
  · exact wp_fail _
  · cases hstate : existing.state with
    | released => exact wp_quietly (quiet env _) (replayOrConflict_quietly _ _) hd'
    | unresolved => exact wp_fail _
    | active => exact wp_writeRelease ⟨hd', hkey, hfound, hstate⟩

theorem wp_writeUnresolved {publicContext : Value} (hactive : LockedActive reservationId existing held d) :
    Follows env (.markReservationUnresolved reservationId cause publicContext now)
      (writeUnresolved env existing reservationId cause publicContext) NoValue held [] d := by
  obtain rfl := reservation_id hactive.found
  unfold writeUnresolved
  rw [Follows, wp_bind]
  refine wp_settleReservation hactive fun d₁ hactive₁ _ => ?_
  rw [Bool.not_true, if_neg Bool.false_ne_true]
  simp only [wp_bind]
  refine wp_transitionArkReserveUnit hactive₁ (by decide) (fun d' => rfl) fun d₂ held₂ hl₂ hsub₂ hark => ?_
  have hactive₂ := (hactive₁.later hl₂).mono hsub₂
  refine wp_acquire fun d₃ hl₃ => ?_
  have hactive₃ := (hactive₂.later hl₃).mono
    fun k hk => mem_cons_of_mem (.alert (unresolvedAlertId env existing.reservationId)) hk
  refine wp_exec fun d₄ hl₄ => ?_
  refine wp_applied rfl (hl₄.inv hactive₃.inv) fun d₅ hl₅ => ?_
  have hl : Later env held₂ d₂ d₅ :=
    hl₃.trans ((hl₄.trans hl₅).mono fun k hk => .tail _ hk)
  have hactive₅ := (hactive₃.later hl₄).later hl₅
  rw [arkLog_later hl hactive₂.key]
  refine ⟨.unresolved hactive₅.found hactive₅.active, ?_⟩
  refine allowedLog_append.mpr ⟨allowedLog_append.mpr ⟨⟨hactive₅.key, trivial⟩, ?_⟩, ⟨trivial, trivial⟩⟩
  refine allowed_arkLog hactive₅.inv.holding rfl hactive₅.key fun row hrow => ?_
  rw [kept_arkUnit hl hactive₂.key] at hrow
  exact .tail _ (hark row hrow)

theorem wp_markReservationUnresolved {publicContext : Value} (hd : ProviderInv d) :
    Follows env (.markReservationUnresolved reservationId cause publicContext now)
      (markReservationUnresolved env reservationId cause publicContext now) NoValue [] [] d := by
  unfold markReservationUnresolved
  simp only [wp_bind]
  refine wp_ofExcept fun _ _ => wp_ofExcept fun _ _ => wp_ofExcept fun _ _ => wp_ofExcept fun _ _ => ?_
  refine wp_lockedReservation hd fun d' held' initial existing hd' hkey hfound => ?_
  cases hstate : existing.state with
  | released => exact wp_fail _
  | active => exact wp_writeUnresolved ⟨hd', hkey, hfound, hstate⟩
  | unresolved =>
    have hreplay : (replayUnresolved env existing reservationId cause publicContext).Quietly
        (fun r => Applied (.ok r) = false) := by
      refine (quietly_query _).bind fun alert => ?_
      cases alert with
      | none => trivial
      | some alert => exact replayOrConflict_quietly _ _
    exact wp_quietly (quiet env _) hreplay hd'

end Settle

/-! ## `configure_capacity_bucket` and `observe_utxo` -/

theorem wp_configureCapacityBucket {bucketId assetId : String} {totalCapacity now : Nat} (hd : ProviderInv d) :
    Follows env (.configureCapacityBucket bucketId assetId totalCapacity now)
      (configureCapacityBucket bucketId assetId totalCapacity now) NoValue [] [] d := by
  unfold configureCapacityBucket
  simp only [wp_bind]
  refine wp_ofExcept fun _ _ => wp_ofExcept fun _ _ => wp_ofExcept fun stored hstored => wp_ofExcept fun _ _ => ?_
  obtain rfl := databaseU64_ok hstored
  refine wp_acquire fun d₁ hl₁ => ?_
  refine wp_exec fun d₂ hl₂ => ?_
  rw [overlay_nil]
  cases hupsert : upsertBucket assetId stored (d₂.buckets bucketId) with
  | none => exact wp_fail _
  | some bucket =>
    refine wp_applied rfl (hl₂.inv (hl₁.inv hd)) fun d₃ hl₃ => ⟨.configure ?_, ⟨mem_cons_self, trivial⟩⟩
    rw [kept_bucket hl₃ mem_cons_self]
    exact hupsert

variable {observation : UtxoObservation}

/-- An upsert writes the observed row; it reserves a coin only if the coin was reserved already. -/
theorem allowed_upsert {state : UtxoState} {w : ProviderWrite}
    (hstate : state ≠ .reserved) (hkey : .utxo observation.outpoint ∈ held)
    (h : upsertUtxo observation state (d.utxo observation.outpoint) = some w) : Allowed env held d w := by
  obtain ⟨-, row, rfl, houtpoint, rfl, -⟩ | ⟨row, hrow, rfl, -⟩ := upsertUtxo_cases h
  · exact ⟨by rw [houtpoint]; exact hkey, hstate⟩
  · have houtpoint := UtxoRow.observe_outpoint state hrow
    refine ⟨by rw [houtpoint]; exact hkey, fun hreserved reservationId hid => .inr ?_⟩
    have hwas := reserved_of_observe hstate hreserved
    exact mem_reservedFor.mpr ⟨row, mem_of_find?_eq_some hrow, rfl, hid, hwas⟩

/-- What a finished observation has done. One that was not applied failed its checks, or the row it found has other
    immutable fields. -/
def ObservePost (env : StoreEnv) (observation : UtxoObservation)
    (result : Except ProviderStoreError (Stored ProviderAnswer)) (before after : ProviderDb) : Prop :=
  CallPost env (.observeUtxo observation) result before after ∧
    (Applied result = false → ∀ state, checkObservation observation = .ok state →
      upsertUtxo observation state (before.utxo observation.outpoint) = none)

theorem wp_observeUtxo (hd : ProviderInv d) :
    (observeUtxo observation).wp (providerDiscipline env) (ObservePost env observation) NoValue [] [] d := by
  unfold observeUtxo
  simp only [wp_bind]
  cases hchecked : checkObservation observation with
  | error e =>
    intro d' _
    exact ⟨.inr ⟨rfl, rfl⟩, fun _ state h => by rw [hchecked] at h; cases h⟩
  | ok state =>
    refine wp_acquire fun d₁ hl₁ => ?_
    refine wp_exec fun d₂ hl₂ => ?_
    rw [overlay_nil]
    have hadmitted := observedState_of_checked hchecked
    cases hupsert : upsertUtxo observation state (d₂.utxo observation.outpoint) with
    | none =>
      intro d₃ hl₃
      refine ⟨.inr ⟨rfl, rfl⟩, fun _ other hother => ?_⟩
      rw [hchecked, Except.ok.injEq] at hother
      rw [kept_utxo hl₃ mem_cons_self, ← hother]
      exact hupsert
    | some w =>
      intro d₃ hl₃
      -- the row is locked from the upsert to the end
      rw [← kept_utxo hl₃ mem_cons_self] at hupsert
      have hlog : CallLog env (.observeUtxo observation) d₃ [w] := .observe hchecked hupsert
      have hallowed : AllowedLog env [.utxo observation.outpoint] d₃ [w] :=
        ⟨allowed_upsert (observedState_ne_reserved hadmitted) mem_cons_self hupsert, trivial⟩
      refine ⟨⟨.inl ⟨rfl, [w], hlog, rfl⟩, fun h => by cases h⟩, ?_, fun k hk => allowedLog_keeps hallowed hk⟩
      exact hlog.inv (hl₃.inv (hl₂.inv (hl₁.inv hd)))

end Calls

end Immortal.Provider
