import Immortal.Provider.Calls

/-!
# `Immortal.Provider.Runs` — the capacity ledger along every run

Any number of calls run at once over one database that starts empty. The rule for transactions under locks turns the
assertions of `Immortal.Provider.Calls` into facts about every reachable system: the invariant holds of the committed
database, and every finished call has committed its log or changed nothing. The finished calls form a chain from the
empty database, so what one call may do to a reservation is what can ever happen to it.
-/

namespace Immortal.Provider

open Txn Immortal.Client

/-! ## Runs -/

section Runs
variable {env : StoreEnv}

/-- A call begins with its program. -/
def ProviderStart (env : StoreEnv) (_ : ProviderDb) (call : ProviderCall) (p : ProviderTxn Empty) : Prop :=
  p = call.program env

/-- Nothing but the calls changes the database. -/
def NoBackground (_ _ : ProviderDb) : Prop := False

abbrev ProviderSystem :=
  System ProviderDb ProviderWrite LockKey ProviderStoreError (Stored ProviderAnswer) ProviderCall

/-- The systems that calls reach from the empty database. -/
abbrev ProviderReachable (env : StoreEnv) : ProviderSystem → Prop :=
  Reachable (ProviderStart env) NoBackground ProviderDb.empty

/-- What every finished call has done; an observation that was not applied had to be refused. -/
def FinishedPost (env : StoreEnv) (call : ProviderCall) (result : Except ProviderStoreError (Stored ProviderAnswer))
    (before after : ProviderDb) : Prop :=
  CallPost env call result before after ∧
    ∀ observation, call = .observeUtxo observation → ObservePost env observation result before after

/-- **Every call meets its assertion**, whatever others do between its statements. -/
theorem calls_verified (env : StoreEnv) :
    Verified (providerDiscipline env) (ProviderStart env) (fun call _ => FinishedPost env call) (fun _ _ => True) where
  start d call p hd hp := by
    subst hp
    cases call with
    | reserve request => exact Prog.wp_post_mono (fun _ _ _ h => ⟨h, nofun⟩) (wp_reserve hd)
    | releaseReservation reservationId cause now =>
      exact Prog.wp_post_mono (fun _ _ _ h => ⟨h, nofun⟩) (wp_releaseReservation hd)
    | markReservationUnresolved reservationId detailCode publicContext now =>
      exact Prog.wp_post_mono (fun _ _ _ h => ⟨h, nofun⟩) (wp_markReservationUnresolved hd)
    | configureCapacityBucket bucketId assetId totalCapacity now =>
      exact Prog.wp_post_mono (fun _ _ _ h => ⟨h, nofun⟩) (wp_configureCapacityBucket hd)
    | observeUtxo observation =>
      refine Prog.wp_post_mono (fun _ _ _ h => ⟨h.1, ?_⟩) (wp_observeUtxo hd)
      rintro _ ⟨⟩
      exact h
  env _ _ _ h := h.elim
  settle _ _ := trivial
  keep _ _ _ _ _ _ := trivial

variable {s : ProviderSystem}

theorem ProviderReachable.sound (h : ProviderReachable env s) :
    Sound (providerDiscipline env) (fun call _ => FinishedPost env call) (fun _ _ => True) s :=
  Sound.reachable (calls_verified env) ProviderInv.empty h

variable {result : Except ProviderStoreError (Stored ProviderAnswer)} {call : ProviderCall}

theorem CallPost.inv
    {before after : ProviderDb} (h : CallPost env call result before after) (hbefore : ProviderInv before) :
    ProviderInv after := by
  rcases h with ⟨-, log, hlog, rfl⟩ | ⟨-, rfl⟩
  · exact hlog.inv hbefore
  · exact hbefore

/-- **The finished calls** form a chain from the empty database to the current one, and the invariant holds all
    along it. -/
theorem finished_calls (h : ProviderReachable env s) :
    Chained ProviderDb.empty s.history s.db ∧
      ∀ finished ∈ s.history, FinishedPost env finished.call finished.result finished.before finished.after ∧
        ProviderInv finished.before ∧ ProviderInv finished.after := by
  have hchained : Chained ProviderDb.empty s.history s.db := Reachable.chained (fun _ _ h => h) h
  have hdone := (ProviderReachable.sound h).done
  have hinv := hchained.invariant ProviderInv.empty fun finished hmem => (hdone finished hmem).1.inv
  exact ⟨hchained, fun finished hmem => ⟨hdone finished hmem, hinv.1 finished hmem⟩⟩

end Runs

/-! ## Reservations -/

/-- A reservation row stays as it is, or it is settled: an active row becomes released or unresolved. -/
def Moves (before after : ReservationRecord) : Prop :=
  after = before ∨ before.state = .active ∧
    ∃ state cause, state ≠ .active ∧ after = { before with state, releaseCause := some cause }

section Moves
variable {env : StoreEnv} {d d' : ProviderDb} {reservationId : String} {row : ReservationRecord}
  (hrow : d.reservation reservationId = some row)
include hrow

theorem moves_of_same (h : d'.reservations = d.reservations) :
    ∃ row', d'.reservation reservationId = some row' ∧ Moves row row' := by
  refine ⟨row, ?_, .inl rfl⟩
  unfold ProviderDb.reservation at hrow ⊢
  rw [h]
  exact hrow

theorem moves_of_settle {existing : ReservationRecord} {state : ReservationState} {cause : String}
    (found : d.reservation existing.reservationId = some existing) (active : existing.state = .active)
    (hstate : state ≠ .active) (h : d'.reservations = d.reservations.map (settleRow existing.reservationId state cause)) :
    ∃ row', d'.reservation reservationId = some row' ∧ Moves row row' := by
  refine ⟨settleRow existing.reservationId state cause row, ?_, ?_⟩
  · rw [reservation_settled h, hrow, Option.map_some]
  · by_cases hid : row.reservationId = existing.reservationId
    · have hsame : row = existing := by
        rw [← ProviderDb.reservation_id hrow, hid, found, Option.some_inj] at hrow
        exact hrow.symm
      rw [hsame, settleRow, if_pos rfl]
      exact .inr ⟨active, state, cause, hstate, rfl⟩
    · rw [settleRow_other hid]
      exact .inl rfl

/-- What a committed log does to a reservation that is there already. -/
theorem CallLog.moves {log : List ProviderWrite} (h : CallLog env call d log) :
    ∃ row', (overlay log d).reservation reservationId = some row' ∧ Moves row row' := by
  cases h with
  | reserve ready nodup fresh effect same =>
    refine ⟨row, ?_, .inl rfl⟩
    unfold ProviderDb.reservation at hrow ⊢
    rw [overlay_reserveLog, List.find?_append, hrow, Option.some_or]
  | release found active bucket_eq nodup coins all =>
    refine moves_of_settle hrow found active ?_ (congrArg ProviderDb.reservations (overlay_releaseLog d _ _ _))
    decide
  | unresolved found active =>
    refine moves_of_settle hrow found active ?_ (congrArg ProviderDb.reservations (overlay_unresolvedLog d _ _ _ _))
    decide
  | configure upsert => exact moves_of_same hrow rfl
  | observe checked upsert =>
    refine moves_of_same hrow ?_
    obtain ⟨-, _, rfl, -⟩ | ⟨_, -, rfl, -⟩ := upsertUtxo_cases upsert <;> rfl

theorem CallPost.moves (h : CallPost env call result d d') :
    ∃ row', d'.reservation reservationId = some row' ∧ Moves row row' := by
  rcases h with ⟨-, log, hlog, rfl⟩ | ⟨-, rfl⟩
  · exact hlog.moves hrow
  · exact moves_of_same hrow rfl

end Moves

/-! ## Result -/

/-- **The capacity ledger along every run.** In every system that interleaved calls reach, each bucket's allocation
    is what its active and unresolved reservations add up to and stays within the bucket's capacity, and its
    allocation sequences are 1, 2, 3, .. in the order of insertion. The finished calls lead from the empty database to
    the current one; each of them leaves every reservation alone or settles an active one, and one that did not apply
    its request changes nothing. -/
theorem ledger_over_runs {env : StoreEnv} {s : ProviderSystem} (h : ProviderReachable env s) :
    LedgerInv s.db ∧ Chained ProviderDb.empty s.history s.db ∧
      ∀ finished ∈ s.history,
        (∀ reservationId row, finished.before.reservation reservationId = some row →
          ∃ row', finished.after.reservation reservationId = some row' ∧ Moves row row') ∧
        (Applied finished.result = false → finished.after = finished.before) := by
  obtain ⟨hchained, hfinished⟩ := finished_calls h
  have hinv : ProviderInv s.db := (ProviderReachable.sound h).inv
  refine ⟨hinv.ledger, hchained, fun finished hmem => ⟨?_, ?_⟩⟩
  · intro reservationId row hrow
    exact (hfinished finished hmem).1.1.moves hrow
  · intro hrefused
    rcases (hfinished finished hmem).1.1 with ⟨happlied, -⟩ | ⟨-, hsame⟩
    · rw [hrefused] at happlied
      cases happlied
    · exact hsame

/-! ## A run -/

def oneCoin : UtxoObservation where
  outpoint := ⟨"eeeeeeeeeeeeeeeeeeeeeeeeeeeeeeeeeeeeeeeeeeeeeeeeeeeeeeeeeeeeeeee", 0⟩
  assetId := "swp:1:btc"
  amount := 5
  scriptPubkey := "51"
  state := "available"
  confirmations := 6
  blockHash := none
  replacementTxid := none
  observedAt := 90

def oneReserve : HardReservationRequest where
  reservationId := "aaaaaaaaaaaaaaaaaaaaaaaaaaaaaaaaaaaaaaaaaaaaaaaaaaaaaaaaaaaaaaaa"
  effectId := "bbbbbbbbbbbbbbbbbbbbbbbbbbbbbbbbbbbbbbbbbbbbbbbbbbbbbbbbbbbbbbbb"
  sessionId := "cccccccccccccccccccccccccccccccccccccccccccccccccccccccccccccccc"
  bucketId := "btc"
  assetId := "swp:1:btc"
  amount := 5
  requestSha256 := "dddddddddddddddddddddddddddddddddddddddddddddddddddddddddddddddd"
  expectedAllocationSequence := 1
  expiresAt := 200
  utxos := [oneCoin.outpoint]
  arkReserve := none
  createdAt := 100

/-- The outside functions at the inputs of `oneReserve`. -/
def oneReserveEnv : StoreEnv where
  hashtextextended _ := 8360382342823749025
  digest _ := "2a9b013bd7c6da1cda31f8bae137e0885491127401f6e0623c3a8b0c96b0791c"
  toVec value := utf8 (if value = reservePublicResult oneReserve 1 then
      "\x7b\"allocation_sequence\":\"1\",\"reservation_id\":\"" ++ oneReserve.reservationId ++
        "\",\"state\":\"reserved\"\x7d"
    else
      "\x7b\"amount\":\"5\",\"ark_reserve\":null,\"asset_id\":\"swp:1:btc\",\"bucket_id\":\"btc\"," ++
        "\"expected_allocation_sequence\":\"1\",\"expires_at\":200,\"reservation_id\":\"" ++
        oneReserve.reservationId ++ "\",\"utxos\":[\x7b\"txid\":\"" ++ oneCoin.outpoint.txid ++ "\",\"vout\":0\x7d]\x7d")
  rejectCustodyMaterial _ := .ok ()

/-- Calls that run one after the other, each alone. -/
def runAlone (env : StoreEnv) : List ProviderCall → ProviderDb → ProviderDb
  | [], d => d
  | call :: rest, d => runAlone env rest ((call.program env).run d).2

/-- The calls of `runAlone` as finished calls. -/
def aloneHistory (env : StoreEnv) : List ProviderCall → ProviderDb →
    List (Finished ProviderDb ProviderStoreError (Stored ProviderAnswer) ProviderCall)
  | [], _ => []
  | call :: rest, d =>
    ⟨call, d, d, ((call.program env).run d).2, ((call.program env).run d).1⟩ ::
      aloneHistory env rest ((call.program env).run d).2

theorem runAlone_reachable {env : StoreEnv} (calls : List ProviderCall)
    (h : ProviderReachable env s) (hidle : ∀ n, s.txs n = none) :
    ∃ s', ProviderReachable env s' ∧ s'.db = runAlone env calls s.db ∧
      s'.history = s.history ++ aloneHistory env calls s.db := by
  induction calls generalizing s with
  | nil => exact ⟨s, h, rfl, (List.append_nil _).symm⟩
  | cons call rest ih =>
    obtain ⟨s₁, h₁, hidle₁, hdb₁, hhistory₁⟩ := h.runs hidle (show ProviderStart env s.db call _ from rfl)
    obtain ⟨s₂, h₂, hdb₂, hhistory₂⟩ := ih h₁ hidle₁
    refine ⟨s₂, h₂, ?_, ?_⟩
    · rw [hdb₂, hdb₁]
      rfl
    · rw [hhistory₂, hhistory₁, hdb₁, List.append_assoc]
      rfl

/-- A coin is seen, a bucket is configured and the coin is reserved. -/
def oneReserveCalls : List ProviderCall :=
  [.observeUtxo oneCoin, .configureCapacityBucket "btc" "swp:1:btc" 10 95, .reserve oneReserve]

theorem ledger_over_runs_oneReserved : ∃ s : ProviderSystem, ProviderReachable oneReserveEnv s ∧
    s.db.buckets "btc" = some ⟨"swp:1:btc", 10, 5, 1⟩ ∧ s.db.reservations = [reservationRow oneReserve] ∧
    LedgerInv s.db := by
  obtain ⟨s, hs, hdb, -⟩ := runAlone_reachable oneReserveCalls
    (show ProviderReachable oneReserveEnv (System.idle ProviderDb.empty) from .idle) fun _ => rfl
  refine ⟨s, hs, ?_, ?_, (ledger_over_runs hs).1⟩
  · rw [hdb]
    decide +kernel
  · rw [hdb]
    decide +kernel

end Immortal.Provider
