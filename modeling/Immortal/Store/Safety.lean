import Immortal.Store.Alone

/-!
# `Immortal.Store.Safety` — what concurrent admissions keep true of the committed store

Any number of admissions run interleaved with expiry sweeps and with the operator's own changes. In every
committed state no event survives a tombstone that deletes it, each replacement address has at most one event
and its head row names exactly that event, and no id is stored twice.

The pieces of the transaction are put together here; what each of them relies on is in
`Immortal.Store.Discipline`.
-/

namespace Immortal.Store

open Immortal.Domain Txn Prog

section
variable {relay : Relay} {call : Call}

/-- **An ordinary admission keeps the discipline**, from its locks to its commit. -/
theorem wp_admitOrdinary {d : Db} (hd : StoreInv d) :
    (admitOrdinary relay call none).wp (admissionDiscipline relay) anyResult NoValue [] [] d := by
  unfold admitOrdinary
  rw [wp_bind]
  refine wp_acquireAll fun d₁ hl₁ => ?_
  generalize hheld : ((admissionLockKeys call.event).map
    (fun key => LockId.text (relay.hashtextextended key))).reverse ++ [] = held
  have hlocks : ∀ k ∈ admissionLocks relay call.event, k ∈ held := by
    intro k hk
    rw [← hheld, List.append_nil, List.mem_reverse]
    exact hk
  have hd₁ : StoreInv d₁ := hl₁.inv hd
  rw [wp_bind]
  refine wp_readOnly admission_quiet (readOnly_groupCheck call none) hd₁ fun _ d₂ hl₂ => ?_
  have hd₂ : StoreInv d₂ := hl₂.inv hd₁
  rw [wp_bind]
  refine wp_readOnly admission_quiet (readOnly_duplicateCheck call) hd₂ fun _ d₃ hl₃ => ?_
  have hd₃ : StoreInv d₃ := hl₃.inv hd₂
  rw [wp_bind]
  refine wp_tombstoneCheck hd₃ fun d₄ hl₄ hcov => ?_
  have hd₄ : StoreInv d₄ := hl₄.inv hd₃
  rw [wp_bind]
  refine wp_competition hd₄ fun replaced d₅ hl₅ hrivals hne => ?_
  have hd₅ : StoreInv d₅ := hl₅.inv hd₄
  split
  case isTrue _ =>
    rw [wp_bind]
    refine wp_readOnly admission_quiet (readOnly_notifyEphemeral relay call) hd₅ fun _ d₆ hl₆ => ?_
    exact fun d₇ hl₇ => ⟨trivial, (hl₆.trans hl₇).inv hd₅, .inl rfl⟩
  case isFalse _ =>
    rw [wp_bind]
    refine wp_acquire fun d₆ hl₆ => ?_
    have hd₆ : StoreInv d₆ := hl₆.inv hd₅
    have hing : LockId.ingest ∈ LockId.ingest :: held := List.mem_cons_self
    have hlocks' : ∀ k ∈ admissionLocks relay call.event, k ∈ LockId.ingest :: held :=
      fun k hk => .tail _ (hlocks k hk)
    rw [wp_bind]
    refine wp_insertEvent ?_ ?_
    · exact fun d₇ hl₇ d₈ hl₈ => ⟨trivial, (hl₇.trans hl₈).inv hd₆, .inl rfl⟩
    · intro ingestSeq d₇ hl₇ hfresh
      have hd₇ : StoreInv d₇ := hl₇.inv hd₆
      -- what the checks learned has survived the wait for the ingest lock
      have hshrink : Shrinks d₆ d₇ := later_ingest hing hd₆ hl₇
      have hcov₇ : ¬ d₇.covers call.event := by
        rw [Db.covers, hshrink.2]
        exact later_uncovered (hlocks _ eventLock_mem) (fun a ha => hlocks _ (addressLock_mem ha)) hd₄
          (hl₅.trans hl₆) hcov
      have hrivals₇ : ∀ address, call.event.replacementAddress = some address → ∀ r ∈ d₇.nostrEvent,
          r.event.replacementAddress = some address → replaced = some r.event.id := by
        intro address ha r hr hra
        have hr₅ := later_address (hlocks _ (addressLock_mem ha)) hd₅ hl₆ r (hshrink.1 r hr) hra
        exact hrivals address ha r hr₅ hra
      rw [wp_bind]
      refine wp_storeReplacement hing rfl hd₇ hfresh hcov₇ hrivals₇ hne fun cleanup d₈ htomb₈ hw₈ => ?_
      rw [wp_bind]
      refine wp_storeDeletion hing rfl hlocks' htomb₈ hw₈ fun cleanup' d₉ _ hw₉ => ?_
      rw [storeGroupAction_none]
      intro d₁₀ hl₁₀
      have hw : Writing relay (.ingest :: held) call.event replaced cleanup' d₁₀ := hw₉.later hing hl₁₀
      refine ⟨trivial, @StoreInv.commit ⟨call.event, ingestSeq⟩ _ _ _ hw.inv hw.pending, .inr ⟨hing, ?_, ?_⟩⟩
      · intro r hr
        rcases (@mem_storeLog_nostrEvent ⟨call.event, ingestSeq⟩ _ _ _ hw.pending r).mp hr with rfl | ⟨hr, _⟩
        · exact .inr fun address ha => hlocks' _ (addressLock_mem ha)
        · exact .inl hr
      · intro event hcov
        rcases (@storeLog_covers ⟨call.event, ingestSeq⟩ _ _ _ event hw.pending).mp hcov with hc | ⟨t, ht, hdel⟩
        · exact .inl hc
        · exact .inr (hw.guarded t ht event hdel)

end

/-! ## Every reachable store -/

/-- The calls of a run: admissions of events that are no private market record and carry no group action. -/
def OrdinaryCall (relay : Relay) (_ : Db) (call : Call) (p : Admission Empty) : Prop :=
  p = admitInner relay call ∧ isMktPrivateKind call.event.kind = false ∧
    ∀ action, groupActionOf call ≠ .ok (some action)

theorem wp_admitInner {relay : Relay} {call : Call} {d : Db} (hd : StoreInv d)
    (hkind : isMktPrivateKind call.event.kind = false) (haction : ∀ action, groupActionOf call ≠ .ok (some action)) :
    (admitInner relay call).wp (admissionDiscipline relay) anyResult NoValue [] [] d := by
  have hro : ∀ {α : Type} (x : Except StoreError α), (ofExcept x : Admission α).ReadOnly NotStored :=
    fun x => readOnly_ofExcept x
  unfold admitInner
  rw [wp_bind]
  refine wp_readOnly admission_quiet (hro _) hd fun _ d₁ hl₁ => ?_
  split
  · exact fun d₂ hl₂ => ⟨trivial, (hl₁.trans hl₂).inv hd, .inl rfl⟩
  · rw [hkind]
    simp only [Bool.false_eq_true, if_false]
    rw [wp_bind]
    refine wp_readOnly admission_quiet (hro _) (hl₁.inv hd) fun _ d₂ hl₂ => ?_
    rw [wp_bind]
    refine wp_readOnly admission_quiet (hro _) ((hl₁.trans hl₂).inv hd) fun _ d₃ hl₃ => ?_
    have hd₃ : StoreInv d₃ := (hl₁.trans (hl₂.trans hl₃)).inv hd
    cases hact : groupActionOf call with
    | error e => exact fun _ _ => trivial
    | ok action =>
      have hnone : action = none := by
        cases action with
        | none => rfl
        | some a => exact absurd hact (haction a)
      subst hnone
      show wp _ _ (duplicateCheck call >>= _) _ _ _ _
      rw [wp_bind]
      refine wp_readOnly admission_quiet (readOnly_duplicateCheck call) hd₃ fun _ d₄ hl₄ => ?_
      rw [wp_bind]
      refine wp_readOnly admission_quiet (readOnly_policyCheck call) (hl₄.inv hd₃) fun _ d₅ hl₅ => ?_
      exact wp_admitOrdinary ((hl₄.trans hl₅).inv hd₃)

theorem admission_verified (relay : Relay) :
    Verified (C := Call) (admissionDiscipline relay) (OrdinaryCall relay) (fun _ _ => anyResult) (fun _ _ => True) where
  start := by
    rintro d call p hd ⟨rfl, hkind, haction⟩
    exact wp_admitInner hd hkind haction
  env := fun _ _ hd h => h.inv hd
  settle := fun _ _ => trivial
  keep := fun _ _ _ _ _ _ => trivial

theorem reachable_storeInv {relay : Relay} {administration : Administration}
    {s : System Db Write LockId StoreError AdmissionOutcome Call}
    (h : Reachable (OrdinaryCall relay) Background (Db.empty administration) s) : StoreInv s.db :=
  (Sound.reachable (admission_verified relay) (StoreInv.empty administration) h).inv

/-- **Admission safety under concurrency.** Whatever admissions, sweeps and operator changes interleave, in
    every committed state: no stored event other than a deletion request is covered by a tombstone; each
    replacement address has at most one event, its head row names exactly that event, and there is a head row
    whenever there is an event; and no id is stored twice. -/
theorem concurrent_admissions_safe (relay : Relay) (administration : Administration)
    (s : System Db Write LockId StoreError AdmissionOutcome Call)
    (h : Reachable (OrdinaryCall relay) Background (Db.empty administration) s) :
    (∀ row ∈ s.db.nostrEvent, row.event.kind ≠ 5 → ∀ t ∈ s.db.deletionTombstone, t.deletes row.event = false) ∧
    (∀ address,
      (∀ row ∈ s.db.nostrEvent, ∀ row' ∈ s.db.nostrEvent, row.event.replacementAddress = some address →
        row'.event.replacementAddress = some address → row = row') ∧
      (∀ head ∈ s.db.replaceableHead, head.address = address → ∃ row ∈ s.db.nostrEvent,
        row.event.replacementAddress = some address ∧ head.eventId = row.event.id ∧
          head.createdAt = row.event.createdAt) ∧
      (∀ row ∈ s.db.nostrEvent, row.event.replacementAddress = some address →
        ∃! head, head ∈ s.db.replaceableHead ∧ head.address = address)) ∧
    (s.db.nostrEvent.map (fun row => row.event.id)).Nodup := by
  have hinv := reachable_storeInv h
  refine ⟨?_, fun address => ⟨?_, ?_, ?_⟩, hinv.idsNodup⟩
  · intro row hrow _ t ht
    by_contra hdel
    exact hinv.uncovered row hrow ⟨t, ht, by simpa using hdel⟩
  · exact fun row hr row' hr' ha ha' => hinv.address_unique hr hr' ha ha'
  · rintro head hh rfl
    obtain ⟨row, hr, ha, he, hc⟩ := hinv.eventOf head hh
    exact ⟨row, hr, ha, he.symm, hc.symm⟩
  · intro row hr ha
    exact ⟨_, ⟨hinv.headOf row hr address ha, rfl⟩, fun head hh =>
      List.inj_on_of_nodup_map hinv.headsNodup hh.1 (hinv.headOf row hr address ha) hh.2⟩

/-- A run that stores a note, at which the theorem speaks about a store that is not empty. -/
theorem concurrent_admissions_safe_note :
    ∃ s : System Db Write LockId StoreError AdmissionOutcome Call,
      Reachable (OrdinaryCall acceptingRelay) Background (Db.empty openAdministration) s ∧
      (∃ row ∈ s.db.nostrEvent, row.event = noteCall.event) ∧
      (∀ row ∈ s.db.nostrEvent, row.event.kind ≠ 5 → ∀ t ∈ s.db.deletionTombstone, t.deletes row.event = false) ∧
      (s.db.nostrEvent.map (fun row => row.event.id)).Nodup := by
  have hstart : OrdinaryCall acceptingRelay (Db.empty openAdministration) noteCall (admitInner acceptingRelay noteCall) :=
    ⟨rfl, accepted_noteCall.notPrivate, fun action h => by rw [accepted_noteCall.noAction] at h; simp at h⟩
  obtain ⟨s, hs, hdb⟩ := Reachable.alone Background hstart
  have hsafe := concurrent_admissions_safe acceptingRelay openAdministration s hs
  refine ⟨s, hs, ?_, hsafe.1, hsafe.2.2⟩
  rw [hdb]
  decide +kernel

end Immortal.Store
