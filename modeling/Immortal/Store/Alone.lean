import Immortal.Store.Discipline

/-!
# `Immortal.Store.Alone` — one admission with nothing beside it

What `admitInner` computes when it runs alone on a store that satisfies the invariant: `run_cases` lists the
four things that can happen to a call that the stateless checks let through. The log of a stored event is
described by the assertions of the concurrent proof, read at no interference (`Prog.wp_eval_value`); what has to
be added here is that no statement of such a log is refused by the schema.
-/

namespace Immortal.Store

open Immortal.Domain Txn

/-! ## The order on versions -/

/-- The first event wins against the second on a common address. -/
def Beats (winner loser : Event) : Prop :=
  compareReplacementOrder loser.createdAt loser.id winner.createdAt winner.id = .replaceCurrent

theorem beats_iff {winner loser : Event} :
    Beats winner loser ↔ loser.id ≠ winner.id ∧
      (loser.createdAt < winner.createdAt ∨ (winner.createdAt = loser.createdAt ∧ winner.id < loser.id)) := by
  unfold Beats compareReplacementOrder
  split_ifs <;> simp_all <;> omega

theorem Beats.createdAt_le {a b : Event} (h : Beats a b) : b.createdAt ≤ a.createdAt := by
  rcases (beats_iff.mp h).2 with h | ⟨h, _⟩ <;> omega

theorem Beats.asymm {a b : Event} (h : Beats a b) : ¬ Beats b a := by
  intro h'
  rcases (beats_iff.mp h).2 with h₁ | ⟨h₁, h₂⟩ <;> rcases (beats_iff.mp h').2 with h₃ | ⟨h₃, h₄⟩
  · omega
  · omega
  · omega
  · exact lt_asymm h₂ h₄

theorem Beats.trans {a b c : Event} (hid : a.id = c.id → a = c) (hab : Beats a b) (hbc : Beats b c) : Beats a c := by
  have hne : c.id ≠ a.id := by
    intro h
    have hac : a = c := hid h.symm
    subst hac
    exact hab.asymm hbc
  refine beats_iff.mpr ⟨hne, ?_⟩
  rcases (beats_iff.mp hab).2 with h₁ | ⟨h₁, h₂⟩ <;> rcases (beats_iff.mp hbc).2 with h₃ | ⟨h₃, h₄⟩
  · exact .inl (by omega)
  · exact .inl (by omega)
  · exact .inl (by omega)
  · exact .inr ⟨by omega, lt_trans h₂ h₄⟩

/-- An event that is not newer than its rival and not the rival itself is beaten by it. -/
theorem beats_of_keepCurrent {current candidate : Event}
    (h : compareReplacementOrder current.createdAt current.id candidate.createdAt candidate.id = .keepCurrent) :
    Beats current candidate := by
  rw [beats_iff]
  unfold compareReplacementOrder at h
  split_ifs at h with h₁ h₂ h₃ h₄
  · exact ⟨Ne.symm h₁, .inl h₃⟩
  · exact ⟨Ne.symm h₁, .inr ⟨by omega, lt_of_le_of_ne (not_lt.mp h₄) h₁⟩⟩

/-! ## One admission alone -/

/-- A call that every check lets through that does not look at the stored events: the validators, the expiry
    and timestamp checks, the operator's policy, and no group involved. -/
structure Accepted (relay : Relay) (administration : Administration) (call : Call) : Prop where
  valid : validate relay call = .ok ()
  notEphemeral : call.event.eventClass ≠ .ephemeral
  notPrivate : isMktPrivateKind call.event.kind = false
  unexpired : unexpired call = .ok ()
  timestamps : timestamps call = .ok ()
  noAction : groupActionOf call = .ok none
  noGroup : call.mode = .public → groupScope call.event = none ∧
    ¬ (39000 ≤ call.event.kind ∧ call.event.kind ≤ 39005 ∧ signedByRelay call = false)
  policy : (policyCheck call).eval [] (Db.empty administration) = .inl ((), [])

section
variable {relay : Relay} {call : Call} {d : Db}

theorem through_rejectIf (refused : Bool) (reason : AdmissionRejection) :
    (rejectIf refused reason).Through Db.administration := by
  cases refused <;> trivial

/-- The policy section sees the operator's tables only. -/
theorem through_policyCheck (call : Call) : (policyCheck call).Through Db.administration := by
  refine .bind (Prog.through_query fun d d' h => by rw [h]) fun policy => ?_
  split
  · trivial
  · refine .bind (Prog.through_query fun d d' h => by rw [Db.blockedPubkey, h]; rfl) fun blocked => ?_
    split
    · trivial
    · refine .bind (Prog.through_query fun d d' h => by rw [Db.blockedKind, h]; rfl) fun blockedKind => ?_
      split
      · trivial
      · refine .bind (Prog.through_query fun d d' h => by rw [Db.allowedPubkey, h]; rfl) fun _ => ?_
        refine .bind (through_rejectIf _ _) fun _ => ?_
        refine .bind (Prog.through_query fun d d' h => by rw [Db.allowedKind, h]; rfl) fun _ => ?_
        refine .bind (through_rejectIf _ _) fun _ => .bind ?_ fun _ => ?_
        · unfold membershipCheck
          split
          · refine .bind (Prog.through_query fun d d' h => by rw [Db.member, h]; rfl) fun direct => ?_
            split
            · split
              · exact .bind (Prog.through_query fun d d' h => by rw [Db.agentOwner, h]; rfl) fun _ =>
                  through_rejectIf _ _
              · trivial
            · exact Prog.through_pure ()
          · exact Prog.through_pure ()
        · refine .bind (through_rejectIf _ _) fun _ => .bind (through_rejectIf _ _) fun _ =>
            .bind (through_rejectIf _ _) fun _ => ?_
          split
          · exact through_rejectIf _ _
          · exact Prog.through_pure ()

theorem eval_policyCheck (h : Accepted relay d.administration call) :
    (policyCheck call).eval [] d = .inl ((), []) := by
  have hview : (Db.empty d.administration).administration = d.administration := rfl
  exact (through_policyCheck call).eval hview h.policy

theorem eval_duplicateCheck :
    (duplicateCheck call).eval [] d =
      if d.duplicate call.event.id then .inr (.ok .duplicate, d) else .inl ((), []) := by
  simp only [duplicateCheck, Prog.eval_bind, Prog.eval_query, overlay_nil]
  split <;> rfl

theorem eval_groupCheck (h : Accepted relay d.administration call) : (groupCheck call none).eval [] d = .inl ((), []) := by
  unfold groupCheck
  split
  case isTrue hmode =>
    obtain ⟨hscope, hsigned⟩ := h.noGroup hmode
    have hpass : (39000 ≤ call.event.kind && call.event.kind ≤ 39005 && !signedByRelay call) = false := by
      by_contra hc
      simp only [Bool.not_eq_false, Bool.and_eq_true, decide_eq_true_eq, Bool.not_eq_true'] at hc
      exact hsigned ⟨hc.1.1, hc.1.2, hc.2⟩
    rw [hpass, hscope]
    rfl
  case isFalse _ => rfl

theorem eval_tombstoneCheck (h : ¬ d.covers call.event) : (tombstoneCheck call).eval [] d = .inl ((), []) := by
  unfold tombstoneCheck
  split
  case isTrue hk =>
    have hm : d.tombstoneMatch call.event.id call.event.pubkey call.event.kind
        (call.event.replacementAddress.map (·.identifier)) call.event.createdAt = false := by
      rw [← Bool.not_eq_true, tombstoneMatch_iff hk]
      exact h
    simp only [Prog.eval_bind, Prog.eval_query, overlay_nil, hm]
    rfl
  case isFalse _ => rfl

theorem eval_tombstoneCheck_covered (h : d.covers call.event) :
    (tombstoneCheck call).eval [] d = .inr (.ok (.rejected .deleted), d) := by
  have hk : call.event.kind ≠ 5 := fun hk => not_covers_of_kind_five hk h
  simp only [tombstoneCheck, if_pos hk, Prog.eval_bind, Prog.eval_query, overlay_nil, (tombstoneMatch_iff hk).mpr h]
  rfl

/-- The tombstones of a stored request go in without an error. -/
theorem eval_applyTombstones {createdAt : Nat} {ts : List DeletionTombstone} {log : List Write}
    (hbound : createdAt ≤ i64Max) (hts : ∀ t ∈ ts, ∀ a through r, t = .address a through r → through = createdAt) :
    ∃ log', (applyTombstones ts).eval log d = .inl ((), log') := by
  induction ts generalizing log with
  | nil => exact ⟨_, rfl⟩
  | cons t ts ih =>
    obtain ⟨log', hlog'⟩ := ih fun u hu => hts u (List.mem_cons_of_mem t hu)
    refine ⟨log', ?_⟩
    rw [applyTombstones, applyTombstone_eq fun a through r ht => by
      rw [hts t List.mem_cons_self a through r ht]
      exact hbound]
    exact hlog'

/-- The head check alone: the event loses to the event stored on its address, or it may replace it. -/
theorem competition_cases (hd : StoreInv d) (hfresh : ∀ r ∈ d.nostrEvent, r.event.id ≠ call.event.id) :
    (∃ row ∈ d.nostrEvent, (∃ a, call.event.replacementAddress = some a ∧ row.event.replacementAddress = some a) ∧
      Beats row.event call.event ∧ (competition call).eval [] d = .inr (.ok (.rejected .superseded), d)) ∨
    (∃ replaced, (competition call).eval [] d = .inl (replaced, []) ∧ replaced ≠ some call.event.id ∧
      (∀ a, call.event.replacementAddress = some a → ∀ r ∈ d.nostrEvent, r.event.replacementAddress = some a →
        replaced = some r.event.id ∧ Beats call.event r.event) ∧
      (∀ r ∈ d.nostrEvent, replaced = some r.event.id →
        ∃ a, call.event.replacementAddress = some a ∧ r.event.replacementAddress = some a)) := by
  unfold competition
  cases ha : call.event.replacementAddress with
  | none => exact .inr ⟨none, rfl, by simp, by simp, by simp⟩
  | some address =>
    simp only [headCheck, Prog.eval_bind, Prog.eval_query, overlay_nil]
    cases hh : d.head address with
    | none =>
      refine .inr ⟨none, rfl, by simp, ?_, by simp⟩
      intro a' ha' r hr hra
      rw [Option.some.injEq] at ha'
      subst ha'
      exact absurd rfl (head_none hh _ (hd.headOf r hr _ hra))
    | some hrow =>
      obtain ⟨hmem, haddr⟩ := head_some hh
      obtain ⟨row, hrowmem, hrowaddr, hrowid, hrowcreated⟩ := hd.eventOf hrow hmem
      rw [haddr] at hrowaddr
      simp only [← hrowid, ← hrowcreated]
      cases hcmp : compareReplacementOrder row.event.createdAt row.event.id call.event.createdAt call.event.id with
      | keepCurrent => exact .inl ⟨row, hrowmem, ⟨address, rfl, hrowaddr⟩, beats_of_keepCurrent hcmp, rfl⟩
      | duplicate =>
        have hsame : row.event.id = call.event.id := by
          by_contra hne
          unfold compareReplacementOrder at hcmp
          split_ifs at hcmp
        exact absurd hsame (hfresh row hrowmem)
      | replaceCurrent =>
        refine .inr ⟨some row.event.id, rfl, by simpa using hfresh row hrowmem, ?_, ?_⟩
        · intro a' ha' r hr hra
          rw [Option.some.injEq] at ha'
          subst ha'
          have hsame : r = row := hd.address_unique hr hrowmem hra hrowaddr
          subst hsame
          exact ⟨rfl, hcmp⟩
        · intro r hr hid
          have hsame : row = r := List.inj_on_of_nodup_map hd.idsNodup hrowmem hr (Option.some.inj hid)
          exact ⟨address, rfl, hsame ▸ hrowaddr⟩

/-- The head upsert and the delete of the replaced row go in without an error. -/
theorem eval_storeReplacement {row : EventRow} {replaced : Option String}
    (hheads : ∀ head ∈ d.replaceableHead, ∃ r ∈ d.nostrEvent, r.event.id = head.eventId)
    (hfresh : d.duplicate call.event.id = false) :
    ∃ log, (storeReplacement call replaced).eval [.insertEvent row] d = .inl ((), log) := by
  unfold storeReplacement
  cases ha : call.event.replacementAddress with
  | none => exact ⟨_, rfl⟩
  | some address =>
    have hfree : (overlay [Write.insertEvent row] d).headTaken ⟨address, call.event.id, call.event.createdAt⟩ = false := by
      rw [← Bool.not_eq_true, Db.headTaken, List.any_eq_true]
      rintro ⟨head, hhead, htaken⟩
      obtain ⟨r, hr, hid⟩ := hheads head hhead
      rw [Db.duplicate, List.any_eq_false] at hfresh
      exact hfresh r hr (decide_eq_true (hid.trans (of_decide_eq_true htaken).1))
    simp only [upsertHead, Prog.eval_bind, Prog.eval_execUnless, hfree]
    cases replaced <;> exact ⟨_, rfl⟩

theorem timestamps_bound (h : timestamps call = .ok ()) : call.event.createdAt ≤ i64Max := by
  by_contra hlt
  simp [timestamps, pgI64, hlt, bind, Except.bind] at h

/-- Accepted calls reach the locked part of the admission unless the id is stored already. -/
theorem eval_admitInner (h : Accepted relay d.administration call) :
    (admitInner relay call).eval [] d =
      if d.duplicate call.event.id then .inr (.ok .duplicate, d) else (admitOrdinary relay call none).eval [] d := by
  have hauth : call.event.kind ≠ 22242 := by
    intro hk
    exact h.notEphemeral (by simp [Event.eventClass, EventClass.fromKind, hk])
  simp only [admitInner, h.valid, hauth, h.notPrivate, h.unexpired, h.timestamps, h.noAction, Prog.eval_bind,
    Prog.eval_ofExcept_ok, if_false, Bool.false_eq_true, eval_duplicateCheck]
  by_cases hdup : d.duplicate call.event.id = true
  · simp only [if_pos hdup]
  · simp only [if_neg hdup, eval_policyCheck h]

/-- **What one admission does.** On a store that satisfies the invariant, an accepted call finds its id stored,
    is covered by a tombstone, loses to the event on its address, or is stored with the effects of its log. -/
theorem run_cases (hacc : Accepted relay d.administration call) (hd : StoreInv d) :
    (d.duplicate call.event.id = true ∧ (admitInner relay call).run d = (.ok .duplicate, d)) ∨
    (d.covers call.event ∧ (admitInner relay call).run d = (.ok (.rejected .deleted), d)) ∨
    ((∃ row ∈ d.nostrEvent, (∃ a, call.event.replacementAddress = some a ∧ row.event.replacementAddress = some a) ∧
      Beats row.event call.event) ∧ (admitInner relay call).run d = (.ok (.rejected .superseded), d)) ∨
    (∃ row replaced cleanup, row.event = call.event ∧ Pending call.event replaced cleanup d ∧
      insertedTombstones cleanup = requestTombstones call.event ∧
      (∀ r ∈ d.nostrEvent, replaced = some r.event.id →
        (∃ a, call.event.replacementAddress = some a ∧ r.event.replacementAddress = some a) ∧
          Beats call.event r.event) ∧
      (admitInner relay call).run d = (.ok (.stored row.ingestSeq), overlay (storeLog row cleanup) d)) := by
  unfold Prog.run
  rw [eval_admitInner hacc]
  by_cases hdup : d.duplicate call.event.id = true
  · exact .inl ⟨hdup, by rw [if_pos hdup]⟩
  rw [if_neg hdup]
  have hfresh : ∀ r ∈ d.nostrEvent, r.event.id ≠ call.event.id := fun r hr hid =>
    hdup (List.any_eq_true.mpr ⟨r, hr, by simpa using hid⟩)
  have hnodup : (duplicateCheck call).eval [] d = .inl ((), []) := by
    rw [eval_duplicateCheck, if_neg hdup]
  by_cases hcov : d.covers call.event
  · refine .inr (.inl ⟨hcov, ?_⟩)
    simp only [admitOrdinary, Prog.eval_bind, Prog.eval_acquireAll, eval_groupCheck hacc, hnodup,
      eval_tombstoneCheck_covered hcov]
  rcases competition_cases hd hfresh with ⟨row, hrow, haddr, hbeats, hcomp⟩ | ⟨replaced, hcomp, hne, hrivals, hold⟩
  · refine .inr (.inr (.inl ⟨⟨row, hrow, haddr, hbeats⟩, ?_⟩))
    simp only [admitOrdinary, Prog.eval_bind, Prog.eval_acquireAll, eval_groupCheck hacc, hnodup,
      eval_tombstoneCheck hcov, hcomp]
  · refine .inr (.inr (.inr ?_))
    obtain ⟨row, hrow⟩ : ∃ row : EventRow, row = ⟨call.event, d.ingestSequence + 1⟩ := ⟨_, rfl⟩
    have hrow' : row.event = call.event := by rw [hrow]
    have hinsert : (insertEvent call).eval [] d = .inl (some row.ingestSeq, [.insertEvent row]) := by
      simp [insertEvent, Prog.exec, Prog.eval, hdup, hrow]
    have hheads : ∀ head ∈ d.replaceableHead, ∃ r ∈ d.nostrEvent, r.event.id = head.eventId := fun head hhead =>
      (hd.eventOf head hhead).imp fun r hr => ⟨hr.1, hr.2.2.1⟩
    obtain ⟨log₁, hlog₁⟩ : ∃ log, (storeReplacement call replaced).eval [.insertEvent row] d = .inl ((), log) :=
      eval_storeReplacement hheads (Bool.eq_false_iff.mpr hdup)
    -- the assertion of the concurrent proof, at no interference, describes the log
    have hwp₁ : (storeReplacement call replaced).wp (admissionDiscipline relay) anyResult
        (fun _ _ log d' => ∃ cleanup, log = storeLog row cleanup ∧ insertedTombstones cleanup = [] ∧
          Writing relay (.ingest :: admissionLocks relay call.event) row.event replaced cleanup d')
        (.ingest :: admissionLocks relay call.event) [.insertEvent row] d :=
      wp_storeReplacement List.mem_cons_self hrow' hd hfresh hcov (fun a ha r hr hra => (hrivals a ha r hr hra).1) hne
        fun cleanup d' htomb hw => ⟨cleanup, rfl, htomb, hw⟩
    obtain ⟨_, cleanup₁, hlog₁eq, htomb₁, hw₁⟩ := Prog.wp_eval_value hwp₁ hlog₁
    subst hlog₁eq
    have hprogress : ∃ log, (storeDeletion call).eval (storeLog row cleanup₁) d = .inl ((), log) := by
      unfold storeDeletion
      cases hr : deletionRequest call.event with
      | none => exact ⟨_, rfl⟩
      | some request =>
        obtain ⟨hkind, _, hrid, hcreated⟩ := deletionRequest_some hr
        refine eval_applyTombstones (timestamps_bound hacc.timestamps) fun t ht a through r hta => ?_
        subst hta
        obtain ⟨_, rfl, rfl⟩ := DeletionRequest.mem_tombstones_address.mp ht
        exact hcreated
    obtain ⟨log₂, hlog₂⟩ := hprogress
    have hwp₂ : (storeDeletion call).wp (admissionDiscipline relay) anyResult
        (fun _ _ log d' => ∃ cleanup, log = storeLog row cleanup ∧
          insertedTombstones cleanup = requestTombstones call.event ∧
          Writing relay (.ingest :: admissionLocks relay call.event) row.event replaced cleanup d')
        (.ingest :: admissionLocks relay call.event) (storeLog row cleanup₁) d :=
      wp_storeDeletion List.mem_cons_self hrow' (fun k hk => .tail _ hk) htomb₁ hw₁
        fun cleanup d' htomb hw => ⟨cleanup, rfl, htomb, hw⟩
    obtain ⟨_, cleanup₂, hlog₂eq, htomb₂, hw₂⟩ := Prog.wp_eval_value hwp₂ hlog₂
    subst hlog₂eq
    refine ⟨row, replaced, cleanup₂, hrow', hrow' ▸ hw₂.pending, htomb₂, ?_, ?_⟩
    · intro r hr hid
      obtain ⟨a, ha, hra⟩ := hold r hr hid
      exact ⟨⟨a, ha, hra⟩, (hrivals a ha r hr hra).2⟩
    · simp only [admitOrdinary, Prog.eval_bind, Prog.eval_acquireAll, eval_groupCheck hacc, hnodup,
        eval_tombstoneCheck hcov, hcomp, if_neg hacc.notEphemeral, Prog.eval_acquire, hinsert, hlog₁, hlog₂,
        storeGroupAction_none, Prog.eval_pure, Prog.eval_commit]

end

/-! ## Two accepted calls

A relay whose validators pass, an open policy, a note and the request that deletes it. -/

/-- Lowercase hexadecimal text of `n` bytes with equal digits. -/
def hexText (n : Nat) (digit : Char) : String := String.ofList (List.replicate (n * 2) digit)

def acceptingRelay : Relay where
  validateExpandedEvent := fun _ => .ok ()
  validateCrypto := fun _ => .ok ()
  validateBlockIngest := fun _ _ => .ok ()
  validateMktPublicEvent := fun _ => .ok ()
  validateOpenagentsWorkEvent := fun _ => .ok ()
  validateMktPrivateBase := fun _ => .ok ()
  hashtextextended := fun key => key.toList.foldl (fun acc c => acc * 1114112 + c.toNat) 0
  serializedLength := fun event => event.content.utf8ByteSize
  applyGroupAction := fun _ _ _ => pure ()

/-- The policy row a migration inserts, and nothing else. -/
def openAdministration : Administration :=
  ⟨some ⟨false, 131072, 256, 900, 0⟩, [], [], [], [], [], [], [], [], []⟩

def noteCall : Call :=
  ⟨⟨hexText 32 'a', hexText 32 'f', 10, 1, [], "", hexText 64 'e'⟩, 1000, none, none, .public⟩

def requestCall : Call :=
  ⟨⟨hexText 32 'b', hexText 32 'f', 20, 5, [["e", hexText 32 'a']], "", hexText 64 'e'⟩, 1000, none, none, .public⟩

theorem accepted_noteCall : Accepted acceptingRelay openAdministration noteCall where
  valid := by decide +kernel
  notEphemeral := by decide
  notPrivate := by decide
  unexpired := rfl
  timestamps := rfl
  noAction := rfl
  noGroup := fun _ => ⟨rfl, by decide⟩
  policy := rfl

theorem accepted_requestCall : Accepted acceptingRelay openAdministration requestCall where
  valid := by decide +kernel
  notEphemeral := by decide
  notPrivate := by decide
  unexpired := rfl
  timestamps := rfl
  noAction := rfl
  noGroup := fun _ => ⟨rfl, by decide⟩
  policy := rfl

end Immortal.Store
