import Immortal.Gateway.HubHandoff

/-!
# `Immortal.Gateway.HubExactlyOnce` — every stored event once, from history or live

The step of the handoff: the answer of a read reaches a subscription that has been buffering since before the read was
asked. With it the invariant holds along every run, and a live subscription has been sent each stored event that it
wants exactly once.

The hub tells events apart by their ids while it buffers. An event that is stored again after its first row was deleted
has the same id and a new sequence number, and then it can be lost (`restored_event_lost`). The results are for runs in
which every event is stored once.
-/

namespace Immortal.Gateway

open Immortal.Domain Immortal.Store Hub List

section Invariant

variable (env : HubEnv)

variable {action : Action} {hub : Hub} {registration : Registration} {w w' : World}

theorem RowsInv.of_rows (h : RowsInv w) (hstored : w'.stored = w.stored) (hcommitted : w'.committed = w.committed)
    (hpublished : w'.published = w.published) (hallocated : w'.allocated = w.allocated)
    (hcursor : w'.cursor = w.cursor) (hids : w'.ephemeralIds = w.ephemeralIds) : RowsInv w' := by
  constructor
  · rw [hstored, hcommitted]
    exact h.stored
  · rw [hpublished, hcommitted]
    exact h.published
  · rw [hcommitted, hallocated]
    exact h.committed_le
  · rw [hpublished, hcursor]
    exact h.published_le
  · rw [hcursor, hallocated]
    exact h.cursor_le
  · rw [hcommitted]
    exact h.durable
  · rw [hcommitted, hids]
    exact h.ids

theorem RowsInv.of_hub (h : RowsInv w) (hub : Hub) : RowsInv { w with hub := hub } :=
  h.of_rows rfl rfl rfl rfl rfl rfl

/-! ## The history arrives -/

theorem le_liveHighWater (highWater : Nat) (live : List PublishedEvent) :
    highWater ≤ liveHighWater highWater live ∧
      (∀ row ∈ rowsOf live, row.ingestSeq ≤ liveHighWater highWater live) ∧
      (liveHighWater highWater live = highWater ∨
        ∃ row ∈ rowsOf live, liveHighWater highWater live = row.ingestSeq) := by
  unfold liveHighWater
  induction live generalizing highWater with
  | nil => simp [rowsOf]
  | cons published rest ih =>
    cases hseq : published.ingestSeq with
    | none => simpa [rowsOf, PublishedEvent.row, hseq] using ih highWater
    | some ingestSeq =>
      obtain ⟨habove, hrows, hwhich⟩ := ih (max highWater ingestSeq)
      have hrow : rowsOf (published :: rest) = ⟨published.event, ingestSeq⟩ :: rowsOf rest := by
        simp [rowsOf, PublishedEvent.row, hseq]
      simp only [filterMap_cons, hseq, hrow]
      refine ⟨(le_max_left _ _).trans habove, ?_, ?_⟩
      · intro row hmem
        rcases mem_cons.mp hmem with rfl | hrest
        · exact (le_max_right _ _).trans habove
        · exact hrows row hrest
      · rcases hwhich with hmax | ⟨row, hmem, heq⟩
        · rcases max_choice highWater ingestSeq with hsame | hsame
          · exact .inl (hmax.trans hsame)
          · exact .inr ⟨_, mem_cons_self, hmax.trans hsame⟩
        · exact .inr ⟨row, .tail _ hmem, heq⟩

theorem mem_rowsOf_liveAfter {highWater : Nat} {events : List EventRow} {buffered : List PublishedEvent}
    {row : EventRow} :
    row ∈ rowsOf (liveAfter highWater events buffered) ↔
      row ∈ rowsOf buffered ∧ row.event.id ∉ events.map (·.event.id) ∧ highWater < row.ingestSeq := by
  rw [mem_rowsOf, mem_rowsOf, liveAfter]
  simp

/-- **The handoff.** When the answer of its own read reaches a subscription that waits for it, what it buffered above
the high-water mark follows the history, and nothing is lost or sent twice. -/
theorem Buffers.handoff {slot : Slot} {sub : Subscription} {buffered : List PublishedEvent} {ids : List String}
    {answer : Answer} {hub' : Hub} (h : Buffers env w slot sub buffered ids) (hrows : RowsInv w)
    (honce : w.StoredOnce) (hanswer : answer ∈ w.answers) (hinv : AnswerInv env w answer)
    (hregistration : answer.registration = sub.registration)
    (hlog : messagesFor hub'.log slot = messagesFor w.hub.log slot ++
      (historyMessages sub.key answer.events ++ .eose sub.key.subscriptionId ::
        (rowsOf (liveAfter answer.highWater answer.events buffered)).map
          fun row => .event sub.key.subscriptionId row.event false)) :
    Delivered env { w with hub := hub' } slot sub
      (liveHighWater answer.highWater (liveAfter answer.highWater answer.events buffered))
      answer.highWater answer.events (rowsOf (liveAfter answer.highWater answer.events buffered)) := by
  obtain ⟨habove, hbelow, hwhich⟩ :=
    le_liveHighWater answer.highWater (liveAfter answer.highWater answer.events buffered)
  have hwants : ∀ event, answer.registration.wants env event = sub.wants env event := by
    intro event
    rw [hregistration]
    rfl
  have hsub : (rowsOf (liveAfter answer.highWater answer.events buffered)).Sublist (rowsOf buffered) :=
    filter_sublist.filterMap _
  refine ⟨?_, ?_, hinv.nodup, ?_, h.ordered.sublist hsub, hbelow, habove, ?_,
    hinv.highWater_le.trans hinv.asked_le, ?_, ?_⟩
  · rw [hlog, h.silent, nil_append]
  · intro row hrow
    rw [← hwants]
    exact hinv.sound row hrow
  · intro row hrow
    obtain ⟨hbuffered, -, hlt⟩ := mem_rowsOf_liveAfter.mp hrow
    obtain ⟨hpublished, hwanted⟩ := h.sound row hbuffered
    exact ⟨hpublished, hwanted, hlt⟩
  · rcases hwhich with hsame | ⟨row, hrow, heq⟩
    · exact .inl hsame
    · right
      rw [heq]
      exact hrows.published_le row (h.sound row (hsub.subset hrow)).1
  · intro row hrow hwanted hfresh hle
    exact hinv.complete row hrow ((hwants _).trans hwanted) hfresh hle
  · intro row hrow hpublished hwanted hfresh hlt
    rcases h.complete row hrow hpublished hwanted hfresh with hbuffered | hasked
    · refine mem_rowsOf_liveAfter.mpr ⟨hbuffered, ?_, hlt⟩
      -- the same id in the history would be the same row, and that lies below the mark
      intro hid
      obtain ⟨other, hother, hsame⟩ := mem_map.mp hid
      obtain ⟨hcommitted, -, hle⟩ := hinv.sound other hother
      obtain rfl := honce.inj hcommitted (hrows.published row hpublished) hsame
      exact absurd hle (Nat.not_le.mpr hlt)
    · have hle := hinv.above row hrow ((hwants _).trans hwanted) (hasked answer hanswer hregistration)
      exact absurd hle (Nat.not_le.mpr hlt)

/-- A world in which only the hub changed is a later one. -/
theorem Later.of_hub (w : World) (hub : Hub) : Later w { w with hub := hub } where
  stored _ h := .inl h
  committed _ h := h
  published := rfl
  cursor := rfl
  ephemeralIds := rfl
  allocated := le_rfl
  now := le_rfl
  answers _ h := .inl h
  registrations _ h := h

theorem messagesFor_others {slot other : Slot} (hother : other ≠ slot) (messages : List Outbound) :
    messagesFor (messages.map (⟨some slot, ·⟩)) other = [] := by
  refine messagesFor_eq_nil fun entry hentry => ?_
  obtain ⟨message, -, rfl⟩ := mem_map.mp hentry
  simpa using hother.symm

/-- **A step of the hub alone** keeps the invariant when every slot is as it was, or is registered and in order. -/
theorem Inv.of_hub (h : Inv env w) (hconsistent : hub.Consistent)
    (hlogged : ∀ entry ∈ hub.log, ∀ slot, entry.slot = some slot → slot < hub.nextSlot)
    (hslots : ∀ slot sub, hub.subscriptions slot = some sub →
      (w.hub.subscriptions slot = some sub ∧ messagesFor hub.log slot = messagesFor w.hub.log slot) ∨
      (sub.registration ∈ w.registrations ∧ SlotInv env { w with hub := hub } slot sub)) :
    Inv env { w with hub := hub } := by
  refine ⟨hconsistent, h.rows.of_hub _, fun answer hanswer => (h.answers answer hanswer).later env (Later.of_hub w hub),
    fun slot sub hsub => ?_, h.generations, hlogged, fun slot sub hsub => ?_⟩
  · rcases hslots slot sub hsub with ⟨hold, -⟩ | ⟨hregistered, -⟩
    · exact h.registered slot sub hold
    · exact hregistered
  · rcases hslots slot sub hsub with ⟨hold, hmessages⟩ | ⟨-, hslot⟩
    · exact (h.slots slot sub hold).later env h.rows (Later.of_hub w hub) hmessages
    · exact hslot

theorem Inv.historyReady {answer : Answer} (h : Inv env w) (honce : w.StoredOnce) (hanswer : answer ∈ w.answers) :
    Inv env { w with
      hub := w.hub.historyReady env answer.registration.key answer.registration.generation answer.highWater
        answer.events } := by
  have hconsistent := h.consistent.historyReady env answer.registration.key answer.registration.generation
    answer.highWater answer.events
  obtain hsame | ⟨slot, sub, buffered, ids, hsub, hkey, hgeneration, hstate, heq⟩ :=
    h.consistent.historyReady_cases env answer.registration.key answer.registration.generation answer.highWater
      answer.events
  · rw [hsame]
    exact h
  have hinv := h.answers answer hanswer
  have hregistration : answer.registration = sub.registration :=
    h.generations _ hinv.registered _ (h.registered slot sub hsub) hkey.symm hgeneration.symm
  have hbuffers : Buffers env w slot sub buffered ids := by
    have hslot := h.slots slot sub hsub
    rw [SlotInv, hstate] at hslot
    exact hslot
  rw [heq] at hconsistent ⊢
  generalize hlive : liveAfter answer.highWater answer.events buffered = live at hconsistent ⊢
  generalize hmark : liveHighWater answer.highWater live = mark at hconsistent ⊢
  generalize hhub₁ : w.hub.setSubscription slot (some { sub with state := .live mark }) = hub₁ at hconsistent ⊢
  have hstates : ∀ other, hub₁.subscriptions other =
      if other = slot then some { sub with state := .live mark } else w.hub.subscriptions other := by
    intro other
    rw [← hhub₁]
    exact Function.update_apply ..
  have hlog₁ : hub₁.log = w.hub.log := by rw [← hhub₁]; rfl
  have hnext₁ : hub₁.nextSlot = w.hub.nextSlot := by rw [← hhub₁]; rfl
  have hshape₁ : Hub.SameShape w.hub hub₁ := by rw [← hhub₁]; exact sameShape_setState hsub _
  -- what was sent belongs to this slot, so the others are as they were
  have hothers : ∀ {sent : List Outbound} {hub' : Hub}, Hub.Queued (sent.map (⟨some slot, ·⟩)) hub₁ hub' →
      (∀ entry ∈ hub'.log, ∀ number, entry.slot = some number → number < hub'.nextSlot) ∧
      ∀ other, other ≠ slot → messagesFor hub'.log other = messagesFor w.hub.log other := by
    intro sent hub' hqueued
    rw [hqueued.log, hqueued.nextSlot, hlog₁, hnext₁]
    constructor
    · intro entry hentry number hnumber
      rcases mem_append.mp hentry with hold | hnew
      · exact h.logged entry hold number hnumber
      · obtain ⟨message, -, rfl⟩ := mem_map.mp hnew
        obtain rfl := Option.some.inj hnumber
        exact h.consistent.bounded hsub
    · intro other hother
      rw [messagesFor_append, messagesFor_others hother, append_nil]
  obtain ⟨hub', hall, hqueued⟩ | ⟨sent, hub', hqueued, hall⟩ :=
    hub₁.sendAll_cases env (some slot) answer.registration.key.connectionId
      (historyMessages answer.registration.key answer.events ++
        .eose answer.registration.key.subscriptionId :: liveMessages answer.registration.key live)
  · rw [hall] at hconsistent ⊢
    obtain ⟨hlogged, hmessages⟩ := hothers hqueued
    refine h.of_hub env hconsistent hlogged fun other found hfound => ?_
    rw [hqueued.states, hstates] at hfound
    split at hfound
    · rename_i hslot
      subst hslot
      cases hfound
      rw [← hmark, ← hlive]
      refine .inr ⟨h.registered other sub hsub,
        slotInv_live (hbuffers.handoff env h.rows honce hanswer hinv hregistration ?_)⟩
      rw [hqueued.log, hlog₁, messagesFor_append, messagesFor_map, filter_append, filter_historyMessages,
        filter_cons_of_pos rfl, filter_liveMessages, hlive, ← hkey]
    · rename_i hother
      exact .inl ⟨hfound, hmessages other hother⟩
  · rw [hall] at hconsistent ⊢
    obtain ⟨hlogged, hmessages⟩ := hothers hqueued
    have hleft := (hqueued.toSameShape.consistent (hshape₁.consistent h.consistent)).closeConnection_left
      answer.registration.key.connectionId
    refine h.of_hub env hconsistent (by rwa [hleft.log, hleft.nextSlot]) fun other found hfound => ?_
    obtain ⟨hthere, hopen⟩ := hleft.mem.mp hfound
    rw [hqueued.states, hstates] at hthere
    split at hthere
    · -- the slot itself went with its connection
      cases hthere
      simp [hkey] at hopen
    · rename_i hother
      rw [hleft.log]
      exact .inl ⟨hthere, hmessages other hother⟩

/-! ## Every other action -/

theorem Inv.insertSubscription {connection : ConnectionSink} (h : Inv env w)
    (hregistered : registration ∈ w.registrations)
    (hunasked : ∀ answer ∈ w.answers, answer.registration ≠ registration)
    (hopen : w.hub.connections registration.key.connectionId = some connection)
    (hfree : w.hub.slots registration.key = none) :
    Inv env { w with
      hub := w.hub.insertSubscription connection registration.key registration.generation registration.filters
        registration.readPubkeys } := by
  refine h.of_hub env (h.consistent.insertSubscription hopen hfree _ _ _) ?_ fun slot sub hsub => ?_
  · intro entry hentry slot hslot
    exact (h.logged entry hentry slot hslot).trans (Nat.lt_succ_self _)
  · simp only [insertSubscription_subscriptions] at hsub
    split at hsub
    · rename_i hslot
      cases hsub
      -- the slot is new, so nothing was sent for it, and no read was asked for it yet
      refine .inr ⟨hregistered, messagesFor_eq_nil fun entry hentry hsome => ?_, by simp [rowsOf], by simp [rowsOf],
        by simp, ?_⟩
      · exact absurd (h.logged entry hentry slot hsome) (by simp [hslot])
      · intro row _ _ _ _
        exact .inr fun answer hanswer hsame => absurd hsame (hunasked answer hanswer)
    · exact .inl ⟨hsub, rfl⟩

theorem Inv.register (h : Inv env w)
    (hnewer : ∀ old ∈ w.registrations, old.key = registration.key → old.generation < registration.generation) :
    Inv env { w with
      hub := w.hub.register registration.key registration.generation registration.filters registration.readPubkeys
      registrations := registration :: w.registrations } := by
  have hnew : registration ∉ w.registrations := fun hmem => lt_irrefl _ (hnewer registration hmem rfl)
  have hgenerations : ∀ old ∈ registration :: w.registrations, ∀ other ∈ registration :: w.registrations,
      old.key = other.key → old.generation = other.generation → old = other := by
    intro old hold other hother hkey hgeneration
    rcases mem_cons.mp hold with rfl | holdin <;> rcases mem_cons.mp hother with rfl | hotherin
    · rfl
    · exact absurd hgeneration (hnewer other hotherin hkey.symm).ne'
    · exact absurd hgeneration (hnewer old holdin hkey).ne
    · exact h.generations old holdin other hotherin hkey hgeneration
  have hlater : ∀ hub, Later w { w with hub := hub, registrations := registration :: w.registrations } := fun hub =>
    ⟨fun _ hrow => .inl hrow, fun _ hrow => hrow, rfl, rfl, rfl, le_rfl, le_rfl, fun _ hanswer => .inl hanswer,
      fun _ hmem => .tail _ hmem⟩
  obtain ⟨-, hsame⟩ | ⟨connection, hopen, heq⟩ :=
    h.consistent.register_eq registration.key registration.generation registration.filters registration.readPubkeys
  · rw [hsame]
    exact h.of_calm env (hlater _) (Calm.refl h.consistent) (h.rows.of_rows rfl rfl rfl rfl rfl rfl)
      (fun _ hanswer => .inl hanswer) hgenerations
  · rw [heq]
    have hremoved : Inv env { w with
        hub := w.hub.removeSubscription registration.key, registrations := registration :: w.registrations } :=
      h.of_calm env (hlater _)
        (calm_of_left (h.consistent.left_removeSubscription _) (h.consistent.removeSubscription _))
        (h.rows.of_rows rfl rfl rfl rfl rfl rfl) (fun _ hanswer => .inl hanswer) hgenerations
    refine hremoved.insertSubscription env mem_cons_self ?_ hopen ?_
    · rintro answer hanswer rfl
      exact hnew (h.answers answer hanswer).registered
    · show (w.hub.removeSubscription registration.key).slots registration.key = none
      rw [h.consistent.removeSubscription_slots, Function.update_self]

/-- A stored event does not match a subscription to ephemeral kinds. -/
theorem not_wants_of_ephemeralOnly {event : Event} (honly : ephemeralOnly registration.filters = true)
    (hdurable : event.eventClass ≠ .ephemeral) : registration.wants env event = false := by
  by_contra hwants
  rw [Bool.not_eq_false, Registration.wants, Bool.and_eq_true] at hwants
  obtain ⟨filter, hfilter, hmatch⟩ := any_eq_true.mp hwants.1
  rw [ephemeralOnly, Bool.and_eq_true] at honly
  have hkinds := all_eq_true.mp honly.2 filter hfilter
  cases hsome : filter.kinds with
  | none => simp [hsome] at hkinds
  | some kinds =>
    have hmem : event.kind ∈ kinds := by
      simp only [Filter.matches, Bool.and_eq_true] at hmatch
      simpa [hsome] using hmatch.1.1.1.1.2
    simp only [hsome, Option.any_some, Bool.and_eq_true, all_eq_true, decide_eq_true_eq] at hkinds
    exact hdurable (hkinds.2 event.kind hmem)

theorem World.step_committed (h : w.step env action = some w') : ∃ rows, w'.committed = w.committed ++ rows := by
  cases action <;> simp only [World.step, Option.ite_none_right_eq_some, Option.some.injEq] at h
  case commit row => exact ⟨[row], by rw [← h.2]⟩
  all_goals first
    | exact ⟨[], by rw [← h]; simp⟩
    | exact ⟨[], by rw [← h.2]; simp⟩

theorem World.StoredOnce.of_step (honce : w'.StoredOnce) (h : w.step env action = some w') : w.StoredOnce := by
  obtain ⟨rows, hrows⟩ := World.step_committed env h
  unfold World.StoredOnce at honce ⊢
  rw [hrows, map_append] at honce
  exact (nodup_append.mp honce).1

/-- **An answer** that is asked now is kept in the world. -/
theorem Inv.answer (h : Inv env w) {answer : Answer} (hasked : answer.asked = w.allocated)
    (hanswer : AnswerInv env { w with answers := answer :: w.answers } answer) :
    Inv env { w with answers := answer :: w.answers } := by
  refine h.of_calm env { Later.of_hub w w.hub with answers := ?_ } (Calm.refl h.consistent)
    (h.rows.of_rows rfl rfl rfl rfl rfl rfl) ?_ h.generations
  · intro other hother
    rcases mem_cons.mp hother with rfl | hold
    · exact .inr hasked.ge
    · exact .inl hold
  · intro other hother
    rcases mem_cons.mp hother with rfl | hold
    · exact .inr hanswer
    · exact .inl hold

/-- **One action.** -/
theorem Inv.step (h : Inv env w) (honce : w'.StoredOnce) (hstep : w.step env action = some w') : Inv env w' := by
  have honce' : w.StoredOnce := honce.of_step env hstep
  have hcalm : ∀ {hub : Hub}, Calm w.hub hub → Inv env { w with hub := hub } := fun hcalm =>
    h.of_calm env (Later.of_hub w _) hcalm (h.rows.of_hub _) (fun _ hanswer => .inl hanswer)
      h.generations
  cases action <;> simp only [World.step, Option.ite_none_right_eq_some, Option.some.injEq] at hstep
  case commit row =>
    obtain ⟨⟨hdurable, hseq, -, hid⟩, rfl⟩ := hstep
    refine h.of_calm env ?_ (Calm.refl h.consistent) ?_ (fun _ hanswer => .inl hanswer) h.generations
    · exact ⟨forall_mem_append.mpr ⟨fun _ hold => .inl hold, by simp [hseq]⟩,
        fun _ hrow => mem_append_left _ hrow, rfl, rfl, rfl, hseq.le, le_rfl, fun _ hanswer => .inl hanswer,
        fun _ hmem => hmem⟩
    · exact ⟨h.rows.stored.append (List.Sublist.refl _),
        fun other hother => mem_append_left _ (h.rows.published other hother),
        forall_mem_append.mpr ⟨fun other hold => (h.rows.committed_le other hold).trans hseq.le, by simp⟩,
        h.rows.published_le, h.rows.cursor_le.trans hseq.le,
        forall_mem_append.mpr ⟨h.rows.durable, by simpa using hdurable⟩,
        forall_mem_append.mpr ⟨h.rows.ids, by simpa using hid⟩⟩
  case forget ids =>
    subst hstep
    exact h.of_calm env { Later.of_hub w w.hub with stored := fun row hrow => .inl (mem_of_mem_filter hrow) }
      (Calm.refl h.consistent) { h.rows with stored := filter_sublist.trans h.rows.stored }
      (fun _ hanswer => .inl hanswer) h.generations
  case tick now =>
    obtain ⟨hle, rfl⟩ := hstep
    exact h.of_calm env { Later.of_hub w w.hub with now := hle } (Calm.refl h.consistent)
      (h.rows.of_rows rfl rfl rfl rfl rfl rfl) (fun _ hanswer => .inl hanswer) h.generations
  case publish row instant =>
    obtain ⟨⟨hcommitted, hcursor⟩, hw⟩ := hstep
    have hpublishes : Publishes w w' ⟨row.event, some row.ingestSeq⟩ := by
      subst hw
      refine ⟨rfl, rfl, rfl, rfl, rfl, rfl, rfl, fun _ hid => hid, Bool.noConfusion, hcursor.le, ?_⟩
      intro other hother
      obtain rfl : other = row := mem_singleton.mp hother
      exact ⟨hcommitted, rfl, hcursor, rfl⟩
    subst hw
    refine h.publish env honce' hpublishes ?_ rfl
    exact ⟨h.rows.stored, forall_mem_append.mpr ⟨h.rows.published, by simpa using hcommitted⟩,
      h.rows.committed_le, forall_mem_append.mpr
        ⟨fun other hold => (h.rows.published_le other hold).trans hcursor.le, by simp⟩,
      h.rows.committed_le row hcommitted, h.rows.durable, h.rows.ids⟩
  case publishEphemeral event instant =>
    obtain ⟨hfresh, hw⟩ := hstep
    have hpublishes : Publishes w w' ⟨event, none⟩ := by
      subst hw
      exact ⟨rfl, rfl, rfl, rfl, rfl, rfl, (append_nil _).symm, fun _ hid => .tail _ hid,
        fun _ => mem_cons_self, le_rfl, fun row hrow => absurd hrow not_mem_nil⟩
    subst hw
    refine h.publish env honce' hpublishes ?_ rfl
    refine { h.rows with ids := ?_ }
    intro row hrow hmem
    exact (mem_cons.mp hmem).elim (hfresh row hrow) (h.rows.ids row hrow)
  case addConnection connectionId queueCapacity =>
    obtain ⟨-, rfl⟩ := hstep
    have hleft := h.consistent.closeConnection_left connectionId
    exact hcalm ⟨h.consistent.addConnection connectionId queueCapacity, fun _ _ hsub => (hleft.mem.mp hsub).1,
      hleft.log, hleft.nextSlot.ge⟩
  case register registration =>
    obtain ⟨hnewer, rfl⟩ := hstep
    exact h.register env hnewer
  case query registration events =>
    obtain ⟨⟨hregistered, hperm⟩, rfl⟩ := hstep
    have hmem : ∀ row, row ∈ events ↔ row ∈ w.stored ∧ registration.wants env row.event = true ∧
        row.event.isExpired w.now = false := by
      intro row
      rw [hperm.mem_iff]
      simp [World.wantedRows]
    have hcommitted : w.committed.Nodup := List.Nodup.of_map _ honce'
    refine h.answer env rfl ⟨hregistered, ?_, ?_, ?_, le_rfl, ?_, ?_⟩
    · intro row hrow
      obtain ⟨hstored, hwants, -⟩ := (hmem row).mp hrow
      exact ⟨h.rows.stored.subset hstored, hwants, le_latestOf hstored⟩
    · exact hperm.nodup_iff.mpr ((h.rows.stored.nodup hcommitted).filter _)
    · exact latestOf_le_iff.mpr fun row hrow => h.rows.committed_le row (h.rows.stored.subset hrow)
    · intro row hrow _ _
      exact le_latestOf hrow
    · intro row hrow hwants hunexpired _
      exact (hmem row).mpr ⟨hrow, hwants, hunexpired⟩
  case liveOnly registration =>
    obtain ⟨⟨hregistered, honly⟩, rfl⟩ := hstep
    -- no stored row is wanted at all
    have hnone : ∀ row ∈ w.stored, registration.wants env row.event = false := fun row hrow =>
      not_wants_of_ephemeralOnly env honly (h.rows.durable row (h.rows.stored.subset hrow))
    refine h.answer env rfl ⟨hregistered, by simp, nodup_nil, Nat.zero_le _, le_rfl, ?_, ?_⟩
    · intro row hrow hwants
      rw [hnone row hrow] at hwants
      cases hwants
    · intro row hrow hwants
      rw [hnone row hrow] at hwants
      cases hwants
  case historyReady answer =>
    obtain ⟨hanswer, rfl⟩ := hstep
    exact h.historyReady env honce' hanswer
  case remove key =>
    subst hstep
    exact hcalm (calm_of_left (h.consistent.left_removeSubscription key) (h.consistent.removeSubscription key))
  case removeConnection connectionId =>
    subst hstep
    exact hcalm (calm_of_left (h.consistent.closeConnection_left connectionId)
      (h.consistent.closeConnection connectionId))
  case pop connectionId =>
    subst hstep
    exact hcalm (calm_of_queued (popOutbound_queued w.hub connectionId) h.consistent)

theorem start_inv (maxBufferedLive maxOutboundBytes : Nat) :
    Inv env (World.start maxBufferedLive maxOutboundBytes) := by
  refine ⟨start_consistent _ _, ?_, ?_, ?_, ?_, ?_, ?_⟩
  · constructor <;> simp [World.start]
  · simp [World.start]
  · intro slot sub hsub
    cases hsub
  · simp [World.start]
  · simp [World.start, start]
  · intro slot sub hsub
    cases hsub

/-- **Every run** keeps the invariant, as long as no event is stored twice. -/
theorem Inv.run {actions : List Action} (h : Inv env w) (honce : w'.StoredOnce) (hrun : w.run env actions = some w') :
    Inv env w' := by
  induction actions generalizing w with
  | nil =>
    cases hrun
    exact h
  | cons action rest ih =>
    obtain ⟨middle, hstep, hrest⟩ := Option.bind_eq_some_iff.mp hrun
    refine ih (h.step env ?_ hstep) hrest
    clear ih h hstep hrun
    -- what was committed once in the end was committed once on the way
    induction rest generalizing middle with
    | nil =>
      cases hrest
      exact honce
    | cons next rest ih =>
      obtain ⟨later, hnext, hlater⟩ := Option.bind_eq_some_iff.mp hrest
      exact (ih later hlater).of_step env hnext

/-! ## Who is sent something, and who is dropped -/

/-- A step of the hub sends to registered slots only. A subscription stays registered unless its connection was closed
or its key is among those that the step ends, and a slot that was given up is not used again. -/
structure StepEffect (ends : SubscriptionKey → Prop) (hub hub' : Hub) : Prop where
  sent : ∃ sent, hub'.log = hub.log ++ sent ∧
    ∀ entry ∈ sent, ∃ slot sub, entry.slot = some slot ∧ hub.subscriptions slot = some sub
  kept : ∀ slot sub, hub.subscriptions slot = some sub →
    (∃ sub', hub'.subscriptions slot = some sub' ∧ sub'.registration = sub.registration) ∨
      hub'.connections sub.key.connectionId = none ∨ ends sub.key
  fresh : ∀ slot, slot < hub.nextSlot → hub.subscriptions slot = none → hub'.subscriptions slot = none
  nextSlot : hub.nextSlot ≤ hub'.nextSlot

theorem StepEffect.refl (ends : SubscriptionKey → Prop) (hub : Hub) : StepEffect ends hub hub :=
  ⟨⟨[], by simp⟩, fun _ sub hsub => .inl ⟨sub, hsub, rfl⟩, fun _ _ hnone => hnone, le_rfl⟩

theorem stepEffect_removeSubscription (h : hub.Consistent) (key : SubscriptionKey) :
    StepEffect (· = key) hub (hub.removeSubscription key) := by
  have hleft := h.left_removeSubscription key
  refine ⟨⟨[], by simp [hleft.log]⟩, ?_, ?_, hleft.nextSlot.ge⟩
  · intro slot sub hsub
    by_cases hkey : sub.key = key
    · exact .inr (.inr hkey)
    · exact .inl ⟨sub, hleft.mem.mpr ⟨hsub, by simpa using hkey⟩, rfl⟩
  · intro slot _ hnone
    rw [hleft.subscriptions, hnone]
    rfl

theorem stepEffect_closeConnection (h : hub.Consistent) (connectionId : ConnectionId) (ends : SubscriptionKey → Prop) :
    StepEffect ends hub (hub.closeConnection connectionId) := by
  have hleft := h.closeConnection_left connectionId
  refine ⟨⟨[], by simp [hleft.log]⟩, ?_, ?_, hleft.nextSlot.ge⟩
  · intro slot sub hsub
    by_cases hid : sub.key.connectionId = connectionId
    · right
      left
      rw [h.closeConnection_connections, if_pos hid]
    · exact .inl ⟨sub, hleft.mem.mpr ⟨hsub, by simpa using hid⟩, rfl⟩
  · intro slot _ hnone
    rw [hleft.subscriptions, hnone]
    rfl

theorem stepEffect_queued {hub' : Hub} {sent : List Sent} (h : Hub.Queued sent hub hub')
    (hsent : ∀ entry ∈ sent, ∃ slot sub, entry.slot = some slot ∧ hub.subscriptions slot = some sub)
    (ends : SubscriptionKey → Prop) : StepEffect ends hub hub' := by
  refine ⟨⟨sent, h.log, hsent⟩, ?_, ?_, h.nextSlot.ge⟩
  · intro slot sub hsub
    exact .inl ⟨sub, by rw [h.states, hsub], rfl⟩
  · intro slot _ hnone
    rw [h.states, hnone]

theorem StepEffect.trans {ends : SubscriptionKey → Prop} {hub' hub'' : Hub} (h : StepEffect ends hub hub')
    (h' : StepEffect ends hub' hub'') (hslots : ∀ slot sub, hub'.subscriptions slot = some sub → slot < hub.nextSlot)
    (hclosed : ∀ connectionId, hub'.connections connectionId = none → hub''.connections connectionId = none) :
    StepEffect ends hub hub'' := by
  obtain ⟨sent, hlog, hsent⟩ := h.sent
  obtain ⟨sent', hlog', hsent'⟩ := h'.sent
  have hback : ∀ slot sub', hub'.subscriptions slot = some sub' → ∃ sub, hub.subscriptions slot = some sub := by
    intro slot sub' hsub'
    by_contra hnone
    have hgone : hub.subscriptions slot = none := by
      cases hfound : hub.subscriptions slot with
      | none => rfl
      | some sub => exact absurd ⟨sub, hfound⟩ hnone
    rw [h.fresh slot (hslots slot sub' hsub') hgone] at hsub'
    cases hsub'
  refine ⟨⟨sent ++ sent', by rw [hlog', hlog, append_assoc], ?_⟩, ?_, ?_, h.nextSlot.trans h'.nextSlot⟩
  · intro entry hentry
    rcases mem_append.mp hentry with hin | hin
    · exact hsent entry hin
    · obtain ⟨slot, sub', hslot, hsub'⟩ := hsent' entry hin
      obtain ⟨sub, hsub⟩ := hback slot sub' hsub'
      exact ⟨slot, sub, hslot, hsub⟩
  · intro slot sub hsub
    rcases h.kept slot sub hsub with ⟨sub', hsub', hsame⟩ | hnone | hends
    · have hkey : sub'.key = sub.key := congrArg Registration.key hsame
      rcases h'.kept slot sub' hsub' with ⟨sub'', hsub'', hsame'⟩ | hnone | hends
      · exact .inl ⟨sub'', hsub'', hsame'.trans hsame⟩
      · exact .inr (.inl (hkey ▸ hnone))
      · exact .inr (.inr (hkey ▸ hends))
    · exact .inr (.inl (hclosed _ hnone))
    · exact .inr (.inr hends)
  · intro slot hslot hnone
    exact h'.fresh slot (hslot.trans_le h.nextSlot) (h.fresh slot hslot hnone)

theorem stepEffect_publish (h : hub.Consistent) (published : PublishedEvent) (now instant : Nat)
    (ends : SubscriptionKey → Prop) : StepEffect ends hub (hub.publish env published now instant) := by
  obtain ⟨-, hqueued⟩ | ⟨-, overflowed, reached, hresult⟩ := h.publish_cases env published now instant
  · exact stepEffect_queued hqueued (by simp) ends
  · refine ⟨⟨_, hresult.log, ?_⟩, ?_, ?_, hresult.nextSlot.ge⟩
    · intro entry hentry
      obtain ⟨slot, -, hlive⟩ := mem_filterMap.mp hentry
      obtain ⟨sub, hsub, -⟩ := Option.map_eq_some_iff.mp hlive
      exact ⟨slot, sub, liveEntry_slot hlive, hsub⟩
    · intro slot sub hsub
      obtain ⟨state, hstate⟩ := Subscription.onPublish_shape env hub.maxBufferedLive published sub
      by_cases hover : sub.key.connectionId ∈ overflowed
      · exact .inr (.inl (hresult.closed _ hover))
      · left
        refine ⟨{ sub with state := state }, ?_, rfl⟩
        rw [hresult.subscriptions, hsub, Option.map_some, hstate]
        simp [hover]
    · intro slot _ hnone
      rw [hresult.subscriptions, hnone]
      rfl

theorem stepEffect_historyReady (h : hub.Consistent) (key : SubscriptionKey) (generation highWater : Nat)
    (events : List EventRow) (ends : SubscriptionKey → Prop) :
    StepEffect ends hub (hub.historyReady env key generation highWater events) := by
  obtain hsame | ⟨slot, sub, buffered, ids, hsub, hkey, -, -, heq⟩ :=
    h.historyReady_cases env key generation highWater events
  · rw [hsame]
    exact StepEffect.refl ends hub
  rw [heq]
  generalize liveHighWater_eq : liveHighWater highWater (liveAfter highWater events buffered) = mark
  have hshape := sameShape_setState hsub (.live mark)
  have hmiddle := hshape.consistent h
  have hslot : (hub.setSubscription slot (some { sub with state := .live mark })).subscriptions slot =
      some { sub with state := .live mark } := Function.update_self ..
  have hfirst : StepEffect ends hub (hub.setSubscription slot (some { sub with state := .live mark })) := by
    refine ⟨⟨[], (append_nil _).symm, by simp⟩, ?_, ?_, le_rfl⟩
    · intro other found hfound
      obtain ⟨found', hfound', hsame⟩ := hshape.lookup hfound
      obtain ⟨hkey, hgeneration, hfilters, hreaders, -⟩ := Subscription.shape_eq_iff.mp hsame
      refine .inl ⟨found', hfound', ?_⟩
      simp [Subscription.registration, hkey, hgeneration, hfilters, hreaders]
    · intro other _ hnone
      have hmap := hshape.subscriptions other
      rw [hnone] at hmap
      exact Option.map_eq_none_iff.mp hmap
  have hsent : ∀ {messages : List Outbound}, ∀ entry ∈ messages.map (⟨some slot, ·⟩), ∃ number found,
      Sent.slot entry = some number ∧
        (hub.setSubscription slot (some { sub with state := .live mark })).subscriptions number = some found := by
    intro messages entry hentry
    obtain ⟨message, -, rfl⟩ := mem_map.mp hentry
    exact ⟨slot, _, rfl, hslot⟩
  obtain ⟨hub', hall, hqueued⟩ | ⟨sent, hub', hqueued, hall⟩ :=
    (hub.setSubscription slot (some { sub with state := .live mark })).sendAll_cases env (some slot)
      key.connectionId
      (historyMessages key events ++ .eose key.subscriptionId ::
        liveMessages key (liveAfter highWater events buffered))
  · rw [hall]
    refine hfirst.trans (stepEffect_queued hqueued hsent ends) (fun _ _ hfound => hmiddle.bounded hfound) ?_
    exact fun connectionId hnone => hqueued.closed_iff.mpr hnone
  · rw [hall]
    have hconsistent := hqueued.toSameShape.consistent hmiddle
    have hsecond := hfirst.trans (stepEffect_queued hqueued hsent ends) (fun _ _ hfound => hmiddle.bounded hfound)
      (fun connectionId hnone => hqueued.closed_iff.mpr hnone)
    refine hsecond.trans (stepEffect_closeConnection hconsistent key.connectionId ends) ?_ ?_
    · intro other found hfound
      have hbound := hconsistent.bounded hfound
      rwa [hqueued.nextSlot] at hbound
    · intro connectionId hnone
      rw [hconsistent.closeConnection_connections, hnone, ite_self]

theorem stepEffect_register (h : hub.Consistent) (key : SubscriptionKey) (generation : Nat) (filters : List Filter)
    (readPubkeys : List String) : StepEffect (· = key) hub (hub.register key generation filters readPubkeys) := by
  obtain ⟨-, hsame⟩ | ⟨connection, hopen, heq⟩ := h.register_eq key generation filters readPubkeys
  · rw [hsame]
    exact StepEffect.refl _ hub
  · rw [heq]
    have hremoved := h.removeSubscription key
    have hleft := h.left_removeSubscription key
    refine (stepEffect_removeSubscription h key).trans ?_ ?_ ?_
    · refine ⟨⟨[], (append_nil _).symm, by simp⟩, ?_, ?_, Nat.le_succ _⟩
      · intro slot sub hsub
        refine .inl ⟨sub, ?_, rfl⟩
        rw [insertSubscription_subscriptions, if_neg (hremoved.bounded hsub).ne, hsub]
      · intro slot hslot hnone
        rw [insertSubscription_subscriptions, if_neg hslot.ne, hnone]
    · intro slot sub hsub
      have hbound := hremoved.bounded hsub
      rwa [hleft.nextSlot] at hbound
    · intro connectionId hnone
      unfold insertSubscription
      simp only
      rw [Function.update_of_ne, hnone]
      rintro rfl
      rw [hopen] at hnone
      cases hnone

/-- The actions by which a client ends a generation of a subscription: `CLOSE`, and a new `REQ` under its key. -/
def Action.Ends (action : Action) (key : SubscriptionKey) : Prop :=
  action = .remove key ∨ ∃ registration, action = .register registration ∧ key = registration.key

theorem stepEffect_step (h : w.hub.Consistent) (hstep : w.step env action = some w') :
    StepEffect action.Ends w.hub w'.hub := by
  cases action <;> simp only [World.step, Option.ite_none_right_eq_some, Option.some.injEq] at hstep
  case publish row instant =>
    obtain ⟨-, rfl⟩ := hstep
    exact stepEffect_publish env h _ _ _ _
  case publishEphemeral event instant =>
    obtain ⟨-, rfl⟩ := hstep
    exact stepEffect_publish env h _ _ _ _
  case addConnection connectionId queueCapacity =>
    obtain ⟨hnone, rfl⟩ := hstep
    have hclosed : w.hub.connections connectionId = none := by simpa using hnone
    have hadd : w.hub.addConnection connectionId queueCapacity =
        w.hub.setConnection connectionId (some ⟨OutboundQueue.new queueCapacity, []⟩) := by
      rw [addConnection, closeConnection_of_none hclosed]
    simp only [hadd]
    exact ⟨⟨[], (append_nil _).symm, by simp⟩, fun slot sub hsub => .inl ⟨sub, hsub, rfl⟩, fun _ _ hnone => hnone,
      le_rfl⟩
  case register registration =>
    obtain ⟨-, rfl⟩ := hstep
    have heffect := stepEffect_register h registration.key registration.generation registration.filters
      registration.readPubkeys
    refine ⟨heffect.sent, fun slot sub hsub => ?_, heffect.fresh, heffect.nextSlot⟩
    refine (heffect.kept slot sub hsub).imp_right (Or.imp_right fun hkey => .inr ⟨registration, rfl, hkey⟩)
  case historyReady answer =>
    obtain ⟨-, rfl⟩ := hstep
    exact stepEffect_historyReady env h _ _ _ _ _
  case remove key =>
    subst hstep
    have heffect := stepEffect_removeSubscription h key
    refine ⟨heffect.sent, fun slot sub hsub => ?_, heffect.fresh, heffect.nextSlot⟩
    refine (heffect.kept slot sub hsub).imp_right (Or.imp_right fun hkey => .inl (by rw [hkey]))
  case removeConnection connectionId =>
    subst hstep
    exact stepEffect_closeConnection h connectionId _
  case pop connectionId =>
    subst hstep
    exact stepEffect_queued (popOutbound_queued w.hub connectionId) (by simp) _
  -- the other actions do not reach the hub
  case forget => subst hstep; exact StepEffect.refl _ _
  all_goals
    obtain ⟨-, rfl⟩ := hstep
    exact StepEffect.refl _ _

/-! ## Exactly once -/

/-- What every registered generation has been sent: nothing while its history is read, and then its history, the end
marker, and the live rows above the mark of the history in the order of their numbers. Together they hold every row
that is stored, wanted and not expired, up to the mark or published, and none twice. -/
def World.ExactlyOnce (w : World) : Prop :=
  ∀ slot sub, w.hub.subscriptions slot = some sub →
    match sub.state with
    | .buffering _ _ => messagesFor w.hub.log slot = []
    | .live _ => ∃ (highWater : Nat) (history live : List EventRow),
        messagesFor w.hub.log slot = (history.map fun row => Outbound.history sub.key.subscriptionId row.event) ++
          .eose sub.key.subscriptionId :: (live.map fun row => .event sub.key.subscriptionId row.event false) ∧
        ((history ++ live).map (·.event.id)).Nodup ∧
        (∀ row ∈ history, row ∈ w.committed ∧ sub.wants env row.event = true ∧ row.ingestSeq ≤ highWater) ∧
        (∀ row ∈ live, row ∈ w.published ∧ sub.wants env row.event = true ∧ highWater < row.ingestSeq) ∧
        live.Pairwise (fun row next => row.ingestSeq < next.ingestSeq) ∧
        ∀ row ∈ w.stored, sub.wants env row.event = true → row.event.isExpired w.now = false →
          row.ingestSeq ≤ highWater ∨ row ∈ w.published → row ∈ history ++ live

theorem Inv.exactlyOnce (h : Inv env w) (honce : w.StoredOnce) : w.ExactlyOnce env := by
  intro slot sub hsub
  have hslot := h.slots slot sub hsub
  unfold SlotInv at hslot
  cases hstate : sub.state with
  | buffering buffered ids =>
    rw [hstate] at hslot
    exact hslot.silent
  | live mark =>
    rw [hstate] at hslot
    obtain ⟨highWater, history, live, hd⟩ := hslot
    have hcommitted : ∀ row ∈ history ++ live, row ∈ w.committed := by
      intro row hrow
      rcases mem_append.mp hrow with hin | hin
      · exact (hd.history_sound row hin).1
      · exact h.rows.published row (hd.live_sound row hin).1
    -- history and live rows lie on the two sides of the mark
    have hnodup : (history ++ live).Nodup := by
      refine nodup_append.mpr ⟨hd.history_nodup, ?_, ?_⟩
      · exact hd.live_ordered.imp fun hlt heq => by subst heq; exact lt_irrefl _ hlt
      · rintro row hrow other hother rfl
        have hle := (hd.history_sound row hrow).2.2
        have hlt := (hd.live_sound row hother).2.2
        exact absurd hle (Nat.not_le.mpr hlt)
    refine ⟨highWater, history, live, hd.messages, ?_, hd.history_sound, hd.live_sound, hd.live_ordered, ?_⟩
    · refine hnodup.map_on fun row hrow other hother hid => ?_
      exact honce.inj (hcommitted row hrow) (hcommitted other hother) hid
    · intro row hrow hwants hfresh hdue
      by_cases hle : row.ingestSeq ≤ highWater
      · exact mem_append_left _ (hd.history_complete row hrow hwants hfresh hle)
      · have hpublished := hdue.resolve_left hle
        exact mem_append_right _ (hd.live_complete row hrow hpublished hwants hfresh (Nat.lt_of_not_le hle))

/-- **Exactly-once handoff**, for every run in which each event is stored once. Every registered generation has been
sent what it should, exactly once and in order. Whatever happens next, messages go to registered generations only; a
generation ends by `CLOSE`, by a new `REQ` or with its connection; and its slot stays silent for good. -/
theorem handoff_exactly_once (maxBufferedLive maxOutboundBytes : Nat) (actions : List Action) (w : World)
    (hrun : (World.start maxBufferedLive maxOutboundBytes).run env actions = some w) (honce : w.StoredOnce) :
    w.ExactlyOnce env ∧
      ∀ action w', w.step env action = some w' → StepEffect action.Ends w.hub w'.hub := by
  have hinv := (start_inv env maxBufferedLive maxOutboundBytes).run env honce hrun
  exact ⟨hinv.exactlyOnce env honce, fun action w' hstep => stepEffect_step env hinv.consistent hstep⟩

end Invariant

instance (w : World) : Decidable w.StoredOnce := inferInstanceAs (Decidable (List.Nodup _))

/-- A note published while the history is read, and one after it. -/
theorem handoff_exactly_once_notes :
    let env : HubEnv := ⟨id, fun _ => 1⟩
    let registration : Registration := ⟨⟨7, "s"⟩, 1, [Filter.default], []⟩
    let first : EventRow := ⟨⟨"a", "b", 10, 1, [], "", "c"⟩, 1⟩
    let second : EventRow := ⟨⟨"d", "b", 11, 1, [], "", "c"⟩, 2⟩
    let actions : List Action :=
      [.addConnection 7 8, .register registration, .commit first, .query registration [first], .publish first 0,
        .historyReady ⟨registration, 1, [first], 1⟩, .commit second, .publish second 0]
    ∃ w, (World.start 4 100).run env actions = some w ∧ w.StoredOnce ∧ w.ExactlyOnce env ∧
      messagesFor w.hub.log 0 = [.history "s" first.event, .eose "s", .event "s" second.event false] := by
  intro env registration first second actions
  have hrun : ((World.start 4 100).run env actions).any (fun w => w.StoredOnce ∧
      messagesFor w.hub.log 0 = [.history "s" first.event, .eose "s", .event "s" second.event false]) = true := by
    decide +kernel
  cases hw : (World.start 4 100).run env actions with
  | none =>
    rw [hw] at hrun
    cases hrun
  | some w =>
    rw [hw, Option.any_some, decide_eq_true_eq] at hrun
    obtain ⟨honce, hmessages⟩ := hrun
    exact ⟨w, rfl, honce, (handoff_exactly_once env 4 100 actions w hw honce).1, hmessages⟩

/-- **An event that is stored again can be lost.** A replaceable event is published to a subscription that waits for its
history; a newer version replaces it and is deleted in turn, and the history is read while neither is stored. Then the
first version is submitted again and stored under a new number. The subscription has seen its id, and drops it; what it
buffered under the old number lies below the mark of the history, and is dropped too. -/
theorem restored_event_lost :
    let env : HubEnv := ⟨id, fun _ => 1⟩
    let registration : Registration := ⟨⟨7, "s"⟩, 1, [{ Filter.default with kinds := some [10000] }], []⟩
    let old : Event := ⟨"x", "b", 10, 10000, [], "", "c"⟩
    let new : Event := ⟨"y", "b", 11, 10000, [], "", "c"⟩
    let deletion : Event := ⟨"z", "b", 12, 5, [["e", "y"]], "", "c"⟩
    ((World.start 4 100).run env
      [.addConnection 7 8, .register registration,
        .commit ⟨old, 1⟩, .publish ⟨old, 1⟩ 0,
        .commit ⟨new, 2⟩, .forget ["x"], .publish ⟨new, 2⟩ 0,
        .commit ⟨deletion, 3⟩, .forget ["y"], .publish ⟨deletion, 3⟩ 0,
        .query registration [],
        .commit ⟨old, 4⟩, .publish ⟨old, 4⟩ 0,
        .historyReady ⟨registration, 3, [], 3⟩]).any (fun w =>
      (w.hub.connections 7).isSome ∧
        (w.hub.subscriptions 0).any (fun sub => sub.state = .live 3 ∧ sub.wants env old) ∧
        ⟨old, 4⟩ ∈ w.stored ∧ ⟨old, 4⟩ ∈ w.published ∧ old.isExpired w.now = false ∧
        messagesFor w.hub.log 0 = [.eose "s"]) = true := by
  decide +kernel

end Immortal.Gateway
