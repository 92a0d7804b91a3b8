import Immortal.Gateway.HubMaps

/-!
# `Immortal.Gateway.HubIndex` — the maps of the hub agree, and the index misses nobody

A publication looks only at the subscriptions its index keys lead to. That this is as good as looking at all of them
rests on two things: a filter that matches an event shares a key with it, and the four maps of the hub stay consistent
under every command.

Commands other than `publish` only add or take away whole subscriptions, and each has one lemma that says which ones
are left (`removeSubscription_subscriptions`, `closeConnection_subscriptions`). The loop of `publish` changes nothing
but states and queues (`SameShape`), and `FanTurn` says what some turns of it did: to the states, to the log and to the
list of connections that overflowed.
-/

namespace Immortal.Gateway

open Immortal.Domain Immortal.Store Subscription List

/-! ## Keys of a match -/

variable {event : Event}

theorem mem_eventIndexKeys_tag {name value : String} (h : (name, value) ∈ event.indexedTags) :
    IndexKey.tag name value ∈ eventIndexKeys event := by
  apply mem_append_right
  exact mem_map.mpr ⟨(name, value), h, rfl⟩

variable {lowercase : String → String}

/-- A filter that matches names the event under one of the event's own keys. Any field that is present will do, and
without one the catch-all does. -/
theorem filter_shares_key {filter : Filter} (h : filter.matches lowercase event = true) :
    ∃ key ∈ filterIndexKeys filter, key ∈ eventIndexKeys event := by
  simp only [Filter.matches, Bool.and_eq_true, Filter.listMatches_iff, Filter.tagsMatch_iff] at h
  obtain ⟨⟨⟨⟨⟨⟨hid, hauthor⟩, hkind⟩, -⟩, -⟩, htags⟩, -⟩ := h
  cases hids : filter.ids with
  | some ids =>
    have hmem : event.id ∈ ids := hid ids hids
    exact ⟨.id event.id, by simp [filterIndexKeys, hids, hmem], by simp [eventIndexKeys]⟩
  | none =>
    cases hauthors : filter.authors with
    | some authors =>
      have hmem : event.pubkey ∈ authors := hauthor authors hauthors
      exact ⟨.author event.pubkey, by simp [filterIndexKeys, hauthors, hmem], by simp [eventIndexKeys]⟩
    | none =>
      cases hkinds : filter.kinds with
      | some kinds =>
        have hmem : event.kind ∈ kinds := by simpa [hkinds] using hkind
        exact ⟨.kind event.kind, by simp [filterIndexKeys, hkinds, hmem], by simp [eventIndexKeys]⟩
      | none =>
        cases hentries : filter.tags.entries with
        | nil => exact ⟨.broad, by simp [filterIndexKeys, hids, hauthors, hkinds, hentries], by simp [eventIndexKeys]⟩
        | cons entry rest =>
          obtain ⟨value, hvalue, htag⟩ := htags entry (by simp [hentries])
          refine ⟨.tag entry.1 value, ?_, mem_eventIndexKeys_tag htag⟩
          simp [filterIndexKeys, hentries, hvalue]

theorem subscription_shares_key {filters : List Filter}
    (h : matchesAny lowercase filters event = true) :
    ∃ key ∈ subscriptionIndexKeys filters, key ∈ eventIndexKeys event := by
  obtain ⟨filter, hmem, hmatch⟩ := any_eq_true.mp h
  obtain ⟨key, hkey, hevent⟩ := filter_shares_key hmatch
  exact ⟨key, mem_flatMap.mpr ⟨filter, hmem, hkey⟩, hevent⟩

theorem Subscription.onPublish_shape (env : HubEnv) (maxBufferedLive : Nat) (published : PublishedEvent)
    (sub : Subscription) :
    ∃ state, (sub.onPublish env maxBufferedLive published).1 = { sub with state := state } := by
  unfold onPublish
  split
  · exact ⟨_, rfl⟩
  · exact ⟨sub.state, rfl⟩

variable {sub : Subscription}

namespace Hub

variable (env : HubEnv)

/-! ## The loop of `publish` -/

/-- The log entry of a live delivery to a slot. -/
def liveEntry (hub : Hub) (published : PublishedEvent) (slot : Slot) : Option Sent :=
  (hub.subscriptions slot).map fun sub =>
    ⟨some slot, .event sub.key.subscriptionId published.event published.ephemeral⟩

/-- What the loop goes on to do at a slot. -/
def fanoutAt (hub : Hub) (published : PublishedEvent) (slot : Slot) : Fanout :=
  ((hub.subscriptions slot).map fun sub => (sub.onPublish env hub.maxBufferedLive published).2).getD .nothing

/-- **Some turns of the loop**: each slot is updated once, and a delivery is logged unless its connection is among the
overflowed ones. -/
structure FanTurn (published : PublishedEvent) (slots : List Slot) (before after : Hub × List ConnectionId) :
    Prop where
  shape : SameShape before.1 after.1
  states : ∀ slot, after.1.subscriptions slot =
    if slot ∈ slots then
      (before.1.subscriptions slot).map fun sub => (sub.onPublish env before.1.maxBufferedLive published).1
    else before.1.subscriptions slot
  grows : ∀ connectionId ∈ before.2, connectionId ∈ after.2
  sent : ∃ reached : List Slot, reached.Sublist slots ∧
    after.1.log = before.1.log ++ reached.filterMap (before.1.liveEntry published) ∧
    (∀ slot ∈ reached, before.1.fanoutAt env published slot = .deliver) ∧
    ∀ slot ∈ slots, ∀ sub, before.1.subscriptions slot = some sub →
      before.1.fanoutAt env published slot = .deliver →
      slot ∈ reached ∨ sub.key.connectionId ∈ after.2 ∨ before.1.connections sub.key.connectionId = none
  overflow : ∀ slot ∈ slots, ∀ sub, before.1.subscriptions slot = some sub →
    before.1.fanoutAt env published slot = .overflow → sub.key.connectionId ∈ after.2

theorem FanTurn.refl (published : PublishedEvent) (acc : Hub × List ConnectionId) :
    FanTurn env published [] acc acc where
  shape := SameShape.refl _
  states := by simp
  grows _ h := h
  sent := ⟨[], by simp⟩
  overflow := by simp

variable {hub : Hub} {published : PublishedEvent} {slot : Slot}

theorem FanTurn.cons {rest : List Slot} {before middle after : Hub × List ConnectionId} (hfresh : slot ∉ rest)
    (h : FanTurn env published [slot] before middle) (h' : FanTurn env published rest middle after) :
    FanTurn env published (slot :: rest) before after := by
  -- the first turn leaves the subscriptions of the later slots as they are
  have hsame : ∀ other ∈ rest, middle.1.subscriptions other = before.1.subscriptions other := by
    intro other hother
    have hne : other ≠ slot := fun heq => hfresh (heq ▸ hother)
    simp [h.states, hne]
  have hfanout : ∀ other ∈ rest, middle.1.fanoutAt env published other = before.1.fanoutAt env published other := by
    intro other hother
    simp [fanoutAt, hsame other hother, h.shape.maxBufferedLive]
  refine ⟨h.shape.trans h'.shape, ?_, fun c hc => h'.grows c (h.grows c hc), ?_, ?_⟩
  · intro other
    rw [h'.states, h.shape.maxBufferedLive]
    by_cases hrest : other ∈ rest
    · simp [hrest, hsame other hrest]
    · simp [hrest, h.states]
  · obtain ⟨reached, hsub, hlog, hdeliver, hall⟩ := h.sent
    obtain ⟨reached', hsub', hlog', hdeliver', hall'⟩ := h'.sent
    have hentries : reached'.filterMap (middle.1.liveEntry published) =
        reached'.filterMap (before.1.liveEntry published) := by
      refine filterMap_congr fun other hother => ?_
      simp [liveEntry, hsame other (hsub'.subset hother)]
    refine ⟨reached ++ reached', hsub.append hsub', ?_, ?_, ?_⟩
    · rw [hlog', hlog, hentries, filterMap_append, append_assoc]
    · intro other hother
      rcases mem_append.mp hother with hin | hin
      · exact hdeliver other hin
      · rw [← hfanout other (hsub'.subset hin)]
        exact hdeliver' other hin
    · intro other hother sub hfound hgoes
      rcases mem_cons.mp hother with rfl | hrest
      · rcases hall other (by simp) sub hfound hgoes with hin | hin | hin
        · exact .inl (mem_append_left _ hin)
        · exact .inr (.inl (h'.grows _ hin))
        · exact .inr (.inr hin)
      · rcases hall' other hrest sub ((hsame other hrest).trans hfound) ((hfanout other hrest).trans hgoes) with
          hin | hin | hin
        · exact .inl (mem_append_right _ hin)
        · exact .inr (.inl hin)
        · exact .inr (.inr (h.shape.closed_iff.mp hin))
  · intro other hother sub hfound hgoes
    rcases mem_cons.mp hother with rfl | hrest
    · exact h'.grows _ (h.overflow other (by simp) sub hfound hgoes)
    · exact h'.overflow other hrest sub ((hsame other hrest).trans hfound) ((hfanout other hrest).trans hgoes)

/-- `deliver` logs its message, marks the connection, or finds none. -/
theorem deliver_cases (hub : Hub) (overflowed : List ConnectionId) (slot : Slot) (connectionId : ConnectionId)
    (message : Outbound) :
    (∃ hub', hub.deliver env overflowed slot connectionId message = (hub', overflowed) ∧
        Queued [⟨some slot, message⟩] hub hub') ∨
      hub.deliver env overflowed slot connectionId message = (hub, connectionId :: overflowed) ∨
      (hub.connections connectionId = none ∧
        hub.deliver env overflowed slot connectionId message = (hub, overflowed)) := by
  unfold deliver
  split
  · rename_i hnone
    exact .inr (.inr ⟨by simpa using hnone, rfl⟩)
  · split
    · exact .inr (.inl rfl)
    · cases hoffer : hub.offer (some slot) connectionId message with
      | some hub' => exact .inl ⟨hub', rfl, offer_queued hoffer⟩
      | none => exact .inr (.inl rfl)

/-- **One turn of the loop.** -/
theorem publishTo_turn (published : PublishedEvent) (acc : Hub × List ConnectionId) (slot : Slot) :
    FanTurn env published [slot] acc (publishTo env published acc slot) := by
  obtain ⟨hub, overflowed⟩ := acc
  cases hsub : hub.subscriptions slot with
  | none =>
    have heq : publishTo env published (hub, overflowed) slot = (hub, overflowed) := by simp [publishTo, hsub]
    rw [heq]
    refine ⟨SameShape.refl _, ?_, fun _ h => h, ⟨[], by simp [hsub]⟩, by simp [hsub]⟩
    intro other
    by_cases hother : other = slot <;> simp [hother, hsub]
  | some sub =>
    have hfanout : hub.fanoutAt env published slot = (sub.onPublish env hub.maxBufferedLive published).2 := by
      simp [fanoutAt, hsub]
    obtain ⟨state, hstate⟩ := onPublish_shape env hub.maxBufferedLive published sub
    have hshape : SameShape hub (hub.setSubscription slot
        (some (sub.onPublish env hub.maxBufferedLive published).1)) := by
      rw [hstate]
      exact sameShape_setState hsub state
    have hstates : ∀ other, (hub.setSubscription slot
        (some (sub.onPublish env hub.maxBufferedLive published).1)).subscriptions other =
        if other ∈ [slot] then (hub.subscriptions other).map fun sub =>
          (sub.onPublish env hub.maxBufferedLive published).1 else hub.subscriptions other := by
      intro other
      by_cases hother : other = slot
      · simp [setSubscription, hother, hsub]
      · simp [setSubscription, hother]
    cases hgoes : (sub.onPublish env hub.maxBufferedLive published).2 with
    | nothing =>
      simp only [publishTo, hsub, hgoes]
      refine ⟨hshape, hstates, fun _ h => h, ⟨[], ?_⟩, ?_⟩ <;>
        simp [hfanout, hgoes, setSubscription]
    | overflow =>
      simp only [publishTo, hsub, hgoes]
      refine ⟨hshape, hstates, fun _ h => .tail _ h, ⟨[], ?_⟩, ?_⟩ <;>
        simp [setSubscription, hsub]
    | deliver =>
      simp only [publishTo, hsub, hgoes]
      split
      · rename_i hmarked
        refine ⟨hshape, hstates, fun _ h => h, ⟨[], ?_⟩, ?_⟩ <;>
          simp [setSubscription, hsub, hmarked]
      · obtain ⟨hub', heq, hqueued⟩ | heq | ⟨hnone, heq⟩ :=
          (hub.setSubscription slot (some (sub.onPublish env hub.maxBufferedLive published).1)).deliver_cases
            env overflowed slot sub.key.connectionId
            (.event sub.key.subscriptionId published.event published.ephemeral)
        · rw [heq]
          refine ⟨hshape.trans hqueued.toSameShape, fun other => ?_, fun _ h => h, ⟨[slot], ?_⟩, ?_⟩
          · simp only [hqueued.states, hstates]
          · simp [hqueued.log, setSubscription, liveEntry, hsub, hfanout, hgoes]
          · simp [hfanout, hgoes]
        · rw [heq]
          refine ⟨hshape, hstates, fun _ h => .tail _ h, ⟨[], ?_⟩, ?_⟩ <;>
            simp [setSubscription, hsub]
        · rw [heq]
          refine ⟨hshape, hstates, fun _ h => h, ⟨[], ?_⟩, ?_⟩ <;>
            simp [hfanout, hgoes, setSubscription, hsub]
          exact .inr hnone

/-- **The whole loop**, by induction over the slots. -/
theorem fanTurn_foldl (published : PublishedEvent) {slots : List Slot} (hnodup : slots.Nodup)
    (acc : Hub × List ConnectionId) : FanTurn env published slots acc (slots.foldl (publishTo env published) acc) := by
  induction slots generalizing acc with
  | nil => exact FanTurn.refl env published acc
  | cons slot rest ih =>
    obtain ⟨hfresh, hrest⟩ := nodup_cons.mp hnodup
    exact FanTurn.cons env hfresh (publishTo_turn env published acc slot) (ih hrest _)

/-! ## A whole publication -/

theorem candidates_nodup (hub : Hub) (event : Event) : (hub.candidates event).Nodup := by
  rw [candidates, (perm_insertionSort _ _).nodup_iff]
  exact nodup_dedup _

theorem mem_candidates :
    slot ∈ hub.candidates event ↔ ∃ key ∈ eventIndexKeys event, slot ∈ hub.index key := by
  rw [candidates, (perm_insertionSort _ _).mem_iff, mem_dedup, mem_flatMap]

theorem onPublish_of_not_wants {maxBufferedLive : Nat}
    (h : sub.wants env published.event = false) : sub.onPublish env maxBufferedLive published = (sub, .nothing) := by
  simp [onPublish, h]

/-- A subscription outside the candidates does not want the event. -/
theorem Consistent.wants_of_not_candidate (h : hub.Consistent)
    (hsub : hub.subscriptions slot = some sub) (hnot : slot ∉ hub.candidates event) : sub.wants env event = false := by
  by_contra hwants
  rw [Bool.not_eq_false, wants, Bool.and_eq_true] at hwants
  obtain ⟨key, hkey, hevent⟩ := subscription_shares_key hwants.1
  refine hnot (mem_candidates.mpr ⟨key, hevent, ?_⟩)
  exact h.indexed.mpr ⟨sub, hsub, by rwa [h.keys hsub]⟩

/-- **What a publication does** once it has passed the gate. Every subscription is updated, the ones of overflowed
connections go, and each delivery that is due is logged once unless its connection overflowed. -/
structure FanResult (published : PublishedEvent) (overflowed : List ConnectionId) (reached : List Slot)
    (hub hub' : Hub) : Prop where
  consistent : hub'.Consistent
  subscriptions : ∀ slot, hub'.subscriptions slot =
    ((hub.subscriptions slot).map fun sub => (sub.onPublish env hub.maxBufferedLive published).1).filter
      fun sub => !(sub.key.connectionId ∈ overflowed : Bool)
  nextSlot : hub'.nextSlot = hub.nextSlot
  maxBufferedLive : hub'.maxBufferedLive = hub.maxBufferedLive
  closed : ∀ connectionId ∈ overflowed, hub'.connections connectionId = none
  nodup : reached.Nodup
  log : hub'.log = hub.log ++ reached.filterMap (hub.liveEntry published)
  due : ∀ slot ∈ reached, hub.fanoutAt env published slot = .deliver
  all : ∀ slot sub, hub.subscriptions slot = some sub → hub.fanoutAt env published slot = .deliver →
    slot ∈ reached ∨ sub.key.connectionId ∈ overflowed
  overflow : ∀ slot sub, hub.subscriptions slot = some sub → hub.fanoutAt env published slot = .overflow →
    sub.key.connectionId ∈ overflowed

theorem Consistent.fanOut_result (h : hub.Consistent) (published : PublishedEvent) :
    ∃ overflowed reached, FanResult env published overflowed reached hub
      (hub.fanOut env published (hub.candidates published.event)) := by
  have hturn := fanTurn_foldl env published (hub.candidates_nodup published.event) (hub, [])
  unfold fanOut
  generalize (hub.candidates published.event).foldl (publishTo env published) (hub, []) = result at hturn
  obtain ⟨middle, overflowed⟩ := result
  have hmiddle : middle.Consistent := hturn.shape.consistent h
  obtain ⟨hconsistent, hleft, hclosed⟩ := hmiddle.closeAll overflowed
  obtain ⟨reached, hsub, hlog, hdue, hall⟩ := hturn.sent
  -- at the other slots the event is not wanted, and nothing would happen there either
  have hother : ∀ {slot sub}, hub.subscriptions slot = some sub → slot ∉ hub.candidates published.event →
      sub.onPublish env hub.maxBufferedLive published = (sub, .nothing) := fun hfound hnot =>
    onPublish_of_not_wants env (h.wants_of_not_candidate env hfound hnot)
  have hcandidate : ∀ {slot sub}, hub.subscriptions slot = some sub →
      hub.fanoutAt env published slot ≠ .nothing → slot ∈ hub.candidates published.event := by
    intro slot sub hfound hgoes
    by_contra hnot
    exact hgoes (by simp [fanoutAt, hfound, hother hfound hnot])
  refine ⟨overflowed, reached, hconsistent, ?_, ?_, ?_, ?_, ?_, ?_, hdue, ?_, ?_⟩
  · intro slot
    rw [hleft.subscriptions, hturn.states]
    split
    · rfl
    · rename_i hnot
      cases hfound : hub.subscriptions slot with
      | none => rfl
      | some sub => simp [hother hfound hnot]
  · exact hleft.nextSlot.trans hturn.shape.nextSlot
  · exact hleft.maxBufferedLive.trans hturn.shape.maxBufferedLive
  · intro connectionId hmem
    rw [hclosed, if_pos hmem]
  · exact hsub.nodup (hub.candidates_nodup published.event)
  · rw [hleft.log, hlog]
  · intro slot sub hfound hgoes
    have hslot := hcandidate hfound (by rw [hgoes]; exact Fanout.noConfusion)
    rcases hall slot hslot sub hfound hgoes with hin | hin | hnone
    · exact .inl hin
    · exact .inr hin
    · obtain ⟨connection, hopen, -⟩ := h.connected hfound
      rw [hopen] at hnone
      cases hnone
  · intro slot sub hfound hgoes
    have hslot := hcandidate hfound (by rw [hgoes]; exact Fanout.noConfusion)
    exact hturn.overflow slot hslot sub hfound hgoes

theorem passesGate_queued (hub : Hub) (published : PublishedEvent) (now instant : Nat) :
    Queued [] hub (hub.passesGate published now instant).1 := by
  have hrecent : ∀ recent, Queued [] hub { hub with recentEphemeral := recent } := fun recent =>
    ⟨⟨fun _ => rfl, rfl, rfl, rfl, rfl, rfl, fun _ => rfl⟩, rfl, by simp⟩
  unfold passesGate
  split
  · exact Queued.refl hub
  · split
    · simp only [acceptEphemeralId]
      split
      · exact hrecent _
      · exact hrecent _
    · exact Queued.refl hub

/-- **A publication** stops at the gate, or fans out. -/
theorem Consistent.publish_cases (h : hub.Consistent) (published : PublishedEvent) (now instant : Nat) :
    ((hub.passesGate published now instant).2 = false ∧ Queued [] hub (hub.publish env published now instant)) ∨
      ((hub.passesGate published now instant).2 = true ∧
        ∃ overflowed reached, FanResult env published overflowed reached hub
          (hub.publish env published now instant)) := by
  have hqueued := hub.passesGate_queued published now instant
  unfold publish
  cases hgate : hub.passesGate published now instant with
  | mk hub₁ passed =>
    replace hqueued : Queued [] hub hub₁ := by rwa [hgate] at hqueued
    cases passed with
    | false => exact .inl ⟨rfl, hqueued⟩
    | true =>
      obtain ⟨overflowed, reached, hresult⟩ := (hqueued.toSameShape.consistent h).fanOut_result env published
      -- the gate only touches the list of recent ids
      have hentry : hub₁.liveEntry published = hub.liveEntry published := by
        funext slot
        simp [liveEntry, hqueued.states]
      have hfanout : hub₁.fanoutAt env published = hub.fanoutAt env published := by
        funext slot
        simp [fanoutAt, hqueued.states, hqueued.maxBufferedLive]
      refine .inr ⟨rfl, overflowed, reached, hresult.consistent, fun slot => ?_, ?_, ?_, hresult.closed,
        hresult.nodup, ?_, ?_, ?_, ?_⟩
      · rw [hresult.subscriptions, hqueued.states, hqueued.maxBufferedLive]
      · exact hresult.nextSlot.trans hqueued.nextSlot
      · exact hresult.maxBufferedLive.trans hqueued.maxBufferedLive
      · rw [hresult.log, hqueued.log, hentry, append_nil]
      · intro slot hslot
        rw [← hfanout]
        exact hresult.due slot hslot
      · intro slot sub hsub hgoes
        exact hresult.all slot sub (by rwa [hqueued.states]) (by rwa [hfanout])
      · intro slot sub hsub hgoes
        exact hresult.overflow slot sub (by rwa [hqueued.states]) (by rwa [hfanout])

theorem Consistent.publish (h : hub.Consistent) (published : PublishedEvent) (now instant : Nat) :
    (hub.publish env published now instant).Consistent := by
  obtain ⟨-, hqueued⟩ | ⟨-, overflowed, reached, hresult⟩ := h.publish_cases env published now instant
  · exact hqueued.toSameShape.consistent h
  · exact hresult.consistent

/-! ## Every sequence of commands -/

theorem Consistent.handle (h : hub.Consistent) (command : HubCommand) : (hub.handle env command).Consistent := by
  cases command with
  | addConnection connectionId queueCapacity => exact h.addConnection connectionId queueCapacity
  | register key generation filters readPubkeys => exact h.register key generation filters readPubkeys
  | historyReady key generation highWater events => exact h.historyReady env key generation highWater events
  | remove key => exact h.removeSubscription key
  | closeSubscription key message => exact h.closeSubscription env key message
  | removeConnection connectionId => exact h.closeConnection connectionId
  | publish published now instant => exact h.publish env published now instant
  | pop connectionId => exact (popOutbound_queued hub connectionId).toSameShape.consistent h

variable {acc : Hub × List ConnectionId}

end Hub

end Immortal.Gateway
