import Immortal.Gateway.Hub

/-!
# `Immortal.Gateway.HubMaps` — the maps of the hub agree

The four maps of the hub refer to each other, and every command has to keep them in step. Commands other than
`publish` only add or take away whole subscriptions, and each has one lemma that says which ones are left (`Left`).
Sending changes nothing but queues and the log (`Queued`), until a refusal closes the connection.
-/

namespace Immortal.Gateway

open Immortal.Domain Immortal.Store Function Option

/-! ## Subscriptions up to their state -/

/-- A subscription with its state masked. -/
def Subscription.shape (sub : Subscription) : Subscription := { sub with state := .live 0 }

theorem Subscription.shape_eq_iff {sub other : Subscription} :
    sub.shape = other.shape ↔ sub.key = other.key ∧ sub.generation = other.generation ∧
      sub.filters = other.filters ∧ sub.readPubkeys = other.readPubkeys ∧ sub.indexKeys = other.indexKeys := by
  simp [Subscription.shape]

namespace Hub

/-! ## The invariant of the maps -/

/-- Subscriptions, slots and index refer to each other. -/
structure Linked (hub : Hub) : Prop where
  slot_key : ∀ {key slot}, hub.slots key = some slot → ∃ sub, hub.subscriptions slot = some sub ∧ sub.key = key
  key_slot : ∀ {slot sub}, hub.subscriptions slot = some sub → hub.slots sub.key = some slot
  bounded : ∀ {slot sub}, hub.subscriptions slot = some sub → slot < hub.nextSlot
  indexed : ∀ {indexKey slot},
    slot ∈ hub.index indexKey ↔ ∃ sub, hub.subscriptions slot = some sub ∧ indexKey ∈ sub.indexKeys
  keys : ∀ {slot sub}, hub.subscriptions slot = some sub → sub.indexKeys = subscriptionIndexKeys sub.filters

/-- Besides, the connection of every subscription is open and lists it. -/
structure Consistent (hub : Hub) : Prop extends hub.Linked where
  connected : ∀ {slot sub}, hub.subscriptions slot = some sub →
    ∃ connection, hub.connections sub.key.connectionId = some connection ∧
      sub.key.subscriptionId ∈ connection.subscriptions

theorem start_consistent (maxBufferedLive maxOutboundBytes : Nat) :
    (start maxBufferedLive maxOutboundBytes).Consistent where
  slot_key h := by simp [start] at h
  key_slot h := by simp [start] at h
  bounded h := by simp [start] at h
  indexed := by simp [start]
  keys h := by simp [start] at h
  connected h := by simp [start] at h

variable {slot : Slot}

/-- A slot has one subscription, and so has a key. -/
theorem Linked.slot_inj {hub : Hub} (h : hub.Linked) {other : Slot} {sub otherSub : Subscription}
    (hslot : hub.subscriptions slot = some sub) (hother : hub.subscriptions other = some otherSub)
    (hkey : sub.key = otherSub.key) : slot = other := by
  have hboth : some slot = some other := by rw [← h.key_slot hslot, ← h.key_slot hother, hkey]
  exact some.inj hboth

/-! ### What removal leaves alone -/

section Removal

variable (hub : Hub) (key : SubscriptionKey)

theorem unlist_kept : (hub.unlist key).nextSlot = hub.nextSlot ∧ (hub.unlist key).log = hub.log ∧
    (hub.unlist key).maxBufferedLive = hub.maxBufferedLive ∧
    (hub.unlist key).maxOutboundBytes = hub.maxOutboundBytes := by
  unfold unlist
  split <;> exact ⟨rfl, rfl, rfl, rfl⟩

theorem unlist_connections (connectionId : ConnectionId) :
    (hub.unlist key).connections connectionId = (hub.connections connectionId).map fun connection =>
      if connectionId = key.connectionId then
        { connection with subscriptions := connection.subscriptions.filter (· ≠ key.subscriptionId) }
      else connection := by
  unfold unlist
  by_cases hid : connectionId = key.connectionId
  · subst hid
    cases hconnection : hub.connections key.connectionId <;> simp [setConnection, hconnection]
  · cases hconnection : hub.connections key.connectionId <;>
      cases hother : hub.connections connectionId <;> simp [setConnection, hid, hother]

end Removal

variable {connectionId : ConnectionId} {hub hub' : Hub} {sub : Subscription} {keep : Subscription → Bool}
  {key : SubscriptionKey}

/-- **Removal**, spelled out: with nothing under the key the hub is as before, and otherwise the subscription goes from
every map. -/
theorem Linked.removeSubscription_eq (h : hub.Linked) (key : SubscriptionKey) :
    (hub.slots key = none ∧ hub.removeSubscription key = hub) ∨
      ∃ slot sub, hub.slots key = some slot ∧ hub.subscriptions slot = some sub ∧ sub.key = key ∧
        hub.removeSubscription key =
          { (hub.unlist key) with
            slots := update hub.slots key none
            subscriptions := update hub.subscriptions slot none
            index := fun indexKey =>
              if indexKey ∈ sub.indexKeys then (hub.index indexKey).filter (· ≠ slot) else hub.index indexKey } := by
  cases hslot : hub.slots key with
  | none =>
    left
    exact ⟨rfl, by simp [removeSubscription, hslot]⟩
  | some slot =>
    right
    obtain ⟨sub, hsub, hkey⟩ := h.slot_key hslot
    refine ⟨slot, sub, rfl, hsub, hkey, ?_⟩
    cases hconnection : hub.connections key.connectionId <;>
      simp [removeSubscription, hslot, hsub, setSubscription, unlist, hconnection, setConnection]

/-- A hub with only some of the subscriptions of another. -/
structure Left (keep : Subscription → Bool) (hub hub' : Hub) : Prop where
  subscriptions : ∀ slot, hub'.subscriptions slot = (hub.subscriptions slot).filter keep
  nextSlot : hub'.nextSlot = hub.nextSlot
  log : hub'.log = hub.log
  maxBufferedLive : hub'.maxBufferedLive = hub.maxBufferedLive
  maxOutboundBytes : hub'.maxOutboundBytes = hub.maxOutboundBytes

theorem Left.refl (hub : Hub) : Left (fun _ => true) hub hub where
  subscriptions slot := by cases hub.subscriptions slot <;> rfl
  nextSlot := rfl
  log := rfl
  maxBufferedLive := rfl
  maxOutboundBytes := rfl

variable {keep' : Subscription → Bool}

theorem Left.trans {hub'' : Hub} (h : Left keep hub hub') (h' : Left keep' hub' hub'') :
    Left (fun sub => keep sub && keep' sub) hub hub'' where
  subscriptions slot := by
    rw [h'.subscriptions, h.subscriptions, filter_filter]
  nextSlot := h'.nextSlot.trans h.nextSlot
  log := h'.log.trans h.log
  maxBufferedLive := h'.maxBufferedLive.trans h.maxBufferedLive
  maxOutboundBytes := h'.maxOutboundBytes.trans h.maxOutboundBytes

theorem Left.mono (h : Left keep hub hub')
    (hsame : ∀ slot sub, hub.subscriptions slot = some sub → keep sub = keep' sub) : Left keep' hub hub' where
  __ := h
  subscriptions slot := by
    rw [h.subscriptions]
    cases hsub : hub.subscriptions slot with
    | none => rfl
    | some sub => rw [filter_some, filter_some, hsame slot sub hsub]

theorem Left.mem (h : Left keep hub hub') :
    hub'.subscriptions slot = some sub ↔ hub.subscriptions slot = some sub ∧ keep sub := by
  rw [h.subscriptions, filter_eq_some_iff]

theorem Linked.left_removeSubscription (h : hub.Linked) (key : SubscriptionKey) :
    Left (fun sub => sub.key ≠ key) hub (hub.removeSubscription key) := by
  obtain ⟨hnone, hsame⟩ | ⟨removed, sub, -, hsub, hkey, heq⟩ := h.removeSubscription_eq key
  · rw [hsame]
    refine ⟨fun slot => ?_, rfl, rfl, rfl, rfl⟩
    cases hsub : hub.subscriptions slot with
    | none => rfl
    | some sub =>
      have hne : sub.key ≠ key := by
        rintro rfl
        simp [h.key_slot hsub] at hnone
      simp [filter_some, hne]
  · rw [heq]
    obtain ⟨hnext, hlog, hbuffered, hbytes⟩ := unlist_kept hub key
    refine ⟨fun slot => ?_, hnext, hlog, hbuffered, hbytes⟩
    by_cases hslot : slot = removed
    · subst hslot
      simp [hsub, hkey, filter_some]
    · cases hother : hub.subscriptions slot with
      | none => simp [update_of_ne hslot, hother]
      | some other =>
        have hne : other.key ≠ key := fun heq => hslot (h.slot_inj hother hsub (heq.trans hkey.symm))
        simp [update_of_ne hslot, hother, hne, filter_some]

theorem Linked.removeSubscription_slots (h : hub.Linked) (key : SubscriptionKey) :
    (hub.removeSubscription key).slots = update hub.slots key none := by
  obtain ⟨hnone, hsame⟩ | ⟨_, _, -, -, -, heq⟩ := h.removeSubscription_eq key
  · rw [hsame, ← hnone, update_eq_self]
  · rw [heq]

theorem Linked.removeSubscription_connections (h : hub.Linked) (key : SubscriptionKey) (connectionId : ConnectionId) :
    (hub.removeSubscription key).connections connectionId = hub.connections connectionId ∨
      (hub.removeSubscription key).connections connectionId = (hub.unlist key).connections connectionId := by
  obtain ⟨-, hsame⟩ | ⟨_, _, -, -, -, heq⟩ := h.removeSubscription_eq key
  · exact .inl (by rw [hsame])
  · exact .inr (by rw [heq])

theorem Linked.removeSubscription_index (h : hub.Linked) (key : SubscriptionKey) (indexKey : IndexKey) (slot : Slot) :
    slot ∈ (hub.removeSubscription key).index indexKey ↔
      slot ∈ hub.index indexKey ∧ hub.slots key ≠ some slot := by
  obtain ⟨hnone, hsame⟩ | ⟨removed, sub, hslot, hsub, hkey, heq⟩ := h.removeSubscription_eq key
  · simp [hsame, hnone]
  · rw [heq]
    show slot ∈ (if indexKey ∈ sub.indexKeys then _ else _) ↔ _
    split
    · have hne : removed ≠ slot ↔ slot ≠ removed := ne_comm
      simp [hslot, hne]
    · rename_i hnot
      -- a slot of this bucket cannot be the removed one, whose keys do not lead here
      have hne : slot ∈ hub.index indexKey → hub.slots key ≠ some slot := by
        intro hmem heqslot
        obtain ⟨other, hother, hin⟩ := h.indexed.mp hmem
        rw [hslot] at heqslot
        obtain rfl : removed = slot := some.inj heqslot
        rw [hsub] at hother
        obtain rfl : sub = other := some.inj hother
        exact hnot hin
      exact ⟨fun hmem => ⟨hmem, hne hmem⟩, And.left⟩

theorem Linked.removeSubscription (h : hub.Linked) (key : SubscriptionKey) :
    (hub.removeSubscription key).Linked where
  slot_key := by
    intro other slot hslot
    rw [h.removeSubscription_slots] at hslot
    have hne : other ≠ key := by
      rintro rfl
      simp at hslot
    rw [update_of_ne hne] at hslot
    obtain ⟨sub, hsub, rfl⟩ := h.slot_key hslot
    exact ⟨sub, (h.left_removeSubscription key).mem.mpr ⟨hsub, by simpa using hne⟩, rfl⟩
  key_slot := by
    intro slot sub hleft
    obtain ⟨hsub, hkey⟩ := (h.left_removeSubscription key).mem.mp hleft
    rw [h.removeSubscription_slots, update_of_ne (by simpa using hkey)]
    exact h.key_slot hsub
  bounded := by
    intro slot sub hleft
    obtain ⟨hsub, -⟩ := (h.left_removeSubscription key).mem.mp hleft
    rw [(h.left_removeSubscription key).nextSlot]
    exact h.bounded hsub
  indexed := by
    intro indexKey slot
    simp only [h.removeSubscription_index, h.indexed, (h.left_removeSubscription key).mem]
    constructor
    · rintro ⟨⟨sub, hsub, hin⟩, hne⟩
      refine ⟨sub, ⟨hsub, ?_⟩, hin⟩
      have : sub.key ≠ key := by
        rintro rfl
        exact hne (h.key_slot hsub)
      simpa using this
    · rintro ⟨sub, ⟨hsub, hkey⟩, hin⟩
      refine ⟨⟨sub, hsub, hin⟩, ?_⟩
      intro hslot
      obtain ⟨other, hother, rfl⟩ := h.slot_key hslot
      rw [hsub] at hother
      obtain rfl : sub = other := some.inj hother
      simp at hkey
  keys := by
    intro slot sub hleft
    exact h.keys ((h.left_removeSubscription key).mem.mp hleft).1

theorem Linked.removeSubscription_elsewhere (h : hub.Linked) (hother : connectionId ≠ key.connectionId) :
    (hub.removeSubscription key).connections connectionId = hub.connections connectionId := by
  obtain hsame | hunlisted := h.removeSubscription_connections key connectionId
  · exact hsame
  · rw [hunlisted, unlist_connections]
    simp [hother]

theorem Linked.removeSubscription_closed (h : hub.Linked) (hclosed : hub.connections connectionId = none) :
    (hub.removeSubscription key).connections connectionId = none := by
  obtain hsame | hunlisted := h.removeSubscription_connections key connectionId
  · rw [hsame, hclosed]
  · rw [hunlisted, unlist_connections, hclosed]
    rfl

theorem Consistent.removeSubscription (h : hub.Consistent) (key : SubscriptionKey) :
    (hub.removeSubscription key).Consistent where
  toLinked := h.toLinked.removeSubscription key
  connected := by
    intro slot sub hleft
    obtain ⟨hsub, hkey⟩ := (h.left_removeSubscription key).mem.mp hleft
    obtain ⟨connection, hconnection, hlisted⟩ := h.connected hsub
    obtain hsame | hunlisted := h.removeSubscription_connections key sub.key.connectionId
    · exact ⟨connection, hsame.trans hconnection, hlisted⟩
    · rw [hunlisted, unlist_connections, hconnection]
      refine ⟨_, rfl, ?_⟩
      split
      · rename_i hid
        refine List.mem_filter.mpr ⟨hlisted, ?_⟩
        -- two keys of one connection differ in the subscription id
        have hne : sub.key.subscriptionId ≠ key.subscriptionId := by
          intro hsame
          have heq : sub.key = key := SubscriptionKey.ext_iff.mpr ⟨hid, hsame⟩
          simp [heq] at hkey
        simpa using hne
      · exact hlisted

/-! ### Closing a connection -/

theorem Linked.setConnection (h : hub.Linked) (connectionId : ConnectionId) (connection : Option ConnectionSink) :
    (hub.setConnection connectionId connection).Linked where
  __ := h

/-- What a loop of removals over the subscriptions of one connection leaves. -/
theorem Linked.removeAll (subscriptionIds : List String) (h : hub.Linked)
    (hclosed : hub.connections connectionId = none) :
    let hub' := subscriptionIds.foldl (fun hub id => hub.removeSubscription ⟨connectionId, id⟩) hub
    hub'.Linked ∧ (∀ other, hub'.connections other = hub.connections other) ∧
      Left (fun sub => !(sub.key.connectionId = connectionId ∧ sub.key.subscriptionId ∈ subscriptionIds : Bool))
        hub hub' := by
  induction subscriptionIds generalizing hub with
  | nil => exact ⟨h, fun _ => rfl, (Left.refl hub).mono (by simp)⟩
  | cons id rest ih =>
    have hfirst : ∀ other, (hub.removeSubscription ⟨connectionId, id⟩).connections other = hub.connections other := by
      intro other
      by_cases heq : other = connectionId
      · rw [heq, hclosed, h.removeSubscription_closed hclosed]
      · exact h.removeSubscription_elsewhere heq
    obtain ⟨hlinked, hconnections, hleft⟩ := ih (h.removeSubscription ⟨connectionId, id⟩) ((hfirst _).trans hclosed)
    refine ⟨hlinked, fun other => (hconnections other).trans (hfirst other), ?_⟩
    refine ((h.left_removeSubscription ⟨connectionId, id⟩).trans hleft).mono fun slot sub _ => ?_
    by_cases hid : sub.key.connectionId = connectionId
    · simp [SubscriptionKey.ext_iff, hid]
    · simp [SubscriptionKey.ext_iff, hid]

theorem closeConnection_of_none (h : hub.connections connectionId = none) : hub.closeConnection connectionId = hub := by
  simp [closeConnection, h]

theorem Linked.closeConnection_spec (h : hub.Linked) (connectionId : ConnectionId) :
    (hub.closeConnection connectionId).Linked ∧
      (∀ other, (hub.closeConnection connectionId).connections other =
        if other = connectionId then none else hub.connections other) ∧
      Left (fun sub => !(sub.key.connectionId = connectionId ∧
        ∃ connection ∈ hub.connections connectionId, sub.key.subscriptionId ∈ connection.subscriptions : Bool))
        hub (hub.closeConnection connectionId) := by
  cases hconnection : hub.connections connectionId with
  | none =>
    rw [closeConnection_of_none hconnection]
    refine ⟨h, fun other => ?_, (Left.refl hub).mono (by simp)⟩
    split
    · rename_i heq
      rw [heq, hconnection]
    · rfl
  | some connection =>
    obtain ⟨hlinked, hconnections, hleft⟩ := (h.setConnection connectionId none).removeAll connection.subscriptions
      (update_self ..)
    rw [Hub.closeConnection, hconnection]
    refine ⟨hlinked, fun other => (hconnections other).trans ?_, ?_⟩
    · simp [Hub.setConnection, update_apply]
    · have hall : Left _ hub _ :=
        ⟨hleft.subscriptions, hleft.nextSlot, hleft.log, hleft.maxBufferedLive, hleft.maxOutboundBytes⟩
      exact hall.mono (by simp)

/-- **Closing** a connection takes away its subscriptions and no others. -/
theorem Consistent.closeConnection_left (h : hub.Consistent) (connectionId : ConnectionId) :
    Left (fun sub => sub.key.connectionId ≠ connectionId) hub (hub.closeConnection connectionId) := by
  refine (h.closeConnection_spec connectionId).2.2.mono fun slot sub hsub => ?_
  -- every subscription of the connection is in its list
  obtain ⟨connection, hopen, hlisted⟩ := h.connected hsub
  by_cases hid : sub.key.connectionId = connectionId
  · rw [hid] at hopen
    simp [hopen, hlisted]
  · simp [hid]

theorem Linked.closeConnection_connections (h : hub.Linked) (connectionId other : ConnectionId) :
    (hub.closeConnection connectionId).connections other =
      if other = connectionId then none else hub.connections other :=
  (h.closeConnection_spec connectionId).2.1 other

theorem Consistent.closeConnection (h : hub.Consistent) (connectionId : ConnectionId) :
    (hub.closeConnection connectionId).Consistent where
  toLinked := (h.closeConnection_spec connectionId).1
  connected := by
    intro slot sub hleft
    obtain ⟨hsub, hother⟩ := (h.closeConnection_left connectionId).mem.mp hleft
    obtain ⟨connection, hopen, hlisted⟩ := h.connected hsub
    rw [h.closeConnection_connections, if_neg (by simpa using hother)]
    exact ⟨connection, hopen, hlisted⟩

/-- The loop that closes the connections that overflowed. -/
theorem Consistent.closeAll (h : hub.Consistent) (overflowed : List ConnectionId) :
    (overflowed.foldl Hub.closeConnection hub).Consistent ∧
      Left (fun sub => !(sub.key.connectionId ∈ overflowed : Bool)) hub (overflowed.foldl Hub.closeConnection hub) ∧
      ∀ other, (overflowed.foldl Hub.closeConnection hub).connections other =
        if other ∈ overflowed then none else hub.connections other := by
  induction overflowed generalizing hub with
  | nil => exact ⟨h, (Left.refl hub).mono (by simp), by simp⟩
  | cons first rest ih =>
    obtain ⟨hconsistent, hleft, hconnections⟩ := ih (h.closeConnection first)
    refine ⟨hconsistent, ((h.closeConnection_left first).trans hleft).mono fun slot sub _ => by simp, fun other => ?_⟩
    show (rest.foldl Hub.closeConnection (hub.closeConnection first)).connections other = _
    rw [hconnections, h.closeConnection_connections]
    by_cases hfirst : other = first
    · simp [hfirst]
    · simp [hfirst]

/-! ### Opening and registering -/

theorem Consistent.addConnection (h : hub.Consistent) (connectionId : ConnectionId) (queueCapacity : Nat) :
    (hub.addConnection connectionId queueCapacity).Consistent where
  toLinked := (h.closeConnection connectionId).toLinked.setConnection _ _
  connected := by
    intro slot sub hsub
    have hother : sub.key.connectionId ≠ connectionId := by
      simpa using ((h.closeConnection_left connectionId).mem.mp hsub).2
    obtain ⟨connection, hopen, hlisted⟩ := (h.closeConnection connectionId).connected hsub
    refine ⟨connection, ?_, hlisted⟩
    show update _ _ _ _ = _
    rw [update_of_ne hother, hopen]

theorem insertSubscription_subscriptions (hub : Hub) (connection : ConnectionSink) (key : SubscriptionKey)
    (generation : Nat) (filters : List Filter) (readPubkeys : List String) (slot : Slot) :
    (hub.insertSubscription connection key generation filters readPubkeys).subscriptions slot =
      if slot = hub.nextSlot then
        some ⟨key, generation, filters, readPubkeys, subscriptionIndexKeys filters, .buffering [] []⟩
      else hub.subscriptions slot :=
  update_apply ..

theorem Consistent.insertSubscription (h : hub.Consistent) {connection : ConnectionSink}
    (hopen : hub.connections key.connectionId = some connection) (hfree : hub.slots key = none) (generation : Nat)
    (filters : List Filter) (readPubkeys : List String) :
    (hub.insertSubscription connection key generation filters readPubkeys).Consistent := by
  have hfresh : ∀ {slot sub}, hub.subscriptions slot = some sub → slot ≠ hub.nextSlot := fun hsub =>
    (h.bounded hsub).ne
  have hkeys : ∀ {slot sub}, hub.subscriptions slot = some sub → sub.key ≠ key := by
    rintro slot sub hsub rfl
    simp [h.key_slot hsub] at hfree
  -- a subscription of the new hub is the new one or one of the old ones
  have hcases : ∀ {slot sub},
      (hub.insertSubscription connection key generation filters readPubkeys).subscriptions slot = some sub →
      (slot = hub.nextSlot ∧
        sub = ⟨key, generation, filters, readPubkeys, subscriptionIndexKeys filters, .buffering [] []⟩) ∨
        (slot ≠ hub.nextSlot ∧ hub.subscriptions slot = some sub) := by
    intro slot sub hsub
    rw [insertSubscription_subscriptions] at hsub
    split at hsub
    · rename_i hslot
      exact .inl ⟨hslot, (some.inj hsub).symm⟩
    · rename_i hslot
      exact .inr ⟨hslot, hsub⟩
  refine ⟨⟨?_, ?_, ?_, ?_, ?_⟩, ?_⟩
  · intro other slot hslot
    by_cases heq : other = key
    · subst heq
      obtain rfl : hub.nextSlot = slot := by simpa [Hub.insertSubscription] using hslot
      exact ⟨_, update_self .., rfl⟩
    · have hold : hub.slots other = some slot := by
        simpa [Hub.insertSubscription, update_of_ne heq] using hslot
      obtain ⟨sub, hsub, hkey⟩ := h.slot_key hold
      exact ⟨sub, by simpa [Hub.insertSubscription, update_of_ne (hfresh hsub)] using hsub, hkey⟩
  · intro slot sub hsub
    obtain ⟨rfl, rfl⟩ | ⟨-, hold⟩ := hcases hsub
    · simp [Hub.insertSubscription]
    · simpa [Hub.insertSubscription, update_of_ne (hkeys hold)] using h.key_slot hold
  · intro slot sub hsub
    show slot < hub.nextSlot + 1
    obtain ⟨rfl, -⟩ | ⟨-, hold⟩ := hcases hsub
    · exact Nat.lt_succ_self _
    · exact Nat.lt_succ_of_lt (h.bounded hold)
  · intro indexKey slot
    show slot ∈ (if indexKey ∈ subscriptionIndexKeys filters then _ else _) ↔ _
    by_cases hslot : slot = hub.nextSlot
    · subst hslot
      have hnot : hub.nextSlot ∉ hub.index indexKey := by
        intro hmem
        obtain ⟨sub, hsub, -⟩ := h.indexed.mp hmem
        exact hfresh hsub rfl
      by_cases hin : indexKey ∈ subscriptionIndexKeys filters <;> simp [Hub.insertSubscription, hin, hnot]
    · by_cases hin : indexKey ∈ subscriptionIndexKeys filters <;>
        simp [insertSubscription_subscriptions, hslot, hin, h.indexed]
  · intro slot sub hsub
    obtain ⟨-, rfl⟩ | ⟨-, hold⟩ := hcases hsub
    · rfl
    · exact h.keys hold
  · intro slot sub hsub
    obtain ⟨-, rfl⟩ | ⟨-, hold⟩ := hcases hsub
    · exact ⟨_, update_self .., List.mem_cons_self⟩
    · obtain ⟨found, hfound, hlisted⟩ := h.connected hold
      by_cases hid : sub.key.connectionId = key.connectionId
      · rw [hid, hopen] at hfound
        obtain rfl : connection = found := some.inj hfound
        rw [hid]
        exact ⟨_, update_self .., .tail _ hlisted⟩
      · exact ⟨found, by simpa [Hub.insertSubscription, update_of_ne hid] using hfound, hlisted⟩

/-- **Registration**: without a connection nothing happens; with one, the old subscription of the key goes and the new
one takes the next slot. -/
theorem Consistent.register_eq (h : hub.Consistent) (key : SubscriptionKey) (generation : Nat) (filters : List Filter)
    (readPubkeys : List String) :
    (hub.connections key.connectionId = none ∧ hub.register key generation filters readPubkeys = hub) ∨
      ∃ connection, (hub.removeSubscription key).connections key.connectionId = some connection ∧
        hub.register key generation filters readPubkeys =
          (hub.removeSubscription key).insertSubscription connection key generation filters readPubkeys := by
  cases hopen : hub.connections key.connectionId with
  | none =>
    left
    simp [Hub.register, hopen]
  | some connection =>
    right
    have hstill : ∃ found, (hub.removeSubscription key).connections key.connectionId = some found := by
      obtain hsame | hunlisted := h.removeSubscription_connections key key.connectionId
      · exact ⟨connection, hsame.trans hopen⟩
      · rw [hunlisted, unlist_connections, hopen]
        exact ⟨_, rfl⟩
    obtain ⟨found, hfound⟩ := hstill
    exact ⟨found, hfound, by simp [Hub.register, hopen, hfound]⟩

theorem Consistent.register (h : hub.Consistent) (key : SubscriptionKey) (generation : Nat) (filters : List Filter)
    (readPubkeys : List String) : (hub.register key generation filters readPubkeys).Consistent := by
  obtain ⟨-, hsame⟩ | ⟨connection, hopen, heq⟩ := h.register_eq key generation filters readPubkeys
  · rwa [hsame]
  · rw [heq]
    refine (h.removeSubscription key).insertSubscription hopen ?_ generation filters readPubkeys
    rw [h.removeSubscription_slots, update_self]

/-! ## Sending -/

/-- The hubs differ in the states of subscriptions and in queues at most. -/
structure SameShape (hub hub' : Hub) : Prop where
  subscriptions : ∀ slot,
    (hub'.subscriptions slot).map Subscription.shape = (hub.subscriptions slot).map Subscription.shape
  slots : hub'.slots = hub.slots
  index : hub'.index = hub.index
  nextSlot : hub'.nextSlot = hub.nextSlot
  maxBufferedLive : hub'.maxBufferedLive = hub.maxBufferedLive
  maxOutboundBytes : hub'.maxOutboundBytes = hub.maxOutboundBytes
  connections : ∀ connectionId,
    (hub'.connections connectionId).map (·.subscriptions) = (hub.connections connectionId).map (·.subscriptions)

theorem SameShape.refl (hub : Hub) : SameShape hub hub where
  subscriptions _ := rfl
  slots := rfl
  index := rfl
  nextSlot := rfl
  maxBufferedLive := rfl
  maxOutboundBytes := rfl
  connections _ := rfl

theorem SameShape.symm (h : SameShape hub hub') : SameShape hub' hub where
  subscriptions slot := (h.subscriptions slot).symm
  slots := h.slots.symm
  index := h.index.symm
  nextSlot := h.nextSlot.symm
  maxBufferedLive := h.maxBufferedLive.symm
  maxOutboundBytes := h.maxOutboundBytes.symm
  connections connectionId := (h.connections connectionId).symm

theorem SameShape.trans {hub'' : Hub} (h : SameShape hub hub') (h' : SameShape hub' hub'') :
    SameShape hub hub'' where
  subscriptions slot := (h'.subscriptions slot).trans (h.subscriptions slot)
  slots := h'.slots.trans h.slots
  index := h'.index.trans h.index
  nextSlot := h'.nextSlot.trans h.nextSlot
  maxBufferedLive := h'.maxBufferedLive.trans h.maxBufferedLive
  maxOutboundBytes := h'.maxOutboundBytes.trans h.maxOutboundBytes
  connections connectionId := (h'.connections connectionId).trans (h.connections connectionId)

theorem SameShape.lookup (h : SameShape hub hub') (hsub : hub.subscriptions slot = some sub) :
    ∃ sub', hub'.subscriptions slot = some sub' ∧ sub'.shape = sub.shape := by
  have hshape := h.subscriptions slot
  rw [hsub] at hshape
  exact map_eq_some_iff.mp hshape

theorem SameShape.closed_iff (h : SameShape hub hub') :
    hub'.connections connectionId = none ↔ hub.connections connectionId = none := by
  have hconnection := h.connections connectionId
  cases hthere : hub'.connections connectionId <;> cases hhere : hub.connections connectionId <;>
    simp [hthere, hhere] at hconnection ⊢

theorem SameShape.consistent (h : SameShape hub hub') (hc : hub.Consistent) : hub'.Consistent := by
  -- every subscription of the one hub is one of the other up to its state
  have hback : ∀ {slot sub}, hub'.subscriptions slot = some sub →
      ∃ old, hub.subscriptions slot = some old ∧ old.key = sub.key ∧ old.filters = sub.filters ∧
        old.indexKeys = sub.indexKeys := by
    intro slot sub hsub
    obtain ⟨old, hold, hshape⟩ := h.symm.lookup hsub
    have hfields := Subscription.shape_eq_iff.mp hshape
    exact ⟨old, hold, hfields.1, hfields.2.2.1, hfields.2.2.2.2⟩
  refine ⟨⟨?_, ?_, ?_, ?_, ?_⟩, ?_⟩
  · intro key slot hslot
    rw [h.slots] at hslot
    obtain ⟨sub, hsub, hkey⟩ := hc.slot_key hslot
    obtain ⟨sub', hsub', hshape⟩ := h.lookup hsub
    exact ⟨sub', hsub', (Subscription.shape_eq_iff.mp hshape).1.trans hkey⟩
  · intro slot sub hsub
    obtain ⟨old, hold, hkey, -, -⟩ := hback hsub
    rw [h.slots, ← hkey]
    exact hc.key_slot hold
  · intro slot sub hsub
    obtain ⟨old, hold, -, -, -⟩ := hback hsub
    rw [h.nextSlot]
    exact hc.bounded hold
  · intro indexKey slot
    rw [h.index, hc.indexed]
    constructor
    · rintro ⟨sub, hsub, hin⟩
      obtain ⟨sub', hsub', hshape⟩ := h.lookup hsub
      exact ⟨sub', hsub', (Subscription.shape_eq_iff.mp hshape).2.2.2.2 ▸ hin⟩
    · rintro ⟨sub, hsub, hin⟩
      obtain ⟨old, hold, -, -, hkeys⟩ := hback hsub
      exact ⟨old, hold, hkeys ▸ hin⟩
  · intro slot sub hsub
    obtain ⟨old, hold, -, hfilters, hkeys⟩ := hback hsub
    rw [← hkeys, ← hfilters]
    exact hc.keys hold
  · intro slot sub hsub
    obtain ⟨old, hold, hkey, -, -⟩ := hback hsub
    obtain ⟨connection, hopen, hlisted⟩ := hc.connected hold
    rw [hkey] at hopen hlisted
    have hconnection := h.connections sub.key.connectionId
    rw [hopen] at hconnection
    obtain ⟨connection', hopen', hsame⟩ := map_eq_some_iff.mp hconnection
    exact ⟨connection', hopen', hsame ▸ hlisted⟩

theorem sameShape_setState (hsub : hub.subscriptions slot = some sub) (state : SubscriptionState) :
    SameShape hub (hub.setSubscription slot (some { sub with state := state })) where
  subscriptions other := by
    by_cases hother : other = slot
    · subst hother
      simp [setSubscription, hsub, Subscription.shape]
    · simp [setSubscription, update_of_ne hother]
  slots := rfl
  index := rfl
  nextSlot := rfl
  maxBufferedLive := rfl
  maxOutboundBytes := rfl
  connections _ := rfl

/-- The hubs differ in queues, and the log of the second ends with what was handed over. -/
structure Queued (sent : List Sent) (hub hub' : Hub) : Prop extends SameShape hub hub' where
  states : hub'.subscriptions = hub.subscriptions
  log : hub'.log = hub.log ++ sent

theorem Queued.refl (hub : Hub) : Queued [] hub hub := ⟨SameShape.refl hub, rfl, by simp⟩

theorem Queued.trans {sent sent' : List Sent} {hub'' : Hub} (h : Queued sent hub hub') (h' : Queued sent' hub' hub'') :
    Queued (sent ++ sent') hub hub'' :=
  ⟨h.toSameShape.trans h'.toSameShape, h'.states.trans h.states, by rw [h'.log, h.log, List.append_assoc]⟩

theorem offer_queued {slot : Option Slot} {message : Outbound} (h : hub.offer slot connectionId message = some hub') :
    Queued [⟨slot, message⟩] hub hub' := by
  unfold offer at h
  cases hopen : hub.connections connectionId with
  | none => simp [hopen] at h
  | some connection =>
    rw [hopen] at h
    simp only at h
    split at h
    · cases h
    · cases h
      refine ⟨⟨fun _ => rfl, rfl, rfl, rfl, rfl, rfl, fun other => ?_⟩, rfl, rfl⟩
      by_cases hother : other = connectionId
      · subst hother
        simp [Hub.setConnection, hopen]
      · simp [Hub.setConnection, update_of_ne hother]

section Send

variable (env : HubEnv)

theorem sendOne_cases (hub : Hub) (slot : Option Slot) (connectionId : ConnectionId) (message : Outbound) :
    (∃ hub', hub.sendOne env slot connectionId message = (hub', true) ∧ Queued [⟨slot, message⟩] hub hub') ∨
      hub.sendOne env slot connectionId message = (hub.closeConnection connectionId, false) := by
  unfold sendOne
  split
  · exact .inr rfl
  · cases hoffer : hub.offer slot connectionId message with
    | some hub' => exact .inl ⟨hub', rfl, offer_queued hoffer⟩
    | none => exact .inr rfl

theorem sendOne_of_closed (h : hub.connections connectionId = none) (slot : Option Slot)
    (message : Outbound) : hub.sendOne env slot connectionId message = (hub, false) := by
  simp [sendOne, offer, h, closeConnection_of_none h]

/-- **A loop of `send_one`** hands over all its messages, or some first ones before it closes the connection. -/
theorem sendAll_cases (slot : Option Slot) (connectionId : ConnectionId) (messages : List Outbound) (hub : Hub) :
    (∃ hub', hub.sendAll env slot connectionId messages = (hub', true) ∧
        Queued (messages.map (⟨slot, ·⟩)) hub hub') ∨
      ∃ (sent : List Outbound) (hub' : Hub), Queued (sent.map (⟨slot, ·⟩)) hub hub' ∧
        hub.sendAll env slot connectionId messages = (hub'.closeConnection connectionId, false) := by
  induction messages generalizing hub with
  | nil => exact .inl ⟨hub, rfl, Queued.refl hub⟩
  | cons message rest ih =>
    obtain ⟨hub₁, hone, hqueued⟩ | hone := hub.sendOne_cases env slot connectionId message
    · obtain ⟨hub₂, hall, hrest⟩ | ⟨sent, hub₂, hrest, hall⟩ := ih hub₁
      · exact .inl ⟨hub₂, by simp [sendAll, hone, hall], hqueued.trans hrest⟩
      · exact .inr ⟨message :: sent, hub₂, hqueued.trans hrest, by simp [sendAll, hone, hall]⟩
    · exact .inr ⟨[], hub, Queued.refl hub, by simp [sendAll, hone]⟩

theorem sendAll_append (slot : Option Slot) (connectionId : ConnectionId) (messages rest : List Outbound)
    (hub : Hub) :
    hub.sendAll env slot connectionId (messages ++ rest) =
      match hub.sendAll env slot connectionId messages with
      | (hub, true) => hub.sendAll env slot connectionId rest
      | (hub, false) => (hub, false) := by
  induction messages generalizing hub with
  | nil => rfl
  | cons message others ih =>
    simp only [List.cons_append, sendAll]
    cases hone : hub.sendOne env slot connectionId message with
    | mk hub₁ sent =>
      cases sent with
      | true => exact ih hub₁
      | false => rfl

/-- The three loops of `history_ready` are one: after a refusal the connection is closed, and so is everything that
follows refused. -/
theorem Consistent.sendHistory_eq (h : hub.Consistent) (slot : Slot) (key : SubscriptionKey) (events : List EventRow)
    (live : List PublishedEvent) :
    hub.sendHistory env slot key events live =
      (hub.sendAll env (some slot) key.connectionId
        (historyMessages key events ++ .eose key.subscriptionId :: liveMessages key live)).1 := by
  rw [sendAll_append, sendHistory]
  obtain ⟨hub₁, hall, -⟩ | ⟨sent, hub₁, hqueued, hall⟩ :=
    hub.sendAll_cases env (some slot) key.connectionId (historyMessages key events)
  · simp only [hall, sendAll]
    cases hone : hub₁.sendOne env (some slot) key.connectionId (.eose key.subscriptionId) with
    | mk hub₂ sent => cases sent <;> rfl
  · have hclosed : (hub₁.closeConnection key.connectionId).connections key.connectionId = none := by
      rw [(hqueued.toSameShape.consistent h).closeConnection_connections, if_pos rfl]
    simp only [hall, sendOne_of_closed env hclosed]

/-- **`history_ready`** does nothing unless its key has a subscription of the same generation that is still buffering.
Then the subscription becomes live and its messages are sent in one go. -/
theorem Consistent.historyReady_cases (h : hub.Consistent) (key : SubscriptionKey) (generation highWater : Nat)
    (events : List EventRow) :
    hub.historyReady env key generation highWater events = hub ∨
      ∃ slot sub buffered ids, hub.subscriptions slot = some sub ∧ sub.key = key ∧ sub.generation = generation ∧
        sub.state = .buffering buffered ids ∧
        hub.historyReady env key generation highWater events =
          ((hub.setSubscription slot (some { sub with
              state := .live (liveHighWater highWater (liveAfter highWater events buffered)) })).sendAll
            env (some slot) key.connectionId
            (historyMessages key events ++ .eose key.subscriptionId ::
              liveMessages key (liveAfter highWater events buffered))).1 := by
  cases hslot : hub.slots key with
  | none => exact .inl (by simp [historyReady, hslot])
  | some slot =>
    obtain ⟨sub, hsub, hkey⟩ := h.slot_key hslot
    by_cases hgeneration : sub.generation = generation
    · cases hstate : sub.state with
      | live highWater => exact .inl (by simp [historyReady, hslot, hsub, hstate])
      | buffering buffered ids =>
        refine .inr ⟨slot, sub, buffered, ids, hsub, hkey, hgeneration, hstate, ?_⟩
        rw [← ((sameShape_setState hsub _).consistent h).sendHistory_eq]
        simp [historyReady, hslot, hsub, hgeneration, hstate]
    · exact .inl (by simp [historyReady, hslot, hsub, hgeneration])

theorem Consistent.sendAll (h : hub.Consistent) (slot : Option Slot) (connectionId : ConnectionId)
    (messages : List Outbound) : (hub.sendAll env slot connectionId messages).1.Consistent := by
  obtain ⟨hub', hall, hqueued⟩ | ⟨sent, hub', hqueued, hall⟩ := hub.sendAll_cases env slot connectionId messages
  · rw [hall]
    exact hqueued.toSameShape.consistent h
  · rw [hall]
    exact (hqueued.toSameShape.consistent h).closeConnection connectionId

theorem Consistent.historyReady (h : hub.Consistent) (key : SubscriptionKey) (generation highWater : Nat)
    (events : List EventRow) : (hub.historyReady env key generation highWater events).Consistent := by
  obtain hsame | ⟨slot, sub, buffered, ids, hsub, -, -, -, heq⟩ :=
    h.historyReady_cases env key generation highWater events
  · rwa [hsame]
  · rw [heq]
    exact ((sameShape_setState hsub _).consistent h).sendAll env _ _ _

theorem Consistent.closeSubscription (h : hub.Consistent) (key : SubscriptionKey) (message : String) :
    (hub.closeSubscription env key message).Consistent := by
  apply Consistent.removeSubscription
  obtain ⟨hub', hone, hqueued⟩ | hone :=
    hub.sendOne_cases env none key.connectionId (.closed key.subscriptionId message)
  · rw [hone]
    exact hqueued.toSameShape.consistent h
  · rw [hone]
    exact h.closeConnection key.connectionId

theorem popOutbound_queued (hub : Hub) (connectionId : ConnectionId) :
    Queued [] hub (hub.popOutbound connectionId) := by
  unfold popOutbound
  cases hopen : hub.connections connectionId with
  | none => exact Queued.refl hub
  | some connection =>
    refine ⟨⟨fun _ => rfl, rfl, rfl, rfl, rfl, rfl, fun other => ?_⟩, rfl, by simp [Hub.setConnection]⟩
    by_cases hother : other = connectionId
    · subst hother
      simp [Hub.setConnection, hopen]
    · simp [Hub.setConnection, update_of_ne hother]

end Send

end Hub

end Immortal.Gateway
