import Immortal.Gateway.Hub

/-!
# `Immortal.Gateway.OutboundQueue` — the send queue of a connection over any run

The hub offers and the connection's task pops. A full queue makes room by dropping its oldest ephemeral event, from
wherever it stands, so the order of the other messages has to survive a removal in the middle.
-/

namespace Immortal.Gateway

inductive QueueCall
  | offer (message : Outbound)
  | pop
  deriving DecidableEq, Repr

/-- A queue with what went in and came out: the messages that `offer` accepted and may not drop, and all that `pop`
    returned. -/
structure Traffic where
  queue : OutboundQueue
  accepted : List Outbound
  sent : List Outbound

/-- The messages that may not be dropped. -/
def lasting (messages : List Outbound) : List Outbound := messages.filter (!·.isEphemeral)

def Traffic.call (t : Traffic) : QueueCall → Traffic
  | .offer message =>
    { t with
      queue := (t.queue.offer message).1
      accepted := if (t.queue.offer message).2 = .full then t.accepted else t.accepted ++ lasting [message] }
  | .pop => { t with queue := t.queue.pop, sent := t.sent ++ t.queue.items.head?.toList }

def Traffic.run (capacity : Nat) (calls : List QueueCall) : Traffic :=
  calls.foldl Traffic.call ⟨OutboundQueue.new capacity, [], []⟩

theorem lasting_append (before after : List Outbound) : lasting (before ++ after) = lasting before ++ lasting after :=
  List.filter_append ..

theorem lasting_eraseP (messages : List Outbound) : lasting (messages.eraseP Outbound.isEphemeral) = lasting messages := by
  induction messages with
  | nil => rfl
  | cons first rest ih =>
    cases h : first.isEphemeral <;> simp_all [lasting]

theorem countP_eraseP (messages : List Outbound) :
    (messages.eraseP Outbound.isEphemeral).countP Outbound.isEphemeral =
      messages.countP Outbound.isEphemeral - 1 := by
  induction messages with
  | nil => rfl
  | cons first rest ih =>
    cases h : first.isEphemeral <;> simp_all

/-- What an offer does to the queue, and that it is full only of messages that may not be dropped. -/
theorem offer_cases (queue : OutboundQueue) (message : Outbound) :
    (queue.items.length < queue.capacity ∧ queue.offer message = (queue.push message, .queued)) ∨
    (queue.capacity ≤ queue.items.length ∧
      ((0 < queue.ephemeral ∧ queue.offer message = (queue.dropOldest.push message, .droppedEphemeral)) ∨
        (queue.ephemeral = 0 ∧ queue.offer message =
          (queue, if message.isEphemeral then .droppedEphemeral else .full)))) := by
  unfold OutboundQueue.offer
  grind

structure Traffic.Inv (capacity : Nat) (t : Traffic) : Prop where
  capacity : t.queue.capacity = max capacity 1
  length : t.queue.items.length ≤ t.queue.capacity
  ephemeral : t.queue.ephemeral = t.queue.items.countP Outbound.isEphemeral
  accepted : t.accepted = lasting t.sent ++ lasting t.queue.items

theorem Traffic.Inv.call {capacity : Nat} {t : Traffic} (h : t.Inv capacity) (call : QueueCall) :
    (t.call call).Inv capacity := by
  obtain ⟨hcapacity, hlength, hephemeral, haccepted⟩ := h
  cases call with
  | offer message =>
    rcases offer_cases t.queue message with ⟨hroom, hoffer⟩ | ⟨hfull, ⟨hsome, hoffer⟩ | ⟨hnone, hoffer⟩⟩
    · constructor <;> simp only [Traffic.call, hoffer, OutboundQueue.push]
      · exact hcapacity
      · simpa using hroom
      · cases h : message.isEphemeral <;> simp [h, hephemeral]
      · simp [haccepted, lasting_append]
    · -- the counter says that there is an ephemeral event to remove
      have hany : t.queue.items.any Outbound.isEphemeral = true := by
        rw [List.any_eq_true, ← List.countP_pos_iff, ← hephemeral]
        exact hsome
      constructor <;> simp only [Traffic.call, hoffer, OutboundQueue.push, OutboundQueue.dropOldest, if_pos hany]
      · exact hcapacity
      · rw [List.length_append, List.length_eraseP, if_pos hany, List.length_singleton]
        omega
      · cases h : message.isEphemeral <;> simp [h, countP_eraseP, hephemeral]
      · simp [haccepted, lasting_append, lasting_eraseP]
    · constructor <;> simp only [Traffic.call, hoffer]
      · exact hcapacity
      · exact hlength
      · exact hephemeral
      · cases h : message.isEphemeral <;> simp [h, haccepted, lasting]
  | pop =>
    unfold Traffic.call OutboundQueue.pop
    cases hitems : t.queue.items with
    | nil => constructor <;> simp [*]
    | cons first rest =>
      rw [hitems] at hlength hephemeral haccepted
      constructor <;> simp only
      · exact hcapacity
      · exact Nat.le_of_succ_le hlength
      · cases h : first.isEphemeral <;> simp [h, hephemeral]
      · simp [haccepted, ← lasting_append]

/-- A part of the queue that was there before a call stays, apart from what is sent and from ephemeral events. -/
theorem call_before {t : Traffic} {before after : List Outbound} (hitems : t.queue.items = before ++ after)
    (call : QueueCall) :
    ∃ before' after', (t.call call).queue.items = before' ++ after' ∧
      before'.length ≤ before.length - (if call = .pop then 1 else 0) ∧
      lasting t.sent ++ lasting before <+: lasting (t.call call).sent ++ lasting before' := by
  cases call with
  | offer message =>
    have hpush : ∀ queue : OutboundQueue, (queue.push message).items = queue.items ++ [message] := fun _ => rfl
    rcases offer_cases t.queue message with ⟨-, hoffer⟩ | ⟨-, ⟨-, hoffer⟩ | ⟨-, hoffer⟩⟩
    · exact ⟨before, after ++ [message], by simp [Traffic.call, hoffer, hpush, hitems], by simp, List.prefix_rfl⟩
    · simp only [Traffic.call, hoffer, hpush, OutboundQueue.dropOldest, hitems, List.eraseP_append]
      split
      · split
        · exact ⟨before.eraseP Outbound.isEphemeral, after ++ [message], List.append_assoc .., by grind,
            by rw [lasting_eraseP]⟩
        · exact ⟨before, _, List.append_assoc .., by simp, List.prefix_rfl⟩
      · exact ⟨before, after ++ [message], by simp [hitems], by simp, List.prefix_rfl⟩
    · exact ⟨before, after, by simp [Traffic.call, hoffer, hitems], by simp, List.prefix_rfl⟩
  | pop =>
    cases before with
    | nil =>
      refine ⟨[], (t.call .pop).queue.items, rfl, by simp, ?_⟩
      simp [Traffic.call, lasting]
    | cons first rest =>
      refine ⟨rest, after, ?_, by simp, ?_⟩
      · simp [Traffic.call, OutboundQueue.pop, hitems]
      · simp [Traffic.call, hitems, ← lasting_append]

theorem run_before {t : Traffic} {before after : List Outbound} (hitems : t.queue.items = before ++ after)
    (calls : List QueueCall) (hpops : before.length ≤ calls.count .pop) :
    lasting t.sent ++ lasting before <+: lasting (calls.foldl Traffic.call t).sent := by
  induction calls generalizing t before after with
  | nil =>
    obtain rfl : before = [] := List.length_eq_zero_iff.mp (Nat.le_zero.mp hpops)
    simp [lasting]
  | cons call rest ih =>
    obtain ⟨before', after', hitems', hshorter, hkept⟩ := call_before hitems call
    refine hkept.trans (ih hitems' ?_)
    cases call <;> simp at hshorter hpops <;> omega

theorem run_inv (capacity : Nat) (calls : List QueueCall) : (Traffic.run capacity calls).Inv capacity := by
  induction calls using List.reverseRecOn with
  | nil => exact ⟨rfl, Nat.zero_le _, rfl, rfl⟩
  | append_singleton calls call ih =>
    rw [Traffic.run, List.foldl_concat]
    exact ih.call call

/-- **Outbound queue**: over any run of offers and pops the queue keeps to its capacity and counts its ephemeral
    events, what `offer` accepted and may not drop is sent or queued in the order accepted and is sent once as many
    pops have followed as there were messages, and `offer` reports `Full` only for a queue at capacity without
    ephemeral events. -/
theorem outboundQueue_keeps (capacity : Nat) (calls : List QueueCall) :
    let t := Traffic.run capacity calls
    t.Inv capacity ∧
      (∀ later, t.queue.items.length ≤ later.count .pop →
        t.accepted <+: lasting (Traffic.run capacity (calls ++ later)).sent) ∧
      ∀ message, message.isEphemeral = false → (t.queue.offer message).2 = .full →
        t.queue.items.length = t.queue.capacity ∧ ∀ queued ∈ t.queue.items, queued.isEphemeral = false := by
  intro t
  have hinv := run_inv capacity calls
  refine ⟨hinv, ?_, ?_⟩
  · intro later hpops
    have hrun : Traffic.run capacity (calls ++ later) = later.foldl Traffic.call t := List.foldl_append ..
    rw [hinv.accepted, hrun]
    exact run_before (List.append_nil _).symm later hpops
  · intro message hlasting hfull
    rcases offer_cases t.queue message with ⟨-, hoffer⟩ | ⟨hlength, ⟨-, hoffer⟩ | ⟨hnone, -⟩⟩
    · simp [hoffer] at hfull
    · simp [hoffer] at hfull
    · refine ⟨le_antisymm hinv.length hlength, ?_⟩
      rw [hinv.ephemeral] at hnone
      simpa using List.countP_eq_zero.mp hnone

end Immortal.Gateway
