import Immortal.Gateway.HubIndex

/-!
# `Immortal.Gateway.HubHandoff` — from the history of a subscription to its live events

A subscription is registered before its history is read, and events are published before, during and after the read.
Here the hub runs next to a store that commits and forgets rows, a pump that publishes rows in the order of their
sequence numbers, and reads that take a while to come back. The subscription should see every stored event once: from
its history up to the high-water mark of the read, and live above it.

Every message in the log belongs to a slot, and a slot is never used twice, so a slot stands for one generation of a
subscription. `Buffers` and `Delivered` say what a slot has been sent and what it still holds, in the two phases of a
subscription. The rows that count are the ones that are still stored and not expired: neither the reads nor `publish`
let an expired event out.
-/

namespace Immortal.Gateway

open Immortal.Domain Immortal.Store SubscriptionState PublishedEvent List

/-! ## The hub and its surroundings -/

/-- What a `REQ` asked for, under the generation it was given. -/
structure Registration where
  key : SubscriptionKey
  generation : Nat
  filters : List Filter
  readPubkeys : List String
  deriving DecidableEq

def Registration.wants (env : HubEnv) (registration : Registration) (event : Event) : Bool :=
  matchesAny env.lowercase registration.filters event && eventVisibleToReader event registration.readPubkeys

def Subscription.registration (sub : Subscription) : Registration :=
  ⟨sub.key, sub.generation, sub.filters, sub.readPubkeys⟩

/-- A history read that has been answered: its high-water mark, its rows, and the last sequence number that had been
given out when it was asked, which the source does not keep. -/
structure Answer where
  registration : Registration
  highWater : Nat
  events : List EventRow
  asked : Nat
  deriving DecidableEq

/-- The hub with the rows that are stored, that were ever committed and that were published. -/
structure World where
  hub : Hub
  stored : List EventRow
  committed : List EventRow
  published : List EventRow
  ephemeralIds : List String
  allocated : Nat
  cursor : Nat
  now : Nat
  registrations : List Registration
  answers : List Answer

inductive Action
  | commit (row : EventRow)
  /-- Rows go by deletion, by replacement or in a sweep. -/
  | forget (ids : List String)
  | tick (now : Nat)
  | publish (row : EventRow) (instant : Nat)
  | publishEphemeral (event : Event) (instant : Nat)
  | addConnection (connectionId : ConnectionId) (queueCapacity : Nat)
  | register (registration : Registration)
  | query (registration : Registration) (events : List EventRow)
  | liveOnly (registration : Registration)
  | historyReady (answer : Answer)
  | remove (key : SubscriptionKey)
  | removeConnection (connectionId : ConnectionId)
  | pop (connectionId : ConnectionId)

/-- `ephemeral_only`: such a subscription has no history to read. -/
def ephemeralOnly (filters : List Filter) : Bool :=
  !filters.isEmpty && filters.all fun filter =>
    filter.kinds.any fun kinds => !kinds.isEmpty && kinds.all fun kind => EventClass.fromKind kind = .ephemeral

/-- `LATEST_INGEST_SQL`: the last number among some rows. -/
def latestOf (rows : List EventRow) : Nat := (rows.map (·.ingestSeq)).foldr max 0

theorem latestOf_le_iff {rows : List EventRow} {bound : Nat} :
    latestOf rows ≤ bound ↔ ∀ row ∈ rows, row.ingestSeq ≤ bound := by
  induction rows with
  | nil => simp [latestOf]
  | cons first rest ih =>
    have hcons : latestOf (first :: rest) = max first.ingestSeq (latestOf rest) := rfl
    simp [hcons, ih]

theorem le_latestOf {rows : List EventRow} {row : EventRow} (h : row ∈ rows) : row.ingestSeq ≤ latestOf rows :=
  latestOf_le_iff.mp le_rfl row h

namespace World

def start (maxBufferedLive maxOutboundBytes : Nat) : World :=
  ⟨Hub.start maxBufferedLive maxOutboundBytes, [], [], [], [], 0, 0, 0, [], []⟩

variable (env : HubEnv)

/-- The rows a read for the registration finds. -/
def wantedRows (w : World) (registration : Registration) : List EventRow :=
  w.stored.filter fun row => registration.wants env row.event && !row.event.isExpired w.now

/-- The world after an action, when the action is possible. Sequence numbers grow in the order of commits, the id of an
event fixes its content and so its class, rows are published in the order of their numbers, and a connection numbers
its `REQ`s. -/
def step (w : World) : Action → Option World
  | .commit row =>
    if row.event.eventClass ≠ .ephemeral ∧ w.allocated < row.ingestSeq ∧
        (∀ other ∈ w.stored, other.event.id ≠ row.event.id) ∧ row.event.id ∉ w.ephemeralIds then
      some { w with stored := w.stored ++ [row], committed := w.committed ++ [row], allocated := row.ingestSeq }
    else none
  | .forget ids => some { w with stored := w.stored.filter fun row => row.event.id ∉ ids }
  | .tick now => if w.now ≤ now then some { w with now := now } else none
  | .publish row instant =>
    if row ∈ w.committed ∧ w.cursor < row.ingestSeq then
      some { w with
        hub := w.hub.publish env ⟨row.event, some row.ingestSeq⟩ w.now instant
        cursor := row.ingestSeq
        published := w.published ++ [row] }
    else none
  | .publishEphemeral event instant =>
    if ∀ row ∈ w.committed, row.event.id ≠ event.id then
      some { w with
        hub := w.hub.publish env ⟨event, none⟩ w.now instant
        ephemeralIds := event.id :: w.ephemeralIds }
    else none
  | .addConnection connectionId queueCapacity =>
    if (w.hub.connections connectionId).isNone then
      some { w with hub := w.hub.addConnection connectionId queueCapacity }
    else none
  | .register registration =>
    if ∀ old ∈ w.registrations, old.key = registration.key → old.generation < registration.generation then
      some { w with
        hub := w.hub.register registration.key registration.generation registration.filters registration.readPubkeys
        registrations := registration :: w.registrations }
    else none
  | .query registration events =>
    if registration ∈ w.registrations ∧ events.Perm (w.wantedRows env registration) then
      some { w with answers := ⟨registration, latestOf w.stored, events, w.allocated⟩ :: w.answers }
    else none
  | .liveOnly registration =>
    if registration ∈ w.registrations ∧ ephemeralOnly registration.filters then
      some { w with answers := ⟨registration, 0, [], w.allocated⟩ :: w.answers }
    else none
  | .historyReady answer =>
    if answer ∈ w.answers then
      some { w with
        hub := w.hub.historyReady env answer.registration.key answer.registration.generation answer.highWater
          answer.events }
    else none
  | .remove key => some { w with hub := w.hub.removeSubscription key }
  | .removeConnection connectionId => some { w with hub := w.hub.closeConnection connectionId }
  | .pop connectionId => some { w with hub := w.hub.popOutbound connectionId }

/-- The world after a sequence of actions. -/
def run (w : World) : List Action → Option World
  | [] => some w
  | action :: rest => (w.step env action).bind fun w => run w rest

end World

/-! ## What a slot has been sent -/

/-- The message of a log entry, when it was sent for the slot and is not an ephemeral event. -/
def Sent.messageFor (slot : Slot) (entry : Sent) : Option Outbound :=
  if entry.slot = some slot ∧ entry.message.isEphemeral = false then some entry.message else none

def messagesFor (log : List Sent) (slot : Slot) : List Outbound := log.filterMap (Sent.messageFor slot)

theorem messagesFor_append (log rest : List Sent) (slot : Slot) :
    messagesFor (log ++ rest) slot = messagesFor log slot ++ messagesFor rest slot :=
  filterMap_append

variable {slot : Slot}

theorem messagesFor_eq_nil {log : List Sent} (h : ∀ entry ∈ log, entry.slot ≠ some slot) :
    messagesFor log slot = [] := by
  refine filterMap_eq_nil_iff.mpr fun entry hentry => ?_
  rw [Sent.messageFor, if_neg fun hboth => h entry hentry hboth.1]

theorem messagesFor_map (messages : List Outbound) (slot : Slot) :
    messagesFor (messages.map (⟨some slot, ·⟩)) slot = messages.filter fun message => !message.isEphemeral := by
  induction messages with
  | nil => rfl
  | cons message rest ih =>
    unfold messagesFor at ih ⊢
    cases hephemeral : message.isEphemeral with
    | false => simp [Sent.messageFor, hephemeral, ih]
    | true => simp [Sent.messageFor, hephemeral, ih]

/-- The row a stored publication is about. -/
def PublishedEvent.row (published : PublishedEvent) : Option EventRow := published.ingestSeq.map (⟨published.event, ·⟩)

def rowsOf (events : List PublishedEvent) : List EventRow := events.filterMap PublishedEvent.row

theorem rowsOf_append (events rest : List PublishedEvent) : rowsOf (events ++ rest) = rowsOf events ++ rowsOf rest :=
  filterMap_append

theorem mem_rowsOf {events : List PublishedEvent} {row : EventRow} :
    row ∈ rowsOf events ↔ (⟨row.event, some row.ingestSeq⟩ : PublishedEvent) ∈ events := by
  simp only [rowsOf, mem_filterMap, PublishedEvent.row, Option.map_eq_some_iff]
  constructor
  · rintro ⟨⟨event, seq⟩, hmem, ingestSeq, rfl, rfl⟩
    exact hmem
  · intro hmem
    exact ⟨_, hmem, row.ingestSeq, rfl, rfl⟩

@[simp] theorem isEphemeral_event (subscriptionId : String) (event : Event) (ephemeral : Bool) :
    (Outbound.event subscriptionId event ephemeral).isEphemeral = ephemeral := rfl

/-- The stored messages among some live ones. -/
theorem filter_liveMessages (key : SubscriptionKey) (live : List PublishedEvent) :
    ((Hub.liveMessages key live).filter fun message => !message.isEphemeral) =
      (rowsOf live).map fun row => .event key.subscriptionId row.event false := by
  induction live with
  | nil => rfl
  | cons published rest ih =>
    unfold Hub.liveMessages rowsOf at ih ⊢
    cases hseq : published.ingestSeq with
    | none =>
      have hrow : published.row = none := by simp [row, hseq]
      have hephemeral : published.ephemeral = true := by simp [ephemeral, hseq]
      simp [hephemeral, hrow, ih]
    | some ingestSeq =>
      have hrow : published.row = some ⟨published.event, ingestSeq⟩ := by simp [row, hseq]
      have hephemeral : published.ephemeral = false := by simp [ephemeral, hseq]
      simp [hephemeral, hrow, ih]

theorem filter_historyMessages (key : SubscriptionKey) (events : List EventRow) :
    ((Hub.historyMessages key events).filter fun message => !message.isEphemeral) =
      Hub.historyMessages key events := by
  refine filter_eq_self.mpr ?_
  simp [Hub.historyMessages, Outbound.isEphemeral]

variable {published : PublishedEvent} {hub : Hub}

theorem liveEntry_slot {entry : Sent}
    (h : hub.liveEntry published slot = some entry) : entry.slot = some slot := by
  obtain ⟨sub, -, rfl⟩ := Option.map_eq_some_iff.mp h
  rfl

/-- What a fan-out sent to one slot. -/
theorem messagesFor_reached {reached : List Slot} (hnodup : reached.Nodup) {sub : Subscription}
    (hsub : hub.subscriptions slot = some sub) :
    messagesFor (reached.filterMap (hub.liveEntry published)) slot =
      if slot ∈ reached ∧ published.ephemeral = false then
        [.event sub.key.subscriptionId published.event false] else [] := by
  have hnone : ∀ slots : List Slot, slot ∉ slots →
      messagesFor (slots.filterMap (hub.liveEntry published)) slot = [] := by
    intro slots hnot
    refine messagesFor_eq_nil fun entry hentry => ?_
    obtain ⟨other, hother, hlive⟩ := mem_filterMap.mp hentry
    rw [liveEntry_slot hlive]
    rintro ⟨⟩
    exact hnot hother
  by_cases hmem : slot ∈ reached
  · -- the list is cut at the one place where the slot stands
    obtain ⟨before, after, rfl⟩ := append_of_mem hmem
    have hbefore : slot ∉ before := by
      intro hin
      exact (disjoint_of_nodup_append hnodup) hin mem_cons_self
    have hafter : slot ∉ after := (nodup_cons.mp (nodup_append.mp hnodup).2.1).1
    have hentry : hub.liveEntry published slot =
        some ⟨some slot, .event sub.key.subscriptionId published.event published.ephemeral⟩ := by
      simp [Hub.liveEntry, hsub]
    rw [filterMap_append, messagesFor_append, hnone before hbefore, filterMap_cons, hentry]
    show messagesFor ([_] ++ _) slot = _
    rw [messagesFor_append, hnone after hafter]
    cases hephemeral : published.ephemeral <;> simp [messagesFor, Sent.messageFor]
  · rw [hnone reached hmem, if_neg fun hboth => hmem hboth.1]

/-! ## The invariant -/

section Invariant

variable (env : HubEnv)

/-- A subscription that waits for its history has been sent nothing. It holds the stored rows that were published since
it was registered, in order; a row that it does not hold was committed before any read for it was asked. -/
structure Buffers (w : World) (slot : Slot) (sub : Subscription) (buffered : List PublishedEvent) (ids : List String) :
    Prop where
  silent : messagesFor w.hub.log slot = []
  sound : ∀ row ∈ rowsOf buffered, row ∈ w.published ∧ sub.wants env row.event = true
  ordered : (rowsOf buffered).Pairwise (fun row next => row.ingestSeq < next.ingestSeq)
  ids : ∀ id ∈ ids, id ∈ w.ephemeralIds ∨ ∃ row ∈ w.published, row.event.id = id
  complete : ∀ row ∈ w.stored, row ∈ w.published → sub.wants env row.event = true →
    row.event.isExpired w.now = false →
    row ∈ rowsOf buffered ∨ ∀ answer ∈ w.answers, answer.registration = sub.registration →
      row.ingestSeq ≤ answer.asked

/-- A live subscription has been sent its history, the end marker, and the live rows above the high-water mark of the
history in order. -/
structure Delivered (w : World) (slot : Slot) (sub : Subscription) (mark highWater : Nat)
    (history live : List EventRow) : Prop where
  messages : messagesFor w.hub.log slot =
    Hub.historyMessages sub.key history ++
      .eose sub.key.subscriptionId :: live.map fun row => .event sub.key.subscriptionId row.event false
  history_sound : ∀ row ∈ history,
    row ∈ w.committed ∧ sub.wants env row.event = true ∧ row.ingestSeq ≤ highWater
  history_nodup : history.Nodup
  live_sound : ∀ row ∈ live, row ∈ w.published ∧ sub.wants env row.event = true ∧ highWater < row.ingestSeq
  live_ordered : live.Pairwise (fun row next => row.ingestSeq < next.ingestSeq)
  live_below : ∀ row ∈ live, row.ingestSeq ≤ mark
  mark_above : highWater ≤ mark
  mark_below : mark = highWater ∨ mark ≤ w.cursor
  highWater_le : highWater ≤ w.allocated
  history_complete : ∀ row ∈ w.stored, sub.wants env row.event = true → row.event.isExpired w.now = false →
    row.ingestSeq ≤ highWater → row ∈ history
  live_complete : ∀ row ∈ w.stored, row ∈ w.published → sub.wants env row.event = true →
    row.event.isExpired w.now = false → highWater < row.ingestSeq → row ∈ live

def SlotInv (w : World) (slot : Slot) (sub : Subscription) : Prop :=
  match sub.state with
  | .buffering buffered ids => Buffers env w slot sub buffered ids
  | .live mark => ∃ highWater history live, Delivered env w slot sub mark highWater history live

/-- The rows of the store, the ones it has had, and the ones that were published. -/
structure RowsInv (w : World) : Prop where
  stored : w.stored.Sublist w.committed
  published : ∀ row ∈ w.published, row ∈ w.committed
  committed_le : ∀ row ∈ w.committed, row.ingestSeq ≤ w.allocated
  published_le : ∀ row ∈ w.published, row.ingestSeq ≤ w.cursor
  cursor_le : w.cursor ≤ w.allocated
  durable : ∀ row ∈ w.committed, row.event.eventClass ≠ .ephemeral
  ids : ∀ row ∈ w.committed, row.event.id ∉ w.ephemeralIds

/-- A read carries the rows it should, up to its high-water mark. -/
structure AnswerInv (w : World) (answer : Answer) : Prop where
  registered : answer.registration ∈ w.registrations
  sound : ∀ row ∈ answer.events,
    row ∈ w.committed ∧ answer.registration.wants env row.event = true ∧ row.ingestSeq ≤ answer.highWater
  nodup : answer.events.Nodup
  highWater_le : answer.highWater ≤ answer.asked
  asked_le : answer.asked ≤ w.allocated
  above : ∀ row ∈ w.stored, answer.registration.wants env row.event = true → row.ingestSeq ≤ answer.asked →
    row.ingestSeq ≤ answer.highWater
  complete : ∀ row ∈ w.stored, answer.registration.wants env row.event = true →
    row.event.isExpired w.now = false → row.ingestSeq ≤ answer.highWater → row ∈ answer.events

structure Inv (w : World) : Prop where
  consistent : w.hub.Consistent
  rows : RowsInv w
  answers : ∀ answer ∈ w.answers, AnswerInv env w answer
  registered : ∀ slot sub, w.hub.subscriptions slot = some sub → sub.registration ∈ w.registrations
  generations : ∀ old ∈ w.registrations, ∀ other ∈ w.registrations,
    old.key = other.key → old.generation = other.generation → old = other
  logged : ∀ entry ∈ w.hub.log, ∀ slot, entry.slot = some slot → slot < w.hub.nextSlot
  slots : ∀ slot sub, w.hub.subscriptions slot = some sub → SlotInv env w slot sub

/-- Every event that was ever committed has an id of its own. -/
def World.StoredOnce (w : World) : Prop := (w.committed.map (·.event.id)).Nodup

variable {published : PublishedEvent} {sub : Subscription} {w w' : World}

theorem World.StoredOnce.inj (h : w.StoredOnce) {row other : EventRow} (hrow : row ∈ w.committed)
    (hother : other ∈ w.committed) (hid : row.event.id = other.event.id) : row = other :=
  inj_on_of_nodup_map h hrow hother hid

/-! ### Steps that publish nothing -/

/-- The second world is a later one in which nothing more was published. -/
structure Later (w w' : World) : Prop where
  stored : ∀ row ∈ w'.stored, row ∈ w.stored ∨ w.allocated < row.ingestSeq
  committed : ∀ row ∈ w.committed, row ∈ w'.committed
  published : w'.published = w.published
  cursor : w'.cursor = w.cursor
  ephemeralIds : w'.ephemeralIds = w.ephemeralIds
  allocated : w.allocated ≤ w'.allocated
  now : w.now ≤ w'.now
  answers : ∀ answer ∈ w'.answers, answer ∈ w.answers ∨ w.allocated ≤ answer.asked
  registrations : ∀ registration ∈ w.registrations, registration ∈ w'.registrations

theorem Event.isExpired_mono {event : Event} {now later : Nat} (h : event.isExpired later = false)
    (hle : now ≤ later) : event.isExpired now = false := by
  cases hexpiration : event.expiration with
  | none => simp [Event.isExpired, hexpiration]
  | some expiration =>
    have hlt : later < expiration := by simpa [Event.isExpired, hexpiration] using h
    simpa [Event.isExpired, hexpiration] using hle.trans_lt hlt

/-- A row of the later world at or below a number of the earlier one was there before. -/
theorem Later.stored_before (h : Later w w') {row : EventRow} (hrow : row ∈ w'.stored)
    (hle : row.ingestSeq ≤ w.allocated) : row ∈ w.stored := by
  rcases h.stored row hrow with hold | hnew
  · exact hold
  · exact absurd hle (Nat.not_le.mpr hnew)

theorem AnswerInv.later {answer : Answer} (h : AnswerInv env w answer) (hlater : Later w w') :
    AnswerInv env w' answer where
  __ := h
  registered := hlater.registrations _ h.registered
  sound row hrow := by
    obtain ⟨hcommitted, hrest⟩ := h.sound row hrow
    exact ⟨hlater.committed row hcommitted, hrest⟩
  asked_le := h.asked_le.trans hlater.allocated
  above row hrow hwants hle :=
    h.above row (hlater.stored_before hrow (hle.trans h.asked_le)) hwants hle
  complete row hrow hwants hfresh hle := by
    have hold := hlater.stored_before hrow ((hle.trans h.highWater_le).trans h.asked_le)
    exact h.complete row hold hwants (Event.isExpired_mono hfresh hlater.now) hle

section Later

variable (hrows : RowsInv w) (hlater : Later w w')
  (hmessages : messagesFor w'.hub.log slot = messagesFor w.hub.log slot)
include hrows hlater hmessages

theorem Buffers.later {buffered : List PublishedEvent} {ids : List String}
    (h : Buffers env w slot sub buffered ids) : Buffers env w' slot sub buffered ids where
  silent := hmessages.trans h.silent
  sound := by rw [hlater.published]; exact h.sound
  ordered := h.ordered
  ids := by rw [hlater.published, hlater.ephemeralIds]; exact h.ids
  complete row hrow hpublished hwants hfresh := by
    rw [hlater.published] at hpublished
    have hle : row.ingestSeq ≤ w.allocated := hrows.committed_le row (hrows.published row hpublished)
    have hold := hlater.stored_before hrow hle
    rcases h.complete row hold hpublished hwants (Event.isExpired_mono hfresh hlater.now) with hin | hasked
    · exact .inl hin
    · right
      intro answer hanswer hsame
      rcases hlater.answers answer hanswer with hknown | hnew
      · exact hasked answer hknown hsame
      · exact hle.trans hnew

theorem Delivered.later {mark highWater : Nat} {history live : List EventRow}
    (h : Delivered env w slot sub mark highWater history live) :
    Delivered env w' slot sub mark highWater history live where
  __ := h
  messages := hmessages.trans h.messages
  history_sound row hrow := by
    obtain ⟨hcommitted, hrest⟩ := h.history_sound row hrow
    exact ⟨hlater.committed row hcommitted, hrest⟩
  live_sound := by rw [hlater.published]; exact h.live_sound
  mark_below := by rw [hlater.cursor]; exact h.mark_below
  highWater_le := h.highWater_le.trans hlater.allocated
  history_complete row hrow hwants hfresh hle := by
    have hold := hlater.stored_before hrow (hle.trans h.highWater_le)
    exact h.history_complete row hold hwants (Event.isExpired_mono hfresh hlater.now) hle
  live_complete row hrow hpublished hwants hfresh hlt := by
    rw [hlater.published] at hpublished
    have hold := hlater.stored_before hrow (hrows.committed_le row (hrows.published row hpublished))
    exact h.live_complete row hold hpublished hwants (Event.isExpired_mono hfresh hlater.now) hlt

theorem SlotInv.later (h : SlotInv env w slot sub) : SlotInv env w' slot sub := by
  unfold SlotInv at h ⊢
  cases hstate : sub.state with
  | buffering buffered ids =>
    rw [hstate] at h
    exact h.later env hrows hlater hmessages
  | live mark =>
    rw [hstate] at h
    obtain ⟨highWater, history, live, hdelivered⟩ := h
    exact ⟨highWater, history, live, hdelivered.later env hrows hlater hmessages⟩

end Later

/-- The hub has lost subscriptions at most, and has sent nothing. -/
structure Calm (hub hub' : Hub) : Prop where
  consistent : hub'.Consistent
  subscriptions : ∀ slot sub, hub'.subscriptions slot = some sub → hub.subscriptions slot = some sub
  log : hub'.log = hub.log
  nextSlot : hub.nextSlot ≤ hub'.nextSlot

theorem Calm.refl (h : hub.Consistent) : Calm hub hub := ⟨h, fun _ _ hsub => hsub, rfl, le_rfl⟩

theorem calm_of_left {keep : Subscription → Bool} {hub' : Hub} (h : Hub.Left keep hub hub')
    (hconsistent : hub'.Consistent) : Calm hub hub' where
  consistent := hconsistent
  subscriptions _ _ hsub := (h.mem.mp hsub).1
  log := h.log
  nextSlot := h.nextSlot.ge

theorem calm_of_queued {hub' : Hub} (h : Hub.Queued [] hub hub') (hconsistent : hub.Consistent) :
    Calm hub hub' where
  consistent := h.toSameShape.consistent hconsistent
  subscriptions slot sub hsub := by rwa [h.states] at hsub
  log := by rw [h.log, append_nil]
  nextSlot := h.nextSlot.ge

/-- **A step without a publication** keeps the invariant when the hub is calm and the new answers and rows are in
order. -/
theorem Inv.of_calm (h : Inv env w) (hlater : Later w w') (hcalm : Calm w.hub w'.hub) (hrows : RowsInv w')
    (hanswers : ∀ answer ∈ w'.answers, answer ∈ w.answers ∨ AnswerInv env w' answer)
    (hgenerations : ∀ old ∈ w'.registrations, ∀ other ∈ w'.registrations,
      old.key = other.key → old.generation = other.generation → old = other) : Inv env w' where
  consistent := hcalm.consistent
  rows := hrows
  answers answer hanswer := by
    rcases hanswers answer hanswer with hknown | hnew
    · exact (h.answers answer hknown).later env hlater
    · exact hnew
  registered slot sub hsub := hlater.registrations _ (h.registered slot sub (hcalm.subscriptions slot sub hsub))
  generations := hgenerations
  logged entry hentry slot hslot := by
    rw [hcalm.log] at hentry
    exact (h.logged entry hentry slot hslot).trans_le hcalm.nextSlot
  slots slot sub hsub := by
    have hold := hcalm.subscriptions slot sub hsub
    exact (h.slots slot sub hold).later env h.rows hlater (by rw [hcalm.log])

/-! ### Publications -/

/-- The worlds around a publication, apart from the hub. -/
structure Publishes (w w' : World) (published : PublishedEvent) : Prop where
  stored : w'.stored = w.stored
  committed : w'.committed = w.committed
  allocated : w'.allocated = w.allocated
  now : w'.now = w.now
  answers : w'.answers = w.answers
  registrations : w'.registrations = w.registrations
  grown : w'.published = w.published ++ rowsOf [published]
  ephemeralIds : ∀ id ∈ w.ephemeralIds, id ∈ w'.ephemeralIds
  ephemeral : published.ephemeral = true → published.event.id ∈ w'.ephemeralIds
  cursor : w.cursor ≤ w'.cursor
  row : ∀ row ∈ rowsOf [published],
    row ∈ w.committed ∧ row.event = published.event ∧ w.cursor < row.ingestSeq ∧ row.ingestSeq = w'.cursor

theorem rowsOf_ephemeral (h : published.ephemeral = true) : rowsOf [published] = [] := by
  have hnone : published.ingestSeq = none := by simpa [ephemeral] using h
  simp [rowsOf, row, hnone]

theorem rowsOf_stored (h : published.ephemeral = false) :
    ∃ ingestSeq, published.ingestSeq = some ingestSeq ∧ rowsOf [published] = [⟨published.event, ingestSeq⟩] := by
  cases hseq : published.ingestSeq with
  | none => simp [ephemeral, hseq] at h
  | some ingestSeq => exact ⟨ingestSeq, rfl, by simp [rowsOf, row, hseq]⟩

theorem AnswerInv.publish (hp : Publishes w w' published) {answer : Answer} (h : AnswerInv env w answer) :
    AnswerInv env w' answer where
  __ := h
  registered := by rw [hp.registrations]; exact h.registered
  sound := by rw [hp.committed]; exact h.sound
  asked_le := by rw [hp.allocated]; exact h.asked_le
  above := by rw [hp.stored]; exact h.above
  complete := by rw [hp.stored, hp.now]; exact h.complete

section Slot

variable {env} {slot : Slot}

variable {history live : List EventRow} {buffered : List PublishedEvent} {ids : List String}
  {highWater mark maxBufferedLive : Nat}

/-- The state of a subscription does not matter for what it holds or was sent. -/
theorem Buffers.reshape (h : Buffers env w slot sub buffered ids) (state : SubscriptionState) :
    Buffers env w slot { sub with state := state } buffered ids :=
  ⟨h.silent, h.sound, h.ordered, h.ids, h.complete⟩

theorem Delivered.reshape (h : Delivered env w slot sub mark highWater history live) (state : SubscriptionState) :
    Delivered env w slot { sub with state := state } mark highWater history live :=
  ⟨h.messages, h.history_sound, h.history_nodup, h.live_sound, h.live_ordered, h.live_below, h.mark_above,
    h.mark_below, h.highWater_le, h.history_complete, h.live_complete⟩

theorem slotInv_buffering (h : Buffers env w slot sub buffered ids) :
    SlotInv env w slot { sub with state := .buffering buffered ids } :=
  h.reshape _

theorem slotInv_live (h : Delivered env w slot sub mark highWater history live) :
    SlotInv env w slot { sub with state := .live mark } :=
  ⟨highWater, history, live, h.reshape _⟩

theorem onPublish_buffering_silent (maxBufferedLive : Nat) (published : PublishedEvent)
    (buffered : List PublishedEvent) (ids : List String) :
    ((buffering buffered ids).onPublish maxBufferedLive published).2 ≠ .deliver := by
  simp only [onPublish]
  split
  · exact Fanout.noConfusion
  · split
    · exact Fanout.noConfusion
    · split <;> exact Fanout.noConfusion

variable (hp : Publishes w w' published)
include hp

/-- An id that a buffering subscription has seen is not that of a row that is published now. -/
theorem Buffers.fresh (h : Buffers env w slot sub buffered ids) (hrows : RowsInv w) (honce : w.StoredOnce)
    (hseen : published.event.id ∈ ids) : published.ephemeral = true := by
  by_contra hstored
  obtain ⟨ingestSeq, -, heq⟩ := rowsOf_stored (Bool.not_eq_true _ ▸ hstored)
  obtain ⟨hcommitted, -, hlt, -⟩ := hp.row ⟨published.event, ingestSeq⟩ (by simp [heq])
  rcases h.ids _ hseen with hephemeral | ⟨row, hrow, hsame⟩
  · exact hrows.ids _ hcommitted hephemeral
  · obtain rfl := honce.inj (hrows.published row hrow) hcommitted hsame
    exact absurd (hrows.published_le _ hrow) (Nat.not_le.mpr hlt)

section Quiet

variable (hmessages : messagesFor w'.hub.log slot = messagesFor w.hub.log slot)
include hmessages

/-- A publication that is not for a buffering subscription changes nothing about it. -/
theorem Buffers.pass (h : Buffers env w slot sub buffered ids)
    (hnot : ∀ row ∈ rowsOf [published], sub.wants env row.event = true → row.event.isExpired w.now = true) :
    Buffers env w' slot sub buffered ids where
  silent := hmessages.trans h.silent
  sound row hrow := by
    obtain ⟨hpublished, hwants⟩ := h.sound row hrow
    exact ⟨by rw [hp.grown]; exact mem_append_left _ hpublished, hwants⟩
  ordered := h.ordered
  ids id hid := by
    rcases h.ids id hid with hephemeral | ⟨row, hrow, hsame⟩
    · exact .inl (hp.ephemeralIds id hephemeral)
    · exact .inr ⟨row, by rw [hp.grown]; exact mem_append_left _ hrow, hsame⟩
  complete row hrow hpublished hwants hfresh := by
    rw [hp.stored] at hrow
    rw [hp.now] at hfresh
    rw [hp.answers]
    rw [hp.grown] at hpublished
    rcases mem_append.mp hpublished with hold | hnew
    · exact h.complete row hrow hold hwants hfresh
    · rw [hnot row hnew hwants] at hfresh
      cases hfresh

/-- A publication that a buffering subscription keeps. -/
theorem Buffers.push (h : Buffers env w slot sub buffered ids) (hrows : RowsInv w)
    (hwants : sub.wants env published.event = true) :
    Buffers env w' slot sub (buffered ++ [published]) (published.event.id :: ids) where
  silent := hmessages.trans h.silent
  sound row hrow := by
    rw [rowsOf_append] at hrow
    rw [hp.grown]
    rcases mem_append.mp hrow with hold | hnew
    · obtain ⟨hpublished, hwanted⟩ := h.sound row hold
      exact ⟨mem_append_left _ hpublished, hwanted⟩
    · obtain ⟨-, hevent, -, -⟩ := hp.row row hnew
      exact ⟨mem_append_right _ hnew, by rw [hevent]; exact hwants⟩
  ordered := by
    rw [rowsOf_append, pairwise_append]
    refine ⟨h.ordered, ?_, ?_⟩
    · cases hephemeral : published.ephemeral with
      | true => simp [rowsOf_ephemeral hephemeral]
      | false =>
        obtain ⟨ingestSeq, -, heq⟩ := rowsOf_stored hephemeral
        simp [heq]
    · -- what is in the buffer was published before
      intro row hrow next hnext
      obtain ⟨-, -, hlt, -⟩ := hp.row next hnext
      exact (hrows.published_le row (h.sound row hrow).1).trans_lt hlt
  ids id hid := by
    rw [hp.grown]
    rcases mem_cons.mp hid with rfl | hold
    · cases hephemeral : published.ephemeral with
      | true => exact .inl (hp.ephemeral hephemeral)
      | false =>
        obtain ⟨ingestSeq, -, heq⟩ := rowsOf_stored hephemeral
        exact .inr ⟨⟨published.event, ingestSeq⟩, by simp [heq], rfl⟩
    · rcases h.ids id hold with hephemeral | ⟨row, hrow, hsame⟩
      · exact .inl (hp.ephemeralIds id hephemeral)
      · exact .inr ⟨row, mem_append_left _ hrow, hsame⟩
  complete row hrow hpublished hwanted hfresh := by
    rw [hp.stored] at hrow
    rw [hp.now] at hfresh
    rw [hp.answers, rowsOf_append]
    rw [hp.grown] at hpublished
    rcases mem_append.mp hpublished with hold | hnew
    · rcases h.complete row hrow hold hwanted hfresh with hin | hasked
      · exact .inl (mem_append_left _ hin)
      · exact .inr hasked
    · exact .inl (mem_append_right _ hnew)

/-- A full buffer drops an ephemeral event and remembers its id. -/
theorem Buffers.drop (h : Buffers env w slot sub buffered ids) (hephemeral : published.ephemeral = true) :
    Buffers env w' slot sub buffered (published.event.id :: ids) := by
  have hpass := h.pass hp hmessages (by simp [rowsOf_ephemeral hephemeral])
  refine ⟨hpass.silent, hpass.sound, hpass.ordered, ?_, hpass.complete⟩
  intro id hid
  rcases mem_cons.mp hid with rfl | hold
  · exact .inl (hp.ephemeral hephemeral)
  · exact hpass.ids id hold

theorem Delivered.pass (h : Delivered env w slot sub mark highWater history live)
    (hnot : ∀ row ∈ rowsOf [published], sub.wants env row.event = true → row.event.isExpired w.now = false →
      row.ingestSeq ≤ highWater) : Delivered env w' slot sub mark highWater history live where
  __ := h
  messages := hmessages.trans h.messages
  history_sound := by rw [hp.committed]; exact h.history_sound
  live_sound row hrow := by
    obtain ⟨hpublished, hrest⟩ := h.live_sound row hrow
    exact ⟨by rw [hp.grown]; exact mem_append_left _ hpublished, hrest⟩
  mark_below := h.mark_below.imp_right fun hle => hle.trans hp.cursor
  highWater_le := by rw [hp.allocated]; exact h.highWater_le
  history_complete := by rw [hp.stored, hp.now]; exact h.history_complete
  live_complete row hrow hpublished hwants hfresh hlt := by
    rw [hp.stored] at hrow
    rw [hp.now] at hfresh
    rw [hp.grown] at hpublished
    rcases mem_append.mp hpublished with hold | hnew
    · exact h.live_complete row hrow hold hwants hfresh hlt
    · exact absurd (hnot row hnew hwants hfresh) (Nat.not_le.mpr hlt)

/-- A subscription that waits for its history through a publication it wants. -/
theorem Buffers.publish (h : Buffers env w slot sub buffered ids) (hrows : RowsInv w) (honce : w.StoredOnce)
    (hwants : sub.wants env published.event = true)
    (hroom : ((buffering buffered ids).onPublish maxBufferedLive published).2 ≠ .overflow) :
    SlotInv env w' slot
      { sub with state := ((buffering buffered ids).onPublish maxBufferedLive published).1 } := by
  by_cases hseen : published.event.id ∈ ids
  · have hephemeral := h.fresh hp hrows honce hseen
    simp only [onPublish, hseen]
    exact slotInv_buffering (h.pass hp hmessages (by simp [rowsOf_ephemeral hephemeral]))
  · by_cases hspace : buffered.length < maxBufferedLive
    · simp only [onPublish, hseen, hspace]
      exact slotInv_buffering (h.push hp hmessages hrows hwants)
    · cases hephemeral : published.ephemeral with
      | true =>
        simp only [onPublish, hseen, hspace, hephemeral]
        exact slotInv_buffering (h.drop hp hmessages hephemeral)
      | false => simp [onPublish, hseen, hspace, hephemeral] at hroom

/-- A slot through a publication that is not for it, or that is stopped at the gate. -/
theorem SlotInv.pass (h : SlotInv env w slot sub)
    (hnot : ∀ row ∈ rowsOf [published], sub.wants env row.event = true → row.event.isExpired w.now = true) :
    SlotInv env w' slot sub := by
  unfold SlotInv at h ⊢
  cases hstate : sub.state with
  | buffering buffered ids =>
    rw [hstate] at h
    exact h.pass hp hmessages hnot
  | live mark =>
    rw [hstate] at h
    obtain ⟨highWater, history, live, hdelivered⟩ := h
    refine ⟨highWater, history, live, hdelivered.pass hp hmessages ?_⟩
    intro row hrow hwants hfresh
    rw [hnot row hrow hwants] at hfresh
    cases hfresh

end Quiet

/-- A stored publication that a live subscription is sent. -/
theorem Delivered.push {ingestSeq : Nat} (h : Delivered env w slot sub mark highWater history live)
    (hseq : published.ingestSeq = some ingestSeq) (hlt : mark < ingestSeq)
    (hwants : sub.wants env published.event = true) (hmessages : messagesFor w'.hub.log slot =
      messagesFor w.hub.log slot ++ [.event sub.key.subscriptionId published.event false]) :
    Delivered env w' slot sub ingestSeq highWater history (live ++ [⟨published.event, ingestSeq⟩]) := by
  have hrows : rowsOf [published] = [⟨published.event, ingestSeq⟩] := by simp [rowsOf, row, hseq]
  have hnew : (⟨published.event, ingestSeq⟩ : EventRow) ∈ rowsOf [published] := by simp [hrows]
  obtain ⟨-, -, -, hcursor⟩ := hp.row _ hnew
  refine ⟨?_, by rw [hp.committed]; exact h.history_sound, h.history_nodup, ?_, ?_, ?_,
    h.mark_above.trans hlt.le, .inr hcursor.le, by rw [hp.allocated]; exact h.highWater_le,
    by rw [hp.stored, hp.now]; exact h.history_complete, ?_⟩
  · rw [hmessages, h.messages]
    simp
  · intro row hrow
    rw [hp.grown]
    rcases mem_append.mp hrow with hold | hlast
    · obtain ⟨hpublished, hrest⟩ := h.live_sound row hold
      exact ⟨mem_append_left _ hpublished, hrest⟩
    · obtain rfl := mem_singleton.mp hlast
      exact ⟨mem_append_right _ hnew, hwants, h.mark_above.trans_lt hlt⟩
  · rw [pairwise_append]
    refine ⟨h.live_ordered, pairwise_singleton _ _, fun row hrow next hnext => ?_⟩
    obtain rfl := mem_singleton.mp hnext
    exact (h.live_below row hrow).trans_lt hlt
  · intro row hrow
    rcases mem_append.mp hrow with hold | hlast
    · exact (h.live_below row hold).trans hlt.le
    · obtain rfl := mem_singleton.mp hlast
      exact le_rfl
  · intro row hrow hpublished hwanted hfresh habove
    rw [hp.stored] at hrow
    rw [hp.now] at hfresh
    rw [hp.grown] at hpublished
    rcases mem_append.mp hpublished with hold | hlast
    · exact mem_append_left _ (h.live_complete row hrow hold hwanted hfresh habove)
    · rw [hrows] at hlast
      exact mem_append_right _ hlast

/-- A live subscription through a publication it wants. -/
theorem Delivered.publish (h : Delivered env w slot sub mark highWater history live)
    (hwants : sub.wants env published.event = true)
    (hmessages : messagesFor w'.hub.log slot = messagesFor w.hub.log slot ++
      if ((SubscriptionState.live mark).onPublish maxBufferedLive published).2 = .deliver ∧
          published.ephemeral = false then
        [.event sub.key.subscriptionId published.event false] else []) :
    SlotInv env w' slot
      { sub with state := ((SubscriptionState.live mark).onPublish maxBufferedLive published).1 } := by
  cases hseq : published.ingestSeq with
  | none =>
    have hephemeral : published.ephemeral = true := by simp [ephemeral, hseq]
    simp only [onPublish, hseq]
    refine slotInv_live (h.pass hp ?_ (by simp [rowsOf_ephemeral hephemeral]))
    simpa [hephemeral] using hmessages
  | some ingestSeq =>
    have hrow : rowsOf [published] = [⟨published.event, ingestSeq⟩] := by simp [rowsOf, row, hseq]
    by_cases hle : ingestSeq ≤ mark
    · simp only [onPublish, hseq, Option.any_some, hle] at hmessages ⊢
      refine slotInv_live (h.pass hp (by simpa using hmessages) ?_)
      -- a row at or below the mark that was not published yet lies in the history
      intro row hmem _ _
      obtain ⟨-, -, hcursor, -⟩ := hp.row row hmem
      rw [hrow, mem_singleton] at hmem
      subst hmem
      rcases h.mark_below with heq | hbelow
      · exact heq ▸ hle
      · exact absurd (hle.trans hbelow) (Nat.not_le.mpr hcursor)
    · simp only [onPublish, hseq, Option.any_some, hle] at hmessages ⊢
      have hstored : published.ephemeral = false := by simp [ephemeral, hseq]
      exact slotInv_live (h.push hp hseq (Nat.lt_of_not_le hle) hwants (by simpa [hstored] using hmessages))

/-- **One slot through a publication** that passed the gate and did not overflow its connection. -/
theorem SlotInv.publish (h : SlotInv env w slot sub) (hrows : RowsInv w) (honce : w.StoredOnce)
    (hroom : (sub.onPublish env maxBufferedLive published).2 ≠ .overflow)
    (hmessages : messagesFor w'.hub.log slot = messagesFor w.hub.log slot ++
      if (sub.onPublish env maxBufferedLive published).2 = .deliver ∧ published.ephemeral = false then
        [.event sub.key.subscriptionId published.event false] else []) :
    SlotInv env w' slot (sub.onPublish env maxBufferedLive published).1 := by
  cases hwants : sub.wants env published.event with
  | false =>
    have hsame : sub.onPublish env maxBufferedLive published = (sub, .nothing) :=
      Hub.onPublish_of_not_wants env hwants
    rw [hsame] at hmessages ⊢
    refine h.pass hp (by simpa using hmessages) fun row hrow hwanted => ?_
    rw [(hp.row row hrow).2.1, hwants] at hwanted
    cases hwanted
  | true =>
    have hturn : sub.onPublish env maxBufferedLive published =
        ({ sub with state := (sub.state.onPublish maxBufferedLive published).1 },
          (sub.state.onPublish maxBufferedLive published).2) := by simp [Subscription.onPublish, hwants]
    rw [hturn] at hroom hmessages ⊢
    unfold SlotInv at h
    cases hstate : sub.state with
    | buffering buffered ids =>
      rw [hstate] at h hroom hmessages
      refine h.publish hp ?_ hrows honce hwants hroom
      rw [hmessages, if_neg fun hboth => onPublish_buffering_silent _ _ _ _ hboth.1, append_nil]
    | live mark =>
      rw [hstate] at h hmessages
      obtain ⟨highWater, history, live, hdelivered⟩ := h
      exact hdelivered.publish hp hwants hmessages

end Slot

/-- A stored event is stopped at the gate only when it has expired. -/
theorem expired_of_stopped {now instant : Nat}
    (hdurable : published.event.eventClass ≠ .ephemeral) (hstored : published.ephemeral = false)
    (hstop : (hub.passesGate published now instant).2 = false) : published.event.isExpired now = true := by
  unfold Hub.passesGate at hstop
  split at hstop
  · rename_i hgate
    rcases hgate with hkind | hexpired
    · exact absurd (by rw [Event.eventClass, hkind]; decide) hdurable
    · exact hexpired
  · simp [hstored] at hstop

theorem Inv.publish {instant : Nat} (h : Inv env w)
    (honce : w.StoredOnce) (hp : Publishes w w' published) (hrows : RowsInv w')
    (hhub : w'.hub = w.hub.publish env published w.now instant) : Inv env w' := by
  have hanswers : ∀ answer ∈ w'.answers, AnswerInv env w' answer := by
    intro answer hanswer
    rw [hp.answers] at hanswer
    exact (h.answers answer hanswer).publish env hp
  have hgenerations := h.generations
  rw [← hp.registrations] at hgenerations
  obtain ⟨hstop, hqueued⟩ | ⟨-, overflowed, reached, hresult⟩ :=
    h.consistent.publish_cases env published w.now instant
  · rw [← hhub] at hqueued
    refine ⟨hqueued.toSameShape.consistent h.consistent, hrows, hanswers, ?_, hgenerations, ?_, ?_⟩
    · rw [hqueued.states, hp.registrations]
      exact h.registered
    · rw [hqueued.log, append_nil, hqueued.nextSlot]
      exact h.logged
    · intro slot sub hsub
      rw [hqueued.states] at hsub
      refine (h.slots slot sub hsub).pass hp (by rw [hqueued.log, append_nil]) fun row hrow _ => ?_
      obtain ⟨hcommitted, hevent, -, -⟩ := hp.row row hrow
      have hstored : published.ephemeral = false := by
        by_contra hephemeral
        simp [rowsOf_ephemeral (Bool.eq_true_of_not_eq_false hephemeral)] at hrow
      rw [hevent]
      exact expired_of_stopped (hevent ▸ h.rows.durable row hcommitted) hstored hstop
  · rw [← hhub] at hresult
    -- what is registered afterwards was registered before, on a connection that did not overflow
    have hback : ∀ slot sub', w'.hub.subscriptions slot = some sub' → ∃ sub, w.hub.subscriptions slot = some sub ∧
        sub' = (sub.onPublish env w.hub.maxBufferedLive published).1 ∧
        sub.key.connectionId ∉ overflowed := by
      intro slot sub' hsub'
      rw [hresult.subscriptions, Option.filter_eq_some_iff, Option.map_eq_some_iff] at hsub'
      obtain ⟨⟨sub, hsub, rfl⟩, hopen⟩ := hsub'
      refine ⟨sub, hsub, rfl, ?_⟩
      obtain ⟨state, hstate⟩ := Subscription.onPublish_shape env w.hub.maxBufferedLive published sub
      simpa [hstate] using hopen
    refine ⟨hresult.consistent, hrows, hanswers, ?_, hgenerations, ?_, ?_⟩
    · intro slot sub' hsub'
      obtain ⟨sub, hsub, rfl, -⟩ := hback slot sub' hsub'
      obtain ⟨state, hstate⟩ := Subscription.onPublish_shape env w.hub.maxBufferedLive published sub
      rw [hp.registrations, hstate]
      exact h.registered slot sub hsub
    · intro entry hentry slot hslot
      rw [hresult.nextSlot]
      rw [hresult.log] at hentry
      rcases mem_append.mp hentry with hold | hnew
      · exact h.logged entry hold slot hslot
      · obtain ⟨other, -, hlive⟩ := mem_filterMap.mp hnew
        obtain ⟨sub, hsub, -⟩ := Option.map_eq_some_iff.mp hlive
        rw [liveEntry_slot hlive] at hslot
        obtain rfl := Option.some.inj hslot
        exact h.consistent.bounded hsub
    · intro slot sub' hsub'
      obtain ⟨sub, hsub, rfl, hopen⟩ := hback slot sub' hsub'
      have hfanout : w.hub.fanoutAt env published slot =
          (sub.onPublish env w.hub.maxBufferedLive published).2 := by simp [Hub.fanoutAt, hsub]
      refine (h.slots slot sub hsub).publish hp h.rows honce ?_ ?_
      · intro hover
        exact hopen (hresult.overflow slot sub hsub (hfanout.trans hover))
      · have hreached : slot ∈ reached ↔ (sub.onPublish env w.hub.maxBufferedLive published).2 = .deliver := by
          rw [← hfanout]
          exact ⟨hresult.due slot, fun hdeliver => (hresult.all slot sub hsub hdeliver).resolve_right hopen⟩
        rw [hresult.log, messagesFor_append, messagesFor_reached hresult.nodup hsub]
        simp only [hreached]

end Invariant

end Immortal.Gateway
