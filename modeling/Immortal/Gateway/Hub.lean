import Immortal.Gateway.Visibility

/-!
# `Immortal.Gateway.Hub` — the subscription hub of a relay

`subscription.rs` keeps the live subscriptions of every connection. A subscription is registered before its history is
read; while the read runs it buffers what is published, and `history_ready` sends the history, the end marker and what
was buffered, after which the subscription is live. Four maps refer to each other: connections, subscriptions by slot,
slots by key, and an index from what a filter names to the slots that name it.

The hash maps of the source are functions here, with an absent entry as `none` or as an empty bucket. Slots are
natural numbers: the source's counter has 64 bits. `Hub.log` is not in the source; it records what `send_one` and
`deliver` handed over without being refused, and for which subscription.
-/

namespace Immortal.Gateway

open Immortal.Domain Immortal.Store

/-! ## Messages and queues -/

abbrev ConnectionId := Nat

/-- The hub's own handle for a subscription. -/
abbrev Slot := Nat

/-- A message for a connection. The texts of `Outbound::Text` are kept as what they were rendered from. -/
inductive Outbound
  | history (subscriptionId : String) (event : Event)
  | eose (subscriptionId : String)
  | closed (subscriptionId message : String)
  | event (subscriptionId : String) (event : Event) (ephemeral : Bool)
  deriving DecidableEq, Repr

def Outbound.isEphemeral : Outbound → Bool
  | .event _ _ ephemeral => ephemeral
  | _ => false

inductive Offer
  | queued
  | droppedEphemeral
  | full
  deriving DecidableEq, Repr

structure OutboundQueue where
  items : List Outbound
  ephemeral : Nat
  capacity : Nat
  deriving DecidableEq, Repr

namespace OutboundQueue

def new (capacity : Nat) : OutboundQueue := ⟨[], 0, max capacity 1⟩

def push (queue : OutboundQueue) (message : Outbound) : OutboundQueue :=
  { queue with
    items := queue.items ++ [message]
    ephemeral := if message.isEphemeral then queue.ephemeral + 1 else queue.ephemeral }

/-- Removes the oldest ephemeral event of the queue, if there is one. -/
def dropOldest (queue : OutboundQueue) : OutboundQueue :=
  if queue.items.any Outbound.isEphemeral then
    { queue with items := queue.items.eraseP Outbound.isEphemeral, ephemeral := queue.ephemeral - 1 }
  else queue

def offer (queue : OutboundQueue) (message : Outbound) : OutboundQueue × Offer :=
  if queue.capacity ≤ queue.items.length then
    if 0 < queue.ephemeral then (queue.dropOldest.push message, .droppedEphemeral)
    else if message.isEphemeral then (queue, .droppedEphemeral)
    else (queue, .full)
  else (queue.push message, .queued)

def pop (queue : OutboundQueue) : OutboundQueue :=
  match queue.items with
  | [] => queue
  | message :: rest =>
    { queue with items := rest, ephemeral := if message.isEphemeral then queue.ephemeral - 1 else queue.ephemeral }

end OutboundQueue

/-! ## The index -/

inductive IndexKey
  | id (id : String)
  | author (pubkey : String)
  | kind (kind : Nat)
  | tag (name value : String)
  | broad
  deriving DecidableEq, Repr

/-- The keys of one filter: a key for each value of each field that is present, and the catch-all without any. -/
def filterIndexKeys (filter : Filter) : List IndexKey :=
  let ids := filter.ids.getD [] |>.map IndexKey.id
  let authors := filter.authors.getD [] |>.map IndexKey.author
  let kinds := filter.kinds.getD [] |>.map IndexKey.kind
  let tags := filter.tags.entries.flatMap fun entry => entry.2.map (IndexKey.tag entry.1)
  let indexed := filter.ids.isSome || filter.authors.isSome || filter.kinds.isSome || !filter.tags.entries.isEmpty
  ids ++ authors ++ kinds ++ tags ++ if indexed then [] else [.broad]

def subscriptionIndexKeys (filters : List Filter) : List IndexKey := filters.flatMap filterIndexKeys

def eventIndexKeys (event : Event) : List IndexKey :=
  [.broad, .id event.id, .author event.pubkey, .kind event.kind] ++
    event.indexedTags.map fun entry => .tag entry.1 entry.2

/-! ## Subscriptions -/

structure PublishedEvent where
  event : Event
  ingestSeq : Option Nat
  deriving DecidableEq, Repr

def PublishedEvent.ephemeral (published : PublishedEvent) : Bool := published.ingestSeq.isNone

@[ext] structure SubscriptionKey where
  connectionId : ConnectionId
  subscriptionId : String
  deriving DecidableEq, Repr

inductive SubscriptionState
  | buffering (events : List PublishedEvent) (ids : List String)
  | live (highWater : Nat)
  deriving DecidableEq, Repr

structure Subscription where
  key : SubscriptionKey
  generation : Nat
  filters : List Filter
  readPubkeys : List String
  indexKeys : List IndexKey
  state : SubscriptionState

/-- What the hub is built with: `str::to_lowercase` for the search terms of a filter, and the length of a message as
it is written. -/
structure HubEnv where
  lowercase : String → String
  wireLength : Outbound → Nat

/-- The two questions `publish` asks before it looks at the state of a subscription. -/
def Subscription.wants (env : HubEnv) (sub : Subscription) (event : Event) : Bool :=
  matchesAny env.lowercase sub.filters event && eventVisibleToReader event sub.readPubkeys

/-- What the loop of `publish` goes on to do after it updated a subscription. -/
inductive Fanout
  | nothing
  | overflow
  | deliver
  deriving DecidableEq, Repr

namespace SubscriptionState

/-- The state of a subscription that wants the event after one turn of the loop. -/
def onPublish (maxBufferedLive : Nat) (published : PublishedEvent) : SubscriptionState → SubscriptionState × Fanout
  | .buffering events ids =>
    if published.event.id ∈ ids then (.buffering events ids, .nothing)
    else if events.length < maxBufferedLive then
      (.buffering (events ++ [published]) (published.event.id :: ids), .nothing)
    -- a stored event may not be skipped
    else if published.ephemeral then (.buffering events (published.event.id :: ids), .nothing)
    else (.buffering events (published.event.id :: ids), .overflow)
  | .live highWater =>
    if published.ingestSeq.any (fun ingestSeq => ingestSeq ≤ highWater) then (.live highWater, .nothing)
    else (.live (published.ingestSeq.getD highWater), .deliver)

end SubscriptionState

def Subscription.onPublish (env : HubEnv) (maxBufferedLive : Nat) (published : PublishedEvent)
    (sub : Subscription) : Subscription × Fanout :=
  if sub.wants env published.event then
    ({ sub with state := (sub.state.onPublish maxBufferedLive published).1 },
      (sub.state.onPublish maxBufferedLive published).2)
  else (sub, .nothing)

/-! ## The hub -/

structure ConnectionSink where
  outbound : OutboundQueue
  subscriptions : List String

/-- A message that was handed to a connection, and the slot it was sent for. -/
structure Sent where
  slot : Option Slot
  message : Outbound
  deriving DecidableEq, Repr

structure Hub where
  connections : ConnectionId → Option ConnectionSink
  subscriptions : Slot → Option Subscription
  slots : SubscriptionKey → Option Slot
  nextSlot : Slot
  index : IndexKey → List Slot
  maxBufferedLive : Nat
  maxOutboundBytes : Nat
  recentEphemeral : List (String × Nat)
  log : List Sent

namespace Hub

def start (maxBufferedLive maxOutboundBytes : Nat) : Hub where
  connections := fun _ => none
  subscriptions := fun _ => none
  slots := fun _ => none
  nextSlot := 0
  index := fun _ => []
  maxBufferedLive := max maxBufferedLive 1
  maxOutboundBytes := max maxOutboundBytes 1
  recentEphemeral := []
  log := []

def setConnection (hub : Hub) (connectionId : ConnectionId) (connection : Option ConnectionSink) : Hub :=
  { hub with connections := Function.update hub.connections connectionId connection }

def setSubscription (hub : Hub) (slot : Slot) (sub : Option Subscription) : Hub :=
  { hub with subscriptions := Function.update hub.subscriptions slot sub }

/-- Takes a subscription id out of the list of its connection. -/
def unlist (hub : Hub) (key : SubscriptionKey) : Hub :=
  match hub.connections key.connectionId with
  | none => hub
  | some connection =>
    hub.setConnection key.connectionId
      (some { connection with subscriptions := connection.subscriptions.filter (· ≠ key.subscriptionId) })

def removeSubscription (hub : Hub) (key : SubscriptionKey) : Hub :=
  match hub.slots key with
  | none => hub
  | some slot =>
    let hub := { hub with slots := Function.update hub.slots key none }
    match hub.subscriptions slot with
    | none => hub
    | some sub =>
      let hub := hub.setSubscription slot none
      let hub := { hub with
        index := fun indexKey =>
          if indexKey ∈ sub.indexKeys then (hub.index indexKey).filter (· ≠ slot) else hub.index indexKey }
      hub.unlist key

def closeConnection (hub : Hub) (connectionId : ConnectionId) : Hub :=
  match hub.connections connectionId with
  | none => hub
  | some connection =>
    connection.subscriptions.foldl (fun hub subscriptionId => hub.removeSubscription ⟨connectionId, subscriptionId⟩)
      (hub.setConnection connectionId none)

def addConnection (hub : Hub) (connectionId : ConnectionId) (queueCapacity : Nat) : Hub :=
  (hub.closeConnection connectionId).setConnection connectionId (some ⟨OutboundQueue.new queueCapacity, []⟩)

/-- The part of `register` after the old subscription of the key has been removed. -/
def insertSubscription (hub : Hub) (connection : ConnectionSink) (key : SubscriptionKey) (generation : Nat)
    (filters : List Filter) (readPubkeys : List String) : Hub :=
  let slot := hub.nextSlot
  let indexKeys := subscriptionIndexKeys filters
  { hub with
    nextSlot := slot + 1
    index := fun indexKey => if indexKey ∈ indexKeys then slot :: hub.index indexKey else hub.index indexKey
    connections := Function.update hub.connections key.connectionId
      (some { connection with subscriptions := key.subscriptionId :: connection.subscriptions })
    slots := Function.update hub.slots key (some slot)
    subscriptions := Function.update hub.subscriptions slot
      (some ⟨key, generation, filters, readPubkeys, indexKeys, .buffering [] []⟩) }

/-- `register`: without a connection nothing is registered and the answer is false. -/
def register (hub : Hub) (key : SubscriptionKey) (generation : Nat) (filters : List Filter)
    (readPubkeys : List String) : Hub :=
  match hub.connections key.connectionId with
  | none => hub
  | some _ =>
    let hub := hub.removeSubscription key
    match hub.connections key.connectionId with
    | none => hub
    | some connection => hub.insertSubscription connection key generation filters readPubkeys

/-! ### Sending -/

/-- `offer` on the queue of a connection: `none` when there is no connection or its queue is full. -/
def offer (hub : Hub) (slot : Option Slot) (connectionId : ConnectionId) (message : Outbound) : Option Hub :=
  match hub.connections connectionId with
  | none => none
  | some connection =>
    if (connection.outbound.offer message).2 = .full then none
    else some
      { hub.setConnection connectionId (some { connection with outbound := (connection.outbound.offer message).1 }) with
        log := hub.log ++ [⟨slot, message⟩] }

variable (env : HubEnv) (hub : Hub)

def sendOne (slot : Option Slot) (connectionId : ConnectionId) (message : Outbound) : Hub × Bool :=
  if hub.maxOutboundBytes < env.wireLength message then (hub.closeConnection connectionId, false)
  else
    match hub.offer slot connectionId message with
    | some hub => (hub, true)
    | none => (hub.closeConnection connectionId, false)

/-- A loop of `send_one` that stops at the first refusal. -/
def sendAll (hub : Hub) (slot : Option Slot) (connectionId : ConnectionId) : List Outbound → Hub × Bool
  | [] => (hub, true)
  | message :: rest =>
    match hub.sendOne env slot connectionId message with
    | (hub, true) => sendAll hub slot connectionId rest
    | (hub, false) => (hub, false)

def closeSubscription (key : SubscriptionKey) (message : String) : Hub :=
  (hub.sendOne env none key.connectionId (.closed key.subscriptionId message)).1.removeSubscription key

/-- The buffered events that `history_ready` sends after the end marker. -/
def liveAfter (highWater : Nat) (events : List EventRow) (buffered : List PublishedEvent) : List PublishedEvent :=
  buffered.filter fun published =>
    !(events.map (·.event.id)).contains published.event.id &&
      published.ingestSeq.all (fun ingestSeq => highWater < ingestSeq)

def liveHighWater (highWater : Nat) (live : List PublishedEvent) : Nat :=
  (live.filterMap (·.ingestSeq)).foldl max highWater

def historyMessages (key : SubscriptionKey) (events : List EventRow) : List Outbound :=
  events.map fun row => .history key.subscriptionId row.event

def liveMessages (key : SubscriptionKey) (live : List PublishedEvent) : List Outbound :=
  live.map fun published => .event key.subscriptionId published.event published.ephemeral

/-- The three loops at the end of `history_ready`. -/
def sendHistory (slot : Slot) (key : SubscriptionKey) (events : List EventRow)
    (live : List PublishedEvent) : Hub :=
  let hub := (hub.sendAll env (some slot) key.connectionId (historyMessages key events)).1
  match hub.sendOne env (some slot) key.connectionId (.eose key.subscriptionId) with
  | (hub, false) => hub
  | (hub, true) => (hub.sendAll env (some slot) key.connectionId (liveMessages key live)).1

def historyReady (key : SubscriptionKey) (generation highWater : Nat) (events : List EventRow) : Hub :=
  match hub.slots key with
  | none => hub
  | some slot =>
    match hub.subscriptions slot with
    | none => hub
    | some sub =>
      if sub.generation ≠ generation then hub
      else
        match sub.state with
        | .live _ => hub
        | .buffering buffered _ =>
          let live := liveAfter highWater events buffered
          (hub.setSubscription slot (some { sub with state := .live (liveHighWater highWater live) })).sendHistory
            env slot key events live

/-! ### Publishing -/

/-- `deliver`: a message that is too long, or that a full queue may not drop, marks the connection. -/
def deliver (overflowed : List ConnectionId) (slot : Slot) (connectionId : ConnectionId)
    (message : Outbound) : Hub × List ConnectionId :=
  if (hub.connections connectionId).isNone then (hub, overflowed)
  else if hub.maxOutboundBytes < env.wireLength message then (hub, connectionId :: overflowed)
  else
    match hub.offer (some slot) connectionId message with
    | some hub => (hub, overflowed)
    | none => (hub, connectionId :: overflowed)

/-- One turn of the loop of `publish`. -/
def publishTo (published : PublishedEvent) (acc : Hub × List ConnectionId) (slot : Slot) : Hub × List ConnectionId :=
  match acc.1.subscriptions slot with
  | none => acc
  | some sub =>
    let connectionId := sub.key.connectionId
    let hub := acc.1.setSubscription slot (some (sub.onPublish env acc.1.maxBufferedLive published).1)
    match (sub.onPublish env acc.1.maxBufferedLive published).2 with
    | .nothing => (hub, acc.2)
    | .overflow => (hub, connectionId :: acc.2)
    | .deliver =>
      if connectionId ∈ acc.2 then (hub, acc.2)
      else hub.deliver env acc.2 slot connectionId
        (.event sub.key.subscriptionId published.event published.ephemeral)

/-- The slots of the buckets an event falls into, sorted and without repetition. -/
def candidates (event : Event) : List Slot :=
  ((eventIndexKeys event).flatMap hub.index).dedup.insertionSort (· ≤ ·)

/-- The loop of `publish` over some slots, and the closing of the connections that overflowed. -/
def fanOut (published : PublishedEvent) (slots : List Slot) : Hub :=
  let result := slots.foldl (publishTo env published) (hub, [])
  result.2.foldl closeConnection result.1

def ephemeralDedupWindow : Nat := 60
def maxRecentEphemeralIds : Nat := 4096

/-- The entries `accept_ephemeral_id` keeps at an instant, given in seconds. -/
def dropExpired (instant : Nat) : List (String × Nat) → List (String × Nat)
  | [] => []
  | (id, seen) :: rest =>
    if ephemeralDedupWindow ≤ instant - seen ∨ maxRecentEphemeralIds ≤ rest.length + 1 then dropExpired instant rest
    else (id, seen) :: rest

/-- `accept_ephemeral_id`: the set of ids is that of the queue. -/
def acceptEphemeralId (instant : Nat) (eventId : String) : Hub × Bool :=
  let recent := dropExpired instant hub.recentEphemeral
  if (recent.map (·.1)).contains eventId then ({ hub with recentEphemeral := recent }, false)
  else ({ hub with recentEphemeral := recent ++ [(eventId, instant)] }, true)

/-- What `publish` asks of an event before it looks at any subscription. -/
def passesGate (published : PublishedEvent) (now instant : Nat) : Hub × Bool :=
  if published.event.kind = 22242 ∨ published.event.isExpired now then (hub, false)
  else if published.ephemeral then hub.acceptEphemeralId instant published.event.id
  else (hub, true)

def publish (published : PublishedEvent) (now instant : Nat) : Hub :=
  match hub.passesGate published now instant with
  | (hub, false) => hub
  | (hub, true) => hub.fanOut env published (hub.candidates published.event)

/-! ### Commands -/

inductive HubCommand
  | addConnection (connectionId : ConnectionId) (queueCapacity : Nat)
  | register (key : SubscriptionKey) (generation : Nat) (filters : List Filter) (readPubkeys : List String)
  | historyReady (key : SubscriptionKey) (generation highWater : Nat) (events : List EventRow)
  | remove (key : SubscriptionKey)
  | closeSubscription (key : SubscriptionKey) (message : String)
  | removeConnection (connectionId : ConnectionId)
  | publish (published : PublishedEvent) (now instant : Nat)
  /-- The task of a connection takes a message from its queue. -/
  | pop (connectionId : ConnectionId)

def popOutbound (connectionId : ConnectionId) : Hub :=
  match hub.connections connectionId with
  | none => hub
  | some connection => hub.setConnection connectionId (some { connection with outbound := connection.outbound.pop })

def handle : HubCommand → Hub
  | .addConnection connectionId queueCapacity => hub.addConnection connectionId queueCapacity
  | .register key generation filters readPubkeys => hub.register key generation filters readPubkeys
  | .historyReady key generation highWater events => hub.historyReady env key generation highWater events
  | .remove key => hub.removeSubscription key
  | .closeSubscription key message => hub.closeSubscription env key message
  | .removeConnection connectionId => hub.closeConnection connectionId
  | .publish published now instant => hub.publish env published now instant
  | .pop connectionId => hub.popOutbound connectionId

/-- The hub after a sequence of commands. -/
def run (commands : List HubCommand) : Hub := commands.foldl (handle env) hub

end Hub

end Immortal.Gateway
