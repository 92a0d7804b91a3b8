import Immortal.Domain.Event

/-!
# `Immortal.Domain.Deletion` — deletion requests, tombstones and group actions

`deletion.rs` turns a kind 5 event into the tombstones it is allowed to create, and `expanded.rs` reads the
NIP-29 action of a moderation event. Both are pure functions of the event; the store applies their results
inside the admission transaction.
-/

namespace Immortal.Domain

/-! ## Ordered sets -/

/-- A `BTreeSet` built from a sequence of insertions: its elements once each, in ascending order. -/
def btreeSet {α : Type} [LinearOrder α] (inserted : List α) : List α :=
  (inserted.dedup).insertionSort (· ≤ ·)

@[simp] theorem mem_btreeSet {α : Type} [LinearOrder α] {inserted : List α} {a : α} :
    a ∈ btreeSet inserted ↔ a ∈ inserted := by
  simp [btreeSet]

/-! ## Deletion requests -/

/-- Durable deletion state, as the rows of `deletion_tombstone` hold it. -/
inductive DeletionTombstone where
  | event (eventId author requestId : String)
  | address (address : ReplacementAddress) (through : Nat) (requestId : String)
  deriving DecidableEq, Repr

namespace DeletionTombstone

/-- Deletion requests are permanent: no tombstone deletes a kind 5 event. -/
def deletes (tombstone : DeletionTombstone) (event : Event) : Bool :=
  if event.kind = 5 then false
  else match tombstone with
    | .event eventId author _ => event.id = eventId ∧ event.pubkey = author
    | .address target through _ => event.createdAt ≤ through ∧ event.replacementAddress = some target

def requestId : DeletionTombstone → String
  | .event _ _ requestId => requestId
  | .address _ _ requestId => requestId

theorem deletes_event_iff {id author request : String} {event : Event} :
    (DeletionTombstone.event id author request).deletes event = true ↔
      event.kind ≠ 5 ∧ event.id = id ∧ event.pubkey = author := by
  by_cases h : event.kind = 5 <;> simp [deletes]

theorem deletes_address_iff {address : ReplacementAddress} {through : Nat} {request : String} {event : Event} :
    (DeletionTombstone.address address through request).deletes event = true ↔
      event.createdAt ≤ through ∧ event.replacementAddress = some address := by
  by_cases h : event.kind = 5
  · simp only [deletes, h, if_true, Bool.false_eq_true, false_iff, not_and]
    exact fun _ ha => kind_ne_five_of_address ha h
  · simp [deletes, h]

end DeletionTombstone

/-- A validated view of a NIP-09 kind 5 event. -/
structure DeletionRequest where
  requestId : String
  author : String
  createdAt : Nat
  eventIds : List String
  addresses : List ReplacementAddress
  deriving DecidableEq, Repr

namespace DeletionRequest

/-- The event id an `e` tag asks to delete; malformed ids are ignored. -/
def tagEventId (tag : Tag) : Option String :=
  match tag.name, tag.value with
  | some "e", some id => if isLowerHex 32 id then some id else none
  | _, _ => none

/-- The address an `a` tag of `author` asks to delete; malformed and foreign addresses are ignored. -/
def tagAddress (author : String) (tag : Tag) : Option ReplacementAddress :=
  match tag.name, tag.value with
  | some "a", some value =>
    match ReplacementAddress.fromStr value with
    | .ok address => if address.pubkey = author then some address else none
    | .error _ => none
  | _, _ => none

def fromEvent (event : Event) : Except DomainError DeletionRequest :=
  if event.kind ≠ 5 then .error .notDeletionRequest
  else .ok {
    requestId := event.id
    author := event.pubkey
    createdAt := event.createdAt
    eventIds := btreeSet (event.tags.filterMap tagEventId)
    addresses := btreeSet (event.tags.filterMap (tagAddress event.pubkey)) }

def tombstones (request : DeletionRequest) : List DeletionTombstone :=
  request.eventIds.map (fun eventId => .event eventId request.author request.requestId) ++
    request.addresses.map (fun address => .address address request.createdAt request.requestId)

theorem mem_tombstones_event {request : DeletionRequest} {id author rid : String} :
    .event id author rid ∈ request.tombstones ↔
      id ∈ request.eventIds ∧ author = request.author ∧ rid = request.requestId := by
  simp only [tombstones, List.mem_append, List.mem_map, DeletionTombstone.event.injEq, reduceCtorEq,
    and_false, exists_false, or_false]
  constructor
  · rintro ⟨_, hm, rfl, rfl, rfl⟩; exact ⟨hm, rfl, rfl⟩
  · rintro ⟨hm, rfl, rfl⟩; exact ⟨id, hm, rfl, rfl, rfl⟩

theorem mem_tombstones_address {request : DeletionRequest} {a : ReplacementAddress} {t : Nat} {rid : String} :
    .address a t rid ∈ request.tombstones ↔
      a ∈ request.addresses ∧ t = request.createdAt ∧ rid = request.requestId := by
  simp only [tombstones, List.mem_append, List.mem_map, DeletionTombstone.address.injEq, reduceCtorEq,
    and_false, exists_false, false_or]
  constructor
  · rintro ⟨_, hm, rfl, rfl, rfl⟩; exact ⟨hm, rfl, rfl⟩
  · rintro ⟨hm, rfl, rfl⟩; exact ⟨a, hm, rfl, rfl, rfl⟩

end DeletionRequest

/-! ## Group actions -/

structure GroupMetadata where
  name : String
  about : String
  picture : String
  closed : Bool
  supportedKinds : Option (List Nat)
  deriving DecidableEq, Repr

/-- The NIP-29 action of a moderation event. -/
inductive GroupAction where
  | putUser (pubkey : String) (roles : List String)
  | removeUser (pubkey : String)
  | editMetadata (metadata : GroupMetadata)
  | deleteEvent (eventId : String)
  | createGroup
  | deleteGroup
  | createInvite (code : String)
  | updatePins (tags : List Tag)
  | join (code : Option String)
  | leave
  deriving DecidableEq, Repr

def GroupMetadata.fromTags (tags : List Tag) : Except DomainError GroupMetadata := do
  let scalar := fun (name : String) => ((tags.find? (fun tag => tag.name = some name)).bind Tag.value).getD ""
  let supported ← match tags.find? (fun tag => tag.name = some "supported_kinds") with
    | none => pure none
    | some tag =>
      match (tag.drop 1).mapM (parseUnsigned u16Max) with
      | some kinds => pure (some kinds)
      | none => throw (.invalidEvent "invalid supported group kind")
  return { name := scalar "name", about := scalar "about", picture := scalar "picture",
           closed := tags.any (fun tag => tag = ["closed"]), supportedKinds := supported }

/-- The single tag of that name, when it has a non-empty value (`exactly_one`). -/
def exactlyOne (event : Event) (name : String) : Except DomainError Tag :=
  match event.tags.filter (fun tag => tag.name = some name) with
  | [tag] =>
    if tag.value.any (· ≠ "") then .ok tag
    else .error (.invalidEvent ("event requires exactly one " ++ name ++ " tag"))
  | _ => .error (.invalidEvent ("event requires exactly one " ++ name ++ " tag"))

def GroupAction.fromEvent (event : Event) : Except DomainError (Option GroupAction) := do
  match event.kind with
  | 9000 =>
    let tag ← exactlyOne event "p"
    let pubkey := tag.value.getD ""
    let _ ← decodeLowerHex 32 pubkey "group member pubkey"
    return some (.putUser pubkey (tag.drop 2))
  | 9001 =>
    let tag ← exactlyOne event "p"
    let pubkey := tag.value.getD ""
    let _ ← decodeLowerHex 32 pubkey "group member pubkey"
    return some (.removeUser pubkey)
  | 9002 => return some (.editMetadata (← GroupMetadata.fromTags event.tags))
  | 9005 =>
    let tag ← exactlyOne event "e"
    let eventId := tag.value.getD ""
    let _ ← decodeLowerHex 32 eventId "group event id"
    return some (.deleteEvent eventId)
  | 9007 => return some .createGroup
  | 9008 => return some .deleteGroup
  | 9009 => return some (.createInvite ((← exactlyOne event "code").value.getD ""))
  | 9010 => return some (.updatePins (event.tags.filter (fun tag => tag.name = some "e" ∨ tag.name = some "a")))
  | 9021 => return some (.join (event.tagValues "code").head?)
  | 9022 => return some .leave
  | kind =>
    if kind = 9003 ∨ kind = 9004 ∨ kind = 9006 ∨ (9011 ≤ kind ∧ kind ≤ 9020) then
      throw (.invalidEvent "unsupported NIP-29 moderation kind")
    else return none

end Immortal.Domain
