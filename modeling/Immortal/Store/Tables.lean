import Immortal.Domain.Deletion
import Immortal.Txn.Program

/-!
# `Immortal.Store.Tables` — the relay's tables and the statements admission runs on them

The rows of migration `0001` and `0008` that admission reads or writes, the row writes a statement leaves in
the transaction log, and the prepared statements of `store/statements.rs` as functions of the database a
statement sees. A column that the only insert path computes from the event (`replacement_identifier`,
`expires_at`, the indexed tags) is a function of the event here.

Deleting an event cascades to its replaceable head. A tombstone outlives the request that it names: migration `0002`
drops the reference from `deletion_tombstone` to `nostr_event`, so no delete is refused.
-/

namespace Immortal.Store

open Immortal.Domain Txn

/-! ## Rows -/

/-- A row of `nostr_event`. -/
structure EventRow where
  event : Event
  ingestSeq : Nat
  deriving DecidableEq, Repr

def EventRow.replacementIdentifier (row : EventRow) : Option String :=
  row.event.replacementAddress.map (·.identifier)

def EventRow.expiresAt (row : EventRow) : Option Nat := row.event.expiration

/-- A row of `replaceable_head`. -/
structure HeadRow where
  address : ReplacementAddress
  eventId : String
  createdAt : Nat
  deriving DecidableEq, Repr

/-- A row of `mkt_immutable_coordinate`. -/
structure CoordinateRow where
  address : ReplacementAddress
  eventId : String
  sig : String
  deriving DecidableEq, Repr

/-- The singleton row of `relay_policy`. -/
structure AdmissionPolicy where
  closedMembership : Bool
  maxContentBytes : Nat
  maxTags : Nat
  maxFutureSeconds : Nat
  maxPastSeconds : Nat
  deriving DecidableEq, Repr

/-- The columns of `relay_group` that admission reads. -/
structure GroupRow where
  id : String
  closed : Bool
  supportedKinds : Option (List Nat)
  deriving DecidableEq, Repr

structure GroupMemberRow where
  groupId : String
  pubkey : String
  roles : List String
  deriving DecidableEq, Repr

/-- The operator's tables: admission reads them and never writes them. -/
structure Administration where
  policy : Option AdmissionPolicy
  blockedPubkey : List (String × String)
  blockedKind : List (Nat × String)
  allowedPubkey : List String
  allowedKind : List Nat
  memberPubkey : List String
  agentOwner : List (String × String)
  groups : List GroupRow
  groupMembers : List GroupMemberRow
  groupInvites : List (String × String)
  deriving DecidableEq, Repr

structure Db where
  nostrEvent : List EventRow
  replaceableHead : List HeadRow
  deletionTombstone : List DeletionTombstone
  mktImmutableCoordinate : List CoordinateRow
  ingestSequence : Nat
  administration : Administration
  deriving DecidableEq, Repr

/-- A freshly migrated store. -/
def Db.empty (administration : Administration) : Db := ⟨[], [], [], [], 0, administration⟩

/-! ## Writes -/

/-- A row write in the log of a transaction. -/
inductive Write where
  | insertEvent (row : EventRow)
  | deleteEvents (ids : List String)
  | upsertHead (row : HeadRow)
  | insertTombstone (tombstone : DeletionTombstone)
  | insertCoordinate (row : CoordinateRow)
  deriving DecidableEq, Repr

/-- `INSERT_ADDRESS_TOMBSTONE` on one row: `deleted_through` only grows, and the request that raised it is
    remembered with it. -/
def raiseThrough (address : ReplacementAddress) (through : Nat) (requestId : String) :
    DeletionTombstone → DeletionTombstone
  | .address a t r =>
    if a = address then .address a (max t through) (if t < through then requestId else r) else .address a t r
  | .event e a r => .event e a r

def DeletionTombstone.isEvent (eventId author : String) : DeletionTombstone → Bool
  | .event e a _ => e = eventId ∧ a = author
  | .address _ _ _ => false

def DeletionTombstone.isAddress (address : ReplacementAddress) : DeletionTombstone → Bool
  | .address a _ _ => a = address
  | .event _ _ _ => false

/-- The two tombstone inserts with their `ON CONFLICT` clauses. -/
def insertTombstone (rows : List DeletionTombstone) : DeletionTombstone → List DeletionTombstone
  | .event eventId author requestId =>
    if rows.any (DeletionTombstone.isEvent eventId author) then rows
    else rows ++ [.event eventId author requestId]
  | .address address through requestId =>
    if rows.any (DeletionTombstone.isAddress address) then rows.map (raiseThrough address through requestId)
    else rows ++ [.address address through requestId]

/-- `UPSERT_HEAD` keyed by address. -/
def upsertHeadRow (rows : List HeadRow) (row : HeadRow) : List HeadRow :=
  if rows.any (fun r => r.address = row.address) then rows.map (fun r => if r.address = row.address then row else r)
  else rows ++ [row]

def Db.write (d : Db) : Write → Db
  | .insertEvent row => { d with nostrEvent := d.nostrEvent ++ [row], ingestSequence := row.ingestSeq }
  | .deleteEvents ids => { d with
      nostrEvent := d.nostrEvent.filter (fun row => row.event.id ∉ ids)
      -- `replaceable_head.event_id REFERENCES nostr_event(id) ON DELETE CASCADE`
      replaceableHead := d.replaceableHead.filter (fun row => row.eventId ∉ ids) }
  | .upsertHead row => { d with replaceableHead := upsertHeadRow d.replaceableHead row }
  | .insertTombstone tombstone => { d with deletionTombstone := insertTombstone d.deletionTombstone tombstone }
  | .insertCoordinate row => { d with mktImmutableCoordinate := d.mktImmutableCoordinate ++ [row] }

instance : Database Db Write := ⟨Db.write⟩

/-! ## Statements that read -/

namespace Db
variable (d : Db)

def duplicate (id : String) : Bool := d.nostrEvent.any (fun row => row.event.id = id)

/-- `TOMBSTONE_MATCH`; a null identifier matches no address row. -/
def tombstoneMatch (id pubkey : String) (kind : Nat) (identifier : Option String) (createdAt : Nat) : Bool :=
  d.deletionTombstone.any fun
    | .event eventId author _ => eventId = id ∧ author = pubkey
    | .address a through _ =>
      a.kind = kind ∧ a.pubkey = pubkey ∧ some a.identifier = identifier ∧ createdAt ≤ through

def head (address : ReplacementAddress) : Option HeadRow :=
  d.replaceableHead.find? (fun row => row.address = address)

def mktImmutableBinding (address : ReplacementAddress) : Option (String × String) :=
  (d.mktImmutableCoordinate.find? (fun row => row.address = address)).map (fun row => (row.eventId, row.sig))

def blockedPubkey (pubkey : String) : Option String :=
  (d.administration.blockedPubkey.find? (fun row => row.1 = pubkey)).map (·.2)

def blockedKind (kind : Nat) : Option String :=
  (d.administration.blockedKind.find? (fun row => row.1 = kind)).map (·.2)

def allowedPubkey (pubkey : String) : Bool :=
  d.administration.allowedPubkey.isEmpty || d.administration.allowedPubkey.contains pubkey

def allowedKind (kind : Nat) : Bool :=
  d.administration.allowedKind.isEmpty || d.administration.allowedKind.contains kind

def member (pubkey : String) : Bool := d.administration.memberPubkey.contains pubkey

def agentOwner (agent owner : String) : Bool := d.administration.agentOwner.contains (agent, owner)

def loadGroup (groupId : String) : Option GroupRow :=
  d.administration.groups.find? (fun row => row.id = groupId)

def groupMember (groupId pubkey : String) : Option (List String) :=
  (d.administration.groupMembers.find? (fun row => row.groupId = groupId ∧ row.pubkey = pubkey)).map (·.roles)

def validGroupInvite (groupId : String) (code : Option String) : Bool :=
  code.any (fun c => d.administration.groupInvites.contains (groupId, c))

/-- `GROUP_RECENT_IDS`: the fifty newest live events of the group by other authors. -/
def groupRecentIds (groupId pubkey : String) (now : Nat) : List String :=
  let rows := d.nostrEvent.filter (fun row =>
    row.event.pubkey ≠ pubkey ∧ row.expiresAt.all (fun expiresAt => now < expiresAt) ∧
      row.event.tags.any (fun tag => tag.name = some "h" ∧ tag.value = some groupId))
  ((rows.mergeSort (fun a b => b.ingestSeq ≤ a.ingestSeq)).take 50).map (fun row => row.event.id)

/-- The ids of the rows a `DELETE` selects. -/
def selectedIds (select : EventRow → Bool) : List String :=
  (d.nostrEvent.filter select).map (fun row => row.event.id)

end Db

/-! ## Statements that write -/

/-- `replaceable_head.event_id` is unique: another address already has the event as its head. -/
def Db.headTaken (d : Db) (row : HeadRow) : Bool :=
  d.replaceableHead.any (fun r => r.eventId = row.eventId ∧ r.address ≠ row.address)

/-- `mkt_immutable_coordinate` has the coordinate as its primary key and a unique event id. -/
def Db.coordinateTaken (d : Db) (row : CoordinateRow) : Bool :=
  d.mktImmutableCoordinate.any (fun r => r.address = row.address ∨ r.eventId = row.eventId)

def deleteEventTarget (eventId author : String) (row : EventRow) : Bool :=
  row.event.id = eventId ∧ row.event.pubkey = author ∧ row.event.kind ≠ 5

def deleteAddressTarget (address : ReplacementAddress) (through : Nat) (row : EventRow) : Bool :=
  row.event.kind = address.kind ∧ row.event.pubkey = address.pubkey ∧
    row.replacementIdentifier = some address.identifier ∧ row.event.createdAt ≤ through

/-- `DELETE_EXPIRED`, one statement on its own. -/
def deleteExpired (now : Nat) (d : Db) : Db :=
  d.write (.deleteEvents (d.selectedIds fun row => row.expiresAt.any (fun expiresAt => expiresAt ≤ now)))

end Immortal.Store
