import Immortal.Store.Query

/-!
# `Immortal.Store.Postgres` — admission on a server that refuses some texts

`admitInner` is the admission transaction on a database that stores whatever it is given. PostgreSQL does not: it
refuses U+0000 in a text parameter and in a `jsonb` string, and a btree index refuses an entry of more than 2704 bytes.
`Postgres.admitInner` is the same transaction with these refusals in front of the statements that bind a client's text
or add an index entry of a width the client chooses; each of them ends the transaction with a database error.
`Postgres.admitInner_eq` says that nothing else is different.

Ids, keys and signatures are fixed-width hexadecimal text and are never refused.
-/

namespace Immortal.Store

open Immortal.Domain Txn
open Prog (query exec execUnless acquire acquireAll ofExcept)

/-! ## Index entries -/

/-- The size of the btree entry for a row with these text columns, after compression. -/
structure Postgres where
  indexEntryBytes : List String → Nat

/-- The texts that the insert of the event row binds: its content, and the strings of its tags as a `jsonb` value. -/
def bindRow (event : Event) : Except StoreError Unit := do
  bindTexts [event.content]
  castJsonb event.tags.flatten

/-- Both indexes of `nostr_indexed_tag` take an entry for each indexed tag. -/
def tagEntries (event : Event) : List (List String) :=
  event.indexedTags.flatMap fun pair => [[event.id, pair.1, pair.2], [pair.1, pair.2, event.id]]

/-- The primary key of `replaceable_head`, and that of `mkt_immutable_coordinate`. -/
def addressEntries (event : Event) : List (List String) :=
  event.replacementAddress.toList.map fun address => [address.pubkey, address.identifier]

/-- The unique index on the address tombstones. -/
def tombstoneEntries (event : Event) : List (List String) :=
  match deletionRequest event with
  | some request => request.addresses.map fun address => [address.pubkey, address.identifier]
  | none => []

namespace Postgres
variable (pg : Postgres)

def fits (columns : List String) : Bool := pg.indexEntryBytes columns ≤ 2704

def insertEntries (entries : List (List String)) : Except StoreError Unit :=
  if entries.all pg.fits then .ok () else .error (.database "index row size exceeds btree maximum 2704")

end Postgres

/-- The server takes every row and index entry that storing the event writes. -/
structure Storable (pg : Postgres) (event : Event) : Prop where
  row : bindRow event = .ok ()
  entries : ∀ columns ∈ tagEntries event ++ addressEntries event ++ tombstoneEntries event, pg.fits columns = true

/-- The server takes the texts of the advisory locks: the identifiers of the addresses and the group id. -/
def Lockable (event : Event) : Prop := bindTexts (admissionLockKeys event) = .ok ()

/-! ## The transaction -/

variable (relay : Relay) (call : Call)

/-- `valid_group_invite` binds the code that the client sent. -/
def bindGroupInvite (groupId : String) (code : Option String) : Admission Bool := do
  ofExcept (bindTexts code.toList)
  query (fun d => d.validGroupInvite groupId code)

namespace Postgres
variable (pg : Postgres)

/-- `groupActionCheck` with the invite code bound. -/
def groupActionCheck (groupId : String) (group : Option GroupRow) : Option GroupAction → Admission Unit
  | some .createGroup => rejectIf (group.isSome || !signedByRelay call) .groupUnauthorized
  | action => do
    rejectIf group.isNone .groupNotFound
    let roles ← query (fun d => d.groupMember groupId call.event.pubkey)
    match action with
    | some (.join code) =>
      rejectIf roles.isSome .groupAlreadyMember
      if group.any (·.closed) then
        rejectIf (!(← bindGroupInvite groupId code)) .groupClosed
    | some .leave => rejectIf roles.isNone .groupUnauthorized
    | some _ => rejectIf (!signedByRelay call && !roles.any (· ≠ [])) .groupUnauthorized
    | none =>
      rejectIf roles.isNone .groupUnauthorized
      rejectIf (group.any (fun g => g.supportedKinds.any (fun kinds => !kinds.contains call.event.kind)))
        .groupUnsupportedKind

def groupCheck (action : Option GroupAction) : Admission Unit := do
  if call.mode = .public then
    rejectIf (39000 ≤ call.event.kind && call.event.kind ≤ 39005 && !signedByRelay call) .groupUnauthorized
    match groupScope call.event with
    | none => pure ()
    | some groupId =>
      let group ← query (fun d => d.loadGroup groupId)
      rejectIf (!(← groupPreviousReferencesAreCurrent call groupId)) .groupPreviousUnknown
      groupActionCheck call groupId group action
      rejectIf (action.isSome && call.relaySigner.isNone) .groupSigningUnavailable

/-- The writes of an ordinary event whose row went in. -/
def storeOrdinary (replaced : Option String) (action : Option GroupAction) (ingestSeq : Nat) : Admission Empty := do
  ofExcept (pg.insertEntries (tagEntries call.event))
  ofExcept (pg.insertEntries (addressEntries call.event))
  storeReplacement call replaced
  ofExcept (pg.insertEntries (tombstoneEntries call.event))
  storeDeletion call
  storeGroupAction relay call action
  .commit (.stored ingestSeq)

/-- An ordinary event that passed every check. -/
def insertOrdinary (replaced : Option String) (action : Option GroupAction) : Admission Empty :=
  if call.event.eventClass = .ephemeral then do
    notifyEphemeral relay call
    .commit .ephemeral
  else do
    acquire .ingest
    ofExcept (bindRow call.event)
    match ← insertEvent call with
    | none => .commit .duplicate
    | some ingestSeq => storeOrdinary relay call pg replaced action ingestSeq

def admitOrdinary (action : Option GroupAction) : Admission Empty := do
  ofExcept (bindTexts (admissionLockKeys call.event))
  acquireAll ((admissionLockKeys call.event).map (fun key => .text (relay.hashtextextended key)))
  groupCheck call action
  duplicateCheck call
  tombstoneCheck call
  let replaced ← competition call
  insertOrdinary relay call pg replaced action

/-- The writes of a private market record whose row went in. -/
def storeMktPrivate (address : ReplacementAddress) (action : Option GroupAction) (ingestSeq : Nat) :
    Admission Empty := do
  ofExcept (pg.insertEntries (addressEntries call.event))
  insertMktImmutableCoordinate call address
  ofExcept (pg.insertEntries (tagEntries call.event))
  storeGroupAction relay call action
  .commit (.stored ingestSeq)

/-- A private market record that passed every check. -/
def insertMktPrivate (address : ReplacementAddress) (action : Option GroupAction) : Admission Empty := do
  acquire .ingest
  ofExcept (bindRow call.event)
  match ← insertEvent call with
  | none => .fail (.corruptRow "private MKT event exists without an immutable coordinate")
  | some ingestSeq => storeMktPrivate relay call pg address action ingestSeq

def admitMktPrivate (address : ReplacementAddress) (action : Option GroupAction) : Admission Empty := do
  ofExcept (bindTexts (admissionLockKeys call.event))
  acquireAll ((admissionLockKeys call.event).map (fun key => .text (relay.hashtextextended key)))
  groupCheck call action
  mktReplay call address
  tombstoneCheck call
  insertMktPrivate relay call pg address action

/-- `Store::admit_inner` on this server. -/
def admitInner : Admission Empty := do
  ofExcept (validate relay call)
  if call.event.kind = 22242 then .commit (.rejected .authEvent)
  else if isMktPrivateKind call.event.kind then
    ofExcept (timestamps call)
    let action ← ofExcept (groupActionOf call)
    match call.event.replacementAddress with
    | none => .fail (.domain (.invalidEvent "private MKT kind must have an addressable event class"))
    | some address =>
      ofExcept (bindTexts [address.identifier])
      mktReplay call address
      ofExcept (mktPrivateBase relay call)
      ofExcept (unexpired call)
      policyCheck call
      admitMktPrivate relay call pg address action
  else
    ofExcept (unexpired call)
    ofExcept (timestamps call)
    let action ← ofExcept (groupActionOf call)
    duplicateCheck call
    policyCheck call
    admitOrdinary relay call pg action

end Postgres

/-! ## On a storable event the refusals are silent -/

section
variable {relay : Relay} {call : Call} {pg : Postgres}

theorem Storable.insertEntries (h : Storable pg call.event) :
    pg.insertEntries (tagEntries call.event) = .ok () ∧ pg.insertEntries (addressEntries call.event) = .ok () ∧
      pg.insertEntries (tombstoneEntries call.event) = .ok () := by
  have hentries := h.entries
  simp only [List.forall_mem_append, ← List.all_eq_true] at hentries
  exact ⟨if_pos hentries.1.1, if_pos hentries.1.2, if_pos hentries.2⟩

theorem Storable.tag_text (h : Storable pg call.event) {tag : Tag} (htag : tag ∈ call.event.tags) {text : String}
    (htext : text ∈ tag) : hasNul text = false := by
  obtain ⟨_, _, hcast⟩ := bind_eq_ok.mp h.row
  exact castJsonb_ok.mp hcast text (List.mem_flatten.mpr ⟨tag, htag, htext⟩)

/-- The identifier of an event's address is part of a lock text. -/
theorem Lockable.identifier (h : Lockable call.event) {address : ReplacementAddress}
    (haddress : call.event.replacementAddress = some address) : bindTexts [address.identifier] = .ok () := by
  have hkey : addressLockKey address ∈ admissionLockKeys call.event := by
    simp only [admissionLockKeys, mem_btreeSet, List.mem_append, haddress, Option.toList_some, List.map_cons,
      List.map_nil, List.mem_singleton, true_or, or_true]
  have hclean := hasNul_eq_false.mp (bindTexts_ok.mp h _ hkey)
  rw [bindTexts_ok]
  intro text htext
  rw [List.mem_singleton.mp htext, hasNul_eq_false]
  intro hnul
  apply hclean
  simp only [addressLockKey, ReplacementAddress.display, String.toList_append, List.mem_append]
  exact .inr (.inr hnul)

theorem join_code {event : Event} {code : Option String}
    (h : GroupAction.fromEvent event = .ok (some (.join code))) : code = (event.tagValues "code").head? := by
  unfold GroupAction.fromEvent at h
  split at h
  case h_9 => cases h; rfl
  case h_10 => cases h
  case h_11 => split at h <;> cases h
  all_goals (try cases h) <;> (obtain ⟨_, _, h⟩ := bind_eq_ok.mp h)
  all_goals (try cases h)
  all_goals
    obtain ⟨_, _, h⟩ := bind_eq_ok.mp h
    cases h

/-- The invite code of a join request is the text of one of its tags. -/
theorem Storable.bindGroupInvite (h : Storable pg call.event) {code : Option String}
    (haction : groupActionOf call = .ok (some (.join code))) (groupId : String) :
    bindGroupInvite groupId code = query (fun d => d.validGroupInvite groupId code) := by
  have hclean : bindTexts code.toList = .ok () := by
    rw [bindTexts_ok]
    intro text htext
    rw [groupActionOf] at haction
    split at haction
    · cases hparse : GroupAction.fromEvent call.event with
      | error e => rw [hparse] at haction; cases haction
      | ok action =>
        rw [hparse] at haction
        cases haction
        rw [Option.mem_toList, join_code hparse] at htext
        obtain ⟨tag, htag, _, hvalue⟩ := Event.mem_tagValues.mp (List.mem_of_mem_head? htext)
        exact h.tag_text htag (List.mem_of_getElem? hvalue)
    · cases haction
  rw [Store.bindGroupInvite, hclean]
  rfl

variable {action : Option GroupAction}

theorem groupCheck_eq (h : Storable pg call.event)
    (haction : groupActionOf call = .ok action) : Postgres.groupCheck call action = groupCheck call action := by
  have hcheck : ∀ groupId group,
      Postgres.groupActionCheck call groupId group action = groupActionCheck call groupId group action := by
    intro groupId group
    unfold Postgres.groupActionCheck groupActionCheck
    split
    · rfl
    · rename_i hcreate
      cases action with
      | none => rfl
      | some action =>
        cases action with
        | createGroup => exact absurd rfl hcreate
        | join code => simp only [h.bindGroupInvite haction]
        | _ => rfl
  unfold Postgres.groupCheck groupCheck
  cases groupScope call.event with
  | none => rfl
  | some groupId => simp only [hcheck]

theorem Lockable.silent (h : Lockable call.event) {β : Type} (next : Unit → Admission β) :
    (ofExcept (bindTexts (admissionLockKeys call.event)) >>= next) = next () := by
  have hl : bindTexts (admissionLockKeys call.event) = .ok () := h
  rw [hl, Prog.ofExcept_ok_bind]

theorem admitOrdinary_eq (hl : Lockable call.event) (hs : Storable pg call.event)
    (haction : groupActionOf call = .ok action) :
    Postgres.admitOrdinary relay call pg action = admitOrdinary relay call action := by
  rw [Postgres.admitOrdinary, hl.silent]
  simp only [Postgres.insertOrdinary, Postgres.storeOrdinary, hs.insertEntries, hs.row, groupCheck_eq hs haction]
  rfl

theorem admitMktPrivate_eq (hl : Lockable call.event) (hs : Storable pg call.event)
    (haction : groupActionOf call = .ok action) (address : ReplacementAddress) :
    Postgres.admitMktPrivate relay call pg address action = admitMktPrivate relay call address action := by
  rw [Postgres.admitMktPrivate, hl.silent]
  simp only [Postgres.insertMktPrivate, Postgres.storeMktPrivate, hs.insertEntries, hs.row, groupCheck_eq hs haction]
  rfl

/-- **Storable events.** On an event whose texts and index entries the server takes, admission on this server is
    admission on a database that refuses nothing, as a program and so in every interleaving. -/
theorem Postgres.admitInner_eq (hl : Lockable call.event) (hs : Storable pg call.event) :
    Postgres.admitInner relay call pg = Store.admitInner relay call := by
  unfold Postgres.admitInner Store.admitInner
  cases haction : groupActionOf call with
  | error e => rfl
  | ok action =>
    cases haddress : call.event.replacementAddress with
    | none => simp only [Prog.ofExcept_ok_bind, admitOrdinary_eq hl hs haction]
    | some address =>
      simp only [Prog.ofExcept_ok_bind, hl.identifier haddress, admitOrdinary_eq hl hs haction,
        admitMktPrivate_eq hl hs haction]

end

end Immortal.Store
