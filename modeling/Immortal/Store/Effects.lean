import Immortal.Store.Admit

/-!
# `Immortal.Store.Effects` — what the statements of an admission do to the tables

Facts about single writes and about the logs an admission builds, in the form the safety and convergence proofs
use them: which events a set of tombstones covers, which rows survive a delete, and what the head table looks
like after an upsert. `Db.covers` is the reading of the tombstone table that both `TOMBSTONE_MATCH` and the two
delete statements agree on.
-/

namespace Immortal.Store

open Immortal.Domain Txn List

@[simp] theorem database_write (d : Db) (w : Write) : Database.write d w = d.write w := rfl

/-! ## Coverage -/

/-- Some tombstone of the list deletes the event. -/
def Covers (tombstones : List DeletionTombstone) (event : Event) : Prop :=
  ∃ t ∈ tombstones, t.deletes event = true

/-- Some committed tombstone deletes the event. -/
def Db.covers (d : Db) (event : Event) : Prop := Covers d.deletionTombstone event

variable {t : DeletionTombstone} {event : Event} {ts : List DeletionTombstone}

theorem covers_append {ts' : List DeletionTombstone} :
    Covers (ts ++ ts') event ↔ Covers ts event ∨ Covers ts' event := by
  simp only [Covers, mem_append, or_and_right, exists_or]

theorem covers_singleton : Covers [t] event ↔ t.deletes event = true := by
  simp [Covers]

theorem not_covers_of_kind_five (h : event.kind = 5) : ¬ Covers ts event := by
  rintro ⟨t, _, ht⟩
  simp [DeletionTombstone.deletes, h] at ht

theorem deletes_raiseThrough {a : ReplacementAddress} {through : Nat} {request : String} :
    (raiseThrough a through request t).deletes event = true ↔
      t.deletes event = true ∨
        (DeletionTombstone.isAddress a t = true ∧ (DeletionTombstone.address a through request).deletes event = true) := by
  cases t with
  | event e author r => simp [raiseThrough, DeletionTombstone.isAddress]
  | address b s r =>
    by_cases hb : b = a
    · subst hb
      simp only [raiseThrough, if_true, DeletionTombstone.deletes_address_iff, DeletionTombstone.isAddress, le_max_iff]
      tauto
    · simp [raiseThrough, DeletionTombstone.isAddress, hb]

/-- An inserted tombstone adds exactly its own coverage, whatever the conflict clauses did to the rows. -/
theorem covers_insertTombstone {rows : List DeletionTombstone} :
    Covers (insertTombstone rows t) event ↔ Covers rows event ∨ t.deletes event = true := by
  cases t with
  | event e author r =>
    simp only [insertTombstone]
    split
    case isTrue h =>
      -- the row that is already there deletes the same events
      obtain ⟨t, ht, hmatch⟩ := any_eq_true.mp h
      refine ⟨Or.inl, fun hc => hc.elim id fun hdel => ⟨t, ht, ?_⟩⟩
      cases t with
      | event e' author' r' =>
        simp only [DeletionTombstone.isEvent, decide_eq_true_eq] at hmatch
        rw [hmatch.1, hmatch.2]
        exact hdel
      | address b s r' => simp [DeletionTombstone.isEvent] at hmatch
    case isFalse h => rw [covers_append, covers_singleton]
  | address a through r =>
    simp only [insertTombstone]
    split
    case isTrue h =>
      obtain ⟨t, ht, hmatch⟩ := any_eq_true.mp h
      constructor
      · rintro ⟨u, hu, hdel⟩
        obtain ⟨v, hv, rfl⟩ := mem_map.mp hu
        rcases deletes_raiseThrough.mp hdel with hdel | ⟨_, hdel⟩
        · exact .inl ⟨v, hv, hdel⟩
        · exact .inr hdel
      · rintro (⟨u, hu, hdel⟩ | hdel)
        · exact ⟨_, mem_map_of_mem hu, deletes_raiseThrough.mpr (.inl hdel)⟩
        · exact ⟨_, mem_map_of_mem ht, deletes_raiseThrough.mpr (.inr ⟨hmatch, hdel⟩)⟩
    case isFalse h => rw [covers_append, covers_singleton]

theorem covers_foldl_insertTombstone {rows : List DeletionTombstone} :
    Covers (ts.foldl insertTombstone rows) event ↔ Covers rows event ∨ Covers ts event := by
  induction ts generalizing rows with
  | nil => simp [Covers]
  | cons t ts ih =>
    rw [foldl_cons, ih, covers_insertTombstone]
    simp only [Covers, mem_cons, exists_eq_or_imp, or_assoc]

/-- The address of an event, read through the three columns of a tombstone row. -/
theorem replacementAddress_eq_iff {a : ReplacementAddress} :
    event.replacementAddress = some a ↔
      a.kind = event.kind ∧ a.pubkey = event.pubkey ∧
        some a.identifier = event.replacementAddress.map (·.identifier) := by
  constructor
  · intro h
    obtain ⟨hk, hp⟩ := replacementAddress_author h
    exact ⟨hk, hp, by rw [h]; rfl⟩
  · rintro ⟨hk, hp, hi⟩
    cases hb : event.replacementAddress with
    | none => rw [hb] at hi; simp at hi
    | some b =>
      obtain ⟨hk', hp'⟩ := replacementAddress_author hb
      cases a; cases b
      simp_all

/-- `TOMBSTONE_MATCH` on an event's own columns says whether a tombstone covers it. -/
theorem tombstoneMatch_iff {d : Db} (h : event.kind ≠ 5) :
    d.tombstoneMatch event.id event.pubkey event.kind (event.replacementAddress.map (·.identifier))
      event.createdAt = true ↔ d.covers event := by
  rw [Db.tombstoneMatch, any_eq_true]
  refine exists_congr fun t => and_congr_right fun _ => ?_
  cases t with
  | event id author r =>
    rw [DeletionTombstone.deletes_event_iff]
    simp only [decide_eq_true_eq]
    constructor
    · rintro ⟨rfl, rfl⟩; exact ⟨h, rfl, rfl⟩
    · rintro ⟨_, rfl, rfl⟩; exact ⟨rfl, rfl⟩
  | address a through r =>
    rw [DeletionTombstone.deletes_address_iff, replacementAddress_eq_iff]
    simp only [decide_eq_true_eq]
    tauto

/-! ## Delete statements -/

/-- The delete statement that goes with a tombstone. -/
def tombstoneTarget : DeletionTombstone → EventRow → Bool
  | .event eventId author _ => deleteEventTarget eventId author
  | .address address through _ => deleteAddressTarget address through

/-- The delete statement of a tombstone selects exactly the rows the tombstone deletes. -/
theorem tombstoneTarget_eq (t : DeletionTombstone) (row : EventRow) :
    tombstoneTarget t row = t.deletes row.event := by
  rw [Bool.eq_iff_iff]
  cases t with
  | event id author r =>
    rw [DeletionTombstone.deletes_event_iff]
    simp only [tombstoneTarget, deleteEventTarget, decide_eq_true_eq]
    tauto
  | address a through r =>
    rw [DeletionTombstone.deletes_address_iff, replacementAddress_eq_iff]
    show decide _ = true ↔ _
    rw [decide_eq_true_eq]
    constructor
    · rintro ⟨hk, hp, hi, ht⟩; exact ⟨ht, hk.symm, hp.symm, hi.symm⟩
    · rintro ⟨ht, hk, hp, hi⟩; exact ⟨hk.symm, hp.symm, hi.symm, ht⟩

/-- Both kinds of tombstone insert their row and then run their delete statement. -/
theorem applyTombstone_eq (h : ∀ a through r, t = .address a through r → through ≤ i64Max) :
    applyTombstone t = Prog.exec (fun _ => [.insertTombstone t]) (fun _ => ()) >>=
      fun _ => deleteRows (tombstoneTarget t) := by
  cases t with
  | event id author r => rfl
  | address a through r =>
    simp only [applyTombstone, pgI64, if_pos (h a through r rfl)]
    rfl

theorem mem_selectedIds {d : Db} {select : EventRow → Bool} {id : String} :
    id ∈ d.selectedIds select ↔ ∃ row ∈ d.nostrEvent, select row = true ∧ row.event.id = id := by
  simp only [Db.selectedIds, mem_map, mem_filter, and_assoc]

/-! ## Checks only read -/

/-- The outcomes that leave the store as it was. -/
def NotStored (outcome : AdmissionOutcome) : Prop := ∀ ingestSeq, outcome ≠ .stored ingestSeq

section
variable (relay : Relay) (call : Call)

open Prog

theorem readOnly_rejectIf (refused : Bool) (reason : AdmissionRejection) :
    (rejectIf refused reason).ReadOnly NotStored := by
  cases refused
  · exact readOnly_pure ()
  · exact fun _ => by simp

theorem readOnly_mktReplay (address : ReplacementAddress) : (mktReplay call address).ReadOnly NotStored := by
  refine ReadOnly.bind (readOnly_query _) fun binding => ?_
  split
  · exact readOnly_pure ()
  · exact fun _ => by simp
  · exact fun _ => by simp

theorem readOnly_duplicateCheck : (duplicateCheck call).ReadOnly NotStored := by
  refine ReadOnly.bind (readOnly_query _) fun found => ?_
  split
  · exact fun _ => by simp
  · exact readOnly_pure ()

theorem readOnly_membershipCheck (policy : AdmissionPolicy) :
    (membershipCheck call policy).ReadOnly NotStored := by
  unfold membershipCheck
  split
  · refine ReadOnly.bind (readOnly_query _) fun direct => ?_
    split
    · split
      · exact ReadOnly.bind (readOnly_query _) fun _ => readOnly_rejectIf _ _
      · exact fun _ => by simp
    · exact readOnly_pure ()
  · exact readOnly_pure ()

theorem readOnly_boundsCheck (policy : AdmissionPolicy) : (boundsCheck call policy).ReadOnly NotStored := by
  refine ReadOnly.bind (readOnly_rejectIf _ _) fun _ => ReadOnly.bind (readOnly_rejectIf _ _) fun _ =>
    ReadOnly.bind (readOnly_rejectIf _ _) fun _ => ?_
  split
  · exact readOnly_rejectIf _ _
  · exact readOnly_pure ()

theorem readOnly_policyCheck : (policyCheck call).ReadOnly NotStored := by
  refine ReadOnly.bind (readOnly_query _) fun policy => ?_
  split
  · trivial
  · refine ReadOnly.bind (readOnly_query _) fun blocked => ?_
    split
    · exact fun _ => by simp
    · refine ReadOnly.bind (readOnly_query _) fun blockedKind => ?_
      split
      · exact fun _ => by simp
      · exact ReadOnly.bind (readOnly_query _) fun _ => ReadOnly.bind (readOnly_rejectIf _ _) fun _ =>
          ReadOnly.bind (readOnly_query _) fun _ => ReadOnly.bind (readOnly_rejectIf _ _) fun _ =>
          ReadOnly.bind (readOnly_membershipCheck call _) fun _ => readOnly_boundsCheck call _

theorem readOnly_groupPreviousReferencesAreCurrent (groupId : String) :
    (groupPreviousReferencesAreCurrent call groupId).ReadOnly NotStored := by
  unfold groupPreviousReferencesAreCurrent
  split
  · exact readOnly_pure true
  · exact ReadOnly.bind (readOnly_ofExcept _) fun _ => ReadOnly.bind (readOnly_query _) fun _ => readOnly_pure _

theorem readOnly_groupActionCheck (groupId : String) (group : Option GroupRow) (action : Option GroupAction) :
    (groupActionCheck call groupId group action).ReadOnly NotStored := by
  unfold groupActionCheck
  split
  · exact readOnly_rejectIf _ _
  · refine ReadOnly.bind (readOnly_rejectIf _ _) fun _ => ReadOnly.bind (readOnly_query _) fun roles => ?_
    split
    · refine ReadOnly.bind (readOnly_rejectIf _ _) fun _ => ?_
      split
      · exact ReadOnly.bind (readOnly_query _) fun _ => readOnly_rejectIf _ _
      · exact readOnly_pure ()
    · exact readOnly_rejectIf _ _
    · exact readOnly_rejectIf _ _
    · exact ReadOnly.bind (readOnly_rejectIf _ _) fun _ => readOnly_rejectIf _ _

theorem readOnly_groupCheck (action : Option GroupAction) : (groupCheck call action).ReadOnly NotStored := by
  unfold groupCheck
  split
  · refine ReadOnly.bind (readOnly_rejectIf _ _) fun _ => ?_
    split
    · exact readOnly_pure ()
    · exact ReadOnly.bind (readOnly_query _) fun _ =>
        ReadOnly.bind (readOnly_groupPreviousReferencesAreCurrent call _) fun _ =>
        ReadOnly.bind (readOnly_rejectIf _ _) fun _ =>
        ReadOnly.bind (readOnly_groupActionCheck call _ _ _) fun _ => readOnly_rejectIf _ _
  · exact readOnly_pure ()

theorem readOnly_tombstoneCheck : (tombstoneCheck call).ReadOnly NotStored := by
  unfold tombstoneCheck
  split
  · exact ReadOnly.bind (readOnly_query _) fun _ => readOnly_rejectIf _ _
  · exact readOnly_pure ()

theorem readOnly_competition : (competition call).ReadOnly NotStored := by
  unfold competition
  split
  · refine ReadOnly.bind (readOnly_query _) fun found => ?_
    split
    · exact readOnly_pure none
    · split
      · exact fun _ => by simp
      · exact fun _ => by simp
      · exact readOnly_pure _
  · exact readOnly_pure none

theorem readOnly_notifyEphemeral : (notifyEphemeral relay call).ReadOnly NotStored := by
  unfold notifyEphemeral
  split
  · trivial
  · exact readOnly_pure ()

end

/-- An event without a group action has no group writes. -/
@[simp] theorem storeGroupAction_none (relay : Relay) (call : Call) : storeGroupAction relay call none = pure () := by
  unfold storeGroupAction
  split
  · simp_all
  · rfl

/-! ## The head table -/

variable {row : HeadRow} {rows : List HeadRow}

theorem mem_upsertHeadRow {r : HeadRow} :
    r ∈ upsertHeadRow rows row ↔ r = row ∨ (r ∈ rows ∧ r.address ≠ row.address) := by
  unfold upsertHeadRow
  split
  case isTrue h =>
    obtain ⟨w, hw, hwa⟩ := any_eq_true.mp h
    rw [decide_eq_true_eq] at hwa
    constructor
    · intro hr
      obtain ⟨u, hu, hur⟩ := mem_map.mp hr
      by_cases hua : u.address = row.address
      · rw [if_pos hua] at hur; exact .inl hur.symm
      · rw [if_neg hua] at hur; subst hur; exact .inr ⟨hu, hua⟩
    · rintro (rfl | ⟨hr, hra⟩)
      · exact mem_map.mpr ⟨w, hw, by rw [if_pos hwa]⟩
      · exact mem_map.mpr ⟨r, hr, by rw [if_neg hra]⟩
  case isFalse h =>
    have hne : ∀ u ∈ rows, u.address ≠ row.address := fun u hu hua =>
      h (any_eq_true.mpr ⟨u, hu, by simpa using hua⟩)
    rw [mem_append, mem_singleton]
    constructor
    · rintro (hr | rfl)
      · exact .inr ⟨hr, hne r hr⟩
      · exact .inl rfl
    · rintro (rfl | ⟨hr, _⟩)
      · exact .inr rfl
      · exact .inl hr

theorem upsertHeadRow_addresses :
    (upsertHeadRow rows row).map HeadRow.address =
      if row.address ∈ rows.map HeadRow.address then rows.map HeadRow.address
      else rows.map HeadRow.address ++ [row.address] := by
  have hany : rows.any (fun r => r.address = row.address) = true ↔ row.address ∈ rows.map HeadRow.address := by
    simp
  unfold upsertHeadRow
  by_cases h : row.address ∈ rows.map HeadRow.address
  · rw [if_pos (hany.mpr h), if_pos h, map_map]
    refine map_congr_left fun r _ => ?_
    by_cases hr : r.address = row.address
    · simp [hr]
    · simp [hr]
  · rw [if_neg (fun hc => h (hany.mp hc)), if_neg h, map_append]
    rfl

theorem nodup_upsertHeadRow (h : (rows.map HeadRow.address).Nodup) :
    ((upsertHeadRow rows row).map HeadRow.address).Nodup := by
  rw [upsertHeadRow_addresses]
  split
  case isTrue _ => exact h
  case isFalse hr => exact nodup_append.mpr ⟨h, nodup_singleton _, fun a ha b hb hab => hr (by
    rw [mem_singleton] at hb; rwa [← hb, ← hab])⟩

theorem head_some {d : Db} {address : ReplacementAddress} (h : d.head address = some row) :
    row ∈ d.replaceableHead ∧ row.address = address := by
  exact ⟨mem_of_find?_eq_some h, by simpa using find?_some h⟩

theorem head_none {d : Db} {address : ReplacementAddress} (h : d.head address = none) :
    ∀ row ∈ d.replaceableHead, row.address ≠ address := by
  unfold Db.head at h
  simpa using h

/-! ## Clean-up logs

After its row and its head are in, an admission only deletes rows and inserts tombstones. The effect of such a
log is described by two lists: the ids it deletes and the tombstones it inserts. -/

def Write.IsCleanup : Write → Prop
  | .deleteEvents _ => True
  | .insertTombstone _ => True
  | _ => False

def deletedIds : List Write → List String
  | [] => []
  | .deleteEvents ids :: log => ids ++ deletedIds log
  | _ :: log => deletedIds log

def insertedTombstones : List Write → List DeletionTombstone
  | [] => []
  | .insertTombstone t :: log => t :: insertedTombstones log
  | _ :: log => insertedTombstones log

@[simp] theorem deletedIds_append (log log' : List Write) :
    deletedIds (log ++ log') = deletedIds log ++ deletedIds log' := by
  induction log with
  | nil => rfl
  | cons w log ih => cases w <;> simp [deletedIds, ih]

@[simp] theorem insertedTombstones_append (log log' : List Write) :
    insertedTombstones (log ++ log') = insertedTombstones log ++ insertedTombstones log' := by
  induction log with
  | nil => rfl
  | cons w log ih => cases w <;> simp [insertedTombstones, ih]

/-- The tables after a clean-up log. -/
theorem overlay_cleanup {log : List Write} (hlog : ∀ w ∈ log, w.IsCleanup) (d : Db) :
    overlay log d = { d with
      nostrEvent := d.nostrEvent.filter (fun row => row.event.id ∉ deletedIds log)
      replaceableHead := d.replaceableHead.filter (fun row => row.eventId ∉ deletedIds log)
      deletionTombstone := (insertedTombstones log).foldl insertTombstone d.deletionTombstone } := by
  induction log generalizing d with
  | nil => simp [deletedIds, insertedTombstones]
  | cons w log ih =>
    rw [overlay_cons, ih fun w' hw' => hlog w' (mem_cons_of_mem w hw')]
    have hw := hlog w mem_cons_self
    cases w with
    | deleteEvents ids =>
      simp [Db.write, deletedIds, insertedTombstones, Bool.and_comm]
    | insertTombstone t => rfl
    | insertEvent _ => exact hw.elim
    | upsertHead _ => exact hw.elim
    | insertCoordinate _ => exact hw.elim

/-! ## What an admission writes -/

/-- `P` holds of every write that an admission of the event makes on its own account, coordinates apart. -/
structure Allows (P : Write → Prop) (event : Event) : Prop where
  insert : ∀ ingestSeq, P (.insertEvent ⟨event, ingestSeq⟩)
  delete : ∀ ids, P (.deleteEvents ids)
  head : ∀ row, P (.upsertHead row)
  tombstone : ∀ t, P (.insertTombstone t)

section
variable {relay : Relay} {call : Call} {P : Write → Prop} (hallows : Allows P call.event)

open Prog

include hallows

theorem only_deleteRows (select : EventRow → Bool) : (deleteRows select).Only P := by
  refine ⟨fun d w hw => ?_, fun _ => trivial⟩
  rw [mem_singleton] at hw
  subst hw
  exact hallows.delete _

theorem only_insertEvent : (insertEvent call).Only P := by
  refine ⟨fun d w hw => ?_, fun d => trivial⟩
  by_cases hdup : d.duplicate call.event.id = true
  · simp [hdup] at hw
  · simp only [hdup, Bool.false_eq_true, if_false, mem_singleton] at hw
    subst hw
    exact hallows.insert _

theorem only_storeReplacement (replaced : Option String) : (storeReplacement call replaced).Only P := by
  unfold storeReplacement
  split
  · trivial
  · apply Only.bind
    · apply only_execUnless
      intro d w hw
      rw [mem_singleton] at hw
      subst hw
      exact hallows.head _
    · intro _
      split
      · exact only_deleteRows hallows _
      · trivial

theorem only_applyTombstone (t : DeletionTombstone) : (applyTombstone t).Only P := by
  have hinsert : ∀ u : DeletionTombstone,
      (exec (fun _ => [.insertTombstone u]) (fun _ => ()) : Admission Unit).Only P := by
    intro u
    refine ⟨fun d w hw => ?_, fun _ => trivial⟩
    rw [mem_singleton] at hw
    subst hw
    exact hallows.tombstone _
  cases t with
  | event id author r => exact Only.bind (hinsert _) fun _ => only_deleteRows hallows _
  | address a through r =>
    have hbound : (ofExcept (pgI64 through "deletion timestamp") : Admission Nat).ReadOnly NotStored :=
      readOnly_ofExcept _
    exact Only.bind hbound.only fun _ => Only.bind (hinsert _) fun _ => only_deleteRows hallows _

theorem only_applyTombstones (ts : List DeletionTombstone) : (applyTombstones ts).Only P := by
  induction ts with
  | nil => trivial
  | cons t ts ih => exact Only.bind (only_applyTombstone hallows t) fun _ => ih

theorem only_storeDeletion : (storeDeletion call).Only P := by
  unfold storeDeletion
  split
  · exact only_applyTombstones hallows _
  · trivial

omit hallows in
theorem only_storeGroupAction (hgroup : ∀ groupId action, (relay.applyGroupAction groupId call action).Only P)
    (action : Option GroupAction) : (storeGroupAction relay call action).Only P := by
  unfold storeGroupAction
  split
  · exact hgroup _ _
  · trivial

/-- An ordinary admission writes its event, heads, tombstones and deletes, and what its group action writes. -/
theorem only_admitOrdinary (hgroup : ∀ groupId action, (relay.applyGroupAction groupId call action).Only P)
    (action : Option GroupAction) : (admitOrdinary relay call action).Only P := by
  refine Only.bind (only_acquireAll _) fun _ => Only.bind (readOnly_groupCheck call action).only fun _ => ?_
  refine Only.bind (readOnly_duplicateCheck call).only fun _ => Only.bind (readOnly_tombstoneCheck call).only fun _ => ?_
  refine Only.bind (readOnly_competition call).only fun replaced => ?_
  split
  · exact Only.bind (readOnly_notifyEphemeral relay call).only fun _ => trivial
  · refine Only.bind (p := acquire .ingest) trivial fun _ => Only.bind (only_insertEvent hallows) fun inserted => ?_
    cases inserted with
    | none => trivial
    | some ingestSeq =>
      exact Only.bind (only_storeReplacement hallows replaced) fun _ =>
        Only.bind (only_storeDeletion hallows) fun _ =>
        Only.bind (only_storeGroupAction hgroup action) fun _ => trivial

end

end Immortal.Store
