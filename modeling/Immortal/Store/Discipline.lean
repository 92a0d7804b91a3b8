import Immortal.Store.Effects
import Immortal.Txn.System

/-!
# `Immortal.Store.Discipline` — what an admission relies on and what it guarantees

The admission transaction as an instance of the rule of `Immortal.Txn.System`. Writers are serialised by the
ingest lock, so a transaction that holds it sees rows disappear and nothing else (`Shrinks`). What it learned
before that, from the tombstone and the head check, is kept by the event and address locks: another transaction
covers an event only under that event's lock or its address's lock, and puts a row on an address only under the
address's lock.
-/

namespace Immortal.Store

open Immortal.Domain Txn List

/-! ## The invariant -/

structure StoreInv (d : Db) : Prop where
  idsNodup : (d.nostrEvent.map (fun row => row.event.id)).Nodup
  headsNodup : (d.replaceableHead.map HeadRow.address).Nodup
  uncovered : ∀ row ∈ d.nostrEvent, ¬ d.covers row.event
  headOf : ∀ row ∈ d.nostrEvent, ∀ address, row.event.replacementAddress = some address →
    ⟨address, row.event.id, row.event.createdAt⟩ ∈ d.replaceableHead
  eventOf : ∀ h ∈ d.replaceableHead, ∃ row ∈ d.nostrEvent,
    row.event.replacementAddress = some h.address ∧ row.event.id = h.eventId ∧ row.event.createdAt = h.createdAt

namespace StoreInv

theorem empty (administration : Administration) : StoreInv (Db.empty administration) := by
  constructor <;> simp [Db.empty]

variable {address : ReplacementAddress}

/-- Two events on one address are the same row: the head names both. -/
theorem address_unique {d : Db} (hd : StoreInv d) {row row' : EventRow}
    (h : row ∈ d.nostrEvent) (h' : row' ∈ d.nostrEvent) (ha : row.event.replacementAddress = some address)
    (ha' : row'.event.replacementAddress = some address) : row = row' := by
  have heq := inj_on_of_nodup_map hd.headsNodup (hd.headOf row h address ha) (hd.headOf row' h' address ha') rfl
  exact inj_on_of_nodup_map hd.idsNodup h h' (by simpa using congrArg HeadRow.eventId heq)

/-- Deleting rows, with the cascade to their heads, keeps the invariant. -/
theorem deleteEvents {d : Db} (hd : StoreInv d) (ids : List String) : StoreInv (d.write (.deleteEvents ids)) := by
  refine ⟨?_, ?_, ?_, ?_, ?_⟩
  · exact hd.idsNodup.sublist (filter_sublist.map _)
  · exact hd.headsNodup.sublist (filter_sublist.map _)
  · exact fun row hrow => hd.uncovered row (mem_of_mem_filter hrow)
  · intro row hrow address ha
    obtain ⟨hmem, hid⟩ := mem_filter.mp hrow
    exact mem_filter.mpr ⟨hd.headOf row hmem address ha, by simpa using hid⟩
  · intro h hh
    obtain ⟨hmem, hid⟩ := mem_filter.mp hh
    obtain ⟨row, hrow, ha, he, hc⟩ := hd.eventOf h hmem
    exact ⟨row, mem_filter.mpr ⟨hrow, by simpa [he] using hid⟩, ha, he, hc⟩

end StoreInv

/-! ## Interference -/

/-- What happens outside admission transactions: expiry sweeps, changes to the operator's tables, and sequence
    numbers lost to transactions that rolled back. -/
inductive Background : Db → Db → Prop where
  | sweep {d} (now : Nat) : Background d (deleteExpired now d)
  | administer {d} (administration : Administration) : Background d { d with administration := administration }
  | gap {d} (n : Nat) : d.ingestSequence ≤ n → Background d { d with ingestSequence := n }

/-- Rows only disappear and the tombstones stay. -/
def Shrinks (d d' : Db) : Prop :=
  (∀ row ∈ d'.nostrEvent, row ∈ d.nostrEvent) ∧ d'.deletionTombstone = d.deletionTombstone

theorem Background.shrinks {d d' : Db} (h : Background d d') : Shrinks d d' := by
  cases h with
  | sweep now => exact ⟨fun row hrow => mem_of_mem_filter hrow, rfl⟩
  | administer _ => exact ⟨fun _ h => h, rfl⟩
  | gap _ _ => exact ⟨fun _ h => h, rfl⟩

theorem Background.inv {d d' : Db} (hd : StoreInv d) (h : Background d d') : StoreInv d' := by
  cases h with
  | sweep now => exact hd.deleteEvents _
  | administer _ => exact ⟨hd.idsNodup, hd.headsNodup, hd.uncovered, hd.headOf, hd.eventOf⟩
  | gap _ _ => exact ⟨hd.idsNodup, hd.headsNodup, hd.uncovered, hd.headOf, hd.eventOf⟩

section
variable (relay : Relay)

def eventLock (event : Event) : LockId := .text (relay.hashtextextended (eventLockKey event.pubkey event.id))

def addressLock (address : ReplacementAddress) : LockId := .text (relay.hashtextextended (addressLockKey address))

/-- The locks that protect what the store says about an event: its own and its address's. -/
def Guards (held : List LockId) (event : Event) : Prop :=
  eventLock relay event ∈ held ∨ ∃ address, event.replacementAddress = some address ∧ addressLock relay address ∈ held

/-- What a commit may do: nothing, or, under the ingest lock, put rows on addresses it has locked and cover
    events it has locked. -/
def AdmissionChange (held : List LockId) (d d' : Db) : Prop :=
  d' = d ∨ (.ingest ∈ held ∧
    (∀ row ∈ d'.nostrEvent, row ∈ d.nostrEvent ∨
      ∀ address, row.event.replacementAddress = some address → addressLock relay address ∈ held) ∧
    (∀ event, d'.covers event → d.covers event ∨ Guards relay held event))

def admissionDiscipline : Discipline Db LockId := ⟨StoreInv, AdmissionChange relay, Background⟩

variable {relay}

variable {held : List LockId}

/-- Under the ingest lock nobody else writes. -/
theorem later_ingest (hheld : .ingest ∈ held) {d d' : Db} (hd : StoreInv d)
    (h : (admissionDiscipline relay).Later held d d') : Shrinks d d' := by
  refine Discipline.Later.stable (P := fun x => Shrinks d x) ?_ hd h ⟨fun _ hr => hr, rfl⟩
  rintro a b _ ⟨_, hstep⟩ ⟨hrows, htomb⟩
  have hab : Shrinks a b := by
    rcases hstep with henv | ⟨other, hdis, rfl | ⟨hing, _⟩⟩
    · exact Background.shrinks henv
    · exact ⟨fun _ hr => hr, rfl⟩
    · exact absurd hing (hdis _ hheld)
  exact ⟨fun row hrow => hrows row (hab.1 row hrow), hab.2.trans htomb⟩

variable {event : Event}

/-- An event the store does not cover stays uncovered while both its locks are held. -/
theorem later_uncovered (hev : eventLock relay event ∈ held)
    (hadr : ∀ address, event.replacementAddress = some address → addressLock relay address ∈ held) {d d' : Db}
    (hd : StoreInv d) (h : (admissionDiscipline relay).Later held d d') (hnot : ¬ d.covers event) :
    ¬ d'.covers event := by
  refine Discipline.Later.stable (P := fun x => ¬ x.covers event) ?_ hd h hnot
  rintro a b _ ⟨_, henv | ⟨other, hdis, rfl | ⟨_, _, hcov⟩⟩⟩ ha
  · rw [Db.covers, henv.shrinks.2]; exact ha
  · exact ha
  · intro hb
    rcases hcov event hb with hc | hc | ⟨address, haddr, hc⟩
    · exact ha hc
    · exact hdis _ hev hc
    · exact hdis _ (hadr address haddr) hc

/-- The rows on a locked address only disappear. -/
theorem later_address (hadr : addressLock relay address ∈ held) {d d' : Db}
    (hd : StoreInv d) (h : (admissionDiscipline relay).Later held d d') :
    ∀ row ∈ d'.nostrEvent, row.event.replacementAddress = some address → row ∈ d.nostrEvent := by
  refine Discipline.Later.stable
    (P := fun x => ∀ row ∈ x.nostrEvent, row.event.replacementAddress = some address → row ∈ d.nostrEvent)
    ?_ hd h fun row hrow _ => hrow
  rintro a b _ ⟨_, henv | ⟨other, hdis, rfl | ⟨_, hrows, _⟩⟩⟩ ha row hrow haddr
  · exact ha row (Background.shrinks henv |>.1 row hrow) haddr
  · exact ha row hrow haddr
  · rcases hrows row hrow with hr | hr
    · exact ha row hr haddr
    · exact absurd (hr address haddr) (hdis _ hadr)

end

/-! ## The commit of an admission -/

/-- The log of an admission that stores `row`: its row, its head, then deletes and tombstones. -/
def storeLog (row : EventRow) (cleanup : List Write) : List Write :=
  .insertEvent row ::
    (row.event.replacementAddress.toList.map (fun address => .upsertHead ⟨address, row.event.id, row.event.createdAt⟩)
      ++ cleanup)

theorem storeLog_append (row : EventRow) (cleanup more : List Write) :
    storeLog row cleanup ++ more = storeLog row (cleanup ++ more) := by
  simp [storeLog]

/-- What the admission of `event` knows about the committed store once its row is in the log: the id is free,
    nothing covers the event, and the deleted rows are the one it replaces and those its tombstones delete. -/
structure Pending (event : Event) (replaced : Option String) (cleanup : List Write) (d : Db) : Prop where
  fresh : ∀ row ∈ d.nostrEvent, row.event.id ≠ event.id
  uncovered : ¬ d.covers event
  rivals : ∀ address, event.replacementAddress = some address → ∀ row ∈ d.nostrEvent,
    row.event.replacementAddress = some address → row.event.id ∈ deletedIds cleanup
  targets : ∀ t ∈ insertedTombstones cleanup, ∀ row ∈ d.nostrEvent, t.deletes row.event = true →
    row.event.id ∈ deletedIds cleanup
  exact : ∀ row ∈ d.nostrEvent, row.event.id ∈ deletedIds cleanup →
    replaced = some row.event.id ∨ Covers (insertedTombstones cleanup) row.event
  own : event.id ∉ deletedIds cleanup
  spares : ∀ t ∈ insertedTombstones cleanup, t.deletes event = false
  isCleanup : ∀ w ∈ cleanup, w.IsCleanup

theorem Pending.shrinks {replaced : Option String} {cleanup : List Write} {d d' : Db}
    (h : Pending event replaced cleanup d) (hs : Shrinks d d') : Pending event replaced cleanup d' := by
  refine ⟨fun row hr => h.fresh row (hs.1 row hr), ?_, fun a ha row hr => h.rivals a ha row (hs.1 row hr),
    fun t ht row hr => h.targets t ht row (hs.1 row hr), fun row hr => h.exact row (hs.1 row hr), h.own, h.spares,
    h.isCleanup⟩
  rw [Db.covers, hs.2]
  exact h.uncovered

section
variable {row : EventRow} {replaced : Option String} {cleanup : List Write} {d : Db}

/-- The tables before the clean-up part of the log. -/
def Db.withRow (d : Db) (row : EventRow) : Db :=
  overlay (.insertEvent row :: row.event.replacementAddress.toList.map
    (fun address => Write.upsertHead ⟨address, row.event.id, row.event.createdAt⟩)) d

theorem withRow_nostrEvent : (d.withRow row).nostrEvent = d.nostrEvent ++ [row] := by
  cases h : row.event.replacementAddress <;> simp [Db.withRow, h, overlay, Db.write]

theorem withRow_deletionTombstone : (d.withRow row).deletionTombstone = d.deletionTombstone := by
  cases h : row.event.replacementAddress <;> simp [Db.withRow, h, overlay, Db.write]

theorem withRow_replaceableHead :
    (d.withRow row).replaceableHead =
      match row.event.replacementAddress with
      | some address => upsertHeadRow d.replaceableHead ⟨address, row.event.id, row.event.createdAt⟩
      | none => d.replaceableHead := by
  cases h : row.event.replacementAddress <;> simp [Db.withRow, h, overlay, Db.write]

theorem mem_withRow_head {h : HeadRow} :
    h ∈ (d.withRow row).replaceableHead ↔
      (row.event.replacementAddress = some h.address ∧ h.eventId = row.event.id ∧ h.createdAt = row.event.createdAt) ∨
      (h ∈ d.replaceableHead ∧ row.event.replacementAddress ≠ some h.address) := by
  rw [withRow_replaceableHead]
  cases ha : row.event.replacementAddress with
  | none => simp
  | some address =>
    obtain ⟨a, i, c⟩ := h
    simp only [mem_upsertHeadRow, HeadRow.mk.injEq, Option.some.injEq, ne_eq]
    constructor
    · rintro (⟨rfl, rfl, rfl⟩ | ⟨hm, hne⟩)
      · exact .inl ⟨rfl, rfl, rfl⟩
      · exact .inr ⟨hm, fun h => hne h.symm⟩
    · rintro (⟨rfl, rfl, rfl⟩ | ⟨hm, hne⟩)
      · exact .inl ⟨rfl, rfl, rfl⟩
      · exact .inr ⟨hm, fun h => hne h.symm⟩

theorem overlay_storeLog (hc : ∀ w ∈ cleanup, w.IsCleanup) :
    overlay (storeLog row cleanup) d = { d.withRow row with
      nostrEvent := (d.nostrEvent ++ [row]).filter (fun r => r.event.id ∉ deletedIds cleanup)
      replaceableHead := (d.withRow row).replaceableHead.filter (fun h => h.eventId ∉ deletedIds cleanup)
      deletionTombstone := (insertedTombstones cleanup).foldl insertTombstone d.deletionTombstone } := by
  have hsplit : overlay (storeLog row cleanup) d = overlay cleanup (d.withRow row) := by
    rw [storeLog, ← cons_append, overlay_append]
    rfl
  rw [hsplit, overlay_cleanup hc, withRow_nostrEvent, withRow_deletionTombstone]

/-- The rows after the commit: the new one and the old ones that were not deleted. -/
theorem mem_storeLog_nostrEvent (hp : Pending row.event replaced cleanup d) {r : EventRow} :
    r ∈ (overlay (storeLog row cleanup) d).nostrEvent ↔
      r = row ∨ (r ∈ d.nostrEvent ∧ r.event.id ∉ deletedIds cleanup) := by
  rw [overlay_storeLog hp.isCleanup]
  simp only [mem_filter, mem_append, mem_singleton, decide_eq_true_eq]
  constructor
  · rintro ⟨hr | rfl, hid⟩
    · exact .inr ⟨hr, hid⟩
    · exact .inl rfl
  · rintro (rfl | ⟨hr, hid⟩)
    · exact ⟨.inr rfl, hp.own⟩
    · exact ⟨.inl hr, hid⟩

theorem storeLog_covers (hp : Pending row.event replaced cleanup d) :
    (overlay (storeLog row cleanup) d).covers event ↔
      d.covers event ∨ Covers (insertedTombstones cleanup) event := by
  rw [overlay_storeLog hp.isCleanup, Db.covers, covers_foldl_insertTombstone, Db.covers]

/-- **The commit lemma.** An admission that still knows what `Pending` says commits a store that satisfies the
    invariant. -/
theorem StoreInv.commit (hd : StoreInv d) (hp : Pending row.event replaced cleanup d) :
    StoreInv (overlay (storeLog row cleanup) d) := by
  refine ⟨?_, ?_, ?_, ?_, ?_⟩
  · have hnd := nodup_keys_concat hd.idsNodup hp.fresh
    rw [overlay_storeLog hp.isCleanup]
    exact hnd.sublist (filter_sublist.map _)
  · have hnd : ((d.withRow row).replaceableHead.map HeadRow.address).Nodup := by
      rw [withRow_replaceableHead]
      cases row.event.replacementAddress with
      | none => exact hd.headsNodup
      | some address => exact nodup_upsertHeadRow hd.headsNodup
    rw [overlay_storeLog hp.isCleanup]
    exact hnd.sublist (filter_sublist.map _)
  · intro r hr hcov
    rcases (mem_storeLog_nostrEvent hp).mp hr with rfl | ⟨hr, hid⟩
    · rcases (storeLog_covers hp).mp hcov with hc | ⟨t, ht, hdel⟩
      · exact hp.uncovered hc
      · rw [hp.spares t ht] at hdel
        exact absurd hdel (by decide)
    · rcases (storeLog_covers hp).mp hcov with hc | ⟨t, ht, hdel⟩
      · exact hd.uncovered r hr hc
      · exact hid (hp.targets t ht r hr hdel)
  · intro r hr address ha
    have hmem : (⟨address, r.event.id, r.event.createdAt⟩ : HeadRow) ∈ (d.withRow row).replaceableHead ∧
        r.event.id ∉ deletedIds cleanup := by
      rcases (mem_storeLog_nostrEvent hp).mp hr with rfl | ⟨hr, hid⟩
      · exact ⟨mem_withRow_head.mpr (.inl ⟨ha, rfl, rfl⟩), hp.own⟩
      · refine ⟨mem_withRow_head.mpr (.inr ⟨hd.headOf r hr address ha, fun hrow => ?_⟩), hid⟩
        exact hid (hp.rivals address hrow r hr ha)
    rw [overlay_storeLog hp.isCleanup]
    exact mem_filter.mpr ⟨hmem.1, by simpa using hmem.2⟩
  · intro h hh
    rw [overlay_storeLog hp.isCleanup] at hh
    obtain ⟨hh, hid⟩ := mem_filter.mp hh
    rcases mem_withRow_head.mp hh with ⟨ha, he, hc⟩ | ⟨hh, _⟩
    · exact ⟨row, (mem_storeLog_nostrEvent hp).mpr (.inl rfl), ha, he.symm, hc.symm⟩
    · obtain ⟨r, hr, ha, he, hc⟩ := hd.eventOf h hh
      exact ⟨r, (mem_storeLog_nostrEvent hp).mpr (.inr ⟨hr, by simpa [he] using hid⟩), ha, he, hc⟩

end

/-! ## The locks of an admission -/

/-- The advisory locks that the admission of `event` takes. -/
def admissionLocks (relay : Relay) (event : Event) : List LockId :=
  (admissionLockKeys event).map (fun key => .text (relay.hashtextextended key))

section
variable {relay : Relay} {event : Event}

theorem text_mem_admissionLocks {key : String} (h : key ∈ admissionLockKeys event) :
    .text (relay.hashtextextended key) ∈ admissionLocks relay event :=
  mem_map_of_mem h

theorem eventLock_mem : eventLock relay event ∈ admissionLocks relay event :=
  text_mem_admissionLocks (by simp [admissionLockKeys])

theorem addressLock_mem (h : event.replacementAddress = some address) :
    addressLock relay address ∈ admissionLocks relay event :=
  text_mem_admissionLocks (by simp [admissionLockKeys, h])

theorem deletionRequest_some {request : DeletionRequest} (h : deletionRequest event = some request) :
    event.kind = 5 ∧ request.author = event.pubkey ∧ request.requestId = event.id ∧
      request.createdAt = event.createdAt := by
  unfold deletionRequest DeletionRequest.fromEvent at h
  split at h
  · simp [Except.toOption] at h
  · simp only [Except.toOption, Option.some.injEq] at h
    subst h
    exact ⟨by simpa using ‹¬ event.kind ≠ 5›, rfl, rfl, rfl⟩

variable {t : DeletionTombstone}

/-- Every event a request's tombstones delete is protected by a lock the request takes. -/
theorem guards_of_tombstone {request : DeletionRequest} (h : deletionRequest event = some request)
    (ht : t ∈ request.tombstones) {target : Event} (hdel : t.deletes target = true) :
    Guards relay (admissionLocks relay event) target := by
  cases t with
  | event id author rid =>
    obtain ⟨hid, rfl, _⟩ := DeletionRequest.mem_tombstones_event.mp ht
    obtain ⟨_, rfl, hauthor⟩ := DeletionTombstone.deletes_event_iff.mp hdel
    refine .inl (text_mem_admissionLocks ?_)
    rw [hauthor]
    simp only [admissionLockKeys, h, mem_btreeSet, mem_append, mem_map]
    exact .inl (.inr (.inl ⟨target.id, hid, rfl⟩))
  | address address through rid =>
    obtain ⟨haddr, _⟩ := DeletionRequest.mem_tombstones_address.mp ht
    obtain ⟨_, htarget⟩ := DeletionTombstone.deletes_address_iff.mp hdel
    refine .inr ⟨address, htarget, text_mem_admissionLocks ?_⟩
    simp only [admissionLockKeys, h, mem_btreeSet, mem_append, mem_map]
    exact .inl (.inr (.inr ⟨address, haddr, rfl⟩))

theorem Guards.mono {held held' : List LockId} (hsub : ∀ k ∈ held, k ∈ held') (h : Guards relay held event) :
    Guards relay held' event := by
  rcases h with h | ⟨address, ha, h⟩
  · exact .inl (hsub _ h)
  · exact .inr ⟨address, ha, hsub _ h⟩

end

/-! ## The pieces of an admission under interference -/

section
variable {relay : Relay} {call : Call}

/-- No postcondition: only the committed states matter here. -/
abbrev anyResult (_ : Except StoreError AdmissionOutcome) (_ _ : Db) : Prop := True

theorem admission_quiet : Quiet (admissionDiscipline relay) anyResult NotStored :=
  ⟨fun _ _ _ _ _ => ⟨trivial, .inl rfl⟩, fun _ _ _ => trivial⟩

variable {d : Db} {row : EventRow} {held : List LockId} {cleanup : List Write} {replaced : Option String}
  {Q : Unit → List LockId → List Write → Db → Prop}

theorem wp_tombstoneCheck (hd : StoreInv d)
    (h : ∀ d', (admissionDiscipline relay).Later held d d' → ¬ d'.covers call.event → Q () held [] d') :
    (tombstoneCheck call).wp (admissionDiscipline relay) anyResult Q held [] d := by
  unfold tombstoneCheck
  split
  case isTrue hk =>
    rw [Prog.wp_bind]
    refine Prog.wp_query fun d' hl => ?_
    cases hm : d'.tombstoneMatch call.event.id call.event.pubkey call.event.kind
        (call.event.replacementAddress.map (·.identifier)) call.event.createdAt with
    | true => exact fun d'' hl' => ⟨trivial, (hl.trans hl').inv hd, .inl rfl⟩
    | false =>
      refine h d' hl fun hc => ?_
      rw [(tombstoneMatch_iff hk).mpr hc] at hm
      exact absurd hm (by decide)
  case isFalse hk => exact h d .refl (not_covers_of_kind_five (not_not.mp hk))

/-- After the head check, the rows on the event's address are the replaced one. -/
theorem wp_competition {Q : Option String → List LockId → List Write → Db → Prop} (hd : StoreInv d)
    (h : ∀ replaced d', (admissionDiscipline relay).Later held d d' →
      (∀ address, call.event.replacementAddress = some address → ∀ row ∈ d'.nostrEvent,
        row.event.replacementAddress = some address → replaced = some row.event.id) →
      replaced ≠ some call.event.id → Q replaced held [] d') :
    (competition call).wp (admissionDiscipline relay) anyResult Q held [] d := by
  unfold competition
  cases ha : call.event.replacementAddress with
  | none => exact h none d .refl (by simp [ha]) (by simp)
  | some address =>
    simp only [headCheck]
    rw [Prog.wp_bind]
    refine Prog.wp_query fun d' hl => ?_
    have hd' : StoreInv d' := hl.inv hd
    cases hh : d'.head address with
    | none =>
      refine h none d' hl ?_ (by simp)
      intro address' ha' row hr hra
      rw [ha, Option.some.injEq] at ha'
      subst ha'
      exact absurd rfl (head_none hh _ (hd'.headOf row hr _ hra))
    | some hrow =>
      obtain ⟨hmem, haddr⟩ := head_some hh
      simp only [compareReplacementOrder]
      split
      case h_1 => exact fun d'' hl' => ⟨trivial, (hl.trans hl').inv hd, .inl rfl⟩
      case h_2 => exact fun d'' hl' => ⟨trivial, (hl.trans hl').inv hd, .inl rfl⟩
      case h_3 hcmp =>
        have hne : hrow.eventId ≠ call.event.id := by
          intro heq
          simp [heq] at hcmp
        refine h (some hrow.eventId) d' hl ?_ (by simpa using hne)
        intro address' ha' row hr hra
        rw [ha, Option.some.injEq] at ha'
        subst ha'
        have hsame := inj_on_of_nodup_map hd'.headsNodup (hd'.headOf row hr _ hra) hmem haddr.symm
        rw [← hsame]

/-- An admission in the middle of its writes: the row is in the log, and every tombstone it has inserted is
    protected by its locks. -/
structure Writing (relay : Relay) (held : List LockId) (event : Event) (replaced : Option String)
    (cleanup : List Write) (d : Db) : Prop where
  inv : StoreInv d
  pending : Pending event replaced cleanup d
  guarded : ∀ t ∈ insertedTombstones cleanup, ∀ target, t.deletes target = true → Guards relay held target

theorem Writing.later (hing : .ingest ∈ held) {d' : Db}
    (h : Writing relay held event replaced cleanup d) (hl : (admissionDiscipline relay).Later held d d') :
    Writing relay held event replaced cleanup d' :=
  ⟨hl.inv h.inv, h.pending.shrinks (later_ingest hing h.inv hl), h.guarded⟩

theorem selectedIds_own (hp : Pending row.event replaced cleanup d)
    (hspare : t.deletes row.event = false) :
    row.event.id ∉ (overlay (storeLog row cleanup) d).selectedIds (tombstoneTarget t) := by
  intro hmem
  obtain ⟨r, hr, hsel, hid⟩ := mem_selectedIds.mp hmem
  rw [tombstoneTarget_eq] at hsel
  rcases (mem_storeLog_nostrEvent hp).mp hr with rfl | ⟨hr, _⟩
  · rw [hspare] at hsel
    exact absurd hsel (by decide)
  · exact hp.fresh r hr hid

/-- One tombstone and the rows it deletes. -/
theorem wp_applyTombstone (hing : .ingest ∈ held)
    (hw : Writing relay held row.event replaced cleanup d) (hspare : t.deletes row.event = false)
    (hguard : ∀ target, t.deletes target = true → Guards relay held target)
    (h : ∀ cleanup' d', insertedTombstones cleanup' = insertedTombstones cleanup ++ [t] →
      Writing relay held row.event replaced cleanup' d' → Q () held (storeLog row cleanup') d') :
    (applyTombstone t).wp (admissionDiscipline relay) anyResult Q held (storeLog row cleanup) d := by
  have hboth : ((Prog.exec (fun _ => [.insertTombstone t]) (fun _ => ()) : Admission Unit) >>=
      fun _ => deleteRows (tombstoneTarget t)).wp (admissionDiscipline relay) anyResult Q held
        (storeLog row cleanup) d := by
    intro d₁ hl₁
    refine Prog.wp_exec fun d₂ hl₂ => ?_
    have hw₂ : Writing relay held row.event replaced cleanup d₂ := hw.later hing (hl₁.trans hl₂)
    have hview : (overlay (storeLog row cleanup ++ [.insertTombstone t]) d₂).selectedIds (tombstoneTarget t) =
        (overlay (storeLog row cleanup) d₂).selectedIds (tombstoneTarget t) := by
      rw [overlay_append]; rfl
    rw [hview, storeLog_append, storeLog_append]
    generalize hids : (overlay (storeLog row cleanup) d₂).selectedIds (tombstoneTarget t) = ids
    have hown : row.event.id ∉ ids := hids ▸ selectedIds_own hw₂.pending hspare
    have hdels : deletedIds (cleanup ++ [.insertTombstone t] ++ [.deleteEvents ids]) = deletedIds cleanup ++ ids := by
      simp [deletedIds]
    have htombs' : insertedTombstones (cleanup ++ [.insertTombstone t] ++ [.deleteEvents ids]) =
        insertedTombstones cleanup ++ [t] := by
      simp [insertedTombstones]
    have htombs : ∀ u, u ∈ insertedTombstones (cleanup ++ [.insertTombstone t] ++ [.deleteEvents ids]) ↔
        u ∈ insertedTombstones cleanup ∨ u = t := by
      intro u
      rw [htombs', mem_append, mem_singleton]
    refine h _ d₂ htombs' ⟨hw₂.inv, ⟨hw₂.pending.fresh, hw₂.pending.uncovered, ?_, ?_, ?_, ?_, ?_, ?_⟩, ?_⟩
    · intro address ha r hr hra
      rw [hdels]
      exact mem_append_left ids (hw₂.pending.rivals address ha r hr hra)
    · intro u hu r hr hdel
      rw [hdels, mem_append]
      by_cases hgone : r.event.id ∈ deletedIds cleanup
      · exact .inl hgone
      · rcases (htombs u).mp hu with hu | rfl
        · exact .inl (hw₂.pending.targets u hu r hr hdel)
        · -- the row is still visible to the delete statement, which selects it
          refine .inr (hids ▸ mem_selectedIds.mpr ⟨r, ?_, ?_, rfl⟩)
          · exact (mem_storeLog_nostrEvent hw₂.pending).mpr (.inr ⟨hr, hgone⟩)
          · rw [tombstoneTarget_eq]; exact hdel
    · intro r hr hgone
      rw [hdels, mem_append] at hgone
      rw [htombs', covers_append]
      rcases hgone with hgone | hgone
      · exact (hw₂.pending.exact r hr hgone).imp_right .inl
      · rw [← hids] at hgone
        obtain ⟨r', hr', hsel, hid⟩ := mem_selectedIds.mp hgone
        rw [tombstoneTarget_eq] at hsel
        rcases (mem_storeLog_nostrEvent hw₂.pending).mp hr' with rfl | ⟨hr', _⟩
        · rw [hspare] at hsel
          exact absurd hsel (by decide)
        · have hsame : r' = r := inj_on_of_nodup_map hw₂.inv.idsNodup hr' hr hid
          exact .inr (.inr (covers_singleton.mpr (hsame ▸ hsel)))
    · rw [hdels, mem_append, not_or]
      exact ⟨hw₂.pending.own, hown⟩
    · intro u hu
      rcases (htombs u).mp hu with hu | rfl
      · exact hw₂.pending.spares u hu
      · exact hspare
    · intro w hw'
      simp only [mem_append, mem_singleton] at hw'
      rcases hw' with (hw' | rfl) | rfl
      · exact hw₂.pending.isCleanup w hw'
      · trivial
      · trivial
    · intro u hu
      rcases (htombs u).mp hu with hu | rfl
      · exact hw₂.guarded u hu
      · exact hguard
  by_cases hbound : ∀ a through r, t = .address a through r → through ≤ i64Max
  · rw [applyTombstone_eq hbound]
    exact hboth
  · -- a timestamp outside `bigint` ends the transaction with an error
    push Not at hbound
    obtain ⟨a, through, r, rfl, hlt⟩ := hbound
    simp only [applyTombstone, pgI64, if_neg (not_le.mpr hlt)]
    exact fun _ _ => trivial

/-- All tombstones of a request, by induction over the list. -/
theorem wp_applyTombstones {ts : List DeletionTombstone} (hing : .ingest ∈ held)
    (hw : Writing relay held row.event replaced cleanup d) (hspare : ∀ t ∈ ts, t.deletes row.event = false)
    (hguard : ∀ t ∈ ts, ∀ target, t.deletes target = true → Guards relay held target)
    (h : ∀ cleanup' d', insertedTombstones cleanup' = insertedTombstones cleanup ++ ts →
      Writing relay held row.event replaced cleanup' d' → Q () held (storeLog row cleanup') d') :
    (applyTombstones ts).wp (admissionDiscipline relay) anyResult Q held (storeLog row cleanup) d := by
  induction ts generalizing cleanup d with
  | nil => exact h cleanup d (by simp) hw
  | cons t ts ih =>
    simp only [applyTombstones]
    rw [Prog.wp_bind]
    refine wp_applyTombstone hing hw (hspare t mem_cons_self) (hguard t mem_cons_self) ?_
    intro cleanup' d' htombs hw'
    refine ih hw' (fun u hu => hspare u (mem_cons_of_mem t hu))
      (fun u hu => hguard u (mem_cons_of_mem t hu)) fun cleanup'' d'' htombs' => ?_
    exact h cleanup'' d'' (by rw [htombs', htombs, append_assoc]; rfl)

/-- The head upsert and the delete of the replaced row. -/
theorem wp_storeReplacement (hing : .ingest ∈ held) (hrow : row.event = call.event) (hd : StoreInv d)
    (hfresh : ∀ r ∈ d.nostrEvent, r.event.id ≠ call.event.id) (hcov : ¬ d.covers call.event)
    (hrivals : ∀ address, call.event.replacementAddress = some address → ∀ r ∈ d.nostrEvent,
      r.event.replacementAddress = some address → replaced = some r.event.id) (hne : replaced ≠ some call.event.id)
    (h : ∀ cleanup d', insertedTombstones cleanup = [] → Writing relay held row.event replaced cleanup d' →
      Q () held (storeLog row cleanup) d') :
    (storeReplacement call replaced).wp (admissionDiscipline relay) anyResult Q held [.insertEvent row] d := by
  unfold storeReplacement
  cases ha : call.event.replacementAddress with
  | none =>
    have hlog : [Write.insertEvent row] = storeLog row [] := by simp [storeLog, hrow, ha]
    rw [hlog]
    refine h [] d rfl ⟨hd, ⟨?_, ?_, ?_, ?_, ?_, ?_, ?_, ?_⟩, ?_⟩ <;>
      simp_all [deletedIds, insertedTombstones]
  | some address =>
    rw [Prog.wp_bind]
    refine Prog.wp_execUnless (fun _ _ => trivial) fun d₁ hl₁ _ => ?_
    have hs₁ : Shrinks d d₁ := later_ingest hing hd hl₁
    have hlog : [Write.insertEvent row] ++
        [.upsertHead ⟨address, call.event.id, call.event.createdAt⟩] = storeLog row [] := by
      simp [storeLog, hrow, ha]
    rw [hlog]
    have hpend : ∀ d₂ cleanup, Shrinks d d₂ → insertedTombstones cleanup = [] →
        (∀ w ∈ cleanup, w.IsCleanup) → row.event.id ∉ deletedIds cleanup →
        (∀ r ∈ d₂.nostrEvent, replaced = some r.event.id ↔ r.event.id ∈ deletedIds cleanup) →
        Pending row.event replaced cleanup d₂ := by
      intro d₂ cleanup hs htomb hclean hown hgone
      refine ⟨?_, ?_, ?_, by simp [htomb], fun r hr hid => .inl ((hgone r hr).mpr hid), hown, by simp [htomb], hclean⟩
      · rw [hrow]; exact fun r hr => hfresh r (hs.1 r hr)
      · rw [hrow, Db.covers, hs.2]; exact hcov
      · rw [hrow]
        exact fun a' ha' r hr hra => (hgone r hr).mp (hrivals a' ha' r (hs.1 r hr) hra)
    cases replaced with
    | none =>
      exact h [] d₁ rfl ⟨hl₁.inv hd, hpend d₁ [] hs₁ rfl (by simp) (by simp [deletedIds]) (by simp [deletedIds]),
        by simp [insertedTombstones]⟩
    | some oldId =>
      refine Prog.wp_exec fun d₂ hl₂ => ?_
      have hs₂ : Shrinks d d₂ := later_ingest hing hd (hl₁.trans hl₂)
      rw [storeLog_append]
      have hold : ∀ id, id ∈ (overlay (storeLog row []) d₂).selectedIds (fun r => r.event.id = oldId) → id = oldId := by
        intro id hid
        obtain ⟨r, _, hsel, rfl⟩ := mem_selectedIds.mp hid
        simpa using hsel
      refine h _ d₂ rfl ⟨(hl₁.trans hl₂).inv hd, hpend d₂ _ hs₂ rfl ?_ ?_ ?_, by simp [insertedTombstones]⟩
      · intro w hw
        simp only [nil_append, mem_singleton] at hw
        subst hw
        trivial
      · intro hmem
        simp only [nil_append, deletedIds, append_nil] at hmem
        exact hne (by rw [← hold _ hmem, hrow])
      · intro r hr
        simp only [nil_append, deletedIds, append_nil]
        refine ⟨fun hrep => mem_selectedIds.mpr ⟨r, ?_, by simpa using (Option.some.inj hrep).symm, rfl⟩,
          fun hmem => by rw [hold _ hmem]⟩
        rw [overlay_storeLog (by simp)]
        simp [deletedIds, hr]

/-- The tombstones the admission of `event` inserts: none unless it is a deletion request. -/
def requestTombstones (event : Event) : List DeletionTombstone :=
  match deletionRequest event with
  | some request => request.tombstones
  | none => []

theorem wp_storeDeletion (hing : .ingest ∈ held) (hrow : row.event = call.event)
    (hlocks : ∀ k ∈ admissionLocks relay call.event, k ∈ held) (htomb : insertedTombstones cleanup = [])
    (hw : Writing relay held row.event replaced cleanup d)
    (h : ∀ cleanup' d', insertedTombstones cleanup' = requestTombstones call.event →
      Writing relay held row.event replaced cleanup' d' → Q () held (storeLog row cleanup') d') :
    (storeDeletion call).wp (admissionDiscipline relay) anyResult Q held (storeLog row cleanup) d := by
  unfold storeDeletion
  cases hr : deletionRequest call.event with
  | none => exact h cleanup d (by rw [htomb, requestTombstones, hr]) hw
  | some request =>
    obtain ⟨hkind, _⟩ := deletionRequest_some hr
    refine wp_applyTombstones hing hw ?_ ?_ fun cleanup' d' htombs =>
      h cleanup' d' (by rw [htombs, htomb, requestTombstones, hr]; rfl)
    · intro t _
      rw [hrow]
      simp [DeletionTombstone.deletes, hkind]
    · exact fun t ht target hdel => (guards_of_tombstone hr ht hdel).mono hlocks

/-- The row goes in under the ingest lock, so its id is free and stays free. -/
theorem wp_insertEvent {Q : Option Nat → List LockId → List Write → Db → Prop}
    (hdup : ∀ d', (admissionDiscipline relay).Later held d d' → Q none held [] d')
    (h : ∀ ingestSeq d', (admissionDiscipline relay).Later held d d' →
      (∀ r ∈ d'.nostrEvent, r.event.id ≠ call.event.id) →
      Q (some ingestSeq) held [.insertEvent ⟨call.event, ingestSeq⟩] d') :
    (insertEvent call).wp (admissionDiscipline relay) anyResult Q held [] d := by
  refine Prog.wp_exec fun d' hl => ?_
  by_cases hd : (overlay ([] : List Write) d').duplicate call.event.id = true
  · simp only [if_pos hd]
    exact hdup d' hl
  · simp only [if_neg hd]
    refine h _ d' hl fun r hr hid => hd ?_
    exact any_eq_true.mpr ⟨r, hr, by simpa using hid⟩

end

end Immortal.Store
