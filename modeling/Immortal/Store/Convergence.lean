import Immortal.Store.Alone

/-!
# `Immortal.Store.Convergence` — the order of admissions does not matter

Admissions that run one after the other from an empty store end in the same stored events and the same
tombstones whatever their order and however often each event is repeated.

The argument has two halves. `run_cases` (`Immortal.Store.Alone`) says what one admission does. `Digest` is what
a store knows about the set of events it has processed: every processed event is stored, covered, or beaten on
its address by a stored event. One admission extends the digest by its event (`Digest.step`), and a digest
determines the stored set (`Digest.stored_iff`).

The domain restriction on deletions enters in one place only: an event on an address is covered by address
tombstones alone, and those cover every event that loses to a covered one.
-/

namespace Immortal.Store

open Immortal.Domain Txn DeletionTombstone List

/-! ## Tombstones as a set -/

/-- The ids an author has deleted. -/
def DeletesId (ts : List DeletionTombstone) (id author : String) : Prop := ∃ r, .event id author r ∈ ts

/-- The address is deleted through `t` at least. -/
def DeletesThrough (ts : List DeletionTombstone) (address : ReplacementAddress) (t : Nat) : Prop :=
  ∃ through r, .address address through r ∈ ts ∧ t ≤ through

variable {rows ts : List DeletionTombstone} {address : ReplacementAddress} {author : String}

theorem deletesId_append {ts' : List DeletionTombstone} {id : String} :
    DeletesId (ts ++ ts') id author ↔ DeletesId ts id author ∨ DeletesId ts' id author := by
  simp only [DeletesId, mem_append, exists_or]

theorem deletesThrough_append {ts' : List DeletionTombstone} {t : Nat} :
    DeletesThrough (ts ++ ts') address t ↔ DeletesThrough ts address t ∨ DeletesThrough ts' address t := by
  simp only [DeletesThrough, mem_append, or_and_right, exists_or]

/-- Coverage, split by the kind of tombstone. -/
theorem covers_iff {event : Event} :
    Covers ts event ↔ (event.kind ≠ 5 ∧ DeletesId ts event.id event.pubkey) ∨
      ∃ address, event.replacementAddress = some address ∧ DeletesThrough ts address event.createdAt := by
  constructor
  · rintro ⟨t, ht, hdel⟩
    cases t with
    | event id author r =>
      obtain ⟨hk, rfl, rfl⟩ := deletes_event_iff.mp hdel
      exact .inl ⟨hk, r, ht⟩
    | address a through r =>
      obtain ⟨hle, ha⟩ := deletes_address_iff.mp hdel
      exact .inr ⟨a, ha, through, r, ht, hle⟩
  · rintro (⟨hk, r, ht⟩ | ⟨a, ha, through, r, ht, hle⟩)
    · exact ⟨_, ht, deletes_event_iff.mpr ⟨hk, rfl, rfl⟩⟩
    · exact ⟨_, ht, deletes_address_iff.mpr ⟨hle, ha⟩⟩

theorem deletesId_insertTombstone {t : DeletionTombstone} {id : String} :
    DeletesId (insertTombstone rows t) id author ↔ DeletesId rows id author ∨ DeletesId [t] id author := by
  cases t with
  | event e a r =>
    simp only [insertTombstone]
    split
    case isTrue h =>
      obtain ⟨t, ht, hmatch⟩ := any_eq_true.mp h
      refine ⟨.inl, ?_⟩
      rintro (hc | ⟨r', hr'⟩)
      · exact hc
      rw [mem_singleton] at hr'
      obtain ⟨rfl, rfl, _⟩ := hr'
      cases t with
      | event e' a' r'' =>
        simp only [isEvent, decide_eq_true_eq] at hmatch
        exact ⟨r'', by rw [← hmatch.1, ← hmatch.2]; exact ht⟩
      | address _ _ _ => simp [isEvent] at hmatch
    case isFalse h => exact deletesId_append
  | address a through r =>
    have hnone : ¬ DeletesId [.address a through r] id author := by simp [DeletesId]
    simp only [insertTombstone, hnone, or_false]
    split
    case isTrue h =>
      refine exists_congr fun r' => ?_
      rw [mem_map]
      constructor
      · rintro ⟨u, hu, hue⟩
        cases u with
        | event e' a' r'' => exact hue ▸ hu
        | address b s r'' =>
          simp only [raiseThrough] at hue
          split at hue <;> exact absurd hue (by simp)
      · exact fun hu => ⟨_, hu, rfl⟩
    case isFalse h => rw [deletesId_append, or_iff_left hnone]

theorem deletesThrough_insertTombstone {t : DeletionTombstone} {s : Nat} :
    DeletesThrough (insertTombstone rows t) address s ↔
      DeletesThrough rows address s ∨ DeletesThrough [t] address s := by
  cases t with
  | event e a r =>
    have hnone : ¬ DeletesThrough [.event e a r] address s := by simp [DeletesThrough]
    simp only [insertTombstone, hnone, or_false]
    split
    case isTrue h => exact Iff.rfl
    case isFalse h => rw [deletesThrough_append, or_iff_left hnone]
  | address a through r =>
    simp only [insertTombstone]
    split
    case isFalse h => exact deletesThrough_append
    case isTrue h =>
      obtain ⟨u, hu, hmatch⟩ := any_eq_true.mp h
      constructor
      · rintro ⟨q, r', hmem, hle⟩
        obtain ⟨v, hv, hve⟩ := mem_map.mp hmem
        cases v with
        | event _ _ _ => simp [raiseThrough] at hve
        | address b q' r'' =>
          simp only [raiseThrough] at hve
          split at hve
          case isTrue hb =>
            obtain ⟨rfl, rfl, _⟩ := hve
            -- the raised bound is one of the two
            rcases le_max_iff.mp hle with hle | hle
            · exact .inl ⟨q', r'', hv, hle⟩
            · exact .inr ⟨through, r, by simp [hb], hle⟩
          case isFalse hb =>
            rw [DeletionTombstone.address.injEq] at hve
            obtain ⟨rfl, rfl, rfl⟩ := hve
            exact .inl ⟨q', r'', hv, hle⟩
      · rintro (⟨q, r', hmem, hle⟩ | ⟨q, r', hmem, hle⟩)
        · refine ⟨if address = a then max q through else q, if address = a then (if q < through then r else r') else r',
            mem_map.mpr ⟨_, hmem, ?_⟩, ?_⟩
          · by_cases hb : address = a <;> simp [raiseThrough, hb]
          · split <;> omega
        · rw [mem_singleton, DeletionTombstone.address.injEq] at hmem
          obtain ⟨rfl, rfl, rfl⟩ := hmem
          cases u with
          | event _ _ _ => simp [isAddress] at hmatch
          | address b q' r'' =>
            simp only [isAddress, decide_eq_true_eq] at hmatch
            subst hmatch
            exact ⟨max q' q, _, mem_map.mpr ⟨_, hu, by simp only [raiseThrough]; rfl⟩,
              le_trans hle (le_max_right _ _)⟩

theorem deletesId_foldl {id : String} :
    DeletesId (ts.foldl insertTombstone rows) id author ↔ DeletesId rows id author ∨ DeletesId ts id author := by
  induction ts generalizing rows with
  | nil => simp [DeletesId]
  | cons t ts ih =>
    have hcons : t :: ts = [t] ++ ts := rfl
    rw [foldl_cons, ih, deletesId_insertTombstone, hcons, deletesId_append, or_assoc]

theorem deletesThrough_foldl {s : Nat} :
    DeletesThrough (ts.foldl insertTombstone rows) address s ↔
      DeletesThrough rows address s ∨ DeletesThrough ts address s := by
  induction ts generalizing rows with
  | nil => simp [DeletesThrough]
  | cons t ts ih =>
    have hcons : t :: ts = [t] ++ ts := rfl
    rw [foldl_cons, ih, deletesThrough_insertTombstone, hcons, deletesThrough_append, or_assoc]

/-! ## What a store knows about the events it has processed -/

/-- The domain of the convergence theorem: events are determined by their ids, and a deletion by id names only
    the author's own events without a replacement address, or nothing in the set. -/
structure Convergent (S : Finset Event) : Prop where
  ids : ∀ e ∈ S, ∀ e' ∈ S, e.id = e'.id → e = e'
  deletions : ∀ r ∈ S, ∀ request, deletionRequest r = some request → ∀ id ∈ request.eventIds, ∀ e ∈ S,
    e.id = id → e.pubkey = request.author ∧ e.replacementAddress = none

/-- The store holds the digest of the processed events `P`. -/
structure Digest (P : Finset Event) (d : Db) : Prop where
  inv : StoreInv d
  processed : ∀ row ∈ d.nostrEvent, row.event ∈ P
  settled : ∀ e ∈ P, ¬ d.covers e → ∃ row ∈ d.nostrEvent, row.event = e ∨
    ((∃ a, e.replacementAddress = some a ∧ row.event.replacementAddress = some a) ∧ Beats row.event e)
  deletesId : ∀ id author, DeletesId d.deletionTombstone id author ↔ ∃ e ∈ P, DeletesId (requestTombstones e) id author
  deletesThrough : ∀ a t, DeletesThrough d.deletionTombstone a t ↔ ∃ e ∈ P, DeletesThrough (requestTombstones e) a t

namespace Digest
variable {P : Finset Event} {d : Db}

theorem empty (administration : Administration) : Digest ∅ (Db.empty administration) :=
  ⟨StoreInv.empty administration, by simp [Db.empty], by simp,
    by simp [DeletesId, Db.empty], by simp [DeletesThrough, Db.empty]⟩

theorem covers_iff_processed (h : Digest P d) {event : Event} :
    d.covers event ↔ ∃ e ∈ P, Covers (requestTombstones e) event := by
  simp only [Db.covers, covers_iff, h.deletesId, h.deletesThrough]
  constructor
  · rintro (⟨hk, e, he, hdel⟩ | ⟨a, ha, e, he, hdel⟩)
    · exact ⟨e, he, .inl ⟨hk, hdel⟩⟩
    · exact ⟨e, he, .inr ⟨a, ha, hdel⟩⟩
  · rintro ⟨e, he, ⟨hk, hdel⟩ | ⟨a, ha, hdel⟩⟩
    · exact .inl ⟨hk, e, he, hdel⟩
    · exact .inr ⟨a, ha, e, he, hdel⟩

end Digest

section
variable {S : Finset Event}

variable {e : Event} {P : Finset Event}

/-- Inside the domain, an event on an address is covered through the address only, so everything older than it
    on that address is covered too. -/
theorem Convergent.covered_below (hS : Convergent S) {r : Event} (hr : r ∈ S) {e' : Event} (he : e ∈ S)
    {a : ReplacementAddress} (ha : e.replacementAddress = some a) (ha' : e'.replacementAddress = some a)
    (hle : e'.createdAt ≤ e.createdAt) (hcov : Covers (requestTombstones r) e) : Covers (requestTombstones r) e' := by
  unfold requestTombstones at hcov ⊢
  cases hreq : deletionRequest r with
  | none =>
    rw [hreq] at hcov
    obtain ⟨t, ht, _⟩ := hcov
    exact absurd ht not_mem_nil
  | some request =>
    rw [hreq] at hcov
    obtain ⟨t, ht, hdel⟩ := hcov
    cases t with
    | event id author rid =>
      obtain ⟨hid, _, _⟩ := DeletionRequest.mem_tombstones_event.mp ht
      obtain ⟨_, hide, _⟩ := deletes_event_iff.mp hdel
      have hnone := (hS.deletions r hr request hreq id hid e he hide).2
      rw [ha] at hnone
      exact absurd hnone (by simp)
    | address b through rid =>
      obtain ⟨hthrough, hb⟩ := deletes_address_iff.mp hdel
      rw [ha] at hb
      exact ⟨_, ht, deletes_address_iff.mpr ⟨le_trans hle hthrough, ha'.trans hb⟩⟩

variable {d : Db}

/-- A digest determines what is stored: the processed events that no tombstone covers and no other processed
    event beats. -/
theorem Digest.stored_iff (hS : Convergent S) (hP : P ⊆ S) (h : Digest P d) :
    (∃ row ∈ d.nostrEvent, row.event = e) ↔
      e ∈ P ∧ (∀ r ∈ P, ¬ Covers (requestTombstones r) e) ∧
        ∀ e' ∈ P, ∀ a, e.replacementAddress = some a → e'.replacementAddress = some a → ¬ Beats e' e := by
  constructor
  · rintro ⟨row, hrow, rfl⟩
    have hnot : ¬ d.covers row.event := h.inv.uncovered row hrow
    refine ⟨h.processed row hrow, fun r hr hcov => hnot (h.covers_iff_processed.mpr ⟨r, hr, hcov⟩), ?_⟩
    intro e' he' a ha ha' hbeats
    by_cases hcov : d.covers e'
    · obtain ⟨r, hr, hc⟩ := h.covers_iff_processed.mp hcov
      exact hnot (h.covers_iff_processed.mpr ⟨r, hr, hS.covered_below (hP hr) (hP he') ha' ha hbeats.createdAt_le hc⟩)
    · obtain ⟨row', hrow', hcase⟩ := h.settled e' he' hcov
      have haddr : row'.event.replacementAddress = some a := by
        rcases hcase with rfl | ⟨⟨b, hb, hb'⟩, _⟩
        · exact ha'
        · rw [ha'] at hb; rwa [← hb] at hb'
      have hsame : row' = row := h.inv.address_unique hrow' hrow haddr ha
      subst hsame
      rcases hcase with rfl | ⟨_, hb⟩
      · exact hbeats.asymm hbeats
      · exact hbeats.asymm hb
  · rintro ⟨he, huncovered, hbest⟩
    have hnot : ¬ d.covers e := fun hc => by
      obtain ⟨r, hr, hcov⟩ := h.covers_iff_processed.mp hc
      exact huncovered r hr hcov
    obtain ⟨row, hrow, heq | ⟨⟨a, ha, ha'⟩, hbeats⟩⟩ := h.settled e he hnot
    · exact ⟨row, hrow, heq⟩
    · exact absurd hbeats (hbest row.event (h.processed row hrow) a ha ha')

theorem requestTombstones_of_kind (h : e.kind ≠ 5) : requestTombstones e = [] := by
  simp [requestTombstones, deletionRequest, DeletionRequest.fromEvent, h, Except.toOption]

/-- An admission that stores nothing: the event is settled by what is there already. -/
theorem Digest.keep (h : Digest P d) (htomb : requestTombstones e = [] ∨ e ∈ P)
    (hset : ¬ d.covers e → ∃ row ∈ d.nostrEvent, row.event = e ∨
      ((∃ a, e.replacementAddress = some a ∧ row.event.replacementAddress = some a) ∧ Beats row.event e)) :
    Digest (insert e P) d := by
  have hex : ∀ (Q : List DeletionTombstone → Prop), ¬ Q [] →
      ((∃ e' ∈ insert e P, Q (requestTombstones e')) ↔ ∃ e' ∈ P, Q (requestTombstones e')) := by
    intro Q hQ
    simp only [Finset.mem_insert, exists_eq_or_imp]
    constructor
    · rintro (hq | hq)
      · rcases htomb with hnil | hmem
        · exact absurd (hnil ▸ hq) hQ
        · exact ⟨e, hmem, hq⟩
      · exact hq
    · exact .inr
  refine ⟨h.inv, fun row hr => Finset.mem_insert_of_mem (h.processed row hr), ?_, ?_, ?_⟩
  · intro e' he' hcov
    rcases Finset.mem_insert.mp he' with rfl | he'
    · exact hset hcov
    · exact h.settled e' he' hcov
  · intro id author
    rw [h.deletesId, hex (fun ts => DeletesId ts id author) (by simp [DeletesId])]
  · intro a t
    rw [h.deletesThrough, hex (fun ts => DeletesThrough ts a t) (by simp [DeletesThrough])]

/-- An admission that stores its event. -/
theorem Digest.store (hS : Convergent S) (hP : P ⊆ S) (h : Digest P d) {row : EventRow}
    (hrowS : row.event ∈ S) {replaced : Option String} {cleanup : List Write}
    (hp : Pending row.event replaced cleanup d) (htomb : insertedTombstones cleanup = requestTombstones row.event)
    (hrep : ∀ r ∈ d.nostrEvent, replaced = some r.event.id →
      (∃ a, row.event.replacementAddress = some a ∧ r.event.replacementAddress = some a) ∧ Beats row.event r.event) :
    Digest (insert row.event P) (overlay (storeLog row cleanup) d) := by
  have hrow : row ∈ (overlay (storeLog row cleanup) d).nostrEvent := (mem_storeLog_nostrEvent hp).mpr (.inl rfl)
  have htable : (overlay (storeLog row cleanup) d).deletionTombstone =
      (requestTombstones row.event).foldl insertTombstone d.deletionTombstone := by
    rw [overlay_storeLog hp.isCleanup, htomb]
  refine ⟨h.inv.commit hp, ?_, ?_, ?_, ?_⟩
  · intro r hr
    rcases (mem_storeLog_nostrEvent hp).mp hr with rfl | ⟨hr, _⟩
    · exact Finset.mem_insert_self _ _
    · exact Finset.mem_insert_of_mem (h.processed r hr)
  · intro e' he' hcov
    rcases Finset.mem_insert.mp he' with rfl | he'
    · exact ⟨row, hrow, .inl rfl⟩
    · rw [storeLog_covers hp, not_or] at hcov
      obtain ⟨row₀, hrow₀, hcase⟩ := h.settled e' he' hcov.1
      by_cases hgone : row₀.event.id ∈ deletedIds cleanup
      · rcases hp.exact row₀ hrow₀ hgone with hid | hdel
        · -- the row that settled `e'` was replaced by the new one
          obtain ⟨⟨a, ha, ha₀⟩, hbeats⟩ := hrep row₀ hrow₀ hid
          refine ⟨row, hrow, .inr ?_⟩
          rcases hcase with rfl | ⟨⟨b, hb, hb₀⟩, hbeats'⟩
          · exact ⟨⟨a, ha₀, ha⟩, hbeats⟩
          · rw [ha₀] at hb₀
            exact ⟨⟨a, hb.trans hb₀.symm, ha⟩, hbeats.trans (hS.ids _ hrowS _ (hP he')) hbeats'⟩
        · -- it was deleted by the request, and then so is `e'`
          rw [htomb] at hdel hcov
          rcases hcase with rfl | ⟨⟨b, hb, hb₀⟩, hbeats'⟩
          · exact absurd hdel hcov.2
          · exact absurd (hS.covered_below hrowS (hP (h.processed row₀ hrow₀)) hb₀ hb hbeats'.createdAt_le hdel) hcov.2
      · exact ⟨row₀, (mem_storeLog_nostrEvent hp).mpr (.inr ⟨hrow₀, hgone⟩), hcase⟩
  · intro id author
    rw [htable, deletesId_foldl, h.deletesId]
    simp only [Finset.mem_insert, exists_eq_or_imp, or_comm]
  · intro a t
    rw [htable, deletesThrough_foldl, h.deletesThrough]
    simp only [Finset.mem_insert, exists_eq_or_imp, or_comm]

theorem administration_storeLog {row : EventRow} {cleanup : List Write} (hclean : ∀ w ∈ cleanup, w.IsCleanup) (d : Db) :
    (overlay (storeLog row cleanup) d).administration = d.administration := by
  rw [overlay_storeLog hclean]
  cases h : row.event.replacementAddress <;> simp [Db.withRow, h, overlay, Db.write]

/-- **One admission extends the digest by its event.** -/
theorem Digest.step (hS : Convergent S) (hP : P ⊆ S) (h : Digest P d) {relay : Relay} {call : Call}
    (hcall : call.event ∈ S) (hacc : Accepted relay d.administration call) :
    Digest (insert call.event P) ((admitInner relay call).run d).2 ∧
      ((admitInner relay call).run d).2.administration = d.administration := by
  rcases run_cases hacc h.inv with ⟨hdup, hrun⟩ | ⟨hcov, hrun⟩ | ⟨⟨row, hrow, haddr, hbeats⟩, hrun⟩ |
    ⟨row, replaced, cleanup, hrow, hp, htomb, hrep, hrun⟩
  · rw [hrun]
    obtain ⟨row, hrow, hid⟩ := any_eq_true.mp hdup
    have hsame : row.event = call.event :=
      hS.ids _ (hP (h.processed row hrow)) _ hcall (of_decide_eq_true hid)
    exact ⟨h.keep (.inr (hsame ▸ h.processed row hrow)) fun _ => ⟨row, hrow, .inl hsame⟩, rfl⟩
  · rw [hrun]
    have hkind : call.event.kind ≠ 5 := fun hk => not_covers_of_kind_five hk hcov
    exact ⟨h.keep (.inl (requestTombstones_of_kind hkind)) fun hnot => absurd hcov hnot, rfl⟩
  · rw [hrun]
    obtain ⟨a, ha, _⟩ := id haddr
    exact ⟨h.keep (.inl (requestTombstones_of_kind (kind_ne_five_of_address ha)))
      fun _ => ⟨row, hrow, .inr ⟨haddr, hbeats⟩⟩, rfl⟩
  · rw [hrun]
    rw [← hrow] at hp htomb hrep hcall ⊢
    exact ⟨h.store hS hP hcall hp htomb hrep, administration_storeLog hp.isCleanup d⟩

end

/-! ## Any order, any repetitions -/

/-- Admissions one after the other. -/
def admitAll (relay : Relay) (calls : List Call) (d : Db) : Db :=
  calls.foldl (fun d call => ((admitInner relay call).run d).2) d

theorem Digest.run {relay : Relay} {S : Finset Event} (hS : Convergent S) {calls : List Call} {P : Finset Event}
    (hP : P ⊆ S) (h : Digest P d) (hcalls : ∀ c ∈ calls, c.event ∈ S)
    (hacc : ∀ c ∈ calls, Accepted relay d.administration c) :
    Digest (P ∪ (calls.map Call.event).toFinset) (admitAll relay calls d) := by
  induction calls generalizing P d with
  | nil => simpa [admitAll] using h
  | cons call calls ih =>
    obtain ⟨hstep, hadmin⟩ := h.step hS hP (hcalls call mem_cons_self) (hacc call mem_cons_self)
    have hnext := ih (P := insert call.event P) (Finset.insert_subset (hcalls call mem_cons_self) hP) hstep
      (fun c hc => hcalls c (mem_cons_of_mem call hc))
      (fun c hc => hadmin ▸ hacc c (mem_cons_of_mem call hc))
    simpa [admitAll] using hnext

/-- The largest `deleted_through` of the rows for an address. -/
def maxDeletedThrough (d : Db) (address : ReplacementAddress) : Option Nat :=
  (d.deletionTombstone.filterMap fun
    | .address a through _ => if a = address then some through else none
    | .event _ _ _ => none).max?

theorem le_maxDeletedThrough_iff {t : Nat} :
    (∃ m, maxDeletedThrough d address = some m ∧ t ≤ m) ↔ DeletesThrough d.deletionTombstone address t := by
  constructor
  · rintro ⟨m, hm, hle⟩
    obtain ⟨u, hu, hum⟩ := mem_filterMap.mp (max?_mem hm)
    cases u with
    | event _ _ _ => simp at hum
    | address b s r =>
      simp only [Option.ite_none_right_eq_some, Option.some.injEq] at hum
      obtain ⟨rfl, rfl⟩ := hum
      exact ⟨s, r, hu, hle⟩
  · rintro ⟨through, r, hmem, hle⟩
    have hin : through ∈ d.deletionTombstone.filterMap (fun
        | .address a through _ => if a = address then some through else none
        | .event _ _ _ => none) := mem_filterMap.mpr ⟨_, hmem, by simp⟩
    obtain ⟨m, hm⟩ := Option.isSome_iff_exists.mp (isSome_max?_of_mem hin)
    exact ⟨m, hm, le_trans hle ((max?_le_iff hm).mp le_rfl through hin)⟩

theorem maxDeletedThrough_eq {d' : Db}
    (h : ∀ t, DeletesThrough d.deletionTombstone address t ↔ DeletesThrough d'.deletionTombstone address t) :
    maxDeletedThrough d address = maxDeletedThrough d' address := by
  have hiff : ∀ t, (∃ m, maxDeletedThrough d address = some m ∧ t ≤ m) ↔
      ∃ m, maxDeletedThrough d' address = some m ∧ t ≤ m := by
    intro t
    rw [le_maxDeletedThrough_iff, le_maxDeletedThrough_iff, h]
  cases hm : maxDeletedThrough d address with
  | none =>
    cases hm' : maxDeletedThrough d' address with
    | none => rfl
    | some m' =>
      obtain ⟨m, hm'', _⟩ := (hiff 0).mpr ⟨m', hm', Nat.zero_le _⟩
      rw [hm] at hm''
      exact absurd hm'' (by simp)
  | some m =>
    obtain ⟨m', hm', hle⟩ := (hiff m).mp ⟨m, hm, le_rfl⟩
    obtain ⟨m'', hm'', hle'⟩ := (hiff m').mpr ⟨m', hm', le_rfl⟩
    rw [hm, Option.some.injEq] at hm''
    rw [hm', Option.some.injEq]
    omega

/-- **Convergence.** Two sequences of accepted admissions that consist of the same events, in any order and
    with any repetitions, leave the same stored events, the same deleted ids for every author and the same
    largest deletion bound for every address. -/
theorem admissions_converge (relay : Relay) (administration : Administration) (S : Finset Event) (hS : Convergent S)
    (calls calls' : List Call) (hcalls : (calls.map Call.event).toFinset = S)
    (hcalls' : (calls'.map Call.event).toFinset = S)
    (hacc : ∀ c ∈ calls, Accepted relay administration c) (hacc' : ∀ c ∈ calls', Accepted relay administration c) :
    (∀ e, (∃ row ∈ (admitAll relay calls (Db.empty administration)).nostrEvent, row.event = e) ↔
      ∃ row ∈ (admitAll relay calls' (Db.empty administration)).nostrEvent, row.event = e) ∧
    (∀ id author, DeletesId (admitAll relay calls (Db.empty administration)).deletionTombstone id author ↔
      DeletesId (admitAll relay calls' (Db.empty administration)).deletionTombstone id author) ∧
    (∀ address, maxDeletedThrough (admitAll relay calls (Db.empty administration)) address =
      maxDeletedThrough (admitAll relay calls' (Db.empty administration)) address) := by
  have hmem : ∀ {cs : List Call}, (cs.map Call.event).toFinset = S → ∀ c ∈ cs, c.event ∈ S := by
    intro cs hcs c hc
    rw [← hcs, List.mem_toFinset]
    exact List.mem_map_of_mem hc
  have hdigest : ∀ {cs : List Call}, (cs.map Call.event).toFinset = S → (∀ c ∈ cs, Accepted relay administration c) →
      Digest S (admitAll relay cs (Db.empty administration)) := by
    intro cs hcs hok
    have h := (Digest.empty administration).run hS (by simp) (hmem hcs) hok
    rwa [hcs, Finset.empty_union] at h
  have h := hdigest hcalls hacc
  have h' := hdigest hcalls' hacc'
  refine ⟨fun e => ?_, fun id author => ?_, fun address => maxDeletedThrough_eq fun t => ?_⟩
  · rw [h.stored_iff hS subset_rfl, h'.stored_iff hS subset_rfl]
  · rw [h.deletesId, h'.deletesId]
  · rw [h.deletesThrough, h'.deletesThrough]

/-- A note and the request that deletes it, admitted in both orders. -/
theorem admissions_converge_note_and_request :
    {e | ∃ row ∈ (admitAll acceptingRelay [noteCall, requestCall] (Db.empty openAdministration)).nostrEvent,
        row.event = e} =
      {e | ∃ row ∈ (admitAll acceptingRelay [requestCall, noteCall, noteCall] (Db.empty openAdministration)).nostrEvent,
        row.event = e} := by
  have haddr : ∀ e ∈ ({noteCall.event, requestCall.event} : Finset Event),
      e.pubkey = hexText 32 'f' ∧ e.replacementAddress = none := by
    intro e he
    rcases Finset.mem_insert.mp he with rfl | he
    · exact ⟨rfl, rfl⟩
    · rw [Finset.mem_singleton] at he; subst he; exact ⟨rfl, rfl⟩
  have hS : Convergent {noteCall.event, requestCall.event} := by
    refine ⟨?_, ?_⟩
    · intro e he e' he' hid
      simp only [Finset.mem_insert, Finset.mem_singleton] at he he'
      rcases he with rfl | rfl <;> rcases he' with rfl | rfl
      · rfl
      · exact absurd hid (by decide +kernel)
      · exact absurd hid (by decide +kernel)
      · rfl
    · intro r hr request hreq id _ e he _
      rw [(deletionRequest_some hreq).2.1, (haddr r hr).1]
      exact haddr e he
  refine Set.ext (admissions_converge acceptingRelay openAdministration _ hS [noteCall, requestCall]
    [requestCall, noteCall, noteCall] ?_ ?_ ?_ ?_).1
  · simp
  · ext e; simp; tauto
  · simpa using ⟨accepted_noteCall, accepted_requestCall⟩
  · simpa using ⟨accepted_requestCall, accepted_noteCall⟩

end Immortal.Store
