import Mathlib

/-!
# `Immortal.Store.LocalEphemeral` — the ephemeral events this process is admitting

`admit_event` remembers the id of an ephemeral event before its admission, so that the listener can skip the echo of its
`NOTIFY`, and forgets it when the admission sends none. Ids are kept in a set, and in a queue for forgetting the oldest;
`remove` leaves the queue alone.
-/

namespace Immortal.Store

open List

structure LocalEphemeralIds where
  ids : Finset String
  order : List String
  deriving DecidableEq

def localEphemeralCapacity : Nat := 4096

namespace LocalEphemeralIds

/-- The loop at the end of `insert`. -/
def forgetOldest (ids : Finset String) : List String → LocalEphemeralIds
  | [] => ⟨ids, []⟩
  | oldest :: order =>
    if localEphemeralCapacity < (oldest :: order).length then forgetOldest (ids.erase oldest) order
    else ⟨ids, oldest :: order⟩

def insert (known : LocalEphemeralIds) (eventId : String) : LocalEphemeralIds :=
  if eventId ∈ known.ids then known
  else forgetOldest (Insert.insert eventId known.ids) (known.order ++ [eventId])

def remove (known : LocalEphemeralIds) (eventId : String) : LocalEphemeralIds :=
  { known with ids := known.ids.erase eventId }

def contains (known : LocalEphemeralIds) (eventId : String) : Bool := eventId ∈ known.ids

end LocalEphemeralIds

inductive EphemeralCall where
  | insert (eventId : String)
  | remove (eventId : String)
  deriving DecidableEq

def LocalEphemeralIds.call (known : LocalEphemeralIds) : EphemeralCall → LocalEphemeralIds
  | .insert eventId => known.insert eventId
  | .remove eventId => known.remove eventId

def runEphemeral (calls : List EphemeralCall) : LocalEphemeralIds := calls.foldl LocalEphemeralIds.call ⟨∅, []⟩

def insertedIds (calls : List EphemeralCall) : List String :=
  calls.filterMap fun
    | .insert eventId => some eventId
    | .remove _ => none

def removals (calls : List EphemeralCall) : Nat :=
  calls.countP fun
    | .insert _ => false
    | .remove _ => true

/-- What is expected of a sequence of calls. -/
structure Suppresses (calls : List EphemeralCall) : Prop where
  /-- An id is known until it is removed or the capacity in other ids has followed it. -/
  known : ∀ before eventId after, calls = before ++ .insert eventId :: after → .insert eventId ∉ after →
    .remove eventId ∉ after → (insertedIds after).toFinset.card < localEphemeralCapacity →
    (runEphemeral calls).contains eventId = true
  bounded : (runEphemeral calls).order.length ≤ (runEphemeral calls).ids.card + removals calls
  /-- What an `insert` forgets stands first in the queue, and all other ids that are known stand behind it. -/
  oldest : ∀ before eventId after, calls = before ++ .insert eventId :: after → ∀ lost ∈ (runEphemeral before).ids,
    lost ∉ (runEphemeral (before ++ [.insert eventId])).ids →
    ∃ order, (runEphemeral before).order = lost :: order ∧ lost ∉ order ∧
      ∀ other ∈ (runEphemeral before).ids, other = lost ∨ other ∈ order

theorem runEphemeral_snoc (calls : List EphemeralCall) (call : EphemeralCall) :
    runEphemeral (calls ++ [call]) = (runEphemeral calls).call call := by
  rw [runEphemeral, foldl_append]
  rfl

theorem insertedIds_split (before after : List EphemeralCall) (eventId : String) :
    insertedIds (before ++ .insert eventId :: after) = insertedIds before ++ eventId :: insertedIds after := by
  simp [insertedIds]

section
variable {known : LocalEphemeralIds} {eventId : String}

open LocalEphemeralIds

theorem forgetOldest_of_le {ids : Finset String} {order : List String} (h : order.length ≤ localEphemeralCapacity) :
    forgetOldest ids order = ⟨ids, order⟩ := by
  cases order with
  | nil => rfl
  | cons oldest order => rw [forgetOldest, if_neg (Nat.not_lt.mpr h)]

/-- A new id is appended to the queue, which loses its first if it is full. -/
theorem insert_cases (hshort : known.order.length ≤ localEphemeralCapacity) (eventId : String) :
    eventId ∈ known.ids ∧ known.insert eventId = known ∨
      eventId ∉ known.ids ∧ ∃ gone kept, known.order = gone ++ kept ∧
        known.insert eventId = ⟨Insert.insert eventId known.ids \ gone.toFinset, kept ++ [eventId]⟩ ∧
        (gone = [] ∧ kept.length < localEphemeralCapacity ∨
          ∃ oldest, gone = [oldest] ∧ kept.length + 1 = localEphemeralCapacity) := by
  by_cases hknown : eventId ∈ known.ids
  · exact .inl ⟨hknown, if_pos hknown⟩
  refine .inr ⟨hknown, ?_⟩
  rw [LocalEphemeralIds.insert, if_neg hknown]
  rcases Nat.lt_or_eq_of_le hshort with hroom | hfull
  · refine ⟨[], known.order, rfl, ?_, .inl ⟨rfl, hroom⟩⟩
    rw [forgetOldest_of_le (by simp; omega), toFinset_nil, Finset.sdiff_empty]
  · obtain ⟨oldest, order, horder⟩ := exists_cons_of_length_pos (hfull ▸ by decide : 0 < known.order.length)
    rw [horder, length_cons] at hfull
    refine ⟨[oldest], order, horder, ?_, .inr ⟨oldest, rfl, hfull⟩⟩
    rw [horder, cons_append, forgetOldest, if_pos (by simp [hfull]), forgetOldest_of_le (by simp [hfull]),
      Finset.erase_eq]
    rfl

/-- What holds of the set and the queue after any calls. -/
structure QueueInv (inserted : List String) (removed : Nat) (known : LocalEphemeralIds) : Prop where
  inserted : known.order.Sublist inserted
  queued : ∀ eventId ∈ known.ids, eventId ∈ known.order
  short : known.order.length ≤ localEphemeralCapacity
  bounded : known.order.length ≤ known.ids.card + removed

theorem QueueInv.insert {inserted : List String} {removed : Nat} (h : QueueInv inserted removed known)
    (eventId : String) : QueueInv (inserted ++ [eventId]) removed (known.insert eventId) := by
  rcases insert_cases h.short eventId with ⟨-, heq⟩ | ⟨hnew, gone, kept, horder, heq, hlength⟩
  · rw [heq]
    exact ⟨h.inserted.trans (sublist_append_left _ _), h.queued, h.short, h.bounded⟩
  have hbounded := h.bounded
  rw [horder, length_append] at hbounded
  rw [heq]
  refine ⟨((horder ▸ sublist_append_right gone kept).trans h.inserted).append_right _, fun other hother => ?_, ?_, ?_⟩
  · obtain ⟨hmem, hstays⟩ := Finset.mem_sdiff.mp hother
    rcases Finset.mem_insert.mp hmem with rfl | hmem
    · simp
    · have hqueued := h.queued other hmem
      rw [horder, mem_append] at hqueued
      exact mem_append_left _ (hqueued.resolve_left (mt mem_toFinset.mpr hstays))
  · rw [length_append, length_singleton]
    rcases hlength with ⟨-, hroom⟩ | ⟨_, -, hfull⟩ <;> omega
  · have hcard := Finset.le_card_sdiff gone.toFinset (Insert.insert eventId known.ids)
    have hgone := gone.toFinset_card_le
    rw [Finset.card_insert_of_notMem hnew] at hcard
    rw [length_append, length_singleton]
    dsimp only
    omega

theorem queueInv_run (calls : List EphemeralCall) :
    QueueInv (insertedIds calls) (removals calls) (runEphemeral calls) := by
  induction calls using reverseRecOn with
  | nil => exact ⟨nil_sublist _, by simp [runEphemeral], by simp [runEphemeral], by simp [runEphemeral]⟩
  | append_singleton calls call ih =>
    rw [runEphemeral_snoc, insertedIds, removals, filterMap_append, countP_append]
    cases call with
    | insert eventId => exact ih.insert eventId
    | remove eventId =>
      refine ⟨by simpa using! ih.inserted, fun other h => ih.queued other (Finset.mem_of_mem_erase h), ih.short,
        ih.bounded.trans ?_⟩
      have herase : (runEphemeral calls).ids.card ≤ ((runEphemeral calls).ids.erase eventId).card + 1 :=
        Nat.le_add_of_sub_le Finset.pred_card_le_card_erase
      show _ ≤ ((runEphemeral calls).ids.erase eventId).card + (removals calls + 1)
      omega

/-- An id with only one place in the queue stays until all places behind it are taken by others. -/
theorem stays {calls : List EphemeralCall} (front rest : List String) (hknown : eventId ∈ known.ids)
    (horder : known.order = front ++ eventId :: rest) (hfront : eventId ∉ front)
    (hshort : known.order.length ≤ localEphemeralCapacity) (hkept : .remove eventId ∉ calls)
    (hroom : rest.length + (insertedIds calls).length < localEphemeralCapacity) :
    eventId ∈ (calls.foldl call known).ids := by
  induction calls generalizing known front rest with
  | nil => exact hknown
  | cons first calls ih =>
    rw [mem_cons, not_or] at hkept
    cases first with
    | remove other =>
      have hne : eventId ≠ other := fun hsame => hkept.1 (by rw [hsame])
      exact ih front rest (Finset.mem_erase.mpr ⟨hne, hknown⟩) horder hfront hshort hkept.2 hroom
    | insert other =>
      have hids : (insertedIds (.insert other :: calls)).length = (insertedIds calls).length + 1 := by simp [insertedIds]
      rw [foldl_cons, call]
      rcases insert_cases hshort other with ⟨-, heq⟩ | ⟨-, gone, kept, hsplit, heq, hfull⟩
      · rw [heq]
        exact ih front rest hknown horder hfront hshort hkept.2 (by omega)
      · rw [horder] at hsplit
        obtain ⟨front', rfl, hgone⟩ : ∃ front', kept = front' ++ eventId :: rest ∧ front = gone ++ front' := by
          rcases hfull with ⟨rfl, -⟩ | ⟨oldest, rfl, hfull⟩
          · exact ⟨front, hsplit.symm, rfl⟩
          · -- the queue is full, so something stands in front of the id
            cases front with
            | nil =>
              obtain ⟨-, rfl⟩ := cons.inj hsplit
              omega
            | cons first front =>
              obtain ⟨rfl, rfl⟩ := cons.inj hsplit
              exact ⟨front, rfl, rfl⟩
        rw [hgone, mem_append, not_or] at hfront
        rw [heq]
        refine ih front' (rest ++ [other]) (by simp [hknown, hfront.1]) (by simp) hfront.2 ?_ hkept.2 (by simp; omega)
        rw [length_append, length_singleton]
        rcases hfull with ⟨-, hroom⟩ | ⟨_, -, hfull⟩ <;> omega

end

/-- **Suppression**: a run that inserts no id twice knows every id for as long as it should. -/
theorem suppresses_of_nodup (calls : List EphemeralCall) (h : (insertedIds calls).Nodup) : Suppresses calls where
  known before eventId after hsplit _ hkept hfew := by
    have hinv := queueInv_run before
    rw [hsplit, insertedIds_split] at h
    obtain ⟨-, hafter, hdisjoint⟩ := List.nodup_append.mp h
    have hfresh : eventId ∉ (runEphemeral before).order := fun hmem =>
      hdisjoint eventId (hinv.inserted.subset hmem) eventId List.mem_cons_self rfl
    rw [List.toFinset_card_of_nodup (List.nodup_cons.mp hafter).2] at hfew
    rw [hsplit, List.append_cons, runEphemeral, List.foldl_append]
    change decide (eventId ∈ (after.foldl LocalEphemeralIds.call (runEphemeral (before ++ [.insert eventId]))).ids) = true
    have hnext := (queueInv_run (before ++ [.insert eventId])).short
    rw [runEphemeral_snoc, LocalEphemeralIds.call] at hnext ⊢
    rcases insert_cases hinv.short eventId with ⟨hknown, -⟩ | ⟨-, gone, kept, horder, heq, -⟩
    · exact absurd (hinv.queued eventId hknown) hfresh
    · rw [horder, List.mem_append, not_or] at hfresh
      rw [heq] at hnext ⊢
      exact decide_eq_true (stays kept [] (by simp [hfresh.1]) rfl hfresh.2 hnext hkept (by simpa using hfew))
  bounded := (queueInv_run calls).bounded
  oldest before eventId after hsplit lost hlost hgone := by
    have hinv := queueInv_run before
    have hnodup : (runEphemeral before).order.Nodup := by
      refine h.sublist (hinv.inserted.trans ?_)
      rw [hsplit, insertedIds_split]
      exact List.sublist_append_left _ _
    have hqueued := hinv.queued
    rw [runEphemeral_snoc, LocalEphemeralIds.call] at hgone
    rcases insert_cases hinv.short eventId with ⟨-, heq⟩ | ⟨-, gone, kept, horder, heq, ⟨rfl, -⟩ | ⟨oldest, rfl, -⟩⟩
    · exact absurd hlost (heq ▸ hgone)
    · simp [heq, hlost] at hgone
    · obtain rfl : lost = oldest := by simpa [heq, hlost] using hgone
      rw [horder] at hqueued hnodup
      exact ⟨kept, horder, (List.nodup_cons.mp hnodup).1, fun other hother => List.mem_cons.mp (hqueued other hother)⟩

theorem suppresses_of_nodup_two : Suppresses [.insert "a", .insert "b", .remove "a"] :=
  suppresses_of_nodup _ (by decide)

/-- The calls for an event whose admission is refused, again and again. -/
def resubmissions (eventId : String) : Nat → List EphemeralCall
  | 0 => []
  | n + 1 => resubmissions eventId n ++ [.insert eventId, .remove eventId]

theorem mem_resubmissions {b : String} {n : Nat} {call : EphemeralCall} (h : call ∈ resubmissions b n) :
    call = .insert b ∨ call = .remove b := by
  induction n with
  | zero => cases h
  | succ n ih => exact (mem_append.mp h).elim ih (by simp)

theorem run_resubmissions_succ (a b : String) (n : Nat) :
    runEphemeral (.insert a :: resubmissions b (n + 1)) =
      ((runEphemeral (.insert a :: resubmissions b n)).insert b).remove b := by
  rw [resubmissions, ← cons_append, runEphemeral, foldl_append]
  rfl

/-- Every refused admission leaves an entry in the queue. -/
theorem run_resubmissions {a b : String} (hne : b ≠ a) {n : Nat} (hn : n < localEphemeralCapacity) :
    runEphemeral (.insert a :: resubmissions b n) = ⟨{a}, a :: replicate n b⟩ := by
  induction n with
  | zero => rfl
  | succ n ih =>
    rw [run_resubmissions_succ, ih (by omega)]
    simp [LocalEphemeralIds.insert, LocalEphemeralIds.remove, hne, replicate_succ',
      forgetOldest_of_le (show (a :: (replicate n b ++ [b])).length ≤ _ by simp; omega)]

theorem resubmissions_forget {a b : String} (hne : b ≠ a) {n : Nat} (hn : n = localEphemeralCapacity) :
    a ∉ (runEphemeral (.insert a :: resubmissions b n)).ids := by
  obtain ⟨n, rfl⟩ : ∃ m, n = m + 1 := ⟨4095, hn⟩
  rw [run_resubmissions_succ, run_resubmissions hne (by omega), LocalEphemeralIds.insert, if_neg (by simpa using hne),
    cons_append, LocalEphemeralIds.forgetOldest, if_pos (by simp; omega), forgetOldest_of_le (by simp; omega)]
  simp [LocalEphemeralIds.remove]

/-- A refused event that is sent again 4096 times drives another event out, although no third id is inserted. -/
theorem resubmission_drives_out :
    let a := String.ofList (List.replicate 64 'a')
    let b := String.ofList (List.replicate 64 'b')
    let after := resubmissions b localEphemeralCapacity
    .insert a ∉ after ∧ .remove a ∉ after ∧ (insertedIds after).toFinset ⊆ {b} ∧
      (runEphemeral (.insert a :: after)).contains a = false := by
  intro a b
  have hne : b ≠ a := by decide
  have hgone := resubmissions_forget hne rfl
  have hcalls := fun call => @mem_resubmissions b localEphemeralCapacity call
  dsimp only
  generalize resubmissions b localEphemeralCapacity = after at hgone hcalls ⊢
  refine ⟨fun h => ?_, fun h => ?_, fun eventId h => ?_, decide_eq_false hgone⟩
  · simpa [hne.symm] using hcalls _ h
  · simpa [hne.symm] using hcalls _ h
  · obtain ⟨call, hmem, hinserted⟩ := List.mem_filterMap.mp (List.mem_toFinset.mp h)
    rcases hcalls call hmem with rfl | rfl
    · simpa [eq_comm] using hinserted
    · cases hinserted

end Immortal.Store
