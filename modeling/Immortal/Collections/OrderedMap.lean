import Mathlib

/-!
# `Immortal.Collections.OrderedMap` — entries of an ordered map

Facts about the entry list of an extensional tree map: what an insertion does to the entries and to a sum over them,
and which map a loop of insertions builds.
-/

namespace Collections

variable {β : Type}

variable {map : Std.ExtTreeMap String β} {key : String}

/-- The entries after an insertion. -/
theorem mem_toList_insert {value : β} {entry : String × β} :
    entry ∈ (map.insert key value).toList ↔
      entry = (key, value) ∨ (entry.1 ≠ key ∧ entry ∈ map.toList) := by
  obtain ⟨other, found⟩ := entry
  rw [Std.ExtTreeMap.mem_toList_iff_getElem?_eq_some,
    Std.ExtTreeMap.getElem?_insert]
  by_cases h : key = other
  · subst h
    simp [eq_comm]
  · have hcompare : compare key other ≠ .eq := fun hc => h (Std.LawfulEqCmp.eq_of_compare hc)
    simp [hcompare, Ne.symm h]

theorem getElem?_insert_of_ne {other : String} {value : β} (h : key ≠ other) :
    (map.insert key value)[other]? = map[other]? := by
  rw [Std.ExtTreeMap.getElem?_insert, if_neg fun hcompare => h (Std.LawfulEqCmp.eq_of_compare hcompare)]

theorem nodup_toList (map : Std.ExtTreeMap String β) : map.toList.Nodup := by
  refine map.distinct_keys_toList.imp fun {a b} hne hab => hne ?_
  rw [hab]
  exact Std.ReflCmp.compare_self

theorem toList_insert_perm (map : Std.ExtTreeMap String β) (key : String) (value : β) :
    (map.insert key value).toList.Perm ((key, value) :: map.toList.filter fun entry => entry.1 ≠ key) := by
  rw [List.perm_ext_iff_of_nodup (nodup_toList _)]
  · intro entry
    rw [mem_toList_insert]
    simp [and_comm]
  · rw [List.nodup_cons]
    exact ⟨by simp, (nodup_toList map).filter _⟩

theorem insert_of_getElem? {value : β} (h : map[key]? = some value) : map.insert key value = map := by
  apply Std.ExtTreeMap.ext_getElem?
  intro other
  by_cases hkey : key = other
  · subst hkey
    rw [Std.ExtTreeMap.getElem?_insert_self, h]
  · rw [getElem?_insert_of_ne hkey]

/-- The sum of a quantity over the values of a map. -/
def total (map : Std.ExtTreeMap String β) (count : β → Nat) : Nat := (map.toList.map fun entry => count entry.2).sum

theorem total_empty (count : β → Nat) : total (∅ : Std.ExtTreeMap String β) count = 0 := rfl

/-- A sum over the values, apart from the value of one key. -/
theorem total_insert_eq (map : Std.ExtTreeMap String β) (key : String) (value : β) (count : β → Nat) :
    total (map.insert key value) count =
      count value + ((map.toList.filter fun entry => entry.1 ≠ key).map fun entry => count entry.2).sum := by
  rw [total, ((toList_insert_perm map key value).map _).sum_eq, List.map_cons, List.sum_cons]

/-- Replacing a value replaces its share of the sum. -/
theorem total_insert_of_some {old : β} (h : map[key]? = some old) (value : β) (count : β → Nat) :
    total (map.insert key value) count + count old = total map count + count value := by
  have hold := total_insert_eq map key old count
  rw [insert_of_getElem? h] at hold
  rw [total_insert_eq]
  omega

/-- A new key adds its value's share to the sum. -/
theorem total_insert_of_none (h : map[key]? = none) (value : β) (count : β → Nat) :
    total (map.insert key value) count = total map count + count value := by
  have hfilter : (map.toList.filter fun entry => entry.1 ≠ key) = map.toList := by
    rw [List.filter_eq_self]
    rintro ⟨other, found⟩ hentry
    rw [Std.ExtTreeMap.mem_toList_iff_getElem?_eq_some] at hentry
    have hne : other ≠ key := by
      rintro rfl
      rw [h] at hentry
      cases hentry
    simpa using hne
  rw [total_insert_eq, hfilter, total]
  omega

/-- A map is rebuilt by inserting its keys, in any order and any number of times. -/
theorem foldl_insert_eq {α : Type} (entries : List α) (key : α → String) (value : α → β)
    (target : Std.ExtTreeMap String β) (hvalue : ∀ entry ∈ entries, target[key entry]? = some (value entry))
    (hkeys : ∀ name found, target[name]? = some found → ∃ entry ∈ entries, key entry = name) :
    entries.foldl (fun map entry => map.insert (key entry) (value entry)) ∅ = target := by
  -- what the loop has built after some of the entries is the part of the target with their keys
  have hloop : ∀ (seen : List α), (∀ entry ∈ seen, target[key entry]? = some (value entry)) → ∀ name,
      (seen.foldl (fun map entry => map.insert (key entry) (value entry)) (∅ : Std.ExtTreeMap String β))[name]? =
        if ∃ entry ∈ seen, key entry = name then target[name]? else none := by
    intro seen hseen name
    induction seen using List.reverseRecOn with
    | nil => simp
    | append_singleton seen entry ih =>
      rw [List.foldl_append, List.foldl_cons, List.foldl_nil]
      have hih := ih fun e he => hseen e (List.mem_append_left _ he)
      by_cases hname : key entry = name
      · subst hname
        rw [Std.ExtTreeMap.getElem?_insert_self, if_pos ⟨entry, by simp, rfl⟩, hseen entry (by simp)]
      · rw [getElem?_insert_of_ne hname, hih]
        simp [exists_or, hname]
  apply Std.ExtTreeMap.ext_getElem?
  intro name
  rw [hloop entries hvalue name]
  split
  case isTrue => rfl
  case isFalse hnone =>
    cases hfound : target[name]? with
    | none => rfl
    | some found => exact absurd (hkeys name found hfound) hnone

end Collections
