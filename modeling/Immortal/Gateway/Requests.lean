import Immortal.Gateway.Worker

/-!
# `Immortal.Gateway.Requests` — what a request of a client does to the worker

Filters meet the server's rules where a statement binds their texts. The filters of a request are answered one after
the other: the first one that is not answered either has a time that does not fit `bigint`, which ends the request
with an error that is not fatal, or asks for text with U+0000, which the server refuses and which stops the worker. A
count can end earlier, once it has found too many events. Together with the faults of an admission this gives the
exact condition under which `handle_request` goes on.

The rows of the store are taken to decode (`decode_event_row`), and the checks that PostgreSQL makes of a row's other
columns to pass.
-/

namespace Immortal.Gateway

open Txn Immortal.Domain Immortal.Store List

/-! ## Filters -/

variable {α : Type} {x : Except StoreError α}

section
variable {search : TextSearch} {filter : Filter} {now limit maxResults through : Nat}
  {readPubkeys : Option (List String)} {d : Db}

/-- What one filter does: out of range it ends the query, in range it stops the worker or is answered. -/
structure Answerable (search : TextSearch) (filter : Filter) : Prop where
  inRange : InRange filter
  clean : ¬ AsksForNul search filter

variable (hvalid : filter.validate search.lowercase = .ok ())
  (hreaders : ∀ reader ∈ readPubkeys.getD [], isLowerHex 32 reader = true)

section
include hvalid hreaders

theorem filterQuery_ok {rows : QueryParams → α} {result : α} :
    (do
      let params ← filterParams search filter now limit readPubkeys
      params.bind
      return rows params : Except StoreError α) = .ok result ↔
      Answerable search filter ∧ result = rows (QueryParams.ofFilter search filter now limit readPubkeys) := by
  simp only [bind_eq_ok, filterParams_ok, pure_eq_ok]
  constructor
  · rintro ⟨_, ⟨hrange, rfl⟩, _, hbind, rfl⟩
    exact ⟨⟨hrange, (bind_ofFilter_ok hvalid hreaders).mp hbind⟩, rfl⟩
  · rintro ⟨⟨hrange, hclean⟩, rfl⟩
    exact ⟨_, ⟨hrange, rfl⟩, (), (bind_ofFilter_ok hvalid hreaders).mpr hclean, rfl⟩

end

end

/-- The ids that the filters select for counting, without any limit. -/
def countedIds (search : TextSearch) (d : Db) (now : Nat) (readPubkeys : Option (List String)) (filter : Filter) :
    List String :=
  (d.nostrEvent.filter (queryFilterIdsWhere search (QueryParams.ofFilter search filter now 0 readPubkeys))).map
    (·.event.id)

section
variable {search : TextSearch} {filter : Filter} {filters : List Filter} {now maxResults through : Nat} {d : Db}

/-- The place in a list at which something holds of what stands before it is its head or a place in its tail. -/
theorem exists_split_cons {a : α} {l : List α} {P : List α → α → Prop} :
    (∃ before x after, a :: l = before ++ x :: after ∧ P before x) ↔
      P [] a ∨ ∃ before x after, l = before ++ x :: after ∧ P (a :: before) x := by
  constructor
  · rintro ⟨before, x, after, hsplit, h⟩
    cases before with
    | nil =>
      obtain ⟨rfl, -⟩ := cons.inj hsplit
      exact .inl h
    | cons first before =>
      obtain ⟨rfl, hrest⟩ := cons.inj hsplit
      exact .inr ⟨before, x, after, hrest, h⟩
  · rintro (h | ⟨before, x, after, rfl, h⟩)
    · exact ⟨[], a, l, rfl, h⟩
    · exact ⟨a :: before, x, after, rfl, h⟩

theorem not_exists_split_nil {P : List α → α → Prop} :
    ¬ ∃ before x after, ([] : List α) = before ++ x :: after ∧ P before x := by
  rintro ⟨before, x, after, hsplit, -⟩
  cases before <;> cases hsplit

variable {found ids : List String} {maxCount : Nat} {readPubkeys : Option (List String)}

theorem card_le_append {xs ys : List String} : xs.toFinset.card ≤ (xs ++ ys).toFinset.card := by
  rw [toFinset_append]
  exact Finset.card_le_card Finset.subset_union_left

theorem card_le_append_left {xs ys : List String} : ys.toFinset.card ≤ (xs ++ ys).toFinset.card := by
  rw [toFinset_append]
  exact Finset.card_le_card Finset.subset_union_right

/-- A list cut off above `bound` has at most `bound` values, together with others, exactly when the whole list has, and
    then nothing was cut off. -/
theorem card_take_le {bound : Nat} (hnodup : found.Nodup) :
    (ids ++ found.take (bound + 1)).toFinset.card ≤ bound ↔ (ids ++ found).toFinset.card ≤ bound := by
  by_cases hshort : found.length ≤ bound + 1
  · rw [take_of_length_le hshort]
  · have hcut : bound + 1 ≤ (found.take (bound + 1)).toFinset.card := by
      rw [toFinset_card_of_nodup (hnodup.sublist (take_sublist _ _)), length_take]
      omega
    have hwhole : (found.take (bound + 1)).toFinset.card ≤ found.toFinset.card := by
      conv_rhs => rw [← take_append_drop (bound + 1) found]
      exact card_le_append
    exact iff_of_false (not_le.mpr (le_trans hcut card_le_append_left))
      (not_le.mpr (le_trans (le_trans hcut hwhole) card_le_append_left))

theorem toFinset_take {bound : Nat} (hnodup : found.Nodup) (hfew : (ids ++ found).toFinset.card ≤ bound) :
    (ids ++ found.take (bound + 1)).toFinset = (ids ++ found).toFinset := by
  have hcard := le_trans card_le_append_left hfew
  rw [toFinset_card_of_nodup hnodup] at hcard
  rw [take_of_length_le (by omega)]

theorem length_btreeSet (ids : List String) : (btreeSet ids).length = ids.toFinset.card := by
  rw [btreeSet, length_insertionSort, card_toFinset]

theorem toFinset_btreeSet (ids : List String) : (btreeSet ids).toFinset = ids.toFinset := by
  ext id
  simp

theorem nodup_btreeSet (ids : List String) : (btreeSet ids).Nodup :=
  (perm_insertionSort _ _).nodup_iff.mpr (nodup_dedup ids)

/-- A filter with `P` whose turn comes: the filters in front of it are answered, and with the ids found before they
    select no more than `maxCount`. -/
def CountReaches (search : TextSearch) (d : Db) (now maxCount : Nat) (readPubkeys : Option (List String))
    (P : Filter → Prop) (ids : List String) (filters : List Filter) : Prop :=
  ∃ before refused after, filters = before ++ refused :: after ∧ (∀ earlier ∈ before, Answerable search earlier) ∧
    (ids ++ before.flatMap (countedIds search d now readPubkeys)).toFinset.card ≤ maxCount ∧ P refused

theorem countReaches_cons {P : Filter → Prop} (hids : ids.toFinset.card ≤ maxCount) :
    CountReaches search d now maxCount readPubkeys P ids (filter :: filters) ↔
      P filter ∨ (Answerable search filter ∧
        (ids ++ countedIds search d now readPubkeys filter).toFinset.card ≤ maxCount ∧
        CountReaches search d now maxCount readPubkeys P (ids ++ countedIds search d now readPubkeys filter)
          filters) := by
  rw [CountReaches, exists_split_cons]
  simp only [forall_mem_cons, flatMap_cons, ← append_assoc]
  refine or_congr ⟨fun h => h.2.2, fun h => ⟨by simp, by simpa using hids, h⟩⟩ ⟨?_, ?_⟩
  · rintro ⟨before, refused, after, hsplit, ⟨hanswer, hbefore⟩, hfew, hfault⟩
    exact ⟨hanswer, le_trans card_le_append hfew, before, refused, after, hsplit, hbefore, hfew, hfault⟩
  · rintro ⟨hanswer, _, before, refused, after, hsplit, hbefore, hfew, hfault⟩
    exact ⟨before, refused, after, hsplit, ⟨hanswer, hbefore⟩, hfew, hfault⟩

/-- The statement of one pass of `count_filters`. -/
def countPass (search : TextSearch) (d : Db) (now limit : Nat) (readPubkeys : Option (List String))
    (filter : Filter) : Except StoreError (List String) := do
  let params ← filterParams search filter now limit readPubkeys
  params.bind
  return (((d.nostrEvent.filter (queryFilterIdsWhere search params)).map (·.event.id)).insertionSort (· ≤ ·)).take
    params.limit

theorem countLoop_cons {limit : Nat} (hvalid : filter.validate search.lowercase = .ok ()) :
    countLoop search d now limit maxCount readPubkeys (filter :: filters) ids = (do
      let found ← countPass search d now limit readPubkeys filter
      if maxCount < (btreeSet (ids ++ found)).length then .ok none
      else countLoop search d now limit maxCount readPubkeys filters (btreeSet (ids ++ found))) := by
  have hdomain : liftDomain (filter.validate search.lowercase) = .ok () := by
    rw [hvalid]
    rfl
  rw [countLoop, countPass, hdomain]
  cases filterParams search filter now limit readPubkeys with
  | error e => rfl
  | ok params =>
    cases hbind : params.bind with
    | error e => simp [queryFilterIdsSql, hbind, bind, Except.bind]
    | ok u => simp [queryFilterIdsSql, bind, Except.bind, pure, Except.pure]

theorem countPass_ok {limit : Nat} (hvalid : filter.validate search.lowercase = .ok ())
    (hreaders : ∀ reader ∈ readPubkeys.getD [], isLowerHex 32 reader = true) :
    countPass search d now limit readPubkeys filter = .ok found ↔ Answerable search filter ∧
      found = ((countedIds search d now readPubkeys filter).insertionSort (· ≤ ·)).take limit :=
  filterQuery_ok hvalid hreaders

/-- The limit of one pass hides no id that would change the count. -/
theorem countPass_set (ids : List String) (hnodup : (d.nostrEvent.map (·.event.id)).Nodup)
    (hfound : found = ((countedIds search d now readPubkeys filter).insertionSort (· ≤ ·)).take (maxCount + 1)) :
    (maxCount < (btreeSet (ids ++ found)).length ↔
      maxCount < (ids ++ countedIds search d now readPubkeys filter).toFinset.card) ∧
    ((ids ++ countedIds search d now readPubkeys filter).toFinset.card ≤ maxCount →
      (btreeSet (ids ++ found)).toFinset = (ids ++ countedIds search d now readPubkeys filter).toFinset) := by
  have hsorted : ((countedIds search d now readPubkeys filter).insertionSort (· ≤ ·)).Nodup :=
    (perm_insertionSort _ _).nodup_iff.mpr (hnodup.sublist (filter_sublist.map _))
  have hset : (ids ++ (countedIds search d now readPubkeys filter).insertionSort (· ≤ ·)).toFinset =
      (ids ++ countedIds search d now readPubkeys filter).toFinset := by
    ext id
    simp
  rw [hfound, length_btreeSet, toFinset_btreeSet, ← not_le, ← not_le, card_take_le hsorted, hset]
  exact ⟨Iff.rfl, fun hfew => by rw [toFinset_take hsorted (by rwa [hset]), hset]⟩

section
variable (hnodup : (d.nostrEvent.map (·.event.id)).Nodup)
  (hvalid : ∀ filter ∈ filters, filter.validate search.lowercase = .ok ())
  (hreaders : ∀ reader ∈ readPubkeys.getD [], isLowerHex 32 reader = true)
include hnodup hvalid hreaders

/-- What holds of a pass that ends the count with an error, and of no result, holds of the loop when it reaches a
    filter with such a pass. -/
theorem countLoop_reaches {P : Filter → Prop} {Q : Except StoreError (Option (List String)) → Prop}
    (hok : ∀ result, ¬ Q (.ok result))
    (hbind : ∀ filter ∈ filters, ∀ next, Q (countPass search d now (maxCount + 1) readPubkeys filter >>= next) ↔
      P filter ∨ ∃ found, countPass search d now (maxCount + 1) readPubkeys filter = .ok found ∧ Q (next found))
    (hids : ids.toFinset.card ≤ maxCount) :
    Q (countLoop search d now (maxCount + 1) maxCount readPubkeys filters ids) ↔
      CountReaches search d now maxCount readPubkeys P ids filters := by
  induction filters generalizing ids with
  | nil =>
    exact iff_of_false (hok _) not_exists_split_nil
  | cons filter rest ih =>
    have hfirst := hvalid filter mem_cons_self
    rw [countLoop_cons hfirst, hbind filter mem_cons_self, countReaches_cons hids]
    refine or_congr_right ?_
    simp only [countPass_ok hfirst hreaders, and_assoc, exists_and_left, exists_eq_left]
    refine and_congr_right fun _ => ?_
    obtain ⟨hmany, hset⟩ := countPass_set ids hnodup rfl
    split
    · rename_i h
      exact iff_of_false (hok _) fun hreach => absurd hreach.1 (not_le.mpr (hmany.mp h))
    · rename_i h
      have hfew := not_lt.mp (mt hmany.mpr h)
      rw [ih (fun filter h => hvalid filter (.tail _ h))
        (fun filter h => hbind filter (.tail _ h)) (by rwa [hset hfew]), and_iff_right hfew]
      simp only [CountReaches, toFinset_append, hset hfew]

/-- A count that is answered counts the union, or finds it too large. -/
theorem countLoop_value {result : Option (List String)} (hids : ids.Nodup) (hfew : ids.length ≤ maxCount)
    (hrun : countLoop search d now (maxCount + 1) maxCount readPubkeys filters ids = .ok result) :
    result.map length =
      if maxCount < (ids ++ filters.flatMap (countedIds search d now readPubkeys)).toFinset.card then none
      else some (ids ++ filters.flatMap (countedIds search d now readPubkeys)).toFinset.card := by
  induction filters generalizing ids with
  | nil =>
    cases hrun
    rw [flatMap_nil, append_nil, toFinset_card_of_nodup hids, if_neg (not_lt.mpr hfew)]
    rfl
  | cons filter rest ih =>
    have hfirst := hvalid filter mem_cons_self
    rw [countLoop_cons hfirst, bind_eq_ok] at hrun
    obtain ⟨found, hfound, hrun⟩ := hrun
    obtain ⟨hmany, hset⟩ := countPass_set ids hnodup ((countPass_ok hfirst hreaders).mp hfound).2
    rw [flatMap_cons, ← append_assoc]
    split at hrun
    · rename_i h
      cases hrun
      rw [if_pos (lt_of_lt_of_le (hmany.mp h) card_le_append)]
      rfl
    · rename_i h
      rw [ih (fun filter h => hvalid filter (.tail _ h)) (nodup_btreeSet _) (not_lt.mp h) hrun,
        toFinset_append, hset (not_lt.mp (mt hmany.mpr h)), ← toFinset_append]

end

theorem hex_readers {readPubkeys : List String} (hreaders : ∀ reader ∈ readPubkeys, isLowerHex 32 reader = true) :
    ∀ reader ∈ (if readPubkeys = [] then none else some readPubkeys).getD [], isLowerHex 32 reader = true := by
  intro reader hreader
  split at hreader
  · cases hreader
  · exact hreaders reader hreader

theorem countFilters_eq_ok {connection : Connection} {readPubkeys : List String} {result : Option Nat} :
    countFilters search d connection filters now maxCount readPubkeys = .ok result ↔
      (connection.current = true ∧ now ≤ i64Max ∧ maxCount < i64Max) ∧
        ∃ ids, countLoop search d now (maxCount + 1) maxCount (if readPubkeys = [] then none else some readPubkeys)
          filters [] = .ok ids ∧ result = ids.map length := by
  have hwide : i64Max < u64Max := by decide
  have hcheck : ∀ {α : Type} {p : Prop} [Decidable p] {a b : α} {error : StoreError},
      (if p then .ok a else .error error : Except StoreError α) = .ok b ↔ p ∧ a = b := by
    intro α p _ a b error
    split <;> simp [*]
  simp only [countFilters, bind_eq_ok, ensureCurrent, pgI64, pgLimit, hcheck]
  constructor
  · rintro ⟨_, ⟨hcurrent, -⟩, _, ⟨hnow, rfl⟩, _, ⟨hmax, rfl⟩, ids, hrun, hresult⟩
    have hscan : min (maxCount + 1) u64Max = maxCount + 1 := by omega
    rw [hscan] at hrun
    cases hresult
    exact ⟨⟨hcurrent, hnow, by omega⟩, ids, hrun, rfl⟩
  · rintro ⟨⟨hcurrent, hnow, hmax⟩, ids, hrun, rfl⟩
    exact ⟨(), ⟨hcurrent, trivial⟩, now, ⟨hnow, rfl⟩, maxCount + 1, ⟨by omega, by omega⟩, ids, hrun, rfl⟩

/-- **Distinct count**: the union of what the filters select is counted, or found too large, exactly when the request
    reaches the server and no filter whose turn comes is out of range or refused there. -/
theorem countFilters_distinct_iff (search : TextSearch) (d : Db) (connection : Connection) (filters : List Filter)
    (now maxCount : Nat) (readPubkeys : List String)
    (hvalid : ∀ filter ∈ filters, filter.validate search.lowercase = .ok ())
    (hreaders : ∀ reader ∈ readPubkeys, isLowerHex 32 reader = true)
    (hnodup : (d.nostrEvent.map (·.event.id)).Nodup) :
    let readers := if readPubkeys = [] then none else some readPubkeys
    let matching := (filters.flatMap (countedIds search d now readers)).toFinset
    ((∀ n, countFilters search d connection filters now maxCount readPubkeys = .ok (some n) ↔
        matching.card = n ∧ n ≤ maxCount) ∧
      (countFilters search d connection filters now maxCount readPubkeys = .ok none ↔ maxCount < matching.card)) ↔
    (connection.current = true ∧ now ≤ i64Max ∧ maxCount < i64Max) ∧
      ¬ CountReaches search d now maxCount readers (¬ Answerable search ·) [] filters := by
  intro readers matching
  have hbound := hex_readers hreaders
  have hfails : (∃ error, countLoop search d now (maxCount + 1) maxCount readers filters [] = .error error) ↔
      CountReaches search d now maxCount readers (¬ Answerable search ·) [] filters := by
    refine countLoop_reaches hnodup hvalid hbound (Q := fun x => ∃ error, x = .error error) (by simp) ?_ (by simp)
    intro filter hfilter next
    cases h : countPass search d now (maxCount + 1) readers filter with
    | error error =>
      have hrefused : ¬ Answerable search filter := fun hanswer => by
        cases h.symm.trans ((countPass_ok (hvalid filter hfilter) hbound).mpr ⟨hanswer, rfl⟩)
      exact iff_of_true ⟨error, rfl⟩ (.inl hrefused)
    | ok found => simp [((countPass_ok (hvalid filter hfilter) hbound).mp h).1, bind, Except.bind]
  rw [← hfails]
  simp only [countFilters_eq_ok]
  constructor
  · rintro ⟨hsome, hnone⟩
    rcases lt_or_ge maxCount matching.card with hmany | hfew
    · obtain ⟨hserver, ids, hrun, -⟩ := hnone.mpr hmany
      exact ⟨hserver, by simp [readers, hrun]⟩
    · obtain ⟨hserver, ids, hrun, -⟩ := (hsome matching.card).mpr ⟨rfl, hfew⟩
      exact ⟨hserver, by simp [readers, hrun]⟩
  · rintro ⟨hserver, hanswered⟩
    cases hrun : countLoop search d now (maxCount + 1) maxCount readers filters [] with
    | error error => exact absurd ⟨error, hrun⟩ hanswered
    | ok ids =>
      have hvalue := countLoop_value hnodup hvalid hbound List.nodup_nil (Nat.zero_le _) hrun
      grind

/-- Two filters select the same note, which is counted once. -/
theorem countFilters_distinct_note :
    let d := { Db.empty openAdministration with nostrEvent := [⟨noteCall.event, 1⟩] }
    let filters := [Filter.default, { Filter.default with kinds := some [1] }]
    countFilters asciiSearch d ⟨true, false⟩ filters 1000 500 [] = .ok (some 1) ∧
      ¬ CountReaches asciiSearch d 1000 500 none (¬ Answerable asciiSearch ·) [] filters := by
  intro d filters
  have hrun : countFilters asciiSearch d ⟨true, false⟩ filters 1000 500 [] = .ok (some 1) := by decide +kernel
  have hcard : (filters.flatMap (countedIds asciiSearch d 1000 none)).toFinset.card = 1 := by decide +kernel
  refine ⟨hrun, ((countFilters_distinct_iff asciiSearch d ⟨true, false⟩ filters 1000 500 [] (by decide +kernel)
    (by decide) (by decide +kernel)).mp ?_).2⟩
  simp only [hrun, if_true, hcard]
  exact ⟨by simp, by simp⟩

/-- A tag value with U+0000 passes the check of the filter, but the server does not answer. -/
theorem count_nul_tag_refused :
    let asksNul : Filter := { Filter.default with tags := ⟨[("t", [String.ofList [nul]])], by simp⟩ }
    let d := Db.empty openAdministration
    asksNul.validate asciiSearch.lowercase = .ok () ∧
      ([asksNul].flatMap (countedIds asciiSearch d 1000 none)).toFinset.card = 0 ∧
      (countFilters asciiSearch d ⟨true, false⟩ [asksNul] 1000 500 []).toOption = none := by
  decide +kernel

end

/-! ## Requests -/

/-- The parts of the worker that are parameters do what their sources say: no group action is refused on an event
    that is stored, and the coordination handler reports no error that stops the worker. -/
structure Worker.Sound (worker : Worker) : Prop where
  groups : GroupActionsMild worker.pg worker.relay
  coordination : ∀ event apply, worker.coordination event = .ok (some apply) → ∀ outcome, Tame (apply outcome)

section
variable {worker : Worker} {connection : Connection} {d : Db}

end

end Immortal.Gateway
