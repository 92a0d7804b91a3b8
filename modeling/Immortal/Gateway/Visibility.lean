import Immortal.Store.Alone
import Immortal.Store.Query

/-!
# `Immortal.Gateway.Visibility` — who may read an event, live and from history

Two implementations decide which events reach a reader: the `WHERE` clause of the stored read statements and
`event_visible_to_reader` of `subscription.rs`, which the hub asks before it delivers a new event. This module compares
them with each other and with the private market kinds that neither should ever let out.

The comparison goes through two lists of conditions, `StoredReader` and `LiveReader`, that say kind by kind what each
implementation demands of the reader.
-/

namespace Immortal.Gateway

open Txn Immortal.Domain Immortal.Store List

/-! ## The live path -/

/-- `event_visible_to_reader`. -/
def eventVisibleToReader (event : Event) (readers : List String) : Bool :=
  if 39604 ≤ event.kind ∧ event.kind ≤ 39613 then false
  else if event.kind = 39620 then false
  else if event.kind = 39650 then false
  else if event.kind = 1059 then
    match event.tagValues "p" with
    | [recipient] => readers.contains recipient
    | _ => false
  else if event.kind ∈ [24200, 30622, 44200] then
    (event.tagValues "p").head?.any (fun recipient => readers.contains recipient)
  else if event.kind ∈ [30300, 30350] then readers.contains event.pubkey
  else if event.kind = 30174 then
    readers.contains event.pubkey || (event.tagValues "p").any (fun owner => readers.contains owner)
  else if event.kind ∈ [30175, 30178] then
    readers.contains event.pubkey || event.tags.any (fun tag => tag = ["shared", "true"])
  else true

/-! ## Private market records -/

/-- The same store without the rows of one event. -/
def withoutEvent (event : Event) (d : Db) : Db :=
  { d with nostrEvent := d.nostrEvent.filter (fun row => row.event ≠ event) }

/-- No query returns the event, no count depends on it being stored, and the hub never delivers it. -/
structure Unreadable (search : TextSearch) (event : Event) : Prop where
  selected : ∀ (d : Db) (connection : Connection) (filter : Filter) (now maxResults through : Nat)
    (readPubkeys : Option (List String)) (rows : List EventRow),
    queryFilterInner search d connection filter now maxResults through readPubkeys = .ok rows →
      ∀ row ∈ rows, row.event ≠ event
  history : ∀ (d : Db) (connection : Connection) (filters : List Filter) (now maxResults : Nat)
    (readPubkeys : List String) (highWater : Nat) (rows : List EventRow),
    queryHistory search d connection filters now maxResults readPubkeys = .ok (highWater, rows) →
      ∀ row ∈ rows, row.event ≠ event
  counted : ∀ (d : Db) (connection : Connection) (filters : List Filter) (now maxCount : Nat)
    (readPubkeys : List String),
    countFilters search d connection filters now maxCount readPubkeys =
      countFilters search (withoutEvent event d) connection filters now maxCount readPubkeys
  live : ∀ readers, eventVisibleToReader event readers = false

section
variable {search : TextSearch} {d : Db} {connection : Connection} {params : QueryParams}

theorem sharedWhere_bareKind {row : EventRow} (h : sharedWhere search params row = true) :
    bareKind row.event.kind = true := by
  simp only [sharedWhere, Bool.and_eq_true] at h
  exact h.1.1.1.2

variable {readPubkeys : Option (List String)} {rows : List EventRow}

/-- Every row a query returns has a kind that may leave the relay. -/
theorem queryFilterInner_bareKind {filter : Filter} {now maxResults through : Nat}
    (h : queryFilterInner search d connection filter now maxResults through readPubkeys = .ok rows) :
    ∀ row ∈ rows, bareKind row.event.kind = true := by
  intro row hrow
  obtain ⟨_, _, h⟩ := bind_eq_ok.mp h
  obtain ⟨params, _, h⟩ := bind_eq_ok.mp h
  obtain ⟨_, _, h⟩ := bind_eq_ok.mp h
  obtain ⟨_, _, h⟩ := bind_eq_ok.mp h
  cases h
  have hselected := mem_of_mem_take hrow
  rw [mem_insertionSort, mem_filter, queryFilterWhere, Bool.and_eq_true] at hselected
  exact sharedWhere_bareKind hselected.2.1

theorem mem_collectRows {seen : List EventRow} {row : EventRow} (h : row ∈ collectRows seen rows) :
    row ∈ seen ∨ row ∈ rows := by
  induction rows generalizing seen with
  | nil => exact .inl h
  | cons first rest ih =>
    rw [collectRows] at h
    split at h
    · exact (ih h).imp_right (mem_cons_of_mem first)
    · rcases ih h with h | h
      · rw [mem_append, mem_singleton] at h
        rcases h with h | rfl
        · exact .inl h
        · exact .inr mem_cons_self
      · exact .inr (mem_cons_of_mem first h)

/-- A property of all rows that the queries return is a property of all rows that the loop collects. -/
theorem historyLoop_forall {now perFilter highWater : Nat} {readPubkeys : List String} {P : EventRow → Prop}
    (hquery : ∀ filter rows,
      queryFilterInner search d connection filter now perFilter highWater (some readPubkeys) = .ok rows →
        ∀ row ∈ rows, P row)
    {filters : List Filter} {seen : List EventRow} (hseen : ∀ row ∈ seen, P row)
    (h : historyLoop search d connection now perFilter highWater readPubkeys filters seen = .ok rows) :
    ∀ row ∈ rows, P row := by
  induction filters generalizing seen with
  | nil =>
    cases h
    exact hseen
  | cons filter rest ih =>
    obtain ⟨found, hfound, h⟩ := bind_eq_ok.mp h
    refine ih (fun row hrow => ?_) h
    rcases mem_collectRows hrow with hrow | hrow
    · exact hseen row hrow
    · exact hquery filter found hfound row hrow

theorem queryHistory_bareKind {filters : List Filter} {now maxResults highWater : Nat} {readPubkeys : List String}
    (h : queryHistory search d connection filters now maxResults readPubkeys = .ok (highWater, rows)) :
    ∀ row ∈ rows, bareKind row.event.kind = true := by
  intro row hrow
  obtain ⟨_, _, h⟩ := bind_eq_ok.mp h
  obtain ⟨_, _, h⟩ := bind_eq_ok.mp h
  obtain ⟨found, hfound, h⟩ := bind_eq_ok.mp h
  cases h
  have hmem := mem_of_mem_take hrow
  refine historyLoop_forall (fun filter rows => queryFilterInner_bareKind) (by simp) hfound row ?_
  split at hmem
  · exact hmem
  · exact (mem_insertionSort _).mp hmem

variable {event : Event}

/-- A count does not see an event of a kind that never leaves the relay. -/
theorem queryFilterIdsSql_withoutEvent (hkind : bareKind event.kind = false) :
    queryFilterIdsSql search (withoutEvent event d) params = queryFilterIdsSql search d params := by
  have hrows : (withoutEvent event d).nostrEvent.filter (queryFilterIdsWhere search params) =
      d.nostrEvent.filter (queryFilterIdsWhere search params) := by
    rw [withoutEvent, filter_filter]
    refine filter_congr fun row _ => ?_
    cases hwhere : queryFilterIdsWhere search params row with
    | false => rfl
    | true =>
      have hne : row.event ≠ event := by
        rintro rfl
        rw [sharedWhere_bareKind hwhere] at hkind
        cases hkind
      simp [hne]
  unfold queryFilterIdsSql
  rw [hrows]

theorem countLoop_withoutEvent (hkind : bareKind event.kind = false) {now scanLimit maxCount : Nat} (filters : List Filter) (ids : List String) :
    countLoop search (withoutEvent event d) now scanLimit maxCount readPubkeys filters ids =
      countLoop search d now scanLimit maxCount readPubkeys filters ids := by
  induction filters generalizing ids with
  | nil => rfl
  | cons filter rest ih => simp only [countLoop, queryFilterIdsSql_withoutEvent hkind, ih]

end

variable {readers : List String}

theorem eventVisibleToReader_bareKind {event : Event} (h : bareKind event.kind = false) :
    eventVisibleToReader event readers = false := by
  unfold eventVisibleToReader
  split
  · rfl
  · split
    · rfl
    · split
      · rfl
      · simp_all [bareKind]

/-- The exclusions of the two paths cover every private market kind but the Mint Route Contract. -/
theorem bareKind_of_private {kind : Nat} (h : isMktPrivateKind kind = true) :
    bareKind kind = true ↔ kind = 39640 := by
  simp only [isMktPrivateKind, mem_cons, not_mem_nil, or_false, decide_eq_true_eq] at h
  rcases h with rfl | rfl | rfl | rfl | rfl | rfl | rfl | rfl | rfl | rfl | rfl | rfl | rfl <;> decide

/-- **Private market records.** A record of a private market kind is unreadable exactly when it is not a Mint Route
    Contract, whose kind the read statements and the hub do not exclude. -/
theorem unreadable_iff (search : TextSearch) (event : Event) (hprivate : isMktPrivateKind event.kind = true) :
    Unreadable search event ↔ event.kind ≠ 39640 := by
  constructor
  · intro h hkind
    have hvisible : eventVisibleToReader event [] = true := by simp [eventVisibleToReader, hkind]
    rw [h.live []] at hvisible
    cases hvisible
  · intro hkind
    have hbare : bareKind event.kind = false := by
      rw [Bool.eq_false_iff]
      exact fun h => hkind ((bareKind_of_private hprivate).mp h)
    have hne : ∀ row : EventRow, bareKind row.event.kind = true → row.event ≠ event := by
      rintro row hrow rfl
      rw [hrow] at hbare
      cases hbare
    constructor
    · exact fun d connection filter now maxResults through readPubkeys rows h row hrow =>
        hne row (queryFilterInner_bareKind h row hrow)
    · exact fun d connection filters now maxResults readPubkeys highWater rows h row hrow =>
        hne row (queryHistory_bareKind h row hrow)
    · intro d connection filters now maxCount readPubkeys
      simp only [countFilters, countLoop_withoutEvent hbare]
    · exact fun readers => eventVisibleToReader_bareKind hbare

/-- Lowercasing and full-text search of ASCII text: every term is a part of the content. -/
def asciiSearch : TextSearch where
  lowercase := fun text => String.ofList (text.toList.map Char.toLower)
  matchesQuery := fun content terms => terms.toList <:+: content.toList
  rank := fun _ _ => 0

/-- A Mint Route Contract as a legacy relay's export holds it. -/
def mintRouteContractCall : Call :=
  ⟨⟨hexText 32 'c', hexText 32 'f', 10, 39640, [["d", "route"]], "", hexText 64 'e'⟩, 1000, none, none, .legacy⟩

/-- An RFQ is unreadable. -/
theorem unreadable_rfq : isMktPrivateKind 39604 = true ∧
    Unreadable asciiSearch ⟨hexText 32 'c', hexText 32 'f', 10, 39604, [["d", "rfq"]], "", hexText 64 'e'⟩ :=
  ⟨by decide, (unreadable_iff asciiSearch _ (by decide)).mpr (by decide)⟩

/-- A stored Mint Route Contract is returned to a reader that has not authenticated and asks for everything, it is
    counted for that reader, and the hub would deliver it. -/
theorem mintRouteContract_readable :
    let event := mintRouteContractCall.event
    let stored := (admitInner acceptingRelay mintRouteContractCall).run (Db.empty openAdministration)
    isMktPrivateKind event.kind = true ∧ stored.1 = .ok (.stored 1) ∧
      queryHistory asciiSearch stored.2 ⟨true, false⟩ [Filter.default] 1000 500 [] = .ok (1, [⟨event, 1⟩]) ∧
      countFilters asciiSearch stored.2 ⟨true, false⟩ [Filter.default] 1000 500 [] = .ok (some 1) ∧
      eventVisibleToReader event [] = true := by
  decide +kernel

/-! ## What each path demands of the reader -/

/-- The rule of the read statements, kind by kind: a recipient is the only value that the `p` tags of the event have,
    and an event counts as shared when one tag holds the two words anywhere. -/
def StoredReader (readers : List String) (event : Event) : Prop :=
  bareKind event.kind = true ∧
    if event.kind ∈ [1059, 24200, 30622, 44200] then ∃ p ∈ readers, ∀ v, v ∈ event.tagValues "p" ↔ v = p
    else if event.kind ∈ [30300, 30350] then event.pubkey ∈ readers
    else if event.kind = 30174 then event.pubkey ∈ readers ∨ ∃ p ∈ readers, p ∈ event.tagValues "p"
    else if event.kind ∈ [30175, 30178] then
      event.pubkey ∈ readers ∨ ∃ tag ∈ event.tags, "shared" ∈ tag ∧ "true" ∈ tag
    else True

/-- The rule of the hub: a gift wrap has exactly one `p` tag, of other kinds the first one decides, and an event is
    shared when it has that one tag literally. -/
def LiveReader (readers : List String) (event : Event) : Prop :=
  bareKind event.kind = true ∧
    if event.kind = 1059 then ∃ p ∈ readers, event.tagValues "p" = [p]
    else if event.kind ∈ [24200, 30622, 44200] then ∃ p ∈ readers, (event.tagValues "p").head? = some p
    else if event.kind ∈ [30300, 30350] then event.pubkey ∈ readers
    else if event.kind = 30174 then event.pubkey ∈ readers ∨ ∃ p ∈ readers, p ∈ event.tagValues "p"
    else if event.kind ∈ [30175, 30178] then event.pubkey ∈ readers ∨ ["shared", "true"] ∈ event.tags
    else True

theorem mem_recipients {row : EventRow} {value : String} :
    value ∈ row.recipients ↔ value ∈ row.event.tagValues "p" := by
  have hindexed : isIndexedTagName "p" = true := by decide
  simp only [EventRow.recipients, EventRow.indexedTag, mem_map, mem_filter, mem_dedup,
    decide_eq_true_eq, Prod.exists, exists_eq_right]
  rw [Event.mem_indexedTags, and_iff_right hindexed]

theorem recipients_nodup (row : EventRow) : row.recipients.Nodup := by
  refine (nodup_dedup _).filter _ |>.map_on ?_
  rintro ⟨name, value⟩ hpair ⟨name', value'⟩ hpair' hvalue
  simp only [mem_filter, decide_eq_true_eq] at hpair hpair'
  rw [hpair.2, hpair'.2]
  exact congrArg (Prod.mk "p") hvalue

/-- A list without repetitions has one element exactly when one value makes up the list. -/
theorem length_eq_one_iff_of_nodup {values : List String} (h : values.Nodup) {value : String}
    (hvalue : value ∈ values) : values.length = 1 ↔ ∀ v, v ∈ values ↔ v = value := by
  constructor
  · intro hone v
    obtain ⟨only, rfl⟩ := length_eq_one_iff.mp hone
    rw [mem_singleton] at hvalue ⊢
    rw [hvalue]
  · intro hall
    have hperm : values.Perm [value] :=
      (perm_ext_iff_of_nodup h (nodup_singleton value)).mpr fun v => by
        rw [hall v, mem_singleton]
    exact hperm.length_eq

theorem single_recipient_iff {row : EventRow} :
    (row.recipients.length = 1 ∧ ∃ p ∈ row.recipients, p ∈ readers) ↔
      ∃ p ∈ readers, ∀ v, v ∈ row.event.tagValues "p" ↔ v = p := by
  constructor
  · rintro ⟨hone, p, hp, hreader⟩
    refine ⟨p, hreader, fun v => ?_⟩
    rw [← mem_recipients]
    exact (length_eq_one_iff_of_nodup (recipients_nodup row) hp).mp hone v
  · rintro ⟨p, hreader, hall⟩
    have hp : p ∈ row.recipients := mem_recipients.mpr ((hall p).mpr rfl)
    refine ⟨(length_eq_one_iff_of_nodup (recipients_nodup row) hp).mpr fun v => ?_, p, hp, hreader⟩
    rw [mem_recipients, hall]

theorem jsonbContains_shared {tags : List Tag} :
    jsonbContains tags [["shared", "true"]] = true ↔ ∃ tag ∈ tags, "shared" ∈ tag ∧ "true" ∈ tag := by
  simp [jsonbContains]

/-- **The read rule of the statements.** -/
theorem readRule_iff {row : EventRow} :
    (bareKind row.event.kind = true ∧ readRule (some readers) row = true) ↔ StoredReader readers row.event := by
  refine and_congr_right fun _ => ?_
  have hany : ∀ values : List String,
      values.any (presentAny (some readers)) = true ↔ ∃ p ∈ values, p ∈ readers := by
    simp [presentAny]
  simp only [readRule, Bool.or_eq_true, Bool.and_eq_true, beq_iff_eq, hany,
    jsonbContains_shared, presentAny, and_assoc]
  rw [single_recipient_iff]
  by_cases h₁ : row.event.kind ∈ [1059, 24200, 30622, 44200]
  · rw [if_pos h₁]
    simp only [mem_cons, not_mem_nil, or_false] at h₁ ⊢
    rcases h₁ with h | h | h | h <;> simp [h]
  · rw [if_neg h₁]
    by_cases h₂ : row.event.kind ∈ [30300, 30350]
    · rw [if_pos h₂]
      simp only [mem_cons, not_mem_nil, or_false] at h₂ ⊢
      rcases h₂ with h | h <;> simp [h]
    · rw [if_neg h₂]
      by_cases h₃ : row.event.kind = 30174
      · simp [h₃, mem_recipients, and_comm]
      · rw [if_neg h₃]
        by_cases h₄ : row.event.kind ∈ [30175, 30178]
        · rw [if_pos h₄]
          simp only [mem_cons, not_mem_nil, or_false] at h₄ ⊢
          rcases h₄ with h | h <;> simp [h]
        · simp only [mem_cons, not_or] at h₁ h₂ h₄ ⊢
          simp [h₁, h₂, h₃, h₄]

theorem bareKind_iff {kind : Nat} :
    bareKind kind = true ↔ ¬ (39604 ≤ kind ∧ kind ≤ 39613) ∧ kind ≠ 39620 ∧ kind ≠ 39650 := by
  simp only [bareKind, Bool.and_eq_true, Bool.not_eq_true', Bool.and_eq_false_iff, decide_eq_false_iff_not,
    bne_iff_ne]
  omega

/-- **The read rule of the hub.** -/
theorem eventVisibleToReader_iff {event : Event} :
    eventVisibleToReader event readers = true ↔ LiveReader readers event := by
  by_cases hbare : bareKind event.kind = true
  · have hkinds := bareKind_iff.mp hbare
    rw [eventVisibleToReader, if_neg hkinds.1, if_neg hkinds.2.1, if_neg hkinds.2.2, LiveReader, and_iff_right hbare]
    by_cases h₁ : event.kind = 1059
    · rw [if_pos h₁, if_pos h₁]
      split
      · rename_i recipient hp
        simp [hp]
      · rename_i hp
        simp only [Bool.false_eq_true, false_iff, not_exists, not_and]
        exact fun p _ h => hp p h
    · rw [if_neg h₁, if_neg h₁]
      by_cases h₂ : event.kind ∈ [24200, 30622, 44200]
      · rw [if_pos h₂, if_pos h₂]
        cases hp : (event.tagValues "p").head? <;> simp
      · rw [if_neg h₂, if_neg h₂]
        by_cases h₃ : event.kind ∈ [30300, 30350]
        · simp [h₃]
        · rw [if_neg h₃, if_neg h₃]
          by_cases h₄ : event.kind = 30174
          · simp [h₄, and_comm]
          · rw [if_neg h₄, if_neg h₄]
            by_cases h₅ : event.kind ∈ [30175, 30178]
            · simp [h₅]
            · simp [h₅]
  · rw [LiveReader, eventVisibleToReader_bareKind (Bool.eq_false_iff.mpr hbare)]
    simp [hbare]

/-! ## Where the two rules agree -/

/-- The shapes of an event on which the two rules give the same answer. -/
structure ReadersAgree (readers : List String) (event : Event) : Prop where
  /-- A gift wrap to a reader does not repeat its recipient. -/
  wrap : event.kind = 1059 → ∀ p ∈ readers, (∀ v, v ∈ event.tagValues "p" ↔ v = p) → event.tagValues "p" = [p]
  /-- An event of the other recipient kinds whose first recipient is a reader names nobody else. -/
  direct : event.kind ∈ [24200, 30622, 44200] → ∀ p ∈ readers, (event.tagValues "p").head? = some p →
    ∀ v ∈ event.tagValues "p", v = p
  /-- A persona or team catalog of somebody else that holds both words in one tag has the tag that shares it. -/
  shared : event.kind ∈ [30175, 30178] → event.pubkey ∉ readers →
    (∃ tag ∈ event.tags, "shared" ∈ tag ∧ "true" ∈ tag) → ["shared", "true"] ∈ event.tags

section
variable {readers : List String} {event : Event}

theorem readersAgree_wrap (hkind : event.kind = 1059) :
    (StoredReader readers event ↔ LiveReader readers event) ↔ ReadersAgree readers event := by
  have hstored : StoredReader readers event ↔ ∃ p ∈ readers, ∀ v, v ∈ event.tagValues "p" ↔ v = p := by
    simp [StoredReader, hkind, bareKind]
  have hlive : LiveReader readers event ↔ ∃ p ∈ readers, event.tagValues "p" = [p] := by
    simp [LiveReader, hkind, bareKind]
  rw [hstored, hlive]
  constructor
  · intro h
    refine ⟨fun _ p hp honly => ?_, by simp [hkind], by simp [hkind]⟩
    obtain ⟨p', _, hsingle⟩ := h.mp ⟨p, hp, honly⟩
    have hmem : p ∈ event.tagValues "p" := (honly p).mpr rfl
    rw [hsingle, mem_singleton] at hmem
    rw [hsingle, hmem]
  · intro h
    constructor
    · rintro ⟨p, hp, honly⟩
      exact ⟨p, hp, h.wrap hkind p hp honly⟩
    · rintro ⟨p, hp, hsingle⟩
      exact ⟨p, hp, fun v => by rw [hsingle, mem_singleton]⟩

theorem readersAgree_direct (hkind : event.kind ∈ [24200, 30622, 44200]) :
    (StoredReader readers event ↔ LiveReader readers event) ↔ ReadersAgree readers event := by
  have hkinds : event.kind = 24200 ∨ event.kind = 30622 ∨ event.kind = 44200 := by simpa using hkind
  have hstored : StoredReader readers event ↔ ∃ p ∈ readers, ∀ v, v ∈ event.tagValues "p" ↔ v = p := by
    rcases hkinds with h | h | h <;> simp [StoredReader, h, bareKind]
  have hlive : LiveReader readers event ↔ ∃ p ∈ readers, (event.tagValues "p").head? = some p := by
    rcases hkinds with h | h | h <;> simp [LiveReader, h, bareKind]
  have hshared : event.kind ∉ [30175, 30178] ∧ event.kind ≠ 1059 := by
    rcases hkinds with h | h | h <;> simp [h]
  rw [hstored, hlive]
  constructor
  · intro h
    refine ⟨fun h' => absurd h' hshared.2, fun _ p hp hhead v hv => ?_, fun h' => absurd h' hshared.1⟩
    obtain ⟨p', _, honly⟩ := h.mpr ⟨p, hp, hhead⟩
    have hp' : p = p' := (honly p).mp (mem_of_mem_head? hhead)
    rw [hp']
    exact (honly v).mp hv
  · intro h
    constructor
    · rintro ⟨p, hp, honly⟩
      refine ⟨p, hp, ?_⟩
      cases hvalues : event.tagValues "p" with
      | nil =>
        have hmem : p ∈ event.tagValues "p" := (honly p).mpr rfl
        rw [hvalues] at hmem
        cases hmem
      | cons first rest =>
        have hfirst : first = p := (honly first).mp (hvalues ▸ mem_cons_self)
        rw [head?_cons, hfirst]
    · rintro ⟨p, hp, hhead⟩
      refine ⟨p, hp, fun v => ⟨h.direct hkind p hp hhead v, ?_⟩⟩
      rintro rfl
      exact mem_of_mem_head? hhead

theorem readersAgree_shared (hkind : event.kind ∈ [30175, 30178]) :
    (StoredReader readers event ↔ LiveReader readers event) ↔ ReadersAgree readers event := by
  have hkinds : event.kind = 30175 ∨ event.kind = 30178 := by simpa using hkind
  have hstored : StoredReader readers event ↔
      event.pubkey ∈ readers ∨ ∃ tag ∈ event.tags, "shared" ∈ tag ∧ "true" ∈ tag := by
    rcases hkinds with h | h <;> simp [StoredReader, h, bareKind]
  have hlive : LiveReader readers event ↔ event.pubkey ∈ readers ∨ ["shared", "true"] ∈ event.tags := by
    rcases hkinds with h | h <;> simp [LiveReader, h, bareKind]
  have hother : event.kind ∉ [24200, 30622, 44200] ∧ event.kind ≠ 1059 := by
    rcases hkinds with h | h <;> simp [h]
  rw [hstored, hlive]
  constructor
  · intro h
    refine ⟨fun h' => absurd h' hother.2, fun h' => absurd h' hother.1, fun _ hauthor htag => ?_⟩
    exact (h.mp (.inr htag)).resolve_left hauthor
  · intro h
    constructor
    · rintro (hauthor | htag)
      · exact .inl hauthor
      · exact or_iff_not_imp_left.mpr fun hauthor => h.shared hkind hauthor htag
    · rintro (hauthor | hexact)
      · exact .inl hauthor
      · exact .inr ⟨_, hexact, by simp, by simp⟩

/-- **The two rules** give a reader the same answer exactly on these shapes. -/
theorem readers_agree_iff :
    (StoredReader readers event ↔ LiveReader readers event) ↔ ReadersAgree readers event := by
  by_cases hwrap : event.kind = 1059
  · exact readersAgree_wrap hwrap
  by_cases hdirect : event.kind ∈ [24200, 30622, 44200]
  · exact readersAgree_direct hdirect
  by_cases hshared : event.kind ∈ [30175, 30178]
  · exact readersAgree_shared hshared
  have hsame : StoredReader readers event ↔ LiveReader readers event := by
    have hstored : event.kind ∉ [1059, 24200, 30622, 44200] := by
      intro h
      rcases mem_cons.mp h with h | h
      · exact hwrap h
      · exact hdirect h
    simp only [StoredReader, LiveReader, if_neg hwrap, if_neg hdirect, if_neg hshared, if_neg hstored]
  refine iff_of_true hsame ⟨fun h => absurd h hwrap, fun h => absurd h hdirect, fun h => absurd h hshared⟩

end

/-! ## Agreement of the two paths -/

/-- `QUERY_FILTER_SQL`, run with the parameters of the filter for these readers, selects the row before `LIMIT`. -/
def Selected (search : TextSearch) (filter : Filter) (now maxResults through : Nat) (readers : List String)
    (row : EventRow) : Prop :=
  ∃ params, queryFilterParams search filter now maxResults (some readers) = .ok params ∧ params.bind = .ok () ∧
    queryFilterWhere search params through row = true

/-- A filter whose query fails although it can match stored events: its `until` does not fit `bigint`, or it asks for
    a tag value with U+0000. -/
def Unqueryable (filter : Filter) : Prop :=
  (∃ last ∈ filter.until, i64Max < last) ∨ ∃ entry ∈ filter.tags.entries, ∃ value ∈ entry.2, hasNul value = true

/-- The filters and events on which history and the hub agree: only a filter that asks for the event can tell. -/
def PathsAgree (filter : Filter) (readers : List String) (event : Event) : Prop :=
  filter.Wants event →
    (Unqueryable filter → ¬ LiveReader readers event) ∧ (¬ Unqueryable filter → ReadersAgree readers event)

section
variable {search : TextSearch} {filter : Filter} {now maxResults through : Nat} {readers : List String}
  {row : EventRow}

theorem requestedTags_iff {tags : List (String × List String)} :
    requestedTags tags row = true ↔ ∀ entry ∈ tags, ∃ value ∈ entry.2, (entry.1, value) ∈ row.event.indexedTags := by
  simp only [requestedTags, EventRow.indexedTag, Bool.not_eq_true', any_eq_false, mem_dedup,
    Bool.and_eq_true, beq_iff_eq, contains_iff_mem]
  refine forall₂_congr fun entry _ => ⟨fun h => ?_, ?_⟩
  · by_contra hnone
    apply h
    rintro ⟨name, value⟩ hpair ⟨rfl, hvalue⟩
    exact hnone ⟨value, hvalue, hpair⟩
  · rintro ⟨value, hvalue, hpair⟩ h
    exact h (entry.1, value) hpair ⟨rfl, hvalue⟩

theorem nullOrAny_iff {α : Type} [DecidableEq α] {values : Option (List α)} {x : α} :
    nullOrAny values x = true ↔ ∀ vs ∈ values, x ∈ vs := by
  cases values <;> simp [nullOrAny]

/-- **The `WHERE` clause** on a live row within the bound: the requirements of the filter and the rule for readers. -/
theorem queryFilterWhere_iff {limit : Nat} (hsearch : filter.search = none)
    (hexpires : ∀ expiresAt ∈ row.expiresAt, now < expiresAt) (hthrough : row.ingestSeq ≤ through) :
    queryFilterWhere search (QueryParams.ofFilter search filter now limit (some readers)) through row = true ↔
      filter.Wants row.event ∧ StoredReader readers row.event := by
  have hexp : row.expiresAt.all (fun expiresAt => now < expiresAt) = true := by
    cases h : row.expiresAt with
    | none => rfl
    | some expiresAt => simpa using hexpires expiresAt h
  have hall : ∀ (bound : Option Nat) (p : Nat → Prop) [DecidablePred p],
      bound.all (fun t => decide (p t)) = true ↔ ∀ t ∈ bound, p t := by
    intro bound p _
    cases bound <;> simp
  rw [← readRule_iff]
  simp only [queryFilterWhere, sharedWhere, QueryParams.ofFilter, hsearch, Option.map_none, hexp, Option.all_none,
    Bool.and_eq_true, nullOrAny_iff, hall, requestedTags_iff, decide_eq_true_eq, hthrough, and_true]
  constructor
  · rintro ⟨⟨⟨⟨⟨⟨⟨hid, hauthor⟩, hkind⟩, hsince⟩, huntil⟩, hbare⟩, hrule⟩, htags⟩
    exact ⟨⟨hid, hauthor, hkind, hsince, huntil, htags⟩, hbare, hrule⟩
  · rintro ⟨hwants, hbare, hrule⟩
    exact ⟨⟨⟨⟨⟨⟨⟨hwants.id, hwants.author⟩, hwants.kind⟩, hwants.since⟩, hwants.until⟩, hbare⟩, hrule⟩, hwants.tags⟩

/-- **History** returns a live row exactly when the query can run, the filter asks for the event and the rule of the
    statements lets the readers see it. -/
theorem selected_iff (hvalid : filter.validate search.lowercase = .ok ()) (hsearch : filter.search = none)
    (hreaders : ∀ reader ∈ readers, isLowerHex 32 reader = true) (hnow : now ≤ i64Max) (hmax : maxResults ≤ i64Max)
    (hcreated : row.event.createdAt ≤ i64Max) (hexpires : ∀ expiresAt ∈ row.expiresAt, now < expiresAt)
    (hthrough : row.ingestSeq ≤ through) :
    Selected search filter now maxResults through readers row ↔
      filter.Wants row.event ∧ ¬ Unqueryable filter ∧ StoredReader readers row.event := by
  have hnul : AsksForNul search filter ↔
      ∃ entry ∈ filter.tags.entries, ∃ value ∈ entry.2, hasNul value = true := by
    simp [AsksForNul, hsearch]
  have hpubkeys : ∀ reader ∈ (some readers).getD [], isLowerHex 32 reader = true := hreaders
  simp only [Selected, queryFilterParams_eq hvalid hnow hmax, filterParams_ok]
  constructor
  · rintro ⟨_, ⟨hrange, rfl⟩, hbind, hwhere⟩
    rw [bind_ofFilter_ok hvalid hpubkeys, hnul] at hbind
    obtain ⟨hwants, hreader⟩ := (queryFilterWhere_iff hsearch hexpires hthrough).mp hwhere
    refine ⟨hwants, ?_, hreader⟩
    rintro (⟨last, hmem, hbig⟩ | htags)
    · exact absurd (hrange.2 last hmem) (Nat.not_le.mpr hbig)
    · exact hbind htags
  · rintro ⟨hwants, hquery, hreader⟩
    rw [Unqueryable, not_or] at hquery
    refine ⟨_, ⟨⟨fun since hs => le_trans (hwants.since since hs) hcreated, fun last hlast => ?_⟩, rfl⟩, ?_, ?_⟩
    · exact Nat.not_lt.mp fun hbig => hquery.1 ⟨last, hlast, hbig⟩
    · rw [bind_ofFilter_ok hvalid hpubkeys, hnul]
      exact hquery.2
    · exact (queryFilterWhere_iff hsearch hexpires hthrough).mpr ⟨hwants, hreader⟩

end

/-- **History and the hub.** For a valid filter without search terms, a set of authenticated readers and a stored
    event that has not expired, the read statement selects the event exactly when the hub would have delivered it, if
    and only if the filter and the event have one of the shapes of `PathsAgree`. -/
theorem read_paths_agree_iff (search : TextSearch) (filter : Filter) (now maxResults through : Nat)
    (readers : List String) (row : EventRow) (hvalid : filter.validate search.lowercase = .ok ())
    (hsearch : filter.search = none) (hreaders : ∀ reader ∈ readers, isLowerHex 32 reader = true)
    (hnow : now ≤ i64Max) (hmax : maxResults ≤ i64Max) (hcreated : row.event.createdAt ≤ i64Max)
    (hexpires : ∀ expiresAt ∈ row.expiresAt, now < expiresAt) (hthrough : row.ingestSeq ≤ through) :
    (Selected search filter now maxResults through readers row ↔
      filter.matches search.lowercase row.event = true ∧ eventVisibleToReader row.event readers = true) ↔
      PathsAgree filter readers row.event := by
  rw [selected_iff hvalid hsearch hreaders hnow hmax hcreated hexpires hthrough, Filter.matches_iff_wants hsearch,
    eventVisibleToReader_iff, and_congr_right_iff]
  refine imp_congr_right fun _ => ?_
  by_cases hquery : Unqueryable filter
  · simp [hquery]
  · simpa [hquery] using readers_agree_iff

/-- A persona that its author did not share; one of its other tags holds the two words. -/
def personaCall : Call :=
  ⟨⟨hexText 32 'c', hexText 32 'f', 10, 30175, [["d", "alpha"], ["t", "shared", "true"]], "", hexText 64 'e'⟩, 1000,
    none, none, .public⟩

/-- History and the hub agree on a note. -/
theorem read_paths_agree_note :
    Selected asciiSearch Filter.default 1000 500 1 [] ⟨noteCall.event, 1⟩ ↔
      Filter.default.matches asciiSearch.lowercase noteCall.event = true ∧
        eventVisibleToReader noteCall.event [] = true :=
  (read_paths_agree_iff asciiSearch Filter.default 1000 500 1 [] ⟨noteCall.event, 1⟩ rfl rfl (by simp) (by decide)
    (by decide) (by decide) (by simp [EventRow.expiresAt, noteCall, Event.expiration]) (by decide)).mpr
    fun _ => ⟨by simp [Unqueryable, Filter.default, TagSelectors.none],
      fun _ => ⟨by simp, by simp, by simp [noteCall]⟩⟩

/-- History returns the persona to a reader that has not authenticated; the hub keeps it from that reader. -/
theorem unshared_persona_in_history :
    let row : EventRow := ⟨personaCall.event, 1⟩
    let stored := (admitInner acceptingRelay personaCall).run (Db.empty openAdministration)
    stored.1 = .ok (.stored 1) ∧
      queryFilterInner asciiSearch stored.2 ⟨true, false⟩ Filter.default 1000 500 1 (some []) = .ok [row] ∧
      Selected asciiSearch Filter.default 1000 500 1 [] row ∧
      Filter.default.matches asciiSearch.lowercase row.event = true ∧
      eventVisibleToReader row.event [] = false := by
  refine ⟨by decide +kernel, by decide +kernel, ⟨_, rfl, by decide +kernel, by decide +kernel⟩, by decide +kernel,
    by decide +kernel⟩

end Immortal.Gateway
