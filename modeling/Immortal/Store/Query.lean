import Immortal.Domain.Filter
import Immortal.Store.Admit

/-!
# `Immortal.Store.Query` — reading stored events back

The two read statements of `store/statements.rs` and the functions that call them: `query_filter_inner` binds the
parameters of `QUERY_FILTER_SQL` and returns events, `count_filters` runs `QUERY_FILTER_IDS_SQL` for each filter and
counts the distinct ids, and `query_history` answers a subscription from several filters.

`nostr_indexed_tag` holds the indexed pairs of an event once each (`ON CONFLICT DO NOTHING`). PostgreSQL compares text
byte by byte here (`COLLATE "C"`) and stores any text, except that it refuses U+0000 in a text parameter and in a
string of a `jsonb` value. Full-text search is a parameter.
-/

namespace Immortal.Store

open Txn Immortal.Domain

/-! ## What PostgreSQL refuses -/

def nul : Char := Char.ofNat 0

def hasNul (text : String) : Bool := text.toList.contains nul

/-- Text parameters: the server's encoding has no U+0000. -/
def bindTexts (texts : List String) : Except StoreError Unit :=
  if texts.any hasNul then .error (.database "invalid byte sequence for encoding UTF8: 0x00") else .ok ()

/-- The cast `::text::jsonb` of a document with these strings. -/
def castJsonb (strings : List String) : Except StoreError Unit :=
  if strings.any hasNul then .error (.database "unsupported Unicode escape sequence") else .ok ()

theorem bindTexts_ok {texts : List String} : bindTexts texts = .ok () ↔ ∀ text ∈ texts, hasNul text = false := by
  rw [bindTexts]
  split <;> simp_all

theorem castJsonb_ok {strings : List String} : castJsonb strings = .ok () ↔ ∀ text ∈ strings, hasNul text = false := by
  rw [castJsonb]
  split <;> simp_all

theorem hasNul_eq_false {text : String} : hasNul text = false ↔ nul ∉ text.toList := by
  simp [hasNul]

theorem hexNibble_of_hexBytes {cs : List Char} {bytes : List Nat} (h : hexBytes cs = some bytes) :
    ∀ c ∈ cs, ∃ nibble, hexNibble c = some nibble := by
  induction cs using hexBytes.induct generalizing bytes with
  | case1 => simp
  | case2 high low rest ih =>
    simp only [hexBytes, bind, Option.bind_eq_some_iff] at h
    obtain ⟨x, hx, y, hy, rest', hrest, _⟩ := h
    intro c hc
    rcases List.mem_cons.mp hc with rfl | hc
    · exact ⟨x, hx⟩
    · rcases List.mem_cons.mp hc with rfl | hc
      · exact ⟨y, hy⟩
      · exact ih hrest c hc
  | case3 c => simp [hexBytes] at h

/-- Hexadecimal text is accepted. -/
theorem hasNul_of_isLowerHex {n : Nat} {text : String} (h : isLowerHex n text = true) : hasNul text = false := by
  rw [hasNul_eq_false]
  intro hmem
  unfold isLowerHex decodeLowerHex at h
  split at h
  · simp [Except.toBool] at h
  · split at h
    · rename_i bytes hbytes
      obtain ⟨nibble, hnibble⟩ := hexNibble_of_hexBytes hbytes nul hmem
      cases hnibble
    · simp [Except.toBool] at h

/-- The name of an indexed tag is accepted. -/
theorem hasNul_of_isIndexedTagName {name : String} (h : isIndexedTagName name = true) : hasNul name = false := by
  rw [isIndexedTagName, Bool.or_eq_true] at h
  rcases h with h | h
  · rw [hasNul_eq_false]
    intro hmem
    split at h
    · rename_i c hc
      rw [hc, List.mem_singleton] at hmem
      subst hmem
      exact absurd h (by decide)
    · cases h
  · have hwork : name = "work" := by simpa [extendedIndexedTagNames] using h
    subst hwork
    decide

/-- Full-text search: `str::to_lowercase`, the match of a content with the terms of `plainto_tsquery` and its rank. -/
structure TextSearch where
  lowercase : String → String
  matchesQuery : String → String → Bool
  rank : String → String → Nat

/-! ## The statements -/

/-- The parameters the two statements share, in the types of the source before they are bound. -/
structure QueryParams where
  ids : Option (List String)
  authors : Option (List String)
  kinds : Option (List Nat)
  since : Option Nat
  «until» : Option Nat
  tags : List (String × List String)
  now : Nat
  limit : Nat
  readPubkeys : Option (List String)
  search : Option String
  deriving DecidableEq, Repr

/-- The rows of `nostr_indexed_tag` that belong to the event. -/
def EventRow.indexedTag (row : EventRow) : List (String × String) := row.event.indexedTags.dedup

/-- The rows of `nostr_indexed_tag` named `p`. -/
def EventRow.recipients (row : EventRow) : List String :=
  (row.indexedTag.filter (fun pair => pair.1 = "p")).map Prod.snd

/-- `$n IS NULL OR x = ANY($n)`. -/
def nullOrAny {α : Type} [BEq α] (values : Option (List α)) (x : α) : Bool := values.all (·.contains x)

/-- `$n IS NOT NULL AND x = ANY($n)`. -/
def presentAny (values : Option (List String)) (x : String) : Bool := values.any (·.contains x)

/-- The `jsonb` containment `tags @> pattern` for an array of arrays of strings: each array of the pattern has an array
    among the tags that holds all its elements, in any order and among any others. -/
def jsonbContains (tags : List Tag) (pattern : List (List String)) : Bool :=
  pattern.all fun wanted => tags.any fun tag => wanted.all fun element => tag.contains element

/-- Kinds that never leave the relay bare. -/
def bareKind (kind : Nat) : Bool :=
  !(39604 ≤ kind && kind ≤ 39613) && kind != 39620 && kind != 39650

/-- The read rules of the kinds that only some readers may see. -/
def readRule (readPubkeys : Option (List String)) (row : EventRow) : Bool :=
  let kind := row.event.kind
  kind ∉ [1059, 24200, 30174, 30175, 30178, 30300, 30350, 30622, 44200] ||
    (kind ∈ [1059, 24200, 30622, 44200] && readPubkeys.isSome && row.recipients.length == 1 &&
      row.recipients.any (presentAny readPubkeys)) ||
    (kind ∈ [30300, 30350] && presentAny readPubkeys row.event.pubkey) ||
    (kind == 30174 &&
      (presentAny readPubkeys row.event.pubkey || row.recipients.any (presentAny readPubkeys))) ||
    (kind ∈ [30175, 30178] &&
      (presentAny readPubkeys row.event.pubkey || jsonbContains row.event.tags [["shared", "true"]]))

/-- `NOT EXISTS` a requested tag without an indexed match. -/
def requestedTags (tags : List (String × List String)) (row : EventRow) : Bool :=
  !tags.any fun requested =>
    !row.indexedTag.any fun indexed => indexed.1 == requested.1 && requested.2.contains indexed.2

/-- The generated column `search_vector` is null for the encrypted and the private kinds. -/
def searchable (kind : Nat) : Bool :=
  kind ∉ [30078, 30174, 30175, 30178, 30300, 30350, 30622, 44200, 1059, 39620, 39640, 39650] &&
    !(39604 ≤ kind && kind ≤ 39613)

variable (search : TextSearch)

/-- The conditions that both statements have. -/
def sharedWhere (params : QueryParams) (row : EventRow) : Bool :=
  nullOrAny params.ids row.event.id && nullOrAny params.authors row.event.pubkey &&
    nullOrAny params.kinds row.event.kind &&
    params.since.all (fun since => since ≤ row.event.createdAt) &&
    params.until.all (fun «until» => row.event.createdAt ≤ «until») &&
    row.expiresAt.all (fun expiresAt => params.now < expiresAt) &&
    bareKind row.event.kind && readRule params.readPubkeys row &&
    params.search.all (fun terms => searchable row.event.kind && search.matchesQuery row.event.content terms) &&
    requestedTags params.tags row

/-- `QUERY_FILTER_SQL`. -/
def queryFilterWhere (params : QueryParams) (through : Nat) (row : EventRow) : Bool :=
  sharedWhere search params row && row.ingestSeq ≤ through

/-- `QUERY_FILTER_IDS_SQL`. -/
def queryFilterIdsWhere (params : QueryParams) (row : EventRow) : Bool :=
  sharedWhere search params row

/-- The text parameters of the statement, and the tag document that it casts. -/
def QueryParams.bind (params : QueryParams) : Except StoreError Unit := do
  bindTexts (params.ids.getD [] ++ params.authors.getD [] ++ params.readPubkeys.getD [] ++ params.search.toList)
  castJsonb (params.tags.flatMap fun entry => entry.1 :: entry.2)

/-- Newest first, then the smaller id. -/
def newerFirst (a b : EventRow) : Prop :=
  b.event.createdAt < a.event.createdAt ∨ (a.event.createdAt = b.event.createdAt ∧ a.event.id ≤ b.event.id)

instance : DecidableRel newerFirst := fun _ _ => inferInstanceAs (Decidable (_ ∨ _))

/-- `ORDER BY` of `QUERY_FILTER_SQL`: the rank decides first when there are search terms. -/
def queryOrder (terms : Option String) (a b : EventRow) : Prop :=
  match terms with
  | none => newerFirst a b
  | some terms =>
    search.rank b.event.content terms < search.rank a.event.content terms ∨
      (search.rank a.event.content terms = search.rank b.event.content terms ∧ newerFirst a b)

instance (search : TextSearch) (terms : Option String) : DecidableRel (queryOrder search terms) := fun _ _ =>
  match terms with
  | none => inferInstanceAs (Decidable (newerFirst _ _))
  | some _ => inferInstanceAs (Decidable (_ ∨ _))

def queryFilterSql (d : Db) (params : QueryParams) (through : Nat) :
    Except StoreError (List EventRow) := do
  params.bind
  let selected := d.nostrEvent.filter (queryFilterWhere search params through)
  return (selected.insertionSort (queryOrder search params.search)).take params.limit

def queryFilterIdsSql (d : Db) (params : QueryParams) : Except StoreError (List String) := do
  params.bind
  let selected := d.nostrEvent.filter (queryFilterIdsWhere search params)
  return ((selected.map (·.event.id)).insertionSort (· ≤ ·)).take params.limit

/-! ## The functions that run them -/

def pgLimit (value : Nat) : Except StoreError Nat :=
  if value ≤ i64Max then .ok value else .error (.invalidLimit value)

def optionalI64 (value : Option Nat) (field : String) : Except StoreError (Option Nat) :=
  match value with
  | none => .ok none
  | some value => (pgI64 value field).map some

/-- The state of the store's connection when a query runs. -/
structure Connection where
  current : Bool
  /-- The owning client disconnected or replaced its request before the rows arrived. -/
  cancelled : Bool
  deriving DecidableEq, Repr

def ensureCurrent (connection : Connection) : Except StoreError Unit :=
  if connection.current then .ok () else .error .connectionClosed

def notCancelled (connection : Connection) : Except StoreError Unit :=
  if connection.cancelled then .error .queryCancelled else .ok ()

/-- What both functions bind for a validated filter. -/
def filterParams (filter : Filter) (now limit : Nat) (readPubkeys : Option (List String)) :
    Except StoreError QueryParams := do
  let since ← optionalI64 filter.since "since"
  let «until» ← optionalI64 filter.until "until"
  return {
    ids := filter.ids
    authors := filter.authors
    kinds := filter.kinds
    since := since
    «until» := «until»
    tags := filter.tags.entries
    now := now
    limit := limit
    readPubkeys := readPubkeys
    search := filter.search.map (fun text => String.intercalate " " (searchTerms search.lowercase text)) }

/-- The parameters of `QUERY_FILTER_SQL` for a filter. -/
def queryFilterParams (filter : Filter) (now maxResults : Nat)
    (readPubkeys : Option (List String)) : Except StoreError QueryParams := do
  liftDomain (filter.validate search.lowercase)
  let now ← pgI64 now "now"
  let limit ← pgLimit (min (filter.limit.getD maxResults) maxResults)
  filterParams search filter now limit readPubkeys

def queryFilterInner (d : Db) (connection : Connection) (filter : Filter)
    (now maxResults through : Nat) (readPubkeys : Option (List String)) : Except StoreError (List EventRow) := do
  ensureCurrent connection
  let params ← queryFilterParams search filter now maxResults readPubkeys
  notCancelled connection
  queryFilterSql search d params through

/-- The loop of `count_filters`: the ids collected so far, or none once there are too many. -/
def countLoop (search : TextSearch) (d : Db) (now scanLimit maxCount : Nat) (readPubkeys : Option (List String)) :
    List Filter → List String → Except StoreError (Option (List String))
  | [], ids => .ok (some ids)
  | filter :: rest, ids => do
    liftDomain (filter.validate search.lowercase)
    let params ← filterParams search filter now scanLimit readPubkeys
    let found ← queryFilterIdsSql search d params
    let ids := btreeSet (ids ++ found)
    if maxCount < ids.length then return none
    countLoop search d now scanLimit maxCount readPubkeys rest ids

def countFilters (d : Db) (connection : Connection) (filters : List Filter)
    (now maxCount : Nat) (readPubkeys : List String) : Except StoreError (Option Nat) := do
  ensureCurrent connection
  let now ← pgI64 now "now"
  -- `saturating_add` at `usize`
  let scanLimit ← pgLimit (min (maxCount + 1) u64Max)
  let readPubkeys := if readPubkeys = [] then none else some readPubkeys
  let ids ← countLoop search d now scanLimit maxCount readPubkeys filters []
  return ids.map List.length

/-- `LATEST_INGEST`: the high-water mark of a history read. -/
def latestIngestSeq (d : Db) : Nat := (d.nostrEvent.map (·.ingestSeq)).foldr max 0

/-- Rows whose id has not been seen yet are added at the end. -/
def collectRows (seen : List EventRow) : List EventRow → List EventRow
  | [] => seen
  | row :: rest =>
    if seen.any (fun other => other.event.id = row.event.id) then collectRows seen rest
    else collectRows (seen ++ [row]) rest

/-- The loop of `query_history` over the filters of a subscription. -/
def historyLoop (search : TextSearch) (d : Db) (connection : Connection) (now perFilter highWater : Nat)
    (readPubkeys : List String) : List Filter → List EventRow → Except StoreError (List EventRow)
  | [], seen => .ok seen
  | filter :: rest, seen => do
    let rows ← queryFilterInner search d connection filter now perFilter highWater (some readPubkeys)
    historyLoop search d connection now perFilter highWater readPubkeys rest (collectRows seen rows)

def queryHistory (d : Db) (connection : Connection) (filters : List Filter)
    (now maxResults : Nat) (readPubkeys : List String) : Except StoreError (Nat × List EventRow) := do
  notCancelled connection
  ensureCurrent connection
  let highWater := latestIngestSeq d
  -- `div_ceil` of the allowance by the number of filters
  let perFilter := (maxResults + max filters.length 1 - 1) / max filters.length 1
  let rows ← historyLoop search d connection now perFilter highWater readPubkeys filters []
  let events := if filters.any (fun filter => filter.search.isSome) then rows else rows.insertionSort newerFirst
  return (highWater, events.take maxResults)

/-! ## The parameters of a filter -/

/-- The parameters of a filter whose times fit. -/
def QueryParams.ofFilter (filter : Filter) (now limit : Nat)
    (readPubkeys : Option (List String)) : QueryParams where
  ids := filter.ids
  authors := filter.authors
  kinds := filter.kinds
  since := filter.since
  «until» := filter.until
  tags := filter.tags.entries
  now := now
  limit := limit
  readPubkeys := readPubkeys
  search := filter.search.map (fun text => String.intercalate " " (searchTerms search.lowercase text))

/-- Both times of the filter fit `bigint`. -/
def InRange (filter : Filter) : Prop :=
  (∀ since ∈ filter.since, since ≤ i64Max) ∧ ∀ last ∈ filter.until, last ≤ i64Max

/-- The filter asks for a tag value or for search terms with U+0000. -/
def AsksForNul (filter : Filter) : Prop :=
  (∃ entry ∈ filter.tags.entries, ∃ value ∈ entry.2, hasNul value = true) ∨
    ∃ text ∈ filter.search, hasNul (String.intercalate " " (searchTerms search.lowercase text)) = true

section
variable {search : TextSearch} {filter : Filter} {now limit maxResults : Nat} {readPubkeys : Option (List String)}
  {params : QueryParams}

theorem optionalI64_ok {value result : Option Nat} {field : String} :
    optionalI64 value field = .ok result ↔ (∀ v ∈ value, v ≤ i64Max) ∧ result = value := by
  cases value with
  | none => simp [optionalI64, eq_comm]
  | some v =>
    simp only [optionalI64, pgI64]
    by_cases hv : v ≤ i64Max <;> simp [hv, Except.map, eq_comm]

theorem filterParams_ok :
    filterParams search filter now limit readPubkeys = .ok params ↔
      InRange filter ∧ params = QueryParams.ofFilter search filter now limit readPubkeys := by
  simp only [filterParams, bind_eq_ok, optionalI64_ok, pure_eq_ok]
  constructor
  · rintro ⟨since, ⟨hsince, rfl⟩, last, ⟨hlast, rfl⟩, rfl⟩
    exact ⟨⟨hsince, hlast⟩, rfl⟩
  · rintro ⟨⟨hsince, hlast⟩, rfl⟩
    exact ⟨_, ⟨hsince, rfl⟩, _, ⟨hlast, rfl⟩, rfl⟩

/-- A valid filter becomes parameters when the relay's own numbers fit and its two times do. -/
theorem queryFilterParams_eq (hvalid : filter.validate search.lowercase = .ok ()) (hnow : now ≤ i64Max)
    (hmax : maxResults ≤ i64Max) :
    queryFilterParams search filter now maxResults readPubkeys =
      filterParams search filter now (min (filter.limit.getD maxResults) maxResults) readPubkeys := by
  have hlimit : min (filter.limit.getD maxResults) maxResults ≤ i64Max := le_trans (Nat.min_le_right _ _) hmax
  have hdomain : liftDomain (filter.validate search.lowercase) = .ok () := by
    rw [hvalid]
    rfl
  rw [queryFilterParams, hdomain, pgI64, if_pos hnow, pgLimit, if_pos hlimit]
  rfl

/-- What the server accepts of the parameters of a valid filter depends on the tag values and the search terms. -/
theorem bind_ofFilter_ok (hvalid : filter.validate search.lowercase = .ok ())
    (hreaders : ∀ reader ∈ readPubkeys.getD [], isLowerHex 32 reader = true) :
    (QueryParams.ofFilter search filter now limit readPubkeys).bind = .ok () ↔ ¬ AsksForNul search filter := by
  obtain ⟨hids, hauthors, hnames⟩ := Filter.validate_ok hvalid
  simp only [QueryParams.bind, QueryParams.ofFilter, check_bind_eq_ok, bindTexts_ok, castJsonb_ok,
    List.mem_append, List.mem_flatMap, Option.mem_toList]
  constructor
  · rintro ⟨htexts, htags⟩ (⟨entry, hentry, value, hvalue, hnul⟩ | ⟨text, htext, hnul⟩)
    · rw [htags value ⟨entry, hentry, .tail _ hvalue⟩] at hnul
      cases hnul
    · rw [htexts _ (.inr (by rw [Option.mem_def.mp htext]; rfl))] at hnul
      cases hnul
  · intro hclean
    refine ⟨?_, ?_⟩
    · rintro text (((h | h) | h) | h)
      · exact hasNul_of_isLowerHex (hids text h)
      · exact hasNul_of_isLowerHex (hauthors text h)
      · exact hasNul_of_isLowerHex (hreaders text h)
      · obtain ⟨terms, hterms, rfl⟩ := Option.map_eq_some_iff.mp h
        rw [Bool.eq_false_iff]
        exact fun hnul => hclean (.inr ⟨terms, hterms, hnul⟩)
    · rintro text ⟨entry, hentry, htext⟩
      rcases List.mem_cons.mp htext with rfl | htext
      · exact hasNul_of_isIndexedTagName (hnames entry hentry)
      · rw [Bool.eq_false_iff]
        exact fun hnul => hclean (.inl ⟨entry, hentry, text, htext, hnul⟩)

end

end Immortal.Store
