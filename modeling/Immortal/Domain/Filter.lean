import Immortal.Domain.Event
import Immortal.Txn.Checks

/-!
# `Immortal.Domain.Filter` — the tags a relay indexes and the filters clients send

`filter.rs` and the index rules of `event.rs`. A filter's populated fields are all required and the values inside
one field are alternatives. `Filter.matches` is what the live path evaluates; `Filter.Wants` says the same about a
filter without search terms as a list of requirements, which is the form the other read path is compared with.

`str::to_lowercase` is a Unicode table and stays a parameter.
-/

namespace Immortal.Domain

open Txn

/-! ## Indexed tags -/

/-- Tag names beyond single ASCII letters that this relay indexes. -/
def extendedIndexedTagNames : List String := ["work"]

def isAsciiAlphabetic (c : Char) : Bool := ('a' ≤ c ∧ c ≤ 'z') ∨ ('A' ≤ c ∧ c ≤ 'Z')

/-- One ASCII letter, or an extended name. The source looks at the only byte of the name; a name of one byte is one
    ASCII character. -/
def isIndexedTagName (name : String) : Bool :=
  (match name.toList with
    | [c] => isAsciiAlphabetic c
    | _ => false) || extendedIndexedTagNames.contains name

/-- The index key and the first value. -/
def Tag.indexedPair (tag : Tag) : Option (String × String) :=
  match tag.name with
  | none => none
  | some name => if isIndexedTagName name then tag.value.map (fun value => (name, value)) else none

def Event.indexedTags (event : Event) : List (String × String) := event.tags.filterMap Tag.indexedPair

theorem Tag.indexedPair_eq_some {tag : Tag} {name value : String} :
    tag.indexedPair = some (name, value) ↔
      isIndexedTagName name = true ∧ tag.name = some name ∧ tag.value = some value := by
  unfold Tag.indexedPair
  cases hname : tag.name with
  | none => simp
  | some n =>
    by_cases hindexed : isIndexedTagName n = true
    · simp only [hindexed, if_true, Option.map_eq_some_iff, Prod.mk.injEq, Option.some.injEq]
      constructor
      · rintro ⟨v, hv, rfl, rfl⟩
        exact ⟨hindexed, rfl, hv⟩
      · rintro ⟨-, rfl, hv⟩
        exact ⟨value, hv, rfl, rfl⟩
    · simp only [hindexed, Option.some.injEq]
      constructor
      · intro h
        cases h
      · rintro ⟨h, rfl, -⟩
        exact absurd h hindexed

variable {event : Event}

theorem Event.mem_tagValues {name value : String} :
    value ∈ event.tagValues name ↔ ∃ tag ∈ event.tags, tag.name = some name ∧ tag.value = some value := by
  simp [Event.tagValues, and_assoc]

/-- The index holds exactly the values of the tags whose name is indexed. -/
theorem Event.mem_indexedTags {name value : String} :
    (name, value) ∈ event.indexedTags ↔ isIndexedTagName name = true ∧ value ∈ event.tagValues name := by
  simp only [Event.indexedTags, List.mem_filterMap, Tag.indexedPair_eq_some, Event.mem_tagValues]
  constructor
  · rintro ⟨tag, htag, hindexed, hname, hvalue⟩
    exact ⟨hindexed, tag, htag, hname, hvalue⟩
  · rintro ⟨hindexed, tag, htag, hname, hvalue⟩
    exact ⟨tag, htag, hindexed, hname, hvalue⟩

/-! ## Filters -/

/-- A `BTreeMap` from tag names to the values asked for: every name once, in ascending order. -/
structure TagSelectors where
  entries : List (String × List String)
  ordered : (entries.map Prod.fst).Pairwise (· < ·)
  deriving DecidableEq

def TagSelectors.none : TagSelectors := ⟨[], List.Pairwise.nil⟩

/-- A single NIP-01 filter. -/
structure Filter where
  ids : Option (List String)
  authors : Option (List String)
  kinds : Option (List Nat)
  tags : TagSelectors
  since : Option Nat
  «until» : Option Nat
  limit : Option Nat
  search : Option String
  deriving DecidableEq

/-- `Filter::default`: every field left out. -/
def Filter.default : Filter := ⟨none, none, none, TagSelectors.none, none, none, none, none⟩

/-- `char::is_whitespace`: the characters with the Unicode property `White_Space`. -/
def isWhitespace (c : Char) : Bool :=
  (9 ≤ c.toNat ∧ c.toNat ≤ 13) ∨ c.toNat ∈ [0x20, 0x85, 0xA0, 0x1680, 0x2028, 0x2029, 0x202F, 0x205F, 0x3000] ∨
    (0x2000 ≤ c.toNat ∧ c.toNat ≤ 0x200A)

/-- NIP-50 extension tokens hold a colon and are ignored; the other words are lowered. -/
def searchTerms (lowercase : String → String) (search : String) : List String :=
  let words := ((search.toList.splitOnP isWhitespace).filter (· ≠ [])).map String.ofList
  (words.filter (fun term => !term.toList.contains ':')).map lowercase

def requireAll (values : Option (List String)) (reason : String) : Except DomainError Unit :=
  if (values.getD []).all (isLowerHex 32) then .ok () else .error (.invalidFilter reason)

namespace Filter

/-- Exact ids and authors, indexed tag names, and a bounded search with at least one term. -/
def validate (lowercase : String → String) (filter : Filter) : Except DomainError Unit := do
  requireAll filter.ids "every id must be exactly 64 lowercase hexadecimal characters"
  requireAll filter.authors "every author must be exactly 64 lowercase hexadecimal characters"
  if filter.tags.entries.any (fun entry => !isIndexedTagName entry.1) then
    throw (.invalidFilter "tag selectors must be one ASCII letter or an indexed extension name")
  match filter.search with
  | none => pure ()
  | some search =>
    if 256 < search.toList.length then
      throw (.invalidFilter "search must contain at most 256 characters")
    if searchTerms lowercase search = [] then
      throw (.invalidFilter "search must contain at least one non-extension term")

variable {filter : Filter} {lowercase : String → String}

/-- The hexadecimal selectors and the tag names of a valid filter. -/
theorem validate_ok (h : filter.validate lowercase = .ok ()) :
    (∀ id ∈ filter.ids.getD [], isLowerHex 32 id = true) ∧
      (∀ author ∈ filter.authors.getD [], isLowerHex 32 author = true) ∧
      ∀ entry ∈ filter.tags.entries, isIndexedTagName entry.1 = true := by
  have hrequire : ∀ {values : Option (List String)} {reason : String}, requireAll values reason = .ok () →
      ∀ value ∈ values.getD [], isLowerHex 32 value = true := by
    intro values reason hok
    rw [requireAll] at hok
    split at hok
    · rename_i hall
      exact List.all_eq_true.mp hall
    · cases hok
  obtain ⟨_, hids, h⟩ := bind_eq_ok.mp h
  obtain ⟨_, hauthors, h⟩ := bind_eq_ok.mp h
  refine ⟨hrequire hids, hrequire hauthors, fun entry hentry => ?_⟩
  by_contra hname
  rw [if_pos (List.any_eq_true.mpr ⟨entry, hentry, by simpa using hname⟩)] at h
  cases h

def listMatches (values : Option (List String)) (actual : String) : Bool :=
  values.all (fun values => values.contains actual)

def tagsMatch (filter : Filter) (event : Event) : Bool :=
  filter.tags.entries.all fun entry =>
    event.indexedTags.any fun pair => pair.1 = entry.1 ∧ entry.2.contains pair.2

def searchMatches (lowercase : String → String) (filter : Filter) (event : Event) : Bool :=
  filter.search.all fun search =>
    let terms := searchTerms lowercase search
    terms ≠ [] ∧ terms.all (fun term => term.toList <:+: (lowercase event.content).toList)

/-- `Filter::matches`. -/
def «matches» (lowercase : String → String) (filter : Filter) (event : Event) : Bool :=
  listMatches filter.ids event.id && listMatches filter.authors event.pubkey &&
    filter.kinds.all (fun kinds => kinds.contains event.kind) &&
    filter.since.all (fun since => since ≤ event.createdAt) &&
    filter.until.all (fun «until» => event.createdAt ≤ «until») &&
    filter.tagsMatch event && filter.searchMatches lowercase event

/-! ## What a filter asks for -/

/-- The requirements of a filter without search terms. -/
structure Wants (filter : Filter) (event : Event) : Prop where
  id : ∀ ids ∈ filter.ids, event.id ∈ ids
  author : ∀ authors ∈ filter.authors, event.pubkey ∈ authors
  kind : ∀ kinds ∈ filter.kinds, event.kind ∈ kinds
  since : ∀ since ∈ filter.since, since ≤ event.createdAt
  «until» : ∀ last ∈ filter.until, event.createdAt ≤ last
  tags : ∀ entry ∈ filter.tags.entries, ∃ value ∈ entry.2, (entry.1, value) ∈ event.indexedTags

theorem listMatches_iff {values : Option (List String)} {actual : String} :
    listMatches values actual = true ↔ ∀ vs ∈ values, actual ∈ vs := by
  cases values <;> simp [listMatches]

theorem tagsMatch_iff :
    filter.tagsMatch event = true ↔
      ∀ entry ∈ filter.tags.entries, ∃ value ∈ entry.2, (entry.1, value) ∈ event.indexedTags := by
  simp only [tagsMatch, List.all_eq_true, List.any_eq_true, decide_eq_true_eq, List.contains_iff_mem]
  refine forall₂_congr fun entry _ => ⟨?_, ?_⟩
  · rintro ⟨⟨name, value⟩, hpair, rfl, hvalue⟩
    exact ⟨value, hvalue, hpair⟩
  · rintro ⟨value, hvalue, hpair⟩
    exact ⟨(entry.1, value), hpair, rfl, hvalue⟩

/-- **The live match** of a filter without search terms is its list of requirements. -/
theorem matches_iff_wants
    (hsearch : filter.search = none) : filter.matches lowercase event = true ↔ filter.Wants event := by
  have hnone : filter.searchMatches lowercase event = true := by
    rw [searchMatches, hsearch]
    rfl
  simp only [«matches», Bool.and_eq_true, listMatches_iff, tagsMatch_iff, hnone, and_true]
  constructor
  · rintro ⟨⟨⟨⟨⟨hid, hauthor⟩, hkind⟩, hsince⟩, huntil⟩, htags⟩
    refine ⟨hid, hauthor, fun kinds hkinds => ?_, fun since hs => ?_, fun last hl => ?_, htags⟩
    · simpa [Option.mem_def.mp hkinds] using hkind
    · simpa [Option.mem_def.mp hs] using hsince
    · simpa [Option.mem_def.mp hl] using huntil
  · intro h
    refine ⟨⟨⟨⟨⟨h.id, h.author⟩, ?_⟩, ?_⟩, ?_⟩, h.tags⟩
    · cases hkinds : filter.kinds with
      | none => rfl
      | some kinds => simpa using h.kind kinds hkinds
    · cases hs : filter.since with
      | none => rfl
      | some since => simpa using h.since since hs
    · cases hl : filter.until with
      | none => rfl
      | some last => simpa using h.until last hl

end Filter

/-- `matches_any`. -/
def matchesAny (lowercase : String → String) (filters : List Filter) (event : Event) : Bool :=
  filters.any (fun filter => filter.matches lowercase event)

end Immortal.Domain
