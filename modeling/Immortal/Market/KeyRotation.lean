import Immortal.Market.Records

/-!
# `Immortal.Market.KeyRotation` — which key speaks for a provider, and when

A provider is named by its first key. It hands over to the next key with a rotation event signed by the key in
office, and a reader collects whatever rotation events it can find: `verify_mkt_key_rotation_chain` turns such a
collection into a chain, and `active_pubkey_at` reads the key in office off the chain.
-/

namespace Immortal.Market

open Immortal.Domain Txn List
open Client (Members Value utf8)

/-! ## Rotation events -/

structure MktKeyRotation where
  schema : String
  version : Nat
  rotationId : String
  providerId : String
  generation : Nat
  previousRotationEventId : Option String
  oldPubkey : String
  newPubkey : String
  effectiveAt : Nat
deriving DecidableEq, Repr

def mktKeyRotationSchema : String := "openagents.mkt.key-rotation.v1"
def mktNetworkVersion : Nat := 1
def mktNetworkMaxChainGenerations : Nat := 64
def mktNetworkMaxContentBytes : Nat := 8 * 1024

/-- `None` is written as `null`. -/
def Value.ofOption : Option String → Value
  | none => .null
  | some text => .string text

/-- `serde_json::to_value` of a rotation. -/
def MktKeyRotation.members (rotation : MktKeyRotation) : Members :=
  [("schema", .string rotation.schema), ("version", .integer rotation.version),
    ("rotation_id", .string rotation.rotationId), ("provider_id", .string rotation.providerId),
    ("generation", .integer rotation.generation),
    ("previous_rotation_event_id", Value.ofOption rotation.previousRotationEventId),
    ("old_pubkey", .string rotation.oldPubkey), ("new_pubkey", .string rotation.newPubkey),
    ("effective_at", .integer rotation.effectiveAt)]

/-- The market environment with the reader of rotation objects. -/
structure NetworkEnv extends MktEnv where
  /-- `serde_json::from_value::<MktKeyRotation>`, closed to unknown members. -/
  rotationOfValue : Value → Except String MktKeyRotation

/-- `canonical_mkt_key_rotation_content`. -/
def canonicalMktKeyRotationContent (rotation : MktKeyRotation) : Except String String :=
  canonicalText (.object rotation.members) "canonical mkt network key rotation produced invalid UTF-8"

/-- `network_tag_equals`: one tag of the name, with exactly the expected value. -/
def networkTagEquals (event : Event) (name expected subject : String) : Except String Unit :=
  failIf (named event name ≠ [[name, expected]])
    ("mkt_network_invalid: " ++ subject ++ " requires exact " ++ name ++ " tag")

/-- `network_predecessor`: the first generation has no predecessor and every other one names exactly one. -/
def networkPredecessor (event : Event) (marker : String) (expected : Option String) (generation : Nat) :
    Except String Unit :=
  match generation, expected, marked event marker with
  | 1, none, [] => .ok ()
  | 1, _, _ => .error ("mkt_network_invalid: generation one cannot have " ++ marker)
  | _, some expected, [tag] =>
    if tag = ["e", expected, "", marker] then lowerHex32 expected "network predecessor event id"
    else .error ("mkt_network_invalid: generation " ++ toString generation ++ " requires exact " ++ marker)
  | _, _, _ => .error ("mkt_network_invalid: generation " ++ toString generation ++ " requires exact " ++ marker)

section Validation

variable (env : NetworkEnv)

/-- `mkt_key_rotation_id`. -/
def mktKeyRotationId (rotation : MktKeyRotation) : Except String String :=
  env.contentId rotation.members "rotation_id"

def validateMktKeyRotationEvent (event : Event) : Except String MktKeyRotation := do
  failIf (event.kind ≠ mktSwpKeyRotationKind) "mkt_network_invalid: key rotation requires kind 39614"
  failIf (mktNetworkMaxContentBytes < (utf8 event.content).length)
    ("MKT key rotation content exceeds " ++ toString mktNetworkMaxContentBytes ++ " bytes")
  let value ← env.parseUniqueJson event.content "MKT key rotation content"
  let rotation ← explained (env.rotationOfValue value)
    ("mkt_network_invalid: key rotation is not a closed version-1 object: " ++ ·)
  failIf (rotation.schema ≠ mktKeyRotationSchema ∨ rotation.version ≠ mktNetworkVersion)
    "mkt_network_unsupported_version: key rotation schema/version"
  lowerHex32 rotation.rotationId "key rotation rotation_id"
  lowerHex32 rotation.providerId "key rotation provider_id"
  lowerHex32 rotation.oldPubkey "key rotation old_pubkey"
  lowerHex32 rotation.newPubkey "key rotation new_pubkey"
  failIf (rotation.generation = 0 ∨ mktNetworkMaxChainGenerations < rotation.generation)
    "mkt_network_bounds: key rotation generation must be 1..=64"
  failIf (rotation.oldPubkey = rotation.newPubkey)
    "mkt_network_invalid: rotation successor must differ from old key"
  failIf (event.pubkey ≠ rotation.oldPubkey) "mkt_network_invalid: rotation must be authored by old_pubkey"
  failIf (rotation.effectiveAt < event.createdAt)
    "mkt_network_invalid: rotation was signed after its effective time"
  let content ← canonicalMktKeyRotationContent rotation
  failIf (event.content ≠ content) "mkt_network_noncanonical: key rotation content"
  let id ← mktKeyRotationId env rotation
  failIf (id ≠ rotation.rotationId) "mkt_network_digest_mismatch: rotation_id"
  networkTagEquals event "d" rotation.rotationId "key rotation"
  networkTagEquals event "provider" rotation.providerId "key rotation"
  networkTagEquals event "generation" (toString rotation.generation) "key rotation"
  networkTagEquals event "effective_at" (toString rotation.effectiveAt) "key rotation"
  networkTagEquals event "alt" "MKT Provider Key Rotation" "key rotation"
  failIf (named event "p" ≠ [["p", rotation.newPubkey, "", "successor"]])
    "mkt_network_invalid: rotation requires exact successor p tag"
  networkPredecessor event "previous-rotation" rotation.previousRotationEventId rotation.generation
  failIf (rotation.generation = 1 ∧ rotation.providerId ≠ rotation.oldPubkey)
    "mkt_network_invalid: first rotation old key must equal provider_id"
  return rotation

variable {event : Event} {events : List Event} {byGeneration rotations : List Rotation} {chain : MktProviderKeyChain}

/-- An accepted rotation event is written by the key that leaves office, before it leaves. -/
theorem validateMktKeyRotationEvent_author {rotation : MktKeyRotation}
    (h : validateMktKeyRotationEvent env event = .ok rotation) :
    event.pubkey = rotation.oldPubkey ∧ event.createdAt ≤ rotation.effectiveAt ∧
      rotation.oldPubkey ≠ rotation.newPubkey := by
  simp only [validateMktKeyRotationEvent, bind_eq_ok, failIf_eq_ok, pure_eq_ok] at h
  obtain ⟨_, -, _, -, _, -, found, -, _, -, _, -, _, -, _, -, _, -, _, -, _, hdiffer, _, hauthor, _, htime, _, -, _, -,
    _, -, _, -, _, -, _, -, _, -, _, -, _, -, _, -, _, -, _, -, rfl⟩ := h
  exact ⟨not_not.mp hauthor, not_lt.mp htime, hdiffer⟩

/-! ## Chains -/

inductive MktNetworkChainErrorCode where
  | incomplete
  | invalid
  | ambiguous
deriving DecidableEq, Repr

structure MktNetworkChainError where
  code : MktNetworkChainErrorCode
  detail : String
deriving DecidableEq, Repr

/-- A rotation event with what its content says. -/
abbrev Rotation := Event × MktKeyRotation

structure MktProviderKeyChain where
  providerId : String
  rotations : List Rotation
deriving DecidableEq, Repr

/-- `active_pubkey_at`: the successor named by the last rotation in effect. -/
def MktProviderKeyChain.activePubkeyAt (chain : MktProviderKeyChain) (createdAt : Nat) : String :=
  match chain.rotations.reverse.find? fun rotation => rotation.2.effectiveAt ≤ createdAt with
  | some rotation => rotation.2.newPubkey
  | none => chain.providerId

/-- `map_err(|detail| network_error(code, detail))`. -/
def networkChecked {α : Type} (result : Except String α) (code : MktNetworkChainErrorCode) :
    Except MktNetworkChainError α :=
  result.mapError fun detail => ⟨code, detail⟩

def validateNetworkSignature (event : Event) : Except MktNetworkChainError Unit :=
  networkChecked (explained (env.validateSigned event) ("network event signature is invalid: " ++ ·.display)) .invalid

/-- One event of the collection: its signature, its content and the provider it speaks for. -/
def readRotation (providerId : String) (event : Event) : Except MktNetworkChainError MktKeyRotation := do
  validateNetworkSignature env event
  let rotation ← networkChecked (validateMktKeyRotationEvent env event) .invalid
  networkChecked (failIf (rotation.providerId ≠ providerId)
    "rotation provider_id does not match the trusted provider") .invalid
  return rotation

/-- The first loop: the events by generation. The map is a list with at most one entry for a generation. -/
def collectRotation (providerId : String) (byGeneration : List Rotation) (event : Event) :
    Except MktNetworkChainError (List Rotation) := do
  let rotation ← readRotation env providerId event
  match byGeneration.find? fun prior => prior.2.generation = rotation.generation with
  | some prior =>
    if prior.1 = event then .ok byGeneration
    else .error ⟨.ambiguous, "competing rotation generation " ++ toString rotation.generation⟩
  | none => .ok (byGeneration ++ [(event, rotation)])

/-- What ties a rotation to the one before it, or to the provider. -/
def Follows (providerId : String) (previous : Option Rotation) (rotation : MktKeyRotation) : Prop :=
  match previous with
  | some (event, claim) =>
    rotation.previousRotationEventId = some event.id ∧ rotation.oldPubkey = claim.newPubkey ∧
      claim.effectiveAt < rotation.effectiveAt
  | none => rotation.previousRotationEventId = none ∧ rotation.oldPubkey = providerId

instance (providerId : String) (previous : Option Rotation) (rotation : MktKeyRotation) :
    Decidable (Follows providerId previous rotation) :=
  match previous with
  | some (event, claim) =>
    inferInstanceAs (Decidable (rotation.previousRotationEventId = some event.id ∧
      rotation.oldPubkey = claim.newPubkey ∧ claim.effectiveAt < rotation.effectiveAt))
  | none => inferInstanceAs (Decidable (rotation.previousRotationEventId = none ∧ rotation.oldPubkey = providerId))

/-- The second loop: the generations in order. An entry is removed from the map when it is read; no generation is
    read twice. -/
def linkRotation (providerId : String) (byGeneration rotations : List Rotation) (expected : Nat) :
    Except MktNetworkChainError (List Rotation) :=
  match byGeneration.find? fun entry => entry.2.generation = expected with
  | none => .error ⟨.incomplete, "missing rotation generation " ++ toString expected⟩
  | some entry =>
    if Follows providerId rotations.getLast? entry.2 then .ok (rotations ++ [entry])
    else if rotations.getLast?.isSome then
      .error ⟨.invalid, "rotation generation " ++ toString expected ++ " breaks its predecessor chain"⟩
    else .error ⟨.invalid, "first rotation does not begin at provider_id"⟩

def verifyMktKeyRotationChain (providerId : String) (events : List Event) :
    Except MktNetworkChainError MktProviderKeyChain := do
  networkChecked (lowerHex32 providerId "provider_id") .invalid
  networkChecked (failIf (mktNetworkMaxChainGenerations < events.length)
    "rotation chain exceeds 64 supplied events") .invalid
  let byGeneration ← events.foldlM (collectRotation env providerId) []
  let rotations ← (List.range' 1 byGeneration.length).foldlM (linkRotation providerId byGeneration) []
  return { providerId, rotations }

/-! ## Which collections are accepted -/

/-- The rotations in a collection: the events it holds, each with what it says. -/
def Supplied (providerId : String) (events : List Event) (entry : Rotation) : Prop :=
  entry.1 ∈ events ∧ readRotation env providerId entry.1 = .ok entry.2

/-- **What an accepted chain is**: generation after generation from the first, each tied to the one before. -/
def Linked (providerId : String) (rotations : List Rotation) : Prop :=
  ∀ i entry, rotations[i]? = some entry →
    entry.2.generation = i + 1 ∧ Follows providerId (rotations.take i).getLast? entry.2

variable {env} {providerId : String}

/-- What the first loop has collected so far. -/
structure Collected (env : NetworkEnv) (providerId : String) (events : List Event) (byGeneration : List Rotation) :
    Prop where
  mem_iff : ∀ entry, entry ∈ byGeneration ↔ Supplied env providerId events entry
  readable : ∀ event ∈ events, ∃ rotation, readRotation env providerId event = .ok rotation
  distinct : byGeneration.Pairwise fun a b => a.2.generation ≠ b.2.generation

theorem Collected.step {before after : List Rotation} (h : Collected env providerId events before)
    (hstep : collectRotation env providerId before event = .ok after) :
    Collected env providerId (events ++ [event]) after := by
  simp only [collectRotation, bind_eq_ok] at hstep
  obtain ⟨rotation, hread, hstep⟩ := hstep
  have hreadable : ∀ e ∈ events ++ [event], ∃ rotation, readRotation env providerId e = .ok rotation := by
    intro e he
    rcases mem_append.mp he with he | he
    · exact h.readable e he
    · exact ⟨rotation, mem_singleton.mp he ▸ hread⟩
  cases hfind : before.find? fun prior => prior.2.generation = rotation.generation with
  | some prior =>
    -- a repeated event leaves the map as it is
    simp only [hfind] at hstep
    split at hstep
    case isFalse => exact absurd hstep (by simp)
    case isTrue hsame =>
      simp only [Except.ok.injEq] at hstep
      subst hstep
      refine ⟨fun entry => ?_, hreadable, h.distinct⟩
      have hprior := (h.mem_iff prior).mp (mem_of_find?_eq_some hfind)
      rw [h.mem_iff]
      simp only [Supplied, mem_append, mem_singleton]
      constructor
      · exact fun hentry => ⟨.inl hentry.1, hentry.2⟩
      · rintro ⟨hentry | hentry, hvalue⟩
        · exact ⟨hentry, hvalue⟩
        · exact ⟨hentry ▸ hsame ▸ hprior.1, hvalue⟩
  | none =>
    simp only [hfind, Except.ok.injEq] at hstep
    subst hstep
    refine ⟨fun entry => ?_, hreadable, ?_⟩
    · simp only [mem_append, mem_singleton, h.mem_iff, Supplied]
      constructor
      · rintro (hentry | rfl)
        · exact ⟨.inl hentry.1, hentry.2⟩
        · exact ⟨.inr rfl, hread⟩
      · rintro ⟨hentry | hentry, hvalue⟩
        · exact .inl ⟨hentry, hvalue⟩
        · right
          rw [hentry, hread] at hvalue
          exact Prod.ext hentry (Except.ok.inj hvalue).symm
    · rw [pairwise_append]
      refine ⟨h.distinct, pairwise_singleton _ _, ?_⟩
      intro a ha b hb
      rw [mem_singleton.mp hb]
      simpa using find?_eq_none.mp hfind a ha

theorem Collected.nil : Collected env providerId [] [] :=
  ⟨by simp [Supplied], by simp, List.Pairwise.nil⟩

theorem collected_of_ok (h : events.foldlM (collectRotation env providerId) [] = .ok byGeneration) :
    Collected env providerId events byGeneration := by
  -- from the last event backwards, as the loop builds the map
  induction events using reverseRecOn generalizing byGeneration with
  | nil =>
    cases h
    exact Collected.nil
  | append_singleton events event ih =>
    rw [foldlM_append] at h
    obtain ⟨before, hbefore, h⟩ := bind_eq_ok.mp h
    obtain ⟨after, hafter, h⟩ := bind_eq_ok.mp h
    cases h
    exact (ih hbefore).step hafter

/-- The first loop ends on events it can read, when no two of them claim one generation. -/
theorem exists_collected (hreadable : ∀ event ∈ events, ∃ rotation, readRotation env providerId event = .ok rotation)
    (hagree : ∀ a b, Supplied env providerId events a → Supplied env providerId events b →
      a.2.generation = b.2.generation → a = b) :
    ∃ byGeneration, events.foldlM (collectRotation env providerId) [] = .ok byGeneration := by
  induction events using reverseRecOn with
  | nil => exact ⟨[], rfl⟩
  | append_singleton events event ih =>
    have hmem : ∀ {entry}, Supplied env providerId events entry →
        Supplied env providerId (events ++ [event]) entry :=
      fun hentry => ⟨mem_append_left _ hentry.1, hentry.2⟩
    obtain ⟨before, hbefore⟩ := ih (fun e he => hreadable e (mem_append_left _ he))
      fun a b ha hb => hagree a b (hmem ha) (hmem hb)
    obtain ⟨rotation, hread⟩ := hreadable event (mem_append_right _ (mem_singleton_self _))
    rw [foldlM_append, hbefore]
    show ∃ byGeneration, foldlM (collectRotation env providerId) before [event] = .ok byGeneration
    simp only [foldlM_cons, collectRotation, hread, bind, Except.bind]
    cases hfind : before.find? fun prior => prior.2.generation = rotation.generation with
    | none => exact ⟨_, rfl⟩
    | some prior =>
      have hprior := ((collected_of_ok hbefore).mem_iff prior).mp (mem_of_find?_eq_some hfind)
      have hgeneration : prior.2.generation = rotation.generation := by simpa using find?_some hfind
      have hsame := hagree prior (event, rotation) (hmem hprior)
        ⟨mem_append_right _ (mem_singleton_self _), hread⟩ hgeneration
      simp only [hsame]
      exact ⟨_, rfl⟩

theorem linkRotation_eq_ok {after : List Rotation} {expected : Nat} :
    linkRotation providerId byGeneration rotations expected = .ok after ↔
      ∃ entry, (byGeneration.find? fun entry => entry.2.generation = expected) = some entry ∧
        Follows providerId rotations.getLast? entry.2 ∧ after = rotations ++ [entry] := by
  unfold linkRotation
  cases byGeneration.find? fun entry => entry.2.generation = expected with
  | none => simp
  | some entry =>
    by_cases hfollows : Follows providerId rotations.getLast? entry.2
    · simp [hfollows, eq_comm]
    · by_cases hlast : rotations.getLast?.isSome <;> simp [hfollows, hlast]

/-- The second loop, from its outcome: every generation was found and follows the one before. -/
theorem linkRotations_eq_ok {n : Nat} :
    (range' 1 n).foldlM (linkRotation providerId byGeneration) [] = .ok rotations ↔
      rotations.length = n ∧ ∀ i entry, rotations[i]? = some entry →
        (byGeneration.find? fun entry => entry.2.generation = i + 1) = some entry ∧
          Follows providerId (rotations.take i).getLast? entry.2 := by
  induction n generalizing rotations with
  | zero =>
    cases rotations with
    | nil => simp [pure, Except.pure]
    | cons entry rest => simp [pure, Except.pure]
  | succ n ih =>
    rw [range'_1_concat, foldlM_append, bind_eq_ok]
    simp only [foldlM_cons, foldlM_nil, bind_pure, ih, linkRotation_eq_ok]
    constructor
    · rintro ⟨before, ⟨hlength, hbefore⟩, entry, hfind, hfollows, rfl⟩
      refine ⟨by simp [hlength], fun i found hfound => ?_⟩
      rcases Nat.lt_or_ge i n with hi | hi
      · rw [getElem?_append_left (by omega)] at hfound
        rw [take_append_of_le_length (by omega)]
        exact hbefore i found hfound
      · obtain rfl : i = n := by
          have := (List.getElem?_eq_some_iff.mp hfound).1
          simp only [length_append, length_singleton] at this
          omega
        rw [getElem?_append_right (by omega), hlength, Nat.sub_self] at hfound
        simp only [getElem?_cons_zero, Option.some.injEq] at hfound
        subst hfound
        rw [← hlength, take_left, hlength, Nat.add_comm]
        exact ⟨hfind, hfollows⟩
    · rintro ⟨hlength, h⟩
      rcases eq_nil_or_concat' rotations with rfl | ⟨before, entry, rfl⟩
      · simp at hlength
      · have hbefore : before.length = n := by simpa using hlength
        refine ⟨before, ⟨hbefore, fun i found hfound => ?_⟩, entry, ?_⟩
        · have hi := (List.getElem?_eq_some_iff.mp hfound).1
          have := h i found (by rw [getElem?_append_left hi, hfound])
          rwa [take_append_of_le_length hi.le] at this
        · obtain ⟨hfind, hfollows⟩ := h n entry (by simp [← hbefore])
          rw [← hbefore, take_left] at hfollows
          exact ⟨by rwa [Nat.add_comm], hfollows, rfl⟩

theorem Linked.generations (h : Linked providerId rotations) :
    rotations.map (·.2.generation) = range' 1 rotations.length := by
  apply ext_getElem?
  intro i
  rw [getElem?_map]
  cases hi : rotations[i]? with
  | none =>
    have hlength := getElem?_eq_none_iff.mp hi
    simp [getElem?_eq_none_iff.mpr (show (range' 1 rotations.length).length ≤ i by simpa using hlength)]
  | some entry =>
    have hlength := (List.getElem?_eq_some_iff.mp hi).1
    simp [(h i entry hi).1, hlength, Nat.add_comm]

/-- A rotation of a chain stands at its generation. -/
theorem Linked.getElem?_of_mem (h : Linked providerId rotations) {entry : Rotation} (hentry : entry ∈ rotations) :
    rotations[entry.2.generation - 1]? = some entry := by
  obtain ⟨i, hi⟩ := mem_iff_getElem?.mp hentry
  rw [(h i entry hi).1]
  exact hi

theorem Linked.eq_of_generation (h : Linked providerId rotations) {a b : Rotation} (ha : a ∈ rotations)
    (hb : b ∈ rotations) (hgeneration : a.2.generation = b.2.generation) : a = b := by
  have := h.getElem?_of_mem ha
  rw [hgeneration, h.getElem?_of_mem hb] at this
  exact (Option.some.inj this).symm

theorem Linked.nodup (h : Linked providerId rotations) : rotations.Nodup := by
  refine List.Nodup.of_map (·.2.generation) ?_
  rw [h.generations]
  exact nodup_range'

/-- A rotation stands at the same place in every chain it belongs to, so a chain whose rotations all belong to
    another is a part of it from the start. -/
theorem Linked.isPrefix {shorter longer : List Rotation} (h : Linked providerId shorter)
    (h' : Linked providerId longer) (hsubset : ∀ entry ∈ shorter, entry ∈ longer) : shorter <+: longer := by
  rw [prefix_iff_getElem?]
  intro i hi
  have hfound := getElem?_eq_getElem hi
  have := h'.getElem?_of_mem (hsubset _ (getElem_mem hi))
  rwa [(h i _ hfound).1] at this

/-- The entry of a generation, in a map with one entry for each generation. -/
theorem find?_generation (hdistinct : byGeneration.Pairwise fun a b => a.2.generation ≠ b.2.generation)
    {entry : Rotation} (hentry : entry ∈ byGeneration) :
    (byGeneration.find? fun found => found.2.generation = entry.2.generation) = some entry := by
  induction byGeneration with
  | nil => exact absurd hentry not_mem_nil
  | cons head rest ih =>
    rw [pairwise_cons] at hdistinct
    rcases mem_cons.mp hentry with rfl | hentry
    · simp
    · rw [find?_cons_of_neg (by simpa using hdistinct.1 entry hentry)]
      exact ih hdistinct.2 hentry

/-- **Acceptance.** A collection is accepted with a chain exactly when every event in it can be read, the chain
    holds exactly its rotations, and the chain is linked. -/
theorem verifyMktKeyRotationChain_eq_ok :
    verifyMktKeyRotationChain env providerId events = .ok chain ↔
      isLowerHex 32 providerId = true ∧ events.length ≤ mktNetworkMaxChainGenerations ∧
        chain.providerId = providerId ∧ Linked providerId chain.rotations ∧
        (∀ event ∈ events, ∃ rotation, readRotation env providerId event = .ok rotation) ∧
        ∀ entry, entry ∈ chain.rotations ↔ Supplied env providerId events entry := by
  simp only [verifyMktKeyRotationChain, networkChecked, bind_eq_ok, mapError_eq_ok, lowerHex32_eq_ok, failIf_eq_ok,
    not_lt, pure_eq_ok, linkRotations_eq_ok]
  constructor
  · rintro ⟨_, hhex, _, hbound, byGeneration, hcollect, rotations, ⟨hlength, hlinks⟩, rfl⟩
    have hcollected := collected_of_ok hcollect
    have hlinked : Linked providerId rotations := by
      intro i entry hentry
      obtain ⟨hfind, hfollows⟩ := hlinks i entry hentry
      exact ⟨by simpa using find?_some hfind, hfollows⟩
    have hsubset : rotations ⊆ byGeneration := by
      intro entry hentry
      obtain ⟨i, hi⟩ := mem_iff_getElem?.mp hentry
      exact mem_of_find?_eq_some (hlinks i entry hi).1
    -- as many rotations as the map has entries, all of them different: the chain is the whole map
    have hperm : rotations.Perm byGeneration :=
      (subperm_of_subset hlinked.nodup hsubset).perm_of_length_le hlength.ge
    exact ⟨hhex, hbound, rfl, hlinked, hcollected.readable, fun entry => by
      rw [hperm.mem_iff]; exact hcollected.mem_iff entry⟩
  · rintro ⟨hhex, hbound, rfl, hlinked, hreadable, hmem⟩
    obtain ⟨byGeneration, hcollect⟩ := exists_collected hreadable fun a b ha hb hgeneration =>
      hlinked.eq_of_generation ((hmem a).mpr ha) ((hmem b).mpr hb) hgeneration
    have hcollected := collected_of_ok hcollect
    have hsame : ∀ entry, entry ∈ chain.rotations ↔ entry ∈ byGeneration := fun entry => by
      rw [hmem, hcollected.mem_iff]
    have hnodup : byGeneration.Nodup := hcollected.distinct.imp fun hne hab => hne (congrArg (·.2.generation) hab)
    have hperm : chain.rotations.Perm byGeneration := (perm_ext_iff_of_nodup hlinked.nodup hnodup).mpr hsame
    refine ⟨(), hhex, (), hbound, byGeneration, hcollect, chain.rotations, ⟨hperm.length_eq, ?_⟩, rfl⟩
    intro i entry hentry
    obtain ⟨hgeneration, hfollows⟩ := hlinked i entry hentry
    refine ⟨?_, hfollows⟩
    rw [← hgeneration]
    exact find?_generation hcollected.distinct ((hsame entry).mp (mem_of_getElem? hentry))

/-! ## The key in office -/

/-- The key that takes office with the `k`-th rotation of a chain, and the provider's own before the first. -/
def MktProviderKeyChain.keyOf (chain : MktProviderKeyChain) (k : Nat) : String :=
  match (chain.rotations.take k).getLast? with
  | some rotation => rotation.2.newPubkey
  | none => chain.providerId

/-- The time in which the `k`-th key is in office: from its own effective time up to the next one. -/
def MktProviderKeyChain.Tenure (chain : MktProviderKeyChain) (k time : Nat) : Prop :=
  k ≤ chain.rotations.length ∧
    (∀ own, (chain.rotations.take k).getLast? = some own → own.2.effectiveAt ≤ time) ∧
    ∀ next, chain.rotations[k]? = some next → time < next.2.effectiveAt

theorem Linked.increasing (h : Linked providerId rotations) :
    rotations.Pairwise fun a b => a.2.effectiveAt < b.2.effectiveAt := by
  apply List.IsChain.pairwise
  rw [isChain_iff_getElem]
  intro i hi
  obtain ⟨-, hfollows⟩ := h (i + 1) _ (getElem?_eq_getElem hi)
  rw [getLast?_take, getElem?_eq_getElem (by omega)] at hfollows
  exact hfollows.2.2

section Tenure

variable {k k' time : Nat} (hincreasing : chain.rotations.Pairwise fun a b => a.2.effectiveAt < b.2.effectiveAt)
include hincreasing

/-- While a key is in office, the rotations up to its own are in effect and the later ones are not. -/
theorem MktProviderKeyChain.Tenure.split (h : chain.Tenure k time) :
    (∀ entry ∈ chain.rotations.take k, entry.2.effectiveAt ≤ time) ∧
      ∀ entry ∈ chain.rotations.drop k, time < entry.2.effectiveAt := by
  obtain ⟨-, hown, hnext⟩ := h
  constructor
  · intro entry hentry
    rcases eq_nil_or_concat' (chain.rotations.take k) with htake | ⟨before, own, htake⟩
    · rw [htake] at hentry
      exact absurd hentry not_mem_nil
    · have hle := hown own (by simp [htake])
      have hsorted := hincreasing.sublist (take_sublist k _)
      rw [htake, pairwise_append] at hsorted
      rw [htake, mem_append, mem_singleton] at hentry
      rcases hentry with hentry | rfl
      · exact (hsorted.2.2 entry hentry own (mem_singleton_self _)).le.trans hle
      · exact hle
  · intro entry hentry
    cases hdrop : chain.rotations.drop k with
    | nil =>
      rw [hdrop] at hentry
      exact absurd hentry not_mem_nil
    | cons next rest =>
      have hlt := hnext next (by rw [← head?_drop, hdrop, head?_cons])
      have hsorted := hincreasing.sublist (drop_sublist k _)
      rw [hdrop, pairwise_cons] at hsorted
      rw [hdrop] at hentry
      rcases mem_cons.mp hentry with rfl | hentry
      · exact hlt
      · exact hlt.trans (hsorted.1 entry hentry)

theorem MktProviderKeyChain.Tenure.activePubkeyAt (h : chain.Tenure k time) :
    chain.activePubkeyAt time = chain.keyOf k := by
  obtain ⟨hbefore, hafter⟩ := h.split hincreasing
  have hlate : (chain.rotations.drop k).reverse.find? (fun entry => entry.2.effectiveAt ≤ time) = none := by
    rw [find?_eq_none]
    intro entry hentry
    simpa using hafter entry (mem_reverse.mp hentry)
  have hearly : (chain.rotations.take k).reverse.find? (fun entry => entry.2.effectiveAt ≤ time) =
      (chain.rotations.take k).getLast? := by
    rw [← head?_reverse, ← head?_filter, filter_eq_self.mpr]
    intro entry hentry
    simpa using hbefore entry (mem_reverse.mp hentry)
  unfold MktProviderKeyChain.activePubkeyAt MktProviderKeyChain.keyOf
  rw [← take_append_drop k chain.rotations, reverse_append, find?_append, hlate, Option.none_or, hearly,
    take_append_drop]

theorem MktProviderKeyChain.Tenure.not_lt (h : chain.Tenure k time) (h' : chain.Tenure k' time) : ¬ k < k' := by
  intro hlt
  -- the rotation after the earlier tenure is in effect in the later one
  have hk : k < chain.rotations.length := hlt.trans_le h'.1
  have hafter := h.2.2 chain.rotations[k] (getElem?_eq_getElem hk)
  have hbefore := (h'.split hincreasing).1 chain.rotations[k] (mem_take_iff_getElem.mpr ⟨k, by omega, rfl⟩)
  omega

/-- **Every time belongs to exactly one key of a chain.** -/
theorem MktProviderKeyChain.existsUnique_tenure (time : Nat) : ∃! k, chain.Tenure k time := by
  obtain ⟨k, hk⟩ : ∃ k, chain.Tenure k time := by
    -- the rotations in effect are the first ones: their number is the key's
    set inEffect := fun entry : Rotation => decide (entry.2.effectiveAt ≤ time)
    refine ⟨(chain.rotations.takeWhile inEffect).length, (takeWhile_sublist _).length_le, ?_, ?_⟩
    · intro own hown
      rw [← prefix_iff_eq_take.mp ( takeWhile_prefix inEffect)] at hown
      simpa [inEffect] using mem_takeWhile_imp (mem_of_getLast? hown)
    · intro next hnext
      have hsplit := congrArg (·[(chain.rotations.takeWhile inEffect).length]?)
        (takeWhile_append_dropWhile (p := inEffect) (l := chain.rotations))
      simp only [getElem?_append_right le_rfl, Nat.sub_self, hnext] at hsplit
      have hfalse := head?_dropWhile_not inEffect chain.rotations
      rw [head?_eq_getElem?, hsplit] at hfalse
      simpa [inEffect] using hfalse
  refine ⟨k, hk, fun k' hk' => ?_⟩
  have hle := not_lt.mp (hk.not_lt hincreasing hk')
  have hge := not_lt.mp (hk'.not_lt hincreasing hk)
  omega

end Tenure

/-! ## The chain of a set of events -/

theorem readRotation_eq_ok {rotation : MktKeyRotation} :
    readRotation env providerId event = .ok rotation ↔
      env.validateSigned event = .ok () ∧ validateMktKeyRotationEvent env event = .ok rotation ∧
        rotation.providerId = providerId := by
  simp only [readRotation, validateNetworkSignature, networkChecked, bind_eq_ok, mapError_eq_ok, explained_eq_ok,
    failIf_eq_ok, not_not, pure_eq_ok]
  constructor
  · rintro ⟨_, hsigned, found, hfound, _, hprovider, rfl⟩
    exact ⟨hsigned, hfound, hprovider⟩
  · rintro ⟨hsigned, hfound, hprovider⟩
    exact ⟨(), hsigned, rotation, hfound, (), hprovider, rfl⟩

/-- A collection that is accepted is accepted with the same chain in any order and with any repetitions, as long as
    it stays within the bound on its length. -/
theorem verifyMktKeyRotationChain_of_same_events {events' : List Event}
    (hsame : ∀ event, event ∈ events ↔ event ∈ events') (hbound : events'.length ≤ mktNetworkMaxChainGenerations)
    (h : verifyMktKeyRotationChain env providerId events = .ok chain) :
    verifyMktKeyRotationChain env providerId events' = .ok chain := by
  obtain ⟨hhex, -, hprovider, hlinked, hreadable, hmem⟩ := verifyMktKeyRotationChain_eq_ok.mp h
  refine verifyMktKeyRotationChain_eq_ok.mpr ⟨hhex, hbound, hprovider, hlinked, ?_, ?_⟩
  · exact fun event hevent => hreadable event ((hsame event).mpr hevent)
  · intro entry
    rw [hmem, Supplied, Supplied, hsame]

/-- A collection's chain begins the chain of every larger collection. -/
theorem rotations_isPrefix {larger : List Event} {whole : MktProviderKeyChain}
    (hsubset : ∀ event ∈ events, event ∈ larger) (h : verifyMktKeyRotationChain env providerId events = .ok chain)
    (hwhole : verifyMktKeyRotationChain env providerId larger = .ok whole) : chain.rotations <+: whole.rotations := by
  obtain ⟨-, -, -, hlinked, -, hmem⟩ := verifyMktKeyRotationChain_eq_ok.mp h
  obtain ⟨-, -, -, hlinked', -, hmem'⟩ := verifyMktKeyRotationChain_eq_ok.mp hwhole
  refine hlinked.isPrefix hlinked' fun entry hentry => ?_
  obtain ⟨hevent, hread⟩ := (hmem entry).mp hentry
  exact (hmem' entry).mpr ⟨hsubset _ hevent, hread⟩

end Validation

/-- **Key rotation chains.** Within the bound of 64 supplied events, whether a collection is accepted and with which
    chain depends only on the set of its events. An accepted chain holds exactly the supplied events, as generations
    `1..n`, each tied to its predecessor and signed by the key it replaces; its effective times increase, so every
    time belongs to exactly one of its keys, which is the active one. A larger collection never redirects a chain:
    of two chains whose union is accepted, one begins the other. -/
theorem rotation_chain_determined (env : NetworkEnv) (providerId : String) :
    (∀ events events' : List Event, events.length ≤ mktNetworkMaxChainGenerations →
      events'.length ≤ mktNetworkMaxChainGenerations → (∀ event, event ∈ events ↔ event ∈ events') →
      ∀ chain, verifyMktKeyRotationChain env providerId events = .ok chain ↔
        verifyMktKeyRotationChain env providerId events' = .ok chain) ∧
    (∀ events chain, verifyMktKeyRotationChain env providerId events = .ok chain →
      chain.providerId = providerId ∧
        (∀ event, event ∈ events ↔ event ∈ chain.rotations.map Prod.fst) ∧
        chain.rotations.map (·.2.generation) = List.range' 1 chain.rotations.length ∧
        Linked providerId chain.rotations ∧
        (∀ entry ∈ chain.rotations, env.validateSigned entry.1 = .ok () ∧
          validateMktKeyRotationEvent env entry.1 = .ok entry.2 ∧ entry.1.pubkey = entry.2.oldPubkey) ∧
        (chain.rotations.Pairwise fun a b => a.2.effectiveAt < b.2.effectiveAt) ∧
        (∀ time, ∃! k, chain.Tenure k time) ∧
        ∀ k time, chain.Tenure k time → chain.activePubkeyAt time = chain.keyOf k) ∧
    ∀ events events' union chain chain' whole, (∀ event, event ∈ union ↔ event ∈ events ∨ event ∈ events') →
      verifyMktKeyRotationChain env providerId events = .ok chain →
      verifyMktKeyRotationChain env providerId events' = .ok chain' →
      verifyMktKeyRotationChain env providerId union = .ok whole →
      chain.rotations <+: chain'.rotations ∨ chain'.rotations <+: chain.rotations := by
  refine ⟨?_, ?_, ?_⟩
  · intro events events' hbound hbound' hsame chain
    exact ⟨verifyMktKeyRotationChain_of_same_events hsame hbound',
      verifyMktKeyRotationChain_of_same_events (fun event => (hsame event).symm) hbound⟩
  · intro events chain h
    obtain ⟨-, -, hprovider, hlinked, hreadable, hmem⟩ := verifyMktKeyRotationChain_eq_ok.mp h
    refine ⟨hprovider, fun event => ⟨fun hevent => ?_, fun hevent => ?_⟩, hlinked.generations, hlinked, ?_,
      hlinked.increasing, MktProviderKeyChain.existsUnique_tenure hlinked.increasing,
      fun k time htenure => htenure.activePubkeyAt hlinked.increasing⟩
    · obtain ⟨rotation, hread⟩ := hreadable event hevent
      exact List.mem_map.mpr ⟨(event, rotation), (hmem _).mpr ⟨hevent, hread⟩, rfl⟩
    · obtain ⟨entry, hentry, rfl⟩ := List.mem_map.mp hevent
      exact ((hmem entry).mp hentry).1
    · intro entry hentry
      obtain ⟨hsigned, hvalid, -⟩ := readRotation_eq_ok.mp ((hmem entry).mp hentry).2
      exact ⟨hsigned, hvalid, (validateMktKeyRotationEvent_author env hvalid).1⟩
  · intro events events' union chain chain' whole hunion h h' hwhole
    exact List.prefix_or_prefix_of_prefix
      (rotations_isPrefix (fun event hevent => (hunion event).mpr (.inl hevent)) h hwhole)
      (rotations_isPrefix (fun event hevent => (hunion event).mpr (.inr hevent)) h' hwhole)

/-! ### One rotation -/

def demoProvider : String := "4d4b6cd1361032ca9bd2aeb9d900aa4d45d9ead80ac9423374c451a7254d0766"

def demoSuccessor : String := "531fe6068134503d2723133227c867ac8fa6c83c537e9a44c3c5bdbdcb1fe337"

def demoRotation : MktKeyRotation where
  schema := "openagents.mkt.key-rotation.v1"
  version := 1
  rotationId := "f46388d1376ad720e46702d56099bfb980932c194a0c5593de91797232337da1"
  providerId := demoProvider
  generation := 1
  previousRotationEventId := none
  oldPubkey := demoProvider
  newPubkey := demoSuccessor
  effectiveAt := 1095

def demoRotationEvent : Event where
  id := "4fb32f4efc14d2c8f57b378ece1e9e6c246f9c55548defab394d5ca90b6fefd7"
  pubkey := demoProvider
  createdAt := 1050
  kind := 39614
  tags := [["d", demoRotation.rotationId], ["provider", demoProvider], ["generation", "1"], ["effective_at", "1095"],
    ["alt", "MKT Provider Key Rotation"], ["p", demoSuccessor, "", "successor"]]
  content :=
    "\x7b\"effective_at\":1095,\"generation\":1,\"new_pubkey\":\"531fe6068134503d2723133227c867ac8fa6c83c537" ++
    "e9a44c3c5bdbdcb1fe337\",\"old_pubkey\":\"4d4b6cd1361032ca9bd2aeb9d900aa4d45d9ead80ac9423374c451a7254d07" ++
    "66\",\"previous_rotation_event_id\":null,\"provider_id\":\"4d4b6cd1361032ca9bd2aeb9d900aa4d45d9ead80ac9" ++
    "423374c451a7254d0766\",\"rotation_id\":\"f46388d1376ad720e46702d56099bfb980932c194a0c5593de91797232337d" ++
    "a1\",\"schema\":\"openagents.mkt.key-rotation.v1\",\"version\":1\x7d"
  sig := "60bfb5e6b1485c08883bd5b65a50f27f03ee4ddc2f6abfef4988dac6dfe58ddf" ++
    "084d4f64431fd8a6531bbedf47dcd2f358b92178d401f28a09140f2e1a7ad551"

/-- An environment that knows one signed event, its content and the digest of its content. -/
def demoNetwork : NetworkEnv where
  validateCrypto event := if event = demoRotationEvent then .ok () else .error .invalidSignature
  computedId _ := .ok demoRotationEvent.id
  validateMktPrivate _ := .error ⟨.invalidKind, "event kind is outside the private NIP-MKT range"⟩
  parseUniqueJson content subject :=
    if content = demoRotationEvent.content then .ok (.object demoRotation.members)
    else .error (subject ++ " is invalid JSON")
  jsonText _ := demoRotationEvent.content
  sha256 _ := Bitcoin.beBytes32 0xf46388d1376ad720e46702d56099bfb980932c194a0c5593de91797232337da1
  rotationOfValue value :=
    if value = .object demoRotation.members then .ok demoRotation else .error "unknown field"

def demoKeyChain : MktProviderKeyChain := ⟨demoProvider, [(demoRotationEvent, demoRotation)]⟩

theorem demoKeyChain_verified :
    verifyMktKeyRotationChain demoNetwork demoProvider [demoRotationEvent] = .ok demoKeyChain := by
  decide +kernel

/-- Repetition beyond the bound is refused: 65 copies of an event that is accepted alone. -/
theorem repeated_rotation_refused :
    verifyMktKeyRotationChain demoNetwork demoProvider [demoRotationEvent] = .ok demoKeyChain ∧
      verifyMktKeyRotationChain demoNetwork demoProvider (List.replicate 65 demoRotationEvent) =
        .error ⟨.invalid, "rotation chain exceeds 64 supplied events"⟩ :=
  ⟨demoKeyChain_verified, by decide +kernel⟩

theorem rotation_chain_determined_demo :
    verifyMktKeyRotationChain demoNetwork demoProvider [demoRotationEvent, demoRotationEvent] = .ok demoKeyChain ∧
      demoKeyChain.activePubkeyAt 1094 = demoProvider ∧ demoKeyChain.activePubkeyAt 1095 = demoSuccessor := by
  obtain ⟨hsame, haccepted, -⟩ := rotation_chain_determined demoNetwork demoProvider
  obtain ⟨-, -, -, -, -, -, -, hactive⟩ := haccepted _ _ demoKeyChain_verified
  refine ⟨?_, ?_, ?_⟩
  · exact (hsame [demoRotationEvent] _ (by decide) (by decide) (by simp) demoKeyChain).mp demoKeyChain_verified
  · exact hactive 0 1094 (by simp [MktProviderKeyChain.Tenure, demoKeyChain, demoRotation])
  · exact hactive 1 1095 (by simp [MktProviderKeyChain.Tenure, demoKeyChain, demoRotation])

end Immortal.Market
