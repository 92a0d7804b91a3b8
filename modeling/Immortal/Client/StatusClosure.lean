import Immortal.Client.StatusProjection

/-!
# `Immortal.Client.StatusClosure` — when the valid Status claims rest on valid ones

A Status may rest on a Status of the counterparty, which stands on its own stream, which may rest on the first
signer again. Which claims are valid is thus a fixed point, but `StatusProjection::from_records` computes it in
one pass: the first signer in key order is judged by the claims filed before the pass (`round 1`), the second
one by those and the first signer's (`round 2`). `valid_iff` says so, for either order of the signers.

The projection is then closed under its dependencies, and independent of the order of the keys, exactly when the
second round takes back nothing the first one granted (`DependenciesSettled`). It can take something back: a
claim of the first signer may rest on a claim whose own dependency fails only when its turn comes.
-/

namespace Immortal.Client

open Txn Immortal.Bitcoin List

/-! ## Streams -/

section Streams

variable {entries : List StatusEntry} {author : String} {sequence bound : Nat} {entry : StatusEntry}

@[simp] theorem mem_statusesAt :
    entry ∈ statusesAt entries author sequence ↔
      entry ∈ entries ∧ entry.author = author ∧ entry.sequence = sequence := by
  simp [statusesAt]

@[simp] theorem mem_streamKeys :
    sequence ∈ streamKeys entries author ↔ ∃ entry ∈ entries, entry.author = author ∧ entry.sequence = sequence := by
  simp [streamKeys, and_assoc]

/-- The one Status at a place is of that place. -/
theorem of_statusesAt_eq (h : statusesAt entries author sequence = [entry]) :
    entry ∈ entries ∧ entry.author = author ∧ entry.sequence = sequence :=
  mem_statusesAt.mp (by simp [h])

theorem streamKeys_sorted (entries : List StatusEntry) (author : String) :
    (streamKeys entries author).Pairwise (· < ·) := by
  have hle : (streamKeys entries author).Pairwise (· ≤ ·) := pairwise_insertionSort (· ≤ ·) _
  have hne : (streamKeys entries author).Nodup :=
    (perm_insertionSort (· ≤ ·) _).nodup_iff.mpr (nodup_dedup _)
  exact (hle.and hne).imp fun ⟨h, hne⟩ => lt_of_le_of_ne h hne

theorem mem_streamEntries : entry ∈ streamEntries entries author ↔ entry ∈ entries ∧ entry.author = author := by
  simp only [streamEntries, mem_flatMap, mem_streamKeys, mem_statusesAt]
  constructor
  · rintro ⟨_, _, hmem, hauthor, _⟩
    exact ⟨hmem, hauthor⟩
  · rintro ⟨hmem, hauthor⟩
    exact ⟨entry.sequence, ⟨entry, hmem, hauthor, rfl⟩, hmem, hauthor, rfl⟩

/-- The Status at a sequence is there, alone and not invalid. -/
def CleanAt (entries : List StatusEntry) (invalid : StatusEntry → Bool) (author : String) (sequence : Nat) : Prop :=
  ∃ entry, statusesAt entries author sequence = [entry] ∧ invalid entry = false

variable {invalid : StatusEntry → Bool}

theorem cleanUpTo_iff :
    cleanUpTo entries invalid author bound = true ↔ ∀ sequence < bound, CleanAt entries invalid author sequence := by
  simp only [cleanUpTo, all_eq_true, mem_range]
  refine forall₂_congr fun sequence _ => ?_
  unfold CleanAt
  split
  · rename_i entry h
    simp [h]
  · rename_i h
    simp only [Bool.false_eq_true, false_iff, not_exists, not_and]
    intro entry hentry
    exact absurd hentry (h entry)

theorem cleanUpTo_succ :
    cleanUpTo entries invalid author (bound + 1) = true ↔
      cleanUpTo entries invalid author bound = true ∧ CleanAt entries invalid author bound := by
  simp only [cleanUpTo_iff]
  constructor
  · intro h
    exact ⟨fun sequence hlt => h sequence (by omega), h bound (by omega)⟩
  · rintro ⟨h, hbound⟩ sequence hlt
    rcases Nat.lt_succ_iff_lt_or_eq.mp hlt with hlt | rfl
    · exact h sequence hlt
    · exact hbound

theorem cleanUpTo_mono {bound' : Nat} (hle : bound' ≤ bound) (h : cleanUpTo entries invalid author bound = true) :
    cleanUpTo entries invalid author bound' = true := by
  rw [cleanUpTo_iff] at h ⊢
  intro sequence hlt
  exact h sequence (by omega)

variable {invalid' : StatusEntry → Bool}

/-- Only the signer's own Statuses matter. -/
theorem cleanUpTo_congr
    (h : ∀ entry ∈ entries, entry.author = author → invalid entry = invalid' entry) :
    cleanUpTo entries invalid author bound = cleanUpTo entries invalid' author bound := by
  rw [Bool.eq_iff_iff, cleanUpTo_iff, cleanUpTo_iff]
  refine forall₂_congr fun sequence _ => exists_congr fun entry => and_congr_right fun hentry => ?_
  obtain ⟨hmem, hauthor, -⟩ := of_statusesAt_eq hentry
  rw [h entry hmem hauthor]

/-- A clean stream up to a Status holds that Status, alone and not invalid. -/
theorem not_invalid_of_clean (hmem : entry ∈ entries)
    (h : cleanUpTo entries invalid entry.author (entry.sequence + 1) = true) :
    statusesAt entries entry.author entry.sequence = [entry] ∧ invalid entry = false := by
  obtain ⟨-, other, hother, hvalid⟩ := cleanUpTo_succ.mp h
  have hself : entry ∈ statusesAt entries entry.author entry.sequence := mem_statusesAt.mpr ⟨hmem, rfl, rfl⟩
  rw [hother, mem_singleton] at hself
  rw [hself]
  exact ⟨by rw [← hself, hother, hself], hvalid⟩

theorem cleanUpTo_antitone
    (h : ∀ entry ∈ entries, entry.author = author → invalid entry = true → invalid' entry = true)
    (hclean : cleanUpTo entries invalid' author bound = true) : cleanUpTo entries invalid author bound = true := by
  rw [cleanUpTo_iff] at hclean ⊢
  intro sequence hlt
  obtain ⟨entry, hentry, hvalid⟩ := hclean sequence hlt
  obtain ⟨hmem, hauthor, -⟩ := of_statusesAt_eq hentry
  refine ⟨entry, hentry, ?_⟩
  by_contra hinvalid
  rw [Bool.not_eq_false] at hinvalid
  simp [h entry hmem hauthor hinvalid] at hvalid

end Streams

/-! ## Rounds -/

section Rounds

variable (swapType : SwapType) (entries : List StatusEntry)

/-- What a Status is at fault for by its own body and its place in its stream. -/
def recordFault (entry : StatusEntry) : Bool := !entry.faults.isEmpty || (linkFault entries swapType entry).isSome

/-- The Statuses at fault after this many rounds of the dependency check. -/
def round : Nat → StatusEntry → Bool
  | 0, entry => recordFault swapType entries entry
  | n + 1, entry => recordFault swapType entries entry || (dependencyFault entries swapType (round n) entry).isSome

/-- The stream of a Status holds up to it after this many rounds. -/
def holdsAfter (n : Nat) (entry : StatusEntry) : Bool :=
  cleanUpTo entries (round swapType entries n) entry.author (entry.sequence + 1)

/-- Every Status that holds after one round rests on a Status that holds after two. -/
def DependenciesSettled : Prop :=
  ∀ entry ∈ entries, ∀ required, holdsAfter swapType entries 1 entry = true →
    dependencyOf entries swapType entry = .ok (some required) → holdsAfter swapType entries 2 required = true

end Rounds

/-! ## What reading guarantees -/

/-- Facts of the Statuses `collectStatuses` returns. The ids are those of signed records, so no two different
    records share one. -/
structure WellRead (entries : List StatusEntry) : Prop where
  ids : ∀ entry ∈ entries, ∀ other ∈ entries, entry.id = other.id → entry = other
  roles : ∀ entry ∈ entries, ∀ other ∈ entries, entry.author = other.author → entry.role = other.role
  bounded : ∀ entry ∈ entries, entry.sequence ≤ maxStatusSequence

/-- No two different records have the same id, which is the digest of what a record says. -/
def IdsIdentify (records : List Record) : Prop :=
  ∀ record ∈ records, ∀ other ∈ records, record.id = other.id → record = other

variable {config : ClientConfig} {records : List Record} {musig : MusigRules} {swapType : SwapType}
  {entry : StatusEntry}

theorem readStatus_ok {record : Record}
    (h : readStatus musig config records swapType record = .ok entry) :
    entry.record = record ∧ roleForAuthor config record.pubkey = .ok entry.role ∧
      entry.sequence ≤ maxStatusSequence := by
  simp only [readStatus, bind_eq_ok, pure_eq_ok] at h
  obtain ⟨_, _, sequence, _, _, hbound, role, hrole, _, _, _, _, _, _, _, _, _, _, _, _, rfl⟩ := h
  exact ⟨rfl, hrole, by simpa using hbound⟩

variable {entries : List StatusEntry}

theorem collectStatuses_mem
    (h : collectStatuses musig config records swapType = .ok entries) (hentry : entry ∈ entries) :
    entry.record ∈ records ∧ readStatus musig config records swapType entry.record = .ok entry := by
  obtain ⟨record, hrecord, hread⟩ := mapM_ok_mem h entry hentry
  obtain ⟨rfl, -⟩ := readStatus_ok hread
  exact ⟨(mem_filter.mp hrecord).1, hread⟩

theorem wellRead (h : collectStatuses musig config records swapType = .ok entries)
    (hids : IdsIdentify records) : WellRead entries where
  ids entry hentry other hother heq := by
    obtain ⟨hrecord, hread⟩ := collectStatuses_mem h hentry
    obtain ⟨hrecord', hread'⟩ := collectStatuses_mem h hother
    rw [hids _ hrecord _ hrecord' heq, hread'] at hread
    exact (Except.ok.inj hread).symm
  roles entry hentry other hother heq := by
    obtain ⟨-, hrole, -⟩ := readStatus_ok (collectStatuses_mem h hentry).2
    obtain ⟨-, hrole', -⟩ := readStatus_ok (collectStatuses_mem h hother).2
    have hsame : entry.record.pubkey = other.record.pubkey := heq
    rw [hsame, hrole'] at hrole
    exact (Except.ok.inj hrole).symm
  bounded entry hentry := (readStatus_ok (collectStatuses_mem h hentry).2).2.2

/-! ## The passes as sets of claims -/

section Passes

variable {entries : List StatusEntry} {entry : StatusEntry}

/-- A pass whose steps file what does not depend on the claims. -/
theorem foldl_contains {α : Type} {step : Claims → α → Claims} {files : α → String → Prop}
    (hstep : ∀ claims item id, (step claims item).contains id = true ↔ claims.contains id = true ∨ files item id)
    (visited : List α) (claims : Claims) (id : String) :
    (visited.foldl step claims).contains id = true ↔ claims.contains id = true ∨ ∃ item ∈ visited, files item id := by
  induction visited generalizing claims with
  | nil => simp
  | cons first rest ih =>
    rw [foldl_cons, ih, hstep]
    simp only [mem_cons, exists_eq_or_imp, or_assoc]

theorem bodyClaims_contains (id : String) :
    (bodyClaims entries).contains id = true ↔ ∃ entry ∈ entries, entry.faults ≠ [] ∧ entry.id = id := by
  have hfaults : ∀ (claims : Claims) (entry : StatusEntry) (other : String),
      (entry.faults.foldl (fun claims fault => claims.insert entry.id fault) claims).contains other = true ↔
        claims.contains other = true ∨ (entry.faults ≠ [] ∧ entry.id = other) := by
    intro claims entry other
    have hinsert : ∀ (claims : Claims) (fault other : String),
        (claims.insert entry.id fault).contains other = true ↔ claims.contains other = true ∨ entry.id = other := by
      simp [or_comm]
    rw [foldl_contains hinsert, ← isEmpty_eq_false_iff, isEmpty_eq_false_iff_exists_mem]
    simp
  exact (foldl_contains hfaults entries [] id).trans (by simp)

theorem linkClaims_contains (order : List String) (claims : Claims) (id : String) :
    (order.foldl (linkClaims entries swapType) claims).contains id = true ↔
      claims.contains id = true ∨
        ∃ entry ∈ entries, entry.author ∈ order ∧ (linkFault entries swapType entry).isSome = true ∧ entry.id = id := by
  have hfile : ∀ (claims : Claims) (entry : StatusEntry) (id : String),
      (claims.file entry.id (linkFault entries swapType entry)).contains id = true ↔ claims.contains id = true ∨
        ((linkFault entries swapType entry).isSome = true ∧ entry.id = id) := by
    simp [or_comm]
  have hlink : ∀ (claims : Claims) (author id : String),
      (linkClaims entries swapType claims author).contains id = true ↔ claims.contains id = true ∨
        ∃ entry ∈ streamEntries entries author, (linkFault entries swapType entry).isSome = true ∧ entry.id = id :=
    fun claims author id => foldl_contains hfile _ claims id
  rw [foldl_contains hlink]
  refine or_congr_right ⟨?_, ?_⟩
  · rintro ⟨author, horder, entry, hentry, hfault⟩
    obtain ⟨hmem, rfl⟩ := mem_streamEntries.mp hentry
    exact ⟨entry, hmem, horder, hfault⟩
  · rintro ⟨entry, hmem, horder, hfault⟩
    exact ⟨entry.author, horder, entry, mem_streamEntries.mpr ⟨hmem, rfl⟩, hfault⟩

/-- **Before the dependency pass** a Status is filed under exactly its own faults. -/
theorem recordClaims_contains (hread : WellRead entries) {order : List String} (horder : entry.author ∈ order)
    (hmem : entry ∈ entries) :
    (order.foldl (linkClaims entries swapType) (bodyClaims entries)).contains entry.id =
      recordFault swapType entries entry := by
  rw [Bool.eq_iff_iff, linkClaims_contains, bodyClaims_contains]
  simp only [recordFault, Bool.or_eq_true, Bool.not_eq_true', isEmpty_eq_false_iff]
  constructor
  · rintro (⟨other, hother, hfaults, hid⟩ | ⟨other, hother, -, hfault, hid⟩)
    · rw [hread.ids other hother entry hmem hid] at hfaults
      exact .inl hfaults
    · rw [hread.ids other hother entry hmem hid] at hfault
      exact .inr hfault
  · rintro (hfaults | hfault)
    · exact .inl ⟨entry, hmem, hfaults, rfl⟩
    · exact .inr ⟨entry, hmem, horder, hfault, rfl⟩

/-- What a resolved dependency is: the one Status an entry refers to, of the role and state its own state asks
    for. -/
structure RestsOn (swapType : SwapType) (entries : List StatusEntry) (entry required : StatusEntry) : Prop where
  prerequisite : crossParticipantStatusPrerequisite swapType entry.role entry.state = some (required.role, required.state)
  reference : (markedTags entry.record "status").map (·[1]?) = [some required.id]
  unique : entries.filter (·.id = required.id) = [required]

variable {required : StatusEntry}

theorem RestsOn.mem (h : RestsOn swapType entries entry required) : required ∈ entries := by
  have hfiltered : required ∈ entries.filter (·.id = required.id) := by
    rw [h.unique]
    exact mem_singleton_self required
  exact (mem_filter.mp hfiltered).1

theorem dependencyOf_restsOn (h : dependencyOf entries swapType entry = .ok (some required)) :
    RestsOn swapType entries entry required := by
  unfold dependencyOf at h
  split at h <;> try cases h
  rename_i requiredRole requiredState reference hprerequisite hreferences
  split at h <;> try cases h
  rename_i referenceId hreference
  split at h <;> try cases h
  rename_i only hmatching
  split at h <;> cases h
  rename_i hrequired
  have hid : required.id = referenceId := by
    have hfiltered : required ∈ entries.filter (·.id = referenceId) := by
      rw [hmatching]
      exact mem_singleton_self required
    simpa using (mem_filter.mp hfiltered).2
  refine ⟨?_, ?_, ?_⟩
  · rw [hprerequisite, hrequired.1, hrequired.2]
  · rw [hreferences, map_singleton, hreference, hid]
  · rw [hid, hmatching]

theorem dependencyOf_none (h : dependencyOf entries swapType entry = .ok none) :
    crossParticipantStatusPrerequisite swapType entry.role entry.state = none := by
  unfold dependencyOf at h
  split at h
  · assumption
  · cases h
  · split at h
    · cases h
    · split at h
      · split at h <;> cases h
      · cases h
  · cases h

/-- A dependency is a Status of another signer. -/
theorem dependencyOf_author (hread : WellRead entries) (hmem : entry ∈ entries)
    (h : dependencyOf entries swapType entry = .ok (some required)) :
    required ∈ entries ∧ required.author ≠ entry.author := by
  have hrests := dependencyOf_restsOn h
  refine ⟨hrests.mem, fun hauthor => ?_⟩
  apply prerequisite_other_role hrests.prerequisite
  exact hread.roles required hrests.mem entry hmem hauthor

variable {invalid : StatusEntry → Bool}

/-- The dependency check of a Status reads only claims against other signers. -/
theorem dependencyFault_congr (hread : WellRead entries) (hmem : entry ∈ entries)
    (h : ∀ other ∈ entries, other.author ≠ entry.author → invalid other = invalid' other) :
    dependencyFault entries swapType invalid entry = dependencyFault entries swapType invalid' entry := by
  unfold dependencyFault
  cases hdependency : dependencyOf entries swapType entry with
  | error claim => rfl
  | ok dependency =>
    cases dependency with
    | none => rfl
    | some required =>
      obtain ⟨hrequired, hauthor⟩ := dependencyOf_author hread hmem hdependency
      have hclean : cleanUpTo entries invalid required.author (required.sequence + 1) =
          cleanUpTo entries invalid' required.author (required.sequence + 1) :=
        cleanUpTo_congr fun other hother hsame => h other hother (hsame ▸ hauthor)
      simp only [h required hrequired hauthor, hclean]

/-- **The dependency pass over one signer** judges each of its Statuses by the claims it starts with. -/
theorem dependencyClaims_contains (hread : WellRead entries) (claims : Claims) (author : String)
    (hmem : entry ∈ entries) :
    (dependencyClaims entries swapType claims author).contains entry.id =
      (claims.contains entry.id || (decide (entry.author = author) &&
        (dependencyFault entries swapType (fun other => claims.contains other.id) entry).isSome)) := by
  -- the claims the pass has reached agree with those it started from outside of this signer
  have general : ∀ (visited : List StatusEntry) (reached : Claims),
      (∀ other ∈ visited, other ∈ entries ∧ other.author = author) →
      (∀ other ∈ entries, other.author ≠ author → reached.contains other.id = claims.contains other.id) →
      ((visited.foldl (fun claims entry => claims.file entry.id
          (dependencyFault entries swapType (fun other => claims.contains other.id) entry)) reached).contains entry.id
        = true ↔ reached.contains entry.id = true ∨ (entry ∈ visited ∧
          (dependencyFault entries swapType (fun other => claims.contains other.id) entry).isSome = true)) := by
    intro visited
    induction visited with
    | nil => simp
    | cons first rest ih =>
      intro reached hvisited hagree
      obtain ⟨hfirst, hauthor⟩ := hvisited first mem_cons_self
      have hfault : dependencyFault entries swapType (fun other => reached.contains other.id) first =
          dependencyFault entries swapType (fun other => claims.contains other.id) first :=
        dependencyFault_congr hread hfirst fun other hother hne => hagree other hother (hauthor ▸ hne)
      rw [foldl_cons, hfault, ih]
      · rw [Claims.contains_file]
        simp only [Bool.or_eq_true, Bool.and_eq_true, decide_eq_true_eq, mem_cons]
        constructor
        · rintro ((⟨hsome, hid⟩ | hreached) | ⟨hrest, hsome⟩)
          · rw [hread.ids first hfirst entry hmem hid] at hsome
            exact .inr ⟨.inl (hread.ids entry hmem first hfirst hid.symm), hsome⟩
          · exact .inl hreached
          · exact .inr ⟨.inr hrest, hsome⟩
        · rintro (hreached | ⟨rfl | hrest, hsome⟩)
          · exact .inl (.inr hreached)
          · exact .inl (.inl ⟨hsome, rfl⟩)
          · exact .inr ⟨hrest, hsome⟩
      · intro other hother
        exact hvisited other (.tail _ hother)
      · intro other hother hne
        have hid : first.id ≠ other.id := by
          intro hid
          apply hne
          rw [← hread.ids first hfirst other hother hid, hauthor]
        rw [Claims.contains_file, decide_eq_false hid, Bool.and_false]
        exact hagree other hother hne
  rw [Bool.eq_iff_iff, dependencyClaims, general _ claims (fun other => mem_streamEntries.mp) (fun _ _ _ => rfl),
    mem_streamEntries]
  simp only [hmem, true_and, Bool.or_eq_true, Bool.and_eq_true, decide_eq_true_eq]

/-- The signers of a session, in some order. There are at most two. -/
structure SignerOrder (entries : List StatusEntry) (order : List String) : Prop where
  nodup : order.Nodup
  signers : order.length ≤ 2
  complete : ∀ entry ∈ entries, entry.author ∈ order

/-- The round a signer's Statuses are judged by. -/
def roundOf (order : List String) (author : String) : Nat := if order.head? = some author then 1 else 2

/-- **One pass, two rounds.** After the dependency pass the first signer's Statuses are at fault as after one
    round, the second one's as after two. -/
theorem passedClaims_contains (hread : WellRead entries) {order : List String} (horder : SignerOrder entries order)
    (hmem : entry ∈ entries) :
    (passedClaims swapType entries order).contains entry.id =
      round swapType entries (roundOf order entry.author) entry := by
  have hbase : ∀ other ∈ entries,
      (order.foldl (linkClaims entries swapType) (bodyClaims entries)).contains other.id =
        round swapType entries 0 other := fun other hother =>
    recordClaims_contains hread (horder.complete other hother) hother
  unfold passedClaims
  generalize order.foldl (linkClaims entries swapType) (bodyClaims entries) = base at hbase
  obtain ⟨hnodup, hsigners, hcomplete⟩ := horder
  match order with
  | [] => exact absurd (hcomplete entry hmem) (by simp)
  | first :: rest =>
    have hfirst : ∀ other ∈ entries, (dependencyClaims entries swapType base first).contains other.id =
        round swapType entries (if other.author = first then 1 else 0) other := by
      intro other hother
      rw [dependencyClaims_contains hread base first hother, hbase other hother,
        dependencyFault_congr hread hother fun third hthird _ => hbase third hthird]
      by_cases hauthor : other.author = first
      · simp [hauthor, round]
      · simp [hauthor]
    match rest with
    | [] =>
      have hauthor : entry.author = first := by simpa using hcomplete entry hmem
      simpa [roundOf, hauthor] using hfirst entry hmem
    | [second] =>
      have hne : first ≠ second := by simpa using hnodup
      rw [foldl_cons, foldl_cons, foldl_nil, dependencyClaims_contains hread _ second hmem,
        hfirst entry hmem]
      by_cases hauthor : entry.author = first
      · simp [roundOf, hauthor, hne]
      · -- the second signer: what it rests on belongs to the first one
        have hsecond : entry.author = second := by
          rcases mem_cons.mp (hcomplete entry hmem) with h | h
          · exact absurd h hauthor
          · simpa using h
        have hfault : dependencyFault entries swapType
            (fun other => (dependencyClaims entries swapType base first).contains other.id) entry =
              dependencyFault entries swapType (round swapType entries 1) entry := by
          refine dependencyFault_congr hread hmem fun other hother hother' => ?_
          have hfirstAuthor : other.author = first := by
            rcases mem_cons.mp (hcomplete other hother) with h | h
            · exact h
            · exact absurd (by simpa [hsecond] using h) hother'
          rw [hfirst other hother, if_pos hfirstAuthor]
        simp [hfault, hsecond, roundOf, hne, hne.symm, round]
    | _ :: _ :: _ => simp at hsigners

end Passes

/-! ## The last pass -/

section LastPass

variable {entries : List StatusEntry} {author : String} {claims : Claims}

/-- The claims as a predicate on Statuses. -/
def Claims.invalid (claims : Claims) (entry : StatusEntry) : Bool := claims.contains entry.id

/-- What the loop over a stream knows after the sequences in `visited`, when it started from `claims`: whether the
    stream is clean so far, and that it has filed exactly the visited Statuses the stream is not clean up to. -/
structure Ancestry.Describes (entries : List StatusEntry) (author : String) (claims : Claims) (visited : List Nat)
    (ancestry : Ancestry) : Prop where
  valid : ancestry.ancestryValid = cleanUpTo entries claims.invalid author ancestry.expectedSequence
  filed : ∀ entry ∈ entries, ancestry.claims.contains entry.id = true ↔ claims.contains entry.id = true ∨
    (entry.author = author ∧ entry.sequence ∈ visited ∧
      cleanUpTo entries claims.invalid author (entry.sequence + 1) = false)
  last : ∀ id, ancestry.lastValid = some id → ∃ entry ∈ entries, entry.id = id ∧ entry.author = author ∧
    cleanUpTo entries claims.invalid author (entry.sequence + 1) = true

variable {sequence : Nat}

/-- The next sequence of a stream is clean up to exactly when nothing is missing before it. -/
theorem cleanUpTo_next {expected : Nat} (hle : expected ≤ sequence)
    (hgap : ∀ missing, expected ≤ missing → missing < sequence → missing ∉ streamKeys entries author) :
    cleanUpTo entries invalid author sequence =
      (cleanUpTo entries invalid author expected && decide (sequence = expected)) := by
  rw [Bool.eq_iff_iff, Bool.and_eq_true, decide_eq_true_eq]
  constructor
  · intro h
    refine ⟨cleanUpTo_mono hle h, ?_⟩
    by_contra hne
    obtain ⟨entry, hentry, -⟩ := cleanUpTo_iff.mp h expected (by omega)
    exact hgap expected le_rfl (by omega) (mem_streamKeys.mpr ⟨entry, of_statusesAt_eq hentry⟩)
  · rintro ⟨h, rfl⟩
    exact h

/-- What one iteration does, by whether the stream is clean up to and with this sequence. -/
theorem Ancestry.step_cases {ancestry : Ancestry} (hbound : sequence ≤ maxStatusSequence)
    (hvalid : (ancestry.ancestryValid && decide (sequence = ancestry.expectedSequence)) =
      cleanUpTo entries claims.invalid author sequence) (hsame : ∀ entry ∈ statusesAt entries author sequence,
      ancestry.claims.contains entry.id = claims.contains entry.id) :
    (∃ entry, statusesAt entries author sequence = [entry] ∧
      cleanUpTo entries claims.invalid author (sequence + 1) = true ∧
      ancestry.step entries author sequence = ⟨sequence + 1, true, ancestry.claims, some entry.id⟩) ∨
    (cleanUpTo entries claims.invalid author (sequence + 1) = false ∧ ∃ filed,
      ancestry.step entries author sequence = ⟨sequence + 1, false, filed, ancestry.lastValid⟩ ∧
      ∀ id, filed.contains id = true ↔
        ancestry.claims.contains id = true ∨ ∃ entry ∈ statusesAt entries author sequence, entry.id = id) := by
  have hnext : saturatingAdd sequence 1 = sequence + 1 := by
    unfold saturatingAdd
    unfold maxStatusSequence at hbound
    omega
  unfold Ancestry.step
  rw [hnext, hvalid]
  split
  · rename_i entry hentry
    rw [hsame entry (by rw [hentry]; exact mem_singleton_self entry)]
    by_cases hbroken : (!cleanUpTo entries claims.invalid author sequence || claims.contains entry.id) = true
    · -- the stream broke before, or this claim was filed before
      rw [if_pos hbroken]
      refine .inr ⟨?_, _, rfl, fun id => ?_⟩
      · rw [← Bool.not_eq_true, cleanUpTo_succ]
        rintro ⟨hclean, other, hother, hnotInvalid⟩
        rw [hentry, singleton_inj] at hother
        subst hother
        have : claims.contains entry.id = false := hnotInvalid
        simp [hclean, this] at hbroken
      · rw [hentry]
        simp [or_comm]
    · rw [if_neg hbroken]
      simp only [Bool.or_eq_true, Bool.not_eq_true', not_or, Bool.not_eq_false, Bool.not_eq_true] at hbroken
      refine .inl ⟨entry, hentry, cleanUpTo_succ.mpr ⟨hbroken.1, entry, hentry, hbroken.2⟩, ?_⟩
      rw [hbroken.1]
  · rename_i hfork
    refine .inr ⟨?_, _, rfl, fun id => foldl_contains (fun _ _ _ => by simp [or_comm]) _ _ _⟩
    rw [← Bool.not_eq_true, cleanUpTo_succ]
    rintro ⟨-, other, hother, -⟩
    exact hfork other hother

/-- **Step.** The description survives the next sequence of the stream. -/
theorem Ancestry.Describes.step (hread : WellRead entries) {visited : List Nat} {ancestry : Ancestry}
    (h : ancestry.Describes entries author claims visited) (hkey : sequence ∈ streamKeys entries author)
    (hle : ancestry.expectedSequence ≤ sequence)
    (hgap : ∀ missing, ancestry.expectedSequence ≤ missing → missing < sequence → missing ∉ streamKeys entries author)
    (hnew : sequence ∉ visited) :
    (ancestry.step entries author sequence).Describes entries author claims (sequence :: visited) ∧
      (ancestry.step entries author sequence).expectedSequence = sequence + 1 := by
  have hbound : sequence ≤ maxStatusSequence := by
    obtain ⟨entry, hmem, -, rfl⟩ := mem_streamKeys.mp hkey
    exact hread.bounded entry hmem
  have hvalid : (ancestry.ancestryValid && decide (sequence = ancestry.expectedSequence)) =
      cleanUpTo entries claims.invalid author sequence := by
    rw [cleanUpTo_next hle hgap, h.valid]
  have hsame : ∀ entry ∈ statusesAt entries author sequence,
      ancestry.claims.contains entry.id = claims.contains entry.id := by
    intro entry hentry
    obtain ⟨hmem, -, rfl⟩ := mem_statusesAt.mp hentry
    rw [Bool.eq_iff_iff, h.filed entry hmem]
    simp [hnew]
  rcases Ancestry.step_cases hbound hvalid hsame with
    ⟨entry, hentry, hclean, hstep⟩ | ⟨hbroken, filed, hstep, hfiled⟩
  · rw [hstep]
    refine ⟨⟨hclean.symm, fun other hother => ?_, fun id hid => ?_⟩, rfl⟩
    · rw [h.filed other hother]
      refine or_congr_right (and_congr_right fun _ => and_congr_left fun hdirty => ?_)
      -- the new sequence is clean, so it files nothing
      have : other.sequence ≠ sequence := by
        rintro rfl
        simp [hclean] at hdirty
      simp [this]
    · obtain ⟨hmem, hauthor, hsequence⟩ := of_statusesAt_eq hentry
      exact ⟨entry, hmem, Option.some_inj.mp hid, hauthor, hsequence ▸ hclean⟩
  · rw [hstep]
    refine ⟨⟨hbroken.symm, fun other hother => ?_, h.last⟩, rfl⟩
    rw [hfiled, h.filed other hother]
    constructor
    · rintro ((hclaims | ⟨hauthor, hvisited, hdirty⟩) | ⟨entry, hentry, hid⟩)
      · exact .inl hclaims
      · exact .inr ⟨hauthor, .tail _ hvisited, hdirty⟩
      · obtain ⟨hmem, hauthor, hsequence⟩ := mem_statusesAt.mp hentry
        rw [← hread.ids entry hmem other hother hid, hsequence]
        exact .inr ⟨hauthor, mem_cons_self, hbroken⟩
    · rintro (hclaims | ⟨hauthor, hvisited, hdirty⟩)
      · exact .inl (.inl hclaims)
      · rcases mem_cons.mp hvisited with hsequence | hvisited
        · exact .inr ⟨other, mem_statusesAt.mpr ⟨hother, hauthor, hsequence⟩, rfl⟩
        · exact .inl (.inr ⟨hauthor, hvisited, hdirty⟩)

/-- **Run.** The loop over a whole stream. -/
theorem ancestryOf_describes (hread : WellRead entries) (author : String) (claims : Claims) :
    (ancestryOf entries author claims).Describes entries author claims (streamKeys entries author) := by
  -- induction on the sequences left; those before them are visited and below the expected one
  have general : ∀ (remaining visited : List Nat) (ancestry : Ancestry),
      streamKeys entries author = visited.reverse ++ remaining →
      (∀ sequence ∈ visited, sequence < ancestry.expectedSequence) →
      (∀ sequence ∈ remaining, ancestry.expectedSequence ≤ sequence) →
      ancestry.Describes entries author claims visited →
      (remaining.foldl (Ancestry.step entries author) ancestry).Describes entries author claims
        (streamKeys entries author) := by
    intro remaining
    induction remaining with
    | nil =>
      intro visited ancestry hkeys _ _ h
      rw [append_nil] at hkeys
      rw [foldl_nil, hkeys]
      exact ⟨h.valid, fun entry hmem => by rw [h.filed entry hmem, mem_reverse], h.last⟩
    | cons sequence rest ih =>
      intro visited ancestry hkeys hbelow habove h
      have hsorted := streamKeys_sorted entries author
      rw [hkeys] at hsorted
      obtain ⟨-, hremaining, -⟩ := pairwise_append.mp hsorted
      have hrest : ∀ later ∈ rest, sequence < later := (pairwise_cons.mp hremaining).1
      have hle := habove sequence mem_cons_self
      obtain ⟨hdescribes, hexpected⟩ := h.step hread (by rw [hkeys]; simp : sequence ∈ streamKeys entries author) hle
        (by
          intro missing hfrom hto hkey
          rw [hkeys, mem_append, mem_reverse, mem_cons] at hkey
          rcases hkey with hvisited | rfl | hlater
          · have := hbelow missing hvisited
            omega
          · omega
          · have := hrest missing hlater
            omega)
        (fun hvisited => by have := hbelow sequence hvisited; omega)
      refine ih (sequence :: visited) _ ?_ ?_ ?_ hdescribes
      · rw [hkeys]
        simp
      · intro visitedSequence hvisited
        rcases mem_cons.mp hvisited with rfl | hvisited
        · omega
        · have := hbelow visitedSequence hvisited
          omega
      · intro later hlater
        rw [hexpected]
        exact hrest later hlater
  refine general (streamKeys entries author) [] ⟨0, true, claims, none⟩ rfl (by simp) (by simp) ⟨?_, ?_, ?_⟩
  · rfl
  · simp
  · simp

/-- Which Statuses one signer's last pass files. -/
theorem ancestryOf_contains (hread : WellRead entries) (hmem : entry ∈ entries) :
    (ancestryOf entries author claims).claims.contains entry.id = true ↔ claims.contains entry.id = true ∨
      (entry.author = author ∧ cleanUpTo entries claims.invalid author (entry.sequence + 1) = false) := by
  rw [(ancestryOf_describes hread author claims).filed entry hmem]
  refine or_congr_right (and_congr_right fun hauthor => and_iff_right ?_)
  exact mem_streamKeys.mpr ⟨entry, hmem, hauthor, rfl⟩

/-- The last pass of one signer leaves the other signers' streams as they are. -/
theorem cleanUpTo_ancestryOf (hread : WellRead entries) {other : String} (hne : other ≠ author) (bound : Nat) :
    cleanUpTo entries (ancestryOf entries author claims).claims.invalid other bound =
      cleanUpTo entries claims.invalid other bound := by
  refine cleanUpTo_congr fun entry hmem hauthor => ?_
  rw [Bool.eq_iff_iff]
  refine (ancestryOf_contains hread hmem).trans (or_iff_left ?_)
  rintro ⟨hsame, -⟩
  exact hne (hauthor.symm.trans hsame)

/-- The last pass over all signers, and what it records as last valid. -/
theorem lastPass (hread : WellRead entries) (order : List String) (hnodup : order.Nodup)
    (state : Claims × List (String × String)) :
    (∀ entry ∈ entries, (order.foldl (ancestryClaims entries) state).1.contains entry.id = true ↔
      state.1.contains entry.id = true ∨ (entry.author ∈ order ∧
        cleanUpTo entries state.1.invalid entry.author (entry.sequence + 1) = false)) ∧
    (∀ pair ∈ (order.foldl (ancestryClaims entries) state).2, pair ∈ state.2 ∨
      ∃ entry ∈ entries, pair = (entry.author, entry.id) ∧ entry.author ∈ order ∧
        cleanUpTo entries state.1.invalid entry.author (entry.sequence + 1) = true) := by
  induction order generalizing state with
  | nil => simp
  | cons author rest ih =>
    obtain ⟨hnotRest, hnodupRest⟩ := nodup_cons.mp hnodup
    obtain ⟨hclaims, hlast⟩ := ih hnodupRest (ancestryClaims entries state author)
    rw [foldl_cons]
    refine ⟨fun entry hmem => ?_, fun pair hpair => ?_⟩
    · rw [hclaims entry hmem]
      have hfirst : (ancestryOf entries author state.1).claims.contains entry.id = true ↔ _ :=
        ancestryOf_contains hread hmem
      by_cases hauthor : entry.author = author
      · subst hauthor
        simp only [ancestryClaims, hfirst, mem_cons, hnotRest, false_and, or_false]
      · simp only [ancestryClaims, hfirst, hauthor, false_and, or_false, mem_cons, false_or,
          cleanUpTo_ancestryOf hread hauthor]
    · rcases hlast pair hpair with hpair | ⟨entry, hmem, hpair, hauthor, hclean⟩
      · rcases mem_append.mp hpair with hpair | hpair
        · exact .inl hpair
        · -- recorded in this signer's pass
          simp only [Option.mem_toList, Option.map_eq_some_iff] at hpair
          obtain ⟨id, hid, rfl⟩ := hpair
          obtain ⟨entry, hmem, rfl, rfl, hclean⟩ := (ancestryOf_describes hread author state.1).last id hid
          exact .inr ⟨entry, hmem, rfl, mem_cons_self, hclean⟩
      · have hne : entry.author ≠ author := fun heq => hnotRest (heq ▸ hauthor)
        rw [show (ancestryClaims entries state author).1 = (ancestryOf entries author state.1).claims from rfl,
          cleanUpTo_ancestryOf hread hne] at hclean
        exact .inr ⟨entry, hmem, hpair, .tail _ hauthor, hclean⟩

end LastPass

/-! ## Closure -/

section Closure

variable {entries : List StatusEntry} {closeRecords order : List String}

/-- A Status that is not listed under the invalid claims. -/
def StatusProjection.valid (projection : StatusProjection) (entry : StatusEntry) : Bool :=
  !projection.invalidClaims.contains entry.id

variable {entry : StatusEntry}

/-- A Status has no `previous` reference at zero, and refers to its one predecessor by an allowed transition
    elsewhere. -/
def Linked (swapType : SwapType) (entries : List StatusEntry) (link : StatusEntry) : Prop :=
  (link.sequence = 0 → markedTags link.record "previous" = []) ∧
  ∀ previousSequence, link.sequence = previousSequence + 1 →
    ∃ previous, statusesAt entries link.author previousSequence = [previous] ∧
      requireMarkedReference link.record "previous" previous.id = .ok () ∧
      allowedTransition swapType previous link = true

/-- The chain of a Status: its signer's stream from zero up to it, each Status alone, valid and linked to the one
    before. -/
def OwnChain (swapType : SwapType) (entries : List StatusEntry) (projection : StatusProjection) (entry : StatusEntry) :
    Prop :=
  ∀ sequence ≤ entry.sequence, ∃ link, statusesAt entries entry.author sequence = [link] ∧
    projection.valid link = true ∧ Linked swapType entries link

/-- **Dependency closure.** Every valid Status has a chain; every Status on it that requires a Status of the
    counterparty refers to exactly one, which is valid and has a chain; and the last valid Statuses are valid. -/
structure ClosedProjection (swapType : SwapType) (entries : List StatusEntry) (projection : StatusProjection) :
    Prop where
  chain : ∀ entry ∈ entries, projection.valid entry = true → OwnChain swapType entries projection entry
  dependencies : ∀ entry ∈ entries, projection.valid entry = true →
    ∀ link ∈ entries, link.author = entry.author → link.sequence ≤ entry.sequence →
      (crossParticipantStatusPrerequisite swapType link.role link.state).isSome = true →
      ∃ required, RestsOn swapType entries link required ∧ projection.valid required = true ∧
        OwnChain swapType entries projection required
  last : ∀ pair ∈ projection.lastValidStatus,
    ∃ entry ∈ entries, pair = (entry.author, entry.id) ∧ projection.valid entry = true

theorem recordFault_of_round {n : Nat} (h : round swapType entries n entry = false) :
    recordFault swapType entries entry = false := by
  cases n with
  | zero => exact h
  | succ n => exact (Bool.or_eq_false_iff.mp h).1

/-- In a stream without gaps a Status that is not at fault is linked. -/
theorem linked_of_recordFault {link : StatusEntry} (hfault : recordFault swapType entries link = false)
    (hclean : ∀ sequence ≤ link.sequence, ∃ only, statusesAt entries link.author sequence = [only]) :
    Linked swapType entries link := by
  have hlink : linkFault entries swapType link = none := by
    simpa using (Bool.or_eq_false_iff.mp hfault).2
  -- the stream starts at zero, so its Statuses were compared with their predecessors
  have hzero : (streamKeys entries link.author).head? = some 0 := by
    obtain ⟨first, hfirst⟩ := hclean 0 (Nat.zero_le _)
    have hkey : 0 ∈ streamKeys entries link.author := mem_streamKeys.mpr ⟨first, of_statusesAt_eq hfirst⟩
    have hsorted := streamKeys_sorted entries link.author
    match hkeys : streamKeys entries link.author with
    | [] => simp [hkeys] at hkey
    | head :: rest =>
      rw [hkeys] at hkey hsorted
      rcases mem_cons.mp hkey with hhead | hrest
      · simp [hhead]
      · have := (pairwise_cons.mp hsorted).1 0 hrest
        omega
  rw [linkFault, if_neg (not_not.mpr hzero)] at hlink
  refine ⟨fun hsequence => ?_, fun previousSequence hsequence => ?_⟩
  · rw [hsequence] at hlink
    simpa using hlink
  · obtain ⟨only, honly⟩ := hclean link.sequence le_rfl
    obtain ⟨previous, hprevious⟩ := hclean previousSequence (by omega)
    rw [honly] at hlink
    rw [hsequence] at hlink
    simp only [hprevious] at hlink
    split at hlink
    · cases hlink
    · rename_i hreference
      split at hlink
      · cases hlink
      · rename_i htransition
        refine ⟨previous, hprevious, ?_, by simpa using htransition⟩
        cases hresult : requireMarkedReference link.record "previous" previous.id with
        | ok _ => rfl
        | error _ => simp [hresult, isErr, Except.toOption] at hreference

theorem holdsAfter_of_le {n : Nat} {link : StatusEntry} (hauthor : link.author = entry.author)
    (hle : link.sequence ≤ entry.sequence) (h : holdsAfter swapType entries n entry = true) :
    holdsAfter swapType entries n link = true := by
  unfold holdsAfter at h ⊢
  rw [hauthor]
  exact cleanUpTo_mono (by omega) h

/-- A Status has no dependency fault when what it rests on, if anything, is resolved and stands on a clean stream. -/
theorem dependencyFault_none :
    (dependencyFault entries swapType invalid entry).isSome = false ↔
      ∃ dependency, dependencyOf entries swapType entry = .ok dependency ∧
        ∀ required ∈ dependency, cleanUpTo entries invalid required.author (required.sequence + 1) = true := by
  unfold dependencyFault
  cases hdependency : dependencyOf entries swapType entry with
  | error claim => simp
  | ok dependency =>
    cases dependency with
    | none => simp
    | some required =>
      have hnot := fun h => (@not_invalid_of_clean _ _ invalid (dependencyOf_restsOn hdependency).mem h).2
      cases hclean : cleanUpTo entries invalid required.author (required.sequence + 1) with
      | false => simp [hclean]
      | true => simp [hnot hclean]

/-- More claims, more dependency faults. -/
theorem dependencyFault_mono
    (h : ∀ entry ∈ entries, invalid entry = true → invalid' entry = true)
    (hfault : (dependencyFault entries swapType invalid entry).isSome = true) :
    (dependencyFault entries swapType invalid' entry).isSome = true := by
  by_contra hnone
  obtain ⟨dependency, hdependency, hclean⟩ := dependencyFault_none.mp (Bool.not_eq_true _ ▸ hnone)
  have hfree : (dependencyFault entries swapType invalid entry).isSome = false :=
    dependencyFault_none.mpr ⟨dependency, hdependency, fun required hrequired =>
      cleanUpTo_antitone (fun other hother _ => h other hother) (hclean required hrequired)⟩
  exact Bool.false_ne_true (hfree.symm.trans hfault)

theorem round_two_of_one (h : round swapType entries 1 entry = true) : round swapType entries 2 entry = true := by
  rcases Bool.or_eq_true_iff.mp h with hrecord | hfault
  · exact Bool.or_eq_true_iff.mpr (.inl hrecord)
  · exact Bool.or_eq_true_iff.mpr (.inr (dependencyFault_mono (fun _ _ h => Bool.or_eq_true_iff.mpr (.inl h)) hfault))

theorem holdsAfter_one (h : holdsAfter swapType entries 2 entry = true) : holdsAfter swapType entries 1 entry = true :=
  cleanUpTo_antitone (fun _ _ _ => round_two_of_one) h

/-- A Status that passes a round and requires a Status of the counterparty rests on one that holds after the round
    before. -/
theorem dependency_of_round {n : Nat} (h : round swapType entries (n + 1) entry = false)
    (hprerequisite : (crossParticipantStatusPrerequisite swapType entry.role entry.state).isSome = true) :
    ∃ required, dependencyOf entries swapType entry = .ok (some required) ∧
      holdsAfter swapType entries n required = true := by
  obtain ⟨dependency, hdependency, hclean⟩ := dependencyFault_none.mp (Bool.or_eq_false_iff.mp h).2
  cases dependency with
  | none =>
    -- a state with a prerequisite never resolves to no dependency
    rw [dependencyOf_none hdependency] at hprerequisite
    cases hprerequisite
  | some required => exact ⟨required, hdependency, hclean required rfl⟩

/-- When the dependencies are settled, a Status that holds after one round holds after two. -/
theorem DependenciesSettled.holdsAfter_two (h : DependenciesSettled swapType entries)
    (hholds : holdsAfter swapType entries 1 entry = true) : holdsAfter swapType entries 2 entry = true := by
  refine cleanUpTo_iff.mpr fun sequence hlt => ?_
  obtain ⟨link, hlink, hround⟩ := cleanUpTo_iff.mp hholds sequence hlt
  obtain ⟨hmem, hauthor, hsequence⟩ := of_statusesAt_eq hlink
  have hlinkHolds := holdsAfter_of_le hauthor (by omega) hholds
  refine ⟨link, hlink, Bool.or_eq_false_iff.mpr ⟨recordFault_of_round hround, ?_⟩⟩
  obtain ⟨dependency, hdependency, -⟩ := dependencyFault_none.mp (Bool.or_eq_false_iff.mp hround).2
  refine dependencyFault_none.mpr ⟨dependency, hdependency, ?_⟩
  rintro required rfl
  exact holdsAfter_one (h link hmem required hlinkHolds hdependency)

theorem DependenciesSettled.holdsAfter_iff (h : DependenciesSettled swapType entries) (order : List String)
    (author : String) :
    holdsAfter swapType entries (roundOf order author) entry = holdsAfter swapType entries 2 entry := by
  unfold roundOf
  split
  · rw [Bool.eq_iff_iff]
    exact ⟨h.holdsAfter_two, holdsAfter_one⟩
  · rfl

theorem exists_round_succ (order : List String) (author : String) : ∃ n, roundOf order author = n + 1 := by
  unfold roundOf
  split
  · exact ⟨0, rfl⟩
  · exact ⟨1, rfl⟩

theorem SignerOrder.perm {order' : List String} (h : SignerOrder entries order) (hperm : order'.Perm order) :
    SignerOrder entries order' where
  nodup := hperm.nodup_iff.mpr h.nodup
  signers := hperm.length_eq ▸ h.signers
  complete entry hmem := hperm.mem_iff.mpr (h.complete entry hmem)

theorem RestsOn.unique_required {required required' : StatusEntry} (h : RestsOn swapType entries entry required)
    (h' : RestsOn swapType entries entry required') : required' = required := by
  have hid : required'.id = required.id := by
    have := h'.reference.symm.trans h.reference
    simpa using this
  have := h'.unique
  rw [hid, h.unique] at this
  exact (singleton_inj.mp this).symm

section Judged

variable (hread : WellRead entries) (horder : SignerOrder entries order)
include hread horder

theorem cleanUpTo_passed :
    cleanUpTo entries (passedClaims swapType entries order).invalid entry.author (entry.sequence + 1) =
      holdsAfter swapType entries (roundOf order entry.author) entry := by
  refine cleanUpTo_congr fun other hother hauthor => ?_
  rw [← hauthor]
  exact passedClaims_contains hread horder hother

/-- **What the projection decides.** A Status is valid exactly when its stream holds up to it after the round of
    its signer. -/
theorem valid_iff (hmem : entry ∈ entries) :
    (project swapType entries closeRecords order).valid entry =
      holdsAfter swapType entries (roundOf order entry.author) entry := by
  have hfiled := (lastPass hread order horder.nodup (passedClaims swapType entries order, [])).1 entry hmem
  rw [cleanUpTo_passed hread horder] at hfiled
  unfold StatusProjection.valid
  cases hholds : holdsAfter swapType entries (roundOf order entry.author) entry with
  | false =>
    rw [Bool.not_eq_false']
    exact hfiled.mpr (.inr ⟨horder.complete entry hmem, hholds⟩)
  | true =>
    rw [Bool.not_eq_true', ← Bool.not_eq_true]
    intro hcontains
    rcases hfiled.mp hcontains with hpassed | ⟨-, hnot⟩
    · have hround := (not_invalid_of_clean hmem hholds).2
      rw [← passedClaims_contains hread horder hmem] at hround
      exact Bool.false_ne_true (hround.symm.trans hpassed)
    · exact Bool.false_ne_true (hnot.symm.trans hholds)

/-- A Status that holds has a chain of Statuses that hold. -/
theorem ownChain_of_holds (h : holdsAfter swapType entries (roundOf order entry.author) entry = true) :
    OwnChain swapType entries (project swapType entries closeRecords order) entry := by
  intro sequence hle
  obtain ⟨link, hlink, hnotInvalid⟩ := cleanUpTo_iff.mp h sequence (by omega)
  obtain ⟨hmem, hauthor, hsequence⟩ := of_statusesAt_eq hlink
  refine ⟨link, hlink, ?_, ?_⟩
  · rw [valid_iff hread horder hmem, hauthor]
    exact holdsAfter_of_le hauthor (by omega) h
  · refine linked_of_recordFault (recordFault_of_round hnotInvalid) fun earlier hearlier => ?_
    obtain ⟨only, honly, -⟩ := cleanUpTo_iff.mp h earlier (by omega)
    exact ⟨only, by rw [hauthor]; exact honly⟩

/-- Settled dependencies give closure. -/
theorem DependenciesSettled.closed (h : DependenciesSettled swapType entries) :
    ClosedProjection swapType entries (project swapType entries closeRecords order) where
  chain entry hmem hvalid := by
    rw [valid_iff hread horder hmem] at hvalid
    exact ownChain_of_holds hread horder hvalid
  dependencies entry hmem hvalid link hlink hauthor hle hprerequisite := by
    rw [valid_iff hread horder hmem] at hvalid
    have hlinkHolds := holdsAfter_of_le hauthor hle hvalid
    have hround := (not_invalid_of_clean hlink hlinkHolds).2
    obtain ⟨n, hn⟩ := exists_round_succ order entry.author
    rw [hn] at hround
    obtain ⟨required, hrequired, -⟩ := dependency_of_round hround hprerequisite
    have hrests := dependencyOf_restsOn hrequired
    rw [h.holdsAfter_iff] at hlinkHolds
    have hrequiredHolds := h link hlink required (holdsAfter_one hlinkHolds) hrequired
    rw [← h.holdsAfter_iff order required.author] at hrequiredHolds
    refine ⟨required, hrests, ?_, ownChain_of_holds hread horder hrequiredHolds⟩
    rw [valid_iff hread horder hrests.mem]
    exact hrequiredHolds
  last pair hpair := by
    rcases (lastPass hread order horder.nodup (passedClaims swapType entries order, [])).2 pair hpair with
      hempty | ⟨entry, hmem, hpair, -, hclean⟩
    · cases hempty
    · rw [cleanUpTo_passed hread horder] at hclean
      exact ⟨entry, hmem, hpair, by rw [valid_iff hread horder hmem]; exact hclean⟩

/-- Closure in one order, with the same valid Statuses in every order, gives settled dependencies. -/
theorem settled_of_closed
    (hclosed : ClosedProjection swapType entries (project swapType entries closeRecords order))
    (hsame : ∀ order', order'.Perm order → ∀ entry ∈ entries,
      (project swapType entries closeRecords order').valid entry =
        (project swapType entries closeRecords order).valid entry) :
    DependenciesSettled swapType entries := by
  intro entry hmem required hholds hdependency
  obtain ⟨hrequired, hauthor⟩ := dependencyOf_author hread hmem hdependency
  -- visit this signer first: its Statuses are then judged by one round, the required one by two
  let order' := entry.author :: order.erase entry.author
  have hperm : order'.Perm order := (perm_cons_erase (horder.complete entry hmem)).symm
  have horder' := horder.perm hperm
  have hvalid : (project swapType entries closeRecords order).valid entry = true := by
    rw [← hsame order' hperm entry hmem, valid_iff hread horder' hmem]
    simpa [roundOf, order'] using hholds
  have hrests := dependencyOf_restsOn hdependency
  obtain ⟨required', hrests', hvalid', -⟩ := hclosed.dependencies entry hmem hvalid entry hmem rfl le_rfl
    (by rw [hrests.prerequisite]; rfl)
  rw [hrests.unique_required hrests'] at hvalid'
  rw [← hsame order' hperm required hrequired, valid_iff hread horder' hrequired] at hvalid'
  simpa [roundOf, order', hauthor.symm] using hvalid'

end Judged

end Closure

/-- The signers of the collected Statuses are the two participants. -/
theorem statusAuthors_order (h : collectStatuses musig config records swapType = .ok entries) :
    SignerOrder entries (statusAuthors entries) := by
  have hnodup : (statusAuthors entries).Nodup :=
    (perm_insertionSort stringLe _).nodup_iff.mpr (nodup_dedup _)
  have hmem : ∀ author, author ∈ statusAuthors entries ↔ ∃ entry ∈ entries, entry.author = author := by
    intro author
    simp [statusAuthors, sortedKeys]
  have hsubset : statusAuthors entries ⊆ [config.requesterPubkey, config.providerPubkey] := by
    intro author hauthor
    obtain ⟨entry, hentry, rfl⟩ := (hmem author).mp hauthor
    obtain ⟨-, hrole, -⟩ := readStatus_ok (collectStatuses_mem h hentry).2
    unfold roleForAuthor at hrole
    split at hrole
    · rename_i heq
      simp [StatusEntry.author, heq]
    · split at hrole
      · rename_i heq
        simp [StatusEntry.author, heq]
      · cases hrole
  refine ⟨hnodup, (subperm_of_subset hnodup hsubset).length_le, fun entry hentry => ?_⟩
  exact (hmem entry.author).mpr ⟨entry, hentry, rfl⟩

/-- **The valid Statuses of a session are dependency-closed and independent of the order of the keys exactly when
    the dependencies are settled after one round.** -/
theorem projection_closed_iff_settled {musig : MusigRules} {config : ClientConfig} {records : List Record}
    {projection : StatusProjection} {swapType : SwapType} {entries : List StatusEntry}
    (hids : IdsIdentify records) (hswap : quoteSwapType records = .ok swapType)
    (hentries : collectStatuses musig config records swapType = .ok entries)
    (h : StatusProjection.fromRecords musig config records = .ok projection) :
    (ClosedProjection swapType entries projection ∧
      ∀ order, order.Perm (statusAuthors entries) → ∀ entry ∈ entries,
        (project swapType entries projection.closeRecords order).valid entry = projection.valid entry) ↔
      DependenciesSettled swapType entries := by
  have hread := wellRead hentries hids
  have horder := statusAuthors_order hentries
  simp only [StatusProjection.fromRecords, hswap, hentries, bind_eq_ok, Except.ok.injEq, exists_eq_left', pure,
    Except.pure] at h
  obtain ⟨-, -, rfl⟩ := h
  constructor
  · rintro ⟨hclosed, hsame⟩
    exact settled_of_closed hread horder hclosed hsame
  · intro hsettled
    refine ⟨hsettled.closed hread horder, fun order hperm entry hmem => ?_⟩
    rw [valid_iff hread (horder.perm hperm) hmem, valid_iff hread horder hmem, hsettled.holdsAfter_iff,
      hsettled.holdsAfter_iff]

/-! ## A reverse swap whose requester skips a reference

The provider's key sorts first. The requester's first Status needs the provider's `hold_invoice_ready`; `reference`
is what it says about it. -/

def reverseConfig : ClientConfig where
  sessionId := "5f3c0a7e5f3c0a7e5f3c0a7e5f3c0a7e5f3c0a7e5f3c0a7e5f3c0a7e5f3c0a7e"
  requesterPubkey := "5fea53b8d7ad8a10b4cb3c6dd1b7bd2a8e86c4f42c2b7ccdae40d9db7eaa0d11"
  providerPubkey := "17f3a09d5d5e1be0b1f1b0b0b4a0c1d1d6f0f38ab3dbfa2c5a1d5e8a7b6c9d02"
  offeringAddress := "39600:17f3a09d5d5e1be0b1f1b0b0b4a0c1d1d6f0f38ab3dbfa2c5a1d5e8a7b6c9d02:reverse"

/-- No record of the session carries a cooperative signing message, so nothing is parsed. -/
def reverseMusig : MusigRules where
  parse _ := .error "missing field"
  validate _ _ := musigError "cooperative signing message is missing"
  isPoint _ := false

def reverseQuote : Record where
  id := "a000000000000000000000000000000000000000000000000000000000000001"
  pubkey := reverseConfig.providerPubkey
  createdAt := 1760000000
  kind := mktQuoteKind
  tags := []
  content := .ok (.object [("mkt_swp", .object [("terms", .object [("swap_type", .string "reverse")])])])

def providerIds : List String :=
  ["b000000000000000000000000000000000000000000000000000000000000000",
    "b000000000000000000000000000000000000000000000000000000000000001",
    "b000000000000000000000000000000000000000000000000000000000000002"]

def requesterIds : List String :=
  ["c000000000000000000000000000000000000000000000000000000000000000",
    "c000000000000000000000000000000000000000000000000000000000000001"]

def reverseStatus (id author sequence baseState state : String) (references : List (List String)) : Record where
  id := id
  pubkey := author
  createdAt := 1760000100
  kind := mktStatusKind
  tags := [["seq", sequence], ["state", baseState]] ++ references
  content := .ok (.object [("mkt_swp", .object [("swp_state", .string state)])])

def providerStatus (n : Nat) (sequence baseState state : String) (references : List (List String)) : Record :=
  reverseStatus (providerIds.getD n "") reverseConfig.providerPubkey sequence baseState state references

def requesterStatus (n : Nat) (sequence baseState state : String) (references : List (List String)) : Record :=
  reverseStatus (requesterIds.getD n "") reverseConfig.requesterPubkey sequence baseState state references

def reverseRecords (reference : List (List String)) : List Record :=
  [reverseQuote,
    providerStatus 0 "0" "accepted" "accepted" [],
    providerStatus 1 "1" "awaiting_input" "hold_invoice_ready" [["e", providerIds.getD 0 "", "", "previous"]],
    requesterStatus 0 "0" "awaiting_input" "requester_invoice_verified" reference,
    requesterStatus 1 "1" "executing" "lightning_payment_pending" [["e", requesterIds.getD 0 "", "", "previous"]],
    providerStatus 2 "2" "executing" "lightning_htlcs_held"
      [["e", providerIds.getD 1 "", "", "previous"], ["e", requesterIds.getD 1 "", "", "status"]]]

def reverseEntries (reference : List (List String)) : List StatusEntry :=
  (collectStatuses reverseMusig reverseConfig (reverseRecords reference) .reverse).toOption.getD []

def reverseProjection (reference : List (List String)) : StatusProjection :=
  project .reverse (reverseEntries reference) [] (statusAuthors (reverseEntries reference))

theorem idsIdentify_of_nodup (h : (records.map (·.id)).Nodup) : IdsIdentify records :=
  fun _ hrecord _ hother => inj_on_of_nodup_map h hrecord hother

theorem reverseRecords_ids (reference : List (List String)) : IdsIdentify (reverseRecords reference) := by
  have hmap : (reverseRecords reference).map (·.id) =
      [reverseQuote.id, providerIds.getD 0 "", providerIds.getD 1 "", requesterIds.getD 0 "", requesterIds.getD 1 "",
        providerIds.getD 2 ""] := rfl
  refine idsIdentify_of_nodup ?_
  simp [hmap, reverseQuote, providerIds, requesterIds]

theorem reverse_collectStatuses
    (h : (collectStatuses reverseMusig reverseConfig records .reverse).toOption.isSome = true) :
    collectStatuses reverseMusig reverseConfig records .reverse =
      .ok ((collectStatuses reverseMusig reverseConfig records .reverse).toOption.getD []) := by
  cases hcollect : collectStatuses reverseMusig reverseConfig records .reverse with
  | error e => simp [hcollect, Except.toOption] at h
  | ok entries => rfl

theorem reverse_fromRecords
    (hswap : quoteSwapType records = .ok .reverse)
    (hentries : collectStatuses reverseMusig reverseConfig records .reverse = .ok entries)
    (hmessages : entries.all (·.message.isNone) = true) :
    StatusProjection.fromRecords reverseMusig reverseConfig records =
      .ok (project .reverse entries ((records.filter (·.kind = mktCloseKind)).map (·.id)) (statusAuthors entries)) := by
  have hnone : entries.filterMap (fun entry => entry.message.map fun message => (entry.role, message)) = [] := by
    simpa using hmessages
  simp only [StatusProjection.fromRecords, hswap, hentries, hnone, bind, Except.bind]
  rfl

/-- **A valid claim that rests on an invalid one.** The requester's first Status names no `hold_invoice_ready`, so
    its stream is invalid; the provider, whose key comes first, was already judged to have its HTLCs held on the
    strength of it. With the signers in the other order that claim is invalid. -/
theorem skippedReference_not_closed :
    StatusProjection.fromRecords reverseMusig reverseConfig (reverseRecords []) = .ok (reverseProjection []) ∧
      ¬ ClosedProjection .reverse (reverseEntries []) (reverseProjection []) ∧
      ∃ entry ∈ reverseEntries [], (reverseProjection []).valid entry = true ∧
        (project .reverse (reverseEntries []) [] (statusAuthors (reverseEntries [])).reverse).valid entry = false := by
  have hcollect : (collectStatuses reverseMusig reverseConfig (reverseRecords []) .reverse).toOption.isSome = true ∧
      (reverseEntries []).all (·.message.isNone) = true := by decide +kernel
  have hheld : ∃ entry ∈ reverseEntries [], (reverseProjection []).valid entry = true ∧
      (project .reverse (reverseEntries []) [] (statusAuthors (reverseEntries [])).reverse).valid entry = false ∧
      (crossParticipantStatusPrerequisite .reverse entry.role entry.state).isSome = true ∧
      (markedTags entry.record "status").map (·[1]?) = [some (requesterIds.getD 1 "")] := by decide +kernel
  have hpayment : (reverseProjection []).invalidClaims.contains (requesterIds.getD 1 "") = true := by decide +kernel
  obtain ⟨held, hmem, hvalid, hreversed, hprerequisite, hreference⟩ := hheld
  refine ⟨reverse_fromRecords rfl (reverse_collectStatuses hcollect.1) hcollect.2, fun hclosed => ?_, held, hmem, hvalid, hreversed⟩
  obtain ⟨required, hrests, hrequired, -⟩ := hclosed.dependencies held hmem hvalid held hmem rfl le_rfl hprerequisite
  have hid : requesterIds.getD 1 "" = required.id := by
    have := hreference.symm.trans hrests.reference
    simpa using this
  rw [StatusProjection.valid, ← hid, hpayment] at hrequired
  cases hrequired

/-- The requester's reference to the provider's `hold_invoice_ready`. -/
def invoiceReference : List (List String) := [["e", providerIds.getD 1 "", "", "status"]]

theorem invoiceReference_closed :
    IdsIdentify (reverseRecords invoiceReference) ∧
      StatusProjection.fromRecords reverseMusig reverseConfig (reverseRecords invoiceReference) =
        .ok (reverseProjection invoiceReference) ∧
      ((ClosedProjection .reverse (reverseEntries invoiceReference) (reverseProjection invoiceReference) ∧
        ∀ order, order.Perm (statusAuthors (reverseEntries invoiceReference)) →
          ∀ entry ∈ reverseEntries invoiceReference,
            (project .reverse (reverseEntries invoiceReference) (reverseProjection invoiceReference).closeRecords
              order).valid entry = (reverseProjection invoiceReference).valid entry) ↔
        DependenciesSettled .reverse (reverseEntries invoiceReference)) ∧
      ∀ entry ∈ reverseEntries invoiceReference, (reverseProjection invoiceReference).valid entry = true := by
  have hcollect :
      (collectStatuses reverseMusig reverseConfig (reverseRecords invoiceReference) .reverse).toOption.isSome = true ∧
      (reverseEntries invoiceReference).all (·.message.isNone) = true ∧
      ∀ entry ∈ reverseEntries invoiceReference, (reverseProjection invoiceReference).valid entry = true := by
    decide +kernel
  have hfrom := reverse_fromRecords rfl (reverse_collectStatuses hcollect.1) hcollect.2.1
  exact ⟨reverseRecords_ids _, hfrom, projection_closed_iff_settled (reverseRecords_ids _)
    rfl (reverse_collectStatuses hcollect.1) hfrom, hcollect.2.2⟩

end Immortal.Client
