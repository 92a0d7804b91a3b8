import Immortal.Client.CooperativeSigning

/-!
# `Immortal.Client.StatusProjection` — which Status claims a session stands on

`StatusProjection::from_records` sorts the Status records of a session into one stream for each signer and
decides which of them count. A record is filed under `invalid_claims` for what it says alone, for not following
its predecessor, for not resting on the Status of the counterparty its state requires, or for descending from a
gap, a fork or an invalid claim.

The dependency pass reads the map it is filling, one signer after the other in the order of their keys. That
order is an argument of `project` here; `StatusProjection.fromRecords` passes the sorted one.

The first loop reads sequence, role, state and message of every Status; the later passes of the source read them
again from the same records, with the same outcome. `StatusEntry` keeps what was read.
-/

namespace Immortal.Client

open Immortal.Bitcoin

/-! ## Reading -/

def mktStatusKind : Nat := 39607

def mktCloseKind : Nat := 39609

def maxStatusSequence : Nat := 511

/-- A Status record with what the first loop reads from it. `faults` are the claims that loop files against it,
    in the order it files them. -/
structure StatusEntry where
  record : Record
  sequence : Nat
  role : ParticipantRole
  state : String
  message : Option CooperativeSigningMessage
  faults : List String

def StatusEntry.id (entry : StatusEntry) : String := entry.record.id

def StatusEntry.author (entry : StatusEntry) : String := entry.record.pubkey

def quoteSwapType (records : List Record) : Checked SwapType := do
  let quote ← exactlyOne records mktQuoteKind "swp_contract_terms_mismatch"
  let content ← quote.content
  let quoteProfile ← profile content "MKT-SWP Quote"
  let terms ← object (quoteProfile.orNull "terms") "MKT-SWP Quote terms"
  match terms.text "swap_type" with
  | some "submarine" => return .submarine
  | some "reverse" => return .reverse
  | some "chain" => return .chain
  | _ => .error ⟨"swp_contract_terms_mismatch", "Quote has an unsupported swap type"⟩

/-- Whether a check fails, with the claim it then files. -/
def faultIf (failed : Bool) (claim : String) : List String := if failed then [claim] else []

def isErr {α : Type} (result : Checked α) : Bool := result.toOption.isNone

def bodyFaults (config : ClientConfig) (records : List Record) (swapType : SwapType) (record : Record)
    (role : ParticipantRole) (statusProfile : Members) (state declaredBaseState : String) : List String :=
  faultIf (baseStateFor state != some declaredBaseState)
    "swp_status_transition_invalid: base state tag does not match the MKT-SWP state" ++
  faultIf (!stateAllowedForSwap role state swapType)
    "swp_status_signer_invalid: state is unavailable to this signer or flow" ++
  faultIf (isErr (validateZeroConfStatus statusProfile role state swapType))
    "swp_status_transition_invalid: zero-confirmation decision is invalid" ++
  faultIf (swapType = .chain && state = "destination_lock_terms_ready" &&
      isErr (validateDestinationLockHandoff config records record))
    ("swp_status_transition_invalid: destination lock handoff does not carry the exact Contract transaction")

section Reading

variable (musig : MusigRules) (config : ClientConfig) (records : List Record) (swapType : SwapType)

def readStatus (record : Record) : Checked StatusEntry := do
  let sequenceText ← tagValue record "seq"
  let sequence ← orRefuse (parseU64 sequenceText) "swp_status_gap" "Status seq is invalid"
  refuseIf (maxStatusSequence < sequence) "swp_status_gap" "Status seq exceeds the signed record bound"
  let role ← roleForAuthor config record.pubkey
  let content ← record.content
  let statusProfile ← profile content "MKT-SWP Status"
  let state ← orRefuse (statusProfile.text "swp_state") "swp_status_transition_invalid" "Status has no swp_state"
  let declaredBaseState ← tagValue record "state"
  let message ← cooperativeSigningMessage musig record role
  refuseIf (message.isSome && state != "cooperative_signing_pending") "swp_musig_transcript_invalid"
    "cooperative signing messages require the cooperative signing Status state"
  return ⟨record, sequence, role, state, message,
    bodyFaults config records swapType record role statusProfile state declaredBaseState⟩

def collectStatuses : Checked (List StatusEntry) :=
  (records.filter (·.kind = mktStatusKind)).mapM (readStatus musig config records swapType)

end Reading

/-! ## Claims -/

/-- `BTreeMap<String, String>` from record ids to the claim filed against them. -/
abbrev Claims := List (String × String)

def Claims.contains (claims : Claims) (id : String) : Bool := claims.any (·.1 = id)

def Claims.insert (claims : Claims) (id claim : String) : Claims := (id, claim) :: claims.filter (·.1 ≠ id)

/-- `entry(id).or_insert_with(..)`. -/
def Claims.orInsert (claims : Claims) (id claim : String) : Claims :=
  if claims.contains id then claims else claims.insert id claim

/-- Files a fault, if there is one. -/
def Claims.file (claims : Claims) (id : String) : Option String → Claims
  | some claim => claims.insert id claim
  | none => claims

@[simp] theorem Claims.contains_nil (id : String) : Claims.contains [] id = false := rfl

@[simp] theorem Claims.contains_insert (claims : Claims) (id claim other : String) :
    (claims.insert id claim).contains other = (decide (id = other) || claims.contains other) := by
  by_cases h : id = other
  · simp [contains, insert, h]
  · simp only [contains, insert, List.any_cons, h, decide_false, Bool.false_or]
    rw [Bool.eq_iff_iff]
    simp only [List.any_eq_true, List.mem_filter, decide_eq_true_eq]
    constructor
    · rintro ⟨pair, ⟨hpair, -⟩, heq⟩
      exact ⟨pair, hpair, heq⟩
    · rintro ⟨pair, hpair, heq⟩
      exact ⟨pair, ⟨hpair, fun hid => h (hid.symm.trans heq)⟩, heq⟩

@[simp] theorem Claims.contains_orInsert (claims : Claims) (id claim other : String) :
    (claims.orInsert id claim).contains other = (decide (id = other) || claims.contains other) := by
  unfold orInsert
  split
  · rename_i h
    by_cases hid : id = other
    · simp [← hid, h]
    · simp [hid]
  · exact contains_insert claims id claim other

@[simp] theorem Claims.contains_file (claims : Claims) (id other : String) (fault : Option String) :
    (claims.file id fault).contains other = (fault.isSome && decide (id = other) || claims.contains other) := by
  cases fault with
  | none => simp [file]
  | some claim => simp [file]

/-! ## Streams -/

section Streams

variable (entries : List StatusEntry)

/-- `status_events[author][sequence]`, in record order. -/
def statusesAt (author : String) (sequence : Nat) : List StatusEntry :=
  entries.filter fun entry => entry.author = author && entry.sequence = sequence

/-- The keys of `status_events[author]`. -/
def streamKeys (author : String) : List Nat :=
  ((entries.filter (·.author = author)).map (·.sequence)).dedup.insertionSort (· ≤ ·)

/-- The Statuses of a stream in the order the nested loops visit them. -/
def streamEntries (author : String) : List StatusEntry := (streamKeys entries author).flatMap (statusesAt entries author)

/-- Every Status below `bound` is there, alone and not invalid. -/
def cleanUpTo (invalid : StatusEntry → Bool) (author : String) (bound : Nat) : Bool :=
  (List.range bound).all fun sequence =>
    match statusesAt entries author sequence with
    | [entry] => !invalid entry
    | _ => false

/-! ## Passes -/

/-- Whether a Status may follow another one of its signer. -/
def allowedTransition (swapType : SwapType) (previous current : StatusEntry) : Bool :=
  cooperativeStatusTransition previous.message current.message previous.state current.state ||
    zeroConfStatusTransition swapType previous.state current.state ||
    match transitionRank swapType previous.state, transitionRank swapType current.state with
    | some previousRank, some currentRank => previousRank < currentRank
    | _, _ => false

/-- What the pass over the predecessors files against a Status. A stream that does not start at zero is skipped. -/
def linkFault (swapType : SwapType) (entry : StatusEntry) : Option String :=
  if (streamKeys entries entry.author).head? ≠ some 0 then none
  else
    match entry.sequence with
    | 0 =>
      if (markedTags entry.record "previous").isEmpty then none
      else some "swp_status_transition_invalid: seq 0 has a previous reference"
    | previousSequence + 1 =>
      match statusesAt entries entry.author entry.sequence, statusesAt entries entry.author previousSequence with
      | [_], [previous] =>
        if isErr (requireMarkedReference entry.record "previous" previous.id) then
          some "swp_status_transition_invalid: previous reference mismatch"
        else if !allowedTransition swapType previous entry then
          some "swp_status_transition_invalid: claim regresses or leaves the flow"
        else none
      | _, _ => none

def notRequiredPredecessor : String :=
  "swp_status_transition_invalid: cross-participant dependency is not the required valid predecessor"

/-- The Status of the counterparty an entry rests on, as far as its reference, role and state tell. -/
def dependencyOf (swapType : SwapType) (entry : StatusEntry) : Except String (Option StatusEntry) :=
  match crossParticipantStatusPrerequisite swapType entry.role entry.state, markedTags entry.record "status" with
  | none, [] => .ok none
  | none, _ :: _ =>
    .error "swp_status_transition_invalid: Status has an unexpected cross-participant dependency"
  | some (requiredRole, requiredState), [reference] =>
    match reference[1]? with
    | none => .error "swp_status_transition_invalid: cross-participant dependency is empty"
    | some referenceId =>
      match entries.filter (·.id = referenceId) with
      | [required] =>
        if required.role = requiredRole ∧ required.state = requiredState then .ok (some required)
        else .error notRequiredPredecessor
      | _ => .error "swp_status_transition_invalid: cross-participant dependency is missing or ambiguous"
  | some _, _ => .error "swp_status_transition_invalid: Status lacks one exact cross-participant dependency"

/-- What the dependency pass files against a Status while the claims say `invalid`. -/
def dependencyFault (swapType : SwapType) (invalid : StatusEntry → Bool) (entry : StatusEntry) : Option String :=
  match dependencyOf entries swapType entry with
  | .error claim => some claim
  | .ok none => none
  | .ok (some required) =>
    if invalid required || !cleanUpTo entries invalid required.author (required.sequence + 1) then
      some notRequiredPredecessor
    else none

/-- The locals of the last loop over a stream. -/
structure Ancestry where
  expectedSequence : Nat
  ancestryValid : Bool
  claims : Claims
  lastValid : Option String

def forkClaim : String := "swp_status_transition_invalid: fork has ambiguous ancestry"

def descentClaim : String := "swp_status_transition_invalid: claim descends from a gap, fork, or invalid claim"

def Ancestry.step (author : String) (ancestry : Ancestry) (sequence : Nat) : Ancestry :=
  let ancestryValid := ancestry.ancestryValid && sequence = ancestry.expectedSequence
  let expectedSequence := saturatingAdd sequence 1
  match statusesAt entries author sequence with
  | [entry] =>
    if !ancestryValid || ancestry.claims.contains entry.id then
      ⟨expectedSequence, false, ancestry.claims.orInsert entry.id descentClaim, ancestry.lastValid⟩
    else ⟨expectedSequence, ancestryValid, ancestry.claims, some entry.id⟩
  | events =>
    ⟨expectedSequence, false, events.foldl (fun claims entry => claims.orInsert entry.id forkClaim) ancestry.claims,
      ancestry.lastValid⟩

def ancestryOf (author : String) (claims : Claims) : Ancestry :=
  (streamKeys entries author).foldl (Ancestry.step entries author) ⟨0, true, claims, none⟩

/-! ## Projection -/

def bodyClaims : Claims :=
  entries.foldl (fun claims entry => entry.faults.foldl (fun claims fault => claims.insert entry.id fault) claims) []

/-- The pass over the predecessors, for one signer. -/
def linkClaims (swapType : SwapType) (claims : Claims) (author : String) : Claims :=
  (streamEntries entries author).foldl
    (fun claims entry => claims.file entry.id (linkFault entries swapType entry)) claims

/-- The pass over the dependencies, for one signer. -/
def dependencyClaims (swapType : SwapType) (claims : Claims) (author : String) : Claims :=
  (streamEntries entries author).foldl
    (fun claims entry =>
      claims.file entry.id (dependencyFault entries swapType (fun other => claims.contains other.id) entry))
    claims

/-- The last pass, for one signer. -/
def ancestryClaims (state : Claims × List (String × String)) (author : String) : Claims × List (String × String) :=
  let ancestry := ancestryOf entries author state.1
  (ancestry.claims, state.2 ++ (ancestry.lastValid.map (author, ·)).toList)

end Streams

structure StatusProjection where
  streams : List (String × List (Nat × List String))
  gaps : List (String × List Nat)
  forks : List (String × List Nat)
  closeRecords : List String
  invalidClaims : Claims
  lastValidStatus : List (String × String)

/-- An entry of `gaps` or `forks`, which hold no empty lists. -/
def nonEmptyEntry (author : String) (sequences : List Nat) : Option (String × List Nat) :=
  if sequences.isEmpty then none else some (author, sequences)

def missingSequences (entries : List StatusEntry) (author : String) : List Nat :=
  let keys := streamKeys entries author
  (List.range (keys.getLast?.getD 0 + 1)).filter (· ∉ keys)

def forkedSequences (entries : List StatusEntry) (author : String) : List Nat :=
  (streamKeys entries author).filter fun sequence => 1 < (statusesAt entries author sequence).length

/-- The claims before the last pass, with the signers visited in this order. -/
def passedClaims (swapType : SwapType) (entries : List StatusEntry) (order : List String) : Claims :=
  order.foldl (dependencyClaims entries swapType)
    (order.foldl (linkClaims entries swapType) (bodyClaims entries))

/-- The projection of the Statuses, with the signers visited in this order. -/
def project (swapType : SwapType) (entries : List StatusEntry) (closeRecords : List String) (order : List String) :
    StatusProjection :=
  let final := order.foldl (ancestryClaims entries) (passedClaims swapType entries order, [])
  { streams := order.map fun author =>
      (author, (streamKeys entries author).map fun sequence =>
        (sequence, (statusesAt entries author sequence).map StatusEntry.id))
    gaps := order.filterMap fun author => nonEmptyEntry author (missingSequences entries author)
    forks := order.filterMap fun author => nonEmptyEntry author (forkedSequences entries author)
    closeRecords
    invalidClaims := final.1
    lastValidStatus := final.2 }

/-- The signers in the order of the source's maps. -/
def statusAuthors (entries : List StatusEntry) : List String := sortedKeys (entries.map StatusEntry.author)

def StatusProjection.fromRecords (musig : MusigRules) (config : ClientConfig) (records : List Record) :
    Checked StatusProjection := do
  let swapType ← quoteSwapType records
  let entries ← collectStatuses musig config records swapType
  validateCooperativeSigningExchange musig
    (entries.filterMap fun entry => entry.message.map fun message => (entry.role, message))
  return project swapType entries ((records.filter (·.kind = mktCloseKind)).map (·.id)) (statusAuthors entries)

end Immortal.Client
