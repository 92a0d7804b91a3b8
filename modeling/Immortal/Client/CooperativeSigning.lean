import Immortal.Client.Status

/-!
# `Immortal.Client.CooperativeSigning` — MuSig2 messages carried by Status records

A `cooperative_signing_pending` Status carries one message of a two-party MuSig2 signing session. The client
keeps no signing state in a projection: it collects the messages of a session in record order, groups them by
signing context and checks that each group reads as one transcript, in which both nonce commitments come before
a nonce, both nonces before a partial signature, both partial signatures before the final one, and nothing after
a final signature or, aborts apart, after an abort.

`serde_json`'s reading of a message, `CooperativeSigningMessage::validate` (which verifies the contribution with
`secp256k1`) and the point check on a nonce are the fields of `MusigRules`.

The state of the loop over a group is a function of the messages it has passed (`Transcript.of`), so an exchange is
accepted exactly when every message may follow the earlier ones of its context (`Follows`).
-/

namespace Immortal.Client

open Txn Immortal.Bitcoin

/-! ## Messages -/

inductive CooperativeSigningAction where
  | nonceCommitment
  | publicNonce
  | partialSignature
  | finalSignature
  | aborted
deriving DecidableEq, Repr

def cooperativeActionRank : CooperativeSigningAction → Nat
  | .nonceCommitment => 0
  | .publicNonce => 1
  | .partialSignature => 2
  | .finalSignature => 3
  | .aborted => 4

/-- The signing context is kept as the document it is digested from. -/
structure CooperativeSigningMessage where
  context : Value
  contextSha256 : String
  participantIndex : Nat
  action : CooperativeSigningAction
  nonceCommitment : Option String
  publicNonce : Option String
  publicNonces : Option (List String)
  partialSignature : Option String
  partialSignatures : Option (List String)
  finalSignature : Option String
  abortReason : Option String
  fallback : Option String
deriving DecidableEq

structure MusigRules where
  /-- `serde_json::from_value`, with its error text. -/
  parse : Value → Except String CooperativeSigningMessage
  validate : CooperativeSigningMessage → ParticipantRole → Checked Unit
  /-- `PublicKey::from_slice` on a compressed point. -/
  isPoint : Bytes → Bool

def musigError {α : Type} (detail : String) : Checked α := .error ⟨"swp_musig_transcript_invalid", detail⟩

/-- `fixed_hex::<N>`. -/
def fixedHex (length : Nat) (value label : String) : Checked Bytes := do
  let decoded ← decodeHex value label
  if decoded.length ≠ length then musigError (label ++ " must be exactly " ++ toString length ++ " bytes")
  return decoded

section Messages

variable (musig : MusigRules)

def cooperativeSigningMessage (record : Record) (role : ParticipantRole) :
    Checked (Option CooperativeSigningMessage) := do
  let content ← record.content
  let statusProfile ← profile content "MKT-SWP Status"
  match statusProfile.get "cooperative_signing" with
  | none => return none
  | some value =>
    match musig.parse value with
    | .error detail => musigError ("cooperative signing message has an invalid shape: " ++ detail)
    | .ok message =>
      musig.validate message role
      return some message

/-! ## Transitions -/

/-- The states cooperative signing may start from. -/
def cooperativeStartStates : List String :=
  ["funding_final", "source_funding_final", "destination_funding_final", "lightning_paid",
    "requester_funding_broadcast"]

/-- `cooperative_status_transition` on the messages of the two records. -/
def cooperativeStatusTransition (previous current : Option CooperativeSigningMessage)
    (previousState currentState : String) : Bool :=
  match previous, current with
  | some previous, some current =>
    previousState = "cooperative_signing_pending" && currentState = previousState &&
      previous.contextSha256 = current.contextSha256 && previous.participantIndex = current.participantIndex &&
      cooperativeActionRank previous.action < cooperativeActionRank current.action
  | none, some current =>
    currentState = "cooperative_signing_pending" && previousState ∈ cooperativeStartStates &&
      (current.action = .nonceCommitment || current.action = .aborted)
  | some _, none =>
    previousState = "cooperative_signing_pending" &&
      (baseStateFor currentState).any (· ∈ ["executing", "completed", "refund_pending", "refunded", "failed"])
  | none, none => false

/-! ## Transcripts -/

/-- The two participants' contributions of one kind. -/
structure Contributions where
  requester : Option Bytes
  provider : Option Bytes
deriving DecidableEq

def Contributions.get (contributions : Contributions) (participant : Nat) : Option Bytes :=
  if participant = 0 then contributions.requester else contributions.provider

def Contributions.set (contributions : Contributions) (participant : Nat) (bytes : Bytes) : Contributions :=
  if participant = 0 then { contributions with requester := some bytes }
  else { contributions with provider := some bytes }

def Contributions.complete (contributions : Contributions) : Bool :=
  contributions.requester.isSome && contributions.provider.isSome

/-- The locals of the loop over one group. -/
structure Transcript where
  seen : List (Nat × Nat)
  commitments : Contributions
  publicNonces : Contributions
  partialSignatures : Contributions
  finalSignature : Bool
  aborted : Bool

def Transcript.empty : Transcript := ⟨[], ⟨none, none⟩, ⟨none, none⟩, ⟨none, none⟩, false, false⟩

/-- The collected reading of exactly two values, for requester and provider. -/
def readBoth (read : String → Checked Bytes) (count : String) (values : List String) : Checked Contributions :=
  match values with
  | [first, second] => do
    let requester ← read first
    let provider ← read second
    return ⟨some requester, some provider⟩
  | _ => musigError count

/-- `fixed_hex::<66>` and `parse_public_nonce`. -/
def readPublicNonce (value : String) : Checked Bytes := do
  let nonce ← fixedHex 66 value "cooperative public nonce"
  if !(musig.isPoint (nonce.take 33) && musig.isPoint (nonce.drop 33)) then
    musigError "cooperative public nonce contains an invalid point"
  return nonce

def cooperativePublicNonces (values : List String) : Checked Contributions :=
  readBoth (readPublicNonce musig) "cooperative signing requires two public nonces" values

def cooperativePartialSignatures (values : List String) : Checked Contributions :=
  readBoth (fixedHex 32 · "cooperative partial signature") "cooperative signing requires two partial signatures" values

/-- The `match` on the action of a message. -/
def Transcript.contribute (transcript : Transcript) (message : CooperativeSigningMessage) : Checked Transcript := do
  let participant := message.participantIndex
  match message.action with
  | .nonceCommitment =>
    let text ← orRefuse message.nonceCommitment "swp_musig_transcript_invalid"
      "cooperative nonce commitment is missing"
    let commitment ← fixedHex 32 text "cooperative nonce commitment"
    return { transcript with commitments := transcript.commitments.set participant commitment }
  | .publicNonce =>
    let text ← orRefuse message.nonceCommitment "swp_musig_transcript_invalid"
      "cooperative nonce commitment is missing"
    let commitment ← fixedHex 32 text "cooperative nonce commitment"
    if !transcript.commitments.complete ∨ transcript.commitments.get participant ≠ some commitment then
      musigError "cooperative public nonce lacks both prior exact commitments"
    let nonceText ← orRefuse message.publicNonce "swp_musig_transcript_invalid" "cooperative public nonce is missing"
    let nonce ← fixedHex 66 nonceText "cooperative public nonce"
    return { transcript with publicNonces := transcript.publicNonces.set participant nonce }
  | .partialSignature =>
    let nonceTexts ← orRefuse message.publicNonces "swp_musig_transcript_invalid"
      "cooperative public nonce set is missing"
    let supplied ← cooperativePublicNonces musig nonceTexts
    if transcript.publicNonces ≠ supplied then
      musigError "cooperative partial signature does not bind both revealed nonces"
    let text ← orRefuse message.partialSignature "swp_musig_transcript_invalid"
      "cooperative partial signature is missing"
    let signature ← fixedHex 32 text "cooperative partial signature"
    return { transcript with partialSignatures := transcript.partialSignatures.set participant signature }
  | .finalSignature =>
    let nonceTexts ← orRefuse message.publicNonces "swp_musig_transcript_invalid"
      "cooperative public nonce set is missing"
    let suppliedNonces ← cooperativePublicNonces musig nonceTexts
    let partialTexts ← orRefuse message.partialSignatures "swp_musig_transcript_invalid"
      "cooperative partial signature set is missing"
    let suppliedPartials ← cooperativePartialSignatures partialTexts
    if transcript.publicNonces ≠ suppliedNonces ∨ transcript.partialSignatures ≠ suppliedPartials then
      musigError "cooperative final signature lacks both verified contributions"
    return { transcript with finalSignature := true }
  | .aborted => return { transcript with aborted := true }

/-- One iteration of the loop over a group. -/
def Transcript.add (context : Value) (transcript : Transcript)
    (entry : ParticipantRole × CooperativeSigningMessage) : Checked Transcript := do
  let message := entry.2
  if transcript.finalSignature then musigError "cooperative transcript continues after a final signature"
  if transcript.aborted ∧ message.action ≠ .aborted then
    musigError "cooperative transcript continues after an abort"
  musig.validate message entry.1
  if message.context ≠ context then
    musigError "one cooperative context digest maps to different context bytes"
  let contribution := (message.participantIndex, cooperativeActionRank message.action)
  if contribution ∈ transcript.seen then
    musigError "one participant supplied the same cooperative action twice"
  if 2 ≤ message.participantIndex then
    musigError "cooperative participant index is outside the committed key order"
  ({ transcript with seen := contribution :: transcript.seen } : Transcript).contribute musig message

/-- The body of the loop over the groups. After its last message a transcript cannot be both final and aborted,
    because no message follows either of the two other than an abort after an abort; the check is the source's. -/
def validateSigningGroup (group : List (ParticipantRole × CooperativeSigningMessage)) : Checked Unit := do
  match group with
  | [] => musigError "cooperative signing group is empty"
  | first :: _ =>
    let transcript ← group.foldlM (Transcript.add musig first.2.context) Transcript.empty
    if transcript.aborted ∧ transcript.finalSignature then
      musigError "cooperative transcript cannot be both finalized and aborted"

/-- The order of `String`, which is that of its UTF-8 bytes. -/
def stringLe (left right : String) : Prop := (utf8 left).map UInt8.toNat ≤ (utf8 right).map UInt8.toNat

instance : DecidableRel stringLe := fun left right =>
  inferInstanceAs (Decidable ((utf8 left).map UInt8.toNat ≤ (utf8 right).map UInt8.toNat))

/-- The keys of a `BTreeMap` that was filled from these, in its order. -/
def sortedKeys (keys : List String) : List String := keys.dedup.insertionSort stringLe

def validateCooperativeSigningExchange (messages : List (ParticipantRole × CooperativeSigningMessage)) :
    Checked Unit :=
  (sortedKeys (messages.map (·.2.contextSha256))).forM fun digest =>
    validateSigningGroup musig (messages.filter (·.2.contextSha256 = digest))

end Messages

/-! ## Order of an accepted exchange -/

section Order

variable (musig : MusigRules) (context : Value) (earlier : List CooperativeSigningMessage) (role : ParticipantRole)
  (message : CooperativeSigningMessage) (group : List (ParticipantRole × CooperativeSigningMessage))

def readField (length : Nat) (field : Option String) (label : String) : Option Bytes :=
  field.bind fun text => (fixedHex length text label).toOption

/-- The commitment, nonce or partial signature of a message. -/
def CooperativeSigningMessage.contribution : Option Bytes :=
  match message.action with
  | .nonceCommitment => readField 32 message.nonceCommitment "cooperative nonce commitment"
  | .publicNonce => readField 66 message.publicNonce "cooperative public nonce"
  | .partialSignature => readField 32 message.partialSignature "cooperative partial signature"
  | .finalSignature | .aborted => none

/-- What the two participants have contributed by an action. -/
def contributions (action : CooperativeSigningAction) : Contributions :=
  let contributed (participant : Nat) := earlier.findSome? fun message =>
    if message.action = action ∧ message.participantIndex = participant then message.contribution else none
  ⟨contributed 0, contributed 1⟩

/-- What an action needs of the messages before it: a nonce both commitments and its own opened, a partial signature
    exactly the two nonces, the final signature exactly the two nonces and the two partial signatures. -/
def Grounded : Prop :=
  let bindsNonces := ∃ texts, message.publicNonces = some texts ∧
    cooperativePublicNonces musig texts = .ok (contributions earlier .publicNonce)
  match message.action with
  | .nonceCommitment => message.contribution.isSome
  | .publicNonce =>
    (contributions earlier .nonceCommitment).complete ∧ message.contribution.isSome ∧
      ∃ commitment, readField 32 message.nonceCommitment "cooperative nonce commitment" = some commitment ∧
        (contributions earlier .nonceCommitment).get message.participantIndex = some commitment
  | .partialSignature => bindsNonces ∧ message.contribution.isSome
  | .finalSignature =>
    bindsNonces ∧ ∃ texts, message.partialSignatures = some texts ∧
      cooperativePartialSignatures texts = .ok (contributions earlier .partialSignature)
  | .aborted => True

/-- A message that may come after these in a context. -/
structure Follows : Prop where
  unsigned : ∀ other ∈ earlier, other.action ≠ .finalSignature
  unaborted : (∃ other ∈ earlier, other.action = .aborted) → message.action = .aborted
  valid : musig.validate message role = .ok ()
  context : message.context = context
  once : ∀ other ∈ earlier, other.participantIndex = message.participantIndex → other.action ≠ message.action
  participant : message.participantIndex < 2
  grounded : Grounded musig earlier message

/-- Each message of a group may follow those before it. -/
def Ordered : Prop :=
  ∀ before entry, before ++ [entry] <+: group → Follows musig context (before.map Prod.snd) entry.1 entry.2

/-- The state of the loop after these messages. -/
def Transcript.of : Transcript where
  seen := (earlier.map fun message => (message.participantIndex, cooperativeActionRank message.action)).reverse
  commitments := contributions earlier .nonceCommitment
  publicNonces := contributions earlier .publicNonce
  partialSignatures := contributions earlier .partialSignature
  finalSignature := earlier.any (·.action = .finalSignature)
  aborted := earlier.any (·.action = .aborted)

variable {musig context earlier role message group} {transcript : Transcript}

theorem exists_readField {length : Nat} {field : Option String} {label : String} {holds : Bytes → Prop} :
    (∃ text, field = some text ∧ ∃ bytes, fixedHex length text label = .ok bytes ∧ holds bytes) ↔
      ∃ bytes, readField length field label = some bytes ∧ holds bytes := by
  cases field with
  | none => simp [readField]
  | some text => cases h : fixedHex length text label <;> simp [readField, h, Except.toOption]

theorem cooperativeActionRank_injective : Function.Injective cooperativeActionRank := by
  intro action action'
  cases action <;> cases action' <;> decide

section Contribute

variable (hparticipant : message.participantIndex < 2)
  (honce : ∀ other ∈ earlier, other.participantIndex = message.participantIndex → other.action ≠ message.action)
include hparticipant honce

theorem contributions_append (action : CooperativeSigningAction) :
    contributions (earlier ++ [message]) action =
      match if message.action = action then message.contribution else none with
      | some bytes => (contributions earlier action).set message.participantIndex bytes
      | none => contributions earlier action := by
  by_cases haction : message.action = action
  · subst haction
    have hfresh : earlier.findSome? (fun other => if other.action = message.action ∧
        other.participantIndex = message.participantIndex then other.contribution else none) = none := by
      refine List.findSome?_eq_none_iff.mpr fun other hother => ?_
      rw [if_neg fun h => honce other hother h.2 h.1]
    obtain hindex | hindex : message.participantIndex = 0 ∨ message.participantIndex = 1 := by omega
    all_goals
      rw [hindex] at hfresh
      cases h : message.contribution <;>
        simp [contributions, Contributions.set, List.findSome?_append, hindex, h, hfresh]
  · simp [contributions, haction, List.findSome?_append]

theorem contribute_eq_ok :
    ({ Transcript.of earlier with
        seen := (message.participantIndex, cooperativeActionRank message.action) :: (Transcript.of earlier).seen }
      : Transcript).contribute musig message = .ok transcript ↔
      Grounded musig earlier message ∧ Transcript.of (earlier ++ [message]) = transcript := by
  have happend := contributions_append hparticipant honce
  unfold Transcript.contribute Grounded
  cases haction : message.action
  all_goals
    simp only [bind_eq_ok, orRefuse_eq_ok, musigError, ite_error_eq_ok, pure_eq_ok, exists_readField]
    cases hread : message.contribution <;>
      simp [CooperativeSigningMessage.contribution, haction] at hread 
  all_goals
    simp [Transcript.of, happend, haction, hread, CooperativeSigningMessage.contribution]
  all_goals grind

end Contribute

/-- One pass of the loop. -/
theorem add_eq_ok :
    (Transcript.of earlier).add musig context (role, message) = .ok transcript ↔
      Follows musig context earlier role message ∧ Transcript.of (earlier ++ [message]) = transcript := by
  have hseen : (message.participantIndex, cooperativeActionRank message.action) ∈ (Transcript.of earlier).seen ↔
      ¬ ∀ other ∈ earlier, other.participantIndex = message.participantIndex → other.action ≠ message.action := by
    simp [Transcript.of, cooperativeActionRank_injective.eq_iff]
  simp only [Transcript.add, musigError, ite_error_eq_ok, check_bind_eq_ok, hseen, not_not, not_le]
  constructor
  · rintro ⟨hunsigned, hunaborted, hvalid, hcontext, honce, hparticipant, h⟩
    obtain ⟨hgrounded, rfl⟩ := (contribute_eq_ok hparticipant honce).mp h
    refine ⟨⟨?_, ?_, hvalid, hcontext, honce, hparticipant, hgrounded⟩, rfl⟩
    · simpa [Transcript.of] using hunsigned
    · simpa [Transcript.of] using hunaborted
  · rintro ⟨h, rfl⟩
    refine ⟨?_, ?_, h.valid, h.context, h.once, h.participant,
      (contribute_eq_ok h.participant h.once).mpr ⟨h.grounded, rfl⟩⟩
    · simpa [Transcript.of] using h.unsigned
    · simpa [Transcript.of] using h.unaborted

/-- The check after the loop never fails. -/
theorem Ordered.not_both (h : Ordered musig context group) :
    ¬ ((Transcript.of (group.map Prod.snd)).aborted ∧ (Transcript.of (group.map Prod.snd)).finalSignature) := by
  rcases List.eq_nil_or_concat group with rfl | ⟨before, entry, rfl⟩
  · simp [Transcript.of]
  · have hlast := h before entry (by simp)
    have hunsigned := hlast.unsigned
    have hunaborted := hlast.unaborted
    simp [Transcript.of] at *
    grind

theorem validateSigningGroup_eq_ok (hne : group ≠ []) :
    validateSigningGroup musig group = .ok () ↔ ∃ context, Ordered musig context group := by
  obtain ⟨first, rest, rfl⟩ := List.exists_cons_of_ne_nil hne
  have hstep (before : List (ParticipantRole × CooperativeSigningMessage)) (entry next) :
      (Transcript.of (before.map Prod.snd)).add musig first.2.context entry = .ok next ↔
        Follows musig first.2.context (before.map Prod.snd) entry.1 entry.2 ∧
          Transcript.of ((before ++ [entry]).map Prod.snd) = next := by
    rw [List.map_append]
    exact add_eq_ok
  have hloop (transcript) : (first :: rest).foldlM (Transcript.add musig first.2.context) Transcript.empty =
      .ok transcript ↔ Ordered musig first.2.context (first :: rest) ∧ _ := foldlM_eq_ok hstep
  simp only [validateSigningGroup, bind_eq_ok, hloop, musigError]
  constructor
  · rintro ⟨_, ⟨h, -⟩, -⟩
    exact ⟨_, h⟩
  · rintro ⟨context, h⟩
    obtain rfl := (h [] first (by simp)).context
    exact ⟨_, ⟨h, rfl⟩, if_neg h.not_both⟩

/-- Which exchanges are accepted. -/
theorem signing_exchange_accepted_iff (musig : MusigRules)
    (messages : List (ParticipantRole × CooperativeSigningMessage)) :
    validateCooperativeSigningExchange musig messages = .ok () ↔
      ∀ digest, ∃ context, Ordered musig context (messages.filter (·.2.contextSha256 = digest)) := by
  have hmem (digest) : digest ∈ messages.map (·.2.contextSha256) ↔
      messages.filter (·.2.contextSha256 = digest) ≠ [] := by
    simp [List.filter_eq_nil_iff]
  simp only [validateCooperativeSigningExchange, forM_eq_ok, sortedKeys, List.mem_insertionSort, List.mem_dedup, hmem]
  refine forall_congr' fun digest => ?_
  by_cases hne : messages.filter (·.2.contextSha256 = digest) = []
  · simp only [hne, Ordered, List.prefix_nil]
    exact iff_of_true (by simp) ⟨.null, by simp⟩
  · rw [validateSigningGroup_eq_ok hne, forall_prop_of_true hne]

end Order

end Immortal.Client
