import Immortal.Client.Binding
import Immortal.Client.FlowLegs

/-!
# `Immortal.Client.Status` — the Status vocabulary of MKT-SWP

A Status record names a state of the swap from its signer's side. Which states a signer may name, in which
order they may follow each other and which Status of the counterparty each of them has to refer to are fixed
tables of the profile; this module is those tables and the two checks on a Status body that read more than its
state (the zero-confirmation decision and the destination lock handoff).
-/

namespace Immortal.Client

open Immortal.Bitcoin

/-! ## Roles and states -/

inductive ParticipantRole where
  | requester
  | provider
deriving DecidableEq, Repr

def roleForAuthor (config : ClientConfig) (pubkey : String) : Checked ParticipantRole :=
  if pubkey = config.requesterPubkey then .ok .requester
  else if pubkey = config.providerPubkey then .ok .provider
  else .error ⟨"swp_contract_signer_invalid", "signed record author is not a session participant"⟩

/-- `str::ends_with`. -/
def endsWith (text tail : String) : Bool := (stripTail (utf8 tail) (utf8 text)).isSome

/-- `base_state_for`: the MKT state an MKT-SWP state is published under. -/
def baseStateFor (state : String) : Option String :=
  if state = "accepted" then some "accepted"
  else if endsWith state "terms_ready" ∨ endsWith state "verified" ∨ state = "requester_verification_passed" ∨
      state = "hold_invoice_ready" then some "awaiting_input"
  else if state ∈ ["funding_required", "source_funding_required"] then some "funding_required"
  else if endsWith state "funding_broadcast" ∨ endsWith state "funding_observed" ∨
      endsWith state "funding_zero_conf_accepted" ∨ endsWith state "funding_confirmation_required" ∨
      state ∈ ["requester_source_broadcast", "provider_destination_broadcast"] then some "funding_observed"
  else if state ∈ ["lightning_settlement_pending", "provider_source_claim_pending"] then some "settlement_pending"
  else if endsWith state "funding_final" ∨ endsWith state "payment_pending" ∨ endsWith state "htlcs_held" ∨
      endsWith state "claim_pending" ∨ endsWith state "claimed" ∨ state = "cooperative_signing_pending" then
    some "executing"
  else if state ∈ ["completed", "lightning_paid"] then some "completed"
  else if state = "cancelled" then some "cancelled"
  else if state = "expired" then some "expired"
  else if endsWith state "refund_prepared" ∨ endsWith state "refund_pending" ∨ state = "invoice_cancel_pending" then
    some "refund_pending"
  else if endsWith state "refunded" ∨ state = "invoice_cancelled" then some "refunded"
  else if state = "disputed" then some "disputed"
  else if state ∈ ["failed", "unresolved"] then some "failed"
  else none

/-- The states every signer of every flow may name. -/
def commonStates : List String :=
  ["completed", "refunded", "cancelled", "expired", "disputed", "failed", "unresolved"]

/-- What either participant may report of a chain leg. -/
def observationStates : SwapType → List String
  | .submarine | .reverse => ["funding_observed", "funding_final"]
  | .chain =>
    ["source_funding_observed", "source_funding_final", "destination_funding_observed", "destination_funding_final"]

/-- The provider's zero-confirmation decisions. -/
def zeroConfStates : SwapType → List String
  | .submarine => ["funding_zero_conf_accepted", "funding_confirmation_required"]
  | .chain => ["source_funding_zero_conf_accepted", "source_funding_confirmation_required"]
  | .reverse => []

/-- The states of one participant of one flow. -/
def flowStates : SwapType → ParticipantRole → List String
  | .submarine, .requester =>
    ["requester_verification_passed", "requester_funding_broadcast", "funding_required", "refund_prepared",
      "refund_pending"]
  | .submarine, .provider =>
    ["accepted", "lock_terms_ready", "lightning_payment_pending", "lightning_paid", "provider_claim_pending",
      "provider_claimed"]
  | .reverse, .requester =>
    ["requester_invoice_verified", "lightning_payment_pending", "requester_lock_verified",
      "requester_claim_pending", "requester_claimed"]
  | .reverse, .provider =>
    ["accepted", "hold_invoice_ready", "lightning_htlcs_held", "provider_lock_terms_ready",
      "provider_funding_broadcast", "lightning_settlement_pending", "lightning_paid", "provider_refund_prepared",
      "provider_refund_pending", "provider_refunded", "invoice_cancel_pending", "invoice_cancelled"]
  | .chain, .requester =>
    ["requester_source_verified", "requester_source_broadcast", "requester_destination_verified",
      "requester_destination_claim_pending", "requester_destination_claimed", "requester_source_refund_prepared",
      "requester_source_refund_pending", "requester_source_refunded"]
  | .chain, .provider =>
    ["accepted", "source_lock_terms_ready", "source_funding_required", "destination_lock_terms_ready",
      "provider_destination_broadcast", "provider_source_claim_pending", "provider_source_claimed",
      "provider_destination_refund_prepared", "provider_destination_refund_pending",
      "provider_destination_refunded"]

def stateAllowedForSwap (role : ParticipantRole) (state : String) (swapType : SwapType) : Bool :=
  state = "cooperative_signing_pending" || state ∈ commonStates || state ∈ observationStates swapType ||
    (role = .provider && state ∈ zeroConfStates swapType) || state ∈ flowStates swapType role

/-- The states of a flow in the order they may follow each other. -/
def rankedStates : SwapType → List String
  | .submarine =>
    ["accepted", "lock_terms_ready", "requester_verification_passed", "funding_required",
      "requester_funding_broadcast", "funding_observed", "funding_zero_conf_accepted",
      "funding_confirmation_required", "funding_final", "lightning_payment_pending", "lightning_paid",
      "cooperative_signing_pending", "provider_claim_pending", "provider_claimed", "refund_prepared",
      "refund_pending", "refunded", "cancelled", "expired", "completed", "disputed", "failed", "unresolved"]
  | .reverse =>
    ["accepted", "hold_invoice_ready", "requester_invoice_verified", "lightning_payment_pending",
      "lightning_htlcs_held", "provider_lock_terms_ready", "requester_lock_verified",
      "provider_funding_broadcast", "funding_observed", "funding_final", "cooperative_signing_pending",
      "requester_claim_pending", "requester_claimed", "lightning_settlement_pending", "lightning_paid",
      "provider_refund_prepared", "provider_refund_pending", "provider_refunded", "invoice_cancel_pending",
      "invoice_cancelled", "refunded", "cancelled", "expired", "completed", "disputed", "failed", "unresolved"]
  | .chain =>
    ["accepted", "source_lock_terms_ready", "requester_source_verified", "destination_lock_terms_ready",
      "requester_destination_verified", "source_funding_required", "requester_source_broadcast",
      "source_funding_observed", "source_funding_zero_conf_accepted", "source_funding_confirmation_required",
      "source_funding_final", "provider_destination_broadcast", "destination_funding_observed",
      "destination_funding_final", "requester_destination_claim_pending", "requester_destination_claimed",
      "provider_source_claim_pending", "provider_source_claimed", "provider_destination_refund_prepared",
      "provider_destination_refund_pending", "provider_destination_refunded", "requester_source_refund_prepared",
      "requester_source_refund_pending", "requester_source_refunded", "refunded", "cancelled", "expired",
      "completed", "disputed", "failed", "unresolved"]

def transitionRank (swapType : SwapType) (state : String) : Option Nat := (rankedStates swapType).idxOf? state

/-- The zero-confirmation steps that are allowed next to the ranking. -/
def zeroConfStatusTransition (swapType : SwapType) (previous current : String) : Bool :=
  match swapType with
  | .submarine =>
    (previous, current) ∈
      [("funding_observed", "funding_zero_conf_accepted"),
        ("funding_zero_conf_accepted", "lightning_payment_pending"),
        ("funding_zero_conf_accepted", "funding_confirmation_required"),
        ("lightning_payment_pending", "funding_confirmation_required"),
        ("funding_confirmation_required", "funding_final")]
  | .chain =>
    (previous, current) ∈
      [("source_funding_observed", "source_funding_zero_conf_accepted"),
        ("source_funding_zero_conf_accepted", "provider_destination_broadcast"),
        ("source_funding_zero_conf_accepted", "source_funding_confirmation_required"),
        ("source_funding_confirmation_required", "source_funding_final")]
  | .reverse => false

/-- The Status of the counterparty a Status has to refer to. -/
def crossParticipantStatusPrerequisite :
    SwapType → ParticipantRole → String → Option (ParticipantRole × String)
  | .submarine, .requester, "requester_verification_passed" => some (.provider, "lock_terms_ready")
  | .reverse, .provider, "lightning_htlcs_held" => some (.requester, "lightning_payment_pending")
  | .reverse, .requester, "requester_invoice_verified" => some (.provider, "hold_invoice_ready")
  | .reverse, .requester, "requester_lock_verified" => some (.provider, "provider_lock_terms_ready")
  | .reverse, .provider, "provider_funding_broadcast" => some (.requester, "requester_lock_verified")
  | .reverse, .requester, "requester_claim_pending" => some (.provider, "funding_final")
  | .reverse, .provider, "lightning_settlement_pending" => some (.requester, "requester_claimed")
  | .chain, .requester, "requester_source_verified" => some (.provider, "source_lock_terms_ready")
  | .chain, .provider, "destination_lock_terms_ready" => some (.requester, "requester_source_verified")
  | .chain, .requester, "requester_destination_verified" => some (.provider, "destination_lock_terms_ready")
  | .chain, .provider, "source_funding_required" => some (.requester, "requester_destination_verified")
  | .chain, .requester, "requester_source_broadcast" => some (.provider, "source_funding_required")
  | .chain, .requester, "requester_destination_claim_pending" => some (.provider, "destination_funding_final")
  | .chain, .provider, "provider_source_claim_pending" => some (.requester, "requester_destination_claimed")
  | .chain, .requester, "requester_source_refund_pending" => some (.provider, "provider_destination_refunded")
  | .chain, .provider, "refunded" => some (.requester, "requester_source_refunded")
  | _, _, _ => none

/-- A prerequisite is always a Status of the other participant. -/
theorem prerequisite_other_role {swapType : SwapType} {role required : ParticipantRole} {state requiredState : String}
    (h : crossParticipantStatusPrerequisite swapType role state = some (required, requiredState)) :
    required ≠ role := by
  unfold crossParticipantStatusPrerequisite at h
  split at h <;> simp_all <;> (rw [← h.1]; decide)

/-! ## Bodies -/

/-- The decision a zero-confirmation state stands for. -/
def zeroConfDecision (swapType : SwapType) (role : ParticipantRole) (state : String) : Option String :=
  match swapType, role, state with
  | .submarine, .provider, "funding_zero_conf_accepted" => some "accepted"
  | .chain, .provider, "source_funding_zero_conf_accepted" => some "accepted"
  | .submarine, .provider, "funding_confirmation_required" => some "confirmation_required"
  | .chain, .provider, "source_funding_confirmation_required" => some "confirmation_required"
  | _, _, _ => none

/-- An error of the checks on a Status body. -/
def statusInvalid {α : Type} (message : String) : Checked α := .error ⟨"swp_status_transition_invalid", message⟩

/-- `as_u64` and `u32::try_from`. -/
def Value.asU32 (value : Value) : Option Nat := value.asU64.filter (· < 2 ^ 32)

def zeroConfMembers : List String :=
  ["amount", "decision", "input_outpoints", "output_index", "policy_id", "reason", "replacement_transaction_id",
    "transaction_id", "view"]

/-- The loop over the input outpoints of a decision, with the outpoints it has seen. -/
def verifyZeroConfInputs : List (String × Nat) → List Value → Checked Unit
  | _, [] => .ok ()
  | seen, value :: rest => do
    let input ← object value "zero-confirmation input"
    if input.length ≠ 2 then statusInvalid "zero-confirmation input has unknown members"
    let txid ← requireString input "txid" none "swp_status_transition_invalid"
    requireLowerHex32 txid "zero-confirmation input transaction ID"
    let vout ← orRefuse ((input.get "vout").bind Value.asU32) "swp_status_transition_invalid"
      "zero-confirmation input output index is invalid"
    if (txid, vout) ∈ seen then statusInvalid "zero-confirmation input proof contains a duplicate"
    verifyZeroConfInputs ((txid, vout) :: seen) rest

/-- The fields that say why confirmation is required. -/
def verifyZeroConfReason (acceptance : Members) (decision : String) : Checked Unit := do
  let reason := acceptance.text "reason"
  let replacement := acceptance.text "replacement_transaction_id"
  if decision = "accepted" then
    if reason.isSome ∨ replacement.isSome then
      statusInvalid "accepted zero-confirmation decision carries downgrade fields"
  else if !reason.any (· ∈ ["replacement", "conflict", "mempool_missing", "ancestor_unconfirmed", "aggregate_cap",
      "per_swap_cap"]) then
    statusInvalid "zero-confirmation downgrade reason is invalid"
  match replacement with
  | none => return ()
  | some replacement =>
    requireLowerHex32 replacement "zero-confirmation replacement transaction ID"
    if !reason.any (· ∈ ["replacement", "conflict"]) then
      statusInvalid "zero-confirmation replacement ID has no replacement or conflict reason"

/-- The decision's own fields and its binding to the funding transaction of the Status. -/
def verifyZeroConfBinding (statusProfile acceptance : Members) (decision : String) : Checked Unit := do
  if acceptance.any (fun member => member.1 ∉ zeroConfMembers) ∨ acceptance.text "decision" ≠ some decision ∨
      acceptance.text "view" ≠ some "provider_local_bitcoind" ∨
      acceptance.text "policy_id" ≠ some "btc-zero-conf-bounded-v1" then
    statusInvalid "zero-confirmation decision vocabulary is invalid"
  let transactionId ← orRefuse (acceptance.text "transaction_id") "swp_status_transition_invalid"
    "zero-confirmation decision has no transaction ID"
  requireLowerHex32 transactionId "zero-confirmation transaction ID"
  if statusProfile.text "transaction_id" ≠ some transactionId ∨
      ((acceptance.get "output_index").bind Value.asU32).isNone then
    statusInvalid "zero-confirmation funding binding is invalid"
  let amount ← (acceptance.text "amount").mapM canonicalAmount
  if amount.all (· = 0) then statusInvalid "zero-confirmation funding binding is invalid"

def validateZeroConfStatus (statusProfile : Members) (role : ParticipantRole) (state : String) (swapType : SwapType) :
    Checked Unit :=
  match zeroConfDecision swapType role state with
  | none =>
    if statusProfile.contains "zero_confirmation_acceptance" then
      statusInvalid "zero-confirmation decision appears outside its provider state"
    else .ok ()
  | some decision => do
    let acceptance ← object (statusProfile.orNull "zero_confirmation_acceptance") "zero-confirmation decision"
    verifyZeroConfBinding statusProfile acceptance decision
    let inputs ← orRefuse
      ((acceptance.items "input_outpoints").filter fun inputs => !inputs.isEmpty && inputs.length ≤ 256)
      "swp_status_transition_invalid" "zero-confirmation decision has no bounded input proof"
    verifyZeroConfInputs [] inputs
    verifyZeroConfReason acceptance decision

def validateDestinationLockHandoff (config : ClientConfig) (records : List Record) (status : Record) :
    Checked Unit := do
  match records.filter fun record =>
      record.kind = mktSwpSwapContractKind && record.pubkey = config.requesterPubkey with
  | [contractRecord] =>
    let contractContent ← contractRecord.content
    let contractProfile ← profile contractContent "requester Swap Contract profile"
    let contract ← object (contractProfile.orNull "contract") "requester Swap Contract"
    let verifier ← verifierForLeg contract "destination"
    let statusContent ← status.content
    let handoff ← profile statusContent "destination lock Status"
    for member in ["funding_transaction", "funding_transaction_sha256"] do
      if handoff.get member ≠ verifier.get member then
        statusInvalid ("destination lock Status changes " ++ member)
  | _ => statusInvalid "destination handoff requires one requester Swap Contract"

end Immortal.Client
