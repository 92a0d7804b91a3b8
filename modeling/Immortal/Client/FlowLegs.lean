import Immortal.Client.ExitPackage

/-!
# `Immortal.Client.FlowLegs` — the legs of a Swap Contract against the flow and its verifiers

Each swap type fixes two legs: who funds, who receives, on which rail. `verifyRequesterTopology` finds exactly
one leg of the contract for each and holds the leg's execution fields against its verifier
(`verifyLegExecutionFields`). For a Bitcoin leg that includes the refund timelock: the contract leg repeats the
metadata of the refund leaf.
-/

namespace Immortal.Client

open Txn Immortal.Bitcoin

/-! ## Asset ids -/

/-- `strip_prefix`. -/
def stripLead : Bytes → Bytes → Option Bytes
  | [], text => some text
  | _ :: _, [] => none
  | wanted :: lead, byte :: text => if wanted = byte then stripLead lead text else none

/-- `strip_suffix`. -/
def stripTail (tail text : Bytes) : Option Bytes := (stripLead tail.reverse text.reverse).map List.reverse

/-- `split_once`: around the first occurrence. -/
def splitOnce (needle : Bytes) : Bytes → Option (Bytes × Bytes)
  | [] => none
  | byte :: text =>
    match stripLead needle (byte :: text) with
    | some rest => some ([], rest)
    | none => (splitOnce needle text).map fun (left, right) => (byte :: left, right)

/-- `rsplit_once`: around the last occurrence. -/
def rsplitOnce (needle : Bytes) : Bytes → Option (Bytes × Bytes)
  | [] => none
  | byte :: text =>
    match rsplitOnce needle text with
    | some (left, right) => some (byte :: left, right)
    | none => (stripLead needle (byte :: text)).map fun rest => ([], rest)

def isLowerHex (length : Nat) (text : Bytes) : Bool := text.length == length && text.all isLowerHexByte

/-- `asset_rail_and_network_str`: the rail and the bytes of the network id. -/
def assetRailAndNetwork (assetId : String) : Checked (String × Bytes) := do
  let rest ← orRefuse (stripLead (utf8 "swp:1:") (utf8 assetId)) "swp_contract_terms_mismatch"
    "asset ID does not carry the SWP namespace"
  match rsplitOnce (utf8 ":btc:") rest with
  | some (network, rail) =>
    if rail = utf8 "chain" then return ("bitcoin", network)
    else if rail = utf8 "lightning" then return ("lightning", network)
    else .error ⟨"swp_contract_terms_mismatch", "Bitcoin asset ID has an unsupported rail"⟩
  | none =>
    let (network, tail) ← orRefuse (splitOnce (utf8 ":elements:") rest) "swp_contract_terms_mismatch"
      "asset ID has an unsupported rail"
    let asset ← orRefuse (stripTail (utf8 ":liquid") tail) "swp_contract_terms_mismatch"
      "Elements asset ID has an unsupported rail"
    refuseIf (!(stripLead (utf8 "bip122:") network).any (isLowerHex 32)) "swp_liquid_network_mismatch"
      "invalid Liquid network identifier"
    refuseIf (!isLowerHex 64 asset) "swp_invalid_asset_id" "invalid Liquid asset identifier"
    return ("liquid", network)

/-- `asset_rail_and_network` on a document. -/
def assetRail (assetId : Value) : Checked (String × Bytes) := do
  let assetId ← orRefuse assetId.asStr "swp_contract_terms_mismatch" "asset ID is not a string"
  assetRailAndNetwork assetId

/-! ## Legs -/

def contractAmount (contract : Members) (name : String) : Checked Nat := do
  let text ← orRefuse (contract.text name) "swp_order_selection_invalid" ("Swap Contract is missing " ++ name)
  canonicalAmount text

/-- The execution fields of a Lightning leg. -/
def verifyLightningLeg (leg verifier : Members) (expectedAmount : Nat) : Checked Unit := do
  requireSame leg verifier "swp_contract_terms_mismatch"
    (["invoice_sha256", "invoice_expiry_seconds", "invoice_minimum_final_cltv_delta"].map fun member =>
      (member, member, "Lightning leg member " ++ member ++ " differs from its verifier"))
  let amountText ← requireString leg "amount" none "swp_contract_terms_mismatch"
  let legAmount ← canonicalAmount amountText
  let invoiceText ← requireString verifier "invoice_amount_msat" none "swp_contract_terms_mismatch"
  let invoiceAmountMsat ← canonicalAmount invoiceText
  refuseIf (legAmount != expectedAmount || legAmount * 1000 != invoiceAmountMsat) "swp_contract_terms_mismatch"
    "Lightning leg amount differs from its invoice commitment"

/-- The amount, script and confirmation policy of a chain leg. -/
def verifyChainLeg (leg verifier : Members) (expectedAmount : Nat) : Checked Unit := do
  let mismatch := "chain leg amount or script differs from its verifier"
  refuseIf (leg.get "amount" != verifier.get "amount") "swp_contract_terms_mismatch" mismatch
  let amountText ← requireString leg "amount" none "swp_contract_terms_mismatch"
  let amount ← canonicalAmount amountText
  refuseIf (amount != expectedAmount || leg.get "script_pubkey" != verifier.get "script_pubkey")
    "swp_contract_terms_mismatch" mismatch
  let confirmation ← object (leg.orNull "confirmation_policy") "chain confirmation policy"
  refuseIf
    (confirmation.get "minimum_confirmations" != verifier.get "minimum_confirmations" ||
      confirmation.get "replacement_policy" != verifier.get "replacement_policy")
    "swp_contract_terms_mismatch" "chain leg confirmation or replacement policy differs from its verifier"

/-- The key of one path of a Bitcoin leg is that of the verifier's leaf for the path. -/
def verifyLegPath (leg : Members) (tree : List Value) (path : String) : Checked Value := do
  let leaf ← orRefuse (tree.find? (·.text "path" == some path)) "swp_contract_terms_mismatch"
    ("Bitcoin leg has no " ++ path ++ " leaf")
  refuseIf (leg.text (path ++ "_public_key") != leaf.text "signing_pubkey") "swp_contract_terms_mismatch"
    ("Bitcoin leg " ++ path ++ " key differs from its executable leaf")
  return leaf

/-- The keys of both paths of a Bitcoin leg, and its refund timelock. -/
def verifyBitcoinLeg (leg verifier : Members) : Checked Unit := do
  let tree ← orRefuse (verifier.items "taproot_tree") "swp_contract_terms_mismatch"
    "Bitcoin leg verifier has no complete Taproot tree"
  let _ ← verifyLegPath leg tree "claim"
  let refund ← verifyLegPath leg tree "refund"
  refuseIf
    (leg.get "refund_condition" != refund.get "condition" || leg.get "refund_lock_value" != refund.get "lock_value")
    "swp_contract_terms_mismatch" "Bitcoin leg refund timelock differs from its executable leaf"

/-- The verifier policy of a Liquid leg. -/
def verifyLiquidLeg (verifier : Members) (assetId : String) : Checked Unit :=
  refuseIf
    (verifier.text "verifier_policy" != some "mkt-swp-liquid-v1" || verifier.text "asset_id" != some assetId ||
      !(verifier.text "confidentiality" == some "explicit" || verifier.text "confidentiality" == some "confidential"))
    "swp_contract_terms_mismatch" "Liquid leg omits its verifier policy, pegged asset, or confidentiality"

def verifyLegExecutionFields (c : Crypto) (leg : Value) (verifier : Members) (asset : Value)
    (paymentHash rail : String) (expectedAmount : Nat) : Checked Unit := do
  let leg ← object leg "Swap Contract leg"
  let assetId ← orRefuse asset.asStr "swp_contract_terms_mismatch" "asset ID is not a string"
  let (assetRail, network) ← assetRailAndNetwork assetId
  refuseIf (assetRail != rail) "swp_contract_terms_mismatch" "leg rail differs from its ordered asset ID"
  let verifierDigest ← documentDigest c (.object verifier)
  refuseIf
    ((leg.text "network_id").map utf8 != some network || leg.text "asset_id" != some assetId ||
      leg.text "payment_hash" != some paymentHash || leg.text "verifier_digest" != some verifierDigest)
    "swp_contract_terms_mismatch"
    "Swap Contract leg omits or changes its network, asset, hash, or verifier binding"
  if rail = "lightning" then
    verifyLightningLeg leg verifier expectedAmount
  else
    verifyChainLeg leg verifier expectedAmount
    if rail = "liquid" then verifyLiquidLeg verifier assetId
    else verifyBitcoinLeg leg verifier

/-- The one leg of the contract with this id, rail and these roles. -/
def flowLeg (legs : List Value) (rail : String) (flow : String × String × String) : Checked Value :=
  match legs.filter fun leg =>
      leg.text "leg_id" == some flow.1 && leg.text "rail" == some rail &&
        leg.text "funding_role" == some flow.2.1 && leg.text "receiving_role" == some flow.2.2 with
  | [leg] => .ok leg
  | _ => .error ⟨"swp_contract_terms_mismatch", "Swap Contract flow signer or leg topology is invalid"⟩

/-- One pass of the loop over the flow's legs. -/
def verifyFlowLeg (c : Crypto) (contract : Members) (legs : List Value) (paymentHash : String)
    (flow : String × String × String) (asset : Value) (rail amountName : String) : Checked Unit := do
  let leg ← flowLeg legs rail flow
  let verifier ← verifierForLeg contract flow.1
  let expectedAmount ← contractAmount contract amountName
  verifyLegExecutionFields c leg verifier asset paymentHash rail expectedAmount

/-- The ordered asset pair fits the swap type. -/
def pairAllowed (swapType : SwapType) (first second : String × Bytes) : Bool :=
  let chainRail := fun rail => rail == "bitcoin" || rail == "liquid"
  match swapType with
  | .submarine => chainRail first.1 && second.1 == "lightning"
  | .reverse => first.1 == "lightning" && chainRail second.1
  | .chain =>
    chainRail first.1 && chainRail second.1 &&
      (first.1 != second.1 || (first.1 == "bitcoin" && first.2 != second.2))

/-- The role of the external effect an exit path is carried out by. -/
def exitEffectRole (exit : ExitTopology) : String := if exit.path = "claim" then "chain_claim" else "chain_refund"

/-- The requester's exits are exactly those of the flow. -/
def verifyRequesterCommitments (commitments : List Value) (exits : List ExitTopology) : Checked Unit :=
  let requester := commitments.filter (·.text "participant_role" == some "requester")
  refuseIf
    (requester.length != exits.length || exits.any fun exit => !requester.any fun commitment =>
      commitment.text "leg_id" == some exit.legId && commitment.text "path" == some exit.path)
    "swp_exit_package_missing" "Swap Contract requester exits do not match the selected flow"

/-- The rails of the asset pair, and the loop over the flow's two legs. -/
def verifyFlowLegs (c : Crypto) (contract : Members) (swapType : SwapType) (legs : List Value) (paymentHash : String) :
    List Value → List (String × String × String) → Checked Unit
  | [asset₁, asset₂], [flow₁, flow₂] => do
    let rail₁ ← assetRail asset₁
    let rail₂ ← assetRail asset₂
    refuseIf (!pairAllowed swapType rail₁ rail₂) "swp_contract_terms_mismatch"
      "ordered asset pair is unsupported for the selected swap type"
    verifyFlowLeg c contract legs paymentHash flow₁ asset₁ rail₁.1 "input_amount"
    verifyFlowLeg c contract legs paymentHash flow₂ asset₂ rail₂.1 "output_amount"
  | _, _ => .error ⟨"swp_contract_terms_mismatch", "Swap Contract requires an ordered asset pair"⟩

def verifyRequesterTopology (c : Crypto) (contract : Members) (swapType : SwapType) : Checked Unit := do
  let topology := requesterTopology swapType
  let legs ← orRefuse (contract.items "legs") "swp_contract_terms_mismatch" "Swap Contract has no legs"
  refuseIf (legs.length != topology.legs.length) "swp_contract_terms_mismatch"
    "Swap Contract has the wrong flow leg count"
  let assets ← orRefuse ((contract.items "asset_pair").filter (·.length = 2)) "swp_contract_terms_mismatch"
    "Swap Contract requires an ordered asset pair"
  let paymentHash ← requireString contract "payment_hash" none "swp_contract_terms_mismatch"
  verifyFlowLegs c contract swapType legs paymentHash assets topology.legs
  let effectBindings ← orRefuse (contract.items "effect_bindings") "swp_contract_terms_mismatch"
    "Swap Contract has no effect bindings"
  let effects := (topology.fundingEffectRole, topology.fundingLegId) ::
    topology.exits.map fun exit => (exitEffectRole exit, exit.legId)
  refuseIf
    (effects.any fun (role, legId) => !effectBindings.any fun binding =>
      binding.text "role" == some role && binding.text "leg_id" == some legId)
    "swp_contract_terms_mismatch" "Swap Contract omits a requester external-effect binding"
  let commitments ← orRefuse (contract.items "exit_package_commitments") "swp_exit_package_missing"
    "Swap Contract has no exit commitments"
  verifyRequesterCommitments commitments topology.exits

/-! ## What an accepted topology says -/

section Accepted

variable {c : Crypto} {contract : Members} {legs : List Value}

/-- The leg of the contract a flow position was matched with, and its verifier. -/
structure FlowLegAccepted (c : Crypto) (contract : Members) (legs : List Value) (flow : String × String × String)
    (rail : String) where
  leg : Value
  verifier : Members
  leg_eq : flowLeg legs rail flow = .ok leg
  verifier_eq : verifierForLeg contract flow.1 = .ok verifier
  fields : ∃ asset paymentHash amount, verifyLegExecutionFields c leg verifier asset paymentHash rail amount = .ok ()

variable {flow : String × String × String}

theorem verifyFlowLeg_ok {paymentHash rail amountName : String} {asset : Value}
    (h : verifyFlowLeg c contract legs paymentHash flow asset rail amountName = .ok ()) :
    Nonempty (FlowLegAccepted c contract legs flow rail) := by
  simp only [verifyFlowLeg, bind_eq_ok] at h
  obtain ⟨leg, hleg, verifier, hverifier, amount, -, hfields⟩ := h
  exact ⟨⟨leg, verifier, hleg, hverifier, asset, paymentHash, amount, hfields⟩⟩

theorem flowLeg_ok {rail : String} {leg : Value}
    (h : flowLeg legs rail flow = .ok leg) :
    leg ∈ legs ∧ leg.text "leg_id" = some flow.1 ∧ leg.text "rail" = some rail := by
  unfold flowLeg at h
  split at h
  · rename_i found hfound
    cases h
    have hmem : leg ∈ legs.filter _ := hfound ▸ List.mem_singleton.mpr rfl
    obtain ⟨hleg, hmatch⟩ := List.mem_filter.mp hmem
    simp only [Bool.and_eq_true, beq_iff_eq] at hmatch
    exact ⟨hleg, hmatch.1.1.1, hmatch.1.1.2⟩
  · cases h

/-- The refund timelock of an accepted Bitcoin leg is the metadata of the verifier's refund leaf. -/
theorem FlowLegAccepted.refund_lock
    (a : FlowLegAccepted c contract legs flow "bitcoin") :
    ∃ refund, declaredLeaf a.verifier "refund" = some refund ∧
      a.leg.get "refund_condition" = refund.get "condition" ∧
      a.leg.get "refund_lock_value" = refund.get "lock_value" := by
  obtain ⟨asset, paymentHash, amount, hfields⟩ := a.fields
  have hlightning : ¬ ("bitcoin" = "lightning") := by decide
  have hliquid : ¬ ("bitcoin" = "liquid") := by decide
  simp only [verifyLegExecutionFields, hlightning, hliquid, if_false, verifyBitcoinLeg, verifyLegPath, bind_eq_ok,
    object_eq_ok, orRefuse_eq_ok, refuseIf_eq_ok] at hfields
  obtain ⟨members, hleg, assetId, -, ⟨assetRail, network⟩, -, ⟨⟩, -, digest, -, ⟨⟩, -, ⟨⟩, -, tree, htree, claim, -,
    refund, ⟨leaf, hleaf, ⟨⟩, -, hrefund⟩, hlock⟩ := hfields
  cases hrefund
  simp only [Bool.or_eq_false_iff, bne_eq_false_iff_eq] at hlock
  refine ⟨refund, ?_, ?_, ?_⟩
  · rw [declaredLeaf, htree]
    exact hleaf
  · rw [hleg]
    exact hlock.1
  · rw [hleg]
    exact hlock.2

/-- An accepted topology: the two flow legs on the rails of the asset pair, and a requester commitment for
    each exit of the flow. -/
structure TopologyAccepted (c : Crypto) (contract : Members) (swapType : SwapType) where
  legs : List Value
  flow₁ : String × String × String
  flow₂ : String × String × String
  rail₁ : String × Bytes
  rail₂ : String × Bytes
  commitments : List Value
  legs_eq : contract.items "legs" = some legs
  length_eq : legs.length = 2
  flows : (requesterTopology swapType).legs = [flow₁, flow₂]
  pair : pairAllowed swapType rail₁ rail₂ = true
  first : FlowLegAccepted c contract legs flow₁ rail₁.1
  second : FlowLegAccepted c contract legs flow₂ rail₂.1
  commitments_eq : contract.items "exit_package_commitments" = some commitments
  exits : ∀ exit ∈ (requesterTopology swapType).exits, ∃ commitment ∈ commitments,
    commitment.text "participant_role" = some "requester" ∧ commitment.text "leg_id" = some exit.legId ∧
      commitment.text "path" = some exit.path

theorem verifyRequesterCommitments_ok {commitments : List Value} {exits : List ExitTopology}
    (h : verifyRequesterCommitments commitments exits = .ok ()) :
    ∀ exit ∈ exits, ∃ commitment ∈ commitments, commitment.text "participant_role" = some "requester" ∧
      commitment.text "leg_id" = some exit.legId ∧ commitment.text "path" = some exit.path := by
  intro exit hexit
  simp only [verifyRequesterCommitments, refuseIf_eq_ok, Bool.or_eq_false_iff, List.any_eq_false] at h
  have hfound := h.2 exit hexit
  simp only [Bool.not_eq_true', Bool.not_eq_false, List.any_eq_true, List.mem_filter, Bool.and_eq_true,
    beq_iff_eq] at hfound
  obtain ⟨commitment, ⟨hmem, hrole⟩, hleg, hpath⟩ := hfound
  exact ⟨commitment, hmem, hrole, hleg, hpath⟩

theorem verifyRequesterTopology_ok {swapType : SwapType} (h : verifyRequesterTopology c contract swapType = .ok ()) :
    Nonempty (TopologyAccepted c contract swapType) := by
  simp only [verifyRequesterTopology, bind_eq_ok, orRefuse_eq_ok] at h
  obtain ⟨legs, hlegs, ⟨⟩, hlength, assets, hassets, paymentHash, -, ⟨⟩, hflows, bindings, -, ⟨⟩, -, commitments,
    hcommitments, hexits⟩ := h
  unfold verifyFlowLegs at hflows
  split at hflows
  · rename_i asset₁ asset₂ flow₁ flow₂ htopology
    simp only [bind_eq_ok] at hflows
    obtain ⟨rail₁, -, rail₂, -, ⟨⟩, hpair, ⟨⟩, hfirst, hsecond⟩ := hflows
    obtain ⟨first⟩ := verifyFlowLeg_ok hfirst
    obtain ⟨second⟩ := verifyFlowLeg_ok hsecond
    have hcount : legs.length = 2 := by
      have heq : legs.length = (requesterTopology swapType).legs.length := by simpa using hlength
      rw [heq, htopology]
      rfl
    exact ⟨⟨legs, flow₁, flow₂, rail₁, rail₂, commitments, hlegs, hcount, htopology, by simpa using hpair, first,
      second, hcommitments, verifyRequesterCommitments_ok hexits⟩⟩
  · cases hflows

/-- Two legs with different ids are all of a list of two. -/
theorem legs_of_pair {first second : Value} {id₁ id₂ : String} (hlength : legs.length = 2) (hfirst : first ∈ legs)
    (hsecond : second ∈ legs) (h₁ : first.text "leg_id" = some id₁) (h₂ : second.text "leg_id" = some id₂)
    (hne : id₁ ≠ id₂) : legs = [first, second] ∨ legs = [second, first] := by
  have hdistinct : first ≠ second := by
    intro heq
    rw [heq, h₂] at h₁
    exact hne (Option.some.inj h₁).symm
  obtain ⟨a, b, rfl⟩ := List.length_eq_two.mp hlength
  simp only [List.mem_cons, List.not_mem_nil, or_false] at hfirst hsecond
  rcases hfirst with rfl | rfl <;> rcases hsecond with rfl | rfl
  · exact absurd rfl hdistinct
  · exact .inl rfl
  · exact .inr rfl
  · exact absurd rfl hdistinct

end Accepted

end Immortal.Client
