import Immortal.Bitcoin.Transaction
import Immortal.Client.Binding
import Immortal.Client.FlowLegs
import Immortal.Client.SpendingPaths

/-!
# `Immortal.Client.VerifyBeforeFund` — what a requester verifies before it funds a swap

`verify_before_fund` is the last check between a signed session and the requester's money: the contract terms,
the timeout ladder, the funding output, the invoice and the exit packages are all held against each other, and
only then is the wallet asked to fund. Two of these checks meet at the refund timelock. The ladder is compared
with the contract's ladder and its inequalities are checked; the executable refund leaf is compared with the
contract leg. The result of this module is what connects the two numbers: nothing but the contract leg itself.
-/

namespace Immortal.Client

open Txn Immortal.Bitcoin

/-! ## Inputs -/

structure FundingVerificationInput where
  rawTransaction : String
  outputIndex : Nat
  expectedAmount : String
  expectedScriptPubkey : String
  taprootOutputKey : String
  taprootScript : String
  taprootControlBlock : String

structure InvoiceVerificationInput where
  invoice : String
  expectedNetwork : String
  expectedAmountMsat : String
  observedAt : Nat
  requiredMinimumFinalCltvDelta : Nat

structure VerifyBeforeFundInput where
  observedAt : Nat
  paymentHash : String
  funding : FundingVerificationInput
  invoice : Option InvoiceVerificationInput
  timeoutLadder : TimeoutLadder
  minimumConfirmations : Nat
  replacementPolicy : String

inductive BitcoinNetwork where
  | bitcoin
  | testnet
  | signet
  | regtest
deriving DecidableEq, Repr

def networkName : BitcoinNetwork → String
  | .bitcoin => "bitcoin"
  | .testnet => "testnet"
  | .signet => "signet"
  | .regtest => "regtest"

/-- The members of a parsed BOLT11 invoice the client reads. -/
structure Bolt11Invoice where
  network : BitcoinNetwork
  amountMsat : Option Nat
  timestamp : Nat
  paymentHash : Bytes32
  expirySeconds : Nat
  minimumFinalCltvDelta : Nat
deriving DecidableEq, Repr

structure LightningReadinessRequest where
  orderId : String
  legId : String
  invoiceSha256 : String
  paymentHash : String
  amountMsat : String
  network : String
  invoiceExpiresAt : Nat
  minimumFinalCltvDelta : Nat
  maximumRoutingFee : String
  holdInvoiceRequired : Bool
  holdExpiryHeight : Nat

/-- `LocalLightningReadiness`; its state has the one value `acceptable`. -/
structure LocalLightningReadiness where
  invoiceSha256 : String
  paymentHash : String
  observedAt : Nat

inductive FundingAction where
  | broadcastBitcoin (effectId legId rawTransaction : String)
  | payLightningInvoice (effectId legId invoice maximumRoutingFee : String) (invoiceExpiresAt
      minimumFinalCltvDelta : Nat) (holdInvoiceRequired : Bool) (holdExpiryHeight : Nat)
deriving DecidableEq, Repr

def FundingAction.effectId : FundingAction → String
  | .broadcastBitcoin effectId _ _ => effectId
  | .payLightningInvoice effectId _ _ _ _ _ _ _ => effectId

structure FundingAuthorizationRequest where
  sessionId : String
  orderId : String
  quoteId : String
  swapType : SwapType
  action : FundingAction
deriving DecidableEq, Repr

structure ExternalEffectResult where
  orderId : String
  effectId : String
  requestSha256 : String
  externalIdentifier : String
  resultSha256 : String

/-- `SwapSession`, with the data its funding check reads and returns. -/
structure SwapSession where
  config : ClientConfig
  signedRecords : List Record
  exitPackages : List ExitPackage
  externalEffects : List (String × ExternalEffectResult)
  fundingRequest : Option FundingAuthorizationRequest

/-- What the client calls and this development does not open: the two crates behind `Crypto`, the profile
    checks of the Quote, the derived provider package, the invoice parser and the digest of a funding request. -/
structure ClientEnv where
  crypto : Crypto
  checks : QuoteChecks
  providerClaim : BoundSession → Checked ExitPackage
  parseBolt11 : String → Verified Bolt11Invoice
  requestSha256 : FundingAuthorizationRequest → Checked String

/-! ## Checks -/

/-- `decode_hex_32`. -/
def decodeHex32 (value label : String) : Checked Bytes32 := do
  requireLowerHex32 value label
  let bytes ← decodeHex value label
  orRefuse (Bytes32.ofBytes bytes) "swp_contract_terms_mismatch" "hex length differs"

def bitcoinVerifierLegId (contract : Members) (swapType : SwapType) : Checked String :=
  let bitcoinLegs := (((contract.items "legs").getD []).filter (·.text "rail" == some "bitcoin")).filterMap
    (·.text "leg_id")
  match bitcoinLegs with
  | [legId] => .ok legId
  | _ =>
    orRefuse (bitcoinLegs.find? (· = (requesterTopology swapType).bitcoinVerifierLegId))
      "swp_contract_terms_mismatch" "Swap Contract has no unambiguous Bitcoin verifier leg"

/-- The output and the script of the funding transaction are those of the local input. -/
def verifyFundingOutput (c : Crypto) (input : VerifyBeforeFundInput) (raw : Bytes) : Checked Unit := do
  let transaction ← fromVerified "swp_script_invalid" "funding transaction is invalid" (Transaction.parse raw)
  let output ← orRefuse transaction.outputs[input.funding.outputIndex]? "swp_terms_mismatch"
    "funding output does not exist"
  let amount ← canonicalAmount input.funding.expectedAmount
  let mismatch := "funding output amount or scriptPubKey differs from local terms"
  refuseIf (output.valueSat != amount) "swp_terms_mismatch" mismatch
  let expected ← decodeHex input.funding.expectedScriptPubkey "expected scriptPubKey"
  refuseIf (output.scriptPubkey != expected) "swp_terms_mismatch" mismatch
  let outputKey ← decodeHex32 input.funding.taprootOutputKey "Taproot output key"
  refuseIf (!c.isXOnly outputKey) "swp_script_invalid" "Taproot output key is invalid"
  let script ← decodeHex input.funding.taprootScript "Taproot script"
  let _ ← fromVerified "swp_script_invalid" "swap script is invalid" (parseSwapScript script)
  let controlBlock ← decodeHex input.funding.taprootControlBlock "Taproot control block"
  fromVerified "swp_script_commitment_mismatch" "Taproot commitment is invalid"
    (verifyControlBlock c outputKey script controlBlock)
  refuseIf (output.scriptPubkey != [0x51, 0x20] ++ outputKey.1) "swp_script_commitment_mismatch"
    "funding output does not pay the re-derived Taproot key"

/-- `for (input_name, verifier_name, expected) in checks`. -/
def requireVerifierTexts (verifier : Members) : List (String × String × String) → Checked Unit
  | [] => .ok ()
  | (inputName, verifierName, expected) :: rest => do
    refuseIf (verifier.text verifierName != some expected) "swp_contract_terms_mismatch"
      ("local verifier input " ++ inputName ++ " differs from the Swap Contract")
    requireVerifierTexts verifier rest

def verifyFundingInput (c : Crypto) (input : VerifyBeforeFundInput) (bound : BoundSession) : Checked Unit := do
  let raw ← decodeHex input.funding.rawTransaction "funding transaction"
  verifyFundingOutput c input raw
  refuseIf (input.minimumConfirmations == 0) "swp_confirmation_insufficient"
    "quoted confirmation threshold must be positive"
  refuseIf (!(input.replacementPolicy == "reject" || input.replacementPolicy == "track")) "swp_terms_mismatch"
    "replacement policy is unknown"
  let contract ← object bound.contract "Swap Contract"
  let legId ← bitcoinVerifierLegId contract bound.swapType
  let verifier ← verifierForLeg contract legId
  let exit ← orRefuse ((requesterTopology bound.swapType).exits.find? (·.legId = legId))
    "swp_contract_terms_mismatch" "Bitcoin verifier leg has no requester exit path"
  let scriptMember := verifierMember verifier (pathScriptMember exit.path) "taproot_script"
  let controlMember := verifierMember verifier (pathControlMember exit.path) "taproot_control_block"
  requireVerifierTexts verifier
    [("funding_transaction_sha256", "funding_transaction_sha256", lowerHex (c.sha256 raw).1),
      ("amount", "amount", input.funding.expectedAmount),
      ("script_pubkey", "script_pubkey", input.funding.expectedScriptPubkey),
      ("taproot_output_key", "taproot_output_key", input.funding.taprootOutputKey),
      ("taproot_script", scriptMember, input.funding.taprootScript),
      ("taproot_control_block", controlMember, input.funding.taprootControlBlock),
      ("minimum_confirmations", "minimum_confirmations", toString input.minimumConfirmations),
      ("replacement_policy", "replacement_policy", input.replacementPolicy)]
  refuseIf ((verifier.get "output_index").bind Value.asU64 != some input.funding.outputIndex)
    "swp_contract_terms_mismatch" "funding output index differs from the Swap Contract"

section Checks

variable (env : ClientEnv)

/-- The invoice of a Lightning flow against the contract's Lightning verifier. -/
def verifyLightningInvoice (bound : BoundSession) (input : InvoiceVerificationInput) : Checked Unit := do
  let invoice ← fromVerified "swp_invoice_invalid" "BOLT11 is invalid" (env.parseBolt11 input.invoice)
  let amountMsat ← orRefuse invoice.amountMsat "swp_invoice_invalid" "amountless invoice is invalid in v1"
  let expectedAmount ← canonicalAmount input.expectedAmountMsat
  refuseIf
    (amountMsat != expectedAmount || lowerHex invoice.paymentHash.1 != bound.paymentHash ||
      networkName invoice.network != input.expectedNetwork)
    "swp_invoice_invalid" "invoice network, amount, or payment hash differs from the Swap Contract"
  let expiresAt ← orRefuse (checkedAdd 64 invoice.timestamp invoice.expirySeconds) "swp_invoice_invalid"
    "invoice expiry overflows"
  refuseIf (expiresAt ≤ input.observedAt || invoice.minimumFinalCltvDelta < input.requiredMinimumFinalCltvDelta)
    "swp_invoice_invalid" "invoice is expired or its final CLTV delta is below the quoted minimum"
  let contract ← object bound.contract "Swap Contract"
  let legId ← orRefuse (requesterTopology bound.swapType).invoiceVerifierLegId "swp_contract_terms_mismatch"
    "selected flow has no invoice verifier leg"
  let verifier ← verifierForLeg contract legId
  refuseIf
    (verifier.text "invoice_sha256" != some (lowerHex (env.crypto.sha256 (utf8 input.invoice)).1) ||
      verifier.text "invoice_amount_msat" != some input.expectedAmountMsat ||
      verifier.text "invoice_network" != some input.expectedNetwork ||
      verifier.text "invoice_expiry_seconds" != some (toString invoice.expirySeconds) ||
      verifier.text "invoice_minimum_final_cltv_delta" != some (toString input.requiredMinimumFinalCltvDelta))
    "swp_contract_terms_mismatch" "invoice verifier input differs from the Swap Contract"

def verifyInvoiceInput (input : VerifyBeforeFundInput) (bound : BoundSession) : Checked Unit :=
  match bound.swapType with
  | .chain =>
    refuseIf input.invoice.isSome "swp_invoice_invalid" "chain swap unexpectedly carries a Lightning invoice"
  | .submarine | .reverse => do
    let invoice ← orRefuse input.invoice "swp_invoice_invalid" "Lightning swap requires an invoice"
    verifyLightningInvoice env bound invoice

def lightningReadinessRequest (input : VerifyBeforeFundInput) (bound : BoundSession) :
    Checked LightningReadinessRequest := do
  let invoiceInput ← orRefuse input.invoice "swp_invoice_invalid" "reverse swap has no Lightning invoice"
  let invoice ← fromVerified "swp_invoice_invalid" "BOLT11 is invalid" (env.parseBolt11 invoiceInput.invoice)
  let invoiceExpiresAt ← orRefuse (checkedAdd 64 invoice.timestamp invoice.expirySeconds) "swp_invoice_invalid"
    "invoice expiry overflows"
  let contract ← object bound.contract "Swap Contract"
  let maximumRoutingFee ← requireString contract "lightning_routing_fee_budget" none "swp_contract_terms_mismatch"
  let _ ← canonicalAmount maximumRoutingFee
  let holdExpiryHeight ← match input.timeoutLadder with
    | .reverse ladder => .ok ladder.holdExpiryHeight
    | _ => .error ⟨"swp_timeout_ladder_unsafe", "Lightning readiness requires the reverse timeout ladder"⟩
  return ⟨bound.order.id, (requesterTopology bound.swapType).fundingLegId,
    lowerHex (env.crypto.sha256 (utf8 invoiceInput.invoice)).1, bound.paymentHash, invoiceInput.expectedAmountMsat,
    invoiceInput.expectedNetwork, invoiceExpiresAt, invoiceInput.requiredMinimumFinalCltvDelta, maximumRoutingFee,
    true, holdExpiryHeight⟩

end Checks

def validateLightningReadiness (request : LightningReadinessRequest) (readiness : LocalLightningReadiness)
    (localObservedAt : Nat) : Checked Unit :=
  refuseIf
    (readiness.invoiceSha256 != request.invoiceSha256 || readiness.paymentHash != request.paymentHash ||
      readiness.observedAt < localObservedAt || request.invoiceExpiresAt ≤ readiness.observedAt)
    "swp_funding_not_authorized" "local Lightning readiness does not bind the verified invoice and timing"

/-- A control character of `char::is_control`, on UTF-8 bytes: C0, DEL, and C1 behind the lead byte `0xc2`. -/
def hasControl : Bytes → Bool
  | [] => false
  | byte :: rest =>
    byte.toNat < 32 || byte = 127 ||
      (byte = 0xc2 && rest.head?.any (fun next => 0x80 ≤ next.toNat && next.toNat ≤ 0x9f)) || hasControl rest

def validateEffect (effect : ExternalEffectResult) : Checked Unit := do
  requireLowerHex32 effect.orderId "effect Order ID"
  requireLowerHex32 effect.effectId "effect ID"
  requireLowerHex32 effect.requestSha256 "effect request digest"
  requireLowerHex32 effect.resultSha256 "effect result digest"
  refuseIf
    (effect.externalIdentifier == "" || 512 < (utf8 effect.externalIdentifier).length ||
      hasControl (utf8 effect.externalIdentifier))
    "swp_external_effect_conflict" "external effect identifier is not bounded public metadata"

/-! ## Entry points -/

/-- A local adapter that answers a readiness request or refuses it with a text. -/
abbrev LightningReadinessAdapter := LightningReadinessRequest → Except String LocalLightningReadiness

/-- `wallet_authorize`. -/
abbrev WalletAuthorize := FundingAuthorizationRequest → Except String Unit

/-- The answer of a local adapter, its refusal turned into a client error. -/
def fromLocal {α : Type} (text : String) : Except String α → Checked α
  | .ok value => .ok value
  | .error error => .error ⟨"swp_funding_not_authorized", text ++ ": " ++ error⟩

section Entry

variable (env : ClientEnv)

/-- The action the wallet is asked to authorize. -/
def fundingAction (observe : Option LightningReadinessAdapter) (input : VerifyBeforeFundInput) (bound : BoundSession)
    (fundingEffectId : String) : Checked FundingAction := do
  let legId := (requesterTopology bound.swapType).fundingLegId
  match bound.swapType with
  | .submarine | .chain => return .broadcastBitcoin fundingEffectId legId input.funding.rawTransaction
  | .reverse =>
    let request ← lightningReadinessRequest env input bound
    let observe ← orRefuse observe "swp_funding_not_authorized"
      "reverse funding requires a local Lightning readiness adapter"
    let readiness ← fromLocal "local Lightning adapter refused readiness" (observe request)
    validateLightningReadiness request readiness input.observedAt
    let invoice ← orRefuse input.invoice "swp_invoice_invalid" "reverse funding requires the verified invoice"
    return .payLightningInvoice fundingEffectId legId invoice.invoice request.maximumRoutingFee
      request.invoiceExpiresAt request.minimumFinalCltvDelta request.holdInvoiceRequired request.holdExpiryHeight

/-- A request that was carried out before must be the same one; any other is put to the wallet. -/
def authorizeRequest (authorize : WalletAuthorize) (effects : List (String × ExternalEffectResult))
    (request : FundingAuthorizationRequest) : Checked Unit :=
  match effects.lookup request.action.effectId with
  | some previous => do
    validateEffect previous
    let digest ← env.requestSha256 request
    refuseIf (previous.requestSha256 != digest) "swp_external_effect_conflict"
      "recorded funding effect differs from the verified funding request"
  | none => fromLocal "embedding wallet refused funding" (authorize request)

/-- The ladder is safe, belongs to the swap type, is fresh, and is the one the contract carries. -/
def verifyLadder (ladder : TimeoutLadder) (observedAt : Nat) (bound : BoundSession) : Checked Unit := do
  ladder.validate
  refuseIf (ladder.swapType != bound.swapType) "swp_timeout_ladder_unsafe"
    "timeout ladder belongs to a different swap type"
  let contract ← object bound.contract "Swap Contract"
  let skewText ← requireString contract "clock_skew_seconds" none "swp_timeout_ladder_unsafe"
  let clockSkewSeconds ← canonicalAmount skewText
  ladder.validateObservationTime observedAt clockSkewSeconds
  let contractLadder ← orRefuse (contract.get "timeout_ladder") "swp_timeout_ladder_unsafe"
    "Swap Contract has no timeout ladder"
  refuseIf (ladder.toValue != contractLadder) "swp_timeout_ladder_unsafe"
    "local timeout ladder differs from the Swap Contract"

/-- `BoundSession::verify_requester_topology`. -/
def verifyBoundTopology (c : Crypto) (bound : BoundSession) : Checked Unit := do
  let contract ← object bound.contract "Swap Contract"
  verifyRequesterTopology c contract bound.swapType

def verifyBeforeFundInner (session : SwapSession) (input : VerifyBeforeFundInput)
    (observe : Option LightningReadinessAdapter) (authorize : WalletAuthorize) : Checked SwapSession := do
  let cancellation ← effectiveCancellation session.signedRecords
  refuseIf cancellation.isSome "swp_cancel_ineffective" "funding cannot begin after cancellation becomes effective"
  let bound ← fromRecords env.crypto env.checks session.config session.signedRecords
  verifyContractTerms env.checks bound
  verifyLocalExpiration env.checks bound input.observedAt
  verifyBoundTopology env.crypto bound
  verifyLadder input.timeoutLadder input.observedAt bound
  requireLowerHex32 input.paymentHash "verification payment hash"
  refuseIf (input.paymentHash != bound.paymentHash) "swp_payment_hash_mismatch"
    "local payment hash differs from the bound contract"
  verifyFundingInput env.crypto input bound
  verifyInvoiceInput env input bound
  verifyExitPackages env.crypto env.providerClaim session.exitPackages bound
  let topology := requesterTopology bound.swapType
  let fundingEffectId ← effectId env.crypto bound.order.id topology.fundingEffectRole topology.fundingLegId
  let action ← fundingAction env observe input bound fundingEffectId
  let request : FundingAuthorizationRequest :=
    ⟨session.config.sessionId, bound.order.id, bound.quote.id, bound.swapType, action⟩
  authorizeRequest env authorize session.externalEffects request
  return { session with fundingRequest := some request }

def verifyBeforeFund (session : SwapSession) (input : VerifyBeforeFundInput) (authorize : WalletAuthorize) :
    Checked SwapSession :=
  verifyBeforeFundInner env session input none authorize

def verifyBeforeFundWithLightning (session : SwapSession) (input : VerifyBeforeFundInput)
    (observe : LightningReadinessAdapter) (authorize : WalletAuthorize) : Checked SwapSession :=
  verifyBeforeFundInner env session input (some observe) authorize

end Entry

/-! ## Result -/

/-- The condition in the script of the refund leaf declared for the verified Bitcoin leg. -/
def refundCondition (c : Crypto) (bound : BoundSession) : Option LeafCondition := do
  let contract ← bound.contract.asObject
  let legId ← (bitcoinVerifierLegId contract bound.swapType).toOption
  let verifier ← (verifierForLeg contract legId).toOption
  let script ← declaredScript verifier "refund"
  let leaf ← (parseExitLeafScript c script).toOption
  return leaf.condition

/-- The contract's verified Bitcoin leg. -/
def bitcoinLeg (bound : BoundSession) : Option Value := do
  let contract ← bound.contract.asObject
  let legId ← (bitcoinVerifierLegId contract bound.swapType).toOption
  contractLeg contract legId

/-- The contract leg names a CLTV refund at this height. -/
def LegRefundLock (bound : BoundSession) (height : Nat) : Prop :=
  (bitcoinLeg bound).bind (·.text "refund_condition") = some "cltv" ∧
    (bitcoinLeg bound).bind (·.text "refund_lock_value") = some (toString height)

section Result

variable {c : Crypto} {contract : Members} {swapType : SwapType}

/-- Of a chain leg and a Lightning leg only the chain leg can be the Bitcoin one. -/
theorem bitcoinVerifierLegId_pair {legs : List Value} {chainLeg lightningLeg : Value} {chainId rail legId : String}
    (hlegs : contract.items "legs" = some legs)
    (hpair : legs = [chainLeg, lightningLeg] ∨ legs = [lightningLeg, chainLeg])
    (hid : chainLeg.text "leg_id" = some chainId) (hrail : chainLeg.text "rail" = some rail)
    (hlightning : lightningLeg.text "rail" = some "lightning")
    (h : bitcoinVerifierLegId contract swapType = .ok legId) : rail = "bitcoin" ∧ legId = chainId := by
  have hfilter : legs.filter (·.text "rail" == some "bitcoin") = if rail = "bitcoin" then [chainLeg] else [] := by
    rcases hpair with rfl | rfl
    · by_cases hbitcoin : rail = "bitcoin"
      · simp [hrail, hlightning, hbitcoin]
      · simp [hrail, hlightning, hbitcoin]
    · by_cases hbitcoin : rail = "bitcoin"
      · simp [hrail, hlightning, hbitcoin]
      · simp [hrail, hlightning, hbitcoin]
  unfold bitcoinVerifierLegId at h
  simp only [hlegs, Option.getD_some, hfilter] at h
  by_cases hbitcoin : rail = "bitcoin"
  · simp only [hbitcoin, if_true, List.filterMap_cons, hid] at h
    exact ⟨hbitcoin, (Except.ok.inj h).symm⟩
  · simp [hbitcoin] at h

/-- The chain leg of a Lightning flow, as the topology accepted it. -/
structure ChainLegFound (c : Crypto) (contract : Members) (t : List Value) (legId : String) where
  flow : String × String × String
  accepted : FlowLegAccepted c contract t flow "bitcoin"
  flow_id : flow.1 = legId
  leg_eq : contractLeg contract legId = some accepted.leg

/-- Next to an accepted Lightning leg, the verified Bitcoin leg is the other accepted leg. -/
theorem chainLegFound_of_pair {legs : List Value} {flow flow' : String × String × String} {rail rail' legId : String}
    (a : FlowLegAccepted c contract legs flow rail) (b : FlowLegAccepted c contract legs flow' rail')
    (hlegs : contract.items "legs" = some legs) (hlength : legs.length = 2) (hne : flow.1 ≠ flow'.1)
    (hlightning : rail' = "lightning") (h : bitcoinVerifierLegId contract swapType = .ok legId) :
    Nonempty (ChainLegFound c contract legs legId) ∧ flow.1 = legId := by
  subst hlightning
  obtain ⟨hmem, hid, hrail⟩ := flowLeg_ok a.leg_eq
  obtain ⟨hmem', hid', hrail'⟩ := flowLeg_ok b.leg_eq
  have hpair := legs_of_pair hlength hmem hmem' hid hid' hne
  obtain ⟨rfl, rfl⟩ := bitcoinVerifierLegId_pair hlegs hpair hid hrail hrail' h
  refine ⟨⟨⟨flow, a, rfl, ?_⟩⟩, rfl⟩
  rw [contractLeg, hlegs]
  rcases hpair with heq | heq
  · simp [heq, hid]
  · simp [heq, hid, hid', Ne.symm hne]

/-- In an accepted Lightning flow the verified Bitcoin leg is the flow's chain leg, and it is an exit of the
    requester. -/
theorem TopologyAccepted.chainLeg (t : TopologyAccepted c contract swapType) (hswap : swapType ≠ .chain)
    {legId : String} (h : bitcoinVerifierLegId contract swapType = .ok legId) :
    Nonempty (ChainLegFound c contract t.legs legId) ∧
      ∃ exit ∈ (requesterTopology swapType).exits, exit.legId = legId := by
  have hflows := t.flows
  have hpair := t.pair
  cases swapType with
  | chain => exact absurd rfl hswap
  | submarine =>
    simp only [requesterTopology, List.cons.injEq, and_true] at hflows
    obtain ⟨hflow₁, hflow₂⟩ := hflows
    have hne : t.flow₁.1 ≠ t.flow₂.1 := by
      rw [← hflow₁, ← hflow₂]
      decide
    simp only [pairAllowed, Bool.and_eq_true, beq_iff_eq] at hpair
    obtain ⟨hfound, hid⟩ := chainLegFound_of_pair t.first t.second t.legs_eq t.length_eq hne hpair.2 h
    refine ⟨hfound, ⟨"source", "refund", "cltv"⟩, List.mem_singleton.mpr rfl, ?_⟩
    rw [← hid, ← hflow₁]
  | reverse =>
    simp only [requesterTopology, List.cons.injEq, and_true] at hflows
    obtain ⟨hflow₁, hflow₂⟩ := hflows
    have hne : t.flow₂.1 ≠ t.flow₁.1 := by
      rw [← hflow₁, ← hflow₂]
      decide
    simp only [pairAllowed, Bool.and_eq_true, beq_iff_eq] at hpair
    obtain ⟨hfound, hid⟩ := chainLegFound_of_pair t.second t.first t.legs_eq t.length_eq hne hpair.1 h
    refine ⟨hfound, ⟨"destination", "claim", "hashlock"⟩, List.mem_singleton.mpr rfl, ?_⟩
    rw [← hid, ← hflow₂]

/-- What a verified session establishes about its refund leaf: the contract leg repeats the metadata of an
    executable leaf that was accepted for the path `refund`. -/
theorem refund_leaf_of_verified {env : ClientEnv} {bound : BoundSession} {input : VerifyBeforeFundInput}
    {packages : List ExitPackage} (hswap : bound.swapType ≠ .chain)
    (htopology : verifyBoundTopology env.crypto bound = .ok ())
    (hfunding : verifyFundingInput env.crypto input bound = .ok ())
    (hexits : verifyExitPackages env.crypto env.providerClaim packages bound = .ok ()) :
    ∃ (contract : Members) (legId : String) (leg : Value) (verifier : Members) (declared : Value) (d : DeclaredLeaf),
      bound.contract = .object contract ∧ bitcoinVerifierLegId contract bound.swapType = .ok legId ∧
      contractLeg contract legId = some leg ∧ verifierForLeg contract legId = .ok verifier ∧
      declaredLeaf verifier "refund" = some declared ∧ d.Accepted env.crypto bound.paymentHash declared ∧
      leg.get "refund_condition" = declared.get "condition" ∧
      leg.get "refund_lock_value" = declared.get "lock_value" := by
  simp only [verifyBoundTopology, bind_eq_ok, object_eq_ok] at htopology
  obtain ⟨contract, hcontract, htopology⟩ := htopology
  obtain ⟨t⟩ := verifyRequesterTopology_ok htopology
  simp only [verifyFundingInput, bind_eq_ok, object_eq_ok] at hfunding
  obtain ⟨raw, -, ⟨⟩, -, ⟨⟩, -, ⟨⟩, -, contract', hcontract', legId, hlegId, -⟩ := hfunding
  obtain rfl : contract = contract' := Value.object.inj (hcontract.symm.trans hcontract')
  obtain ⟨⟨found⟩, exit, hexit, rfl⟩ := t.chainLeg hswap hlegId
  -- the exit's commitment makes a package of this leg mandatory, and with it an accepted tree
  obtain ⟨commitment, hmem, hrole, hleg, -⟩ := t.exits exit hexit
  obtain ⟨-, -, hrailText⟩ := flowLeg_ok found.accepted.leg_eq
  have hrail : contractLegRail contract exit.legId = .ok "bitcoin" := by
    rw [contractLegRail, found.leg_eq, Option.bind_some, hrailText]
    rfl
  obtain ⟨verifier, verification, path, script, controlBlock, hverifier, ⟨tree⟩⟩ :=
    accepted_tree_of_commitment hexits hcontract t.commitments_eq hmem hrole hleg hrail
  obtain ⟨declared, d, hdeclared, haccepted, -, -⟩ := tree.leaf_for (.inr rfl)
  obtain ⟨refund, hrefund, hcondition, hlock⟩ := found.accepted.refund_lock
  have hsame : found.accepted.verifier = verifier := by
    have heq := found.accepted.verifier_eq
    rw [found.flow_id, hverifier] at heq
    exact (Except.ok.inj heq).symm
  obtain rfl : refund = declared := by
    rw [hsame, hdeclared] at hrefund
    exact (Option.some.inj hrefund).symm
  exact ⟨contract, exit.legId, found.accepted.leg, verifier, refund, d, hcontract, hlegId, found.leg_eq, hverifier,
    hdeclared, haccepted, hcondition, hlock⟩

/-- A decimal text determines its number. -/
theorem toString_nat_inj {m n : Nat} (h : toString m = toString n) : m = n := by
  have hchars : (Nat.repr m).toList = (Nat.repr n).toList := congrArg String.toList h
  rw [Nat.repr_eq_ofList_toDigits, Nat.repr_eq_ofList_toDigits, String.toList_ofList, String.toList_ofList] at hchars
  have hvalues := congrArg (Nat.ofDigitChars 10 · 0) hchars
  simpa only [Nat.ofDigitChars_toDigits (show 1 < 10 by omega) (show 10 ≤ 10 by omega)] using hvalues

/-- The metadata of an accepted leaf name a CLTV lock at `height` exactly when its script has one. -/
theorem DeclaredLeaf.Accepted.cltv_iff {paymentHash : String} {declared : Value} {d : DeclaredLeaf} {height : Nat}
    (h : d.Accepted c paymentHash declared) :
    (declared.text "condition" = some "cltv" ∧ declared.text "lock_value" = some (toString height)) ↔
      d.leaf.condition = .cltv height := by
  have hname := h.condition
  have hlock := h.lock
  constructor
  · rintro ⟨hcltv, htext⟩
    rw [hname] at hcltv
    cases hcondition : d.leaf.condition with
    | hashlock hash =>
      rw [hcondition] at hcltv
      exact absurd (Option.some.inj hcltv) (by simp [conditionName])
    | csv lock =>
      rw [hcondition] at hcltv
      exact absurd (Option.some.inj hcltv) (by simp [conditionName])
    | cltv lock =>
      rw [hcondition] at hlock
      cases hget : declared.get "lock_value" with
      | none =>
        rw [hget] at hlock
        cases hlock
      | some value =>
        rw [hget] at hlock
        have hvalue : value = .string (toString lock) := hlock
        rw [Value.text, hget, hvalue] at htext
        rw [toString_nat_inj (Option.some.inj htext)]
  · intro hcondition
    rw [hcondition] at hname hlock
    refine ⟨hname, ?_⟩
    cases hget : declared.get "lock_value" with
    | none =>
      rw [hget] at hlock
      cases hlock
    | some value =>
      rw [hget] at hlock
      have hvalue : value = .string (toString height) := hlock
      rw [Value.text, hget, hvalue]
      rfl

end Result

/-- **Refund timelocks and the ladder.** Whenever a submarine or reverse swap is verified for funding, the CLTV
    height in the refund leaf of the verified leg is the ladder's refund height exactly when the contract leg
    itself names that height. No check compares the ladder with either. -/
theorem refund_height_iff_leg_lock (env : ClientEnv) (session authorized : SwapSession)
    (input : VerifyBeforeFundInput) (observe : LightningReadinessAdapter) (authorize : WalletAuthorize)
    (h : verifyBeforeFund env session input authorize = .ok authorized ∨
      verifyBeforeFundWithLightning env session input observe authorize = .ok authorized) :
    ∃ bound, fromRecords env.crypto env.checks session.config session.signedRecords = .ok bound ∧
      (bound.swapType ≠ .chain → ∃ height, input.timeoutLadder.refundHeight = some height ∧
        (refundCondition env.crypto bound = some (.cltv height) ↔ LegRefundLock bound height)) := by
  have hinner : ∃ adapter, verifyBeforeFundInner env session input adapter authorize = .ok authorized := by
    rcases h with h | h
    · exact ⟨none, h⟩
    · exact ⟨some observe, h⟩
  obtain ⟨adapter, hinner⟩ := hinner
  simp only [verifyBeforeFundInner, bind_eq_ok] at hinner
  obtain ⟨cancellation, -, ⟨⟩, -, bound, hbound, ⟨⟩, -, ⟨⟩, -, ⟨⟩, htopology, ⟨⟩, hladder, ⟨⟩, -, ⟨⟩, -, ⟨⟩, hfunding,
    ⟨⟩, -, ⟨⟩, hexits, -⟩ := hinner
  refine ⟨bound, hbound, fun hswap => ?_⟩
  -- a ladder of the session's swap type has a refund height
  simp only [verifyLadder, bind_eq_ok, refuseIf_eq_ok, bne_eq_false_iff_eq] at hladder
  obtain ⟨⟨⟩, -, ⟨⟩, htype, -⟩ := hladder
  have hheight : ∃ height, input.timeoutLadder.refundHeight = some height := by
    cases hvalue : input.timeoutLadder with
    | submarine ladder => exact ⟨_, rfl⟩
    | reverse ladder => exact ⟨_, rfl⟩
    | chain ladder =>
      rw [hvalue] at htype
      exact absurd htype.symm hswap
  obtain ⟨height, hheight⟩ := hheight
  refine ⟨height, hheight, ?_⟩
  obtain ⟨contract, legId, leg, verifier, declared, d, hcontract, hlegId, hleg, hverifier, hdeclared, haccepted,
    hcondition, hlock⟩ := refund_leaf_of_verified hswap htopology hfunding hexits
  have hscript := haccepted.declaredScript_eq hdeclared
  have hrefund : refundCondition env.crypto bound = some d.leaf.condition := by
    simp [refundCondition, hcontract, Value.asObject, hlegId, hverifier, hscript, haccepted.leaf, Except.toOption]
  have hbitcoin : bitcoinLeg bound = some leg := by
    simp [bitcoinLeg, hcontract, Value.asObject, hlegId, hleg, Except.toOption]
  have hname : leg.text "refund_condition" = declared.text "condition" := by
    rw [Value.text, Value.text, hcondition]
  have hvalue : leg.text "refund_lock_value" = declared.text "lock_value" := by
    rw [Value.text, Value.text, hlock]
  rw [LegRefundLock, hrefund, hbitcoin, Option.bind_some, Option.bind_some, hname, hvalue, Option.some.injEq]
  exact haccepted.cltv_iff.symm

/-! ## A ladder below the executable refund height

The submarine session of `tests/fixtures/nipmkt/swp-full-sessions-v1.json` with `refund_first` set to 139. Its
refund leaf opens at height 140. -/

/-- The fixture session with `refund_first` one block before the CLTV height of the refund leaf. -/
def wrongLadder : FixtureTexts where
  leafByte := "c1"
  outputKey := "691cb9148317aaca08b589b420d7ce5134110f1c1dd92a44af0b10631ee495eb"
  fundingSha256 := "33524cb83b0cb2d4b9a4331198230a50143fd2a11618b0bfaf79977932c450b6"
  fundingId := "da535d0f6a64d5fa22915455a6fc8f687f2f3deafa9e154511cc7c6f194a4840"
  exitSha256 := "ebcdaba89524b441c602b1c87b639b5be3f3b8767b52c0e5de38b43cef601c54"
  verifierDigest := "52a3141004c4cf23bcf0d208b105b8d6539c6006ad2eada73c284497fd272f71"
  packageSha256 := "38d9392989d76460ccabb31973d42c7e246e3a7f1263dccc64cd12492407f04c"
  contractSha256 := "df1a21e59018ba5f547c6f700af5306d0f5acf4599bce9655c64866337083e93"
  quoteId := "dbbe4a0d5003f968145430420925ad8242d5fd0a9c58875bd635ba3db822d4ee"
  orderId := "47efe016787d5cc8ece29e1795f2b6aa56963d077ecd4ef749c039385963c1d5"
  requesterContractId := "e3ab131f1a7bbabf56c2e507f0da5431da868cb75424db1666ee715b6ab5d3c9"
  providerContractId := "f550a2446e7ad1a3fe03208cd4a7a33da4078ed324b865ce7b661e5572661e70"
  effectId := "6c8297d3ad8844ad0e5ed60d2c9a73c23d1b1b162ecfbb33ac03d1c92850722d"
  refundFirst := 139

/-- The digests a funding check of the fixture takes beyond those of its exit package. -/
def fundingHashes (t : FixtureTexts) : List (Bytes × String) :=
  [(canonicalBytes (fixtureContract t), t.contractSha256),
    (canonicalBytes fixtureLightningVerifier, "aa62d18c31dce0a2bf66086781d3f2f5afe84e878d4763dd20c60c4fc68b4012"),
    (hexBytes t.fundingTransaction, t.fundingSha256),
    (utf8 "openagents.mkt-swp.v1" ++ [0] ++ hexBytes t.orderId ++ [0] ++ utf8 "chain_fund" ++ [0] ++ utf8 "source",
      "4bb39a898bd8aee318a4a5f521ce438aa803ee19fc1fb7a72cf69834325c80be")]

def fixtureInvoice : String :=
  "lnbc10u1p3unwfusp5t9r3yymhpfqculx78u027lxspgxcr2n2987mx2j55nnfs95nxnzqpp5jmrh92pfld78spqs78v9euf2385t83uvpwk9ld" ++
  "rlvf6ch7tpascqhp5zvkrmemgth3tufcvflmzjzfvjt023nazlhljz2n9hattj4f8jq8qxqyjw5qcqpjrzjqtc4fc44feggv7065fqe5m4ytja" ++
  "rg3repr5j9el35xhmtfexc42yczarjuqqfzqqqqqqqqlgqqqqqqgq9q9qxpqysgq079nkq507a5tw7xgttmj4u990j7wfggtrasah5gd4ywfr2p" ++
  "jcn29383tphp4t48gquelz9z78p4cq7ml3nrrphw5w6eckhjwmhezhnqpy6gyf0"

/-- `sha2` on the messages of a funding check. -/
def fundingCrypto (t : FixtureTexts) : Crypto :=
  { fixtureCrypto t with
    sha256 := fun message =>
      if message = utf8 fixtureInvoice then hexBytes32 fixtureInvoiceSha256
      else match (fundingHashes t).lookup message with
        | some digest => hexBytes32 digest
        | none => (fixtureCrypto t).sha256 message }

/-- The profile checks, which the fixture's Quote and Order pass. -/
def fixtureChecks : QuoteChecks where
  validateRequesterQuote _ _ quote := do
    let content ← quote.content
    profile content "MKT-SWP Quote"
  validateProviderQuoteProfile _ _ := .ok ()
  validateQuoteAgainstRfq _ _ _ _ _ := .ok ()
  verifyQuoteContractExecutionResolution _ _ := .ok ()
  verifyOrderSelection _ _ _ := .ok ()
  verifyReservation _ _ _ := .ok ()

def fixtureEnv (t : FixtureTexts) : ClientEnv where
  crypto := fundingCrypto t
  checks := fixtureChecks
  providerClaim := fixtureProviderClaim
  parseBolt11 invoice :=
    if invoice = fixtureInvoice then
      .ok ⟨.bitcoin, some 1000000, 1674164540, hexBytes32 fixturePaymentHash, 604800, 18⟩
    else .error (.invalid "BOLT11 prefix")
  requestSha256 _ := .error ⟨"swp_external_effect_conflict", "no funding effect is recorded"⟩

def fixtureSession (t : FixtureTexts) : SwapSession where
  config := ⟨fixtureSessionId, fixtureRequester, fixtureProvider, fixtureOffering⟩
  signedRecords := [fixtureRfq, fixtureQuote t, fixtureOrder t, (fixtureBound t).requesterContract,
    (fixtureBound t).providerContract]
  exitPackages := [fixturePackage t]
  externalEffects := []
  fundingRequest := none

def fixtureInput (t : FixtureTexts) : VerifyBeforeFundInput where
  observedAt := 500
  paymentHash := fixturePaymentHash
  funding := ⟨t.fundingTransaction, 0, "100000", "5120" ++ t.outputKey, t.outputKey, fixtureRefundScript, t.controlBlock⟩
  invoice := some ⟨fixtureInvoice, "bitcoin", "1000000", 1674164600, 18⟩
  timeoutLadder := .submarine ⟨100, 110, 120, t.refundFirst.toNat, 1, 2, 6, 2000, 1000⟩
  minimumConfirmations := 1
  replacementPolicy := "reject"

theorem wrongLadder_verified :
    (verifyBeforeFund (fixtureEnv wrongLadder) (fixtureSession wrongLadder) (fixtureInput wrongLadder)
        (fun _ => .ok ())).toOption.isSome = true ∧
      ((fromRecords (fixtureEnv wrongLadder).crypto (fixtureEnv wrongLadder).checks (fixtureSession wrongLadder).config
        (fixtureSession wrongLadder).signedRecords).toOption.map fun bound =>
          (bound.swapType, refundCondition (fixtureEnv wrongLadder).crypto bound)) =
        some (.submarine, some (.cltv 140)) := by
  decide +kernel

/-- The funding check of the fixture returns a session. -/
theorem wrongLadder_authorized :
    ∃ authorized, verifyBeforeFund (fixtureEnv wrongLadder) (fixtureSession wrongLadder) (fixtureInput wrongLadder)
      (fun _ => .ok ()) = .ok authorized := by
  have hsome := wrongLadder_verified.1
  cases hresult : verifyBeforeFund (fixtureEnv wrongLadder) (fixtureSession wrongLadder) (fixtureInput wrongLadder)
      (fun _ => .ok ()) with
  | error error =>
    rw [hresult] at hsome
    cases hsome
  | ok authorized => exact ⟨authorized, rfl⟩

/-- **A verified session whose refund opens after the ladder's refund height.** -/
theorem wrongLadder_refund_height :
    ∃ authorized bound, verifyBeforeFund (fixtureEnv wrongLadder) (fixtureSession wrongLadder)
        (fixtureInput wrongLadder) (fun _ => .ok ()) = .ok authorized ∧
      fromRecords (fixtureEnv wrongLadder).crypto (fixtureEnv wrongLadder).checks (fixtureSession wrongLadder).config
        (fixtureSession wrongLadder).signedRecords = .ok bound ∧
      bound.swapType = .submarine ∧ (fixtureInput wrongLadder).timeoutLadder.refundHeight = some 139 ∧
      refundCondition (fixtureEnv wrongLadder).crypto bound = some (.cltv 140) := by
  obtain ⟨authorized, hauthorized⟩ := wrongLadder_authorized
  have hbound := wrongLadder_verified.2
  cases hresult : fromRecords (fixtureEnv wrongLadder).crypto (fixtureEnv wrongLadder).checks
      (fixtureSession wrongLadder).config (fixtureSession wrongLadder).signedRecords with
  | error error =>
    rw [hresult] at hbound
    cases hbound
  | ok bound =>
    rw [hresult] at hbound
    have hpair := Prod.ext_iff.mp (Option.some.inj hbound)
    exact ⟨authorized, bound, hauthorized, rfl, hpair.1, rfl, hpair.2⟩

theorem refund_height_wrongLadder :
    ∃ bound, fromRecords (fixtureEnv wrongLadder).crypto (fixtureEnv wrongLadder).checks
        (fixtureSession wrongLadder).config (fixtureSession wrongLadder).signedRecords = .ok bound ∧
      (bound.swapType ≠ .chain → ∃ height, (fixtureInput wrongLadder).timeoutLadder.refundHeight = some height ∧
        (refundCondition (fixtureEnv wrongLadder).crypto bound = some (.cltv height) ↔ LegRefundLock bound height)) := by
  obtain ⟨authorized, hauthorized⟩ := wrongLadder_authorized
  exact refund_height_iff_leg_lock (fixtureEnv wrongLadder) (fixtureSession wrongLadder) authorized
    (fixtureInput wrongLadder) (fun _ => .error "no Lightning adapter") (fun _ => .ok ()) (.inl hauthorized)

end Immortal.Client
