import Immortal.Client.SwapTree

/-!
# `Immortal.Client.Session` — the bound session and the requester's flow topology

Once RFQ, Quote, Order and the two Swap Contracts of a session are collected, the client works on a
`BoundSession`: those five records with the contract terms both participants signed. This module has the
session data, the fixed topology of each swap type, and the readers every later check uses to find a leg and
its verifier in the contract.
-/

namespace Immortal.Client

/-! ## Topology -/

inductive SwapType where
  | submarine
  | reverse
  | chain
deriving DecidableEq, Repr

structure ExitTopology where
  legId : String
  path : String
  condition : String
deriving DecidableEq, Repr

structure RequesterTopology where
  fundingEffectRole : String
  fundingLegId : String
  bitcoinVerifierLegId : String
  invoiceVerifierLegId : Option String
  /-- Leg id, funding role and receiving role. -/
  legs : List (String × String × String)
  exits : List ExitTopology
deriving DecidableEq, Repr

def requesterTopology : SwapType → RequesterTopology
  | .submarine =>
    { fundingEffectRole := "chain_fund", fundingLegId := "source", bitcoinVerifierLegId := "source"
      invoiceVerifierLegId := some "lightning"
      legs := [("source", "requester", "provider"), ("lightning", "provider", "requester")]
      exits := [⟨"source", "refund", "cltv"⟩] }
  | .reverse =>
    { fundingEffectRole := "invoice_pay", fundingLegId := "lightning", bitcoinVerifierLegId := "destination"
      invoiceVerifierLegId := some "lightning"
      legs := [("lightning", "requester", "provider"), ("destination", "provider", "requester")]
      exits := [⟨"destination", "claim", "hashlock"⟩] }
  | .chain =>
    { fundingEffectRole := "chain_fund", fundingLegId := "source", bitcoinVerifierLegId := "source"
      invoiceVerifierLegId := none
      legs := [("source", "requester", "provider"), ("destination", "provider", "requester")]
      exits := [⟨"source", "refund", "cltv"⟩, ⟨"destination", "claim", "hashlock"⟩] }

/-! ## Session -/

/-- A signed record of the session. `content` is what `parse_content` makes of its text: `serde_json`'s
    reading, refused if it holds custody material. -/
structure Record where
  id : String
  pubkey : String
  createdAt : Nat
  kind : Nat
  tags : List (List String)
  content : Checked Value

/-- `BoundSession`: the records of an accepted session and the contract both participants signed. -/
structure BoundSession where
  sessionId : String
  rfq : Record
  quote : Record
  order : Record
  requesterContract : Record
  providerContract : Record
  contract : Value
  contractSha256 : String
  swapType : SwapType
  paymentHash : String

def BoundSession.contractIds (bound : BoundSession) : List String :=
  [bound.requesterContract.id, bound.providerContract.id]

/-! ## Legs -/

/-- The first leg of the contract with this id. -/
def contractLeg (contract : Members) (legId : String) : Option Value :=
  (contract.items "legs").bind fun legs => legs.find? (·.text "leg_id" == some legId)

def contractLegRail (contract : Members) (legId : String) : Checked String :=
  orRefuse ((contractLeg contract legId).bind (·.text "rail")) "swp_contract_terms_mismatch"
    "Swap Contract leg has no exact rail"

def verifierForLeg (contract : Members) (legId : String) : Checked Members := do
  let verifiers ← orRefuse (contract.items "verifier_inputs") "swp_contract_terms_mismatch"
    "Swap Contract has no verifier inputs"
  match verifiers.filter (·.text "leg_id" == some legId) with
  | [verifier] =>
    orRefuse verifier.asObject "swp_contract_terms_mismatch" "Swap Contract verifier input is not an object"
  | _ =>
    .error ⟨"swp_contract_terms_mismatch", "Swap Contract requires exactly one verifier for the flow leg"⟩

end Immortal.Client
