import Immortal.Client.ExitPackage
import Immortal.Client.Ladder

/-!
# `Immortal.Client.Binding` — from the signed records to a bound session

`BoundSession::from_records` collects the RFQ, the Quote, the Order and the two Swap Contracts out of a
session's records and refuses any other shape; `verify_contract_terms` and `verify_local_expiration` then hold
the signed contract against the accepted Quote and the wallet's clock.

The profile checks of the Quote, of the Order's selection and of the reservation are long and read nothing of
what this development proves about; they are the fields of `QuoteChecks`.
-/

namespace Immortal.Client

open Immortal.Bitcoin

/-! ## Readers -/

def mktRfqKind : Nat := 39604

def mktQuoteKind : Nat := 39605

def mktOrderKind : Nat := 39606

def mktCancelKind : Nat := 39608

def mktSwpSwapContractKind : Nat := 39610

def exactlyOne (records : List Record) (kind : Nat) (code : String) : Checked Record :=
  match records.filter (·.kind = kind) with
  | [record] => .ok record
  | _ => .error ⟨code, "session requires exactly one kind " ++ toString kind ++ " record"⟩

/-- The `e` tags of a record with this marker. -/
def markedTags (record : Record) (marker : String) : List (List String) :=
  record.tags.filter fun tag => tag[0]? == some "e" && tag[3]? == some marker

def requireMarkedReference (record : Record) (marker expected : String) : Checked Unit :=
  match markedTags record marker with
  | [tag] =>
    refuseIf (tag[1]? != some expected) "swp_contract_terms_mismatch"
      ("event does not contain the exact " ++ marker ++ " reference")
  | _ => .error ⟨"swp_contract_terms_mismatch", "event does not contain the exact " ++ marker ++ " reference"⟩

def markedReference (record : Record) (marker : String) : Checked String :=
  match markedTags record marker with
  | [tag] => orRefuse tag[1]? "swp_contract_terms_mismatch" (marker ++ " reference is empty")
  | _ => .error ⟨"swp_contract_terms_mismatch", "event requires exactly one " ++ marker ++ " reference"⟩

def tagValue (record : Record) (name : String) : Checked String :=
  match record.tags.filter fun tag => tag[0]? == some name with
  | [[_, value]] => .ok value
  | _ => .error ⟨"swp_contract_terms_mismatch", "event requires exactly one " ++ name ++ " tag"⟩

/-- `str::parse::<u64>`: decimal digits, with a leading plus sign allowed. -/
def parseU64 (text : String) : Option Nat :=
  let bytes := utf8 text
  let digits := if bytes.head? = some 43 then bytes.tail else bytes
  if digits ≠ [] ∧ digits.all (fun digit => 48 ≤ digit.toNat && digit.toNat ≤ 57) ∧ decimalValue digits < 2 ^ 64 then
    some (decimalValue digits)
  else none

/-- `expiration.saturating_add(skew)` on `u64`. -/
def saturatingAdd (left right : Nat) : Nat := min (left + right) (2 ^ 64 - 1)

/-- A record whose `action` tag is this one. -/
def isCancel (record : Record) (action : String) : Bool :=
  record.kind = mktCancelKind && (tagValue record "action").toOption == some action

/-! ## Cancellation -/

/-- An error of `effective_cancellation`. -/
def cancelIneffective {α : Type} (message : String) : Checked α := .error ⟨"swp_cancel_ineffective", message⟩

/-- `map_err(|_| ..)` onto a cancellation error. -/
def orCancelIneffective {α : Type} (result : Checked α) (message : String) : Checked α :=
  match result with
  | .ok value => .ok value
  | .error _ => cancelIneffective message

def effectiveCancellation (records : List Record) : Checked (Option Record) := do
  match records.filter (isCancel · "effective") with
  | [] => return none
  | [effective] =>
    let requestId ← orCancelIneffective (markedReference effective "cancel-request")
      "effective cancellation lacks its exact request reference"
    let acceptedId ← orCancelIneffective (markedReference effective "cancel-accept")
      "effective cancellation lacks its exact accepted-consent reference"
    if requestId = acceptedId then
      cancelIneffective "effective cancellation duplicates its consent references"
    let accepted ← orRefuse (records.find? fun record => record.id = acceptedId && record.kind = mktCancelKind)
      "swp_cancel_ineffective" "effective cancellation does not reference accepted consent"
    let acceptedAction ← tagValue accepted "action"
    if acceptedAction ≠ "accepted" then
      cancelIneffective "effective cancellation reference is not accepted consent"
    orCancelIneffective (requireMarkedReference accepted "cancel-request" requestId)
      "accepted cancellation does not bind the effective request"
    let request ← orRefuse (records.find? fun record => record.id = requestId && record.kind = mktCancelKind)
      "swp_cancel_ineffective" "accepted cancellation does not reference its request"
    let requestAction ← tagValue request "action"
    if requestAction ≠ "request" ∨ accepted.pubkey = request.pubkey ∨
        (effective.pubkey ≠ request.pubkey ∧ effective.pubkey ≠ accepted.pubkey) then
      cancelIneffective "effective cancellation lacks exact consent from the other participant"
    return some effective
  | _ => cancelIneffective "session has multiple effective cancellation records"

/-! ## Binding -/

/-- `SwapClientConfig`, without the route pin. -/
structure ClientConfig where
  sessionId : String
  requesterPubkey : String
  providerPubkey : String
  offeringAddress : String

/-- The profile checks of the Quote and of what the Order selects from it, under their names in the client. -/
structure QuoteChecks where
  /-- Returns the Quote's profile. -/
  validateRequesterQuote : ClientConfig → Record → Record → Checked Members
  validateProviderQuoteProfile : Members → String → Checked Unit
  validateQuoteAgainstRfq : Record → Members → String → Nat → Nat → Checked Unit
  verifyQuoteContractExecutionResolution : Members → Members → Checked Unit
  verifyOrderSelection : Members → Members → Members → Checked Unit
  verifyReservation : BoundSession → Nat → Nat → Checked Unit

/-- The `mkt_swp` object of a record's content. -/
def profile (content : Value) (subject : String) : Checked Members :=
  object ((content.get "mkt_swp").getD .null) subject

def rejectUnsupportedExecutableQuote (quoteProfile : Members) : Checked Unit := do
  let terms ← object (quoteProfile.orNull "terms") "MKT-SWP Quote terms"
  refuseIf (terms.orNull "price_feed" != .null) "swp_price_feed_unsupported"
    "pinned-feed Quote execution is unavailable until its deterministic amount formula is specified"

/-- The contract both participants signed, with its digest. -/
def signedContract (c : Crypto) (requesterContract providerContract : Record) : Checked (Value × String) := do
  let requesterContent ← requesterContract.content
  let providerContent ← providerContract.content
  let requesterProfile ← profile requesterContent "requester Swap Contract"
  let providerProfile ← profile providerContent "provider Swap Contract"
  refuseIf
    (requesterProfile.text "signer_role" != some "requester" || providerProfile.text "signer_role" != some "provider")
    "swp_contract_signer_invalid" "Swap Contract signer roles are not complementary"
  let requesterValue ← orRefuse (requesterProfile.get "contract") "swp_contract_terms_mismatch"
    "requester contract is missing"
  let providerValue ← orRefuse (providerProfile.get "contract") "swp_contract_terms_mismatch"
    "provider contract is missing"
  refuseIf (requesterValue != providerValue) "swp_contract_digest_mismatch"
    "participant Swap Contracts contain different terms"
  let contractSha256 ← orRefuse (requesterProfile.text "contract_sha256") "swp_contract_digest_mismatch"
    "requester contract digest is missing"
  let digest ← if providerProfile.text "contract_sha256" = some contractSha256 then documentDigest c requesterValue
    else .ok ""
  refuseIf (providerProfile.text "contract_sha256" != some contractSha256 || digest != contractSha256)
    "swp_contract_digest_mismatch" "participant or recomputed contract digest differs"
  return (requesterValue, contractSha256)

def swapTypeOf : Option String → Checked SwapType
  | some "submarine" => .ok .submarine
  | some "reverse" => .ok .reverse
  | some "chain" => .ok .chain
  | _ => .error ⟨"swp_contract_terms_mismatch", "Swap Contract has an unsupported swap type"⟩

section Binding

variable (c : Crypto) (checks : QuoteChecks)

/-- `BoundSession::from_records`. -/
def fromRecords (config : ClientConfig) (records : List Record) : Checked BoundSession := do
  let rfq ← exactlyOne records mktRfqKind "swp_unresolved_loss"
  let quote ← exactlyOne records mktQuoteKind "swp_contract_terms_mismatch"
  let order ← exactlyOne records mktOrderKind "swp_contract_terms_mismatch"
  refuseIf
    (rfq.pubkey != config.requesterPubkey || quote.pubkey != config.providerPubkey ||
      order.pubkey != config.requesterPubkey)
    "swp_contract_signer_invalid" "RFQ, Quote, or Order author is not the configured participant"
  let offering := rfq.tags.filter fun tag => tag[0]? == some "a" && tag[3]? == some "offering"
  refuseIf (offering.map (·[1]?) != [some config.offeringAddress]) "swp_contract_terms_mismatch"
    "RFQ does not bind the configured Offering address"
  requireMarkedReference quote "rfq" rfq.id
  requireMarkedReference order "quote" quote.id
  let quoteProfile ← checks.validateRequesterQuote config rfq quote
  rejectUnsupportedExecutableQuote quoteProfile
  let contracts := records.filter (·.kind = mktSwpSwapContractKind)
  let requesterContract ← orRefuse (contracts.find? (·.pubkey = config.requesterPubkey)) "swp_contract_missing"
    "requester Swap Contract is missing"
  let providerContract ← orRefuse (contracts.find? (·.pubkey = config.providerPubkey)) "swp_contract_missing"
    "provider Swap Contract is missing"
  refuseIf (contracts.length != 2) "swp_contract_signer_invalid"
    "session requires exactly two participant Swap Contracts"
  requireMarkedReference requesterContract "quote" quote.id
  requireMarkedReference requesterContract "order" order.id
  requireMarkedReference providerContract "quote" quote.id
  requireMarkedReference providerContract "order" order.id
  let (contractValue, contractSha256) ← signedContract c requesterContract providerContract
  let contract ← object contractValue "Swap Contract"
  refuseIf (contract.text "order_id" != some order.id || contract.text "quote_id" != some quote.id)
    "swp_contract_terms_mismatch" "Swap Contract does not bind the accepted Quote and Order"
  let swapType ← swapTypeOf (contract.text "swap_type")
  let paymentHash ← orRefuse (contract.text "payment_hash") "swp_payment_hash_mismatch"
    "Swap Contract has no payment hash"
  requireLowerHex32 paymentHash "Swap Contract payment hash"
  return ⟨config.sessionId, rfq, quote, order, requesterContract, providerContract, contractValue, contractSha256,
    swapType, paymentHash⟩

/-- The members of the contract that must be those of the Quote's terms. -/
def quotedMembers : List String :=
  ["swap_type", "asset_pair", "payment_hash", "fee_bps", "miner_fee_budget", "lightning_routing_fee_budget",
    "amount_equation", "rounding", "script_mode", "musig2_execution", "desired_completion_time", "clock_skew_seconds",
    "timeout_ladder", "cancellation", "evidence_requirements", "recovery", "price_feed", "evm_leg"]

def verifyContractTerms (bound : BoundSession) : Checked Unit := do
  let quoteContent ← bound.quote.content
  let quoteProfile ← profile quoteContent "MKT-SWP Quote"
  let terms ← object (quoteProfile.orNull "terms") "MKT-SWP Quote terms"
  let reservation ← tagValue bound.quote "reservation"
  checks.validateProviderQuoteProfile quoteProfile reservation
  let contract ← object bound.contract "Swap Contract"
  let expirationText ← tagValue bound.quote "expiration"
  let quoteExpiration ← orRefuse (parseU64 expirationText) "swp_quote_expired" "Quote expiration is invalid"
  let quoteClass ← tagValue bound.quote "quote"
  checks.validateQuoteAgainstRfq bound.rfq quoteProfile quoteClass bound.quote.createdAt quoteExpiration
  requireSame terms contract "swp_contract_terms_mismatch"
    (quotedMembers.map fun member =>
      (member, member, "Swap Contract member " ++ member ++ " differs from the Quote"))
  checks.verifyQuoteContractExecutionResolution terms contract
  let orderContent ← bound.order.content
  let orderProfile ← profile orderContent "MKT-SWP Order"
  refuseIf (orderProfile.text "accepted_quote_id" != some bound.quote.id) "swp_order_selection_invalid"
    "Order body does not accept the referenced Quote"
  checks.verifyOrderSelection quoteProfile orderProfile contract

/-- The expiration of one of the two records that carry one. -/
def verifyRecordExpiration (record : Record) (observedAt clockSkew : Nat) : Checked Unit := do
  let text ← tagValue record "expiration"
  let expiration ← orRefuse (parseU64 text) "swp_quote_expired" "record expiration is invalid"
  refuseIf (saturatingAdd expiration clockSkew < observedAt) "swp_quote_expired"
    "local wallet time reports an expired RFQ or Quote"

def verifyLocalExpiration (bound : BoundSession) (observedAt : Nat) : Checked Unit := do
  let contract ← object bound.contract "Swap Contract"
  let skewText ← requireString contract "clock_skew_seconds" none "swp_quote_expired"
  let clockSkew ← orRefuse (parseU64 skewText) "swp_quote_expired" "clock-skew bound is invalid"
  refuseIf (120 < clockSkew) "swp_quote_expired" "clock-skew bound exceeds 120 seconds"
  verifyRecordExpiration bound.rfq observedAt clockSkew
  verifyRecordExpiration bound.quote observedAt clockSkew
  let reservation ← object (contract.orNull "reservation_commitment") "reservation commitment"
  refuseIf
    (((reservation.get "expires_at").bind Value.asU64).any fun expiration =>
      saturatingAdd expiration clockSkew < observedAt)
    "swp_quote_expired" "local wallet time reports an expired reservation"
  checks.verifyReservation bound observedAt clockSkew

end Binding

end Immortal.Client
