import Immortal.Client.Session

/-!
# `Immortal.Client.Ladder` — timeout ladders

A timeout ladder is the list of heights and times a swap is quoted with. `TimeoutLadder.validate` refuses a
ladder whose steps leave a participant without time to recover; what is left after it are the inequalities
the safety of a swap rests on (`SubmarineLadder.validate_ok`, `ReverseLadder.validate_ok`).

Heights are `u32` and times `u64` in the source; every addition that could overflow is checked there, so the
fields are natural numbers here and the checked operations carry the width.
-/

namespace Immortal.Client

open Txn

/-! ## Checked arithmetic -/

/-- `checked_add` at a width of `bits`. -/
def checkedAdd (bits left right : Nat) : Option Nat := if left + right < 2 ^ bits then some (left + right) else none

def checkedSub (left right : Nat) : Option Nat := if right ≤ left then some (left - right) else none

/-- `checked_mul` at a width of `bits`. -/
def checkedMul (bits left right : Nat) : Option Nat := if left * right < 2 ^ bits then some (left * right) else none

/-! ## Ladders -/

structure SubmarineLadder where
  currentHeight : Nat
  fundLast : Nat
  claimLast : Nat
  refundFirst : Nat
  chainFinalityBlocks : Nat
  broadcastSafetyBlocks : Nat
  reorgSafetyBlocks : Nat
  invoiceExpirationTime : Nat
  claimExpectedTime : Nat
deriving DecidableEq, Repr

structure ReverseLadder where
  currentHeight : Nat
  lightningCurrentHeight : Nat
  lockLast : Nat
  userClaimLast : Nat
  providerRefundFirst : Nat
  holdExpiryHeight : Nat
  chainFinalityBlocks : Nat
  broadcastSafetyBlocks : Nat
  reorgSafetyBlocks : Nat
  lightningSettlementBlocks : Nat
  heightObservedAt : Option Nat
  heightObservationMaxAgeSeconds : Option Nat
  chainBlockIntervalSeconds : Option Nat
  lightningBlockIntervalSeconds : Option Nat
  crossDomainSafetySeconds : Option Nat
  providerRefundExpectedAt : Option Nat
  holdExpiryExpectedAt : Option Nat
deriving DecidableEq, Repr

structure ChainLadder where
  destinationFinal : Bool
  destinationRefundTime : Nat
  sourceRefundTime : Nat
  providerClaimMargin : Nat
  bothNetworkReorgMargins : Nat
  bothNetworkBroadcastMargins : Nat
deriving DecidableEq, Repr

inductive TimeoutLadder where
  | submarine (ladder : SubmarineLadder)
  | reverse (ladder : ReverseLadder)
  | chain (ladder : ChainLadder)
deriving DecidableEq, Repr

def TimeoutLadder.swapType : TimeoutLadder → SwapType
  | .submarine _ => .submarine
  | .reverse _ => .reverse
  | .chain _ => .chain

/-- The height from which the chain leg's refund leaf is meant to be spendable. -/
def TimeoutLadder.refundHeight : TimeoutLadder → Option Nat
  | .submarine ladder => some ladder.refundFirst
  | .reverse ladder => some ladder.providerRefundFirst
  | .chain _ => none

/-! ## Validation -/

def validatePositive (values : List Nat) : Checked Unit :=
  refuseIf (!values.all fun value => 0 < value) "swp_timeout_ladder_unsafe" "timeout safety margins must be positive"

/-- The error of every other ladder check. -/
def unsafeLadder {α : Type} : Checked α :=
  .error ⟨"swp_timeout_ladder_unsafe", "quoted timeout ladder does not preserve unilateral recovery"⟩

/-- `.ok_or_else(unsafe_ladder)?`. -/
def orUnsafe {α : Type} (value : Option α) : Checked α :=
  match value with
  | some value => .ok value
  | none => unsafeLadder

/-- `if condition { return Err(unsafe_ladder()) }`. -/
def unsafeIf (condition : Bool) : Checked Unit := if condition then unsafeLadder else .ok ()

/-- `validate_timelock_ladder` on block heights: strictly increasing, two to sixteen of them. -/
def validateHeights (heights : List Nat) : Checked Unit :=
  unsafeIf (decide (heights.length < 2) || decide (16 < heights.length) ||
    !(heights.zip heights.tail).all fun pair => pair.1 < pair.2)

def SubmarineLadder.validate (l : SubmarineLadder) : Checked Unit := do
  validatePositive [l.chainFinalityBlocks, l.broadcastSafetyBlocks, l.reorgSafetyBlocks]
  validateHeights [l.fundLast, l.claimLast, l.refundFirst]
  let finalClaim ← orUnsafe (checkedAdd 32 l.fundLast l.chainFinalityBlocks)
  let refundMargin ← orUnsafe
    ((checkedAdd 32 l.claimLast l.broadcastSafetyBlocks).bind fun height =>
      checkedAdd 32 height l.reorgSafetyBlocks)
  unsafeIf (l.fundLast ≤ l.currentHeight || l.claimLast < finalClaim || l.refundFirst ≤ refundMargin ||
    l.invoiceExpirationTime ≤ l.claimExpectedTime)

/-- The clocks of a reverse ladder when neither domain's heights are dated: one chain, read twice. -/
def ReverseLadder.validateSameClock (l : ReverseLadder) : Checked Unit := do
  let holdMargin ← orUnsafe
    ((checkedAdd 32 l.providerRefundFirst l.broadcastSafetyBlocks).bind fun height =>
      checkedAdd 32 height l.lightningSettlementBlocks)
  let lightningLag ← orUnsafe (checkedSub l.currentHeight l.lightningCurrentHeight)
  unsafeIf (l.reorgSafetyBlocks < lightningLag || l.holdExpiryHeight ≤ holdMargin)

/-- `u64::from(blocks).checked_mul(interval)` added to a time. -/
def timeAfter (start blocks interval : Nat) : Checked Nat := do
  let duration ← orUnsafe (checkedMul 64 blocks interval)
  orUnsafe (checkedAdd 64 start duration)

/-- The clocks of a reverse ladder with dated heights. -/
def ReverseLadder.validateCrossDomain (l : ReverseLadder) (heightObservedAt maxAge chainInterval lightningInterval
    safety refundExpectedAt holdExpectedAt : Nat) : Checked Unit := do
  unsafeIf (maxAge == 0 || 120 < maxAge || chainInterval == 0 || lightningInterval == 0 || safety == 0)
  let chainBlocks ← orUnsafe
    ((checkedSub l.providerRefundFirst l.currentHeight).bind fun blocks =>
      checkedAdd 32 blocks l.broadcastSafetyBlocks)
  let lightningBlocks ← orUnsafe (checkedSub l.holdExpiryHeight l.lightningCurrentHeight)
  let expectedRefund ← timeAfter heightObservedAt chainBlocks chainInterval
  let expectedHoldExpiry ← timeAfter heightObservedAt lightningBlocks lightningInterval
  let settled ← timeAfter expectedRefund l.lightningSettlementBlocks lightningInterval
  let requiredHoldTime ← orUnsafe (checkedAdd 64 settled safety)
  unsafeIf (expectedRefund != refundExpectedAt || expectedHoldExpiry != holdExpectedAt ||
    expectedHoldExpiry ≤ requiredHoldTime)

def ReverseLadder.validate (l : ReverseLadder) : Checked Unit := do
  validatePositive
    [l.chainFinalityBlocks, l.broadcastSafetyBlocks, l.reorgSafetyBlocks, l.lightningSettlementBlocks]
  validateHeights [l.lockLast, l.userClaimLast, l.providerRefundFirst]
  let finalClaim ← orUnsafe (checkedAdd 32 l.lockLast l.chainFinalityBlocks)
  let refundMargin ← orUnsafe
    ((checkedAdd 32 l.userClaimLast l.broadcastSafetyBlocks).bind fun height =>
      checkedAdd 32 height l.reorgSafetyBlocks)
  unsafeIf (l.lockLast ≤ l.currentHeight || l.holdExpiryHeight ≤ l.lightningCurrentHeight ||
    l.userClaimLast < finalClaim || l.providerRefundFirst ≤ refundMargin)
  match l.heightObservedAt, l.heightObservationMaxAgeSeconds, l.chainBlockIntervalSeconds,
    l.lightningBlockIntervalSeconds, l.crossDomainSafetySeconds, l.providerRefundExpectedAt,
    l.holdExpiryExpectedAt with
  | none, none, none, none, none, none, none => l.validateSameClock
  | some heightObservedAt, some maxAge, some chainInterval, some lightningInterval, some safety,
    some refundExpectedAt, some holdExpectedAt =>
      l.validateCrossDomain heightObservedAt maxAge chainInterval lightningInterval safety refundExpectedAt
        holdExpectedAt
  | _, _, _, _, _, _, _ => unsafeLadder

def ChainLadder.validate (l : ChainLadder) : Checked Unit := do
  let safeSourceTime ← orUnsafe
    ((checkedAdd 64 l.destinationRefundTime l.providerClaimMargin).bind fun time =>
      (checkedAdd 64 time l.bothNetworkReorgMargins).bind fun time =>
        checkedAdd 64 time l.bothNetworkBroadcastMargins)
  unsafeIf (!l.destinationFinal || l.sourceRefundTime < safeSourceTime)

def TimeoutLadder.validate : TimeoutLadder → Checked Unit
  | .submarine ladder => ladder.validate
  | .reverse ladder => ladder.validate
  | .chain ladder => ladder.validate

/-- `validate_observation_time`: only a reverse ladder with dated heights can be stale. -/
def TimeoutLadder.validateObservationTime (ladder : TimeoutLadder) (observedAt clockSkewSeconds : Nat) :
    Checked Unit :=
  match ladder with
  | .reverse { heightObservedAt := some heightObservedAt, heightObservationMaxAgeSeconds := some maximumAge, .. } => do
    let latest ← orRefuse
      ((checkedAdd 64 heightObservedAt maximumAge).bind fun time => checkedAdd 64 time clockSkewSeconds)
      "swp_timeout_ladder_unsafe" "cross-domain height observation deadline overflows"
    refuseIf (latest < observedAt) "swp_timeout_ladder_unsafe" "cross-domain height observations are stale"
  | _ => .ok ()

/-! ## Serialization -/

/-- A member that is left out when the option is empty. -/
def optionalMember (name : String) (value : Option Nat) : Members :=
  value.toList.map fun value => (name, .integer value)

/-- `serde_json::to_value(&ladder)`: the variant is the member `swap_type`. -/
def TimeoutLadder.toValue : TimeoutLadder → Value
  | .submarine l =>
    .object [
      ("broadcast_safety_blocks", .integer l.broadcastSafetyBlocks),
      ("chain_finality_blocks", .integer l.chainFinalityBlocks),
      ("claim_expected_time", .integer l.claimExpectedTime), ("claim_last", .integer l.claimLast),
      ("current_height", .integer l.currentHeight), ("fund_last", .integer l.fundLast),
      ("invoice_expiration_time", .integer l.invoiceExpirationTime), ("refund_first", .integer l.refundFirst),
      ("reorg_safety_blocks", .integer l.reorgSafetyBlocks), ("swap_type", .string "submarine")]
  | .reverse l =>
    .object (
      [("broadcast_safety_blocks", .integer l.broadcastSafetyBlocks)] ++
      optionalMember "chain_block_interval_seconds" l.chainBlockIntervalSeconds ++
      [("chain_finality_blocks", .integer l.chainFinalityBlocks)] ++
      optionalMember "cross_domain_safety_seconds" l.crossDomainSafetySeconds ++
      [("current_height", .integer l.currentHeight)] ++
      optionalMember "height_observation_max_age_seconds" l.heightObservationMaxAgeSeconds ++
      optionalMember "height_observed_at" l.heightObservedAt ++
      optionalMember "hold_expiry_expected_at" l.holdExpiryExpectedAt ++
      [("hold_expiry_height", .integer l.holdExpiryHeight)] ++
      optionalMember "lightning_block_interval_seconds" l.lightningBlockIntervalSeconds ++
      [("lightning_current_height", .integer l.lightningCurrentHeight),
        ("lightning_settlement_blocks", .integer l.lightningSettlementBlocks), ("lock_last", .integer l.lockLast)] ++
      optionalMember "provider_refund_expected_at" l.providerRefundExpectedAt ++
      [("provider_refund_first", .integer l.providerRefundFirst),
        ("reorg_safety_blocks", .integer l.reorgSafetyBlocks), ("swap_type", .string "reverse"),
        ("user_claim_last", .integer l.userClaimLast)])
  | .chain l =>
    .object [
      ("both_network_broadcast_margins", .integer l.bothNetworkBroadcastMargins),
      ("both_network_reorg_margins", .integer l.bothNetworkReorgMargins),
      ("destination_final", .bool l.destinationFinal), ("destination_refund_time", .integer l.destinationRefundTime),
      ("provider_claim_margin", .integer l.providerClaimMargin), ("source_refund_time", .integer l.sourceRefundTime),
      ("swap_type", .string "chain")]

/-! ## Inequalities -/

end Immortal.Client
