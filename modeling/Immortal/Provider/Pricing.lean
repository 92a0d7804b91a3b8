import Immortal.Client.Session

/-!
# `Immortal.Provider.Pricing` — deriving the numbers of a Quote

`pricing.rs` decides the amounts of a Quote from the provider's policy, a feerate, the capacity at hand, the request and
an optional price-feed packet. Amounts travel as canonical decimal strings and are computed at `u64` with checked
operations; products are taken at `u128`, where they always fit. Here numbers are `Nat` and every check against a
machine bound is written out.

`min_viable_input` and `input_for_output` are the same search with different targets and messages; the search starts
at a closed-form candidate, moves up until the candidate covers the target and then down while its predecessor does.
-/

namespace Immortal.Provider

open Txn Immortal.Client

/-! ## Numbers and their texts -/

def u64Limit : Nat := 2 ^ 64

def maxAmountSat : Nat := 2100000000000000
def maxSpreadBps : Nat := 1000
def maxFeerateSatPerVb : Nat := 2000
def maxQuoteExpirySeconds : Nat := 3600
def maxLightningRoutingFeePpm : Nat := 100000
def maxPriceFeedAgeSeconds : Nat := 3600
def maxRealizedVolatilityBps : Nat := 100000
def maxIndexPriceUsdCents : Nat := 10000000000
def referenceRealizedVolatilityBps : Nat := 5000
def satoshisPerBitcoin : Nat := 100000000
def chainOutputDustSat : Nat := 330
def lightningOutputFloorSat : Nat := 1
def minViableSearchSteps : Nat := 64

/-- Digits only, at least one, and no leading zero. -/
def canonicalDigits (value : String) : Bool :=
  value ≠ "" && value.toList.all Char.isDigit && !(1 < value.toList.length && value.toList.head? = some '0')

def canonicalSat (value label : String) : Checked Nat := do
  refuseIf (!canonicalDigits value) "swp_invalid_amount" (label ++ " is not a canonical satoshi decimal string")
  refuseIf (u64Limit ≤ Nat.ofDigitChars 10 value.toList 0) "swp_invalid_amount" (label ++ " exceeds u64")
  return Nat.ofDigitChars 10 value.toList 0

/-- `u64::try_from`. -/
def toU64 (value : Nat) (code message : String) : Checked Nat :=
  if value < u64Limit then .ok value else .error ⟨code, message⟩

/-! ## Policy -/

inductive ReservationTier where
  | none
  | soft
  | hard
  deriving DecidableEq, Repr

structure PricingConfig where
  spreadBps : Nat
  fallbackFeerateSatPerVb : Option Nat
  minSwapSat : Nat
  maxSwapSat : Nat
  quoteExpirySeconds : Nat
  reservationTier : ReservationTier
  lightningRoutingFeePpm : Nat
  deriving DecidableEq, Repr

variable (config : PricingConfig)

/-- The first bound that the policy breaks. -/
def PricingConfig.validate : Except String Unit :=
  if maxSpreadBps < config.spreadBps then .error "IMMORTAL_PROVIDER_SPREAD_BPS must be between 0 and 1000"
  else if config.fallbackFeerateSatPerVb.any (fun fallback => fallback < 1 || maxFeerateSatPerVb < fallback) then
    .error "IMMORTAL_PROVIDER_FALLBACK_FEERATE_SAT_PER_VB must be between 1 and 2000"
  else if config.minSwapSat = 0 then .error "IMMORTAL_PROVIDER_QUOTE_MIN_SAT must be positive"
  else if config.maxSwapSat < config.minSwapSat then
    .error "IMMORTAL_PROVIDER_QUOTE_MAX_SAT must be at least IMMORTAL_PROVIDER_QUOTE_MIN_SAT"
  else if maxAmountSat < config.maxSwapSat then
    .error "IMMORTAL_PROVIDER_QUOTE_MAX_SAT must be at most 2100000000000000"
  else if config.quoteExpirySeconds < 1 ∨ maxQuoteExpirySeconds < config.quoteExpirySeconds then
    .error "IMMORTAL_PROVIDER_QUOTE_EXPIRY_SECONDS must be between 1 and 3600"
  else if maxLightningRoutingFeePpm < config.lightningRoutingFeePpm then
    .error "IMMORTAL_PROVIDER_LN_ROUTING_FEE_PPM must be between 0 and 100000"
  else .ok ()

inductive FeerateObservation where
  | live (satPerVb : Nat) (source : String)
  | fallback (satPerVb : Nat)
  deriving DecidableEq, Repr

def FeerateObservation.satPerVb : FeerateObservation → Nat
  | .live satPerVb _ => satPerVb
  | .fallback satPerVb => satPerVb

structure CapacityBounds where
  capacityBucketId : String
  availableCapacity : String
  deriving DecidableEq, Repr

inductive QuoteSide where
  | input
  | output
  deriving DecidableEq, Repr

structure QuoteRequest where
  swapType : SwapType
  side : QuoteSide
  amount : String
  deriving DecidableEq, Repr

/-! ## The price feed -/

structure PriceFeedSource where
  venue : String
  environment : String
  instrument : String
  deriving DecidableEq, Repr

structure PriceFeedPacket where
  schema : String
  source : PriceFeedSource
  indexPriceUsdCents : String
  realizedVolatilityBps : String
  realizedVolatilityWindowSeconds : Nat
  observedAt : Nat
  maxAgeSeconds : Nat
  deriving DecidableEq, Repr

structure PriceFeedApplication where
  source : PriceFeedSource
  indexPriceUsdCents : String
  realizedVolatilityBps : String
  realizedVolatilityWindowSeconds : Nat
  observedAt : Nat
  maxAgeSeconds : Nat
  staticSpreadBps : String
  effectiveSpreadBps : String
  inputValueUsdCents : String
  outputValueUsdCents : String
  deriving DecidableEq, Repr

structure PriceFeedFallback where
  reason : String
  deriving DecidableEq, Repr

structure ValidatedPriceFeed where
  packet : PriceFeedPacket
  indexPriceUsdCents : Nat
  realizedVolatilityBps : Nat
  deriving DecidableEq, Repr

def machineIdentifier (value : String) : Bool :=
  value ≠ "" && value.utf8ByteSize ≤ 64 &&
    value.toList.all fun c => ('a' ≤ c && c ≤ 'z') || c.isDigit || c ∈ ['-', '_', '.']

def canonicalFeedQuantity (value label : String) (maximum : Nat) : Except String Nat :=
  let parsed := Nat.ofDigitChars 10 value.toList 0
  if !canonicalDigits value then .error (label ++ " is not a canonical decimal string")
  else if u64Limit ≤ parsed then .error (label ++ " exceeds u64")
  else if maximum < parsed then .error (label ++ " exceeds its bound")
  else .ok parsed

/-- Fail with the reason when the condition holds. -/
def feedErrorIf (bad : Bool) (reason : String) : Except String Unit := if bad then .error reason else .ok ()

def priceFeedSchema : String := "openagents.immortal.provider-price-feed.v1"

/-- The packet is well formed and fresh at the time of the quote. -/
def PriceFeedPacket.validateAt (packet : PriceFeedPacket) (observedAt : Nat) : Except String ValidatedPriceFeed := do
  feedErrorIf (packet.schema ≠ priceFeedSchema) "packet schema is unsupported"
  feedErrorIf
    (!machineIdentifier packet.source.venue || !machineIdentifier packet.source.environment ||
      !machineIdentifier packet.source.instrument)
    "source identity is invalid"
  let indexPriceUsdCents ← canonicalFeedQuantity packet.indexPriceUsdCents "index price" maxIndexPriceUsdCents
  feedErrorIf (indexPriceUsdCents = 0) "index price must be positive"
  let realizedVolatilityBps ←
    canonicalFeedQuantity packet.realizedVolatilityBps "realized volatility" maxRealizedVolatilityBps
  feedErrorIf (packet.realizedVolatilityWindowSeconds = 0 || 604800 < packet.realizedVolatilityWindowSeconds)
    "realized volatility window must be between 1 and 604800 seconds"
  feedErrorIf (packet.observedAt = 0 || observedAt < packet.observedAt) "observation time is invalid"
  feedErrorIf (packet.maxAgeSeconds < 1 || maxPriceFeedAgeSeconds < packet.maxAgeSeconds)
    "maximum age must be between 1 and 3600 seconds"
  feedErrorIf (u64Limit ≤ packet.observedAt + packet.maxAgeSeconds) "staleness timestamp overflows"
  feedErrorIf (packet.observedAt + packet.maxAgeSeconds < observedAt) "packet is stale"
  return ⟨packet, indexPriceUsdCents, realizedVolatilityBps⟩

/-- The static spread scaled by the volatility, at most the largest spread. -/
def ValidatedPriceFeed.effectiveSpreadBps (feed : ValidatedPriceFeed) (staticSpreadBps : Nat) : Nat :=
  let adjusted := staticSpreadBps * feed.realizedVolatilityBps / referenceRealizedVolatilityBps
  min (if adjusted < u64Limit then adjusted else u64Limit - 1) maxSpreadBps

def ValidatedPriceFeed.usdValueCents (feed : ValidatedPriceFeed) (amountSat : Nat) : Checked Nat :=
  toU64 (amountSat * feed.indexPriceUsdCents / satoshisPerBitcoin) "swp_invalid_amount" "USD quote valuation overflows"

/-! ## Fees -/

def floorScaled (amount numerator denominator : Nat) : Checked Nat :=
  toU64 (amount * numerator / denominator) "swp_invalid_fee" "fee component exceeds the v1 amount range"

def outputFloor : SwapType → Nat
  | .submarine => lightningOutputFloorSat
  | .reverse | .chain => chainOutputDustSat

def routingPpm : SwapType → Nat
  | .submarine => config.lightningRoutingFeePpm
  | .reverse | .chain => 0

structure FeeComponents where
  providerFee : Nat
  minerFeeBudget : Nat
  lightningRoutingFeeBudget : Nat
  output : Option Nat
  deriving DecidableEq, Repr

def checkedSub (a b : Nat) : Option Nat := if b ≤ a then some (a - b) else none

def feeComponents (swapType : SwapType) (minerFeeBudget input : Nat) :
    Checked FeeComponents := do
  let providerFee ← floorScaled input config.spreadBps 10000
  let lightningRoutingFeeBudget ← floorScaled input (routingPpm config swapType) 1000000
  let output := do
    let value ← checkedSub input providerFee
    let value ← checkedSub value minerFeeBudget
    checkedSub value lightningRoutingFeeBudget
  return ⟨providerFee, minerFeeBudget, lightningRoutingFeeBudget, output⟩

/-! ## The search for the smallest input -/

/-- The first loop: up from the candidate until it covers the target. The number counts the steps that are left of
    `MIN_VIABLE_SEARCH_STEPS`. -/
def searchUp (covers : Nat → Checked Bool) (code tooLarge stuck : String) : Nat → Nat → Checked (Nat × Nat)
  | left, candidate => do
    if ← covers candidate then return (candidate, left)
    refuseIf (candidate + 1 = u64Limit) code tooLarge
    match left with
    | 0 => .error ⟨code, stuck⟩
    | left + 1 => searchUp covers code tooLarge stuck left (candidate + 1)

/-- The second loop: down while the predecessor covers the target, on the steps that the first loop left. -/
def searchDown (covers : Nat → Checked Bool) (code stuck : String) : Nat → Nat → Checked Nat
  | left, candidate => do
    if candidate ≤ 1 then return candidate
    if !(← covers (candidate - 1)) then return candidate
    match left with
    | 0 => .error ⟨code, stuck⟩
    | left + 1 => searchDown covers code stuck left (candidate - 1)

/-- The input leaves at least `desired` after its fees. -/
def coversOutput (swapType : SwapType) (minerFeeBudget desired input : Nat) :
    Checked Bool := do
  let components ← feeComponents config swapType minerFeeBudget input
  return components.output.any (desired ≤ ·)

/-- The search that `min_viable_input` and `input_for_output` share. -/
def smallestInput (swapType : SwapType) (minerFeeBudget desired : Nat)
    (code tooLarge stuck : String) : Checked Nat := do
  let variablePpm := config.spreadBps * 100 + routingPpm config swapType
  refuseIf (1000000 ≤ variablePpm) "swp_invalid_fee" "variable fee rate consumes the entire input"
  let needed := minerFeeBudget + desired
  -- `div_ceil`
  let candidate ← toU64 ((needed * 1000000 + (1000000 - variablePpm) - 1) / (1000000 - variablePpm)) code tooLarge
  let covers := coversOutput config swapType minerFeeBudget desired
  let (candidate, left) ← searchUp covers code tooLarge stuck minViableSearchSteps candidate
  searchDown covers code stuck left candidate

/-- The smallest input whose promised output clears the settlement floor. -/
def minViableInput (swapType : SwapType) (minerFeeBudget : Nat) : Checked Nat :=
  smallestInput config swapType minerFeeBudget (outputFloor swapType) "swp_invalid_fee"
    "minimum viable amount exceeds the v1 amount range" "minimum viable amount search did not converge"

/-- The smallest input whose promised output covers the desired one. -/
def inputForOutput (swapType : SwapType) (minerFeeBudget desired : Nat) : Checked Nat :=
  smallestInput config swapType minerFeeBudget desired "swp_invalid_amount"
    "requested output amount exceeds the v1 amount range" "input search for the requested output did not converge"

/-! ## Quotes -/

structure DerivedQuote where
  swapType : SwapType
  side : QuoteSide
  inputAmount : String
  outputAmount : String
  feeBps : String
  providerFee : String
  minerFeeBudget : String
  lightningRoutingFeeBudget : String
  maximumTotalFee : String
  minInput : String
  maxInput : String
  quoteCreatedAt : Nat
  quoteExpiresAt : Nat
  reservation : ReservationTier
  capacityBucketId : String
  feerate : FeerateObservation
  worstCaseVbytes : Nat
  amountEquation : String
  rounding : String
  priceFeedApplication : Option PriceFeedApplication
  priceFeedFallback : Option PriceFeedFallback
  deriving DecidableEq, Repr

/-- The checks of a derivation in front of its arithmetic: the requested amount and the available capacity. -/
def quoteInputs (feerate : FeerateObservation) (capacity : CapacityBounds)
    (request : QuoteRequest) (worstCaseVbytes : Nat) : Checked (Nat × Nat) := do
  config.validate.mapError fun reason => ⟨"swp_invalid_fee", reason⟩
  refuseIf (worstCaseVbytes = 0 || 100000 < worstCaseVbytes) "swp_invalid_fee"
    "quote fee weight is outside the provider bound"
  refuseIf (feerate.satPerVb < 1 || maxFeerateSatPerVb < feerate.satPerVb) "swp_invalid_fee"
    "quote feerate must be between 1 and 2000 sat/vB"
  let amount ← canonicalSat request.amount "requested amount"
  refuseIf (amount = 0 || maxAmountSat < amount) "swp_invalid_amount"
    "requested amount must be positive and at most 2100000000000000"
  let available ← canonicalSat capacity.availableCapacity "available capacity"
  return (amount, available)

/-- The input amount of the quote. -/
def quotedInput (request : QuoteRequest) (minerFeeBudget amount : Nat) : Checked Nat :=
  match request.side with
  | .input => .ok amount
  | .output => inputForOutput config request.swapType minerFeeBudget amount

def deriveQuoteWithWorstCaseVbytes (feerate : FeerateObservation) (capacity : CapacityBounds)
    (request : QuoteRequest) (createdAt worstCaseVbytes : Nat) : Checked DerivedQuote := do
  let (amount, available) ← quoteInputs config feerate capacity request worstCaseVbytes
  let minerFeeBudget ←
    toU64 (worstCaseVbytes * feerate.satPerVb) "swp_invalid_fee" "miner fee component overflows"
  let maxInput := min config.maxSwapSat available
  let minInput := max config.minSwapSat (← minViableInput config request.swapType minerFeeBudget)
  refuseIf (maxInput < minInput) "swp_side_disabled" "available capacity is below the minimum quotable amount"
  let input ← quotedInput config request minerFeeBudget amount
  refuseIf (input < minInput || maxInput < input) "swp_invalid_amount"
    "requested amount is outside the quotable range"
  let components ← feeComponents config request.swapType minerFeeBudget input
  let output ← orRefuse (components.output.filter (outputFloor request.swapType ≤ ·)) "swp_invalid_amount"
    "requested amount cannot cover the quoted fees and settlement floor"
  let worstCaseCost ←
    toU64 (worstCaseVbytes * feerate.satPerVb) "swp_invalid_fee" "miner fee component overflows"
  let totalFee ← toU64 (components.providerFee + components.minerFeeBudget + components.lightningRoutingFeeBudget)
    "swp_invalid_fee" "total fee overflows"
  refuseIf (components.minerFeeBudget < worstCaseCost || totalFee < worstCaseCost) "swp_invalid_fee"
    "derived fee is below the worst-case redeemable path cost"
  let quoteExpiresAt ←
    toU64 (createdAt + config.quoteExpirySeconds) "swp_quote_expired" "quote expiry timestamp overflows"
  return {
    swapType := request.swapType
    side := request.side
    inputAmount := toString input
    outputAmount := toString output
    feeBps := toString config.spreadBps
    providerFee := toString components.providerFee
    minerFeeBudget := toString components.minerFeeBudget
    lightningRoutingFeeBudget := toString components.lightningRoutingFeeBudget
    maximumTotalFee := toString totalFee
    minInput := toString minInput
    maxInput := toString maxInput
    quoteCreatedAt := createdAt
    quoteExpiresAt := quoteExpiresAt
    reservation := config.reservationTier
    capacityBucketId := capacity.capacityBucketId
    feerate := feerate
    worstCaseVbytes := worstCaseVbytes
    amountEquation := "input_minus_provider_and_quoted_fees"
    rounding := "floor_output_sats"
    priceFeedApplication := none
    priceFeedFallback := none }

/-- What the packet gives: a feed that is valid now, or the reason why it is not used. -/
def readPriceFeed (priceFeed : Option PriceFeedPacket) (createdAt : Nat) :
    Option ValidatedPriceFeed × Option PriceFeedFallback :=
  match priceFeed with
  | none => (none, none)
  | some packet =>
    match packet.validateAt createdAt with
    | .ok feed => (some feed, none)
    | .error reason => (none, some ⟨reason⟩)

/-- The policy with the spread that the feed gives. -/
def effectiveConfig : Option ValidatedPriceFeed → PricingConfig
  | none => config
  | some feed => { config with spreadBps := feed.effectiveSpreadBps config.spreadBps }

/-- The audit metadata of a quote that a feed has priced. -/
def applyPriceFeed (derived : DerivedQuote) : Option ValidatedPriceFeed → Checked DerivedQuote
  | none => .ok derived
  | some feed => do
    let inputAmount ← canonicalSat derived.inputAmount "derived input amount"
    let outputAmount ← canonicalSat derived.outputAmount "derived output amount"
    let inputValueUsdCents ← feed.usdValueCents inputAmount
    let outputValueUsdCents ← feed.usdValueCents outputAmount
    return { derived with priceFeedApplication := some {
      source := feed.packet.source
      indexPriceUsdCents := feed.packet.indexPriceUsdCents
      realizedVolatilityBps := feed.packet.realizedVolatilityBps
      realizedVolatilityWindowSeconds := feed.packet.realizedVolatilityWindowSeconds
      observedAt := feed.packet.observedAt
      maxAgeSeconds := feed.packet.maxAgeSeconds
      staticSpreadBps := toString config.spreadBps
      effectiveSpreadBps := toString (feed.effectiveSpreadBps config.spreadBps)
      inputValueUsdCents := toString inputValueUsdCents
      outputValueUsdCents := toString outputValueUsdCents } }

def deriveQuoteWithPriceFeedAndWorstCaseVbytes (feerate : FeerateObservation)
    (capacity : CapacityBounds) (request : QuoteRequest) (createdAt worstCaseVbytes : Nat)
    (priceFeed : Option PriceFeedPacket) : Checked DerivedQuote := do
  let (validatedFeed, fallback) := readPriceFeed priceFeed createdAt
  let derived ← deriveQuoteWithWorstCaseVbytes (effectiveConfig config validatedFeed) feerate capacity request
    createdAt worstCaseVbytes
  let derived ← applyPriceFeed config derived validatedFeed
  return { derived with priceFeedFallback := fallback }

def fundingFeerateFromPricedVbytes (pricedVbytes minerFeeBudgetSat : Nat) : Checked Nat := do
  refuseIf (pricedVbytes = 0) "swp_invalid_fee" "signed miner-fee weight must be positive"
  refuseIf (minerFeeBudgetSat % pricedVbytes ≠ 0) "swp_invalid_fee"
    "signed miner-fee budget does not encode an exact feerate"
  let satPerVb := minerFeeBudgetSat / pricedVbytes
  refuseIf (satPerVb < 1 || maxFeerateSatPerVb < satPerVb) "swp_invalid_fee"
    "signed funding feerate is outside the provider bound"
  return satPerVb

end Immortal.Provider
