import Immortal.Provider.Pricing

/-!
# `Immortal.Provider.Quotes` — what a derived Quote promises

Two results about every quote that `pricing.rs` derives. The accounts balance: the input is the output and the three
fees, the miner budget pays for the worst-case weight at the quoted feerate, the amounts stay within the limits and
floors, and the feerate can be read back from the budget. And the price feed moves what it may move: for an Input-side
request it changes the spread and what follows from it, up to the lower limit, which depends on the spread too; for an
Output-side request it changes the input amount, and with it the routing budget, whenever the two spreads need
different inputs for the requested output.

The search for the smallest input starts at the bound where the exact rational fees fit, which always covers the
target, and then goes down; `FirstCovering` says where it stops.
-/

namespace Immortal.Provider

open Txn Immortal.Client

/-! ## Texts of numbers -/

theorem ofDigitChars_toString (n : Nat) : Nat.ofDigitChars 10 (toString n).toList 0 = n := by
  rw [Nat.toString_eq_ofList_toDigits, String.toList_ofList]
  exact Nat.ofDigitChars_toDigits (by decide) (by decide)

theorem toString_inj {a b : Nat} (h : toString a = toString b) : a = b := by
  rw [← ofDigitChars_toString a, ← ofDigitChars_toString b, h]

theorem canonicalSat_lt {value label : String} {n : Nat} (h : canonicalSat value label = .ok n) : n < u64Limit := by
  simp only [canonicalSat, check_bind_eq_ok, pure_eq_ok] at h
  obtain ⟨_, hlimit, rfl⟩ := h
  simpa using hlimit

/-! ## Fees -/

section
variable {config : PricingConfig} {swapType : SwapType} {minerFeeBudget input : Nat}

theorem toU64_ok {value result : Nat} {code message : String} :
    toU64 value code message = .ok result ↔ value < u64Limit ∧ result = value := by
  unfold toU64
  split
  · simp_all [eq_comm]
  · simp_all

theorem checkedSub_eq_some {a b c : Nat} : checkedSub a b = some c ↔ a = c + b := by
  unfold checkedSub
  split
  · rw [Option.some.injEq]
    omega
  · simp only [reduceCtorEq, false_iff]
    omega

/-- The two proportional fees are floors, and the output is what is left. -/
theorem feeComponents_ok {components : FeeComponents}
    (h : feeComponents config swapType minerFeeBudget input = .ok components) :
    components.providerFee = input * config.spreadBps / 10000 ∧ components.minerFeeBudget = minerFeeBudget ∧
      components.lightningRoutingFeeBudget = input * routingPpm config swapType / 1000000 ∧
      ∀ output, components.output = some output ↔ input = output + components.providerFee +
        components.minerFeeBudget + components.lightningRoutingFeeBudget := by
  simp only [feeComponents, floorScaled, bind_eq_ok, toU64_ok, pure_eq_ok] at h
  obtain ⟨providerFee, ⟨_, rfl⟩, routing, ⟨_, rfl⟩, rfl⟩ := h
  refine ⟨rfl, rfl, rfl, fun output => ?_⟩
  simp only [Option.bind_eq_bind, Option.bind_eq_some_iff, checkedSub_eq_some]
  constructor
  · rintro ⟨rest, hfee, rest', hminer, hrouting⟩
    omega
  · intro hbalance
    refine ⟨output + minerFeeBudget + input * routingPpm config swapType / 1000000, ?_,
      output + input * routingPpm config swapType / 1000000, ?_, rfl⟩
    · omega
    · omega

/-- The rates of a validated policy. -/
structure Rates (config : PricingConfig) : Prop where
  spread : config.spreadBps ≤ maxSpreadBps
  routing : config.lightningRoutingFeePpm ≤ maxLightningRoutingFeePpm

theorem rates_of_validate (h : config.validate = .ok ()) : Rates config := by
  unfold PricingConfig.validate at h
  repeat' (split at h; · cases h)
  exact ⟨by omega, by omega⟩

theorem Rates.routingPpm_le (h : Rates config) : routingPpm config swapType ≤ maxLightningRoutingFeePpm := by
  cases swapType with
  | submarine => exact h.routing
  | reverse => exact Nat.zero_le _
  | chain => exact Nat.zero_le _

/-- A proportion of an amount is at most the amount. -/
theorem scaled_le {amount numerator denominator : Nat} (h : numerator ≤ denominator) :
    amount * numerator / denominator ≤ amount := by
  apply Nat.div_le_of_le_mul
  rw [Nat.mul_comm]
  exact Nat.mul_le_mul_right amount h

end

/-! ## The search -/

/-- An input that leaves `needed` after the two proportional fees. -/
def Covers (spread ppm needed input : Nat) : Prop :=
  needed + input * spread / 10000 + input * ppm / 1000000 ≤ input

instance (spread ppm needed input : Nat) : Decidable (Covers spread ppm needed input) :=
  inferInstanceAs (Decidable (_ ≤ _))

/-- The least input that leaves `needed` when the fees are not rounded. -/
def exactBound (spread ppm needed : Nat) : Nat :=
  (needed * 1000000 + (1000000 - (spread * 100 + ppm)) - 1) / (1000000 - (spread * 100 + ppm))

/-- Every input from here to the exact bound covers, and the one below does not. -/
structure FirstCovering (spread ppm needed input : Nat) : Prop where
  pos : 0 < input
  le_bound : input ≤ exactBound spread ppm needed
  covers : ∀ y, input ≤ y → y ≤ exactBound spread ppm needed → Covers spread ppm needed y
  least : input ≤ 1 ∨ ¬ Covers spread ppm needed (input - 1)

section
variable {spread ppm needed : Nat}

theorem FirstCovering.unique {x y : Nat} (hx : FirstCovering spread ppm needed x)
    (hy : FirstCovering spread ppm needed y) : x = y := by
  have hle : ∀ {a b : Nat}, FirstCovering spread ppm needed a → FirstCovering spread ppm needed b → b ≤ a := by
    intro a b ha hb
    by_contra hlt
    rcases hb.least with hone | hnot
    · have := ha.pos
      omega
    · have hbound := hb.le_bound
      exact hnot (ha.covers (b - 1) (by omega) (by omega))
  exact Nat.le_antisymm (hle hy hx) (hle hx hy)

/-- **The exact bound covers**, and so does every input above it: rounding the fees down only leaves more. -/
theorem covers_of_exactBound_le (hrate : spread * 100 + ppm < 1000000) {x : Nat}
    (hle : exactBound spread ppm needed ≤ x) : Covers spread ppm needed x := by
  unfold Covers
  obtain ⟨d, hd⟩ : ∃ d, d = 1000000 - (spread * 100 + ppm) := ⟨_, rfl⟩
  have hexact : needed * 1000000 ≤ x * d := by
    have hceil : needed * 1000000 + d - 1 < d * ((needed * 1000000 + d - 1) / d + 1) :=
      Nat.lt_mul_div_succ _ (by omega)
    rw [exactBound, ← hd] at hle
    have hscaled := Nat.mul_le_mul_left d hle
    rw [Nat.mul_add] at hceil
    rw [Nat.mul_comm x d]
    omega
  have hsplit : x * d + (x * spread * 100 + x * ppm) = x * 1000000 := by
    have hsum : d + (spread * 100 + ppm) = 1000000 := by omega
    calc x * d + (x * spread * 100 + x * ppm) = x * (d + (spread * 100 + ppm)) := by ring
      _ = x * 1000000 := by rw [hsum]
  omega

theorem exactBound_pos (hneeded : 0 < needed) (hrate : spread * 100 + ppm < 1000000) :
    0 < exactBound spread ppm needed := by
  by_contra hzero
  have hcovers : Covers spread ppm needed (exactBound spread ppm needed) :=
    covers_of_exactBound_le hrate le_rfl
  simp only [Covers] at hcovers
  omega

end

section
variable {covers : Nat → Checked Bool} {P : Nat → Prop} [DecidablePred P] {top : Nat} {code tooLarge stuck : String}

/-- One step of the second loop. -/
theorem searchDown_eq (hcovers : ∀ y ≤ top, covers y = .ok (decide (P y))) {left candidate : Nat}
    (hle : candidate ≤ top) :
    searchDown covers code stuck left candidate =
      if candidate ≤ 1 ∨ ¬ P (candidate - 1) then .ok candidate
      else match left with
        | 0 => .error ⟨code, stuck⟩
        | left + 1 => searchDown covers code stuck left (candidate - 1) := by
  conv_lhs => unfold searchDown
  by_cases hone : candidate ≤ 1
  · rw [if_pos hone, if_pos (.inl hone)]
    rfl
  · rw [if_neg hone, hcovers _ (by omega)]
    by_cases hP : P (candidate - 1)
    · rw [if_neg (by simp [hone, hP]), decide_eq_true hP]
      rfl
    · rw [if_pos (.inr hP), decide_eq_false hP]
      rfl

/-- The second loop stops at the first predecessor that does not cover, or at one. -/
theorem searchDown_ok (hcovers : ∀ y ≤ top, covers y = .ok (decide (P y))) {left candidate x : Nat}
    (hle : candidate ≤ top) (hrange : ∀ y, candidate ≤ y → y ≤ top → P y)
    (h : searchDown covers code stuck left candidate = .ok x) :
    (0 < candidate → 0 < x) ∧ x ≤ top ∧ (∀ y, x ≤ y → y ≤ top → P y) ∧ (x ≤ 1 ∨ ¬ P (x - 1)) := by
  induction left generalizing candidate with
  | zero =>
    rw [searchDown_eq hcovers hle] at h
    split at h
    · rename_i hstop
      cases h
      exact ⟨id, hle, hrange, hstop⟩
    · cases h
  | succ left ih =>
    rw [searchDown_eq hcovers hle] at h
    split at h
    · rename_i hstop
      cases h
      exact ⟨id, hle, hrange, hstop⟩
    · rename_i hmore
      simp only [not_or, not_not] at hmore
      have hbelow : ∀ y, candidate - 1 ≤ y → y ≤ top → P y := by
        intro y hy hytop
        rcases Nat.lt_or_ge y candidate with hlt | hge
        · have heq : y = candidate - 1 := by omega
          rw [heq]
          exact hmore.2
        · exact hrange y hge hytop
      obtain ⟨hpos, hx⟩ := ih (by omega) hbelow h
      exact ⟨fun _ => hpos (by omega), hx⟩

/-- The first loop ends at once on a candidate that covers. -/
theorem searchUp_covers {left candidate : Nat} (h : covers candidate = .ok true) :
    searchUp covers code tooLarge stuck left candidate = .ok (candidate, left) := by
  unfold searchUp
  rw [h]
  rfl

end

section
variable {config : PricingConfig} {swapType : SwapType} {minerFeeBudget desired : Nat}

/-- The test of the loops, on a number of 64 bits. -/
theorem coversOutput_eq (hrates : Rates config) {input : Nat} (hinput : input < u64Limit) :
    coversOutput config swapType minerFeeBudget desired input =
      .ok (decide (Covers config.spreadBps (routingPpm config swapType) (minerFeeBudget + desired) input)) := by
  have hfee : input * config.spreadBps / 10000 < u64Limit := by
    refine Nat.lt_of_le_of_lt (scaled_le ?_) hinput
    exact le_trans hrates.spread (by decide)
  have hrouting : input * routingPpm config swapType / 1000000 < u64Limit := by
    refine Nat.lt_of_le_of_lt (scaled_le ?_) hinput
    exact le_trans hrates.routingPpm_le (by decide)
  obtain ⟨components, hcomponents⟩ : ∃ components,
      feeComponents config swapType minerFeeBudget input = .ok components := by
    rw [feeComponents, floorScaled, toU64, if_pos hfee, floorScaled, toU64, if_pos hrouting]
    exact ⟨_, rfl⟩
  obtain ⟨hprovider, hminer, hroute, houtput⟩ := feeComponents_ok hcomponents
  rw [coversOutput, hcomponents]
  show Except.ok _ = Except.ok _
  congr 1
  rw [Bool.eq_iff_iff, decide_eq_true_eq, Covers]
  constructor
  · intro hany
    obtain ⟨output, hsome, hle⟩ := (Option.any_eq_true _ _).mp hany
    have hbalance := (houtput output).mp hsome
    have hdesired : desired ≤ output := by simpa using hle
    omega
  · intro hcovers
    refine (Option.any_eq_true _ _).mpr
      ⟨input - components.providerFee - components.minerFeeBudget - components.lightningRoutingFeeBudget, ?_, ?_⟩
    · rw [houtput]
      omega
    · rw [decide_eq_true_eq]
      omega

/-- The search with a bound of its own on the steps of the loops. -/
def smallestInputWithin (steps : Nat) (config : PricingConfig) (swapType : SwapType) (minerFeeBudget desired : Nat)
    (code tooLarge stuck : String) : Checked Nat := do
  let bound := exactBound config.spreadBps (routingPpm config swapType) (minerFeeBudget + desired)
  let candidate ← toU64 bound code tooLarge
  let covers := coversOutput config swapType minerFeeBudget desired
  let (candidate, left) ← searchUp covers code tooLarge stuck steps candidate
  searchDown covers code stuck left candidate

theorem Rates.variable_lt (h : Rates config) (swapType : SwapType) :
    config.spreadBps * 100 + routingPpm config swapType < 1000000 := by
  have hspread := h.spread
  have hrouting : routingPpm config swapType ≤ maxLightningRoutingFeePpm := h.routingPpm_le
  simp only [maxSpreadBps, maxLightningRoutingFeePpm] at hspread hrouting
  omega

theorem smallestInput_eq (hrates : Rates config) {code tooLarge stuck : String} :
    smallestInput config swapType minerFeeBudget desired code tooLarge stuck =
      smallestInputWithin minViableSearchSteps config swapType minerFeeBudget desired code tooLarge stuck := by
  have hrate : ¬ 1000000 ≤ config.spreadBps * 100 + routingPpm config swapType :=
    Nat.not_le.mpr (hrates.variable_lt swapType)
  have hgo : refuseIf (decide (1000000 ≤ config.spreadBps * 100 + routingPpm config swapType)) "swp_invalid_fee"
      "variable fee rate consumes the entire input" = .ok () := by
    rw [refuseIf, decide_eq_false hrate, if_neg Bool.false_ne_true]
  -- the two searches agree without being run
  have hbind : ∀ next : Unit → Checked Nat, (Except.ok () >>= next) = next () := fun _ => rfl
  rw [smallestInput, hgo, hbind]
  rfl

/-- The bound covers, so the first loop does nothing and the search is the walk down from the bound. -/
theorem smallestInputWithin_eq (hrates : Rates config) {steps : Nat} {code tooLarge stuck : String}
    (hlimit : exactBound config.spreadBps (routingPpm config swapType) (minerFeeBudget + desired) < u64Limit) :
    smallestInputWithin steps config swapType minerFeeBudget desired code tooLarge stuck =
      searchDown (coversOutput config swapType minerFeeBudget desired) code stuck steps
        (exactBound config.spreadBps (routingPpm config swapType) (minerFeeBudget + desired)) := by
  have hcovers : coversOutput config swapType minerFeeBudget desired
      (exactBound config.spreadBps (routingPpm config swapType) (minerFeeBudget + desired)) = .ok true := by
    rw [coversOutput_eq hrates hlimit, decide_eq_true (covers_of_exactBound_le (hrates.variable_lt swapType) le_rfl)]
  rw [smallestInputWithin, toU64, if_pos hlimit]
  show (searchUp _ code tooLarge stuck steps _ >>= _) = _
  rw [searchUp_covers hcovers]
  rfl

/-- **The search** of `min_viable_input` and `input_for_output` finds the first covering input. -/
theorem smallestInput_firstCovering (hrates : Rates config) (hneeded : 0 < minerFeeBudget + desired)
    {code tooLarge stuck : String} {x : Nat}
    (h : smallestInput config swapType minerFeeBudget desired code tooLarge stuck = .ok x) :
    FirstCovering config.spreadBps (routingPpm config swapType) (minerFeeBudget + desired) x := by
  rw [smallestInput_eq hrates] at h
  have hlimit : exactBound config.spreadBps (routingPpm config swapType) (minerFeeBudget + desired) < u64Limit := by
    simp only [smallestInputWithin, bind_eq_ok, toU64_ok] at h
    obtain ⟨_, ⟨hlimit, -⟩, -⟩ := h
    exact hlimit
  rw [smallestInputWithin_eq hrates hlimit] at h
  obtain ⟨hpos, hle, hall, hleast⟩ :=
    searchDown_ok (fun y hy => coversOutput_eq hrates (Nat.lt_of_le_of_lt hy hlimit)) le_rfl
      (fun y hy _ => covers_of_exactBound_le (hrates.variable_lt swapType) hy) h
  exact ⟨hpos (exactBound_pos hneeded (hrates.variable_lt swapType)), hle, hall, hleast⟩

end

/-! ## What a derivation has checked -/

/-- The quote with these numbers. -/
def quoteOf (config : PricingConfig) (feerate : FeerateObservation) (capacity : CapacityBounds) (request : QuoteRequest)
    (createdAt worstCaseVbytes available least input output : Nat) : DerivedQuote where
  swapType := request.swapType
  side := request.side
  inputAmount := toString input
  outputAmount := toString output
  feeBps := toString config.spreadBps
  providerFee := toString (input * config.spreadBps / 10000)
  minerFeeBudget := toString (worstCaseVbytes * feerate.satPerVb)
  lightningRoutingFeeBudget := toString (input * routingPpm config request.swapType / 1000000)
  maximumTotalFee := toString (input * config.spreadBps / 10000 + worstCaseVbytes * feerate.satPerVb +
    input * routingPpm config request.swapType / 1000000)
  minInput := toString (max config.minSwapSat least)
  maxInput := toString (min config.maxSwapSat available)
  quoteCreatedAt := createdAt
  quoteExpiresAt := createdAt + config.quoteExpirySeconds
  reservation := config.reservationTier
  capacityBucketId := capacity.capacityBucketId
  feerate := feerate
  worstCaseVbytes := worstCaseVbytes
  amountEquation := "input_minus_provider_and_quoted_fees"
  rounding := "floor_output_sats"
  priceFeedApplication := none
  priceFeedFallback := none

/-- A successful derivation of a quote, with its numbers. -/
structure Derivation (config : PricingConfig) (feerate : FeerateObservation) (capacity : CapacityBounds)
    (request : QuoteRequest) (createdAt worstCaseVbytes amount available least input output : Nat)
    (quote : DerivedQuote) : Prop where
  rates : Rates config
  weight : 0 < worstCaseVbytes
  feerateRange : 1 ≤ feerate.satPerVb ∧ feerate.satPerVb ≤ maxFeerateSatPerVb
  amountText : canonicalSat request.amount "requested amount" = .ok amount
  amountPos : 0 < amount
  availableText : canonicalSat capacity.availableCapacity "available capacity" = .ok available
  viable : minViableInput config request.swapType (worstCaseVbytes * feerate.satPerVb) = .ok least
  quoted : quotedInput config request (worstCaseVbytes * feerate.satPerVb) amount = .ok input
  low : max config.minSwapSat least ≤ input
  high : input ≤ min config.maxSwapSat available
  balance : input = output + input * config.spreadBps / 10000 + worstCaseVbytes * feerate.satPerVb +
    input * routingPpm config request.swapType / 1000000
  floor : outputFloor request.swapType ≤ output
  numbers : quote = quoteOf config feerate capacity request createdAt worstCaseVbytes available least input output

section
variable {config : PricingConfig} {feerate : FeerateObservation} {capacity : CapacityBounds} {request : QuoteRequest}
  {createdAt worstCaseVbytes : Nat} {quote : DerivedQuote}

theorem deriveQuote_ok
    (h : deriveQuoteWithWorstCaseVbytes config feerate capacity request createdAt worstCaseVbytes = .ok quote) :
    ∃ amount available least input output,
      Derivation config feerate capacity request createdAt worstCaseVbytes amount available least input output quote := by
  simp only [deriveQuoteWithWorstCaseVbytes, quoteInputs, bind_eq_ok, refuseIf_eq_ok, toU64_ok, mapError_eq_ok,
    orRefuse_eq_ok, pure_eq_ok] at h
  obtain ⟨⟨amount, available⟩, ⟨_, hvalid, _, hweight, _, hfeerate, amount', hamount, _, hrange, available', havailable,
    hpair⟩, miner, ⟨_, rfl⟩, least, hleast, _, _, input, hquoted, _, hwithin, components, hcomponents, output, houtput,
    _, ⟨_, rfl⟩, total, ⟨_, rfl⟩, _, _, expires, ⟨_, rfl⟩, hquote⟩ := h
  obtain ⟨rfl, rfl⟩ := Prod.mk.inj hpair
  obtain ⟨hprovider, hminer, hrouting, hbalance⟩ := feeComponents_ok hcomponents
  obtain ⟨hsome, hfloor⟩ := Option.filter_eq_some_iff.mp houtput
  simp only [Bool.or_eq_false_iff, decide_eq_false_iff_not, Nat.not_lt] at hweight hfeerate hrange hwithin
  refine ⟨amount', available', least, input, output, ⟨rates_of_validate hvalid, by omega, hfeerate, hamount, by omega,
    havailable, hleast, hquoted, hwithin.1, hwithin.2, ?_, by simpa using hfloor, ?_⟩⟩
  · have hsum := (hbalance output).mp hsome
    rw [hprovider, hminer, hrouting] at hsum
    exact hsum
  · rw [← hquote, hprovider, hminer, hrouting]
    rfl

/-- A quote with a price feed is the quote at the effective spread, with the two metadata fields set. -/
theorem withPriceFeed_ok {priceFeed : Option PriceFeedPacket}
    (h : deriveQuoteWithPriceFeedAndWorstCaseVbytes config feerate capacity request createdAt worstCaseVbytes priceFeed =
      .ok quote) :
    ∃ derived application,
      deriveQuoteWithWorstCaseVbytes (effectiveConfig config (readPriceFeed priceFeed createdAt).1) feerate capacity
        request createdAt worstCaseVbytes = .ok derived ∧
      quote = { derived with
        priceFeedApplication := application
        priceFeedFallback := (readPriceFeed priceFeed createdAt).2 } ∧
      ((readPriceFeed priceFeed createdAt).1 = none → application = derived.priceFeedApplication) := by
  simp only [deriveQuoteWithPriceFeedAndWorstCaseVbytes, bind_eq_ok, pure_eq_ok] at h
  obtain ⟨derived, hderived, applied, happlied, rfl⟩ := h
  cases hfeed : (readPriceFeed priceFeed createdAt).1 with
  | none =>
    rw [hfeed] at happlied hderived
    cases happlied
    exact ⟨derived, derived.priceFeedApplication, hderived, rfl, fun _ => rfl⟩
  | some feed =>
    rw [hfeed] at happlied hderived
    simp only [applyPriceFeed, bind_eq_ok, pure_eq_ok] at happlied
    obtain ⟨_, _, _, _, _, _, _, _, rfl⟩ := happlied
    exact ⟨derived, _, hderived, rfl, fun hnone => by cases hnone⟩

theorem needed_pos (hweight : 0 < worstCaseVbytes) (hfeerate : 1 ≤ feerate.satPerVb) (desired : Nat) :
    0 < worstCaseVbytes * feerate.satPerVb + desired :=
  Nat.add_pos_left (Nat.mul_pos hweight hfeerate) desired

/-- The lower limit of a derivation is where the search for the settlement floor ends. -/
theorem Derivation.least_first {amount available least input output : Nat}
    (h : Derivation config feerate capacity request createdAt worstCaseVbytes amount available least input output quote) :
    FirstCovering config.spreadBps (routingPpm config request.swapType)
      (worstCaseVbytes * feerate.satPerVb + outputFloor request.swapType) least :=
  smallestInput_firstCovering h.rates (needed_pos h.weight h.feerateRange.1 _) h.viable

/-- The input of an Output-side derivation is where the search for the requested amount ends. -/
theorem Derivation.input_first {amount available least input output : Nat}
    (h : Derivation config feerate capacity request createdAt worstCaseVbytes amount available least input output quote)
    (hside : request.side = .output) :
    FirstCovering config.spreadBps (routingPpm config request.swapType)
      (worstCaseVbytes * feerate.satPerVb + amount) input := by
  have hquoted := h.quoted
  rw [quotedInput, hside] at hquoted
  exact smallestInput_firstCovering h.rates (needed_pos h.weight h.feerateRange.1 _) hquoted

/-- What an Output-side request asks for is promised. -/
theorem Derivation.amount_le_output {amount available least input output : Nat}
    (h : Derivation config feerate capacity request createdAt worstCaseVbytes amount available least input output quote)
    (hside : request.side = .output) : amount ≤ output := by
  have hfirst := h.input_first hside
  have hcovers := hfirst.covers input le_rfl hfirst.le_bound
  have hbalance := h.balance
  unfold Covers at hcovers
  omega

theorem fundingFeerate_priced (hweight : 0 < worstCaseVbytes)
    (hrange : 1 ≤ feerate.satPerVb ∧ feerate.satPerVb ≤ maxFeerateSatPerVb) :
    fundingFeerateFromPricedVbytes worstCaseVbytes (worstCaseVbytes * feerate.satPerVb) = .ok feerate.satPerVb := by
  simp only [fundingFeerateFromPricedVbytes, check_bind_eq_ok, refuseIf_eq_ok, Nat.mul_mod_right,
    Nat.mul_div_cancel_left _ hweight, pure, Except.pure]
  simp only [not_true_eq_false, decide_false, true_and, and_true, Bool.or_eq_false_iff, decide_eq_false_iff_not]
  omega

end

/-! ## The accounts of a quote -/

/-- **Quote accounting.** Whatever the policy, the request, the feerate, the weight, the capacity and the price feed:
    the numbers of a derived quote balance without wrap-around, the miner budget pays the worst-case weight at the
    feerate, the input is within the limits, the output is at least its floor and at least what an Output-side request
    asks for, and the feerate is read back from the miner budget. -/
theorem quote_accounting (config : PricingConfig) (feerate : FeerateObservation) (capacity : CapacityBounds)
    (request : QuoteRequest) (createdAt worstCaseVbytes : Nat) (priceFeed : Option PriceFeedPacket)
    (quote : DerivedQuote)
    (h : deriveQuoteWithPriceFeedAndWorstCaseVbytes config feerate capacity request createdAt worstCaseVbytes priceFeed =
      .ok quote) :
    ∃ input output providerFee minerFee routingFee minInput maxInput : Nat,
      (quote.inputAmount = toString input ∧ quote.outputAmount = toString output ∧
        quote.providerFee = toString providerFee ∧ quote.minerFeeBudget = toString minerFee ∧
        quote.lightningRoutingFeeBudget = toString routingFee ∧
        quote.maximumTotalFee = toString (providerFee + minerFee + routingFee) ∧
        quote.minInput = toString minInput ∧ quote.maxInput = toString maxInput) ∧
      input = output + providerFee + minerFee + routingFee ∧ input < u64Limit ∧
      worstCaseVbytes * feerate.satPerVb ≤ minerFee ∧
      minInput ≤ input ∧ input ≤ maxInput ∧
      outputFloor request.swapType ≤ output ∧
      (request.side = .output → ∀ amount, canonicalSat request.amount "requested amount" = .ok amount →
        amount ≤ output) ∧
      fundingFeerateFromPricedVbytes worstCaseVbytes minerFee = .ok feerate.satPerVb := by
  obtain ⟨derived, application, hderived, rfl, -⟩ := withPriceFeed_ok h
  obtain ⟨amount, available, least, input, output, hd⟩ := deriveQuote_ok hderived
  have hnumbers := hd.numbers
  subst hnumbers
  refine ⟨input, output, _, _, _, _, _, ⟨rfl, rfl, rfl, rfl, rfl, rfl, rfl, rfl⟩, hd.balance, ?_, le_rfl, hd.low,
    hd.high, hd.floor, ?_, fundingFeerate_priced hd.weight hd.feerateRange⟩
  · have havailable := canonicalSat_lt hd.availableText
    have hhigh := hd.high
    omega
  · intro hside amount' hamount'
    rw [hd.amountText] at hamount'
    cases hamount'
    exact hd.amount_le_output hside

/-- A policy with a spread and a routing budget, for the quotes below. -/
def samplePolicy : PricingConfig := ⟨50, none, 10000, 1000000, 300, .hard, 2000⟩

/-- An Output-side request of a submarine swap. -/
def outputRequest : QuoteRequest := ⟨.submarine, .output, "100000"⟩

theorem quote_accounting_submarine :
    ∃ quote, deriveQuoteWithPriceFeedAndWorstCaseVbytes samplePolicy (.fallback 2) ⟨"btc", "5000000"⟩ outputRequest
        1785859200 155 none = .ok quote ∧
      ∃ input output providerFee minerFee routingFee : Nat, quote.inputAmount = toString input ∧
        quote.outputAmount = toString output ∧ quote.providerFee = toString providerFee ∧
        quote.minerFeeBudget = toString minerFee ∧ quote.lightningRoutingFeeBudget = toString routingFee ∧
        input = output + providerFee + minerFee + routingFee := by
  obtain ⟨quote, hquote⟩ : ∃ quote, deriveQuoteWithPriceFeedAndWorstCaseVbytes samplePolicy (.fallback 2)
      ⟨"btc", "5000000"⟩ outputRequest 1785859200 155 none = .ok quote := ⟨_, rfl⟩
  obtain ⟨input, output, providerFee, minerFee, routingFee, _, _, ⟨hin, hout, hfee, hminer, hrouting, _⟩, hbalance, _⟩ :=
    quote_accounting samplePolicy (.fallback 2) ⟨"btc", "5000000"⟩ outputRequest 1785859200 155 none quote hquote
  exact ⟨quote, hquote, input, output, providerFee, minerFee, routingFee, hin, hout, hfee, hminer, hrouting, hbalance⟩

/-! ## What a price feed may change -/

/-- With a feed that is valid now only the spread, the provider fee, the output amount, the total fee and the valuation
    metadata may differ from the static quote; otherwise nothing may. -/
def FrameKept (priceFeed : Option PriceFeedPacket) (createdAt : Nat) (static fed : DerivedQuote) : Prop :=
  if (readPriceFeed priceFeed createdAt).1.isSome then
    { fed with
      feeBps := static.feeBps
      providerFee := static.providerFee
      outputAmount := static.outputAmount
      maximumTotalFee := static.maximumTotalFee
      priceFeedApplication := static.priceFeedApplication } = static
  else fed = static

/-- The static and the effective spread need the same smallest inputs: for the settlement floor, unless the configured
    minimum is above both, and for the amount that an Output-side request asks for. -/
def SpreadsAgree (config : PricingConfig) (request : QuoteRequest) (minerFeeBudget amount effective : Nat) : Prop :=
  (∃ x y,
    FirstCovering config.spreadBps (routingPpm config request.swapType)
      (minerFeeBudget + outputFloor request.swapType) x ∧
    FirstCovering effective (routingPpm config request.swapType) (minerFeeBudget + outputFloor request.swapType) y ∧
    (x = y ∨ (x ≤ config.minSwapSat ∧ y ≤ config.minSwapSat))) ∧
  (request.side = .output → ∃ x,
    FirstCovering config.spreadBps (routingPpm config request.swapType) (minerFeeBudget + amount) x ∧
    FirstCovering effective (routingPpm config request.swapType) (minerFeeBudget + amount) x)

section
variable {config : PricingConfig} {feerate : FeerateObservation} {capacity : CapacityBounds} {request : QuoteRequest}
  {createdAt worstCaseVbytes amount available : Nat} {static derived : DerivedQuote}

theorem max_eq_max_iff {low x y : Nat} : max low x = max low y ↔ x = y ∨ (x ≤ low ∧ y ≤ low) := by
  omega

/-- The numbers of two derivations that differ in their spread agree outside the spread's own numbers exactly when
    both searches end at the same places. -/
theorem frame_numbers {effective least least' input input' output output' : Nat}
    (hstatic : Derivation config feerate capacity request createdAt worstCaseVbytes amount available least input output
      static)
    (hfed : Derivation { config with spreadBps := effective } feerate capacity request createdAt worstCaseVbytes amount
      available least' input' output' derived) :
    { derived with
      feeBps := static.feeBps
      providerFee := static.providerFee
      outputAmount := static.outputAmount
      maximumTotalFee := static.maximumTotalFee
      priceFeedApplication := static.priceFeedApplication
      priceFeedFallback := none } = static ↔
      SpreadsAgree config request (worstCaseVbytes * feerate.satPerVb) amount effective := by
  have hsame : { derived with
      feeBps := static.feeBps
      providerFee := static.providerFee
      outputAmount := static.outputAmount
      maximumTotalFee := static.maximumTotalFee
      priceFeedApplication := static.priceFeedApplication
      priceFeedFallback := none } = static ↔
      input = input' ∧ max config.minSwapSat least = max config.minSwapSat least' := by
    rw [hstatic.numbers, hfed.numbers]
    constructor
    · intro heq
      have hinput := congrArg DerivedQuote.inputAmount heq
      have hmin := congrArg DerivedQuote.minInput heq
      exact ⟨(toString_inj hinput).symm, (toString_inj hmin).symm⟩
    · rintro ⟨rfl, hmin⟩
      have hlimit : (max config.minSwapSat least' : Nat) = max config.minSwapSat least := hmin.symm
      have hppm : routingPpm { config with spreadBps := effective } request.swapType =
          routingPpm config request.swapType := by
        cases request.swapType <;> rfl
      simp only [quoteOf, hlimit, hppm]
  rw [hsame, max_eq_max_iff]
  have hleast := hstatic.least_first
  have hleast' := hfed.least_first
  have hlow : (∃ x y,
      FirstCovering config.spreadBps (routingPpm config request.swapType)
        (worstCaseVbytes * feerate.satPerVb + outputFloor request.swapType) x ∧
      FirstCovering effective (routingPpm config request.swapType)
        (worstCaseVbytes * feerate.satPerVb + outputFloor request.swapType) y ∧
      (x = y ∨ (x ≤ config.minSwapSat ∧ y ≤ config.minSwapSat))) ↔
      (least = least' ∨ (least ≤ config.minSwapSat ∧ least' ≤ config.minSwapSat)) := by
    constructor
    · rintro ⟨x, y, hx, hy, hxy⟩
      rw [hleast.unique hx, hleast'.unique hy]
      exact hxy
    · intro h
      exact ⟨least, least', hleast, hleast', h⟩
  unfold SpreadsAgree
  rw [hlow, and_comm]
  refine and_congr_right fun _ => ?_
  cases hside : request.side with
  | input =>
    -- both derivations quote the amount of the request
    have hin := hstatic.quoted
    have hin' := hfed.quoted
    rw [quotedInput, hside] at hin hin'
    cases hin
    cases hin'
    simp
  | output =>
    have hin := hstatic.input_first hside
    have hin' := hfed.input_first hside
    constructor
    · rintro rfl _
      exact ⟨input, hin, hin'⟩
    · intro h
      obtain ⟨x, hx, hx'⟩ := h rfl
      rw [hin.unique hx, hin'.unique hx']

end

/-- **The frame of the price feed.** When the static and the fed derivation both succeed, the fed quote stays within the
    frame exactly when there is no packet, or the packet is valid now and its spread needs the same smallest inputs as
    the static one. A packet that is not valid changes nothing but the recorded reason. -/
theorem price_feed_frame_iff (config : PricingConfig) (feerate : FeerateObservation) (capacity : CapacityBounds)
    (request : QuoteRequest) (createdAt worstCaseVbytes amount : Nat) (priceFeed : Option PriceFeedPacket)
    (static fed : DerivedQuote) (hamount : canonicalSat request.amount "requested amount" = .ok amount)
    (hstatic : deriveQuoteWithWorstCaseVbytes config feerate capacity request createdAt worstCaseVbytes = .ok static)
    (hfed : deriveQuoteWithPriceFeedAndWorstCaseVbytes config feerate capacity request createdAt worstCaseVbytes
      priceFeed = .ok fed) :
    (FrameKept priceFeed createdAt static fed ↔
      priceFeed = none ∨ ∃ packet feed, priceFeed = some packet ∧ packet.validateAt createdAt = .ok feed ∧
        SpreadsAgree config request (worstCaseVbytes * feerate.satPerVb) amount
          (feed.effectiveSpreadBps config.spreadBps)) ∧
    ∀ packet reason, priceFeed = some packet → packet.validateAt createdAt = .error reason →
      fed = { static with priceFeedFallback := some ⟨reason⟩ } := by
  obtain ⟨derived, application, hderived, rfl, happlication⟩ := withPriceFeed_ok hfed
  obtain ⟨amount₀, available, least, input, output, hd⟩ := deriveQuote_ok hstatic
  obtain rfl : amount₀ = amount := Except.ok.inj (hd.amountText.symm.trans hamount)
  have hbare : static.priceFeedApplication = none ∧ static.priceFeedFallback = none := by
    rw [hd.numbers]
    exact ⟨rfl, rfl⟩
  -- without a feed the derivation is the static one
  have hunfed : (readPriceFeed priceFeed createdAt).1 = none →
      { derived with
        priceFeedApplication := application
        priceFeedFallback := (readPriceFeed priceFeed createdAt).2 } =
      { static with priceFeedFallback := (readPriceFeed priceFeed createdAt).2 } := by
    intro hnone
    rw [hnone] at hderived
    obtain rfl : derived = static := Except.ok.inj (hderived.symm.trans hstatic)
    rw [happlication hnone]
  cases priceFeed with
  | none =>
    refine ⟨iff_of_true ?_ (.inl rfl), fun packet reason h => by cases h⟩
    show _ = static
    refine (hunfed rfl).trans ?_
    show { static with priceFeedFallback := none } = static
    rw [← hbare.2]
  | some packet =>
    cases hvalid : packet.validateAt createdAt with
    | error reason =>
      have hread : readPriceFeed (some packet) createdAt = (none, some ⟨reason⟩) := by
        simp only [readPriceFeed, hvalid]
      rw [hread] at hunfed
      have hfed' := hunfed rfl
      rw [hread]
      refine ⟨iff_of_false ?_ ?_, ?_⟩
      · rw [FrameKept, hread]
        show ¬ (_ = static)
        intro heq
        have hfallback := congrArg DerivedQuote.priceFeedFallback heq
        rw [hbare.2] at hfallback
        cases hfallback
      · rintro (h | ⟨packet', feed, h, hok, _⟩)
        · cases h
        · cases h
          rw [hvalid] at hok
          cases hok
      · intro packet' reason' h herror
        cases h
        rw [hvalid] at herror
        cases herror
        exact hfed'
    | ok feed =>
      have hread : readPriceFeed (some packet) createdAt = (some feed, none) := by
        simp only [readPriceFeed, hvalid]
      rw [hread] at hderived ⊢
      obtain ⟨amount', available', least', input', output', hd'⟩ := deriveQuote_ok hderived
      obtain rfl : amount' = amount₀ := Except.ok.inj (hd'.amountText.symm.trans hamount)
      obtain rfl : available' = available := Except.ok.inj (hd'.availableText.symm.trans hd.availableText)
      refine ⟨?_, ?_⟩
      · rw [FrameKept, hread]
        refine (frame_numbers hd hd').trans ⟨fun h => .inr ⟨packet, feed, rfl, hvalid, h⟩, ?_⟩
        rintro (h | ⟨packet', feed', h, hok, hagree⟩)
        · cases h
        · cases h
          rw [hvalid] at hok
          cases hok
          exact hagree
      · intro packet' reason' h herror
        cases h
        rw [hvalid] at herror
        cases herror

/-- A packet whose volatility doubles the spread. -/
def doublingPacket : PriceFeedPacket :=
  ⟨priceFeedSchema, ⟨"lnmarkets", "signet", "btc_usd"⟩, "6471550", "10000", 86400, 1785859200, 30⟩

/-- The quotes of the sample policy without and with the packet. -/
def sampleQuotes (config : PricingConfig) (feerate : Nat) (request : QuoteRequest) (createdAt : Nat) :
    Checked (DerivedQuote × DerivedQuote) := do
  let static ← deriveQuoteWithWorstCaseVbytes config (.fallback feerate) ⟨"btc", "5000000"⟩ request createdAt 155
  let fed ← deriveQuoteWithPriceFeedAndWorstCaseVbytes config (.fallback feerate) ⟨"btc", "5000000"⟩ request createdAt
    155 (some doublingPacket)
  return (static, fed)

/-- For an Input-side request far above the fee-viable minimum the frame is kept. -/
theorem price_feed_frame_input :
    ∃ static fed feed, sampleQuotes samplePolicy 2 ⟨.submarine, .input, "100000"⟩ 1785859210 = .ok (static, fed) ∧
      doublingPacket.validateAt 1785859210 = .ok feed ∧ FrameKept (some doublingPacket) 1785859210 static fed ∧
      SpreadsAgree samplePolicy ⟨.submarine, .input, "100000"⟩ 310 100000
        (feed.effectiveSpreadBps samplePolicy.spreadBps) := by
  have hkept : (sampleQuotes samplePolicy 2 ⟨.submarine, .input, "100000"⟩ 1785859210).map (fun quotes =>
      decide ({ quotes.2 with
        feeBps := quotes.1.feeBps
        providerFee := quotes.1.providerFee
        outputAmount := quotes.1.outputAmount
        maximumTotalFee := quotes.1.maximumTotalFee
        priceFeedApplication := quotes.1.priceFeedApplication } = quotes.1)) = .ok true := by
    decide +kernel
  cases hquotes : sampleQuotes samplePolicy 2 ⟨.submarine, .input, "100000"⟩ 1785859210 with
  | error e =>
    rw [hquotes] at hkept
    cases hkept
  | ok quotes =>
    obtain ⟨static, fed⟩ := quotes
    rw [hquotes] at hkept
    have hframe : FrameKept (some doublingPacket) 1785859210 static fed := by
      rw [FrameKept]
      exact of_decide_eq_true (Except.ok.inj hkept)
    simp only [sampleQuotes, bind_eq_ok] at hquotes
    obtain ⟨_, hstatic, _, hfed, rfl, rfl⟩ := hquotes
    have hiff := price_feed_frame_iff samplePolicy (.fallback 2) ⟨"btc", "5000000"⟩ ⟨.submarine, .input, "100000"⟩
      1785859210 155 100000 (some doublingPacket) _ _ (by decide +kernel) hstatic hfed
    rcases hiff.1.mp hframe with h | ⟨packet, feed, hpacket, hvalid, hagree⟩
    · cases h
    · cases hpacket
      exact ⟨_, _, feed, rfl, hvalid, hframe, hagree⟩

/-- For an Output-side request the same packet moves the input amount and the routing budget; with a small configured
    minimum it moves the lower limit of an Input-side quote; and a stale packet leaves its reason in the quote. -/
theorem price_feed_moves_quote :
    (sampleQuotes samplePolicy 2 outputRequest 1785859210).map (fun quotes =>
      (quotes.1.inputAmount, quotes.2.inputAmount, quotes.1.lightningRoutingFeeBudget,
        quotes.2.lightningRoutingFeeBudget)) = .ok ("101017", "101528", "202", "203") ∧
    (sampleQuotes { samplePolicy with minSwapSat := 1 } 2000 ⟨.submarine, .input, "500000"⟩ 1785859210).map (fun quotes =>
      (quotes.1.minInput, quotes.2.minInput)) = .ok ("312185", "313765") ∧
    (sampleQuotes samplePolicy 2 outputRequest 1785869210).map (fun quotes =>
      (quotes.1.priceFeedFallback, quotes.2.priceFeedFallback)) = .ok (none, some ⟨"packet is stale"⟩) := by
  decide +kernel

end Immortal.Provider
