import Immortal.Provider.Quotes

/-!
# `Immortal.Provider.InverseSearch` — from a wanted output back to an input

`min_viable_input` and `input_for_output` invert the fee schedule: from the closed-form bound, which covers, they walk
down while the predecessor covers. The walk is short: rounding two fees down is worth less than two satoshis, and no
input more than three below the bound covers (`exactBound_le_of_covers`).

Where it stops is not always the least covering input. The promised output drops by one satoshi from one input to the
next where both proportional fees step up at once. An input whose output is just the wanted one, right before such a
drop, covers, and the walk stops above the drop (`least_iff_no_drop`). Without a routing fee there is no drop.
-/

namespace Immortal.Provider

open Txn Immortal.Client

/-! ## Covering inputs -/

/-- Both proportional fees step up from this input to the next. -/
def FeesStepTogether (spread ppm input : Nat) : Prop :=
  (input + 1) * spread / 10000 = input * spread / 10000 + 1 ∧ (input + 1) * ppm / 1000000 = input * ppm / 1000000 + 1

section
variable {spread ppm needed input : Nat}

/-- **The exact bound is close**: an input that covers is at most three below it. -/
theorem exactBound_le_of_covers (hspread : spread ≤ maxSpreadBps) (hppm : ppm ≤ maxLightningRoutingFeePpm)
    (h : Covers spread ppm needed input) : exactBound spread ppm needed ≤ input + 3 := by
  simp only [maxSpreadBps, maxLightningRoutingFeePpm] at hspread hppm
  unfold Covers at h
  obtain ⟨d, hd⟩ : ∃ d, d = 1000000 - (spread * 100 + ppm) := ⟨_, rfl⟩
  have hbound : exactBound spread ppm needed * d ≤ needed * 1000000 + d - 1 := by
    rw [exactBound, ← hd]
    exact Nat.div_mul_le_self _ _
  have hexact : input * d + (input * spread * 100 + input * ppm) = input * 1000000 := by
    have hsum : d + (spread * 100 + ppm) = 1000000 := by omega
    rw [← hsum]
    ring
  by_contra hfar
  -- four inputs further the exact fees leave more than the two fractions can hide
  have hstep : (input + 4) * d ≤ exactBound spread ppm needed * d := Nat.mul_le_mul_right d (by omega)
  rw [Nat.add_mul] at hstep
  omega

/-- The next input stops covering exactly where the output is just enough and both fees step up. -/
theorem not_covers_succ_iff (hspread : spread ≤ maxSpreadBps) (hppm : ppm ≤ maxLightningRoutingFeePpm) :
    (Covers spread ppm needed input ∧ ¬ Covers spread ppm needed (input + 1)) ↔
      input = needed + input * spread / 10000 + input * ppm / 1000000 ∧ FeesStepTogether spread ppm input := by
  simp only [maxSpreadBps, maxLightningRoutingFeePpm] at hspread hppm
  unfold Covers FeesStepTogether
  rw [Nat.add_mul input 1 spread, Nat.add_mul input 1 ppm]
  omega

theorem exists_last_of_not {P : Nat → Prop} {low high : Nat} (hlow : P low) (hhigh : ¬ P high) (hle : low ≤ high) :
    ∃ last, last < high ∧ P last ∧ ¬ P (last + 1) := by
  induction high, hle using Nat.le_induction with
  | base => exact absurd hlow hhigh
  | succ high hle ih =>
    by_cases hP : P high
    · exact ⟨high, Nat.lt_succ_self high, hP, hhigh⟩
    · obtain ⟨last, hlt, hlast⟩ := ih hP
      exact ⟨last, Nat.lt_succ_of_lt hlt, hlast⟩

/-- **The first covering input below the bound is the least one** exactly when the output never drops under the wanted
    one. -/
theorem least_iff_no_drop (hspread : spread ≤ maxSpreadBps) (hppm : ppm ≤ maxLightningRoutingFeePpm)
    (h : ∀ y, input ≤ y → y ≤ exactBound spread ppm needed → Covers spread ppm needed y)
    (hfirst : input = 0 ∨ ¬ Covers spread ppm needed (input - 1)) :
    (∀ y, Covers spread ppm needed y → input ≤ y) ↔
      ∀ y, y = needed + y * spread / 10000 + y * ppm / 1000000 → ¬ FeesStepTogether spread ppm y := by
  have hrate : spread * 100 + ppm < 1000000 := by
    simp only [maxSpreadBps, maxLightningRoutingFeePpm] at hspread hppm
    omega
  constructor
  · intro hleast y hjust hstep
    obtain ⟨hcovers, hdrop⟩ := (not_covers_succ_iff hspread hppm).mpr ⟨hjust, hstep⟩
    apply hdrop
    rcases Nat.le_total (y + 1) (exactBound spread ppm needed) with hle | hge
    · exact h (y + 1) (Nat.le_succ_of_le (hleast y hcovers)) hle
    · exact covers_of_exactBound_le hrate hge
  · intro hdrops y hcovers
    by_contra hlt
    rcases hfirst with hzero | hpred
    · omega
    · obtain ⟨last, -, hlast⟩ := exists_last_of_not hcovers hpred (by omega)
      obtain ⟨hjust, hstep⟩ := (not_covers_succ_iff hspread hppm).mp hlast
      exact hdrops last hjust hstep

end

/-! ## The walk -/

/-- The walk ends when it has enough steps to reach inputs that do not cover, and more steps change nothing. -/
theorem searchDown_exists {covers : Nat → Checked Bool} {P : Nat → Prop} [DecidablePred P] {code stuck : String}
    {top low left candidate : Nat} (hcovers : ∀ y ≤ top, covers y = .ok (decide (P y))) (hlow : ∀ y < low, ¬ P y)
    (hle : candidate ≤ top) (hleft : candidate ≤ low + left) :
    ∃ x, ∀ steps, left ≤ steps → searchDown covers code stuck steps candidate = .ok x := by
  induction left generalizing candidate with
  | zero =>
    refine ⟨candidate, fun steps _ => ?_⟩
    rw [searchDown_eq hcovers hle, if_pos]
    by_cases hone : candidate ≤ 1
    · exact .inl hone
    · exact .inr (hlow _ (by omega))
  | succ left ih =>
    by_cases hstop : candidate ≤ 1 ∨ ¬ P (candidate - 1)
    · refine ⟨candidate, fun steps _ => ?_⟩
      rw [searchDown_eq hcovers hle, if_pos hstop]
    · obtain ⟨x, hx⟩ := ih (Nat.le_trans (Nat.sub_le candidate 1) hle) (by omega)
      refine ⟨x, fun steps hsteps => ?_⟩
      obtain ⟨rest, rfl⟩ : ∃ rest, steps = rest + 1 := ⟨steps - 1, by omega⟩
      rw [searchDown_eq hcovers hle, if_neg hstop]
      exact hx rest (by omega)

section
variable {config : PricingConfig} {swapType : SwapType} {minerFeeBudget desired : Nat} {code tooLarge stuck : String}

/-- **The search ends within three steps**, at the first covering input below the bound. -/
theorem smallestInputWithin_exists (hrates : Rates config) (code tooLarge stuck : String)
    (hlimit : exactBound config.spreadBps (routingPpm config swapType) (minerFeeBudget + desired) < u64Limit) :
    ∃ x, (∀ y, x ≤ y → y ≤ exactBound config.spreadBps (routingPpm config swapType) (minerFeeBudget + desired) →
        Covers config.spreadBps (routingPpm config swapType) (minerFeeBudget + desired) y) ∧
      (x = 0 ∨ ¬ Covers config.spreadBps (routingPpm config swapType) (minerFeeBudget + desired) (x - 1)) ∧
      x < u64Limit ∧
      ∀ steps, 3 ≤ steps →
        smallestInputWithin steps config swapType minerFeeBudget desired code tooLarge stuck = .ok x := by
  generalize hbound : exactBound config.spreadBps (routingPpm config swapType) (minerFeeBudget + desired) = bound
    at hlimit ⊢
  have htest : ∀ y ≤ bound, coversOutput config swapType minerFeeBudget desired y =
      .ok (decide (Covers config.spreadBps (routingPpm config swapType) (minerFeeBudget + desired) y)) :=
    fun y hy => coversOutput_eq hrates (Nat.lt_of_le_of_lt hy hlimit)
  have hlow : ∀ y < bound - 3,
      ¬ Covers config.spreadBps (routingPpm config swapType) (minerFeeBudget + desired) y := by
    intro y hy hcovers
    have hclose := exactBound_le_of_covers hrates.spread hrates.routingPpm_le hcovers
    omega
  obtain ⟨x, hx⟩ := searchDown_exists htest hlow le_rfl (by omega : bound ≤ bound - 3 + 3)
  obtain ⟨-, hle, hall, hleast⟩ := searchDown_ok htest le_rfl
    (fun y hy _ => covers_of_exactBound_le (hrates.variable_lt swapType) (hbound.trans_le hy)) (hx 3 le_rfl)
  refine ⟨x, hall, ?_, Nat.lt_of_le_of_lt hle hlimit, fun steps hsteps => ?_⟩
  · rcases hleast with hone | hnot
    · -- zero covers only where nothing is needed, and then the bound is zero too
      rcases Nat.le_one_iff_eq_zero_or_eq_one.mp hone with hzero | rfl
      · exact .inl hzero
      · refine .inr fun hcovers => ?_
        have hnone : minerFeeBudget + desired = 0 := by simpa [Covers] using hcovers
        have hrate := hrates.variable_lt swapType
        rw [exactBound, Nat.div_eq_of_lt (by omega)] at hbound
        omega
    · exact .inr hnot
  · rw [smallestInputWithin_eq hrates (hbound ▸ hlimit), hbound]
    exact hx steps hsteps

theorem exactBound_lt {spread ppm needed : Nat} (hspread : spread ≤ maxSpreadBps)
    (hppm : ppm ≤ maxLightningRoutingFeePpm) (hneeded : needed ≤ maxAmountSat + maxAmountSat) :
    exactBound spread ppm needed < u64Limit := by
  simp only [maxSpreadBps, maxLightningRoutingFeePpm, maxAmountSat] at hspread hppm hneeded
  apply Nat.div_lt_of_lt_mul
  rw [u64Limit]
  omega

/-- The inputs of 64 bits that leave at least the desired output. -/
def coveringInputs (config : PricingConfig) (swapType : SwapType) (minerFeeBudget desired : Nat) : Set Nat :=
  {input | input < u64Limit ∧ coversOutput config swapType minerFeeBudget desired input = .ok true}

/-- Nowhere does the promised output drop from just the desired one. -/
def NeverDrops (config : PricingConfig) (swapType : SwapType) (minerFeeBudget desired : Nat) : Prop :=
  ∀ input, input = minerFeeBudget + desired + input * config.spreadBps / 10000 +
      input * routingPpm config swapType / 1000000 →
    ¬ FeesStepTogether config.spreadBps (routingPpm config swapType) input

theorem mem_coveringInputs (hrates : Rates config) {input : Nat} :
    input ∈ coveringInputs config swapType minerFeeBudget desired ↔
      input < u64Limit ∧ Covers config.spreadBps (routingPpm config swapType) (minerFeeBudget + desired) input := by
  refine and_congr_right fun hlt => ?_
  rw [coversOutput_eq hrates hlt, Except.ok.injEq, decide_eq_true_eq]

/-- **Where the search ends is the least covering input** exactly when the promised output never drops from the desired
    one. -/
theorem smallestInput_isLeast_iff (hrates : Rates config)
    (hsome : ∃ input ≤ maxAmountSat, coversOutput config swapType minerFeeBudget desired input = .ok true) :
    (∃ x, smallestInput config swapType minerFeeBudget desired code tooLarge stuck = .ok x ∧
        IsLeast (coveringInputs config swapType minerFeeBudget desired) x) ↔
      NeverDrops config swapType minerFeeBudget desired := by
  obtain ⟨input, hmax, hyields⟩ := hsome
  obtain ⟨hinput, hcovers⟩ := (mem_coveringInputs hrates).mp ⟨Nat.lt_of_le_of_lt hmax (by decide), hyields⟩
  have hclose := exactBound_le_of_covers hrates.spread hrates.routingPpm_le hcovers
  have hlimit : exactBound config.spreadBps (routingPpm config swapType) (minerFeeBudget + desired) < u64Limit := by
    simp only [maxAmountSat] at hmax
    rw [u64Limit]
    omega
  obtain ⟨x, hrange, hfirst, hx, hfound⟩ := smallestInputWithin_exists hrates code tooLarge stuck hlimit
  have hbelow := least_iff_no_drop hrates.spread hrates.routingPpm_le hrange hfirst
  rw [smallestInput_eq hrates, hfound minViableSearchSteps (by decide)]
  constructor
  · rintro ⟨_, hsame, -, hleast⟩
    cases hsame
    apply hbelow.mp
    intro y hy
    by_contra hlt
    exact hlt (hleast ((mem_coveringInputs hrates).mpr ⟨Nat.lt_of_not_le hlt |>.trans hx, hy⟩))
  · intro hdrops
    have hleast := hbelow.mpr hdrops
    refine ⟨x, rfl, (mem_coveringInputs hrates).mpr ⟨hx, ?_⟩, ?_⟩
    · apply hrange x le_rfl
      by_contra hlt
      -- the bound covers as well, so the least input is not above it
      exact hlt (hleast _ (covers_of_exactBound_le (hrates.variable_lt swapType) le_rfl))
    · intro y hy
      exact hleast y ((mem_coveringInputs hrates).mp hy).2

/-- A target within the supply is found in three steps. A larger one may be refused before the loops. -/
theorem smallestInput_converges (hrates : Rates config) (hdesired : desired ≤ maxAmountSat) :
    (∃ x, smallestInput config swapType minerFeeBudget desired code tooLarge stuck = .ok x ∧
        smallestInputWithin 3 config swapType minerFeeBudget desired code tooLarge stuck = .ok x) ∨
      (maxAmountSat < minerFeeBudget ∧
        smallestInput config swapType minerFeeBudget desired code tooLarge stuck = .error ⟨code, tooLarge⟩) := by
  by_cases hlimit :
      exactBound config.spreadBps (routingPpm config swapType) (minerFeeBudget + desired) < u64Limit
  · obtain ⟨x, -, -, -, hfound⟩ := smallestInputWithin_exists hrates code tooLarge stuck hlimit
    exact .inl ⟨x, (smallestInput_eq hrates).trans (hfound _ (by decide)), hfound 3 le_rfl⟩
  · refine .inr ⟨?_, ?_⟩
    · by_contra hfee
      exact hlimit (exactBound_lt hrates.spread hrates.routingPpm_le (by omega))
    · rw [smallestInput_eq hrates, smallestInputWithin, toU64, if_neg hlimit]
      rfl

end

/-! ## The two inverse functions -/

/-- **Least covering input.** For a validated policy, wherever some input within the supply reaches the target, the
search returns the least input that reaches it exactly when the promised output never drops from just the target. -/
theorem least_covering_input_iff (config : PricingConfig) (hvalid : config.validate = .ok ()) (swapType : SwapType)
    (satPerVb vbytes desired : Nat) :
    ((∃ input ≤ maxAmountSat, coversOutput config swapType (vbytes * satPerVb) desired input = .ok true) →
      ((∃ x, inputForOutput config swapType (vbytes * satPerVb) desired = .ok x ∧
          IsLeast (coveringInputs config swapType (vbytes * satPerVb) desired) x) ↔
        NeverDrops config swapType (vbytes * satPerVb) desired)) ∧
    ((∃ input ≤ maxAmountSat,
        coversOutput config swapType (vbytes * satPerVb) (outputFloor swapType) input = .ok true) →
      ((∃ x, minViableInput config swapType (vbytes * satPerVb) = .ok x ∧
          IsLeast (coveringInputs config swapType (vbytes * satPerVb) (outputFloor swapType)) x) ↔
        NeverDrops config swapType (vbytes * satPerVb) (outputFloor swapType))) :=
  ⟨smallestInput_isLeast_iff (rates_of_validate hvalid), smallestInput_isLeast_iff (rates_of_validate hvalid)⟩

/-- One percent of spread and one percent of routing fee: both fees step up at the multiples of a hundred. -/
def steppedPolicy : PricingConfig := ⟨100, none, 1, 1000000, 300, .hard, 10000⟩

theorem least_covering_input_stepped :
    ∃ x, minViableInput steppedPolicy .reverse (100 * 1) = .ok x ∧
      IsLeast (coveringInputs steppedPolicy .reverse (100 * 1) (outputFloor .reverse)) x := by
  refine ((least_covering_input_iff steppedPolicy rfl .reverse 1 100 0).2 ⟨1000, by decide, rfl⟩).mpr ?_
  rintro input - ⟨-, hrouting⟩
  -- a reverse swap pays no routing fee, and a fee of zero does not step
  simp [routingPpm] at hrouting

/-- For an output of 97 the search asks for 201, and 199 already leaves 97: from 199 to 200 both fees step up. -/
theorem input_for_output_not_least :
    steppedPolicy.validate = .ok () ∧ inputForOutput steppedPolicy .submarine (100 * 1) 97 = .ok 201 ∧
      coversOutput steppedPolicy .submarine (100 * 1) 97 199 = .ok true := by
  refine ⟨rfl, rfl, rfl⟩

/-- **The search converges.** For a validated policy, every feerate and size and every target within the supply, both
functions return a result within three of their 64 steps. Only a miner fee above the whole supply can be refused, by the
conversion that precedes the loops. -/
theorem inverse_search_converges (config : PricingConfig) (hvalid : config.validate = .ok ()) (swapType : SwapType)
    (satPerVb vbytes desired : Nat) (hdesired : desired ≤ maxAmountSat) :
    ((∃ x, inputForOutput config swapType (vbytes * satPerVb) desired = .ok x ∧
        smallestInputWithin 3 config swapType (vbytes * satPerVb) desired "swp_invalid_amount"
          "requested output amount exceeds the v1 amount range"
          "input search for the requested output did not converge" = .ok x) ∨
      (maxAmountSat < vbytes * satPerVb ∧ inputForOutput config swapType (vbytes * satPerVb) desired =
        .error ⟨"swp_invalid_amount", "requested output amount exceeds the v1 amount range"⟩)) ∧
    ((∃ x, minViableInput config swapType (vbytes * satPerVb) = .ok x ∧
        smallestInputWithin 3 config swapType (vbytes * satPerVb) (outputFloor swapType) "swp_invalid_fee"
          "minimum viable amount exceeds the v1 amount range" "minimum viable amount search did not converge" =
            .ok x) ∨
      (maxAmountSat < vbytes * satPerVb ∧ minViableInput config swapType (vbytes * satPerVb) =
        .error ⟨"swp_invalid_fee", "minimum viable amount exceeds the v1 amount range"⟩)) := by
  have hrates := rates_of_validate hvalid
  have hfloor : outputFloor swapType ≤ maxAmountSat := by cases swapType <;> decide
  exact ⟨smallestInput_converges hrates hdesired, smallestInput_converges hrates hfloor⟩

theorem inverse_search_converges_stepped :
    ∃ x, inputForOutput steppedPolicy .submarine (100 * 1) 97 = .ok x := by
  obtain ⟨x, hx, -⟩ | ⟨hfee, -⟩ := (inverse_search_converges steppedPolicy rfl .submarine 1 100 97 (by decide)).1
  · exact ⟨x, hx⟩
  · exact absurd hfee (by decide)

end Immortal.Provider
