import SubnetRental.Foundation.Rounding
import SubnetRental.Rates.Estimate
import SubnetRental.Rates.Price

/-!
# A price and its estimate

`calculate_subnet_price` quotes the ICP that an initial rental period costs, and
`subnet_top_up_estimate` tells what ICP buy after two fees. The estimate of a price returns the days
of the period and misses at most half a day of its cycles (`estimate_of_price`): the price is a
`quote`, the estimated cycles are what is `bought` with the rest of it, and the days are the
`nearest` quotient.
-/

set_option autoImplicit false
set_option relaxedAutoImplicit false

namespace SubnetRental.Rates

open Canister Lifecycle Foundation.GuardedCalls Foundation.MachineInteger Foundation.Rounding
open Foundation.TransitionSystem Std

/-! ### The price is a quote -/

section Quote

variable {dailyCostCycles initialRentalPeriodDays rate decimals : ℕ} {price : Tokens}

theorem exactPrice_eq_quote (hfour : 4 ≤ decimals) :
    exactPrice dailyCostCycles initialRentalPeriodDays rate decimals =
      quote (dailyCostCycles * initialRentalPeriodDays) rate (10 ^ (decimals - 4)) := by
  unfold exactPrice quote
  rw [← Nat.pow_sub_mul_pow 10 hfour, ← Nat.mul_assoc, Nat.mul_div_mul_right _ _ (by decide)]

/-- What a successful calculation with at most 38 decimals has checked. -/
theorem checked_of_ok (hle : decimals ≤ 38)
    (hok : calculateSubnetPrice dailyCostCycles initialRentalPeriodDays rate decimals = .ok price) :
    0 < rate ∧ dailyCostCycles * initialRentalPeriodDays * 10 ^ decimals < 2 ^ 128 := by
  have hchecks : ¬ CheckFails dailyCostCycles initialRentalPeriodDays rate decimals := by
    intro hfails
    obtain ⟨data, hdata⟩ := (calculateSubnetPrice_isError_iff _ _ _ _).mpr hfails
    exact absurd (hok.symm.trans hdata) (by simp)
  unfold CheckFails at hchecks
  rw [Nat.mod_eq_of_lt (ten_pow_lt hle)] at hchecks
  omega

end Quote

/-! ### The estimate buys it back -/

section Estimated

variable {dailyCostCycles days rate decimals : ℕ} {price : Tokens}

/-- The estimate of an amount whose products and days fit. -/
theorem estimated_eq (hfour : 4 ≤ decimals) (hle : decimals ≤ 38)
    (hproduct : (afterFees price).e8s * rate < 2 ^ 128)
    (hroom : bought (afterFees price).e8s rate (10 ^ (decimals - 4)) + dailyCostCycles / 2 <
      2 ^ 128)
    (hdays : nearest (bought (afterFees price).e8s rate (10 ^ (decimals - 4))) dailyCostCycles <
      2 ^ 64) :
    estimated dailyCostCycles price rate decimals =
      { cyclesAdded := bought (afterFees price).e8s rate (10 ^ (decimals - 4))
        daysAdded :=
          nearest (bought (afterFees price).e8s rate (10 ^ (decimals - 4))) dailyCostCycles } := by
  unfold estimated
  rw [nearest_eq_add_half] at hdays ⊢
  unfold bought at hroom hdays ⊢
  rw [wrappingMul_of_lt hproduct, estimateDivisor_of_le hfour hle]
  dsimp only
  rw [wrappingAdd_of_lt hroom, truncate_of_lt hdays]

/-- When the two fees and one e8 more are worth at most half a day, a period costs at least as many
times that. -/
theorem fees_le_quote (hrate : 0 < rate)
    (hhalf : 20_001 * rate ≤ dailyCostCycles / 2 * 10 ^ (decimals - 4)) :
    20_001 * days ≤ quote (dailyCostCycles * days) rate (10 ^ (decimals - 4)) := by
  refine le_quote hrate ?_
  calc 20_001 * days * rate
      = 20_001 * rate * days := Nat.mul_right_comm _ _ _
    _ ≤ dailyCostCycles / 2 * 10 ^ (decimals - 4) * days := Nat.mul_le_mul_right days hhalf
    _ ≤ dailyCostCycles * 10 ^ (decimals - 4) * days :=
        Nat.mul_le_mul_right days (Nat.mul_le_mul_right _ (Nat.div_le_self _ _))
    _ = dailyCostCycles * days * 10 ^ (decimals - 4) := Nat.mul_right_comm _ _ _

/-- The estimate of a price, when the two fees and one e8 more are worth at most half a day. -/
theorem estimated_price (hfour : 4 ≤ decimals) (hle : decimals ≤ 38) (hperiod : 1 ≤ days)
    (hok : calculateSubnetPrice dailyCostCycles days rate decimals = .ok price)
    (hprice : exactPrice dailyCostCycles days rate decimals < 2 ^ 64)
    (hhalf : 20_001 * rate ≤ dailyCostCycles / 2 * 10 ^ (decimals - 4)) :
    2 * defaultFee.e8s ≤ price.e8s ∧ dailyCostCycles ≠ 0 ∧
      (estimated dailyCostCycles price rate decimals).daysAdded = days ∧
      dailyCostCycles * days - dailyCostCycles / 2 ≤
        (estimated dailyCostCycles price rate decimals).cyclesAdded ∧
      (estimated dailyCostCycles price rate decimals).cyclesAdded ≤ dailyCostCycles * days := by
  obtain ⟨hrate, hproduct⟩ := checked_of_ok hle hok
  have hunit : 0 < 10 ^ (decimals - 4) := Nat.pow_pos (by decide)
  have hquote : price.e8s = quote (dailyCostCycles * days) rate (10 ^ (decimals - 4)) := by
    rw [← exactPrice_eq_quote hfour]
    exact exact_of_fits _ _ _ _ hok hproduct hprice
  have hdaily : 0 < dailyCostCycles := by
    rcases Nat.eq_zero_or_pos dailyCostCycles with rfl | hpos
    · rw [Nat.zero_div, Nat.zero_mul] at hhalf
      omega
    · exact hpos
  have hfees : 20_001 * days ≤ price.e8s := hquote ▸ fees_le_quote hrate hhalf
  have hrest : (afterFees price).e8s =
      quote (dailyCostCycles * days) rate (10 ^ (decimals - 4)) - 20_000 := by
    rw [afterFees_e8s, hquote]
  have hcycles : bought (afterFees price).e8s rate (10 ^ (decimals - 4)) ≤
      dailyCostCycles * days := by
    rw [hrest]
    exact bought_quote_le _ _ _ _
  have hmissed : dailyCostCycles * days - dailyCostCycles / 2 ≤
      bought (afterFees price).e8s rate (10 ^ (decimals - 4)) := by
    rw [hrest]
    exact le_bought_quote hrate hunit hhalf
  have hdays := nearest_of_close hdaily hmissed hcycles
  -- nothing that the estimate computes exceeds the products that the price checked
  have hscale : 10 ^ (decimals - 4) ≤ 10 ^ decimals := Nat.pow_le_pow_right (by decide) (by omega)
  have hwithin : (afterFees price).e8s * rate < 2 ^ 128 :=
    calc (afterFees price).e8s * rate
        ≤ quote (dailyCostCycles * days) rate (10 ^ (decimals - 4)) * rate := by
          rw [hrest]
          exact Nat.mul_le_mul_right rate (Nat.sub_le _ _)
      _ ≤ dailyCostCycles * days * 10 ^ (decimals - 4) := quote_mul_le _ _ _
      _ ≤ dailyCostCycles * days * 10 ^ decimals := Nat.mul_le_mul_left _ hscale
      _ < 2 ^ 128 := hproduct
  have hroom : bought (afterFees price).e8s rate (10 ^ (decimals - 4)) + dailyCostCycles / 2 <
      2 ^ 128 := by
    have hten : 10 ^ 1 ≤ 10 ^ decimals := Nat.pow_le_pow_right (by decide) (by omega)
    have hmore : dailyCostCycles * days * 10 ^ 1 ≤ dailyCostCycles * days * 10 ^ decimals :=
      Nat.mul_le_mul_left _ hten
    have hless : dailyCostCycles ≤ dailyCostCycles * days := Nat.le_mul_of_pos_right _ hperiod
    omega
  have hsmall : nearest (bought (afterFees price).e8s rate (10 ^ (decimals - 4))) dailyCostCycles <
      2 ^ 64 := by
    have hlt : price.e8s < 2 ^ 64 := by
      rw [hquote, ← exactPrice_eq_quote hfour]
      exact hprice
    rw [hdays]
    omega
  rw [estimated_eq hfour hle hwithin hroom hsmall]
  refine ⟨?_, hdaily.ne', hdays, hmissed, hcycles⟩
  change 2 * 10_000 ≤ price.e8s
  omega

end Estimated

/-- The price of a condition at a rate, passed to the estimate for an agreement on that condition at
the same rate, gives back the days of the period, and its cycles up to half a day. -/
theorem estimate_of_price {w : World} {subnetId : Principal} {rentalAgreement : RentalAgreement}
    {conditions : RentalConditions} {rate decimals : ℕ} {price : Tokens}
    (hstored : w.canister.rentalAgreements[subnetId]? = some rentalAgreement)
    (hconditions : w.canister.rentalConditions rentalAgreement.rentalConditionId = some conditions)
    (hperiod : 1 ≤ conditions.initialRentalPeriodDays) (hfour : 4 ≤ decimals) (hle : decimals ≤ 38)
    (hok : calculateSubnetPrice conditions.dailyCostCycles conditions.initialRentalPeriodDays rate
      decimals = .ok price)
    (hprice : exactPrice conditions.dailyCostCycles conditions.initialRentalPeriodDays rate
      decimals < 2 ^ 64)
    (hhalf : 20_001 * rate ≤ conditions.dailyCostCycles / 2 * 10 ^ (decimals - 4))
    (havailable : RateAvailable rate decimals w.canister) :
    service.Ensures (samePrice rate decimals) (.subnetTopUpEstimate subnetId price) w
      fun _ result ↦ ∃ summary, result = .ok (.estimate (.ok summary)) ∧
        summary.daysAdded = conditions.initialRentalPeriodDays ∧
        conditions.dailyCostCycles * conditions.initialRentalPeriodDays -
            conditions.dailyCostCycles / 2 ≤ summary.cyclesAdded ∧
        summary.cyclesAdded ≤ conditions.dailyCostCycles * conditions.initialRentalPeriodDays := by
  obtain ⟨hfees, hdaily, hestimated⟩ := estimated_price hfour hle hperiod hok hprice hhalf
  have hfee : defaultFee ≤ price := (Nat.le_mul_of_pos_left _ (by decide)).trans hfees
  have hdivisor : estimateDivisor decimals ≠ 0 := by
    rw [estimateDivisor_of_le hfour hle]
    exact (Nat.pow_pos (by decide)).ne'
  refine (ensures_estimate hstored hfee hconditions hdaily havailable).mono ?_
  rintro _ result rfl
  refine ⟨_, ?_, hestimated⟩
  rw [estimateResult, if_neg (Nat.not_lt_of_le hfees), if_neg hdivisor]

theorem estimate_of_price_rented :
    ∃ price, calculateSubnetPrice (820 * trillion) 180 3_500_000_000 9 = .ok price ∧
      service.Ensures (samePrice 3_500_000_000 9)
        (.subnetTopUpEstimate aliceCreation.subnetId price)
        rentedConfiguration.state fun _ result ↦
          ∃ summary, result = .ok (.estimate (.ok summary)) ∧ summary.daysAdded = 180 ∧
            820 * trillion * 180 - 820 * trillion / 2 ≤ summary.cyclesAdded ∧
            summary.cyclesAdded ≤ 820 * trillion * 180 :=
  ⟨_, rfl, estimate_of_price (stored_of_isSome rentedConfiguration_isSome)
    rentedConfiguration_conditions (by decide) (by decide) (by decide) rfl (by decide +kernel)
    (by decide +kernel) (.inl (by decide +kernel))⟩

end SubnetRental.Rates
