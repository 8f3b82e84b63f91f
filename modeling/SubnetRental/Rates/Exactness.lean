import SubnetRental.Foundation.Rounding
import SubnetRental.Rates.Estimate

/-!
# When an estimate is exact

`subnet_top_up_estimate` multiplies, divides and casts without checks: the power of ten wraps from
39 decimals on, its quotient by 10_000 is zero below 4, and the days are cut to 64 bits.
`EstimateExact` is what it should return, and `estimate_exact_iff` says for which states and inputs
it does: the rate can be looked up, and the amount is below the fee, or it pays two fees and either
the decimals are from 4 to 38 and the days fit, or the amount is so small that the wrapped power
does not matter.
-/

set_option autoImplicit false
set_option relaxedAutoImplicit false

namespace SubnetRental.Rates

open Canister Lifecycle Foundation.GuardedCalls Foundation.MachineInteger Foundation.Rounding
open Foundation.TransitionSystem Std

/-! ### Exact estimates -/

/-- The cycles of an amount after two fees, over unbounded integers. -/
def exactCycles (icp : Tokens) (rate decimals : ℕ) : ℕ :=
  (icp.e8s - 2 * 10_000) * rate * 10 ^ 4 / 10 ^ decimals

/-- The cycles, and the days that they pay at a daily cost, rounded to the nearest. -/
def exactSummary (dailyCostCycles : ℕ) (icp : Tokens) (rate decimals : ℕ) : TopUpSummary where
  cyclesAdded := exactCycles icp rate decimals
  daysAdded := nearest (exactCycles icp rate decimals) dailyCostCycles

/-- The estimate returns an error or the exact summary. -/
def EstimateExact (dailyCostCycles : ℕ) (icp : Tokens) (rate decimals : ℕ)
    (result : Except Trap Response) : Prop :=
  (∃ e, result = .ok (.estimate (.error e))) ∨
    result = .ok (.estimate (.ok (exactSummary dailyCostCycles icp rate decimals)))

/-! ### When it is exact -/

/-- The rate is cached, or the canister can pay for the call of the exchange rate canister. -/
def RateAtHand (s : State) : Prop :=
  (s.getCachedRate (todaysMidnight s)).isSome ∨ exchangeRateFee ≤ s.cycles - s.reserve

/-- The amount is below the fee, or it pays two fees and either the decimals are from 4 to 38 and
the days fit into 64 bits, or the product of amount and rate is less than what is left of the power
of ten. -/
def EstimateFits (dailyCostCycles : ℕ) (icp : Tokens) (rate decimals : ℕ) : Prop :=
  icp < defaultFee ∨ 2 * defaultFee.e8s ≤ icp.e8s ∧
    ((4 ≤ decimals ∧ decimals ≤ 38 ∧ (icp.e8s - 20_000) * rate <
      (2 ^ 64 * dailyCostCycles - dailyCostCycles / 2) * 10 ^ (decimals - 4)) ∨
    (38 < decimals ∧ 10_000 * ((icp.e8s - 20_000) * rate + 1) ≤ 10 ^ decimals % 2 ^ 128))

section Exact

variable {icp : Tokens} {rate decimals dailyCostCycles : ℕ}

/-- With fewer than 4 decimals the estimate divides by zero. -/
theorem estimateDivisor_of_lt (h : decimals < 4) : estimateDivisor decimals = 0 := by
  have hpower : 10 ^ decimals ≤ 10 ^ 3 := Nat.pow_le_pow_right (by decide) (by omega)
  unfold estimateDivisor
  rw [Nat.div_eq_zero_iff]
  exact .inr ((Nat.mod_le _ _).trans_lt (hpower.trans_lt (by decide)))

theorem lt_estimateDivisor_iff {x : ℕ} :
    x < estimateDivisor decimals ↔ 10_000 * (x + 1) ≤ 10 ^ decimals % 2 ^ 128 := by
  unfold estimateDivisor
  rw [← Nat.succ_le_iff, Nat.le_div_iff_mul_le (by decide), Nat.mul_comm]

/-- From 4 decimals on the exact cycles are those the CMC creates. -/
theorem exactCycles_eq (hfour : 4 ≤ decimals) :
    exactCycles icp rate decimals = mintedCycles (afterFees icp) rate decimals := by
  unfold exactCycles mintedCycles
  rw [← Nat.pow_sub_mul_pow 10 hfour, Nat.mul_div_mul_right _ _ (by decide), afterFees_e8s]

/-- The days of the estimate are the nearest number exactly when that fits into 64 bits. -/
theorem estimatedDays_eq_iff {cycles : ℕ} (hdaily : 0 < dailyCostCycles)
    (hroom : cycles + dailyCostCycles / 2 < 2 ^ 128) :
    truncate 64 (wrappingAdd 128 cycles (dailyCostCycles / 2) / dailyCostCycles) =
        nearest cycles dailyCostCycles ↔
      cycles < 2 ^ 64 * dailyCostCycles - dailyCostCycles / 2 := by
  rw [wrappingAdd_of_lt hroom, ← nearest_eq_add_half, truncate_eq_iff, nearest_lt_iff hdaily]

/-- From 4 decimals on the estimate is exact when the decimals and the days fit. -/
theorem estimated_eq_exact_iff (hfour : 4 ≤ decimals) (hdaily : 0 < dailyCostCycles)
    (hroom : (afterFees icp).e8s * rate + dailyCostCycles / 2 < 2 ^ 128) :
    (estimateDivisor decimals ≠ 0 ∧ estimated dailyCostCycles icp rate decimals =
        exactSummary dailyCostCycles icp rate decimals) ↔
      DecimalsFit icp rate decimals ∧ (afterFees icp).e8s * rate <
        (2 ^ 64 * dailyCostCycles - dailyCostCycles / 2) * 10 ^ (decimals - 4) := by
  have hminted : mintedCycles (afterFees icp) rate decimals + dailyCostCycles / 2 < 2 ^ 128 :=
    (Nat.add_le_add_right (Nat.div_le_self _ _) _).trans_lt hroom
  have hscaled : mintedCycles (afterFees icp) rate decimals <
        2 ^ 64 * dailyCostCycles - dailyCostCycles / 2 ↔
      (afterFees icp).e8s * rate <
        (2 ^ 64 * dailyCostCycles - dailyCostCycles / 2) * 10 ^ (decimals - 4) :=
    Nat.div_lt_iff_lt_mul (Nat.pow_pos (by decide))
  rw [← cycles_agree_iff hfour ((Nat.le_add_right _ _).trans_lt hroom), ← hscaled,
    ← estimatedDays_eq_iff hdaily hminted, and_assoc]
  unfold estimated exactSummary
  rw [exactCycles_eq hfour, TopUpSummary.mk.injEq]
  refine and_congr_right fun _ ↦ and_congr_right fun hcycles ↦ ?_
  rw [hcycles]

/-- An estimate of an amount that pays the fee is exact when that pays another fee, the divisor is
not zero and the summary is the exact one. -/
theorem estimateResult_exact_iff :
    EstimateExact dailyCostCycles icp rate decimals
        (estimateResult dailyCostCycles icp rate decimals) ↔
      2 * defaultFee.e8s ≤ icp.e8s ∧ estimateDivisor decimals ≠ 0 ∧
        estimated dailyCostCycles icp rate decimals =
          exactSummary dailyCostCycles icp rate decimals := by
  unfold EstimateExact estimateResult
  split_ifs with hless hzero
  · simp [Nat.not_le_of_lt hless]
  · simp [hzero]
  · simp [Nat.le_of_not_lt hless, hzero]

/-- An estimate of an amount that pays the fee is exact when it fits. -/
theorem estimateResult_exact_iff_fits (hfee : defaultFee ≤ icp) (hdaily : 0 < dailyCostCycles)
    (hroom : (afterFees icp).e8s * rate + dailyCostCycles / 2 < 2 ^ 128) :
    EstimateExact dailyCostCycles icp rate decimals
        (estimateResult dailyCostCycles icp rate decimals) ↔
      EstimateFits dailyCostCycles icp rate decimals := by
  have hnot : ¬ icp < defaultFee := Nat.not_lt_of_le hfee
  unfold EstimateFits
  rw [estimateResult_exact_iff, or_iff_right hnot, ← lt_estimateDivisor_iff, ← afterFees_e8s]
  refine and_congr_right fun _ ↦ ?_
  by_cases hfour : 4 ≤ decimals
  · rw [estimated_eq_exact_iff hfour hdaily hroom]
    unfold DecimalsFit
    generalize hproduct : (afterFees icp).e8s * rate = product
    by_cases hle : decimals ≤ 38
    · simp [hfour, hle, Nat.not_lt_of_le hle]
    · have hmore := Nat.lt_of_not_le hle
      -- a product below the divisor is worth no cycles, so the days fit
      have hdays (hless : product < estimateDivisor decimals) :
          product < (2 ^ 64 * dailyCostCycles - dailyCostCycles / 2) * 10 ^ (decimals - 4) := by
        have htwice := two_mul_estimateDivisor_le hmore
        have hpositive : 1 ≤ 2 ^ 64 * dailyCostCycles - dailyCostCycles / 2 := by omega
        have hscale : 10 ^ (decimals - 4) ≤
            (2 ^ 64 * dailyCostCycles - dailyCostCycles / 2) * 10 ^ (decimals - 4) :=
          Nat.le_mul_of_pos_left _ hpositive
        omega
      simp only [hle, hmore, false_or, true_and, false_and, and_false]
      exact and_iff_left_of_imp hdays
  · have hzero := estimateDivisor_of_lt (Nat.lt_of_not_le hfour)
    have hfew : ¬ 38 < decimals := by omega
    simp [hzero, hfour, hfew]

end Exact

/-! ### The estimate in a reachable state -/

section Reachable

variable {w : World} {subnetId : Principal} {rentalAgreement : RentalAgreement} {icp : Tokens}
  {rate decimals : ℕ}

/-- An estimate of an amount below the fee fails. -/
theorem ensures_estimateBelowFee
    (hstored : w.canister.rentalAgreements[subnetId]? = some rentalAgreement)
    (hfee : icp < defaultFee) (hrate : RateAvailable rate decimals w.canister) :
    service.Ensures (samePrice rate decimals) (.subnetTopUpEstimate subnetId icp) w
      fun _ result ↦ result = .ok (.estimate (.error .belowFee)) := by
  refine ensures_estimateAfterRate hstored hrate fun s _ ↦ ?_
  unfold estimateAfterRate
  rw [if_pos hfee]
  rfl

/-- An estimate traps when no rate is cached and the canister cannot pay for a call. -/
theorem ensures_estimateUnpaid
    (hstored : w.canister.rentalAgreements[subnetId]? = some rentalAgreement)
    (hrate : ¬ RateAtHand w.canister) :
    service.Ensures (samePrice rate decimals) (.subnetTopUpEstimate subnetId icp) w
      fun _ result ↦ result = .error .insufficientCycles := by
  have hagreement : w.canister.getRentalAgreement subnetId = some rentalAgreement := hstored
  unfold RateAtHand todaysMidnight at hrate
  rw [not_or, Bool.not_eq_true, Option.isSome_eq_false_iff, Option.isNone_iff_eq_none] at hrate
  obtain ⟨hnone, hfunds⟩ := hrate
  have hlookup : getExchangeRate w.canister (roundToPreviousMidnight (w.canister.now / billion)) =
      .trap .insufficientCycles := by
    simp only [getExchangeRate, hnone, if_pos (Nat.lt_of_not_le hfunds)]
  refine Service.ensures_of_trap ?_ rfl
  change (subnetTopUpEstimate subnetId icp w.canister).mapState _ = _
  simp only [subnetTopUpEstimate, hagreement, hlookup]
  rfl

end Reachable

/-- In every reachable state the estimate for a stored agreement returns an error or the exact
cycles and days exactly when the rate can be looked up and the estimate fits. -/
theorem estimate_exact_iff {cycles : ℕ} {c : Configuration} {subnetId : Principal}
    {rentalAgreement : RentalAgreement} {icp : Tokens} {rate decimals : ℕ}
    (h : (system cycles).Reachable c)
    (hstored : c.state.canister.rentalAgreements[subnetId]? = some rentalAgreement)
    (hicp : icp.e8s < 2 ^ 64) (hrate : rate < 2 ^ 64)
    (htold : ∀ told ∈ c.state.canister.getCachedRate (todaysMidnight c.state.canister),
      told = (rate, decimals)) :
    service.Ensures (samePrice rate decimals) (.subnetTopUpEstimate subnetId icp) c.state
      (fun _ result ↦ EstimateExact
        (standardConditions rentalAgreement.rentalConditionId).dailyCostCycles icp rate decimals
          result) ↔
      RateAtHand c.state.canister ∧ EstimateFits
        (standardConditions rentalAgreement.rentalConditionId).dailyCostCycles icp rate
          decimals := by
  have hconditions :=
    (sound_of_reachable h).inv.consistent.conditions rentalAgreement.rentalConditionId
  have hroom := cycles_room rentalAgreement.rentalConditionId hicp hrate
  have hdaily := dailyCostCycles_pos rentalAgreement.rentalConditionId
  by_cases hathand : RateAtHand c.state.canister
  · rw [and_iff_right hathand]
    have havailable : RateAvailable rate decimals c.state.canister := by
      unfold RateAvailable
      unfold RateAtHand at hathand
      cases hcached : c.state.canister.getCachedRate (todaysMidnight c.state.canister) with
      | none =>
        rw [hcached] at hathand
        exact .inr ⟨rfl, hathand.resolve_left Bool.false_ne_true⟩
      | some told => exact .inl (congrArg some (htold told hcached))
    by_cases hfee : icp < defaultFee
    · exact iff_of_true ((ensures_estimateBelowFee hstored hfee havailable).mono
        fun _ _ hresult ↦ .inl ⟨_, hresult⟩) (.inl hfee)
    · have hpays : defaultFee ≤ icp := Nat.le_of_not_lt hfee
      rw [(ensures_estimate hstored hpays hconditions hdaily.ne' havailable).of_result_iff]
      exact estimateResult_exact_iff_fits hpays hdaily hroom
  · refine iff_of_false ?_ fun hboth ↦ hathand hboth.1
    rw [(ensures_estimateUnpaid hstored hathand).of_result_iff]
    unfold EstimateExact
    simp

theorem estimate_exact_rented :
    service.Ensures (samePrice 3_500_000_000 9)
      (.subnetTopUpEstimate aliceCreation.subnetId ⟨10 ^ 10⟩) rentedConfiguration.state
      fun _ result ↦ EstimateExact
        (standardConditions ((rentedConfiguration.state.canister.rentalAgreements[
          aliceCreation.subnetId]?).get
            rentedConfiguration_isSome).rentalConditionId).dailyCostCycles
        ⟨10 ^ 10⟩ 3_500_000_000 9 result := by
  have hcached : rentedConfiguration.state.canister.getCachedRate
      (todaysMidnight rentedConfiguration.state.canister) = some (3_500_000_000, 9) := by
    decide +kernel
  refine (estimate_exact_iff reachable_rentedConfiguration
    (stored_of_isSome rentedConfiguration_isSome) (by decide) (by decide)
    fun told htold ↦ Option.some.inj (htold.symm.trans hcached)).mpr
      ⟨.inl ?_, .inr ⟨by decide, .inl ?_⟩⟩
  · rw [hcached]
    rfl
  · rw [rentedConfiguration_condition]
    decide +kernel

/-- The day after the rental, when no rate is cached. -/
def nextDayConfiguration : Configuration :=
  ((system (10 ^ 12)).perform (idle (installedWorld (10 ^ 12) fun _ ↦ 10 ^ 13))
    (rentalRun ++ [.environment (.pass (secondsPerDay * billion))])).get (by decide +kernel)

theorem reachable_nextDayConfiguration : (system (10 ^ 12)).Reachable nextDayConfiguration :=
  System.reachable_get_perform (init_idle _ _) _

theorem nextDayConfiguration_isSome :
    (nextDayConfiguration.state.canister.rentalAgreements[aliceCreation.subnetId]?).isSome := by
  decide +kernel

/-- At a rate of 3.5 XDR per ICP with 3 decimals the estimate for 100 ICP divides by zero. -/
theorem estimate_not_exact :
    ∃ c rentalAgreement, (system (10 ^ 12)).Reachable c ∧
      c.state.canister.rentalAgreements[aliceCreation.subnetId]? = some rentalAgreement ∧
      RateAvailable 3_500 3 c.state.canister ∧
      ¬ service.Ensures (samePrice 3_500 3) (.subnetTopUpEstimate aliceCreation.subnetId ⟨10 ^ 10⟩)
        c.state fun _ result ↦ EstimateExact
          (standardConditions rentalAgreement.rentalConditionId).dailyCostCycles ⟨10 ^ 10⟩ 3_500 3
            result := by
  have hstored := stored_of_isSome nextDayConfiguration_isSome
  have havailable : RateAvailable 3_500 3 nextDayConfiguration.state.canister :=
    .inr ⟨by decide +kernel, by decide +kernel⟩
  refine ⟨nextDayConfiguration, _, reachable_nextDayConfiguration, hstored, havailable, ?_⟩
  have hconditions :=
    (sound_of_reachable reachable_nextDayConfiguration).inv.consistent.conditions
      ((nextDayConfiguration.state.canister.rentalAgreements[aliceCreation.subnetId]?).get
        nextDayConfiguration_isSome).rentalConditionId
  have hfee : defaultFee ≤ (⟨10 ^ 10⟩ : Tokens) := by decide
  have hestimate := ensures_estimate hstored hfee hconditions (dailyCostCycles_pos _).ne' havailable
  rw [hestimate.of_result_iff, estimateResult_exact_iff]
  rintro ⟨-, hdivisor, -⟩
  exact hdivisor (estimateDivisor_of_lt (by decide))

end SubnetRental.Rates
