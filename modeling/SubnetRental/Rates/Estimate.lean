import SubnetRental.Cycles.AgreementSteps
import SubnetRental.Lifecycle.Exclusivity
import SubnetRental.Foundation.CompletedCalls

/-!
# The estimate of a top-up

`subnet_top_up_estimate` and `top_up_subnet` compute the cycles and the days of a top-up in two
ways. `estimated` and `toppedUp` are what they return when the price is the same for both
(`ensures_estimate`, `ensures_topUp`), and `estimate_agrees_iff` says when that is the same: the
estimate rounds the days to the nearest one at the daily cost, and the top-up counts whole days at
the truncated cost per second.
-/

set_option autoImplicit false
set_option relaxedAutoImplicit false

namespace SubnetRental.Rates

open Canister Cycles Lifecycle Foundation.GuardedCalls Foundation.MachineInteger
open Foundation.TransitionSystem Foundation.TreeMapTotals Std

/-! ### The same price for both -/

/-- The cycles a CMC creates for a transferred amount at a rate. -/
def mintedCycles (icp : Tokens) (rate decimals : ℕ) : ℕ := icp.e8s * rate / 10 ^ (decimals - 4)

/-- The exchange rate canister tells the rate, the ledger tells the balance and accepts the
transfer, and the CMC creates cycles at the rate. -/
def samePrice (rate decimals : ℕ) : Frame → Answer → World → Prop
  | .estimateRate _ _ _, answer, _ => answer = .exchangeRate (.ok (rate, decimals))
  | .topUpBalance _ rentalAgreement, answer, w =>
    answer = .accountBalance ⟨w.balance rentalAgreement.user⟩
  | .topUpConvert _ _ _ _ .transfer, answer, _ => ∃ blockIndex, answer = .transfer (.ok blockIndex)
  | .topUpConvert _ _ _ icpAmountForCycles (.notify _), answer, _ =>
    answer = .notifyTopUp (.ok (mintedCycles (icpAmountForCycles - defaultFee) rate decimals))
  | _, _, _ => True

/-- What is left of an amount after both fees. -/
def afterFees (icp : Tokens) : Tokens := icp - defaultFee - defaultFee

theorem afterFees_e8s (icp : Tokens) : (afterFees icp).e8s = icp.e8s - 20_000 := by
  unfold afterFees
  rw [Tokens.sub_e8s, Tokens.sub_e8s, Nat.sub_sub]
  rfl

/-! ### The estimate -/

/-- The divisor of the estimate, whose power is not checked. -/
def estimateDivisor (decimals : ℕ) : ℕ := 10 ^ decimals % 2 ^ 128 / 10_000

/-- The summary of the estimate at a daily cost. -/
def estimated (dailyCostCycles : ℕ) (icp : Tokens) (rate decimals : ℕ) : TopUpSummary :=
  let cycles := wrappingMul 128 (afterFees icp).e8s rate / estimateDivisor decimals
  { cyclesAdded := cycles
    daysAdded := truncate 64 (wrappingAdd 128 cycles (dailyCostCycles / 2) / dailyCostCycles) }

/-- How an estimate of an amount that pays the fee ends. -/
def estimateResult (dailyCostCycles : ℕ) (icp : Tokens) (rate decimals : ℕ) :
    Except Trap Response :=
  if icp.e8s < 2 * defaultFee.e8s then .error .tokensUnderflow
  else if estimateDivisor decimals = 0 then .error .divisionByZero
  else .ok (.estimate (.ok (estimated dailyCostCycles icp rate decimals)))

/-- What an amount leaves after one fee pays another when the amount is two fees. -/
theorem sub_fee_lt_iff {icp : Tokens} (hfee : defaultFee ≤ icp) :
    icp - defaultFee < defaultFee ↔ icp.e8s < 2 * defaultFee.e8s := by
  have hfee : defaultFee.e8s ≤ icp.e8s := hfee
  change (icp - defaultFee).e8s < defaultFee.e8s ↔ _
  rw [Tokens.sub_e8s]
  omega

/-- The end of the estimate once the rate is known. -/
theorem estimateAfterRate_eq {rentalAgreement : RentalAgreement} {icp : Tokens} {rate decimals : ℕ}
    {s : State} {conditions : RentalConditions} (hfee : defaultFee ≤ icp)
    (hconditions : s.rentalConditions rentalAgreement.rentalConditionId = some conditions)
    (hdaily : conditions.dailyCostCycles ≠ 0) :
    estimateAfterRate rentalAgreement icp (rate, decimals) s =
      .ended s (estimateResult conditions.dailyCostCycles icp rate decimals) := by
  have hnot : ¬ icp < defaultFee := Nat.not_lt_of_le hfee
  have hdivisor : wrappingPow 128 10 decimals / 10_000 = estimateDivisor decimals := rfl
  unfold estimateAfterRate estimateAfterFee estimateResult
  rw [if_neg hnot]
  simp only [sub_fee_lt_iff hfee, State.getRentalConditions, hconditions, if_neg hdaily, hdivisor]
  split_ifs
  · rfl
  · rfl
  · rfl

/-- Paying for a call leaves the conditions as they are. -/
theorem rentalConditions_paidCall (s : State) (cycles exchangeRateCalls : ℕ) :
    State.rentalConditions { s with cycles, exchangeRateCalls } = s.rentalConditions := rfl

/-- The midnight whose rate an estimate uses. -/
def todaysMidnight (s : State) : ℕ := roundToPreviousMidnight (s.now / billion)

/-- The rate is cached, or it is not and the canister can pay for the call. -/
def RateAvailable (rate decimals : ℕ) (s : State) : Prop :=
  s.getCachedRate (todaysMidnight s) = some (rate, decimals) ∨
    (s.getCachedRate (todaysMidnight s) = none ∧ exchangeRateFee ≤ s.cycles - s.reserve)

section Estimate

variable {subnetId : Principal} {rentalAgreement : RentalAgreement} {icp : Tokens}
  {rate decimals : ℕ} {conditions : RentalConditions} {w : World}

/-- An estimate that is told the rate ends as it does once the rate is known. -/
theorem ensuresFrom_estimateRate {prevMidnight : ℕ} {result : Except Trap Response}
    (hend : ∀ s : State, s.rentalConditions = w.canister.rentalConditions →
      estimateAfterRate rentalAgreement icp (rate, decimals) s = .ended s result) :
    service.EnsuresFrom (samePrice rate decimals) (.estimateRate rentalAgreement icp prevMidnight) w
      fun _ ended ↦ ended = result := by
  refine Service.ensuresFrom_of_answers ⟨_, rfl⟩ ?_
  rintro answer rfl
  change service.Continues (samePrice rate decimals) _ w _ ((estimateAfterRate rentalAgreement icp
    (rate, decimals) (w.canister.cacheRate prevMidnight rate decimals)).mapState _)
  rw [hend (w.canister.cacheRate prevMidnight rate decimals) rfl]
  cases result <;> rfl

/-- An estimate whose rate is available ends as it does once the rate is known. -/
theorem ensures_estimateAfterRate {result : Except Trap Response}
    (hstored : w.canister.rentalAgreements[subnetId]? = some rentalAgreement)
    (hrate : RateAvailable rate decimals w.canister)
    (hend : ∀ s : State, s.rentalConditions = w.canister.rentalConditions →
      estimateAfterRate rentalAgreement icp (rate, decimals) s = .ended s result) :
    service.Ensures (samePrice rate decimals) (.subnetTopUpEstimate subnetId icp) w
      fun _ ended ↦ ended = result := by
  have hagreement : w.canister.getRentalAgreement subnetId = some rentalAgreement := hstored
  unfold RateAvailable todaysMidnight at hrate
  rcases hrate with hcached | ⟨hnone, hfunds⟩
  · have hlookup : getExchangeRate w.canister (roundToPreviousMidnight (w.canister.now / billion)) =
        .cached (rate, decimals) := by
      simp only [getExchangeRate, hcached]
    have hstart : service.start (.subnetTopUpEstimate subnetId icp) w =
        (estimateAfterRate rentalAgreement icp (rate, decimals) w.canister).mapState
          fun s ↦ { w with canister := s } := by
      change (subnetTopUpEstimate subnetId icp w.canister).mapState _ = _
      simp only [subnetTopUpEstimate, hagreement, hlookup]
    rw [hend w.canister rfl, Outcome.mapState_ended] at hstart
    exact Service.ensures_of_ended hstart
  · have hlookup : getExchangeRate w.canister (roundToPreviousMidnight (w.canister.now / billion)) =
        .calling { w.canister with
          cycles := w.canister.cycles - exchangeRateFee
          exchangeRateCalls := w.canister.exchangeRateCalls + 1 } := by
      simp only [getExchangeRate, hnone, if_neg (Nat.not_lt_of_le hfunds)]
    have hstart : service.start (.subnetTopUpEstimate subnetId icp) w =
        .suspend { w with canister := { w.canister with
            cycles := w.canister.cycles - exchangeRateFee
            exchangeRateCalls := w.canister.exchangeRateCalls + 1 } }
          (.estimateRate rentalAgreement icp (todaysMidnight w.canister)) := by
      change (subnetTopUpEstimate subnetId icp w.canister).mapState _ = _
      simp only [subnetTopUpEstimate, hagreement, hlookup]
      rfl
    refine Service.ensures_of_suspend hstart (ensuresFrom_estimateRate fun s hsame ↦ hend s ?_)
    exact hsame.trans (rentalConditions_paidCall w.canister _ _)

/-- An estimate of an amount that pays the fee. -/
theorem ensures_estimate (hstored : w.canister.rentalAgreements[subnetId]? = some rentalAgreement)
    (hfee : defaultFee ≤ icp)
    (hconditions : w.canister.rentalConditions rentalAgreement.rentalConditionId = some conditions)
    (hdaily : conditions.dailyCostCycles ≠ 0) (hrate : RateAvailable rate decimals w.canister) :
    service.Ensures (samePrice rate decimals) (.subnetTopUpEstimate subnetId icp) w
      fun _ result ↦ result = estimateResult conditions.dailyCostCycles icp rate decimals := by
  refine ensures_estimateAfterRate hstored hrate fun s hsame ↦ ?_
  have hlookup : s.rentalConditions rentalAgreement.rentalConditionId = some conditions := by
    rw [hsame, hconditions]
  exact estimateAfterRate_eq hfee hlookup hdaily

end Estimate

/-! ### The top-up -/

/-- The summary of a top-up at a daily cost. -/
def toppedUp (dailyCostCycles : ℕ) (icp : Tokens) (rate decimals : ℕ) : TopUpSummary :=
  let cycles := mintedCycles (afterFees icp) rate decimals
  { cyclesAdded := cycles
    daysAdded := truncate 64 (secondsCharged dailyCostCycles cycles / secondsPerDay) }

/-- How a top-up of an amount that pays the fee ends, for an agreement that records what was
paid. -/
def topUpResult (dailyCostCycles : ℕ) (totalIcpPaid icp : Tokens) (rate decimals : ℕ) :
    Except Trap Response :=
  if icp.e8s < 2 * defaultFee.e8s then .error .tokensUnderflow
  else if 2 ^ 64 ≤ totalIcpPaid.e8s + icp.e8s then .error .tokensOverflow
  else .ok (.topUp (.ok (toppedUp dailyCostCycles icp rate decimals)))

section TopUp

variable {subnetId : Principal} {rentalAgreement : RentalAgreement} {icp : Tokens}
  {rate decimals : ℕ} {conditions : RentalConditions} {w : World}

theorem ensuresFrom_topUpNotify {blockIndex : ℕ} (hfees : ¬ icp.e8s < 2 * defaultFee.e8s)
    (hstored : w.canister.rentalAgreements[subnetId]? = some rentalAgreement)
    (hconditions : w.canister.rentalConditions rentalAgreement.rentalConditionId = some conditions)
    (hperSecond : conditions.dailyCostCycles / secondsPerDay ≠ 0) :
    service.EnsuresFrom (samePrice rate decimals)
      (.topUpConvert subnetId rentalAgreement icp (icp - defaultFee) (.notify blockIndex)) w
        fun _ result ↦ result = topUpResult conditions.dailyCostCycles rentalAgreement.totalIcpPaid
          icp rate decimals := by
  refine Service.ensuresFrom_of_answers ⟨_, rfl⟩ ?_
  rintro answer rfl
  unfold topUpResult
  rw [if_neg hfees]
  change service.Continues (samePrice rate decimals) _ _ _ ((topUpAfterConvert subnetId
    rentalAgreement icp (icp - defaultFee) { w.canister with
      cycles := w.canister.cycles + mintedCycles (afterFees icp) rate decimals }
      (.ok (blockIndex, mintedCycles (afterFees icp) rate decimals))).mapState _)
  obtain ⟨htoo, htraps⟩ | ⟨hfits, s', hreply, -⟩ := topUpAfterConvert_of_stored
    (s := { w.canister with
      cycles := w.canister.cycles + mintedCycles (afterFees icp) rate decimals })
    icp (icp - defaultFee) blockIndex (mintedCycles (afterFees icp) rate decimals) hconditions
    hperSecond hstored
  · rw [htraps]
    exact (if_pos htoo).symm
  · rw [hreply]
    exact (if_neg (Nat.not_le_of_lt hfits)).symm

theorem ensuresFrom_topUpTransfer (hfees : ¬ icp.e8s < 2 * defaultFee.e8s)
    (hstored : w.canister.rentalAgreements[subnetId]? = some rentalAgreement)
    (hconditions : w.canister.rentalConditions rentalAgreement.rentalConditionId = some conditions)
    (hperSecond : conditions.dailyCostCycles / secondsPerDay ≠ 0) :
    service.EnsuresFrom (samePrice rate decimals)
      (.topUpConvert subnetId rentalAgreement icp (icp - defaultFee) .transfer) w
        fun _ result ↦ result = topUpResult conditions.dailyCostCycles rentalAgreement.totalIcpPaid
          icp rate decimals := by
  refine Service.ensuresFrom_of_answers ⟨_, 0, rfl⟩ ?_
  rintro answer ⟨blockIndex, rfl⟩
  exact ensuresFrom_topUpNotify (w := w.debit rentalAgreement.user (icp - defaultFee - defaultFee))
    hfees hstored hconditions hperSecond

variable (rate decimals) in
theorem ensures_topUp (hstored : w.canister.rentalAgreements[subnetId]? = some rentalAgreement)
    (hfree : agreementLock subnetId ∉ w.canister.locks)
    (hbalance : w.balance rentalAgreement.user = icp.e8s) (hfee : defaultFee ≤ icp)
    (hconditions : w.canister.rentalConditions rentalAgreement.rentalConditionId = some conditions)
    (hperSecond : conditions.dailyCostCycles / secondsPerDay ≠ 0) :
    service.Ensures (samePrice rate decimals) (.topUpSubnet subnetId) w fun _ result ↦
      result = topUpResult conditions.dailyCostCycles rentalAgreement.totalIcpPaid icp rate
        decimals := by
  have hstart : service.start (.topUpSubnet subnetId) w =
      .suspend { w with canister.locks := insert (agreementLock subnetId) w.canister.locks }
        (.topUpBalance subnetId rentalAgreement) := by
    change (topUpSubnet subnetId w.canister).mapState _ = _
    unfold topUpSubnet State.callerGuard
    simp only [hfree, if_false, State.getRentalAgreement, hstored]
    rfl
  refine Service.ensures_of_suspend hstart (Service.ensuresFrom_of_answers ⟨_, rfl⟩ ?_)
  rintro answer rfl
  have hnot : ¬ icp < defaultFee := Nat.not_lt_of_le hfee
  change service.Continues (samePrice rate decimals) _ _ _ ((resumeTopUpBalance subnetId
    rentalAgreement (.accountBalance ⟨w.balance rentalAgreement.user⟩) _).mapState _)
  rw [hbalance]
  unfold resumeTopUpBalance
  dsimp only
  rw [if_neg hnot]
  by_cases hfees : icp.e8s < 2 * defaultFee.e8s
  · rw [beginConvert_of_lt ((sub_fee_lt_iff hfee).mpr hfees)]
    exact (if_pos hfees).symm
  · rw [beginConvert_of_le (Nat.le_of_not_lt (mt (sub_fee_lt_iff hfee).mp hfees))]
    exact ensuresFrom_topUpTransfer hfees hstored hconditions hperSecond

end TopUp

/-! ### When both are the same -/

/-- The power of ten fits in 128 bits, or the product is less than what is left of the power. -/
def DecimalsFit (icp : Tokens) (rate decimals : ℕ) : Prop :=
  decimals ≤ 38 ∨ (afterFees icp).e8s * rate < estimateDivisor decimals

/-- Of the cycles that are left after the days at the daily cost, and of those that the truncated
cost per second does not charge for these days, either the former are less than half a day and both
are less than a day, or the former are half a day and both are one day, but not two. -/
def DaysFit (dailyCostCycles cycles : ℕ) : Prop :=
  let left := cycles % dailyCostCycles
  let uncharged := cycles / dailyCostCycles * (dailyCostCycles % secondsPerDay)
  let day := dailyCostCycles - dailyCostCycles % secondsPerDay
  left < dailyCostCycles - dailyCostCycles / 2 ∧ left + uncharged < day ∨
    dailyCostCycles - dailyCostCycles / 2 ≤ left ∧ day ≤ left + uncharged ∧
      left + uncharged < 2 * day

instance (dailyCostCycles cycles : ℕ) : Decidable (DaysFit dailyCostCycles cycles) :=
  inferInstanceAs (Decidable (_ ∨ _))

theorem ten_pow_lt {decimals : ℕ} (hle : decimals ≤ 38) : 10 ^ decimals < 2 ^ 128 :=
  (Nat.pow_le_pow_right (by decide) hle).trans_lt (by decide)

theorem estimateDivisor_of_le {decimals : ℕ} (hfour : 4 ≤ decimals) (hle : decimals ≤ 38) :
    estimateDivisor decimals = 10 ^ (decimals - 4) := by
  have hten : (10_000 : ℕ) = 10 ^ 4 := by decide
  unfold estimateDivisor
  rw [Nat.mod_eq_of_lt (ten_pow_lt hle), hten, Nat.pow_div hfour (by decide)]

/-- What is left of a power that does not fit is less than half of what the CMC divides by. -/
theorem two_mul_estimateDivisor_le {decimals : ℕ} (hmore : 38 < decimals) :
    2 * estimateDivisor decimals ≤ 10 ^ (decimals - 4) := by
  have hwrapped : 10 ^ decimals % 2 ^ 128 ≤ 2 ^ 128 := (Nat.mod_lt _ (by decide)).le
  have hpower : 10 ^ 35 ≤ 10 ^ (decimals - 4) := Nat.pow_le_pow_right (by decide) (by omega)
  calc
    2 * estimateDivisor decimals ≤ 2 * (2 ^ 128 / 10_000) :=
      Nat.mul_le_mul_left 2 (Nat.div_le_div_right hwrapped)
    _ ≤ 10 ^ 35 := by decide
    _ ≤ 10 ^ (decimals - 4) := hpower

/-- Quotients by numbers of which one is at least twice the other are the same only when both are
zero. -/
theorem div_eq_div_iff_lt {x small large : ℕ} (htwice : 2 * small ≤ large) :
    small ≠ 0 ∧ x / small = x / large ↔ x < small := by
  constructor
  · rintro ⟨hne, heq⟩
    have hpos := Nat.pos_of_ne_zero hne
    have hlow : x / small * large ≤ x := by
      rw [heq]
      exact Nat.div_mul_le_self x large
    have hhigh : x < (x / small + 1) * small := Nat.lt_mul_of_div_lt (Nat.lt_succ_self _) hpos
    rcases Nat.eq_zero_or_pos (x / small) with hzero | hquotient
    · rwa [hzero, Nat.zero_add, Nat.one_mul] at hhigh
    · have htwo : (x / small + 1) * small ≤ x / small * large :=
        calc
          (x / small + 1) * small ≤ (x / small * 2) * small :=
            Nat.mul_le_mul_right small (by omega)
          _ = x / small * (2 * small) := Nat.mul_assoc _ _ _
          _ ≤ x / small * large := Nat.mul_le_mul_left _ htwice
      omega
  · intro hlt
    refine ⟨by omega, ?_⟩
    rw [Nat.div_eq_of_lt hlt, Nat.div_eq_of_lt (by omega)]

/-- The cycles of both are the same exactly when the decimals fit. -/
theorem cycles_agree_iff {icp : Tokens} {rate decimals : ℕ} (hfour : 4 ≤ decimals)
    (hproduct : (afterFees icp).e8s * rate < 2 ^ 128) :
    (estimateDivisor decimals ≠ 0 ∧ wrappingMul 128 (afterFees icp).e8s rate /
        estimateDivisor decimals = mintedCycles (afterFees icp) rate decimals) ↔
      DecimalsFit icp rate decimals := by
  rw [wrappingMul_of_lt hproduct]
  unfold DecimalsFit
  by_cases hle : decimals ≤ 38
  · rw [estimateDivisor_of_le hfour hle]
    exact iff_of_true ⟨(Nat.pow_pos (by decide)).ne', rfl⟩ (.inl hle)
  · rw [or_iff_right hle]
    exact div_eq_div_iff_lt (two_mul_estimateDivisor_le (Nat.lt_of_not_le hle))

/-- A quotient by a part of a divisor: the quotient by the divisor, and that of what is left. -/
theorem div_part_eq (x : ℕ) {part rest : ℕ} (hpart : 0 < part) :
    x / part =
      x / (part + rest) + (x % (part + rest) + x / (part + rest) * rest) / part := by
  have hsplit : x = part * (x / (part + rest)) +
      (x % (part + rest) + x / (part + rest) * rest) := by
    calc
      x = (part + rest) * (x / (part + rest)) + x % (part + rest) := (Nat.div_add_mod _ _).symm
      _ = _ := by ring
  conv_lhs => rw [hsplit]
  exact Nat.mul_add_div hpart _ _

/-- The rounded and the whole days are the same number exactly when the days fit. -/
theorem days_eq_iff {dailyCostCycles cycles : ℕ}
    (hperSecond : 0 < dailyCostCycles / secondsPerDay) :
    (cycles + dailyCostCycles / 2) / dailyCostCycles =
        cycles / (dailyCostCycles / secondsPerDay) / secondsPerDay ↔
      DaysFit dailyCostCycles cycles := by
  have hpos : 0 < secondsPerDay := by decide
  have hday : 0 < dailyCostCycles / secondsPerDay * secondsPerDay := Nat.mul_pos hperSecond hpos
  have hsum : dailyCostCycles / secondsPerDay * secondsPerDay + dailyCostCycles % secondsPerDay =
      dailyCostCycles := Nat.div_add_mod' _ _
  have hdaily : 0 < dailyCostCycles := by omega
  have hless := Nat.mod_lt cycles hdaily
  have hrounded : (cycles + dailyCostCycles / 2) / dailyCostCycles = cycles / dailyCostCycles +
      (cycles % dailyCostCycles + dailyCostCycles / 2) / dailyCostCycles := by
    conv_lhs => rw [← Nat.div_add_mod cycles dailyCostCycles, Nat.add_assoc]
    exact Nat.mul_add_div hdaily _ _
  have hcharged := @div_part_eq cycles _ (dailyCostCycles % secondsPerDay) hday
  rw [hsum] at hcharged
  rw [Nat.div_div_eq_div_mul, hrounded, hcharged, Nat.add_left_cancel_iff]
  unfold DaysFit
  rw [show dailyCostCycles - dailyCostCycles % secondsPerDay =
    dailyCostCycles / secondsPerDay * secondsPerDay by omega]
  generalize cycles / dailyCostCycles * (dailyCostCycles % secondsPerDay) = uncharged
  generalize dailyCostCycles / secondsPerDay * secondsPerDay = day at hday
  generalize cycles % dailyCostCycles = left at hless
  -- Rounding adds a day when half a day is left.
  obtain hhalf | hhalf := Nat.lt_or_ge left (dailyCostCycles - dailyCostCycles / 2)
  · have hzero : (left + dailyCostCycles / 2) / dailyCostCycles = 0 :=
      Nat.div_eq_of_lt (by omega)
    rw [hzero, eq_comm, Nat.div_eq_zero_iff_lt hday]
    omega
  · have hone : (left + dailyCostCycles / 2) / dailyCostCycles = 1 :=
      Nat.div_eq_of_lt_le (by omega) (by omega)
    rw [hone, eq_comm, Nat.div_eq_iff hday]
    omega

/-- At the costs of the two conditions the two numbers of days are less than `2 ^ 64` apart. -/
theorem days_close (id : RentalConditionId) {cycles : ℕ} (hcycles : cycles < 2 ^ 128) :
    (cycles + (standardConditions id).dailyCostCycles / 2) /
          (standardConditions id).dailyCostCycles <
        cycles / ((standardConditions id).dailyCostCycles / secondsPerDay) / secondsPerDay +
          2 ^ 64 ∧
      cycles / ((standardConditions id).dailyCostCycles / secondsPerDay) / secondsPerDay <
        (cycles + (standardConditions id).dailyCostCycles / 2) /
          (standardConditions id).dailyCostCycles + 2 ^ 64 := by
  cases id with
  | app13CH =>
    change (cycles + 820_000_000_000_000 / 2) / 820_000_000_000_000 <
        cycles / (820_000_000_000_000 / 86_400) / 86_400 + 2 ^ 64 ∧
      cycles / (820_000_000_000_000 / 86_400) / 86_400 <
        (cycles + 820_000_000_000_000 / 2) / 820_000_000_000_000 + 2 ^ 64
    omega
  | app7CH =>
    change (cycles + 440_000_000_000_000 / 2) / 440_000_000_000_000 <
        cycles / (440_000_000_000_000 / 86_400) / 86_400 + 2 ^ 64 ∧
      cycles / (440_000_000_000_000 / 86_400) / 86_400 <
        (cycles + 440_000_000_000_000 / 2) / 440_000_000_000_000 + 2 ^ 64
    omega

/-- The cycles of a 64-bit amount at a 64-bit rate leave room for half a daily cost. -/
theorem cycles_room (id : RentalConditionId) {icp : Tokens} {rate : ℕ} (hicp : icp.e8s < 2 ^ 64)
    (hrate : rate < 2 ^ 64) :
    (afterFees icp).e8s * rate + (standardConditions id).dailyCostCycles / 2 < 2 ^ 128 := by
  have hfees : (afterFees icp).e8s ≤ 2 ^ 64 - 20_001 := by
    rw [afterFees_e8s]
    omega
  have hproduct : (afterFees icp).e8s * rate ≤ (2 ^ 64 - 20_001) * (2 ^ 64 - 1) :=
    Nat.mul_le_mul hfees (by omega)
  have hhalf : (standardConditions id).dailyCostCycles / 2 ≤ 2 ^ 49 := by
    cases id <;> decide
  have hroom : (2 ^ 64 - 20_001) * (2 ^ 64 - 1) + 2 ^ 49 < 2 ^ 128 := by decide
  omega

/-- The estimate and the top-up count the same days for the same cycles exactly when the days
fit. -/
theorem daysAdded_eq_iff (id : RentalConditionId) {cycles : ℕ}
    (hroom : cycles + (standardConditions id).dailyCostCycles / 2 < 2 ^ 128) :
    truncate 64 (wrappingAdd 128 cycles ((standardConditions id).dailyCostCycles / 2) /
          (standardConditions id).dailyCostCycles) =
        truncate 64 (secondsCharged (standardConditions id).dailyCostCycles cycles /
          secondsPerDay) ↔
      DaysFit (standardConditions id).dailyCostCycles cycles := by
  obtain ⟨hless, hmore⟩ := days_close id (Nat.lt_of_le_of_lt (Nat.le_add_right _ _) hroom)
  rw [wrappingAdd_of_lt hroom, ← days_eq_iff (perSecond_pos id)]
  unfold truncate secondsCharged
  omega

/-- The estimate and the top-up end with one summary when neither traps and the estimate computes
the summary of the top-up. -/
theorem sameSummary_iff {dailyCostCycles : ℕ} {totalIcpPaid icp : Tokens} {rate decimals : ℕ} :
    (∃ summary,
      estimateResult dailyCostCycles icp rate decimals = .ok (.estimate (.ok summary)) ∧
      topUpResult dailyCostCycles totalIcpPaid icp rate decimals = .ok (.topUp (.ok summary))) ↔
      (2 * defaultFee.e8s ≤ icp.e8s ∧ totalIcpPaid.e8s + icp.e8s < 2 ^ 64) ∧
        estimateDivisor decimals ≠ 0 ∧
          estimated dailyCostCycles icp rate decimals =
            toppedUp dailyCostCycles icp rate decimals := by
  unfold estimateResult topUpResult
  constructor
  · rintro ⟨summary, hfirst, hsecond⟩
    split_ifs at hfirst hsecond with hfees hzero hoverflows
    have hestimated := Except.ok.inj (Response.estimate.inj (Except.ok.inj hfirst))
    have htoppedUp := Except.ok.inj (Response.topUp.inj (Except.ok.inj hsecond))
    exact ⟨⟨Nat.le_of_not_lt hfees, Nat.lt_of_not_le hoverflows⟩, hzero,
      hestimated.trans htoppedUp.symm⟩
  · rintro ⟨⟨hfees, hfits⟩, hne, heq⟩
    rw [if_neg (Nat.not_lt_of_le hfees), if_neg hne, if_neg (Nat.not_lt_of_le hfees),
      if_neg (Nat.not_le_of_lt hfits), heq]
    exact ⟨_, rfl, rfl⟩

theorem estimated_eq_toppedUp_iff {dailyCostCycles : ℕ} {icp : Tokens} {rate decimals : ℕ} :
    estimated dailyCostCycles icp rate decimals = toppedUp dailyCostCycles icp rate decimals ↔
      wrappingMul 128 (afterFees icp).e8s rate / estimateDivisor decimals =
          mintedCycles (afterFees icp) rate decimals ∧
        truncate 64 (wrappingAdd 128 (wrappingMul 128 (afterFees icp).e8s rate /
              estimateDivisor decimals) (dailyCostCycles / 2) / dailyCostCycles) =
          truncate 64 (secondsCharged dailyCostCycles (mintedCycles (afterFees icp) rate decimals) /
            secondsPerDay) := by
  unfold estimated toppedUp
  rw [TopUpSummary.mk.injEq]

/-- At the same price the estimate of an amount and the top-up with it return the same exactly when
the amount pays both fees and fits into what is recorded as paid, the decimals fit, and the days fit
the created cycles. -/
theorem estimate_agrees_iff {cycles : ℕ} {c : Configuration} {subnetId : Principal}
    {rentalAgreement : RentalAgreement} {icp : Tokens} {rate decimals : ℕ}
    (h : (system cycles).Reachable c)
    (hstored : c.state.canister.rentalAgreements[subnetId]? = some rentalAgreement)
    (hfree : agreementLock subnetId ∉ c.state.canister.locks)
    (hbalance : c.state.balance rentalAgreement.user = icp.e8s) (hfee : defaultFee ≤ icp)
    (hicp : icp.e8s < 2 ^ 64) (hrate : rate < 2 ^ 64) (hfour : 4 ≤ decimals)
    (havailable : RateAvailable rate decimals c.state.canister) :
    (∃ summary,
      service.Ensures (samePrice rate decimals) (.subnetTopUpEstimate subnetId icp) c.state
        (fun _ result ↦ result = .ok (.estimate (.ok summary))) ∧
      service.Ensures (samePrice rate decimals) (.topUpSubnet subnetId) c.state
        fun _ result ↦ result = .ok (.topUp (.ok summary))) ↔
      (2 * defaultFee.e8s ≤ icp.e8s ∧ rentalAgreement.totalIcpPaid.e8s + icp.e8s < 2 ^ 64) ∧
        DecimalsFit icp rate decimals ∧
          DaysFit (standardConditions rentalAgreement.rentalConditionId).dailyCostCycles
            (mintedCycles (afterFees icp) rate decimals) := by
  have hconditions :=
    (sound_of_reachable h).inv.consistent.conditions rentalAgreement.rentalConditionId
  have hroom := cycles_room rentalAgreement.rentalConditionId hicp hrate
  have hpositive := perSecond_pos rentalAgreement.rentalConditionId
  generalize hid : rentalAgreement.rentalConditionId = id at hconditions hroom hpositive ⊢
  subst hid
  have hdaily := (dailyCostCycles_pos rentalAgreement.rentalConditionId).ne'
  have hminted : mintedCycles (afterFees icp) rate decimals ≤ (afterFees icp).e8s * rate :=
    Nat.div_le_self _ _
  have hestimate := ensures_estimate hstored hfee hconditions hdaily havailable
  have htopUp := ensures_topUp rate decimals hstored hfree hbalance hfee hconditions
    hpositive.ne'
  rw [← cycles_agree_iff hfour ((Nat.le_add_right _ _).trans_lt hroom),
    ← daysAdded_eq_iff _ ((Nat.add_le_add_right hminted _).trans_lt hroom)]
  simp only [hestimate.result_iff, htopUp.result_iff]
  rw [sameSummary_iff, estimated_eq_toppedUp_iff, ← @and_assoc (_ ≠ _)]
  refine and_congr_right fun _ ↦ and_congr_right ?_
  rintro ⟨-, hcycles⟩
  rw [hcycles]

/-- A run to a rented subnet, after which the user pays 100 ICP more. -/
def payingRun : List Label := rentalRun ++ [.environment (.payIcp aliceCreation.user ⟨10 ^ 10⟩)]

/-- The configuration after that run, in which the balance pays 247 days and about a quarter. -/
def paidConfiguration : Configuration :=
  ((system (10 ^ 12)).perform (idle (installedWorld (10 ^ 12) fun _ ↦ 10 ^ 13)) payingRun).get
    (by decide +kernel)

theorem reachable_paidConfiguration : (system (10 ^ 12)).Reachable paidConfiguration :=
  System.reachable_get_perform (init_idle _ _) _

/-- The agreement of a configuration with a rented subnet. -/
theorem stored_of_isSome {c : Configuration} {subnetId : Principal}
    (h : (c.state.canister.rentalAgreements[subnetId]?).isSome) :
    c.state.canister.rentalAgreements[subnetId]? =
      some ((c.state.canister.rentalAgreements[subnetId]?).get h) :=
  (Option.some_get h).symm

theorem paidConfiguration_isSome :
    (paidConfiguration.state.canister.rentalAgreements[aliceCreation.subnetId]?).isSome := by
  decide +kernel

theorem rentedConfiguration_isSome :
    (rentedConfiguration.state.canister.rentalAgreements[aliceCreation.subnetId]?).isSome := by
  decide +kernel

/-- The subnet of that configuration is rented on the expensive condition. -/
theorem rentedConfiguration_condition :
    ((rentedConfiguration.state.canister.rentalAgreements[aliceCreation.subnetId]?).get
      rentedConfiguration_isSome).rentalConditionId = .app13CH := by
  decide +kernel

theorem rentedConfiguration_conditions :
    rentedConfiguration.state.canister.rentalConditions
      ((rentedConfiguration.state.canister.rentalAgreements[aliceCreation.subnetId]?).get
        rentedConfiguration_isSome).rentalConditionId = some (standardConditions .app13CH) := by
  rw [rentedConfiguration_condition]
  exact (sound_of_reachable reachable_rentedConfiguration).inv.consistent.conditions .app13CH

theorem estimate_agrees_paid :
    ∃ summary,
      service.Ensures (samePrice 3_500_000_000 9)
        (.subnetTopUpEstimate aliceCreation.subnetId ⟨5_792_857_142_858⟩) paidConfiguration.state
        (fun _ result ↦ result = .ok (.estimate (.ok summary))) ∧
      service.Ensures (samePrice 3_500_000_000 9) (.topUpSubnet aliceCreation.subnetId)
        paidConfiguration.state fun _ result ↦ result = .ok (.topUp (.ok summary)) :=
  (estimate_agrees_iff reachable_paidConfiguration (stored_of_isSome paidConfiguration_isSome)
    (by decide +kernel) (by decide +kernel) (by decide +kernel) (by decide +kernel)
    (by decide +kernel) (by decide) (.inl (by decide +kernel))).mpr
    ⟨⟨by decide, by decide +kernel⟩, .inl (by decide), by decide +kernel⟩

/-- The balance after the rental pays 246 days and more than four fifths of a day, for which the
estimate promises 247 days and the top-up gives 246. -/
theorem estimate_disagrees :
    ¬ ∃ summary,
      service.Ensures (samePrice 3_500_000_000 9)
        (.subnetTopUpEstimate aliceCreation.subnetId ⟨5_782_857_142_858⟩) rentedConfiguration.state
        (fun _ result ↦ result = .ok (.estimate (.ok summary))) ∧
      service.Ensures (samePrice 3_500_000_000 9) (.topUpSubnet aliceCreation.subnetId)
        rentedConfiguration.state fun _ result ↦ result = .ok (.topUp (.ok summary)) := by
  have hstored := stored_of_isSome rentedConfiguration_isSome
  have hfee : defaultFee ≤ (⟨5_782_857_142_858⟩ : Tokens) := by decide
  have havailable : RateAvailable 3_500_000_000 9 rentedConfiguration.state.canister :=
    .inl (by decide +kernel)
  have hestimate := ensures_estimate hstored hfee rentedConfiguration_conditions (by decide)
    havailable
  have htopUp := ensures_topUp 3_500_000_000 9 hstored (by decide +kernel) (by decide +kernel) hfee
    rentedConfiguration_conditions (by decide)
  rintro ⟨summary, hpromised, hgiven⟩
  rw [hestimate.result_iff] at hpromised
  rw [htopUp.result_iff] at hgiven
  unfold estimateResult at hpromised
  unfold topUpResult at hgiven
  rw [if_neg (by decide), if_neg (by decide +kernel)] at hpromised
  rw [if_neg (by decide), if_neg (by decide +kernel)] at hgiven
  simp only [Except.ok.injEq, Response.estimate.injEq, Response.topUp.injEq] at hpromised hgiven
  have hmore : (estimated (standardConditions .app13CH).dailyCostCycles ⟨5_782_857_142_858⟩
      3_500_000_000 9).daysAdded = 247 := by
    decide +kernel
  have hless : (toppedUp (standardConditions .app13CH).dailyCostCycles ⟨5_782_857_142_858⟩
      3_500_000_000 9).daysAdded = 246 := by
    decide +kernel
  rw [hpromised] at hmore
  rw [hgiven] at hless
  omega

end SubnetRental.Rates
