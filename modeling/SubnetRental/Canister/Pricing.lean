import SubnetRental.Canister.Calls

/-!
# Prices and estimates

`calculate_subnet_price`, the endpoint `get_todays_price` and `subnet_top_up_estimate`, segment by
segment. The unchecked operators wrap, as in a release build.
-/

set_option autoImplicit false
set_option relaxedAutoImplicit false

namespace SubnetRental.Canister

open Foundation.MachineInteger Foundation.GuardedCalls

def roundToPreviousMidnight (timeSecs : ℕ) : ℕ := timeSecs - timeSecs % 86400

/-- The price in ICP of the initial rental period at an exchange rate. The multiplications and
divisions are checked, the power and the final cast are not. -/
def calculateSubnetPrice (dailyCostCycles initialRentalPeriodDays scaledExchangeRateXdrPerIcp
    decimals : ℕ) : Except ExecuteProposalError Tokens :=
  let neededCycles := checkedMul 128 dailyCostCycles initialRentalPeriodDays
  let e8s := neededCycles
    |>.bind (checkedMul 128 · (wrappingPow 128 10 decimals))
    |>.bind (checkedDiv · scaledExchangeRateXdrPerIcp)
    |>.bind (checkedDiv · 10_000)
  match e8s with
  | none => .error (.priceCalculationError
      { dailyCostCycles, initialRentalPeriodDays, scaledExchangeRateXdrPerIcp, decimals })
  | some e8s => .ok ⟨truncate 64 e8s⟩

/-! ### `get_todays_price` -/

/-- The end of `get_todays_price`, with the guard it may hold. -/
def todaysPriceAfterRate (conditions : RentalConditions) (guards : Finset Lock) (rate : ℕ × ℕ)
    (s : State) : Segment :=
  let s := s.dropGuards guards
  match calculateSubnetPrice conditions.dailyCostCycles conditions.initialRentalPeriodDays
      rate.1 rate.2 with
  | .ok tokens => .reply s (.price (.ok tokens))
  | .error e => .reply s (.price (.error (.calculation e)))

def getTodaysPrice (id : RentalConditionId) (s : State) : Segment :=
  match s.getRentalConditions id with
  | none => .reply s (.price (.error .conditionNotFound))
  | some conditions =>
    let prevMidnight := roundToPreviousMidnight (s.now / billion)
    match s.getCachedRate prevMidnight with
    | some rate => todaysPriceAfterRate conditions ∅ rate s
    | none =>
      match s.callerGuard exchangeRateLock with
      | none => .reply s (.price (.error .lockNotAcquired))
      | some s =>
        match getExchangeRate s prevMidnight with
        | .cached rate => todaysPriceAfterRate conditions {exchangeRateLock} rate s
        | .calling s => .suspend s (.todaysPrice conditions prevMidnight)
        | .trap reason => .trap reason

/-- `get_todays_price` after the exchange rate canister answered. -/
def resumeTodaysPrice (conditions : RentalConditions) (prevMidnight : ℕ) (answer : Answer)
    (s : State) : Segment :=
  match receiveExchangeRate s prevMidnight answer with
  | .error reason => .trap reason
  | .ok (s, .error e) =>
    .reply (s.dropGuards {exchangeRateLock}) (.price (.error (.exchangeRate e)))
  | .ok (s, .ok rate) => todaysPriceAfterRate conditions {exchangeRateLock} rate s

/-! ### `subnet_top_up_estimate` -/

/-- The end of `subnet_top_up_estimate` once the fee of the user's own transfer is subtracted. The
fee of the transfer to the CMC is subtracted unchecked. -/
def estimateAfterFee (rentalAgreement : RentalAgreement) (toBeToppedUp : Tokens) (rate : ℕ × ℕ)
    (s : State) : Segment :=
  if toBeToppedUp < defaultFee then .trap .tokensUnderflow
  else
    let divisor := wrappingPow 128 10 rate.2 / 10_000
    if divisor = 0 then .trap .divisionByZero
    else
      let estimatedCycles :=
        wrappingMul 128 (toBeToppedUp - defaultFee).e8s rate.1 / divisor
      match s.getRentalConditions rentalAgreement.rentalConditionId with
      | none => .reply s (.estimate (.error .conditionNotFound))
      | some rentalCondition =>
        let daily := rentalCondition.dailyCostCycles
        if daily = 0 then .trap .divisionByZero
        else
          let estimatedDays :=
            truncate 64 (wrappingAdd 128 estimatedCycles (daily / 2) / daily)
          .reply s (.estimate (.ok { cyclesAdded := estimatedCycles, daysAdded := estimatedDays }))

/-- `subnet_top_up_estimate` once the exchange rate is known. -/
def estimateAfterRate (rentalAgreement : RentalAgreement) (icp : Tokens) (rate : ℕ × ℕ)
    (s : State) : Segment :=
  if icp < defaultFee then .reply s (.estimate (.error .belowFee))
  else estimateAfterFee rentalAgreement (icp - defaultFee) rate s

/-- The end of an estimate traps or replies, and it leaves the state as it is. -/
@[elab_as_elim]
theorem estimateAfterRate_elim {motive : Segment → Prop} {rentalAgreement : RentalAgreement}
    {icp : Tokens} {rate : ℕ × ℕ} {s : State} (underflow : motive (.trap .tokensUnderflow))
    (division : motive (.trap .divisionByZero))
    (reply : ∀ result, motive (.reply s (.estimate result))) :
    motive (estimateAfterRate rentalAgreement icp rate s) := by
  unfold estimateAfterRate
  split
  · exact reply _
  · generalize icp - defaultFee = toBeToppedUp
    unfold estimateAfterFee
    dsimp only
    split_ifs
    · exact underflow
    · exact division
    · split
      · exact reply _
      · split_ifs
        · exact division
        · exact reply _

def subnetTopUpEstimate (subnetId : Principal) (icp : Tokens) (s : State) : Segment :=
  match s.getRentalAgreement subnetId with
  | none => .reply s (.estimate (.error .agreementNotFound))
  | some rentalAgreement =>
    let prevMidnight := roundToPreviousMidnight (s.now / billion)
    match getExchangeRate s prevMidnight with
    | .cached rate => estimateAfterRate rentalAgreement icp rate s
    | .calling s => .suspend s (.estimateRate rentalAgreement icp prevMidnight)
    | .trap reason => .trap reason

/-- `subnet_top_up_estimate` after the exchange rate canister answered. -/
def resumeEstimate (rentalAgreement : RentalAgreement) (icp : Tokens) (prevMidnight : ℕ)
    (answer : Answer) (s : State) : Segment :=
  match receiveExchangeRate s prevMidnight answer with
  | .error reason => .trap reason
  | .ok (s, .error _) => .reply s (.estimate (.error .exchangeRate))
  | .ok (s, .ok rate) => estimateAfterRate rentalAgreement icp rate s

end SubnetRental.Canister
