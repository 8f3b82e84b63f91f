import SubnetRental.Canister.Requests

/-!
# The life of a rental agreement

`execute_create_rental_agreement` turns a request into an agreement, `top_up_subnet` extends it,
`burn_cycles` burns its cycles minute by minute, `update_subnet_admins` forwards administrator
changes to the registry, and the migration `app13ch_to_app7ch` reprices one agreement at an upgrade.
Each function is given segment by segment. A pass of `burn_cycles` awaits nothing: it is one
segment, and a trap in it undoes the pass for every agreement.
-/

set_option autoImplicit false
set_option relaxedAutoImplicit false

namespace SubnetRental.Canister

open Foundation.MachineInteger Foundation.GuardedCalls

/-! ### `execute_create_rental_agreement` -/

/-- The guards taken for the creation of an agreement. -/
def createGuards (payload : CreateRentalAgreementPayload) : Finset Lock :=
  {requestLock payload.user, ⟨payload.subnetId, .nns⟩}

/-- The end of `execute_create_rental_agreement_`. -/
def createReturns (payload : CreateRentalAgreementPayload)
    (result : Except ExecuteProposalError Unit) (s : State) : Segment :=
  .reply (s.dropGuards (createGuards payload)) (.executed result)

/-- `execute_create_rental_agreement_` after its checks, up to the conversion of the remaining
ICP. -/
def beginCreateConvert (payload : CreateRentalAgreementPayload) (rentalRequest : RentalRequest)
    (rentalCondition : RentalConditions) (s : State) : Segment :=
  let initialRentalPeriodNanos :=
    wrappingMul 64 (wrappingMul 64 rentalCondition.initialRentalPeriodDays secondsPerDay) billion
  if rentalRequest.initialCostIcp < rentalRequest.lockedAmountIcp then .trap .tokensUnderflow
  else
    let remainingIcp := rentalRequest.initialCostIcp - rentalRequest.lockedAmountIcp
    beginConvert remainingIcp
      (.createConvert payload rentalRequest initialRentalPeriodNanos remainingIcp .transfer) s

def executeCreateRentalAgreement (caller : Principal) (payload : CreateRentalAgreementPayload)
    (s : State) : Segment :=
  if caller ≠ governanceCanisterId then .reply s (.executed (.error .unauthorizedCaller))
  else
    match s.callerGuard (requestLock payload.user) with
    | none => .trap .concurrentCall
    | some s =>
      match s.callerGuard ⟨payload.subnetId, .nns⟩ with
      | none => .trap .concurrentCall
      | some s =>
        match s.getRentalRequest payload.user with
        | none => createReturns payload (.error .rentalRequestNotFound) s
        | some rentalRequest =>
          if (s.getRentalAgreement payload.subnetId).isSome then
            createReturns payload (.error .subnetAlreadyRented) s
          else
            match s.getRentalConditions rentalRequest.rentalConditionId with
            | none => .trap .rentalConditionsNotFound
            | some rentalCondition => beginCreateConvert payload rentalRequest rentalCondition s

/-- Whatever holds of the traps and of the first await holds of the beginning of the conversion. -/
@[elab_as_elim]
theorem beginCreateConvert_elim {motive : Segment → Prop} {payload : CreateRentalAgreementPayload}
    {rentalRequest : RentalRequest} {rentalCondition : RentalConditions} {s : State}
    (underflow : motive (.trap .tokensUnderflow))
    (transfer : rentalRequest.lockedAmountIcp ≤ rentalRequest.initialCostIcp →
      defaultFee ≤ rentalRequest.initialCostIcp - rentalRequest.lockedAmountIcp →
      motive (.suspend s (.createConvert payload rentalRequest
        (wrappingMul 64 (wrappingMul 64 rentalCondition.initialRentalPeriodDays secondsPerDay)
          billion)
        (rentalRequest.initialCostIcp - rentalRequest.lockedAmountIcp) .transfer))) :
    motive (beginCreateConvert payload rentalRequest rentalCondition s) := by
  unfold beginCreateConvert
  split
  · exact underflow
  · rename_i hless
    exact beginConvert_elim underflow fun hfee ↦ transfer (Nat.le_of_not_lt hless) hfee

/-- `execute_create_rental_agreement_` after the conversion of the remaining ICP. -/
def createAfterConvert (payload : CreateRentalAgreementPayload) (rentalRequest : RentalRequest)
    (initialRentalPeriodNanos : ℕ) (remainingIcp : Tokens) (s : State) :
    Except ExecuteProposalError (ℕ × ℕ) → Segment
  | .error e => createReturns payload (.error e) s
  | .ok (blockIndex, convertedCycles) =>
    let s := s.persistEvent (.transferSuccess remainingIcp blockIndex) (some payload.user)
    let rentalAgreement : RentalAgreement :=
      { user := payload.user
        subnetId := payload.subnetId
        rentalRequestProposalId := rentalRequest.initialProposalId
        subnetCreationProposalId := some payload.proposalId
        rentalConditionId := rentalRequest.rentalConditionId
        creationTimeNanos := s.now
        paidUntilNanos := wrappingAdd 64 s.now initialRentalPeriodNanos
        totalIcpPaid := rentalRequest.initialCostIcp
        totalCyclesCreated := saturatingAdd 128 convertedCycles rentalRequest.lockedAmountCycles
        totalCyclesBurned := 0 }
    .suspend s (.createAuthorize payload rentalRequest rentalAgreement)

def resumeCreateConvert (payload : CreateRentalAgreementPayload) (rentalRequest : RentalRequest)
    (initialRentalPeriodNanos : ℕ) (remainingIcp : Tokens) (stage : ConvertStage) (answer : Answer)
    (s : State) : Segment :=
  match convertIcpToCycles stage answer with
  | .trap reason => .trap reason
  | .await stage =>
    .suspend s (.createConvert payload rentalRequest initialRentalPeriodNanos remainingIcp stage)
  | .done result =>
    createAfterConvert payload rentalRequest initialRentalPeriodNanos remainingIcp s result

/-- `execute_create_rental_agreement_` after the CMC was told about the subnet. The answer of the
CMC is not decoded. -/
def resumeCreateAuthorize (payload : CreateRentalAgreementPayload)
    (rentalAgreement : RentalAgreement) (answer : Answer) (s : State) : Segment :=
  match answer with
  | .callFailed _ => .trap .callFailed
  | _ =>
    match s.removeRentalRequest payload.user with
    | none => .trap .removeRentalRequest
    | some s =>
      match s.persistRentalAgreement rentalAgreement with
      | none => .trap .persistRentalAgreement
      | some s => createReturns payload (.ok ()) s

/-! ### `top_up_subnet` -/

/-- The guard taken for the agreement of a subnet. -/
def agreementLock (subnetId : Principal) : Lock := ⟨subnetId, .agreement⟩

/-- The end of `top_up_subnet`. -/
def topUpReturns (subnetId : Principal) (result : Except TopUpError TopUpSummary) (s : State) :
    Segment :=
  .reply (s.dropGuards {agreementLock subnetId}) (.topUp result)

/-- The end of `top_up_subnet` with an error, which it records. -/
def topUpFailed (subnetId : Principal) (rentalAgreement : RentalAgreement) (e : TopUpError)
    (s : State) : Segment :=
  topUpReturns subnetId (.error e)
    (s.persistEvent (.subnetTopUpFailed rentalAgreement.user e) (some subnetId))

def topUpSubnet (subnetId : Principal) (s : State) : Segment :=
  match s.callerGuard (agreementLock subnetId) with
  | none => .reply s (.topUp (.error .concurrentCall))
  | some s =>
    match s.getRentalAgreement subnetId with
    | none => topUpReturns subnetId (.error .agreementNotFound) s
    | some rentalAgreement => .suspend s (.topUpBalance subnetId rentalAgreement)

/-- `top_up_subnet` after the ledger told the balance. -/
def resumeTopUpBalance (subnetId : Principal) (rentalAgreement : RentalAgreement)
    (answer : Answer) (s : State) : Segment :=
  match answer with
  | .accountBalance userIcpBalance =>
    if userIcpBalance < defaultFee then
      topUpFailed subnetId rentalAgreement
        (.insufficientFunds rentalAgreement.user userIcpBalance) s
    else
      let icpAmountForCycles := userIcpBalance - defaultFee
      beginConvert icpAmountForCycles
        (.topUpConvert subnetId rentalAgreement userIcpBalance icpAmountForCycles .transfer) s
  | .callFailed _ => .trap .callFailed
  | _ => .trap .decodeFailed

/-- The seconds that `actual_cycles` pay for at a daily cost. -/
def secondsCharged (dailyCostCycles actualCycles : ℕ) : ℕ :=
  actualCycles / (dailyCostCycles / secondsPerDay)

/-- The deadline `top_up_subnet` computes. -/
def newPaidUntilNanos (paidUntilNanos secondsCharged : ℕ) : ℕ :=
  let nanosCharged := saturatingMul 128 secondsCharged billion
  (checkedCast 64 (saturatingAdd 128 paidUntilNanos nanosCharged)).getD (maxValue 64)

/-- The addition to `total_icp_paid` of the stored agreement exceeds 64 bits. -/
def icpPaidOverflows (subnetId : Principal) (userIcpBalance : Tokens) (s : State) : Bool :=
  (s.getRentalAgreement subnetId).any fun agreement ↦
    2 ^ 64 ≤ (agreement.totalIcpPaid + userIcpBalance).e8s

theorem icpPaidOverflows_of_stored {subnetId : Principal} {stored : RentalAgreement} {s : State}
    (h : s.rentalAgreements[subnetId]? = some stored) (userIcpBalance : Tokens) :
    icpPaidOverflows subnetId userIcpBalance s =
      decide (2 ^ 64 ≤ stored.totalIcpPaid.e8s + userIcpBalance.e8s) := by
  unfold icpPaidOverflows State.getRentalAgreement
  rw [h]
  rfl

/-- `top_up_subnet` after the conversion: the new cycles come from the copy of the agreement. -/
def topUpAfterConvert (subnetId : Principal) (rentalAgreement : RentalAgreement)
    (userIcpBalance icpAmountForCycles : Tokens) (s : State) :
    Except ExecuteProposalError (ℕ × ℕ) → Segment
  | .error e => topUpFailed subnetId rentalAgreement (.conversionFailed e) s
  | .ok (blockIndex, actualCycles) =>
    let s := s.persistEvent (.transferSuccess icpAmountForCycles blockIndex) (some subnetId)
    match s.getRentalConditions rentalAgreement.rentalConditionId with
    | none => .trap .rentalConditionsNotFound
    | some conditions =>
      if conditions.dailyCostCycles / secondsPerDay = 0 then .trap .divisionByZero
      else
        let secondsCharged := secondsCharged conditions.dailyCostCycles actualCycles
        let newPaidUntil := newPaidUntilNanos rentalAgreement.paidUntilNanos secondsCharged
        let newTotalCyclesCreated :=
          saturatingAdd 128 rentalAgreement.totalCyclesCreated actualCycles
        let daysAdded := truncate 64 (secondsCharged / secondsPerDay)
        if icpPaidOverflows subnetId userIcpBalance s then .trap .tokensOverflow
        else
          match s.updateRentalAgreement subnetId fun agreement ↦
              { agreement with
                totalCyclesCreated := newTotalCyclesCreated
                totalIcpPaid := agreement.totalIcpPaid + userIcpBalance
                paidUntilNanos := newPaidUntil } with
          | none => .trap .updateRentalAgreement
          | some s =>
            let s := s.persistEvent (.subnetTopUp rentalAgreement.user userIcpBalance actualCycles
              daysAdded newPaidUntil) (some subnetId)
            topUpReturns subnetId (.ok { cyclesAdded := actualCycles, daysAdded }) s

def resumeTopUpConvert (subnetId : Principal) (rentalAgreement : RentalAgreement)
    (userIcpBalance icpAmountForCycles : Tokens) (stage : ConvertStage) (answer : Answer)
    (s : State) : Segment :=
  match convertIcpToCycles stage answer with
  | .trap reason => .trap reason
  | .await stage =>
    .suspend s (.topUpConvert subnetId rentalAgreement userIcpBalance icpAmountForCycles stage)
  | .done result =>
    topUpAfterConvert subnetId rentalAgreement userIcpBalance icpAmountForCycles s result

/-! ### `burn_cycles` -/

def cyclesBurnIntervalSeconds : ℕ := 60

/-- Cycles created and not yet burned. -/
def RentalAgreement.cyclesRemaining (a : RentalAgreement) : ℕ :=
  a.totalCyclesCreated - a.totalCyclesBurned

/-- Burns up to `amount` and records what was burned for the agreement of a subnet. A failed record
is only logged. -/
def burnFor (subnetId : Principal) (amount : ℕ) (s : State) : ℕ × State :=
  let (burned, s) := s.cyclesBurn amount
  match s.updateRentalAgreement subnetId fun agreement ↦
      { agreement with
        totalCyclesBurned := saturatingAdd 128 agreement.totalCyclesBurned burned } with
  | none => (burned, s)
  | some s => (burned, s)

/-- The body of the loop of `burn_cycles` under the guard of the agreement: what was burned, if
anything, and the state after it. -/
def burnGuarded (subnetId : Principal) (s : State) : Except Trap (List (Principal × ℕ) × State) :=
  match s.getRentalAgreement subnetId with
  | none => .ok ([], s)
  | some rentalAgreement =>
    let totalCyclesRemaining := rentalAgreement.cyclesRemaining
    let paidUntilNanos := rentalAgreement.paidUntilNanos
    if totalCyclesRemaining = 0 then .ok ([], s)
    else if paidUntilNanos ≤ s.now then
      let (burned, s) := burnFor subnetId totalCyclesRemaining s
      .ok ([(subnetId, burned)], s)
    else
      let timeRemainingSeconds := (paidUntilNanos - s.now) / billion
      if timeRemainingSeconds = 0 then .error .divisionByZero
      else
        let amountToBurnPerMinute := wrappingMul 128
          (totalCyclesRemaining / timeRemainingSeconds) cyclesBurnIntervalSeconds
        let (burned, s) := burnFor subnetId (min amountToBurnPerMinute totalCyclesRemaining) s
        .ok ([(subnetId, burned)], s)

/-- The body of the loop of `burn_cycles` for one agreement of the snapshot, which is skipped while
its guard is held. -/
def burnOne (subnetId : Principal) (s : State) : Except Trap (List (Principal × ℕ) × State) :=
  match s.callerGuard (agreementLock subnetId) with
  | none => .ok ([], s)
  | some s =>
    match burnGuarded subnetId s with
    | .error reason => .error reason
    | .ok (burned, s) => .ok (burned, s.dropGuards {agreementLock subnetId})

/-- The loop of `burn_cycles` over the subnets of its snapshot. -/
def burnLoop : List Principal → State → Except Trap (List (Principal × ℕ) × State)
  | [], s => .ok ([], s)
  | subnetId :: rest, s =>
    match burnOne subnetId s with
    | .error reason => .error reason
    | .ok (burned, s) =>
      match burnLoop rest s with
      | .error reason => .error reason
      | .ok (burnedRest, s) => .ok (burned ++ burnedRest, s)

/-- `burn_cycles` as a function on the state. -/
def burnPass (s : State) : Except Trap (List (Principal × ℕ) × State) :=
  burnLoop (s.iterRentalAgreements.map fun entry ↦ entry.2.subnetId) s

def burnCycles (s : State) : Segment :=
  match burnPass s with
  | .error reason => .trap reason
  | .ok (burned, s) => .reply s (.burned burned)

/-! ### `update_subnet_admins` -/

/-- The end of `update_subnet_admins`. -/
def subnetAdminsReturns (subnetId : Principal) (result : Except UpdateSubnetAdminsError Unit)
    (s : State) : Segment :=
  .reply (s.dropGuards {agreementLock subnetId}) (.subnetAdmins result)

/-- `verify_caller_is_renting_subnet`. -/
def isRentingSubnet (caller subnetId : Principal) (s : State) : Bool :=
  s.iterRentalAgreements.any fun entry ↦ entry.2.user = caller ∧ entry.2.subnetId = subnetId

def updateSubnetAdmins (caller : Principal) (payload : UpdateSubnetAdminsPayload) (s : State) :
    Segment :=
  let subnetId := payload.subnetId
  if ¬ isRentingSubnet caller subnetId s then
    .reply s (.subnetAdmins (.error .callerNotRentingSubnet))
  else
    match s.callerGuard (agreementLock subnetId) with
    | none => .reply s (.subnetAdmins (.error .concurrentChange))
    | some s =>
      match payload.operationType with
      | none => subnetAdminsReturns subnetId (.error .unknownOperationType) s
      | some (.add principals) | some (.remove principals) =>
        if principals.isEmpty then subnetAdminsReturns subnetId (.error .principalListEmpty) s
        else .suspend s (.subnetAdmins payload)
      | some .clear => .suspend s (.subnetAdmins payload)

/-- `update_subnet_admins` after the registry answered. -/
def resumeSubnetAdmins (payload : UpdateSubnetAdminsPayload) (answer : Answer) (s : State) :
    Segment :=
  match answer with
  | .callFailed text => subnetAdminsReturns payload.subnetId (.error (.registryError text)) s
  | _ => subnetAdminsReturns payload.subnetId (.ok ()) s

/-! ### Installation and upgrade -/

def swissNodesDescription : String := "All nodes must be in Switzerland or Liechtenstein."

def initialRentalPeriodDays : ℕ := 180

/-- The rental conditions of `set_initial_conditions`. -/
def initialConditions : List (RentalConditionId × RentalConditions) :=
  [(.app13CH,
      { description := swissNodesDescription
        subnetId := none
        dailyCostCycles := 820 * trillion
        initialRentalPeriodDays }),
    (.app7CH,
      { description := swissNodesDescription
        subnetId := none
        dailyCostCycles := 440 * trillion
        initialRentalPeriodDays })]

def setInitialConditions (s : State) : State :=
  initialConditions.foldl (fun s entry ↦
    (s.insertRentalCondition entry.1 entry.2).persistEvent
      (.rentalConditionsChanged entry.1 (some entry.2)) none) s

/-- How long `cycles_remaining` last, as a deadline from `now_nanos`. -/
def reprice (cyclesRemaining dailyCostCycles nowNanos : ℕ) : ℕ :=
  let costCyclesPerSecond := dailyCostCycles / secondsPerDay
  if costCyclesPerSecond = 0 then maxValue 64
  else
    let secondsCovered := cyclesRemaining / costCyclesPerSecond
    match checkedCast 64 (saturatingMul 128 secondsCovered billion) with
    | none => maxValue 64
    | some nanos => saturatingAdd 64 nowNanos nanos

/-- The migration that moves the agreement of the target subnet to the cheaper condition. -/
def app13chToApp7ch (s : State) : State :=
  match s.getRentalAgreement targetSubnet with
  | none => s
  | some agreement =>
    if agreement.rentalConditionId ≠ .app13CH then s
    else
      match s.getRentalConditions .app7CH with
      | none => s
      | some newConditions =>
        let cyclesRemaining := agreement.cyclesRemaining
        let newPaidUntil := reprice cyclesRemaining newConditions.dailyCostCycles s.now
        match s.updateRentalAgreement targetSubnet fun agreement ↦
            { agreement with rentalConditionId := .app7CH, paidUntilNanos := newPaidUntil } with
        | none => s
        | some s =>
          s.persistEvent
            (.rentalConditionSwitched agreement.user .app13CH .app7CH cyclesRemaining
              agreement.paidUntilNanos newPaidUntil)
            (some targetSubnet)

/-- `post_upgrade`: the cells on the heap start empty, the stable maps keep their contents. -/
def postUpgrade (s : State) : State :=
  app13chToApp7ch (setInitialConditions { s with rentalConditions := fun _ ↦ none, locks := ∅ })

/-- The state after `init`, with an initial balance at a time. -/
def install (cycles now reserve : ℕ) : State :=
  setInitialConditions
    { rentalConditions := fun _ ↦ none
      locks := ∅
      rentalRequests := ∅
      rentalAgreements := ∅
      eventCounters := ∅
      history := ∅
      rates := ∅
      now
      cycles
      reserve
      exchangeRateCalls := 0 }

end SubnetRental.Canister
