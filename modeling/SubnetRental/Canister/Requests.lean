import SubnetRental.Canister.Pricing

/-!
# The life of a rental request

`execute_rental_request_proposal` creates a request and locks the first tenth of its cost,
`locking` locks a further tenth every 30 days, and `refund` cancels the request and returns the rest
of the ICP. Each function is given segment by segment.

`locking` runs over a snapshot of all requests that is taken before its first await, and takes the
guard of a user when it reaches that user. The request that it converts for, and whose copy it
writes back, is the one in the snapshot.
-/

set_option autoImplicit false
set_option relaxedAutoImplicit false

namespace SubnetRental.Canister

open Foundation.MachineInteger Foundation.GuardedCalls

/-! ### `execute_rental_request_proposal` -/

/-- The guard taken for a user's request. -/
def requestLock (user : Principal) : Lock := ⟨user, .request⟩

/-- The end of `execute_rental_request_proposal_` with an error, which it records. -/
def rentalRequestFailed (payload : SubnetRentalProposalPayload) (e : ExecuteProposalError)
    (s : State) : Segment :=
  let s := s.persistEvent (.rentalRequestFailed payload.user payload.proposalId e)
    (some payload.user)
  .reply (s.dropGuards {requestLock payload.user}) (.executed (.error e))

/-- `execute_rental_request_proposal_` once the exchange rate is known. -/
def rentalRequestAfterRate (payload : SubnetRentalProposalPayload) (conditions : RentalConditions)
    (rate : ℕ × ℕ) (s : State) : Segment :=
  match calculateSubnetPrice conditions.dailyCostCycles conditions.initialRentalPeriodDays
      rate.1 rate.2 with
  | .error e => rentalRequestFailed payload e s
  | .ok neededIcp => .suspend s (.rentalRequestBalance payload neededIcp)

def executeRentalRequestProposal (caller : Principal) (payload : SubnetRentalProposalPayload)
    (s : State) : Segment :=
  if caller ≠ governanceCanisterId then .reply s (.executed (.error .unauthorizedCaller))
  else
    match s.callerGuard (requestLock payload.user) with
    | none => .trap .concurrentCall
    | some s =>
      if (s.getRentalRequest payload.user).isSome then
        rentalRequestFailed payload .userAlreadyRequestingSubnetRental s
      else if s.iterRentalAgreements.any fun entry ↦ entry.2.user = payload.user then
        rentalRequestFailed payload .userAlreadyHasAgreement s
      else
        match s.getRentalConditions payload.rentalConditionId with
        | none => .trap .rentalConditionsNotFound
        | some conditions =>
          if conditions.subnetId.any fun subnetId ↦ (s.getRentalAgreement subnetId).isSome then
            rentalRequestFailed payload .subnetAlreadyRented s
          else if s.iterRentalRequests.any
              fun entry ↦ entry.2.rentalConditionId = payload.rentalConditionId then
            rentalRequestFailed payload .subnetAlreadyRequested s
          else
            let exchangeRateQueryTime :=
              roundToPreviousMidnight payload.proposalCreationTimeSeconds
            match getExchangeRate s exchangeRateQueryTime with
            | .cached rate => rentalRequestAfterRate payload conditions rate s
            | .calling s =>
              .suspend s (.rentalRequestRate payload conditions exchangeRateQueryTime)
            | .trap reason => .trap reason

/-- `execute_rental_request_proposal_` after the exchange rate canister answered. -/
def resumeRentalRequestRate (payload : SubnetRentalProposalPayload) (conditions : RentalConditions)
    (exchangeRateQueryTime : ℕ) (answer : Answer) (s : State) : Segment :=
  match receiveExchangeRate s exchangeRateQueryTime answer with
  | .error reason => .trap reason
  | .ok (s, .error e) => rentalRequestFailed payload (.callXrcFailed e) s
  | .ok (s, .ok rate) => rentalRequestAfterRate payload conditions rate s

/-- `execute_rental_request_proposal_` after the ledger told the balance. -/
def resumeRentalRequestBalance (payload : SubnetRentalProposalPayload) (neededIcp : Tokens)
    (answer : Answer) (s : State) : Segment :=
  match answer with
  | .accountBalance availableIcp =>
    if availableIcp < neededIcp then
      rentalRequestFailed payload (.insufficientFunds availableIcp neededIcp) s
    else
      let lockAmountIcp : Tokens := ⟨neededIcp.e8s / 10⟩
      beginConvert lockAmountIcp (.rentalRequestConvert payload neededIcp lockAmountIcp .transfer) s
  | .callFailed _ => .trap .callFailed
  | _ => .trap .decodeFailed

/-- `execute_rental_request_proposal_` after the conversion of the first tenth. -/
def rentalRequestAfterConvert (payload : SubnetRentalProposalPayload)
    (neededIcp lockAmountIcp : Tokens) (s : State) :
    Except ExecuteProposalError (ℕ × ℕ) → Segment
  | .error e => rentalRequestFailed payload e s
  | .ok (blockIndex, lockedCycles) =>
    let s := s.persistEvent (.transferSuccess lockAmountIcp blockIndex) (some payload.user)
    let rentalRequest : RentalRequest :=
      { user := payload.user
        initialCostIcp := neededIcp
        lockedAmountIcp := lockAmountIcp
        lockedAmountCycles := lockedCycles
        initialProposalId := payload.proposalId
        creationTimeNanos := s.now
        rentalConditionId := payload.rentalConditionId
        lastLockingTimeNanos := s.now }
    match s.persistRentalRequest rentalRequest with
    | none => .trap .persistRentalRequest
    | some s => .reply (s.dropGuards {requestLock payload.user}) (.executed (.ok ()))

def resumeRentalRequestConvert (payload : SubnetRentalProposalPayload)
    (neededIcp lockAmountIcp : Tokens) (stage : ConvertStage) (answer : Answer) (s : State) :
    Segment :=
  match convertIcpToCycles stage answer with
  | .trap reason => .trap reason
  | .await stage => .suspend s (.rentalRequestConvert payload neededIcp lockAmountIcp stage)
  | .done result => rentalRequestAfterConvert payload neededIcp lockAmountIcp s result

/-! ### `locking` -/

/-- Whole days since ICP were last locked for a request. -/
def RentalRequest.daysSinceLastLocking (nowNanos : ℕ) (r : RentalRequest) : ℕ :=
  wrappingSub 64 nowNanos r.lastLockingTimeNanos / billion / 60 / 60 / 24

/-- A tenth of the initial cost. -/
def RentalRequest.tenPercentIcp (r : RentalRequest) : Tokens := ⟨r.initialCostIcp.e8s / 10⟩

/-- Ten tenths are locked. -/
def RentalRequest.FullyLocked (r : RentalRequest) : Prop :=
  (⟨wrappingMul 64 r.tenPercentIcp.e8s 10⟩ : Tokens) ≤ r.lockedAmountIcp

instance (r : RentalRequest) : Decidable r.FullyLocked := inferInstanceAs (Decidable (_ ≤ _))

/-- `locking` converts for a request when its last locking is at least 30 days ago and it is not
fully locked. -/
def RentalRequest.Due (nowNanos : ℕ) (r : RentalRequest) : Prop :=
  30 ≤ r.daysSinceLastLocking nowNanos ∧ ¬ r.FullyLocked

instance (nowNanos : ℕ) (r : RentalRequest) : Decidable (r.Due nowNanos) :=
  inferInstanceAs (Decidable (_ ∧ _))

/-- The sum of the locked ICP and a further tenth exceeds 64 bits. -/
def RentalRequest.lockedIcpOverflows (tenPercentIcp : Tokens) (r : RentalRequest) : Bool :=
  2 ^ 64 ≤ (r.lockedAmountIcp + tenPercentIcp).e8s

/-- The request `locking` writes back after a conversion. -/
def RentalRequest.afterLocking (nowNanos : ℕ) (tenPercentIcp : Tokens) (lockedCycles : ℕ)
    (r : RentalRequest) : RentalRequest :=
  { r with
    lockedAmountIcp := r.lockedAmountIcp + tenPercentIcp
    lockedAmountCycles := wrappingAdd 128 r.lockedAmountCycles lockedCycles
    lastLockingTimeNanos := nowNanos }

/-- The loop of `locking` over the rest of its snapshot, up to the next conversion. -/
def lockingLoop (nowNanos : ℕ) : List RentalRequest → State → Segment
  | [], s => .reply s .locked
  | rentalRequest :: rest, s =>
    if rentalRequest.Due nowNanos then
      match s.callerGuard (requestLock rentalRequest.user) with
      | none => lockingLoop nowNanos rest s
      | some s =>
        beginConvert rentalRequest.tenPercentIcp
          (.lockingConvert nowNanos rentalRequest rentalRequest.tenPercentIcp rest .transfer) s
    else lockingLoop nowNanos rest s

def locking (s : State) : Segment :=
  lockingLoop s.now (s.iterRentalRequests.map Prod.snd) s

/-- `locking` after a conversion: the result is recorded, the guard of the user is dropped and the
loop goes on. -/
def lockingAfterConvert (nowNanos : ℕ) (rentalRequest : RentalRequest) (tenPercentIcp : Tokens)
    (rest : List RentalRequest) (s : State) : Except ExecuteProposalError (ℕ × ℕ) → Segment
  | .error e =>
    let user := rentalRequest.user
    let s := s.persistEvent (.lockingFailure user e) (some user)
    lockingLoop nowNanos rest (s.dropGuards {requestLock user})
  | .ok (blockIndex, lockedCycles) =>
    let user := rentalRequest.user
    let s := s.persistEvent (.transferSuccess tenPercentIcp blockIndex) (some user)
    let s := s.persistEvent (.lockingSuccess user tenPercentIcp lockedCycles) (some user)
    if rentalRequest.lockedIcpOverflows tenPercentIcp then .trap .tokensOverflow
    else
      let newRentalRequest := rentalRequest.afterLocking nowNanos tenPercentIcp lockedCycles
      match s.updateRentalRequest user fun _ ↦ newRentalRequest with
      | none => .trap .updateRentalRequest
      | some s => lockingLoop nowNanos rest (s.dropGuards {requestLock user})

def resumeLockingConvert (nowNanos : ℕ) (rentalRequest : RentalRequest) (tenPercentIcp : Tokens)
    (rest : List RentalRequest) (stage : ConvertStage) (answer : Answer) (s : State) : Segment :=
  match convertIcpToCycles stage answer with
  | .trap reason => .trap reason
  | .await stage =>
    .suspend s (.lockingConvert nowNanos rentalRequest tenPercentIcp rest stage)
  | .done result => lockingAfterConvert nowNanos rentalRequest tenPercentIcp rest s result

/-! ### `refund` -/

/-- The end of `refund`, with both of its guards. -/
def refundReturns (caller : Principal) (result : Except RefundError ℕ) (s : State) : Segment :=
  .reply (s.dropGuards {refundLock, requestLock caller}) (.refunded result)

def refund (caller : Principal) (s : State) : Segment :=
  match s.callerGuard refundLock with
  | none => .reply s (.refunded (.error .busy))
  | some s =>
    match s.callerGuard (requestLock caller) with
    | none => .reply (s.dropGuards {refundLock}) (.refunded (.error .busy))
    | some s => .suspend s (.refundBalance caller)

/-- `refund` after the ledger told the balance. -/
def resumeRefundBalance (caller : Principal) (answer : Answer) (s : State) : Segment :=
  match answer with
  | .accountBalance balance =>
    if balance < defaultFee then
      refundReturns caller (.error (.insufficientFunds caller balance)) s
    else .suspend s (.refundTransfer caller (balance - defaultFee))
  | .callFailed _ => .trap .callFailed
  | _ => .trap .decodeFailed

/-- `refund` after the transfer to the user: a request of the user is cancelled and its locked
cycles are burned. -/
def resumeRefundTransfer (caller : Principal) (toBeRefunded : Tokens) (answer : Answer)
    (s : State) : Segment :=
  match answer with
  | .transfer (.error e) =>
    refundReturns caller (.error (.transferFailed toBeRefunded caller e)) s
  | .transfer (.ok blockId) =>
    let s := s.persistEvent (.transferSuccess toBeRefunded blockId) (some caller)
    match s.getRentalRequest caller with
    | none => refundReturns caller (.ok blockId) s
    | some rentalRequest =>
      let (_, s) := s.cyclesBurn rentalRequest.lockedAmountCycles
      match s.removeRentalRequest caller with
      | none => .trap .removeRentalRequest
      | some s =>
        let s := s.persistEvent (.rentalRequestCancelled rentalRequest) (some caller)
        refundReturns caller (.ok blockId) s
  | .callFailed _ => .trap .callFailed
  | _ => .trap .decodeFailed

end SubnetRental.Canister
