import SubnetRental.Canister.CanisterState
import SubnetRental.Foundation.GuardedCalls

/-!
# Operations, suspended positions and calls to other canisters

The endpoints and timers (`Operation`), the positions at which each of them awaits another canister
with the local variables that are live there (`Frame`), the requests sent (`OutgoingCall`) and the
answers (`Answer`). A segment of an endpoint is a function from the state to an `Outcome`.

`external_calls.rs` is here as well. `convertIcpToCycles` is the two-step conversion that four
endpoints share: a ledger transfer to the CMC, then `notify_top_up`. Each endpoint that converts
keeps the `ConvertStage` in its frame.
-/

set_option autoImplicit false
set_option relaxedAutoImplicit false

namespace SubnetRental.Canister

open Foundation.GuardedCalls

/-- The update endpoints with their caller where it matters, and the two timers. -/
inductive Operation
  | getTodaysPrice (id : RentalConditionId)
  | executeRentalRequestProposal (caller : Principal) (payload : SubnetRentalProposalPayload)
  | executeCreateRentalAgreement (caller : Principal) (payload : CreateRentalAgreementPayload)
  | refund (caller : Principal)
  | subnetTopUpEstimate (subnetId : Principal) (icp : Tokens)
  | topUpSubnet (subnetId : Principal)
  | updateSubnetAdmins (caller : Principal) (payload : UpdateSubnetAdminsPayload)
  | locking
  | burnCycles
  deriving DecidableEq

/-- What a call that does not trap returns. The two timers return nothing in the source; for
`burnCycles` this is what its calls of `cycles_burn` returned, by subnet. -/
inductive Response
  | price (result : Except PriceError Tokens)
  | executed (result : Except ExecuteProposalError Unit)
  | refunded (result : Except RefundError ℕ)
  | estimate (result : Except EstimateError TopUpSummary)
  | topUp (result : Except TopUpError TopUpSummary)
  | subnetAdmins (result : Except UpdateSubnetAdminsError Unit)
  | locked
  | burned (amounts : List (Principal × ℕ))
  deriving DecidableEq

/-- Why a segment traps. -/
inductive Trap
  /-- `expect("Fatal: Concurrent call")` -/
  | concurrentCall
  /-- `expect("Fatal: Rental conditions not found")` -/
  | rentalConditionsNotFound
  /-- `expect("Failed to call ..")` -/
  | callFailed
  /-- `expect("Failed to decode result")` -/
  | decodeFailed
  /-- More cycles are attached to a call than the canister holds above its reserve. -/
  | insufficientCycles
  | divisionByZero
  /-- A sum of tokens exceeds 64 bits. -/
  | tokensOverflow
  /-- A difference of tokens is negative. -/
  | tokensUnderflow
  /-- `persist_rental_request(..).unwrap()` -/
  | persistRentalRequest
  /-- `update_rental_request(..).unwrap()` -/
  | updateRentalRequest
  /-- `remove_rental_request(..).unwrap()` -/
  | removeRentalRequest
  /-- `persist_rental_agreement(..).unwrap()` -/
  | persistRentalAgreement
  /-- `update_rental_agreement(..).unwrap()` -/
  | updateRentalAgreement
  deriving DecidableEq

/-! ### Requests and answers -/

/-- Requests to other canisters. Accounts of the canister are named by the user whose subaccount
they are. -/
inductive OutgoingCall
  | accountBalance (subaccount : Principal)
  | transferToCmc (amount : Tokens) (source : Principal)
  | refundUser (userPrincipal : Principal) (amount : Tokens)
  | notifyTopUp (blockIndex : ℕ)
  | getExchangeRate (timestamp : ℕ)
  | setAuthorizedSubnetworkList (who : Principal) (subnets : List Principal)
  | updateSubnetAdmins (payload : UpdateSubnetAdminsPayload)
  deriving DecidableEq

/-- Answers to requests; `callFailed` is a call that fails as such, with the text of its error. -/
inductive Answer
  | accountBalance (balance : Tokens)
  | transfer (result : Except TransferError ℕ)
  | notifyTopUp (result : Except NotifyError ℕ)
  | exchangeRate (result : Except ExchangeRateError (ℕ × ℕ))
  | authorized
  | subnetAdminsUpdated
  | callFailed (text : String)

/-! ### Conversion of ICP to cycles -/

/-- Where `convert_icp_to_cycles` awaits: the ledger, or the CMC after a transfer in a block. -/
inductive ConvertStage
  | transfer
  | notify (blockIndex : ℕ)
  deriving DecidableEq

/-- What an answer does to `convert_icp_to_cycles`: it awaits the next canister, returns the block
and the created cycles or an error, or traps. -/
inductive ConvertResult
  | await (stage : ConvertStage)
  | done (result : Except ExecuteProposalError (ℕ × ℕ))
  | trap (reason : Trap)

/-- The request of `convert_icp_to_cycles` for `amount` from the subaccount of `source`. -/
def ConvertStage.outgoing (amount : Tokens) (source : Principal) : ConvertStage → OutgoingCall
  | .transfer => .transferToCmc (amount - defaultFee) source
  | .notify blockIndex => .notifyTopUp blockIndex

/-- `convert_icp_to_cycles`, from an answer to what follows. -/
def convertIcpToCycles : ConvertStage → Answer → ConvertResult
  | .transfer, .transfer (.ok blockIndex) => .await (.notify blockIndex)
  | .transfer, .transfer (.error e) => .done (.error (.transferSrcToCmcError e))
  | .notify blockIndex, .notifyTopUp (.ok actualCycles) => .done (.ok (blockIndex, actualCycles))
  | .notify _, .notifyTopUp (.error e) => .done (.error (.notifyTopUpError e))
  | _, .callFailed _ => .trap .callFailed
  | _, _ => .trap .decodeFailed

/-! ### Exchange rates -/

/-- The cycles attached to a call of the exchange rate canister. -/
def exchangeRateFee : ℕ := 1_000_000_000

/-- How `get_exchange_rate_icp_per_xdr_at_time` begins: with a cached rate, by calling the exchange
rate canister, or with a trap. -/
inductive RateLookup
  | cached (rate : ℕ × ℕ)
  | calling (state : State)
  | trap (reason : Trap)

/-- `get_exchange_rate_icp_per_xdr_at_time` up to its await. -/
def getExchangeRate (s : State) (time : ℕ) : RateLookup :=
  match s.getCachedRate time with
  | some rate => .cached rate
  | none =>
    if s.cycles - s.reserve < exchangeRateFee then .trap .insufficientCycles
    else .calling { s with
      cycles := s.cycles - exchangeRateFee
      exchangeRateCalls := s.exchangeRateCalls + 1 }

/-- `get_exchange_rate_icp_per_xdr_at_time` after its await: an exchange rate is cached. -/
def receiveExchangeRate (s : State) (time : ℕ) :
    Answer → Except Trap (State × Except ExchangeRateError (ℕ × ℕ))
  | .exchangeRate (.ok (rate, decimals)) =>
    .ok (s.cacheRate time rate decimals, .ok (rate, decimals))
  | .exchangeRate (.error e) => .ok (s, .error e)
  | .callFailed _ => .error .callFailed
  | _ => .error .decodeFailed

/-! ### Suspended positions -/

/-- The positions at which an endpoint awaits another canister, with the live local variables. -/
inductive Frame
  | todaysPrice (conditions : RentalConditions) (prevMidnight : ℕ)
  | rentalRequestRate (payload : SubnetRentalProposalPayload) (conditions : RentalConditions)
      (exchangeRateQueryTime : ℕ)
  | rentalRequestBalance (payload : SubnetRentalProposalPayload) (neededIcp : Tokens)
  | rentalRequestConvert (payload : SubnetRentalProposalPayload) (neededIcp lockAmountIcp : Tokens)
      (stage : ConvertStage)
  | createConvert (payload : CreateRentalAgreementPayload) (rentalRequest : RentalRequest)
      (initialRentalPeriodNanos : ℕ) (remainingIcp : Tokens) (stage : ConvertStage)
  | createAuthorize (payload : CreateRentalAgreementPayload) (rentalRequest : RentalRequest)
      (rentalAgreement : RentalAgreement)
  | refundBalance (caller : Principal)
  | refundTransfer (caller : Principal) (toBeRefunded : Tokens)
  | estimateRate (rentalAgreement : RentalAgreement) (icp : Tokens) (prevMidnight : ℕ)
  | topUpBalance (subnetId : Principal) (rentalAgreement : RentalAgreement)
  | topUpConvert (subnetId : Principal) (rentalAgreement : RentalAgreement)
      (userIcpBalance icpAmountForCycles : Tokens) (stage : ConvertStage)
  | subnetAdmins (payload : UpdateSubnetAdminsPayload)
  | lockingConvert (nowNanos : ℕ) (rentalRequest : RentalRequest) (tenPercentIcp : Tokens)
      (rest : List RentalRequest) (stage : ConvertStage)
  deriving DecidableEq

/-- The guard of `get_todays_price` on calls of the exchange rate canister. -/
def exchangeRateLock : Lock := ⟨.anonymous, .xrc⟩

/-- The guard that lets one refund run at a time. -/
def refundLock : Lock := ⟨.anonymous, .refund⟩

/-- The guards that are alive at a suspended position. -/
def Frame.guards : Frame → Finset Lock
  | .todaysPrice _ _ => {exchangeRateLock}
  | .rentalRequestRate payload _ _ => {⟨payload.user, .request⟩}
  | .rentalRequestBalance payload _ => {⟨payload.user, .request⟩}
  | .rentalRequestConvert payload _ _ _ => {⟨payload.user, .request⟩}
  | .createConvert payload _ _ _ _ => {⟨payload.user, .request⟩, ⟨payload.subnetId, .nns⟩}
  | .createAuthorize payload _ _ => {⟨payload.user, .request⟩, ⟨payload.subnetId, .nns⟩}
  | .refundBalance caller => {refundLock, ⟨caller, .request⟩}
  | .refundTransfer caller _ => {refundLock, ⟨caller, .request⟩}
  | .estimateRate _ _ _ => ∅
  | .topUpBalance subnetId _ => {⟨subnetId, .agreement⟩}
  | .topUpConvert subnetId _ _ _ _ => {⟨subnetId, .agreement⟩}
  | .subnetAdmins payload => {⟨payload.subnetId, .agreement⟩}
  | .lockingConvert _ rentalRequest _ _ _ => {⟨rentalRequest.user, .request⟩}

/-- `From<crate::UpdateSubnetAdminsPayload>`: the payload for the registry. -/
def UpdateSubnetAdminsPayload.toExternal (payload : UpdateSubnetAdminsPayload) :
    UpdateSubnetAdminsPayload where
  subnetId := payload.subnetId
  operationType := match payload.operationType with
    | some (.add principals) => some (.add principals)
    | some (.remove principals) => some (.remove principals)
    | some .clear | none => some .clear

/-- The request awaited at a suspended position. -/
def Frame.outgoing : Frame → OutgoingCall
  | .todaysPrice _ prevMidnight => .getExchangeRate prevMidnight
  | .rentalRequestRate _ _ exchangeRateQueryTime => .getExchangeRate exchangeRateQueryTime
  | .rentalRequestBalance payload _ => .accountBalance payload.user
  | .rentalRequestConvert payload _ lockAmountIcp stage => stage.outgoing lockAmountIcp payload.user
  | .createConvert payload _ _ remainingIcp stage => stage.outgoing remainingIcp payload.user
  | .createAuthorize payload _ _ => .setAuthorizedSubnetworkList payload.user [payload.subnetId]
  | .refundBalance caller => .accountBalance caller
  | .refundTransfer caller toBeRefunded => .refundUser caller toBeRefunded
  | .estimateRate _ _ prevMidnight => .getExchangeRate prevMidnight
  | .topUpBalance _ rentalAgreement => .accountBalance rentalAgreement.user
  | .topUpConvert _ rentalAgreement _ icpAmountForCycles stage =>
    stage.outgoing icpAmountForCycles rentalAgreement.user
  | .subnetAdmins payload => .updateSubnetAdmins payload.toExternal
  | .lockingConvert _ rentalRequest tenPercentIcp _ stage =>
    stage.outgoing tenPercentIcp rentalRequest.user

/-- The end of a segment of the canister. -/
abbrev Segment := Outcome State Frame Response Trap

/-- `convert_icp_to_cycles` up to its first await, at the position of the caller: the fee of the
transfer is subtracted from the amount. -/
def beginConvert (amount : Tokens) (frame : Frame) (s : State) : Segment :=
  if amount < defaultFee then .trap .tokensUnderflow else .suspend s frame

theorem beginConvert_of_le {amount : Tokens} (h : defaultFee ≤ amount) (frame : Frame) (s : State) :
    beginConvert amount frame s = .suspend s frame := if_neg (Nat.not_lt_of_le h)

theorem beginConvert_of_lt {amount : Tokens} (h : amount < defaultFee) (frame : Frame) (s : State) :
    beginConvert amount frame s = .trap .tokensUnderflow := if_pos h

/-- Whatever holds of the trap and of the first await holds of the beginning of a conversion. -/
@[elab_as_elim]
theorem beginConvert_elim {motive : Segment → Prop} {amount : Tokens} {frame : Frame} {s : State}
    (underflow : motive (.trap .tokensUnderflow))
    (transfer : defaultFee ≤ amount → motive (.suspend s frame)) :
    motive (beginConvert amount frame s) := by
  obtain h | h := Nat.lt_or_ge amount.e8s defaultFee.e8s
  · rw [beginConvert_of_lt h]
    exact underflow
  · rw [beginConvert_of_le h]
    exact transfer h

theorem beginConvert_ne_reply (amount : Tokens) (frame : Frame) (s s' : State)
    (response : Response) : beginConvert amount frame s ≠ .reply s' response := by
  unfold beginConvert
  split <;> exact fun h ↦ by cases h

/-- A conversion that awaits the ledger witnesses that the amount covers the fee. -/
theorem beginConvert_eq_suspend {amount : Tokens} {frame frame' : Frame} {s s' : State}
    (h : beginConvert amount frame s = .suspend s' frame') :
    defaultFee ≤ amount ∧ s' = s ∧ frame' = frame := by
  obtain hless | hle := Nat.lt_or_ge amount.e8s defaultFee.e8s
  · rw [beginConvert_of_lt hless] at h
    cases h
  · rw [beginConvert_of_le hle] at h
    cases h
    exact ⟨hle, rfl, rfl⟩

end SubnetRental.Canister
