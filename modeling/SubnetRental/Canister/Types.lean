import SubnetRental.Foundation.MachineInteger
import Mathlib.Data.Finset.Basic

/-!
# Data types of the subnet rental canister

The types of `lib.rs`, with the fields that the canister's logic reads or writes. Amounts, times
and counters are naturals; the code that computes with them states the width of each operation.
A principal is a byte string of at most 29 bytes, ordered by its bytes; no result depends on which
order this is. `Tokens` carries ICP amounts in e8s; the arithmetic of the ledger's type panics
outside of 64 bits, and each function says where it traps so.
-/

set_option autoImplicit false
set_option relaxedAutoImplicit false

namespace SubnetRental.Canister

open Foundation.MachineInteger Std

def billion : ℕ := 1_000_000_000

def secondsPerDay : ℕ := 24 * 60 * 60

def trillion : ℕ := 1_000_000_000_000

/-! ### Principals and tokens -/

/-- The identifier of a user, a canister or a subnet. -/
structure Principal where
  bytes : List UInt8
  length_le : bytes.length ≤ 29
  deriving DecidableEq

instance : Ord Principal := ⟨compareOn Principal.bytes⟩

instance : TransOrd Principal := inferInstanceAs (TransCmp (compareOn Principal.bytes))

instance : LawfulEqOrd Principal where
  eq_of_compare {a b} h := by
    have hbytes : a.bytes = b.bytes := LawfulEqOrd.eq_of_compare (α := List UInt8) h
    cases a
    cases b
    simpa using hbytes

/-- `Principal::anonymous()`. -/
def Principal.anonymous : Principal := ⟨[4], by decide⟩

/-- `MAINNET_GOVERNANCE_CANISTER_ID`. -/
def governanceCanisterId : Principal := ⟨[0, 0, 0, 0, 0, 0, 0, 1, 1, 1], by decide⟩

/-- The principal whose text is `TARGET_SUBNET`. -/
def targetSubnet : Principal :=
  ⟨[174, 129, 103, 85, 209, 184, 97, 123, 217, 169, 226, 3, 175, 250, 89, 69, 187, 143, 245, 30,
    208, 209, 179, 205, 216, 5, 35, 23, 2], by decide⟩

/-- An amount of ICP in units of `10 ^ -8`. -/
structure Tokens where
  e8s : ℕ
  deriving DecidableEq

namespace Tokens

/-- The sum of tokens. Where it exceeds 64 bits the ledger's type panics, and the functions that add
trap instead. -/
instance : Add Tokens := ⟨fun a b ↦ ⟨a.e8s + b.e8s⟩⟩

-- irreducible: unfolding a difference with a literal must not run through the literal
/-- The difference of tokens. Where it is negative the ledger's type panics, and the functions that
subtract trap instead. -/
@[irreducible]
protected def sub (a b : Tokens) : Tokens := ⟨a.e8s - b.e8s⟩

instance : Sub Tokens := ⟨Tokens.sub⟩

instance : LE Tokens := ⟨fun a b ↦ a.e8s ≤ b.e8s⟩

instance : LT Tokens := ⟨fun a b ↦ a.e8s < b.e8s⟩

instance (a b : Tokens) : Decidable (a ≤ b) := inferInstanceAs (Decidable (a.e8s ≤ b.e8s))

instance (a b : Tokens) : Decidable (a < b) := inferInstanceAs (Decidable (a.e8s < b.e8s))

@[simp] theorem add_e8s (a b : Tokens) : (a + b).e8s = a.e8s + b.e8s := rfl

@[simp] theorem sub_e8s (a b : Tokens) : (a - b).e8s = a.e8s - b.e8s := by
  change (Tokens.sub a b).e8s = _
  unfold Tokens.sub
  rfl

theorem le_iff (a b : Tokens) : a ≤ b ↔ a.e8s ≤ b.e8s := Iff.rfl


end Tokens

/-- The ledger's transfer fee, `DEFAULT_FEE`. -/
def defaultFee : Tokens := ⟨10_000⟩

/-! ### Rental conditions -/

inductive RentalConditionId
  | app13CH
  | app7CH
  deriving DecidableEq

structure RentalConditions where
  description : String
  subnetId : Option Principal
  dailyCostCycles : ℕ
  initialRentalPeriodDays : ℕ
  deriving DecidableEq

/-! ### Proposals, requests and agreements -/

structure SubnetRentalProposalPayload where
  user : Principal
  rentalConditionId : RentalConditionId
  proposalId : ℕ
  proposalCreationTimeSeconds : ℕ
  deriving DecidableEq

structure CreateRentalAgreementPayload where
  user : Principal
  proposalId : ℕ
  subnetId : Principal
  deriving DecidableEq

/-- A proposal that was executed and waits for its subnet. Part of the cost is already locked as
cycles. -/
structure RentalRequest where
  user : Principal
  initialCostIcp : Tokens
  lockedAmountIcp : Tokens
  lockedAmountCycles : ℕ
  initialProposalId : ℕ
  creationTimeNanos : ℕ
  rentalConditionId : RentalConditionId
  lastLockingTimeNanos : ℕ
  deriving DecidableEq

structure RentalAgreement where
  user : Principal
  rentalRequestProposalId : ℕ
  subnetCreationProposalId : Option ℕ
  subnetId : Principal
  rentalConditionId : RentalConditionId
  creationTimeNanos : ℕ
  paidUntilNanos : ℕ
  totalIcpPaid : Tokens
  totalCyclesCreated : ℕ
  totalCyclesBurned : ℕ
  deriving DecidableEq

/-! ### Errors of other canisters -/

/-- A ledger `TransferError`, of which the canister only uses the text. -/
structure TransferError where
  text : String
  deriving DecidableEq

/-- The answers of the CMC to a `notify_top_up` that creates no cycles. -/
inductive NotifyError
  | refunded (blockIndex : Option ℕ) (reason : String)
  | invalidTransaction (reason : String)
  | other (errorMessage : String) (errorCode : ℕ)
  | processing
  | transactionTooOld (blockIndex : ℕ)
  deriving DecidableEq

/-- An `ExchangeRateError`, of which the canister only uses the text. -/
structure ExchangeRateError where
  text : String
  deriving DecidableEq

/-! ### Errors and results of the endpoints -/

structure PriceCalculationData where
  dailyCostCycles : ℕ
  initialRentalPeriodDays : ℕ
  scaledExchangeRateXdrPerIcp : ℕ
  decimals : ℕ
  deriving DecidableEq

/-- Why a proposal was not executed. Where the source stores the `Debug` text of another error, the
error itself is stored. -/
inductive ExecuteProposalError
  | callXrcFailed (error : ExchangeRateError)
  | priceCalculationError (data : PriceCalculationData)
  | userAlreadyRequestingSubnetRental
  | userAlreadyHasAgreement
  | subnetAlreadyRented
  | subnetAlreadyRequested
  | unauthorizedCaller
  | insufficientFunds (available need : Tokens)
  | transferSrcToCmcError (error : TransferError)
  | notifyTopUpError (error : NotifyError)
  | rentalRequestNotFound
  deriving DecidableEq

/-- The texts `get_todays_price` fails with. -/
inductive PriceError
  /-- "RentalConditionId not found" -/
  | conditionNotFound
  /-- "Failed to acquire lock on calling exchange rate canister. Try again." -/
  | lockNotAcquired
  /-- "Failed to call the exchange rate canister: .." -/
  | exchangeRate (error : ExchangeRateError)
  /-- "Failed to calculate price: .." -/
  | calculation (error : ExecuteProposalError)
  deriving DecidableEq

/-- The texts `refund` fails with. -/
inductive RefundError
  /-- "Busy processing another request. Try again." -/
  | busy
  /-- "Failed refund: {caller} has insufficient funds {balance}" -/
  | insufficientFunds (caller : Principal) (balance : Tokens)
  /-- "Failed to refund {amount} ICP to {caller}: .." -/
  | transferFailed (amount : Tokens) (caller : Principal) (error : TransferError)
  deriving DecidableEq

/-- The texts `top_up_subnet` fails with; the last two are also the reasons of
`SubnetTopUpFailed`. -/
inductive TopUpError
  /-- "Concurrent call, aborting" -/
  | concurrentCall
  /-- "Rental agreement not found" -/
  | agreementNotFound
  /-- "Failed to top up: {user} has insufficient funds {balance}" -/
  | insufficientFunds (user : Principal) (balance : Tokens)
  /-- "Failed to convert ICP to cycles: .." -/
  | conversionFailed (error : ExecuteProposalError)
  deriving DecidableEq

/-- The texts `subnet_top_up_estimate` fails with. -/
inductive EstimateError
  /-- "Rental agreement not found" -/
  | agreementNotFound
  /-- "Failed to get exchange rate" -/
  | exchangeRate
  /-- "Must top up more than {DEFAULT_FEE} ICP to cover the default fee" -/
  | belowFee
  /-- "Rental condition not found" -/
  | conditionNotFound
  deriving DecidableEq

/-- The result of a top-up or of its estimate. The description is a rendering of the subnet, the
ICP amount and these two numbers, and is left out. -/
structure TopUpSummary where
  cyclesAdded : ℕ
  daysAdded : ℕ
  deriving DecidableEq

/-! ### Subnet administrators -/

/-- The change of a subnet's administrators a caller asks for. -/
inductive OperationType
  | add (principals : List Principal)
  | remove (principals : List Principal)
  | clear
  deriving DecidableEq

structure UpdateSubnetAdminsPayload where
  subnetId : Principal
  operationType : Option OperationType
  deriving DecidableEq

inductive UpdateSubnetAdminsError
  | callerNotRentingSubnet
  | principalListEmpty
  | concurrentChange
  | unknownOperationType
  | registryError (text : String)
  deriving DecidableEq

end SubnetRental.Canister
