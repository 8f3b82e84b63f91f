import SubnetRental.Canister.Agreements

/-!
# The canister among the ledger, the CMC and its users

`World` adds to the canister's state what the other canisters keep: the ICP on every user's
subaccount of the canister, how much the canister has ever debited from it, and the subnets the
CMC authorizes for a user. `start` and `resume` select the segment of an operation or of a
suspended position, `serve` is the effect another canister has when it answers, and `environment`
the passing of time, payments and upgrades. `service` puts them together; its runs are all
interleavings of the endpoints and timers at the granularity of awaits.

An accepted transfer debits the amount and the fee from the subaccount, and a `notify_top_up` that
succeeds deposits the cycles it reports. Which answers are given is arbitrary here.
-/

set_option autoImplicit false
set_option relaxedAutoImplicit false

namespace SubnetRental.Canister

open Foundation.GuardedCalls Foundation.TransitionSystem

/-- The first segment of an operation. -/
def start : Operation → State → Segment
  | .getTodaysPrice id => getTodaysPrice id
  | .executeRentalRequestProposal caller payload => executeRentalRequestProposal caller payload
  | .executeCreateRentalAgreement caller payload => executeCreateRentalAgreement caller payload
  | .refund caller => refund caller
  | .subnetTopUpEstimate subnetId icp => subnetTopUpEstimate subnetId icp
  | .topUpSubnet subnetId => topUpSubnet subnetId
  | .updateSubnetAdmins caller payload => updateSubnetAdmins caller payload
  | .locking => locking
  | .burnCycles => burnCycles

/-- The segment that follows an answer. -/
def resume : Frame → Answer → State → Segment
  | .todaysPrice conditions prevMidnight => resumeTodaysPrice conditions prevMidnight
  | .rentalRequestRate payload conditions exchangeRateQueryTime =>
    resumeRentalRequestRate payload conditions exchangeRateQueryTime
  | .rentalRequestBalance payload neededIcp => resumeRentalRequestBalance payload neededIcp
  | .rentalRequestConvert payload neededIcp lockAmountIcp stage =>
    resumeRentalRequestConvert payload neededIcp lockAmountIcp stage
  | .createConvert payload rentalRequest initialRentalPeriodNanos remainingIcp stage =>
    resumeCreateConvert payload rentalRequest initialRentalPeriodNanos remainingIcp stage
  | .createAuthorize payload _ rentalAgreement => resumeCreateAuthorize payload rentalAgreement
  | .refundBalance caller => resumeRefundBalance caller
  | .refundTransfer caller toBeRefunded => resumeRefundTransfer caller toBeRefunded
  | .estimateRate rentalAgreement icp prevMidnight =>
    resumeEstimate rentalAgreement icp prevMidnight
  | .topUpBalance subnetId rentalAgreement => resumeTopUpBalance subnetId rentalAgreement
  | .topUpConvert subnetId rentalAgreement userIcpBalance icpAmountForCycles stage =>
    resumeTopUpConvert subnetId rentalAgreement userIcpBalance icpAmountForCycles stage
  | .subnetAdmins payload => resumeSubnetAdmins payload
  | .lockingConvert nowNanos rentalRequest tenPercentIcp rest stage =>
    resumeLockingConvert nowNanos rentalRequest tenPercentIcp rest stage

/-! ### The world -/

structure World where
  canister : State
  /-- The ICP on the subaccount of each user, in e8s. -/
  balance : Principal → ℕ
  /-- The ICP the canister has ever debited from the subaccount of each user, fees included. -/
  debited : Principal → ℕ
  /-- The authorized subnets of each user at the CMC. -/
  authorizedSubnets : Principal → List Principal

/-- An accepted transfer from the subaccount of `user`. -/
def World.debit (w : World) (user : Principal) (amount : Tokens) : World :=
  { w with
    balance := Function.update w.balance user (w.balance user - (amount.e8s + defaultFee.e8s))
    debited := Function.update w.debited user (w.debited user + (amount.e8s + defaultFee.e8s)) }

/-- What another canister does when it answers a request. -/
def World.answer (w : World) : OutgoingCall → Answer → World
  | .transferToCmc amount source, .transfer (.ok _) => w.debit source amount
  | .refundUser userPrincipal amount, .transfer (.ok _) => w.debit userPrincipal amount
  | .notifyTopUp _, .notifyTopUp (.ok actualCycles) =>
    { w with canister.cycles := w.canister.cycles + actualCycles }
  | .setAuthorizedSubnetworkList _ _, .callFailed _ => w
  | .setAuthorizedSubnetworkList who subnets, _ =>
    { w with authorizedSubnets := Function.update w.authorizedSubnets who subnets }
  | _, _ => w

/-- What happens besides calls: time passes, ICP arrives on a subaccount, cycles arrive, the
freezing limit changes, or the canister is upgraded while no call is in flight. -/
inductive Environment
  | pass (nanos : ℕ)
  | payIcp (user : Principal) (amount : Tokens)
  | receiveCycles (amount : ℕ)
  | setReserve (reserve : ℕ)
  | upgrade
  deriving DecidableEq

def World.environment (w : World) : Environment → Bool → Option World
  | .pass nanos, _ =>
    -- the time is a 64-bit number of nanoseconds
    if w.canister.now + nanos < 2 ^ 64 then
      some { w with canister.now := w.canister.now + nanos }
    else none
  | .payIcp user amount, _ =>
    some { w with balance := Function.update w.balance user (w.balance user + amount.e8s) }
  | .receiveCycles amount, _ => some { w with canister.cycles := w.canister.cycles + amount }
  | .setReserve reserve, _ => some { w with canister.reserve := reserve }
  | .upgrade, true => some { w with canister := postUpgrade w.canister }
  | .upgrade, false => none

/-- The canister as a service whose calls suspend at awaits. -/
def service : Service World Operation Frame Answer Response Trap Environment where
  start operation w := (start operation w.canister).mapState fun s ↦ { w with canister := s }
  resume frame answer w :=
    (resume frame answer w.canister).mapState fun s ↦ { w with canister := s }
  unwind frame w := { w with canister := w.canister.dropGuards frame.guards }
  serve frame answer w := w.answer frame.outgoing answer
  environment event idle w := w.environment event idle

/-- Configurations of the canister, its suspended calls and the world around it. -/
abbrev Configuration := Config World Operation Frame Answer Response Trap

/-- The steps of a run. -/
abbrev Label := Action Operation Answer Environment

/-- The world right after an installation with `cycles` cycles. -/
def Installed (cycles : ℕ) (w : World) : Prop :=
  ∃ now reserve, now < 2 ^ 64 ∧ w.canister = install cycles now reserve

/-- All runs from an installation with `cycles` cycles. -/
def system (cycles : ℕ) : System Configuration Label := service.system (Installed cycles)

end SubnetRental.Canister
