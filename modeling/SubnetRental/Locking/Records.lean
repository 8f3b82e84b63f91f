import SubnetRental.Locking.Snapshot

/-!
# The record of a request

What every stored request satisfies, and every copy of a request that a suspended call works on:
between one and ten tenths of the cost are locked, the times are in order, and the arithmetic of
`locking` and of the creation of an agreement stays within its types (`RecordInvariant`). A copy
in the snapshot of a pass satisfies it at the time at which the pass started, which is the time the
pass computes with.
-/

set_option autoImplicit false
set_option relaxedAutoImplicit false

namespace SubnetRental.Locking

open Canister Lifecycle Foundation.GuardedCalls Foundation.MachineInteger
open Foundation.TransitionSystem Std

/-- The invariant of a request at a time. -/
structure RecordInvariant (now : ℕ) (r : RentalRequest) : Prop where
  tenths : ∃ k, 1 ≤ k ∧ k ≤ 10 ∧ r.lockedAmountIcp.e8s = k * (r.initialCostIcp.e8s / 10)
  locked_le : r.lockedAmountIcp.e8s ≤ r.initialCostIcp.e8s
  created_le : r.creationTimeNanos ≤ r.lastLockingTimeNanos
  lastLocking_le : r.lastLockingTimeNanos ≤ now
  fullyLocked : r.FullyLocked → r.initialCostIcp.e8s - r.lockedAmountIcp.e8s < 10
  /-- The subtraction of times in `locking` does not underflow. -/
  sinceLastLocking : wrappingSub 64 now r.lastLockingTimeNanos = now - r.lastLockingTimeNanos
  /-- The product in `locking` does not overflow. -/
  tenTenths : wrappingMul 64 r.tenPercentIcp.e8s 10 = r.tenPercentIcp.e8s * 10

theorem recordInvariant_of_wellFormed {now : ℕ} {r : RentalRequest} (h : WellFormedRequest now r)
    (hnow : now < 2 ^ 64) : RecordInvariant now r := by
  have hcost := tenPercentIcp_mul_le r
  refine ⟨h.tenths, lockedAmountIcp_le h, h.created_le, h.locked_le, fun hfull ↦ ?_,
    wrappingSub_of_le h.locked_le hnow, wrappingMul_of_lt (hcost.trans_lt h.cost_lt)⟩
  rw [fullyLocked_iff h] at hfull
  have hremainder : r.initialCostIcp.e8s < r.tenPercentIcp.e8s * 10 + 10 :=
    Nat.lt_div_mul_add (by decide)
  omega

/-- In every reachable state the stored requests, the copies of the suspended passes of `locking`
and the request that a creation converts for satisfy the invariant, the copies at the time at which
their pass started. -/
theorem record_invariant_of_reachable {cycles : ℕ} {c : Configuration}
    (h : (system cycles).Reachable c) :
    (∀ (u : Principal) r, c.state.canister.rentalRequests[u]? = some r →
      RecordInvariant c.state.canister.now r) ∧
    (∀ (id : ℕ) operation nowNanos r tenPercentIcp rest stage answered,
      c.calls[id]? = some ⟨operation, .lockingConvert nowNanos r tenPercentIcp rest stage,
        answered⟩ →
          nowNanos ≤ c.state.canister.now ∧ ∀ q ∈ r :: rest, RecordInvariant nowNanos q) ∧
    ∀ (id : ℕ) operation payload r period remainingIcp stage answered,
      c.calls[id]? = some ⟨operation, .createConvert payload r period remainingIcp stage,
        answered⟩ →
          RecordInvariant c.state.canister.now r ∧
            remainingIcp.e8s + r.lockedAmountIcp.e8s = r.initialCostIcp.e8s := by
  have hsound := sound_of_reachable h
  have hconsistent : Consistent c.state.canister := hsound.inv.consistent
  have hnow := hconsistent.now_lt
  refine ⟨?_, ?_, ?_⟩
  · intro u r hstored
    exact recordInvariant_of_wellFormed (hconsistent.request_wellFormed u r hstored) hnow
  · intro id operation nowNanos r tenPercentIcp rest stage answered hcall
    obtain ⟨hle, hwell, -, -, hrest, -⟩ := (hsound.assert id _ hcall).knows
    refine ⟨hle, fun q hq ↦ recordInvariant_of_wellFormed ?_ (hle.trans_lt hnow)⟩
    rcases List.mem_cons.mp hq with rfl | hq
    · exact hwell
    · exact hrest q hq
  · intro id operation payload r period remainingIcp stage answered hcall
    obtain ⟨hstored, -, -, rfl, -⟩ := (hsound.assert id _ hcall).knows
    have hwell := hconsistent.request_wellFormed _ r hstored
    refine ⟨recordInvariant_of_wellFormed hwell hnow, ?_⟩
    rw [Tokens.sub_e8s]
    exact Nat.sub_add_cancel (lockedAmountIcp_le hwell)

/-- Alice's request while a pass converts for her and holds a copy of a request that was refunded
meanwhile. -/
theorem refundDuringLocking_stored :
    ((((system (10 ^ 12)).perform (idle (installedWorld (10 ^ 12) fun _ ↦ 10 ^ 13))
      refundDuringLocking).get refundDuringLocking_isSome).state.canister.rentalRequests[
        aliceProposal.user]?).isSome := by
  decide +kernel

theorem record_invariant_refundDuringLocking :
    RecordInvariant
      (((system (10 ^ 12)).perform (idle (installedWorld (10 ^ 12) fun _ ↦ 10 ^ 13))
        refundDuringLocking).get refundDuringLocking_isSome).state.canister.now
      ((((system (10 ^ 12)).perform (idle (installedWorld (10 ^ 12) fun _ ↦ 10 ^ 13))
        refundDuringLocking).get refundDuringLocking_isSome).state.canister.rentalRequests[
          aliceProposal.user]?.get refundDuringLocking_stored) :=
  (record_invariant_of_reachable
    (System.reachable_get_perform (init_idle _ _) refundDuringLocking_isSome)).1 _ _
      (Option.some_get refundDuringLocking_stored).symm

end SubnetRental.Locking
