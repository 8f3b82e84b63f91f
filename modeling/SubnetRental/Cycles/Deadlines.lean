import SubnetRental.Cycles.PaidTime

/-!
# One rule for granted time

`top_up_subnet` extends a deadline and the migration sets one, with saturating operations of
different widths. Both compute the deadline that the cycles buy at the daily cost, from the old
deadline or from the present on (`reprice_eq_granted`, `newPaidUntilNanos_eq_granted`), so what is
known of `granted` holds of both (`granted_alike`).
-/

set_option autoImplicit false
set_option relaxedAutoImplicit false

namespace SubnetRental.Cycles

open Canister Lifecycle Foundation.GuardedCalls Foundation.MachineInteger
open Foundation.FundedDeadline Std

/-! ### Both paths -/

/-- The deadline of the migration. -/
theorem reprice_eq_granted {cycles dailyCostCycles start : ℕ}
    (hcost : dailyCostCycles / secondsPerDay ≠ 0) :
    reprice cycles dailyCostCycles start =
      granted (maxValue 64) billion (dailyCostCycles / secondsPerDay) start cycles :=
  reprice_eq hcost

/-- The deadline of a top-up. -/
theorem newPaidUntilNanos_eq_granted (start dailyCostCycles cycles : ℕ) :
    newPaidUntilNanos start (secondsCharged dailyCostCycles cycles) =
      granted (maxValue 64) billion (dailyCostCycles / secondsPerDay) start cycles :=
  newPaidUntilNanos_eq start _

/-! ### What both have in common -/

/-- At a daily cost, the cycles buy the same deadline from a start on in a top-up and in the
migration: the whole seconds that they pay are added, up to the largest 64-bit number. A top-up
stores it unless the ICP paid for the agreement would exceed 64 bits. More cycles never give an
earlier deadline, a higher cost never a later one, and cycles in two parts give at most one second
less than at once. -/
structure GrantedAlike (actualCycles dailyCostCycles start : ℕ) : Prop where
  computed : newPaidUntilNanos start (secondsCharged dailyCostCycles actualCycles) =
    reprice actualCycles dailyCostCycles start
  topUp : ∀ (s : State) (subnetId : Principal) (copy stored : RentalAgreement)
    (conditions : RentalConditions) (balance amount : Tokens) (blockIndex : ℕ),
    s.rentalAgreements[subnetId]? = some stored →
    copy.paidUntilNanos = start →
    s.rentalConditions copy.rentalConditionId = some conditions →
    conditions.dailyCostCycles = dailyCostCycles →
    (2 ^ 64 ≤ stored.totalIcpPaid.e8s + balance.e8s ∧
      resume (.topUpConvert subnetId copy balance amount (.notify blockIndex))
        (.notifyTopUp (.ok actualCycles)) s = .trap .tokensOverflow) ∨
    ∃ s' response new,
      resume (.topUpConvert subnetId copy balance amount (.notify blockIndex))
        (.notifyTopUp (.ok actualCycles)) s = .reply s' response ∧
      s'.rentalAgreements[subnetId]? = some new ∧
      new.paidUntilNanos = reprice actualCycles dailyCostCycles start
  exact : reprice actualCycles dailyCostCycles start =
    min (2 ^ 64 - 1) (start + 10 ^ 9 * (actualCycles / (dailyCostCycles / 86_400)))
  mono : ∀ more, actualCycles ≤ more →
    reprice actualCycles dailyCostCycles start ≤ reprice more dailyCostCycles start
  anti : ∀ dearer, dailyCostCycles ≤ dearer →
    reprice actualCycles dearer start ≤ reprice actualCycles dailyCostCycles start
  twice_le : ∀ added,
    reprice added dailyCostCycles (reprice actualCycles dailyCostCycles start) ≤
      reprice (actualCycles + added) dailyCostCycles start
  le_twice : ∀ added,
    reprice (actualCycles + added) dailyCostCycles start ≤
      reprice added dailyCostCycles (reprice actualCycles dailyCostCycles start) + 10 ^ 9

/-- Repricing and topping up grant time by the same rule at every daily cost of at least one cycle
per second. -/
theorem granted_alike (actualCycles start : ℕ) {dailyCostCycles : ℕ}
    (hcost : 86_400 ≤ dailyCostCycles) : GrantedAlike actualCycles dailyCostCycles start := by
  have hpositive {cost : ℕ} (h : 86_400 ≤ cost) : 0 < cost / secondsPerDay :=
    Nat.div_pos h (by decide)
  have hreprice (cycles time : ℕ) {cost : ℕ} (h : 86_400 ≤ cost) :
      reprice cycles cost time =
        granted (maxValue 64) billion (cost / secondsPerDay) time cycles :=
    reprice_eq_granted (hpositive h).ne'
  have hcomputed : newPaidUntilNanos start (secondsCharged dailyCostCycles actualCycles) =
      reprice actualCycles dailyCostCycles start := by
    rw [newPaidUntilNanos_eq_granted, hreprice _ _ hcost]
  refine ⟨hcomputed, ?_, ?_, ?_, ?_, ?_, ?_⟩
  · intro s subnetId copy stored conditions balance amount blockIndex hstored hstart hconditions
      hdaily
    subst hstart hdaily
    obtain htrap | ⟨-, s', hreply, -, hagreements, -⟩ := topUpAfterConvert_of_stored balance
      amount blockIndex actualCycles hconditions (hpositive hcost).ne' hstored
    · exact .inl htrap
    refine .inr ⟨s', _, toppedUpAgreement copy stored conditions.dailyCostCycles actualCycles
      balance, hreply, ?_, ?_⟩
    · rw [hagreements]
      exact ExtTreeMap.getElem?_insert_self
    · rw [toppedUpAgreement_paidUntilNanos, hcomputed]
  · rw [hreprice _ _ hcost]
    exact min_comm _ _
  · intro more hmore
    rw [hreprice _ _ hcost, hreprice _ _ hcost]
    exact granted_mono _ _ _ _ hmore
  · intro dearer hdearer
    rw [hreprice _ _ hcost, hreprice _ _ (hcost.trans hdearer)]
    exact granted_anti _ _ _ _ (hpositive hcost) (Nat.div_le_div_right hdearer)
  · intro added
    simp only [hreprice _ _ hcost]
    exact granted_granted_le _ _ _ _ _ _
  · intro added
    simp only [hreprice _ _ hcost]
    exact granted_add_le _ _ _ _ _ _

theorem granted_alike_app7CH : GrantedAlike (10 ^ 18) (440 * trillion) 0 :=
  granted_alike (10 ^ 18) 0 (by decide)

end SubnetRental.Cycles
