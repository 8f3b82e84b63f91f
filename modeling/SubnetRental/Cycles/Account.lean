import SubnetRental.Cycles.AgreementSteps
import SubnetRental.Lifecycle.Exclusivity

/-!
# The account of an agreement

`top_up_subnet` computes the new totals of an agreement from a copy it read before three awaits, and
the burn timer fires in between. `account_of_run` shows that nothing is lost or counted twice: after
any interleaving from the creation of an agreement on, its totals are those at its creation plus
what the ended calls report. The account is kept step by step (`Account.step`), and each step is one
of those in `AgreementStep`.
-/

set_option autoImplicit false
set_option relaxedAutoImplicit false

namespace SubnetRental.Cycles

open Canister Lifecycle Foundation.GuardedCalls Foundation.MachineInteger
open Foundation.TransitionSystem Std

/-! ### Capped sums -/

/-- The saturating and checked steps of `top_up_subnet` cap the deadline at the largest 64-bit
value. -/
theorem newPaidUntilNanos_eq (paidUntilNanos seconds : ℕ) :
    newPaidUntilNanos paidUntilNanos seconds =
      min (paidUntilNanos + billion * seconds) (maxValue 64) := by
  unfold newPaidUntilNanos saturatingMul saturatingAdd checkedCast
  generalize billion * seconds = nanos
  have hsmall : maxValue 64 < maxValue 128 := by decide
  have hmax : 2 ^ 64 = maxValue 64 + 1 := by decide
  dsimp only
  rw [hmax]
  split_ifs with hfits
  · rw [Option.getD_some]
    omega
  · rw [Option.getD_none]
    omega

theorem newPaidUntilNanos_min (paidUntilNanos seconds : ℕ) :
    newPaidUntilNanos (min paidUntilNanos (maxValue 64)) seconds =
      min (paidUntilNanos + billion * seconds) (maxValue 64) := by
  rw [newPaidUntilNanos_eq]
  generalize billion * seconds = nanos
  omega

theorem saturatingAdd_min (w a b : ℕ) :
    saturatingAdd w (min a (maxValue w)) b = min (a + b) (maxValue w) := by
  unfold saturatingAdd
  omega

/-! ### The account -/

/-- The time the top-ups pay for at a daily cost, in nanoseconds. -/
def nanosPaid (dailyCostCycles : ℕ) (actualCycles : List ℕ) : ℕ :=
  (actualCycles.map fun actual ↦ billion * (actual / (dailyCostCycles / secondsPerDay))).sum

/-- The totals of an agreement are those of an earlier moment and what the calls ended since then
account for. -/
structure Account (i : Principal) (dailyCostCycles : ℕ) (start : RentalAgreement)
    (ended : List Ended) (a : RentalAgreement) : Prop where
  condition : a.rentalConditionId = start.rentalConditionId
  created : a.totalCyclesCreated =
    min (start.totalCyclesCreated + (topUps i ended).sum) (maxValue 128)
  burned : a.totalCyclesBurned = start.totalCyclesBurned + (burns i ended).sum
  paidUntil : a.paidUntilNanos =
    min (start.paidUntilNanos + nanosPaid dailyCostCycles (topUps i ended)) (maxValue 64)

theorem Account.refl (i : Principal) (dailyCostCycles : ℕ) {a : RentalAgreement}
    (h : WellFormedAgreement a) : Account i dailyCostCycles a [] a :=
  ⟨rfl, (min_eq_left (lt_two_pow_iff.mp h.created_lt)).symm, rfl,
    (min_eq_left (lt_two_pow_iff.mp h.paidUntil_lt)).symm⟩

/-- Calls that account for nothing leave the account as it is. -/
theorem Account.kept {i : Principal} {dailyCostCycles : ℕ} {start a : RentalAgreement}
    {ended more : List Ended} (h : Account i dailyCostCycles start ended a)
    (htopUps : topUps i more = []) (hburns : burns i more = []) :
    Account i dailyCostCycles start (ended ++ more) a := by
  have htopUps' : topUps i (ended ++ more) = topUps i ended := by
    rw [topUps_append, htopUps, List.append_nil]
  have hburns' : burns i (ended ++ more) = burns i ended := by
    rw [burns_append, hburns, List.append_nil]
  exact ⟨h.condition, by rw [htopUps', h.created], by rw [hburns', h.burned],
    by rw [htopUps', h.paidUntil]⟩

/-- A top-up that ended enters with the cycles it reports. -/
theorem Account.toppedUp {i : Principal} {dailyCostCycles : ℕ} {start a : RentalAgreement}
    {ended more : List Ended} (h : Account i dailyCostCycles start ended a) {actualCycles : ℕ}
    (balance : Tokens) (htopUps : topUps i more = [actualCycles]) (hburns : burns i more = []) :
    Account i dailyCostCycles start (ended ++ more)
      (toppedUpAgreement a a dailyCostCycles actualCycles balance) := by
  refine ⟨h.condition, ?_, ?_, ?_⟩
  · rw [toppedUpAgreement_totalCyclesCreated, h.created, saturatingAdd_min, topUps_append, htopUps,
      List.sum_append, List.sum_singleton, Nat.add_assoc]
  · rw [toppedUpAgreement_totalCyclesBurned, h.burned, burns_append, hburns, List.append_nil]
  · rw [toppedUpAgreement_paidUntilNanos, h.paidUntil, newPaidUntilNanos_min, topUps_append,
      htopUps]
    unfold nanosPaid secondsCharged
    rw [List.map_append, List.sum_append, List.map_singleton, List.sum_singleton, Nat.add_assoc]

/-- A burn that ended enters with the amount it returned. -/
theorem Account.burn {i : Principal} {dailyCostCycles : ℕ} {start a : RentalAgreement}
    {ended more : List Ended} (h : Account i dailyCostCycles start ended a)
    (hwell : WellFormedAgreement a) {burned : ℕ} (hle : burned ≤ a.cyclesRemaining)
    (htopUps : topUps i more = []) (hburns : burns i more = [burned]) :
    Account i dailyCostCycles start (ended ++ more) (burnedAgreement a burned) := by
  have htopUps' : topUps i (ended ++ more) = topUps i ended := by
    rw [topUps_append, htopUps, List.append_nil]
  refine ⟨h.condition, ?_, ?_, ?_⟩
  · rw [htopUps', ← h.created]
    rfl
  · rw [(wellFormed_burned hwell hle).1, h.burned, burns_append, hburns, List.sum_append,
      List.sum_singleton, Nat.add_assoc]
  · rw [htopUps', ← h.paidUntil]
    rfl

/-! ### Runs -/

/-- Every step but an upgrade. -/
def noUpgrade (_ : Configuration) : Label → Bool
  | .environment .upgrade => false
  | _ => true

/-- One step keeps the account. -/
theorem Account.step {cycles : ℕ} {c c' : Configuration} {a : Label}
    (hc : (system cycles).Reachable c) (hnext : (system cycles).next c a = some c')
    (hkind : noUpgrade c a) {i : Principal} {start stored : RentalAgreement}
    {ended : List Ended} {conditions : RentalConditions}
    (hconditions : c.state.canister.rentalConditions start.rentalConditionId = some conditions)
    (hstored : c.state.canister.rentalAgreements[i]? = some stored)
    (h : Account i conditions.dailyCostCycles start ended stored) :
    ∃ more new, c'.trace = c.trace ++ more ∧
      c'.state.canister.rentalAgreements[i]? = some new ∧
      Account i conditions.dailyCostCycles start (ended ++ more) new := by
  have hwell := (sound_of_reachable hc).inv.consistent.agreement_wellFormed i stored hstored
  obtain ⟨more, htrace, hstep⟩ := agreementStep_of_next hc hnext i
  cases hstep with
  | kept _ _ hsame htopUps hburns =>
    exact ⟨more, stored, htrace, hsame.trans hstored, h.kept htopUps hburns⟩
  | granted _ _ new hnone => exact absurd (hnone.symm.trans hstored) (by simp)
  | toppedUp id _ copy balance amount blockIndex actualCycles conditions' hcall hcopy hconditions'
      hnew htopUps hburns =>
    obtain rfl : stored = copy := Option.some.inj (hstored.symm.trans hcopy)
    rw [h.condition, hconditions] at hconditions'
    obtain rfl := Option.some.inj hconditions'
    exact ⟨more, _, htrace, hnew, h.toppedUp balance htopUps hburns⟩
  | burned _ copy burned hcopy hle hnew htopUps hburns =>
    obtain rfl : stored = copy := Option.some.inj (hstored.symm.trans hcopy)
    exact ⟨more, _, htrace, hnew, h.burn hwell (hle.trans (burnAmount_le _ _)) htopUps hburns⟩
  | repriced copy => cases hkind

/-- The totals of an agreement, from its creation on: what was created is the cycles at the creation
and those the successful top-ups report, as long as this fits into 128 bits, what was burned is what
`cycles_burn` returned, and the deadline is extended by what the same top-ups pay for. -/
structure Accounted (i : Principal) (dailyCostCycles : ℕ) (start : RentalAgreement)
    (ended : List Ended) (a : RentalAgreement) : Prop where
  created : start.totalCyclesCreated + (topUps i ended).sum < 2 ^ 128 →
    a.totalCyclesCreated = start.totalCyclesCreated + (topUps i ended).sum
  burned : a.totalCyclesBurned = (burns i ended).sum
  burned_le : a.totalCyclesBurned ≤ a.totalCyclesCreated
  paidUntil : a.paidUntilNanos =
    min (start.paidUntilNanos +
      ((topUps i ended).map fun actual ↦ 10 ^ 9 * (actual / (dailyCostCycles / 86_400))).sum)
      (2 ^ 64 - 1)

/-- In every interleaving without upgrade from the creation of an agreement on, the agreement's
totals are accounted for by the calls that ended since then. -/
theorem account_of_run {cycles : ℕ} {c₀ c₁ c : Configuration} {a : Label} {i : Principal}
    {start : RentalAgreement} (h₀ : (system cycles).Reachable c₀)
    (hnone : c₀.state.canister.rentalAgreements[i]? = none)
    (hnext : (system cycles).next c₀ a = some c₁)
    (hstart : c₁.state.canister.rentalAgreements[i]? = some start)
    (hrun : (system cycles).RunWithin (fun c a ↦ noUpgrade c a) c₁ c) :
    ∃ conditions ended stored,
      c.state.canister.rentalConditions start.rentalConditionId = some conditions ∧
      c.trace = c₁.trace ++ ended ∧ c.state.canister.rentalAgreements[i]? = some stored ∧
      Accounted i conditions.dailyCostCycles start ended stored := by
  have h₁ : (system cycles).Reachable c₁ := h₀.tail hnext
  have hburned : start.totalCyclesBurned = 0 := by
    obtain ⟨ended, -, hstep⟩ := agreementStep_of_next h₀ hnext i
    cases hstep with
    | kept _ _ hsame => exact absurd (hnone.symm.trans (hsame.symm.trans hstart)) (by simp)
    | granted _ _ new _ hnew hburned =>
      obtain rfl := Option.some.inj (hnew.symm.trans hstart)
      exact hburned
    | toppedUp _ _ _ _ _ _ _ _ _ hstored => exact absurd (hnone.symm.trans hstored) (by simp)
    | burned _ _ _ hstored => exact absurd (hnone.symm.trans hstored) (by simp)
    | repriced _ hstored => exact absurd (hnone.symm.trans hstored) (by simp)
  have hconditions {d : Configuration} (hd : (system cycles).Reachable d) (id : RentalConditionId) :
      d.state.canister.rentalConditions id = some (standardConditions id) :=
    (sound_of_reachable hd).inv.consistent.conditions id
  have hreach {d : Configuration}
      (hd : (system cycles).RunWithin (fun c a ↦ noUpgrade c a) c₁ d) :
      (system cycles).Reachable d :=
    System.ReachableWithin.append h₁ (hd.mono fun _ _ _ ↦ trivial)
  have haccount : ∃ ended stored, c.trace = c₁.trace ++ ended ∧
      c.state.canister.rentalAgreements[i]? = some stored ∧
      Account i (standardConditions start.rentalConditionId).dailyCostCycles start ended
        stored := by
    refine hrun.induct (J := fun d ↦ ∃ ended stored, d.trace = c₁.trace ++ ended ∧
      d.state.canister.rentalAgreements[i]? = some stored ∧
      Account i (standardConditions start.rentalConditionId).dailyCostCycles start ended stored)
      ?_ ?_
    · have hwell := (sound_of_reachable h₁).inv.consistent.agreement_wellFormed i start hstart
      exact ⟨[], start, (List.append_nil _).symm, hstart, Account.refl _ _ hwell⟩
    · rintro u v label hu ⟨ended, stored, htrace, hstored, haccount⟩ hkind hstep
      obtain ⟨more, new, hmore, hnew, haccount'⟩ :=
        haccount.step (hreach hu) hstep hkind (hconditions (hreach hu) _) hstored
      exact ⟨ended ++ more, new, by rw [hmore, htrace, List.append_assoc], hnew, haccount'⟩
  obtain ⟨ended, stored, htrace, hstored, haccount⟩ := haccount
  have hwell := (sound_of_reachable (hreach hrun)).inv.consistent.agreement_wellFormed i stored
    hstored
  refine ⟨_, ended, stored, hconditions (hreach hrun) _, htrace, hstored, ?_, ?_, hwell.burned_le,
    haccount.paidUntil⟩
  · intro hlt
    rw [haccount.created, min_eq_left (lt_two_pow_iff.mp hlt)]
  · rw [haccount.burned, hburned, Nat.zero_add]

/-! ### A top-up around a burn pass -/

theorem beforeGrant_isSome :
    ((system (10 ^ 12)).perform (idle (installedWorld (10 ^ 12) fun _ ↦ 10 ^ 13))
      rentalRun.dropLast).isSome := by
  decide +kernel

/-- The configuration before the last step of the creation of an agreement. -/
def beforeGrant : Configuration :=
  ((system (10 ^ 12)).perform (idle (installedWorld (10 ^ 12) fun _ ↦ 10 ^ 13))
    rentalRun.dropLast).get beforeGrant_isSome

theorem grant_isSome : ((system (10 ^ 12)).next beforeGrant (.resume 1)).isSome := by
  decide +kernel

def afterGrant : Configuration := ((system (10 ^ 12)).next beforeGrant (.resume 1)).get grant_isSome

/-- A burn pass, a top-up during which a second pass skips the agreement, and a third pass. -/
def topUpAmongBurns : List Label :=
  [.environment (.pass (60 * billion)), .start .burnCycles,
    .environment (.payIcp aliceCreation.user ⟨10 ^ 10⟩),
    .start (.topUpSubnet aliceCreation.subnetId),
    .serve 2 (.accountBalance ⟨10 ^ 10⟩), .resume 2, .environment (.pass (60 * billion)),
    .start .burnCycles, .serve 2 (.transfer (.ok 3)), .resume 2,
    .serve 2 (.notifyTopUp (.ok (10 ^ 15))), .resume 2, .environment (.pass (60 * billion)),
    .start .burnCycles]

theorem topUpAmongBurns_isSome :
    ((system (10 ^ 12)).performWithin (fun c a ↦ noUpgrade c a) afterGrant
      topUpAmongBurns).isSome := by
  decide +kernel

theorem afterGrant_isSome :
    (afterGrant.state.canister.rentalAgreements[aliceCreation.subnetId]?).isSome := by
  decide +kernel

theorem account_of_topUpAmongBurns :
    ∃ conditions ended stored,
      (((system (10 ^ 12)).performWithin (fun c a ↦ noUpgrade c a) afterGrant
        topUpAmongBurns).get topUpAmongBurns_isSome).trace = afterGrant.trace ++ ended ∧
      Accounted aliceCreation.subnetId (RentalConditions.dailyCostCycles conditions)
        ((afterGrant.state.canister.rentalAgreements[aliceCreation.subnetId]?).get
          afterGrant_isSome)
        ended stored := by
  obtain ⟨conditions, ended, stored, -, htrace, -, haccounted⟩ :=
    account_of_run (System.reachable_get_perform (init_idle _ _) beforeGrant_isSome)
      (i := aliceCreation.subnetId) (by decide +kernel) (Option.some_get grant_isSome).symm
      (Option.some_get afterGrant_isSome).symm
      (System.runWithin_of_performWithin (Option.some_get topUpAmongBurns_isSome).symm)
  exact ⟨conditions, ended, stored, htrace, haccounted⟩

end SubnetRental.Cycles
