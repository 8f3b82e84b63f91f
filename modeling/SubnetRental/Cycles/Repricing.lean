import SubnetRental.Cycles.PaidTime

/-!
# The deadline after the migration

`app13ch_to_app7ch` keeps the unburned cycles of an agreement and sets its deadline to what they buy
at the cheaper condition. `repriced_not_earlier_iff` says when that is not before the old deadline:
exactly when the cycles pay, at the new cost per second, every second that starts before it. Over
runs it suffices that the cycles once paid the old cost up to the deadline: the burn passes keep
them above what the new cost needs until about two minutes before the deadline, when a pass may
already have burned the cycles of the last minute.
-/

set_option autoImplicit false
set_option relaxedAutoImplicit false

namespace SubnetRental.Cycles

open Canister Lifecycle Foundation.GuardedCalls Foundation.MachineInteger
open Foundation.TransitionSystem Foundation.FundedDeadline Std

/-- What an upgrade makes of an agreement of the target subnet that has the expensive condition. -/
structure Repriced (s : State) (a b : RentalAgreement) : Prop where
  stored : (postUpgrade s).rentalAgreements[targetSubnet]? = some b
  paidUntilNanos : b.paidUntilNanos = reprice a.cyclesRemaining
    (standardConditions .app7CH).dailyCostCycles s.now

theorem repriced_of_stored {s : State} {a : RentalAgreement}
    (hstored : s.rentalAgreements[targetSubnet]? = some a)
    (hcondition : a.rentalConditionId = .app13CH) : Repriced s a (repricedAgreement s.now a) := by
  refine ⟨?_, repricedAgreement_paidUntilNanos s.now a⟩
  obtain ⟨hother, -⟩ | ⟨b, hb, -, heq⟩ := postUpgrade_cases s
  · exact absurd hcondition (hother a hstored)
  · obtain rfl : a = b := Option.some.inj (hstored.symm.trans hb)
    rw [heq, State.persistEvent_rentalAgreements]
    exact ExtTreeMap.getElem?_insert_self

/-- The cycles of an agreement pay, at App7CH's cost per second, every second that starts before its
deadline. -/
def PaysUntilDeadline (now : ℕ) (a : RentalAgreement) : Prop :=
  440_000_000_000_000 / 86_400 * ((a.paidUntilNanos - now) ⌈/⌉ 10 ^ 9) ≤
    a.totalCyclesCreated - a.totalCyclesBurned

instance (now : ℕ) (a : RentalAgreement) : Decidable (PaysUntilDeadline now a) :=
  inferInstanceAs (Decidable (_ ≤ _))

/-- The new deadline is not earlier exactly when the cycles pay until the old one. -/
theorem Repriced.le_iff {s : State} {a b : RentalAgreement} (h : Repriced s a b)
    (hwell : WellFormedAgreement a) :
    a.paidUntilNanos ≤ b.paidUntilNanos ↔ PaysUntilDeadline s.now a := by
  have hbillion : 0 < billion := by decide
  have hperSecond : 0 < (standardConditions .app7CH).dailyCostCycles / secondsPerDay := by decide
  rw [h.paidUntilNanos, reprice_eq hperSecond.ne', Nat.le_min,
    and_iff_left (lt_two_pow_iff.mp hwell.paidUntil_lt), le_add_mul_div_iff hbillion hperSecond]
  exact Iff.rfl

/-- Cycles that pay the cost of App13CH up to a minute before the deadline pay that of App7CH until
the deadline, unless it is about two minutes away. -/
theorem paysUntilDeadline_of_funded {now : ℕ} {a : RentalAgreement}
    (hfunded : (9_490_740_740 : ℚ) * ((secondsLeft now a : ℚ) - 60) ≤
      (a.totalCyclesCreated - a.totalCyclesBurned : ℕ))
    (hahead : 131 ≤ secondsLeft now a) : PaysUntilDeadline now a := by
  have hstarted : (a.paidUntilNanos - now) ⌈/⌉ 10 ^ 9 ≤ secondsLeft now a + 1 :=
    ceilDiv_le_remaining (by decide) now a.paidUntilNanos
  have hbound : (9_490_740_740 : ℚ) * (secondsLeft now a : ℚ) ≤
      (a.totalCyclesCreated - a.totalCyclesBurned : ℕ) + 9_490_740_740 * 60 := by
    linarith
  have hcast : 9_490_740_740 * secondsLeft now a ≤
      (a.totalCyclesCreated - a.totalCyclesBurned) + 9_490_740_740 * 60 := by
    exact_mod_cast hbound
  have hneeded := Nat.mul_le_mul_left (440_000_000_000_000 / 86_400) hstarted
  unfold PaysUntilDeadline
  omega

/-- The migration does not set the deadline of an agreement on App13CH back exactly when the
unburned cycles pay, at App7CH's cost per second, every second that starts before the old deadline.
In every run from a state in which they pay App13CH's cost per second, with burn passes at least a
minute apart and sums that fit into 128 bits, that is so until about two minutes before it. -/
theorem repriced_not_earlier_iff {cycles : ℕ} :
    (∀ c a, (system cycles).Reachable c →
      c.state.canister.rentalAgreements[targetSubnet]? = some a →
      a.rentalConditionId = .app13CH →
        ∃ b, (postUpgrade c.state.canister).rentalAgreements[targetSubnet]? = some b ∧
          (a.paidUntilNanos ≤ b.paidUntilNanos ↔ PaysUntilDeadline c.state.canister.now a)) ∧
      ∀ c₀ c last a₀ a, (system cycles).Reachable c₀ →
        c₀.state.canister.rentalAgreements[targetSubnet]? = some a₀ →
        (9_490_740_740 : ℚ) * secondsLeft c₀.state.canister.now a₀ ≤
          (a₀.totalCyclesCreated - a₀.totalCyclesBurned : ℕ) →
        (paced cycles).RunWithin (fun s label ↦ pricedAt 9_490_740_740 targetSubnet s.1 ∧
          createdFits targetSubnet s.1 label) (c₀, none) (c, last) →
        c.state.canister.rentalAgreements[targetSubnet]? = some a →
        a.rentalConditionId = .app13CH → 131 ≤ secondsLeft c.state.canister.now a →
          ∃ b, (postUpgrade c.state.canister).rentalAgreements[targetSubnet]? = some b ∧
            a.paidUntilNanos ≤ b.paidUntilNanos := by
  constructor
  · intro c a hc hstored hcondition
    have hwell := (sound_of_reachable hc).inv.consistent.agreement_wellFormed targetSubnet a hstored
    have hrepriced := repriced_of_stored hstored hcondition
    exact ⟨_, hrepriced.stored, hrepriced.le_iff hwell⟩
  · intro c₀ c last a₀ a h₀ hstored₀ hfunded₀ hrun hstored hcondition hahead
    have hc : (system cycles).Reachable c := reachable_of_paced h₀ hrun
    have hconsistent := (sound_of_reachable hc).inv.consistent
    obtain ⟨b, hb, hfunded⟩ := funded_of_run h₀ (by norm_num) hstored₀ hfunded₀ hrun
    obtain rfl : a = b := Option.some.inj (hstored.symm.trans hb)
    have hpriced : pricedAt 9_490_740_740 targetSubnet c := by
      have hconditions := hconsistent.conditions .app13CH
      simp only [pricedAt, hstored, hcondition, hconditions]
      decide
    have hrepriced := repriced_of_stored hstored hcondition
    refine ⟨_, hrepriced.stored, ?_⟩
    rw [hrepriced.le_iff (hconsistent.agreement_wellFormed targetSubnet a hstored)]
    exact paysUntilDeadline_of_funded (hfunded hpriced) hahead

/-! ### The target subnet -/

def targetCreation : CreateRentalAgreementPayload where
  user := aliceProposal.user
  proposalId := 2
  subnetId := targetSubnet

/-- The target subnet is rented, and the CMC creates `convertedCycles` for the rest of the cost. -/
def targetRun (convertedCycles : ℕ) : List Label :=
  undisturbed (.executeRentalRequestProposal governanceCanisterId aliceProposal) 0
      [.exchangeRate (.ok (3_500_000_000, 9)), .accountBalance ⟨10 ^ 13⟩, .transfer (.ok 1),
        .notifyTopUp (.ok (10 ^ 16))] ++
    undisturbed (.executeCreateRentalAgreement governanceCanisterId targetCreation) 1
      [.transfer (.ok 2), .notifyTopUp (.ok convertedCycles), .authorized]

/-- The configuration after that run with cycles for 182 days. -/
def targetConfiguration : Configuration :=
  ((system (10 ^ 12)).perform (idle (installedWorld (10 ^ 12) fun _ ↦ 10 ^ 13))
    (targetRun (14 * 10 ^ 16))).get (by decide +kernel)

theorem reachable_targetConfiguration : (system (10 ^ 12)).Reachable targetConfiguration :=
  System.reachable_get_perform (init_idle _ _) _

/-- Two burn passes a day apart. -/
def burnedDay : List Label :=
  [.start .burnCycles, .environment (.pass (secondsPerDay * billion)), .start .burnCycles]

def burnedConfiguration : Configuration × Option ℕ :=
  ((paced (10 ^ 12)).performWithin (fun s label ↦ pricedAt 9_490_740_740 targetSubnet s.1 ∧
    createdFits targetSubnet s.1 label) (targetConfiguration, none) burnedDay).get
      (by decide +kernel)

theorem run_burnedConfiguration :
    (paced (10 ^ 12)).RunWithin (fun s label ↦ pricedAt 9_490_740_740 targetSubnet s.1 ∧
      createdFits targetSubnet s.1 label) (targetConfiguration, none) burnedConfiguration :=
  System.runWithin_of_performWithin (Option.some_get _).symm

theorem targetConfiguration_rented :
    (targetConfiguration.state.canister.rentalAgreements[targetSubnet]?).isSome := by
  decide +kernel

theorem burnedConfiguration_rented :
    (burnedConfiguration.1.state.canister.rentalAgreements[targetSubnet]?).isSome := by
  decide +kernel

theorem repriced_not_earlier_burned :
    (∃ b, (postUpgrade targetConfiguration.state.canister).rentalAgreements[targetSubnet]? =
        some b ∧
      (((targetConfiguration.state.canister.rentalAgreements[targetSubnet]?).get
          targetConfiguration_rented).paidUntilNanos ≤ b.paidUntilNanos ↔
        PaysUntilDeadline targetConfiguration.state.canister.now
          ((targetConfiguration.state.canister.rentalAgreements[targetSubnet]?).get
            targetConfiguration_rented))) ∧
      ∃ b, (postUpgrade burnedConfiguration.1.state.canister).rentalAgreements[targetSubnet]? =
          some b ∧
        ((burnedConfiguration.1.state.canister.rentalAgreements[targetSubnet]?).get
          burnedConfiguration_rented).paidUntilNanos ≤ b.paidUntilNanos :=
  ⟨repriced_not_earlier_iff.1 _ _ reachable_targetConfiguration (Option.some_get _).symm
      (by decide +kernel),
    repriced_not_earlier_iff.2 _ _ burnedConfiguration.2 _ _ reachable_targetConfiguration
      (Option.some_get targetConfiguration_rented).symm (by decide +kernel)
      run_burnedConfiguration (Option.some_get burnedConfiguration_rented).symm
      (by decide +kernel) (by decide +kernel)⟩

/-- The configuration after that run when ICP has lost nine tenths of its price before the
conversion of the rest. -/
def cheapConfiguration : Configuration :=
  ((system (10 ^ 12)).perform (idle (installedWorld (10 ^ 12) fun _ ↦ 10 ^ 13))
    (targetRun (9 * 10 ^ 15))).get (by decide +kernel)

theorem reachable_cheapConfiguration : (system (10 ^ 12)).Reachable cheapConfiguration :=
  System.reachable_get_perform (init_idle _ _) _

theorem cheapConfiguration_rented :
    (cheapConfiguration.state.canister.rentalAgreements[targetSubnet]?).isSome := by
  decide +kernel

/-- Then the migration shortens the paid time from 180 days to 43. -/
theorem repriced_earlier :
    ∃ c a b, (system (10 ^ 12)).Reachable c ∧
      c.state.canister.rentalAgreements[targetSubnet]? = some a ∧
      a.rentalConditionId = .app13CH ∧
      (postUpgrade c.state.canister).rentalAgreements[targetSubnet]? = some b ∧
      b.paidUntilNanos < a.paidUntilNanos :=
  ⟨cheapConfiguration, _, _, reachable_cheapConfiguration,
    (Option.some_get cheapConfiguration_rented).symm, by decide +kernel,
    (repriced_of_stored (Option.some_get cheapConfiguration_rented).symm
      (by decide +kernel)).stored, by decide +kernel⟩

end SubnetRental.Cycles
