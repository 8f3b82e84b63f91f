import SubnetRental.Cycles.Account
import SubnetRental.Foundation.FundedDeadline
import SubnetRental.Lifecycle.Steps
import Mathlib.Data.Rat.Cast.Order

/-!
# Paid time stays funded

An agreement is a prepaid account: its unburned cycles are the stock, a period is a second, and a
burn pass takes the share of 60 seconds. `prepaid_step` shows that every step of the canister,
passes at least a minute apart, does to an agreement what may be done to a prepaid account; a top-up
extends it and the migration reprices it at the daily cost of its condition. So an agreement that
funds a price up to its deadline goes on doing so over runs of any length, up to the one minute that
a pass burns in advance (`paid_time_funded`).

The cycles of an agreement are counted in a 128-bit sum that saturates, and a top-up beyond that
extends the deadline without adding cycles (`paid_time_not_funded_saturated`).
-/

set_option autoImplicit false
set_option relaxedAutoImplicit false

namespace SubnetRental.Cycles

open Canister Lifecycle Foundation.GuardedCalls Foundation.MachineInteger
open Foundation.TransitionSystem Foundation.FundedDeadline Std

/-! ### Burn passes at a distance -/

/-- The interval of the burn timer in nanoseconds. -/
def burnIntervalNanos : ℕ := billion * cyclesBurnIntervalSeconds

/-- The canister with burn passes at least a minute apart, and the time of the last one. -/
def paced (cycles : ℕ) : System (Configuration × Option ℕ) Label where
  init s := (system cycles).init s.1 ∧ s.2 = none
  next s a :=
    match a with
    | .start .burnCycles =>
      if ∀ last ∈ s.2, last + burnIntervalNanos ≤ s.1.state.canister.now then
        ((system cycles).next s.1 a).map fun c ↦ (c, some s.1.state.canister.now)
      else none
    | _ => ((system cycles).next s.1 a).map fun c ↦ (c, s.2)

/-- A step of the paced canister is a step of the canister, and it records the time of a pass. -/
theorem next_of_paced {cycles : ℕ} {s s' : Configuration × Option ℕ} {a : Label}
    (h : (paced cycles).next s a = some s') :
    (system cycles).next s.1 a = some s'.1 ∧
      ((a = .start .burnCycles ∧ s'.2 = some s.1.state.canister.now ∧
          ∀ last ∈ s.2, last + burnIntervalNanos ≤ s.1.state.canister.now) ∨
        (a ≠ .start .burnCycles ∧ s'.2 = s.2)) := by
  simp only [paced] at h
  split at h
  · split_ifs at h with hapart
    obtain ⟨c, hnext, rfl⟩ := Option.map_eq_some_iff.mp h
    exact ⟨hnext, .inl ⟨rfl, rfl, hapart⟩⟩
  · rename_i hother
    obtain ⟨c, hnext, rfl⟩ := Option.map_eq_some_iff.mp h
    exact ⟨hnext, .inr ⟨fun ha ↦ hother ha, rfl⟩⟩

theorem reachable_of_paced {cycles : ℕ} {allowed : Configuration × Option ℕ → Label → Prop}
    {s t : Configuration × Option ℕ} (hs : (system cycles).Reachable s.1)
    (hrun : (paced cycles).RunWithin allowed s t) : (system cycles).Reachable t.1 :=
  System.ReachableWithin.append hs (System.run_of_refines Prod.fst
    (fun _ _ _ _ hnext ↦ System.Run.tail (System.RunWithin.refl _) (next_of_paced hnext).1) hrun)

/-- Only the environment lets time pass. -/
theorem now_of_next {cycles : ℕ} {c c' : Configuration} {a : Label}
    (hnext : (system cycles).next c a = some c') :
    c'.state.canister.now = c.state.canister.now ∨
      (∃ nanos, a = .environment (.pass nanos)) ∧
        c.state.canister.now ≤ c'.state.canister.now := by
  have hstep := canisterStep_of_next hnext
  generalize c'.state.canister = s' at hstep ⊢
  cases hstep with
  | refused | answered | dropped | paid | received | reserved => exact .inl rfl
  | started operation s' hleaves =>
    refine .inl (hleaves (fun s' ↦ s'.now = c.state.canister.now) ?_)
    exact start_leaving framing_quiet operation (fun _ hquiet ↦ hquiet.now) fun _ _ hpass ↦
      (burnPass_burnsOnly hpass).now
  | resumed id operation frame answer s' hcall hleaves =>
    exact .inl (sameSetting_of_effect (hleaves _ (resume_effect frame answer _))).now
  | passed nanos => exact .inr ⟨⟨nanos, rfl⟩, Nat.le_add_right _ _⟩
  | upgraded hidle => exact .inl (upgraded_postUpgrade c.state.canister).now

/-! ### Agreements as prepaid accounts -/

/-- Up to when a pass has burned cycles in advance. -/
def horizon (now : ℕ) (last : Option ℕ) : ℕ := max now (last.elim 0 (· + burnIntervalNanos))

/-- An agreement as a prepaid account. -/
def prepaid (now : ℕ) (last : Option ℕ) (a : RentalAgreement) : Prepaid where
  stock := a.cyclesRemaining
  deadline := a.paidUntilNanos
  horizon := horizon now last

/-- Cycles per second at the daily cost of a condition. -/
def perSecond (conditions : RentalConditions) : ℕ := conditions.dailyCostCycles / secondsPerDay

theorem perSecond_ne_zero (id : RentalConditionId) : perSecond (standardConditions id) ≠ 0 :=
  (perSecond_pos id).ne'

/-- The migration sets the deadline to what the cycles buy, as far as it fits in 64 bits. -/
theorem reprice_eq {cyclesRemaining dailyCostCycles now : ℕ}
    (hcost : dailyCostCycles / secondsPerDay ≠ 0) :
    reprice cyclesRemaining dailyCostCycles now =
      min (now + billion * (cyclesRemaining / (dailyCostCycles / secondsPerDay)))
        (maxValue 64) := by
  have hmax : maxValue 64 < maxValue 128 := by decide
  unfold reprice
  rw [if_neg hcost]
  generalize cyclesRemaining / (dailyCostCycles / secondsPerDay) = seconds
  unfold checkedCast saturatingAdd saturatingMul
  dsimp only
  generalize billion * seconds = nanos
  by_cases hfits : nanos < 2 ^ 64
  · have hsmall : nanos ≤ maxValue 128 := (lt_two_pow_iff.mp hfits).trans hmax.le
    rw [min_eq_left hsmall, if_pos hfits]
  · have hlarge : maxValue 64 < nanos := (maxValue_lt 64).trans_le (Nat.le_of_not_lt hfits)
    have hnot : ¬ min nanos (maxValue 128) < 2 ^ 64 := by
      rw [lt_two_pow_iff, Nat.not_le]
      exact lt_min hlarge hmax
    rw [if_neg hnot, min_eq_right (hlarge.le.trans (Nat.le_add_left _ _))]

theorem reprice_le {cyclesRemaining dailyCostCycles now : ℕ}
    (hcost : dailyCostCycles / secondsPerDay ≠ 0) :
    reprice cyclesRemaining dailyCostCycles now ≤
      now + billion * (cyclesRemaining / (dailyCostCycles / secondsPerDay)) :=
  (reprice_eq hcost).trans_le (min_le_left _ _)

/-- What the pass asks for is at most the rounded share of a minute. -/
theorem burnAmount_le_share {now : ℕ} {a : RentalAgreement} (h : now < a.paidUntilNanos) :
    burnAmount now a ≤
      a.cyclesRemaining / remaining billion now a.paidUntilNanos * cyclesBurnIntervalSeconds := by
  unfold burnAmount
  rw [if_neg (Nat.not_le.mpr h)]
  exact (min_le_left _ _).trans wrappingMul_le

/-- The cycles a finished top-up is about to add to an agreement fit into its 128-bit sum. -/
def createdFits (i : Principal) (c : Configuration) : Label → Bool
  | .resume id =>
    match c.calls[id]? with
    | some ⟨_, .topUpConvert subnetId a _ _ _, some (.notifyTopUp (.ok actualCycles))⟩ =>
      subnetId ≠ i || a.totalCyclesCreated + actualCycles < 2 ^ 128
    | _ => true
  | _ => true

section Step

variable {cycles : ℕ} {c c' : Configuration} {last last' : Option ℕ} {label : Label}

/-- The horizon does not move back. -/
theorem horizon_le_of_paced (hnext : (paced cycles).next (c, last) label = some (c', last')) :
    horizon c.state.canister.now last ≤ horizon c'.state.canister.now last' := by
  obtain ⟨hstep, hlast⟩ := next_of_paced hnext
  have hnow : c.state.canister.now ≤ c'.state.canister.now := by
    obtain heq | ⟨-, hle⟩ := now_of_next hstep
    · exact heq.ge
    · exact hle
  unfold horizon
  obtain ⟨-, hpass, hapart⟩ | ⟨-, hsame⟩ := hlast
  · dsimp only at hpass hapart
    subst hpass
    cases last with
    | none => exact (max_eq_left (Nat.zero_le _)).trans_le (hnow.trans (le_max_left _ _))
    | some time =>
      have hle : time + burnIntervalNanos ≤ c.state.canister.now := hapart time rfl
      exact (max_eq_left hle).trans_le (hnow.trans (le_max_left _ _))
  · dsimp only at hsame
    subst hsame
    exact max_le_max_right _ hnow

/-- Every step does to an agreement what may be done to a prepaid account, at the rate of the
condition that the agreement has after the step. -/
theorem prepaid_step (hc : (system cycles).Reachable c)
    (hnext : (paced cycles).next (c, last) label = some (c', last')) {i : Principal}
    {a : RentalAgreement} (ha : c.state.canister.rentalAgreements[i]? = some a)
    (hfits : createdFits i c label) :
    ∃ b, c'.state.canister.rentalAgreements[i]? = some b ∧
      Step billion cyclesBurnIntervalSeconds (perSecond (standardConditions b.rentalConditionId))
        (prepaid c.state.canister.now last a) (prepaid c'.state.canister.now last' b) := by
  have hconsistent := (sound_of_reachable hc).inv.consistent
  have hahead := horizon_le_of_paced hnext
  obtain ⟨hstep, hlast⟩ := next_of_paced hnext
  dsimp only at hstep hlast
  have hnow := now_of_next hstep
  have hwell := hconsistent.agreement_wellFormed i a ha
  obtain ⟨ended, -, hkind⟩ := agreementStep_of_next hc hstep i
  cases hkind with
  | kept _ _ hsame => exact ⟨a, hsame.trans ha, .wait hahead⟩
  | granted _ _ new hnone => exact absurd (hnone.symm.trans ha) (by simp)
  | toppedUp id _ stored balance amount blockIndex actualCycles conditions hcall hstored hconditions
      hnew =>
    obtain rfl : a = stored := Option.some.inj (ha.symm.trans hstored)
    obtain rfl : standardConditions a.rentalConditionId = conditions :=
      Option.some.inj ((hconsistent.conditions _).symm.trans hconditions)
    obtain ⟨ha', -⟩ | ⟨-, rfl⟩ := hlast
    · cases ha'
    obtain hnow | ⟨⟨nanos, hpass⟩, -⟩ := hnow
    · have hsum : a.totalCyclesCreated + actualCycles < 2 ^ 128 := by
        simpa [createdFits, hcall] using hfits
      refine ⟨_, hnew, ?_⟩
      have hburned := hwell.burned_le
      have hstock : (toppedUpAgreement a a
          (standardConditions a.rentalConditionId).dailyCostCycles actualCycles
          balance).cyclesRemaining = a.cyclesRemaining + actualCycles := by
        unfold RentalAgreement.cyclesRemaining
        rw [toppedUpAgreement_totalCyclesCreated, toppedUpAgreement_totalCyclesBurned,
          saturatingAdd_of_lt hsum]
        omega
      unfold prepaid
      rw [hnow, hstock]
      refine .extend ?_
      rw [toppedUpAgreement_paidUntilNanos, newPaidUntilNanos_eq]
      exact min_le_left _ _
    · cases hpass
  | burned _ stored burned hstored hle hnew =>
    obtain rfl : a = stored := Option.some.inj (ha.symm.trans hstored)
    refine ⟨_, hnew, ?_⟩
    obtain ⟨-, hpass, hapart⟩ | ⟨hother, -⟩ := hlast
    · obtain hnow | ⟨⟨nanos, hpass'⟩, -⟩ := hnow
      · have hremaining := hle.trans (burnAmount_le c.state.canister.now a)
        have hdue : horizon c.state.canister.now last ≤ c.state.canister.now := by
          cases last with
          | none => exact (max_eq_left (Nat.zero_le _)).le
          | some time => exact (max_eq_left (hapart time rfl)).le
        have hhorizon : horizon c'.state.canister.now last' =
            c.state.canister.now + billion * cyclesBurnIntervalSeconds := by
          rw [hpass, hnow]
          exact max_eq_right (Nat.le_add_right _ _)
        have hstock : (burnedAgreement a burned).cyclesRemaining = a.cyclesRemaining - burned := by
          unfold RentalAgreement.cyclesRemaining
          rw [(wellFormed_burned hwell hremaining).1, ← Nat.sub_sub]
          rfl
        unfold prepaid
        rw [hhorizon, hstock]
        exact .consume hdue hremaining fun hahead ↦ hle.trans (burnAmount_le_share hahead)
      · cases hpass'
    · exact absurd rfl hother
  | repriced stored hstored hnew =>
    obtain rfl : a = stored := Option.some.inj (ha.symm.trans hstored)
    refine ⟨_, hnew, ?_⟩
    obtain ⟨hpass, -⟩ | ⟨-, rfl⟩ := hlast
    · cases hpass
    obtain hnow | ⟨⟨nanos, hpass⟩, -⟩ := hnow
    · unfold prepaid
      rw [hnow]
      refine .reprice ?_
      rw [repricedAgreement_paidUntilNanos]
      refine (reprice_le (perSecond_ne_zero .app7CH)).trans ?_
      exact Nat.add_le_add_right (le_max_left _ _) _
    · cases hpass

end Step

/-! ### Runs -/

/-- Whole seconds of paid time left. -/
def secondsLeft (now : ℕ) (a : RentalAgreement) : ℕ := (a.paidUntilNanos - now) / 10 ^ 9

/-- A price is at most the rounded daily cost per second of the condition that the agreement of a
subnet has. -/
def pricedAt (price : ℚ) (i : Principal) (c : Configuration) : Bool :=
  match c.state.canister.rentalAgreements[i]? with
  | none => true
  | some a =>
    match c.state.canister.rentalConditions a.rentalConditionId with
    | none => true
    | some conditions => price ≤ ((conditions.dailyCostCycles / 86_400 : ℕ) : ℚ)

theorem price_le_of_pricedAt {cycles : ℕ} {price : ℚ} {i : Principal} {c : Configuration}
    (hc : (system cycles).Reachable c) (h : pricedAt price i c) {a : RentalAgreement}
    (ha : c.state.canister.rentalAgreements[i]? = some a) :
    price ≤ (perSecond (standardConditions a.rentalConditionId) : ℚ) := by
  have hconditions := (sound_of_reachable hc).inv.consistent.conditions a.rentalConditionId
  change price ≤
    (((standardConditions a.rentalConditionId).dailyCostCycles / 86_400 : ℕ) : ℚ)
  simpa only [pricedAt, ha, hconditions, decide_eq_true_eq] using h

/-- What holds over a run from a state in which the agreement of a subnet is funded: the last pass
is not in the future, and the agreement is funded as a prepaid account while its condition is
priced. -/
structure StaysFunded (cycles : ℕ) (price : ℚ) (i : Principal) (s : Configuration × Option ℕ) :
    Prop where
  reachable : (system cycles).Reachable s.1
  last_le : ∀ last ∈ s.2, last ≤ s.1.state.canister.now
  funded : ∃ a, s.1.state.canister.rentalAgreements[i]? = some a ∧
    (pricedAt price i s.1 → Funded billion price (prepaid s.1.state.canister.now s.2 a))

theorem staysFunded_of_funded {cycles : ℕ} {c : Configuration} {i : Principal} {a : RentalAgreement}
    {price : ℚ} (hc : (system cycles).Reachable c)
    (ha : c.state.canister.rentalAgreements[i]? = some a)
    (hfunded : price * secondsLeft c.state.canister.now a ≤
      (a.totalCyclesCreated - a.totalCyclesBurned : ℕ)) :
    StaysFunded cycles price i (c, none) := by
  refine ⟨hc, (fun _ h ↦ by cases h), a, ha, fun _ ↦ ?_⟩
  have hhorizon : horizon c.state.canister.now none = c.state.canister.now :=
    max_eq_left (Nat.zero_le _)
  change Funded billion price (prepaid c.state.canister.now none a)
  unfold Funded prepaid
  rw [hhorizon]
  exact hfunded

/-- A step keeps an account funded. -/
theorem StaysFunded.step {cycles : ℕ} {price : ℚ} {i : Principal} {s t : Configuration × Option ℕ}
    {label : Label} (hs : StaysFunded cycles price i s) (hprice : 0 ≤ price)
    (hpriced : pricedAt price i s.1) (hfits : createdFits i s.1 label)
    (hnext : (paced cycles).next s label = some t) : StaysFunded cycles price i t := by
  obtain ⟨u, lastU⟩ := s
  obtain ⟨v, lastV⟩ := t
  obtain ⟨hu, htimes, a, ha, hfunded⟩ := hs
  have hstep := next_of_paced hnext
  have hv : (system cycles).Reachable v := hu.tail hstep.1
  have hnow : u.state.canister.now ≤ v.state.canister.now := by
    obtain heq | ⟨-, hle⟩ := now_of_next hstep.1
    · exact heq.ge
    · exact hle
  obtain ⟨b, hb, hprepaid⟩ := prepaid_step hu hnext ha hfits
  refine ⟨hv, ?_, b, hb, fun hprice_v ↦ ?_⟩
  · intro time htime
    obtain ⟨-, hpass, -⟩ | ⟨-, hsame⟩ := hstep.2
    · dsimp only at hpass htime
      rw [hpass] at htime
      obtain rfl := Option.some.inj htime
      exact hnow
    · dsimp only at hsame htime
      rw [hsame] at htime
      exact (htimes time htime).trans hnow
  · exact (hfunded hpriced).step (by decide) hprice (price_le_of_pricedAt hv hprice_v hb) hprepaid

/-- An account that is funded at the start of a run with burn passes at least a minute apart is
funded in every state whose condition is priced. -/
theorem funded_of_run {cycles : ℕ} {c₀ c : Configuration} {last : Option ℕ} {i : Principal}
    {a₀ : RentalAgreement} {price : ℚ} (h₀ : (system cycles).Reachable c₀) (hprice : 0 ≤ price)
    (ha₀ : c₀.state.canister.rentalAgreements[i]? = some a₀)
    (hfunded : price * secondsLeft c₀.state.canister.now a₀ ≤
      (a₀.totalCyclesCreated - a₀.totalCyclesBurned : ℕ))
    (hrun : (paced cycles).RunWithin (fun s label ↦ pricedAt price i s.1 ∧ createdFits i s.1 label)
      (c₀, none) (c, last)) :
    ∃ a, c.state.canister.rentalAgreements[i]? = some a ∧ (pricedAt price i c →
      price * ((secondsLeft c.state.canister.now a : ℚ) - 60) ≤
        (a.totalCyclesCreated - a.totalCyclesBurned : ℕ)) := by
  have hinvariant : StaysFunded cycles price i (c, last) :=
    hrun.induct (staysFunded_of_funded h₀ ha₀ hfunded) fun _ _ _ _ hu ⟨hpriced, hfits⟩ hnext ↦
      hu.step hprice hpriced hfits hnext
  obtain ⟨-, htimes, a, ha, hfunded⟩ := hinvariant
  refine ⟨a, ha, fun hpriced ↦ ?_⟩
  have hhorizon : horizon c.state.canister.now last ≤
      c.state.canister.now + billion * cyclesBurnIntervalSeconds := by
    refine max_le (Nat.le_add_right _ _) ?_
    cases last with
    | none => exact Nat.zero_le _
    | some time => exact Nat.add_le_add_right (htimes time rfl) _
  exact (hfunded hpriced).le hprice hhorizon

/-- In every interleaving with burn passes at least a minute apart, an agreement whose cycles pay a
price up to its deadline pays it ever after, up to one minute, as long as the price is at most that
of the conditions it has and its created cycles fit into 128 bits. -/
theorem paid_time_funded {cycles : ℕ} {c₀ c : Configuration} {last : Option ℕ} {i : Principal}
    {a₀ : RentalAgreement} {price : ℚ} (h₀ : (system cycles).Reachable c₀) (hprice : 0 ≤ price)
    (ha₀ : c₀.state.canister.rentalAgreements[i]? = some a₀)
    (hfunded : price * secondsLeft c₀.state.canister.now a₀ ≤
      (a₀.totalCyclesCreated - a₀.totalCyclesBurned : ℕ))
    (hrun : (paced cycles).RunWithin (fun s label ↦ pricedAt price i s.1 ∧ createdFits i s.1 label)
      (c₀, none) (c, last))
    (hpriced : pricedAt price i c) :
    ∃ a, c.state.canister.rentalAgreements[i]? = some a ∧
      price * ((secondsLeft c.state.canister.now a : ℚ) - 60) ≤
        (a.totalCyclesCreated - a.totalCyclesBurned : ℕ) := by
  obtain ⟨a, ha, hfundedLast⟩ := funded_of_run h₀ hprice ha₀ hfunded hrun
  exact ⟨a, ha, hfundedLast hpriced⟩

theorem rented_isSome :
    (rentedConfiguration.state.canister.rentalAgreements[aliceCreation.subnetId]?).isSome := by
  decide +kernel

theorem pacedTopUpAmongBurns_isSome :
    ((paced (10 ^ 12)).performWithin (fun s label ↦
      pricedAt 6_000_000_000 aliceCreation.subnetId s.1 ∧
        createdFits aliceCreation.subnetId s.1 label) (rentedConfiguration, none)
      topUpAmongBurns).isSome := by
  decide +kernel

/-- The configuration after a top-up among burn passes, and the time of the last pass. -/
def toppedUpConfiguration : Configuration × Option ℕ :=
  ((paced (10 ^ 12)).performWithin (fun s label ↦
    pricedAt 6_000_000_000 aliceCreation.subnetId s.1 ∧
      createdFits aliceCreation.subnetId s.1 label) (rentedConfiguration, none)
    topUpAmongBurns).get pacedTopUpAmongBurns_isSome

theorem paid_time_funded_toppedUp :
    ∃ a, toppedUpConfiguration.1.state.canister.rentalAgreements[aliceCreation.subnetId]? =
        some a ∧
      (6_000_000_000 : ℚ) *
          ((secondsLeft toppedUpConfiguration.1.state.canister.now a : ℚ) - 60) ≤
        (a.totalCyclesCreated - a.totalCyclesBurned : ℕ) :=
  paid_time_funded reachable_rentedConfiguration (by decide +kernel)
    (Option.some_get rented_isSome).symm (by decide +kernel)
    (System.runWithin_of_performWithin (Option.some_get pacedTopUpAmongBurns_isSome).symm)
    (by decide +kernel)

/-! ### Saturated sums -/

/-- The CMC creates almost `2 ^ 128` cycles for an agreement. -/
def nearlySaturated : List Label :=
  undisturbed (.executeRentalRequestProposal governanceCanisterId aliceProposal) 0
      [.exchangeRate (.ok (3_500_000_000, 9)), .accountBalance ⟨10 ^ 13⟩, .transfer (.ok 1),
        .notifyTopUp (.ok (10 ^ 16))] ++
    undisturbed (.executeCreateRentalAgreement governanceCanisterId aliceCreation) 1
      [.transfer (.ok 2), .notifyTopUp (.ok (2 ^ 128 - 10 ^ 17)), .authorized]

/-- At the deadline a pass burns what is left, and a top-up follows. -/
def topUpAfterDeadline : List Label :=
  [.environment (.pass (180 * secondsPerDay * billion)), .start .burnCycles,
    .environment (.payIcp aliceCreation.user ⟨10 ^ 10⟩)] ++
    undisturbed (.topUpSubnet aliceCreation.subnetId) 2
      [.accountBalance ⟨10 ^ 10⟩, .transfer (.ok 3), .notifyTopUp (.ok (10 ^ 18))]

theorem nearlySaturated_isSome :
    ((system (10 ^ 12)).perform (idle (installedWorld (10 ^ 12) fun _ ↦ 10 ^ 13))
      nearlySaturated).isSome := by
  decide +kernel

def nearlySaturatedConfiguration : Configuration :=
  ((system (10 ^ 12)).perform (idle (installedWorld (10 ^ 12) fun _ ↦ 10 ^ 13))
    nearlySaturated).get nearlySaturated_isSome

theorem topUpAfterDeadline_isSome :
    ((paced (10 ^ 12)).performWithin
      (fun s _ ↦ pricedAt 9_490_740_740 aliceCreation.subnetId s.1)
      (nearlySaturatedConfiguration, none) topUpAfterDeadline).isSome := by
  decide +kernel

def saturatedConfiguration : Configuration × Option ℕ :=
  ((paced (10 ^ 12)).performWithin
    (fun s _ ↦ pricedAt 9_490_740_740 aliceCreation.subnetId s.1)
    (nearlySaturatedConfiguration, none) topUpAfterDeadline).get topUpAfterDeadline_isSome

/-- The agreement of Alice's subnet satisfies a decidable property. -/
def agreementOfAlice (c : Configuration) (P : ℕ → RentalAgreement → Bool) : Bool :=
  match c.state.canister.rentalAgreements[aliceCreation.subnetId]? with
  | none => false
  | some a => P c.state.canister.now a

theorem exists_of_agreementOfAlice {c : Configuration} {P : ℕ → RentalAgreement → Bool}
    (h : agreementOfAlice c P) :
    ∃ a, c.state.canister.rentalAgreements[aliceCreation.subnetId]? = some a ∧
      P c.state.canister.now a := by
  unfold agreementOfAlice at h
  split at h
  · cases h
  · rename_i a ha
    exact ⟨a, ha, h⟩

/-- An agreement that funds the price of its condition up to its deadline no longer does so after a
top-up whose cycles exceed the 128-bit sum. -/
theorem paid_time_not_funded_saturated :
    ∃ c₀ c last a₀ a, (system (10 ^ 12)).Reachable c₀ ∧
      c₀.state.canister.rentalAgreements[aliceCreation.subnetId]? = some a₀ ∧
      (9_490_740_740 : ℚ) * secondsLeft c₀.state.canister.now a₀ ≤
        (a₀.totalCyclesCreated - a₀.totalCyclesBurned : ℕ) ∧
      (paced (10 ^ 12)).RunWithin (fun s _ ↦ pricedAt 9_490_740_740 aliceCreation.subnetId s.1)
        (c₀, none) (c, last) ∧
      pricedAt 9_490_740_740 aliceCreation.subnetId c ∧
      c.state.canister.rentalAgreements[aliceCreation.subnetId]? = some a ∧
      ¬ (9_490_740_740 : ℚ) * ((secondsLeft c.state.canister.now a : ℚ) - 60) ≤
        (a.totalCyclesCreated - a.totalCyclesBurned : ℕ) := by
  obtain ⟨a₀, ha₀, hfunded⟩ := exists_of_agreementOfAlice
    (c := nearlySaturatedConfiguration) (P := fun now a ↦
      decide ((9_490_740_740 : ℚ) * secondsLeft now a ≤
        (a.totalCyclesCreated - a.totalCyclesBurned : ℕ))) (by decide +kernel)
  obtain ⟨a, ha, hnot⟩ := exists_of_agreementOfAlice
    (c := saturatedConfiguration.1) (P := fun now a ↦
      decide (¬ (9_490_740_740 : ℚ) * ((secondsLeft now a : ℚ) - 60) ≤
        (a.totalCyclesCreated - a.totalCyclesBurned : ℕ))) (by decide +kernel)
  exact ⟨nearlySaturatedConfiguration, saturatedConfiguration.1, saturatedConfiguration.2, a₀, a,
    System.reachable_get_perform (init_idle _ _) nearlySaturated_isSome, ha₀,
    of_decide_eq_true hfunded,
    System.runWithin_of_performWithin (Option.some_get topUpAfterDeadline_isSome).symm,
    by decide +kernel, ha, of_decide_eq_true hnot⟩

end SubnetRental.Cycles
