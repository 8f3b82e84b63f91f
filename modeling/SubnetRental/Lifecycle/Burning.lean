import SubnetRental.Lifecycle.Effects

/-!
# The burn pass, agreement by agreement

`burn_cycles` visits the agreements of its snapshot one after another. `burnOne_eq` says what it
does at one of them, in closed form: nothing while the lock of the agreement is held or nothing is
left, a trap when less than a second of paid time remains (`Indivisible`), and otherwise one call of
`cycles_burn` with `burnAmount` whose result is added to the agreement. `BurnStep` is the inversion
for the passes that do not trap, and `burnLoop_induct` carries whatever such steps keep through a
pass of any length.
-/

set_option autoImplicit false
set_option relaxedAutoImplicit false

namespace SubnetRental.Lifecycle

open Canister Foundation.GuardedCalls Foundation.MachineInteger Foundation.TreeMapTotals Std

/-- Unburned cycles, a deadline ahead, and less than a whole second until then: the rate of the
burn pass divides by zero. -/
def Indivisible (now : ℕ) (a : RentalAgreement) : Prop :=
  a.cyclesRemaining ≠ 0 ∧ now < a.paidUntilNanos ∧ a.paidUntilNanos - now < billion

instance (now : ℕ) (a : RentalAgreement) : Decidable (Indivisible now a) :=
  inferInstanceAs (Decidable (_ ∧ _))

/-- What the burn pass asks `cycles_burn` for. -/
def burnAmount (now : ℕ) (a : RentalAgreement) : ℕ :=
  if a.paidUntilNanos ≤ now then a.cyclesRemaining
  else
    min (wrappingMul 128 (a.cyclesRemaining / ((a.paidUntilNanos - now) / billion))
      cyclesBurnIntervalSeconds) a.cyclesRemaining

theorem burnAmount_le (now : ℕ) (a : RentalAgreement) : burnAmount now a ≤ a.cyclesRemaining := by
  unfold burnAmount
  split_ifs
  · exact le_rfl
  · exact min_le_right _ _

/-- The agreement after `burned` cycles were burned for it. -/
def burnedAgreement (a : RentalAgreement) (burned : ℕ) : RentalAgreement :=
  { a with totalCyclesBurned := saturatingAdd 128 a.totalCyclesBurned burned }

/-- The state after `burned` cycles were burned for the agreement `a` of a subnet. -/
def burnedState (s : State) (subnetId : Principal) (a : RentalAgreement) (burned : ℕ) : State :=
  { s with
    cycles := s.cycles - burned
    rentalAgreements := s.rentalAgreements.insert subnetId (burnedAgreement a burned) }

/-- Taking and dropping a free lock leaves the state as it was. -/
theorem dropGuards_insertLock {s : State} {lock : Lock} (hfree : lock ∉ s.locks) :
    State.dropGuards { s with locks := insert lock s.locks } {lock} = s := by
  have hlocks : insert lock s.locks \ {lock} = s.locks := by
    rw [Finset.sdiff_singleton_eq_erase, Finset.erase_insert hfree]
  change { s with locks := insert lock s.locks \ {lock} } = s
  rw [hlocks]

/-- `cycles_burn` for a stored agreement, and the record of what it burned. -/
theorem burnFor_eq {s : State} {subnetId : Principal} {a : RentalAgreement}
    (hstored : s.rentalAgreements[subnetId]? = some a) (amount : ℕ) :
    burnFor subnetId amount s =
      (min amount (s.cycles - s.reserve),
        burnedState s subnetId a (min amount (s.cycles - s.reserve))) := by
  unfold burnFor State.cyclesBurn State.updateRentalAgreement
  simp only [hstored]
  rfl

/-- What the loop of the burn pass does at one subnet. -/
theorem burnOne_eq (subnetId : Principal) (s : State) :
    burnOne subnetId s =
      if agreementLock subnetId ∈ s.locks then .ok ([], s)
      else
        match s.rentalAgreements[subnetId]? with
        | none => .ok ([], s)
        | some a =>
          if a.cyclesRemaining = 0 then .ok ([], s)
          else if Indivisible s.now a then .error .divisionByZero
          else
            let burned := min (burnAmount s.now a) (s.cycles - s.reserve)
            .ok ([(subnetId, burned)], burnedState s subnetId a burned) := by
  unfold burnOne State.callerGuard
  by_cases hheld : agreementLock subnetId ∈ s.locks
  · simp only [hheld, if_true]
  simp only [hheld, if_false]
  have hback := dropGuards_insertLock hheld
  unfold burnGuarded State.getRentalAgreement
  cases hstored : s.rentalAgreements[subnetId]? with
  | none => simp only [hback]
  | some a =>
    have hdrop : ∀ burned, State.dropGuards
        (burnedState { s with locks := insert (agreementLock subnetId) s.locks } subnetId a burned)
        {agreementLock subnetId} = burnedState s subnetId a burned := fun burned ↦
      dropGuards_insertLock (s := burnedState s subnetId a burned) hheld
    have hburnFor :=
      @burnFor_eq { s with locks := insert (agreementLock subnetId) s.locks } subnetId
      a hstored
    by_cases hnone : a.cyclesRemaining = 0
    · simp only [hnone, if_true, hback]
    by_cases hpast : a.paidUntilNanos ≤ s.now
    · have hdivisible : ¬ Indivisible s.now a := fun h ↦ absurd h.2.1 (Nat.not_lt.mpr hpast)
      simp only [hnone, hpast, hdivisible, burnAmount, if_true, if_false, hburnFor, hdrop]
    by_cases hseconds : (a.paidUntilNanos - s.now) / billion = 0
    · have hindivisible : Indivisible s.now a :=
        ⟨hnone, Nat.lt_of_not_le hpast, (Nat.div_eq_zero_iff_lt (by decide)).mp hseconds⟩
      simp only [hnone, hpast, hseconds, hindivisible, if_true, if_false]
    · have hdivisible : ¬ Indivisible s.now a := fun h ↦
        hseconds (Nat.div_eq_of_lt h.2.2)
      simp only [hnone, hpast, hseconds, hdivisible, burnAmount, if_false, hburnFor, hdrop]

/-- What the loop of the burn pass does at one subnet when it does not trap. -/
inductive BurnStep (s : State) (subnetId : Principal) : List (Principal × ℕ) → State → Prop
  | skip : BurnStep s subnetId [] s
  | burn (a : RentalAgreement) (burned : ℕ) (hfree : agreementLock subnetId ∉ s.locks)
      (hstored : s.rentalAgreements[subnetId]? = some a) (hsome : a.cyclesRemaining ≠ 0)
      (hdivisible : ¬ Indivisible s.now a)
      (hburned : burned = min (burnAmount s.now a) (s.cycles - s.reserve)) :
      BurnStep s subnetId [(subnetId, burned)] (burnedState s subnetId a burned)

theorem burnStep_of_burnOne {subnetId : Principal} {s s' : State} {burned : List (Principal × ℕ)}
    (h : burnOne subnetId s = .ok (burned, s')) : BurnStep s subnetId burned s' := by
  rw [burnOne_eq] at h
  split_ifs at h with hfree
  · obtain ⟨rfl, rfl⟩ := Prod.mk.inj (Except.ok.inj h)
    exact .skip
  · split at h
    · obtain ⟨rfl, rfl⟩ := Prod.mk.inj (Except.ok.inj h)
      exact .skip
    · rename_i a hstored
      split_ifs at h with hnone hindivisible
      · obtain ⟨rfl, rfl⟩ := Prod.mk.inj (Except.ok.inj h)
        exact .skip
      · obtain ⟨rfl, rfl⟩ := Prod.mk.inj (Except.ok.inj h)
        exact .burn a _ hfree hstored hnone hindivisible rfl

/-- A loop over a subnet and others that does not trap gets to the subnet and then to the others. -/
theorem burnLoop_cons_eq_ok {subnetId : Principal} {rest : List Principal} {s s' : State}
    {burned : List (Principal × ℕ)} (h : burnLoop (subnetId :: rest) s = .ok (burned, s')) :
    ∃ first s₁ others, burnOne subnetId s = .ok (first, s₁) ∧
      burnLoop rest s₁ = .ok (others, s') ∧ burned = first ++ others := by
  unfold burnLoop at h
  split at h
  · cases h
  · rename_i first s₁ hone
    split at h
    · cases h
    · rename_i others s₂ hothers
      obtain ⟨rfl, rfl⟩ := Prod.mk.inj (Except.ok.inj h)
      exact ⟨first, s₁, others, hone, hothers, rfl⟩

/-- What every step of the burn pass keeps, told what was burned so far, holds after the pass. -/
theorem burnLoop_induct {J : List (Principal × ℕ) → State → Prop}
    (hstep : ∀ done s subnetId burned s', J done s → BurnStep s subnetId burned s' →
      J (done ++ burned) s')
    {subnets : List Principal} {s s' : State} {burned done : List (Principal × ℕ)}
    (h : burnLoop subnets s = .ok (burned, s')) (hstart : J done s) : J (done ++ burned) s' := by
  induction subnets generalizing s burned done with
  | nil =>
    obtain ⟨rfl, rfl⟩ := Prod.mk.inj (Except.ok.inj h)
    rwa [List.append_nil]
  | cons subnetId rest ih =>
    obtain ⟨first, s₁, others, hone, hothers, rfl⟩ := burnLoop_cons_eq_ok h
    rw [← List.append_assoc]
    exact ih hothers (hstep done s subnetId first s₁ hstart (burnStep_of_burnOne hone))

/-- The same for a whole pass. -/
theorem burnPass_induct {J : List (Principal × ℕ) → State → Prop}
    (hstep : ∀ done s subnetId burned s', J done s → BurnStep s subnetId burned s' →
      J (done ++ burned) s')
    {s s' : State} {burned : List (Principal × ℕ)} (h : burnPass s = .ok (burned, s'))
    (hstart : J [] s) : J burned s' := by
  have hburned := burnLoop_induct hstep h hstart
  exact hburned

/-- What a burn pass leaves alone. -/
structure BurnsOnly (s s' : State) : Prop extends SameSetting s s' where
  locks : s'.locks = s.locks
  rentalRequests : s'.rentalRequests = s.rentalRequests
  exchangeRateCalls : s'.exchangeRateCalls = s.exchangeRateCalls
  agreement : ∀ subnetId : Principal, ∀ a, s'.rentalAgreements[subnetId]? = some a →
    ∃ old, s.rentalAgreements[subnetId]? = some old ∧
      a = { old with totalCyclesBurned := a.totalCyclesBurned }
  unrented : ∀ subnetId : Principal,
    s'.rentalAgreements[subnetId]? = none → s.rentalAgreements[subnetId]? = none

theorem burnsOnly_of_step {s s' : State} {subnetId : Principal} {burned : List (Principal × ℕ)}
    (h : BurnStep s subnetId burned s') : BurnsOnly s s' := by
  cases h with
  | skip => exact ⟨⟨rfl, rfl, rfl⟩, rfl, rfl, rfl, fun i a ha ↦ ⟨a, ha, rfl⟩, fun _ h ↦ h⟩
  | burn a burned hfree hstored hsome hdivisible hburned =>
    refine ⟨⟨rfl, rfl, rfl⟩, rfl, rfl, rfl, fun i b hb ↦ ?_, fun i hi ↦ ?_⟩
    · obtain ⟨rfl, rfl⟩ | ⟨-, hold⟩ := getElem?_insert_eq_some_iff.mp hb
      · exact ⟨a, hstored, rfl⟩
      · exact ⟨b, hold, rfl⟩
    · exact (getElem?_insert_eq_none_iff.mp hi).2

theorem BurnsOnly.trans {s t u : State} (hst : BurnsOnly s t) (htu : BurnsOnly t u) :
    BurnsOnly s u := by
  refine ⟨hst.toSameSetting.trans htu.toSameSetting, htu.locks.trans hst.locks,
    htu.rentalRequests.trans hst.rentalRequests,
    htu.exchangeRateCalls.trans hst.exchangeRateCalls, fun subnetId a ha ↦ ?_,
    fun subnetId h ↦ hst.unrented subnetId (htu.unrented subnetId h)⟩
  obtain ⟨middle, hmiddle, heq⟩ := htu.agreement subnetId a ha
  obtain ⟨old, hold, heq'⟩ := hst.agreement subnetId middle hmiddle
  exact ⟨old, hold, by rw [heq, heq']⟩

/-- A burn pass changes cycle numbers only. -/
theorem burnPass_burnsOnly {s s' : State} {burned : List (Principal × ℕ)}
    (h : burnPass s = .ok (burned, s')) : BurnsOnly s s' := by
  refine burnPass_induct (J := fun _ t ↦ BurnsOnly s t) ?_ h ?_
  · intro _ t subnetId more t' ht hstep
    exact ht.trans (burnsOnly_of_step hstep)
  · exact ⟨⟨rfl, rfl, rfl⟩, rfl, rfl, rfl, fun i a ha ↦ ⟨a, ha, rfl⟩, fun _ h ↦ h⟩

end SubnetRental.Lifecycle
