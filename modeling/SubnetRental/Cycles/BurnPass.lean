import SubnetRental.Lifecycle.Exclusivity

/-!
# One agreement in a burn pass

A pass of `burn_cycles` is one segment, so a trap at one agreement undoes the burns of all others.
`burnPass_isOk_iff` says when a pass runs to its end, whatever the locks, the time and the number of
agreements: when no agreement that it may touch is `Indivisible`. `burnPass_agreements` says what it
then does to each of them, which does not depend on the others as long as the canister holds the
cycles. The rate that a pass multiplies may also exceed 128 bits (`RateFits`), which wraps.

`burn_pass_unspoiled_iff` puts this together for the agreements of any reachable state, and
`burn_pass_spoiled` is a run after which a pass traps at an agreement with half a second of paid
time left.
-/

set_option autoImplicit false
set_option relaxedAutoImplicit false

namespace SubnetRental.Cycles

open Canister Lifecycle Foundation.GuardedCalls Foundation.MachineInteger
open Foundation.TreeMapTotals Foundation.TransitionSystem Std

/-! ### When a pass runs to its end -/

/-- The pass does not divide by zero at a subnet. -/
def DivisibleAt (s : State) (subnetId : Principal) : Prop :=
  ∀ a, s.rentalAgreements[subnetId]? = some a → agreementLock subnetId ∉ s.locks →
    ¬ Indivisible s.now a

theorem burnOne_isOk_iff (subnetId : Principal) (s : State) :
    (∃ burned s', burnOne subnetId s = .ok (burned, s')) ↔ DivisibleAt s subnetId := by
  rw [burnOne_eq]
  by_cases hheld : agreementLock subnetId ∈ s.locks
  · simp only [hheld, if_true]
    exact ⟨fun _ _ _ hfree ↦ absurd hheld hfree, fun _ ↦ ⟨_, _, rfl⟩⟩
  simp only [hheld, if_false]
  cases hstored : s.rentalAgreements[subnetId]? with
  | none =>
    refine ⟨fun _ a ha ↦ ?_, fun _ ↦ ⟨_, _, rfl⟩⟩
    rw [hstored] at ha
    cases ha
  | some a =>
    dsimp only
    split_ifs with hnone hindivisible
    · refine ⟨fun _ b hb _ h ↦ h.1 ?_, fun _ ↦ ⟨_, _, rfl⟩⟩
      obtain rfl := Option.some.inj (hstored.symm.trans hb)
      exact hnone
    · refine ⟨fun ⟨_, _, h⟩ ↦ (nomatch h), fun h ↦ absurd hindivisible (h a hstored hheld)⟩
    · refine ⟨fun _ b hb _ ↦ ?_, fun _ ↦ ⟨_, _, rfl⟩⟩
      obtain rfl := Option.some.inj (hstored.symm.trans hb)
      exact hindivisible

/-- A step of the pass touches only its own agreement and the cycle balance. -/
theorem agreement_of_burnStep {s s' : State} {subnetId : Principal} {burned : List (Principal × ℕ)}
    (h : BurnStep s subnetId burned s') {i : Principal} (hne : subnetId ≠ i) :
    s'.rentalAgreements[i]? = s.rentalAgreements[i]? := by
  cases h with
  | skip => rfl
  | burn a burned hfree hstored hsome hdivisible hburned =>
    change (s.rentalAgreements.insert subnetId (burnedAgreement a burned))[i]? = _
    rw [getElem?_insert_ite, if_neg hne]

theorem divisibleAt_of_burnStep {s s' : State} {subnetId : Principal}
    {burned : List (Principal × ℕ)} (h : BurnStep s subnetId burned s') {i : Principal}
    (hne : subnetId ≠ i) : DivisibleAt s' i ↔ DivisibleAt s i := by
  have honly := burnsOnly_of_step h
  unfold DivisibleAt
  rw [agreement_of_burnStep h hne, honly.locks, honly.now]

/-- The loop over distinct subnets runs to its end exactly when it divides by zero at none. -/
theorem burnLoop_isOk_iff {subnets : List Principal} (hnodup : subnets.Nodup) (s : State) :
    (∃ burned s', burnLoop subnets s = .ok (burned, s')) ↔ ∀ i ∈ subnets, DivisibleAt s i := by
  induction subnets generalizing s with
  | nil => exact ⟨fun _ _ hi ↦ absurd hi List.not_mem_nil, fun _ ↦ ⟨_, _, rfl⟩⟩
  | cons subnetId rest ih =>
    obtain ⟨hnot, hrest⟩ := List.nodup_cons.mp hnodup
    have hone := burnOne_isOk_iff subnetId s
    rw [List.forall_mem_cons, ← hone]
    unfold burnLoop
    cases hburn : burnOne subnetId s with
    | error reason =>
      constructor
      · rintro ⟨_, _, h⟩
        cases h
      · rintro ⟨⟨_, _, h⟩, -⟩
        cases h
    | ok first =>
      obtain ⟨burned, s₁⟩ := first
      have hstep := burnStep_of_burnOne hburn
      have hsame : (∀ i ∈ rest, DivisibleAt s₁ i) ↔ ∀ i ∈ rest, DivisibleAt s i := by
        refine forall₂_congr fun i hi ↦ divisibleAt_of_burnStep hstep ?_
        rintro rfl
        exact hnot hi
      rw [← hsame, ← ih hrest s₁]
      constructor
      · rintro ⟨all, s', h⟩
        refine ⟨⟨burned, s₁, rfl⟩, ?_⟩
        cases hothers : burnLoop rest s₁ with
        | error reason =>
          dsimp only at h
          rw [hothers] at h
          cases h
        | ok others => exact ⟨others.1, others.2, rfl⟩
      · rintro ⟨-, others, s', h⟩
        dsimp only
        rw [h]
        exact ⟨burned ++ others, s', rfl⟩

/-! ### What a pass does to each agreement -/

/-- The cycles left for the agreement of a subnet. -/
def demand (s : State) (subnetId : Principal) : ℕ :=
  (s.rentalAgreements[subnetId]?).elim 0 RentalAgreement.cyclesRemaining

/-- What a pass makes of an agreement when the canister holds enough cycles. -/
def afterPass (s : State) (subnetId : Principal) (a : RentalAgreement) : RentalAgreement :=
  if agreementLock subnetId ∈ s.locks ∨ a.cyclesRemaining = 0 then a
  else burnedAgreement a (burnAmount s.now a)

/-- One step, when the balance covers the agreement. -/
theorem burnOne_agreement {s s' : State} {subnetId : Principal} {burned : List (Principal × ℕ)}
    (h : burnOne subnetId s = .ok (burned, s'))
    (henough : demand s subnetId ≤ s.cycles - s.reserve) :
    s'.rentalAgreements[subnetId]? = (s.rentalAgreements[subnetId]?).map (afterPass s subnetId) ∧
      s.cycles ≤ s'.cycles + demand s subnetId := by
  rw [burnOne_eq] at h
  unfold demand at henough ⊢
  split_ifs at h with hheld
  · obtain ⟨-, rfl⟩ := Prod.mk.inj (Except.ok.inj h)
    refine ⟨?_, Nat.le_add_right _ _⟩
    cases s.rentalAgreements[subnetId]? with
    | none => rfl
    | some a => rw [Option.map_some, afterPass, if_pos (.inl hheld)]
  cases hstored : s.rentalAgreements[subnetId]? with
  | none =>
    rw [hstored] at h
    obtain ⟨-, rfl⟩ := Prod.mk.inj (Except.ok.inj h)
    exact ⟨hstored, le_rfl⟩
  | some a =>
    rw [hstored] at h henough
    dsimp only at h
    split_ifs at h with hnone hindivisible
    · obtain ⟨-, rfl⟩ := Prod.mk.inj (Except.ok.inj h)
      rw [Option.map_some, afterPass, if_pos (.inr hnone)]
      exact ⟨hstored, Nat.le_add_right _ _⟩
    · obtain ⟨-, rfl⟩ := Prod.mk.inj (Except.ok.inj h)
      have hle := burnAmount_le s.now a
      have hamount : min (burnAmount s.now a) (s.cycles - s.reserve) = burnAmount s.now a :=
        min_eq_left (hle.trans henough)
      rw [hamount, Option.map_some, afterPass, if_neg (by tauto)]
      refine ⟨?_, ?_⟩
      · change (s.rentalAgreements.insert subnetId _)[subnetId]? = _
        rw [getElem?_insert_ite, if_pos rfl]
      · change s.cycles ≤ s.cycles - burnAmount s.now a + a.cyclesRemaining
        omega

/-- A step at another subnet changes neither the demand nor what the pass will do. -/
theorem afterPass_of_burnStep {s s' : State} {subnetId : Principal} {burned : List (Principal × ℕ)}
    (h : BurnStep s subnetId burned s') (i : Principal) : afterPass s' i = afterPass s i := by
  have honly := burnsOnly_of_step h
  funext a
  unfold afterPass
  rw [honly.locks, honly.now]

/-- The loop over distinct subnets does to each of them what it would do to it alone. -/
theorem burnLoop_agreements {subnets : List Principal} (hnodup : subnets.Nodup) {s s' : State}
    {burned : List (Principal × ℕ)} (h : burnLoop subnets s = .ok (burned, s'))
    (henough : (subnets.map (demand s)).sum ≤ s.cycles - s.reserve) (i : Principal) :
    s'.rentalAgreements[i]? =
      if i ∈ subnets then (s.rentalAgreements[i]?).map (afterPass s i)
      else s.rentalAgreements[i]? := by
  induction subnets generalizing s burned with
  | nil =>
    obtain ⟨-, rfl⟩ := Prod.mk.inj (Except.ok.inj h)
    rfl
  | cons subnetId rest ih =>
    obtain ⟨hnot, hrest⟩ := List.nodup_cons.mp hnodup
    rw [List.map_cons, List.sum_cons] at henough
    obtain ⟨first, s₁, others, hone, hothers, rfl⟩ := burnLoop_cons_eq_ok h
    have hstep := burnStep_of_burnOne hone
    have hreserve : s₁.reserve = s.reserve := (burnsOnly_of_step hstep).reserve
    obtain ⟨hown, hcycles⟩ := burnOne_agreement hone ((Nat.le_add_right _ _).trans henough)
    have hdemand : rest.map (demand s₁) = rest.map (demand s) := by
      refine List.map_congr_left fun j hj ↦ ?_
      unfold demand
      rw [agreement_of_burnStep hstep]
      rintro rfl
      exact hnot hj
    rw [ih hrest hothers (by rw [hdemand, hreserve]; omega), afterPass_of_burnStep hstep]
    by_cases hi : subnetId = i
    · subst hi
      rw [if_neg hnot, if_pos List.mem_cons_self, hown]
    · have hmem : i ∈ subnetId :: rest ↔ i ∈ rest := by
        rw [List.mem_cons]
        exact ⟨fun h ↦ h.resolve_left (Ne.symm hi), Or.inr⟩
      rw [agreement_of_burnStep hstep hi]
      simp only [hmem]

/-! ### The subnets of a pass -/

section Pass

variable {s : State} (hkeys : ∀ (i : Principal) a, s.rentalAgreements[i]? = some a → a.subnetId = i)

include hkeys

/-- A pass visits the keys of the agreements. -/
theorem subnets_eq_keys :
    (s.iterRentalAgreements.map fun entry ↦ entry.2.subnetId) =
      s.rentalAgreements.toList.map Prod.fst := by
  refine List.map_congr_left fun entry hentry ↦ ?_
  exact hkeys entry.1 entry.2 (ExtTreeMap.mem_toList_iff_getElem?_eq_some.mp hentry)

theorem mem_subnets_iff (i : Principal) :
    i ∈ (s.iterRentalAgreements.map fun entry ↦ entry.2.subnetId) ↔
      ∃ a, s.rentalAgreements[i]? = some a := by
  rw [subnets_eq_keys hkeys, List.mem_map]
  constructor
  · rintro ⟨⟨j, a⟩, hentry, rfl⟩
    exact ⟨a, ExtTreeMap.mem_toList_iff_getElem?_eq_some.mp hentry⟩
  · rintro ⟨a, ha⟩
    exact ⟨(i, a), ExtTreeMap.mem_toList_iff_getElem?_eq_some.mpr ha, rfl⟩

/-- What all agreements can ask for is the total of their cycles. -/
theorem sum_demand :
    ((s.iterRentalAgreements.map fun entry ↦ entry.2.subnetId).map (demand s)).sum =
      total (fun _ a ↦ a.cyclesRemaining) s.rentalAgreements := by
  rw [List.map_map]
  unfold total
  refine congrArg List.sum (List.map_congr_left fun entry hentry ↦ ?_)
  have hstored := ExtTreeMap.mem_toList_iff_getElem?_eq_some.mp hentry
  change demand s entry.2.subnetId = _
  rw [hkeys entry.1 entry.2 hstored, demand, hstored]
  rfl

/-- A pass runs to its end exactly when no agreement whose lock is free is indivisible. -/
theorem burnPass_isOk_iff :
    (∃ burned s', burnPass s = .ok (burned, s')) ↔
      ∀ (i : Principal) a, s.rentalAgreements[i]? = some a → agreementLock i ∉ s.locks →
        ¬ Indivisible s.now a := by
  have hnodup : (s.iterRentalAgreements.map fun entry ↦ entry.2.subnetId).Nodup := by
    rw [subnets_eq_keys hkeys]
    exact nodup_keys_toList _
  unfold burnPass
  rw [burnLoop_isOk_iff hnodup]
  constructor
  · intro h i a ha
    exact h i ((mem_subnets_iff hkeys i).mpr ⟨a, ha⟩) a ha
  · intro h i _ a ha
    exact h i a ha

/-- With enough cycles, a pass does to each agreement what it would do to it alone. -/
theorem burnPass_agreements {s' : State} {burned : List (Principal × ℕ)}
    (h : burnPass s = .ok (burned, s'))
    (henough : total (fun _ a ↦ a.cyclesRemaining) s.rentalAgreements ≤ s.cycles - s.reserve)
    (i : Principal) :
    s'.rentalAgreements[i]? = (s.rentalAgreements[i]?).map (afterPass s i) := by
  have hnodup : (s.iterRentalAgreements.map fun entry ↦ entry.2.subnetId).Nodup := by
    rw [subnets_eq_keys hkeys]
    exact nodup_keys_toList _
  rw [burnLoop_agreements hnodup h (by rwa [sum_demand hkeys])]
  split_ifs with hmem
  · rfl
  · cases hstored : s.rentalAgreements[i]? with
    | none => rfl
    | some a => exact absurd ((mem_subnets_iff hkeys i).mpr ⟨a, hstored⟩) hmem

end Pass

/-! ### Passes that nothing spoils -/

/-- What a pass multiplies by a minute: the cycles per second of remaining paid time. -/
def cyclesPerSecond (now : ℕ) (a : RentalAgreement) : ℕ :=
  a.cyclesRemaining / ((a.paidUntilNanos - now) / billion)

/-- The state with the agreement of one subnet only. -/
def alone (s : State) (subnetId : Principal) (a : RentalAgreement) : State :=
  { s with rentalAgreements := (∅ : ExtTreeMap Principal RentalAgreement).insert subnetId a }

/-- No agreement spoils the pass: its products do not wrap, it runs to its end, and with enough
cycles every agreement whose lock is free ends as in a pass over that agreement alone. -/
structure Unspoiled (s : State) : Prop where
  no_wrap : ∀ (i : Principal) a, s.rentalAgreements[i]? = some a → agreementLock i ∉ s.locks →
    a.cyclesRemaining ≠ 0 → s.now < a.paidUntilNanos →
      wrappingMul 128 (cyclesPerSecond s.now a) cyclesBurnIntervalSeconds =
        cyclesPerSecond s.now a * cyclesBurnIntervalSeconds
  completes : ∃ burned s', burnPass s = .ok (burned, s') ∧
    (total (fun _ a ↦ a.cyclesRemaining) s.rentalAgreements ≤ s.cycles - s.reserve →
      ∀ (i : Principal) a, s.rentalAgreements[i]? = some a → agreementLock i ∉ s.locks →
        ∃ burned₁ s₁ b₁ b', burnPass (alone s i a) = .ok (burned₁, s₁) ∧
          s₁.rentalAgreements[i]? = some b₁ ∧ s'.rentalAgreements[i]? = some b' ∧
          b'.totalCyclesBurned = b₁.totalCyclesBurned)

theorem getElem?_alone (s : State) (i : Principal) (a : RentalAgreement) (j : Principal) :
    (alone s i a).rentalAgreements[j]? = if i = j then some a else none := by
  change ((∅ : ExtTreeMap Principal RentalAgreement).insert i a)[j]? = _
  rw [getElem?_insert_ite, ExtTreeMap.getElem?_empty]

/-- A pass over one agreement alone. -/
theorem burnPass_alone {s : State} {i : Principal} {a : RentalAgreement} (hkey : a.subnetId = i)
    (hdivisible : ¬ Indivisible s.now a) (henough : a.cyclesRemaining ≤ s.cycles - s.reserve) :
    ∃ burned s', burnPass (alone s i a) = .ok (burned, s') ∧
      s'.rentalAgreements[i]? = some (afterPass s i a) := by
  have hkeys : ∀ (j : Principal) b, (alone s i a).rentalAgreements[j]? = some b →
      b.subnetId = j := by
    intro j b hb
    rw [getElem?_alone] at hb
    split_ifs at hb with hij
    obtain rfl := Option.some.inj hb
    exact hkey.trans hij
  have hok : ∃ burned s', burnPass (alone s i a) = .ok (burned, s') := by
    refine (burnPass_isOk_iff hkeys).mpr fun j b hb _ ↦ ?_
    rw [getElem?_alone] at hb
    split_ifs at hb with hij
    obtain rfl := Option.some.inj hb
    exact hdivisible
  obtain ⟨burned, s', h⟩ := hok
  refine ⟨burned, s', h, ?_⟩
  have htotal : total (fun _ (b : RentalAgreement) ↦ b.cyclesRemaining)
      (alone s i a).rentalAgreements ≤ (alone s i a).cycles - (alone s i a).reserve := by
    change total _ ((∅ : ExtTreeMap Principal RentalAgreement).insert i a) ≤ s.cycles - s.reserve
    rw [total_insert_of_none _ a ExtTreeMap.getElem?_empty, total_empty, Nat.zero_add]
    exact henough
  rw [burnPass_agreements hkeys h htotal i, getElem?_alone, if_pos rfl]
  rfl

theorem wrappingMul_eq_iff {w a b : ℕ} : wrappingMul w a b = a * b ↔ a * b < 2 ^ w := by
  refine ⟨fun h ↦ ?_, wrappingMul_of_lt⟩
  rw [← h]
  exact Nat.mod_lt _ (Nat.two_pow_pos w)

/-- For the agreements of any reachable state, any locks, any time and any balance: nothing spoils a
pass exactly when every agreement whose lock is free has nothing left, is past due, or has at least
one whole second of paid time left and a rate per minute below `2 ^ 128`. -/
theorem burn_pass_unspoiled_iff {cycles : ℕ} {c : Configuration} (h : (system cycles).Reachable c)
    {s : State} (hset : s.rentalAgreements = c.state.canister.rentalAgreements) :
    Unspoiled s ↔
      ∀ (i : Principal) a, s.rentalAgreements[i]? = some a → agreementLock i ∉ s.locks →
        a.cyclesRemaining = 0 ∨ a.paidUntilNanos ≤ s.now ∨
          billion ≤ a.paidUntilNanos - s.now ∧
            cyclesPerSecond s.now a * cyclesBurnIntervalSeconds < 2 ^ 128 := by
  have hkeys : ∀ (i : Principal) a, s.rentalAgreements[i]? = some a → a.subnetId = i := by
    rw [hset]
    exact (sound_of_reachable h).inv.consistent.agreement_subnet
  constructor
  · rintro ⟨hexact, burned, s', hok, -⟩ i a ha hfree
    have hdivisible := (burnPass_isOk_iff hkeys).mp ⟨burned, s', hok⟩ i a ha hfree
    by_cases hnone : a.cyclesRemaining = 0
    · exact .inl hnone
    by_cases hpast : a.paidUntilNanos ≤ s.now
    · exact .inr (.inl hpast)
    refine .inr (.inr ⟨?_, ?_⟩)
    · by_contra hless
      exact hdivisible ⟨hnone, Nat.lt_of_not_le hpast, Nat.lt_of_not_le hless⟩
    · exact wrappingMul_eq_iff.mp (hexact i a ha hfree hnone (Nat.lt_of_not_le hpast))
  · intro hall
    have hdivisible : ∀ (i : Principal) a, s.rentalAgreements[i]? = some a →
        agreementLock i ∉ s.locks → ¬ Indivisible s.now a := by
      rintro i a ha hfree ⟨hsome, hahead, hless⟩
      obtain hnone | hpast | ⟨hsecond, -⟩ := hall i a ha hfree
      · exact hsome hnone
      · exact absurd hahead (Nat.not_lt.mpr hpast)
      · exact absurd hless (Nat.not_lt.mpr hsecond)
    refine ⟨fun i a ha hfree hsome hahead ↦ ?_, ?_⟩
    · obtain hnone | hpast | ⟨-, hfits⟩ := hall i a ha hfree
      · exact absurd hnone hsome
      · exact absurd hahead (Nat.not_lt.mpr hpast)
      · exact wrappingMul_of_lt hfits
    · obtain ⟨burned, s', hok⟩ := (burnPass_isOk_iff hkeys).mpr hdivisible
      refine ⟨burned, s', hok, fun henough i a ha hfree ↦ ?_⟩
      have hcovered : a.cyclesRemaining ≤ s.cycles - s.reserve :=
        (le_total (fun _ a ↦ a.cyclesRemaining) ha).trans henough
      obtain ⟨burned₁, s₁, hok₁, halone⟩ :=
        burnPass_alone (hkeys i a ha) (hdivisible i a ha hfree) hcovered
      have hall := burnPass_agreements hkeys hok henough i
      rw [ha, Option.map_some] at hall
      exact ⟨burned₁, s₁, _, _, hok₁, halone, hall, rfl⟩

def carolProposal : SubnetRentalProposalPayload where
  user := ⟨[3], by decide⟩
  rentalConditionId := .app7CH
  proposalId := 3
  proposalCreationTimeSeconds := 86_400

def carolCreation : CreateRentalAgreementPayload where
  user := ⟨[3], by decide⟩
  proposalId := 4
  subnetId := ⟨[30], by decide⟩

/-- Alice's subnet is rented, and a day later Carol's. -/
def twoRentals : List Label :=
  rentalRun ++ [.environment (.pass (secondsPerDay * billion))] ++
    undisturbed (.executeRentalRequestProposal governanceCanisterId carolProposal) 2
      [.accountBalance ⟨10 ^ 13⟩, .transfer (.ok 3), .notifyTopUp (.ok (10 ^ 16))] ++
    undisturbed (.executeCreateRentalAgreement governanceCanisterId carolCreation) 3
      [.transfer (.ok 4), .notifyTopUp (.ok (9 * 10 ^ 16)), .authorized]

/-- The configuration in which both subnets are rented. -/
def twoRentalsConfiguration : Configuration :=
  ((system (10 ^ 12)).perform (idle (installedWorld (10 ^ 12) fun _ ↦ 10 ^ 13)) twoRentals).get
    (by decide +kernel)

theorem reachable_twoRentalsConfiguration : (system (10 ^ 12)).Reachable twoRentalsConfiguration :=
  System.reachable_get_perform (init_idle _ _) _

/-- A pass over Alice's and Carol's agreements, for which the canister holds enough cycles. -/
theorem burn_pass_unspoiled_rented :
    (twoRentalsConfiguration.state.canister.rentalAgreements[aliceCreation.subnetId]?).isSome ∧
      (twoRentalsConfiguration.state.canister.rentalAgreements[carolCreation.subnetId]?).isSome ∧
      total (fun _ a ↦ a.cyclesRemaining) twoRentalsConfiguration.state.canister.rentalAgreements ≤
        twoRentalsConfiguration.state.canister.cycles -
          twoRentalsConfiguration.state.canister.reserve ∧
      Unspoiled twoRentalsConfiguration.state.canister := by
  refine ⟨by decide +kernel, by decide +kernel, by decide +kernel, ?_⟩
  refine (burn_pass_unspoiled_iff reachable_twoRentalsConfiguration rfl).mpr fun i a ha _ ↦ ?_
  have hmem : (i, a) ∈ twoRentalsConfiguration.state.canister.rentalAgreements.toList :=
    ExtTreeMap.mem_toList_iff_getElem?_eq_some.mpr ha
  have hall : ∀ entry ∈ twoRentalsConfiguration.state.canister.rentalAgreements.toList,
      billion ≤ entry.2.paidUntilNanos - twoRentalsConfiguration.state.canister.now ∧
        cyclesPerSecond twoRentalsConfiguration.state.canister.now entry.2 *
          cyclesBurnIntervalSeconds < 2 ^ 128 := by
    decide +kernel
  exact .inr (.inr (hall (i, a) hmem))

/-! ### Half a second of paid time -/

/-- Alice's and Carol's subnets are rented, and Alice's has half a second of paid time left when the
pass runs. -/
def halfSecondLeft : List Label :=
  twoRentals ++ [.environment (.pass (179 * secondsPerDay * billion - 500_000_000))]

theorem halfSecondLeft_isSome :
    ((system (10 ^ 12)).perform (idle (installedWorld (10 ^ 12) fun _ ↦ 10 ^ 13))
      halfSecondLeft).isSome := by
  decide +kernel

/-- The pass traps. -/
def passTraps (s : State) : Bool :=
  match burnPass s with
  | .error .divisionByZero => true
  | _ => false

/-- A pass over the agreement of a subnet alone burns something for it. -/
def burnsAlone (s : State) (subnetId : Principal) : Bool :=
  match s.rentalAgreements[subnetId]? with
  | none => false
  | some a =>
    match burnPass (alone s subnetId a) with
    | .ok ([(_, burned)], _) => 0 < burned
    | _ => false

theorem not_unspoiled_of_passTraps {s : State} (h : passTraps s) : ¬ Unspoiled s := by
  rintro ⟨-, burned, s', hok, -⟩
  rw [passTraps, hok] at h
  cases h

/-- A reachable state in which a pass traps at Alice's agreement, although it would burn cycles for
Carol's. -/
theorem burn_pass_spoiled :
    ∃ c, (system (10 ^ 12)).Reachable c ∧ c.state.canister.locks = ∅ ∧
      passTraps c.state.canister ∧ burnsAlone c.state.canister carolCreation.subnetId ∧
      ¬ Unspoiled c.state.canister :=
  ⟨_, System.reachable_get_perform (init_idle _ _) halfSecondLeft_isSome, by decide +kernel,
    by decide +kernel, by decide +kernel, not_unspoiled_of_passTraps (by decide +kernel)⟩

end SubnetRental.Cycles
