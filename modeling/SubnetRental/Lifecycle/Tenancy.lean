import SubnetRental.Lifecycle.Registry

/-!
# Where rentals come from and how long they last

What the refinement to the registry says about runs. Every stored request goes back to a proposal
that was executed, and every agreement to a proposal and a later creation for the same user
(`rentals_traced`). The replies to governance determine who rents what: a subnet is created for a
user at most once, and every executed proposal was cancelled, led to an agreement or is open
(`rentals_accounted`). An agreement lasts in every run, with its user, its proposals and its growing
totals, and a request lasts until its user gets a refund or an agreement (`rentals_kept`). Where
passes of `locking` find their copies stored, a request changes only by further tenths
(`requests_locked`).
-/

set_option autoImplicit false
set_option relaxedAutoImplicit false

namespace SubnetRental.Lifecycle

open Canister Foundation.GuardedCalls Foundation.TransitionSystem Foundation.ExclusiveRegistry
open Locking Relation Std

/-! ### Rentals over time -/

theorem Amends.refl (a : RentalAgreement) : Amends a a :=
  ⟨rfl, rfl, rfl, rfl, rfl, Nat.le_refl _, le_rfl, le_rfl, .inl rfl⟩

theorem Amends.trans {a b c : RentalAgreement} (hab : Amends a b) (hbc : Amends b c) :
    Amends a c where
  user := hbc.user.trans hab.user
  subnetId := hbc.subnetId.trans hab.subnetId
  rentalRequestProposalId := hbc.rentalRequestProposalId.trans hab.rentalRequestProposalId
  subnetCreationProposalId := hbc.subnetCreationProposalId.trans hab.subnetCreationProposalId
  creationTimeNanos := hbc.creationTimeNanos.trans hab.creationTimeNanos
  icpPaid_le := Nat.le_trans hab.icpPaid_le hbc.icpPaid_le
  created_le := hab.created_le.trans hbc.created_le
  burned_le := hab.burned_le.trans hbc.burned_le
  condition := by
    obtain hfirst | ⟨hfirst, hsecond⟩ := hab.condition
    · rw [← hfirst]
      exact hbc.condition
    · obtain hsame | ⟨hagain, -⟩ := hbc.condition
      · exact .inr ⟨hfirst, hsame.trans hsecond⟩
      · rw [hsecond] at hagain
        cases hagain

theorem amends_of_reflTransGen {a a' : RentalAgreement} (h : ReflTransGen Amends a a') :
    Amends a a' := by
  induction h with
  | refl => exact .refl a
  | tail _ hlast ih => exact ih.trans hlast

/-- A request for what a proposal asks for. -/
structure Asked (payload : SubnetRentalProposalPayload) (r : RentalRequest) : Prop where
  user : r.user = payload.user
  initialProposalId : r.initialProposalId = payload.proposalId
  rentalConditionId : r.rentalConditionId = payload.rentalConditionId

/-- An agreement for what a proposal asks for, on the subnet of a creation. -/
structure Settles (payload : SubnetRentalProposalPayload) (creation : CreateRentalAgreementPayload)
    (a : RentalAgreement) : Prop where
  user : a.user = payload.user
  sameUser : creation.user = payload.user
  subnetId : a.subnetId = creation.subnetId
  rentalRequestProposalId : a.rentalRequestProposalId = payload.proposalId
  subnetCreationProposalId : a.subnetCreationProposalId = some creation.proposalId
  condition : a.rentalConditionId = payload.rentalConditionId ∨
    payload.rentalConditionId = .app13CH ∧ a.rentalConditionId = .app7CH

/-- Lockings do not change what was asked for. -/
theorem asked_of_locksTenths {payload : SubnetRentalProposalPayload} {first r : RentalRequest}
    (hopens : Opens payload first) (h : ReflTransGen LocksTenth first r) : Asked payload r := by
  induction h with
  | refl =>
    obtain ⟨neededIcp, lockedCycles, nowNanos, rfl⟩ := hopens
    exact ⟨rfl, rfl, rfl⟩
  | tail _ hlast ih =>
    obtain ⟨nowNanos, lockedCycles, -, -, -, rfl⟩ := hlast
    exact ⟨ih.user, ih.initialProposalId, ih.rentalConditionId⟩

theorem Settles.of_amends {payload : SubnetRentalProposalPayload}
    {creation : CreateRentalAgreementPayload} {a a' : RentalAgreement}
    (h : Settles payload creation a) (hamends : Amends a a') : Settles payload creation a' where
  user := hamends.user.trans h.user
  sameUser := h.sameUser
  subnetId := hamends.subnetId.trans h.subnetId
  rentalRequestProposalId := hamends.rentalRequestProposalId.trans h.rentalRequestProposalId
  subnetCreationProposalId := hamends.subnetCreationProposalId.trans h.subnetCreationProposalId
  condition := by
    obtain hsame | ⟨hold, hnew⟩ := hamends.condition
    · rw [hsame]
      exact h.condition
    · obtain hfirst | ⟨-, hswitched⟩ := h.condition
      · exact .inr ⟨hfirst.symm.trans hold, hnew⟩
      · rw [hswitched] at hold
        cases hold

/-! ### Who made a move -/

theorem may_claim {agent : Agent} {user : Principal} {r : RentalRequest}
    (h : May agent (.claim user r)) : ∃ payload,
      agent = .call (.executeRentalRequestProposal governanceCanisterId payload) ∧
        payload.user = user ∧ Opens payload r := by
  cases agent with
  | upgrade => exact h.elim
  | call operation =>
    cases operation <;> try exact h.elim
    case executeRentalRequestProposal caller payload =>
    obtain ⟨rfl, rfl, hopens⟩ := h
    exact ⟨payload, rfl, rfl, hopens⟩

theorem may_grant {agent : Agent} {user subnetId : Principal} {a : RentalAgreement}
    (h : May agent (.grant user subnetId a)) : ∃ creation,
      agent = .call (.executeCreateRentalAgreement governanceCanisterId creation) ∧
        creation.user = user ∧ creation.subnetId = subnetId ∧ a.subnetId = creation.subnetId ∧
          a.subnetCreationProposalId = some creation.proposalId := by
  cases agent with
  | upgrade => exact h.elim
  | call operation =>
    cases operation <;> try exact h.elim
    case executeCreateRentalAgreement caller creation =>
    obtain ⟨rfl, rfl, rfl, hsubnet, hproposal⟩ := h
    exact ⟨creation, rfl, rfl, rfl, hsubnet, hproposal⟩

/-! ### Where rentals come from -/

/-- Every request and every agreement goes back to executed proposals. -/
structure RentalsTraced (c : Configuration) : Prop where
  requests : ∀ (user : Principal) r, c.state.canister.rentalRequests[user]? = some r →
    ∃ payload, .executeRentalRequestProposal governanceCanisterId payload ∈ executions c.trace ∧
      payload.user = user ∧ Asked payload r
  /-- The creation was executed after the proposal. -/
  agreements : ∀ (subnetId : Principal) a,
    c.state.canister.rentalAgreements[subnetId]? = some a →
      ∃ payload creation, [.executeRentalRequestProposal governanceCanisterId payload,
          .executeCreateRentalAgreement governanceCanisterId creation].Sublist
            (executions c.trace) ∧
        creation.subnetId = subnetId ∧ Settles payload creation a

/-- Every value of a request goes back to an executed proposal. -/
theorem asked_of_past {stale : Prop} {acts : List (Agent × RentalMove)}
    {R : Registry (rentalRules stale)} {ended : List (Operation × Except Trap Response)}
    (hacts : (registry (rentalRules stale)).perform .empty acts = some R)
    (hreported : Reported acts ended) {user : Principal} {r : RentalRequest}
    (hr : r ∈ R.past user) : ∃ payload,
      .executeRentalRequestProposal governanceCanisterId payload ∈ executions ended ∧
        payload.user = user ∧ Asked payload r := by
  obtain ⟨agent, first, hmem, hmay, hlocks⟩ := (traced_of_perform hacts).past user r hr
  obtain ⟨payload, rfl, hpayload, hopens⟩ := may_claim hmay
  refine ⟨payload, ?_, hpayload, asked_of_locksTenths hopens hlocks⟩
  rw [← hreported.executed]
  exact List.mem_filterMap.mpr ⟨_, hmem, rfl⟩

theorem traced_of_reachable {cycles : ℕ} {c : Configuration} (h : (system cycles).Reachable c) :
    RentalsTraced c ∧ ∀ id call, c.calls[(id : ℕ)]? = some call → ∀ r ∈ copies call.frame,
      ∃ payload, .executeRentalRequestProposal governanceCanisterId payload ∈ executions c.trace ∧
        payload.user = r.user ∧ Asked payload r := by
  obtain ⟨acts, R, hacts, hsim, hreported⟩ := refined_of_reachable (.inl trivial : Exact True _) h
  refine ⟨⟨fun user r hstored ↦ ?_, fun subnetId a hstored ↦ ?_⟩, fun id call hcall r hr ↦ ?_⟩
  · exact asked_of_past hacts hreported (R.recorded user r ((hsim.pending user).trans hstored))
  · obtain ⟨agent, agent', first, r, granted, hsub, hmay, hmay', hlocks, hgrants, hamends⟩ :=
      (traced_of_perform hacts).held subnetId a ((hsim.held subnetId).trans hstored)
    obtain ⟨payload, rfl, hpayload, hopens⟩ := may_claim hmay
    obtain ⟨creation, rfl, hcreation, rfl, hsubnet, hproposal⟩ := may_grant hmay'
    have hasked := asked_of_locksTenths hopens hlocks
    have hamended := amends_of_reflTransGen hamends
    have hsettles : Settles payload creation granted :=
      ⟨hamended.user.symm.trans hpayload.symm, hcreation.trans hpayload.symm, hsubnet,
        hgrants.rentalRequestProposalId.trans hasked.initialProposalId, hproposal,
        .inl (hgrants.rentalConditionId.trans hasked.rentalConditionId)⟩
    refine ⟨payload, creation, ?_, rfl, hsettles.of_amends hamended⟩
    rw [← hreported.executed]
    exact hsub.filterMap executedBy
  · exact asked_of_past hacts hreported (hsim.copies id call hcall r hr)

/-- In every interleaving every stored request and every agreement is traced. -/
theorem rentals_traced {cycles : ℕ} {c : Configuration} (h : (system cycles).Reachable c) :
    RentalsTraced c :=
  (traced_of_reachable h).1

theorem rentals_traced_rented :
    (rentedConfiguration.state.canister.rentalAgreements[aliceCreation.subnetId]?).isSome ∧
      RentalsTraced rentedConfiguration :=
  ⟨by decide +kernel, rentals_traced reachable_rentedConfiguration⟩

/-! ### What governance was told -/

/-- A proposal for a user. -/
def proposedFor (user : Principal) : Operation → Bool
  | .executeRentalRequestProposal _ payload => payload.user = user
  | _ => false

/-- A creation for a user. -/
def createdFor (user : Principal) : Operation → Bool
  | .executeCreateRentalAgreement _ payload => payload.user = user
  | _ => false

/-- A creation on a subnet. -/
def createdOn (subnetId : Principal) : Operation → Bool
  | .executeCreateRentalAgreement _ payload => payload.subnetId = subnetId
  | _ => false

/-- Where a move counts when it executes a proposal of a kind, the executions count the moves. -/
theorem counted_eq_countP {count : RentalMove → ℕ} {kind : Operation → Bool}
    (hclaim : ∀ payload r, count (.claim payload.user r) =
      if kind (.executeRentalRequestProposal governanceCanisterId payload) then 1 else 0)
    (hgrant : ∀ creation a, count (.grant creation.user creation.subnetId a) =
      if kind (.executeCreateRentalAgreement governanceCanisterId creation) then 1 else 0)
    (hrevise : ∀ user r, count (.revise user r) = 0)
    (hwithdraw : ∀ user, count (.withdraw user) = 0)
    (hamend : ∀ subnetId a, count (.amend subnetId a) = 0)
    {acts : List (Agent × RentalMove)} (hmay : ∀ act ∈ acts, May act.1 act.2) :
    counted count acts = (acts.filterMap executedBy).countP kind := by
  induction acts with
  | nil => rfl
  | cons act rest ih =>
    obtain ⟨agent, m⟩ := act
    have hfirst : May agent m := hmay (agent, m) List.mem_cons_self
    rw [counted_cons, ih fun act' hact' ↦ hmay act' (List.mem_cons_of_mem _ hact')]
    have hsilent (hnone : executedBy (agent, m) = none) (hzero : count m = 0) :
        count m + (rest.filterMap executedBy).countP kind =
          (((agent, m) :: rest).filterMap executedBy).countP kind := by
      rw [hzero, Nat.zero_add, List.filterMap_cons_none hnone]
    have hexecutes {operation : Operation} (hsome : executedBy (agent, m) = some operation)
        (hkind : count m = if kind operation then 1 else 0) :
        count m + (rest.filterMap executedBy).countP kind =
          (((agent, m) :: rest).filterMap executedBy).countP kind := by
      rw [List.filterMap_cons_some hsome, List.countP_cons, hkind, Nat.add_comm]
    cases m with
    | claim user r =>
      obtain ⟨payload, rfl, rfl, -⟩ := may_claim hfirst
      exact hexecutes rfl (hclaim payload r)
    | grant user subnetId a =>
      obtain ⟨creation, rfl, rfl, rfl, -⟩ := may_grant hfirst
      exact hexecutes rfl (hgrant creation a)
    | revise user r => exact hsilent (by cases agent <;> rfl) (hrevise user r)
    | withdraw user => exact hsilent (by cases agent <;> rfl) (hwithdraw user)
    | amend subnetId a => exact hsilent (by cases agent <;> rfl) (hamend subnetId a)

/-- The replies determine the rentals. -/
structure RentalsAccounted (c : Configuration) : Prop where
  /-- Every executed proposal was cancelled, is open or led to an agreement. -/
  proposals : ∀ user : Principal, ∃ withdrawn ≤ c.trace.countP (refunded user),
    (executions c.trace).countP (proposedFor user) =
      withdrawn + (executions c.trace).countP (createdFor user) +
        present c.state.canister.rentalRequests[user]?
  /-- A user is given a subnet at most once, and then keeps it. -/
  users : ∀ user : Principal, (executions c.trace).countP (createdFor user) ≤ 1 ∧
    (0 < (executions c.trace).countP (createdFor user) ↔
      ∃ (subnetId : Principal) (a : RentalAgreement),
        c.state.canister.rentalAgreements[subnetId]? = some a ∧ a.user = user)
  /-- So is a subnet. -/
  subnets : ∀ subnetId : Principal, (executions c.trace).countP (createdOn subnetId) =
    present c.state.canister.rentalAgreements[subnetId]?

theorem rentals_accounted {cycles : ℕ} {c : Configuration} (h : (system cycles).Reachable c) :
    RentalsAccounted c := by
  obtain ⟨acts, R, hacts, hsim, hreported⟩ := refined_of_reachable (.inl trivial : Exact True _) h
  have hmay := may_of_perform hacts
  have hclaims (user : Principal) : counted (Move.claims user) acts =
      (executions c.trace).countP (proposedFor user) := by
    rw [← hreported.executed]
    refine counted_eq_countP (fun _ _ ↦ ?_) (fun _ _ ↦ rfl) (fun _ _ ↦ rfl) (fun _ ↦ rfl)
      (fun _ _ ↦ rfl) hmay
    simp [Move.claims, proposedFor]
  have hgrants (user : Principal) : counted (Move.grantsTo user) acts =
      (executions c.trace).countP (createdFor user) := by
    rw [← hreported.executed]
    refine counted_eq_countP (fun _ _ ↦ rfl) (fun _ _ ↦ ?_) (fun _ _ ↦ rfl) (fun _ ↦ rfl)
      (fun _ _ ↦ rfl) hmay
    simp [Move.grantsTo, createdFor]
  have hgrantsOf (subnetId : Principal) : counted (Move.grantsOf subnetId) acts =
      (executions c.trace).countP (createdOn subnetId) := by
    rw [← hreported.executed]
    refine counted_eq_countP (fun _ _ ↦ rfl) (fun _ _ ↦ ?_) (fun _ _ ↦ rfl) (fun _ ↦ rfl)
      (fun _ _ ↦ rfl) hmay
    simp [Move.grantsOf, createdOn]
  refine ⟨fun user ↦ ?_, fun user ↦ ?_, fun subnetId ↦ ?_⟩
  · have hconserved := claims_conserved hacts user
    rw [hclaims, hgrants, hsim.pending] at hconserved
    refine ⟨_, hreported.withdrawn user, ?_⟩
    rw [← hconserved]
    exact (Nat.zero_add _).symm
  · rw [← hgrants, contracts_of_perform hacts user]
    refine ⟨R.contracts_le_one user, (R.contracts_pos_iff user).trans ?_⟩
    simp only [hsim.held]
    rfl
  · have hconserved := grants_conserved hacts subnetId
    rw [hgrantsOf, hsim.held] at hconserved
    exact (Nat.zero_add _).symm.trans hconserved

theorem rentals_accounted_rented :
    0 < (executions rentedConfiguration.trace).countP (createdFor aliceProposal.user) ∧
      RentalsAccounted rentedConfiguration :=
  ⟨by decide +kernel, rentals_accounted reachable_rentedConfiguration⟩

/-! ### How long rentals last -/

/-- A refund of the user returned `Ok`, or a creation for the user was executed. -/
def Released (user : Principal) (ended : List (Operation × Except Trap Response)) : Prop :=
  (∃ entry ∈ ended, refunded user entry) ∨
    ∃ creation, .executeCreateRentalAgreement governanceCanisterId creation ∈ executions ended ∧
      creation.user = user

/-- A move that ends the claim of a user shows in the replies. -/
theorem released_of_ends {acts : List (Agent × RentalMove)}
    {ended : List (Operation × Except Trap Response)} (hreported : Reported acts ended)
    {user : Principal} {act : Agent × RentalMove} (hmem : act ∈ acts) (hends : act.2.Ends user)
    (hmay : May act.1 act.2) : Released user ended := by
  obtain ⟨agent, m⟩ := act
  cases m with
  | claim | revise | amend => exact hends.elim
  | withdraw other =>
    obtain rfl : other = user := hends
    have hone : 1 ∈ acts.map fun act ↦ Move.withdrawals other act.2 :=
      List.mem_map.mpr ⟨_, hmem, if_pos rfl⟩
    have hcounted : 1 ≤ counted (Move.withdrawals other) acts := List.le_sum_of_mem hone
    exact .inl (List.countP_pos_iff.mp (hcounted.trans (hreported.withdrawn other)))
  | grant other subnetId a =>
    obtain rfl : other = user := hends
    obtain ⟨creation, rfl, hcreation, -⟩ := may_grant hmay
    refine .inr ⟨creation, ?_, hcreation⟩
    rw [← hreported.executed]
    exact List.mem_filterMap.mpr ⟨_, hmem, rfl⟩

/-- What a run from one configuration to another leaves of the rentals. -/
structure RentalsKept (c c' : Configuration) (ended : List (Operation × Except Trap Response)) :
    Prop where
  trace : c'.trace = c.trace ++ ended
  agreements : ∀ (subnetId : Principal) a,
    c.state.canister.rentalAgreements[subnetId]? = some a →
      ∃ a', c'.state.canister.rentalAgreements[subnetId]? = some a' ∧ Amends a a'
  requests : ∀ (user : Principal) r, c.state.canister.rentalRequests[user]? = some r →
    (∃ r', c'.state.canister.rentalRequests[user]? = some r') ∨ Released user ended

/-- Agreements last, and requests last until they are cancelled or granted. -/
theorem rentals_kept {cycles : ℕ} {c c' : Configuration} (hc : (system cycles).Reachable c)
    (hrun : (system cycles).Run c c') : ∃ ended, RentalsKept c c' ended := by
  obtain ⟨-, R, -, hsim, -⟩ := refined_of_reachable (.inl trivial : Exact True _) hc
  obtain ⟨acts, R', ended, hacts, hsim', htrace, hreported⟩ :=
    run_simulated (.inl trivial) hc hsim hrun
  refine ⟨ended, htrace, fun subnetId a hstored ↦ ?_, fun user r hstored ↦ ?_⟩
  · obtain ⟨a', ha', hamends⟩ := held_of_perform hacts ((hsim.held subnetId).trans hstored)
    exact ⟨a', (hsim'.held subnetId).symm.trans ha', amends_of_reflTransGen hamends⟩
  · obtain ⟨r', hr', -⟩ | ⟨act, hmem, hends, hmay⟩ :=
      pending_of_perform hacts ((hsim.pending user).trans hstored)
    · exact .inl ⟨r', (hsim'.pending user).symm.trans hr'⟩
    · exact .inr (released_of_ends hreported hmem hends hmay)

/-- The proposal of the run to the rental was executed. -/
def requestedConfiguration : Configuration :=
  ((system (10 ^ 12)).perform (idle (installedWorld (10 ^ 12) fun _ ↦ 10 ^ 13))
    (rentalRun.take 9)).get (by decide +kernel)

theorem grantedRun_isSome :
    ((system (10 ^ 12)).perform requestedConfiguration (rentalRun.drop 9)).isSome := by
  decide +kernel

/-- The rest of that run ends Alice's request, and the reply says so. -/
theorem rentals_kept_granted :
    (requestedConfiguration.state.canister.rentalRequests[aliceProposal.user]?).isSome ∧
      ∃ ended, RentalsKept requestedConfiguration
        (((system (10 ^ 12)).perform requestedConfiguration (rentalRun.drop 9)).get
          grantedRun_isSome) ended :=
  ⟨by decide +kernel, rentals_kept (System.reachable_get_perform (init_idle _ _) _)
    (System.run_of_perform (Option.some_get grantedRun_isSome).symm)⟩

/-- Where every pass finds the requests of its snapshot stored when it gets to them, a request
changes only by lockings until it is cancelled or granted. -/
theorem requests_locked {cycles : ℕ} {c c' : Configuration}
    (hc : (system cycles).ReachableWithin (fun c a ↦ snapshotCurrent c a) c)
    (hrun : (system cycles).RunWithin (fun c a ↦ snapshotCurrent c a) c c') {user : Principal}
    {r : RentalRequest} (hstored : c.state.canister.rentalRequests[user]? = some r) :
    (∃ r', c'.state.canister.rentalRequests[user]? = some r' ∧ ReflTransGen LocksTenth r r') ∨
      ∃ ended, c'.trace = c.trace ++ ended ∧ Released user ended := by
  have hexact : Exact False fun c a ↦ snapshotCurrent c a := .inr fun _ _ h ↦ h
  obtain ⟨-, R, -, hsim, -⟩ := refined_of_reachable hexact hc
  obtain ⟨acts, R', ended, hacts, hsim', htrace, hreported⟩ := run_simulated hexact hc hsim hrun
  obtain ⟨r', hr', hlocks⟩ | ⟨act, hmem, hends, hmay⟩ :=
    pending_of_perform hacts ((hsim.pending user).trans hstored)
  · exact .inl ⟨r', (hsim'.pending user).symm.trans hr', hlocks.resolve_left id⟩
  · exact .inr ⟨ended, htrace, released_of_ends hreported hmem hends hmay⟩

/-- Alice and Bob have requests that are due. -/
theorem twoDueRequests_isSome :
    ((system (10 ^ 12)).performWithin (fun c a ↦ snapshotCurrent c a)
      (idle (installedWorld (10 ^ 12) fun _ ↦ 10 ^ 13)) twoDueRequests).isSome := by
  decide +kernel

def twoDueConfiguration : Configuration :=
  ((system (10 ^ 12)).performWithin (fun c a ↦ snapshotCurrent c a)
    (idle (installedWorld (10 ^ 12) fun _ ↦ 10 ^ 13)) twoDueRequests).get twoDueRequests_isSome

theorem lockingPass_isSome :
    ((system (10 ^ 12)).performWithin (fun c a ↦ snapshotCurrent c a) twoDueConfiguration
      (lockingOfBoth.drop twoDueRequests.length ++ [.resume 2])).isSome := by
  decide +kernel

theorem twoDueConfiguration_stored :
    (twoDueConfiguration.state.canister.rentalRequests[bobProposal.user]?).isSome := by
  decide +kernel

/-- A pass for both leaves Bob's request as it was up to a locking. -/
theorem requests_locked_pass :
    (∃ r', (((system (10 ^ 12)).performWithin (fun c a ↦ snapshotCurrent c a) twoDueConfiguration
        (lockingOfBoth.drop twoDueRequests.length ++ [.resume 2])).get
          lockingPass_isSome).state.canister.rentalRequests[bobProposal.user]? = some r' ∧
      ReflTransGen LocksTenth (twoDueConfiguration.state.canister.rentalRequests[
        bobProposal.user]?.get twoDueConfiguration_stored) r') ∨
    ∃ ended, (((system (10 ^ 12)).performWithin (fun c a ↦ snapshotCurrent c a)
        twoDueConfiguration (lockingOfBoth.drop twoDueRequests.length ++ [.resume 2])).get
          lockingPass_isSome).trace = twoDueConfiguration.trace ++ ended ∧
      Released bobProposal.user ended :=
  requests_locked (System.reachableWithin_get_performWithin (init_idle _ _) twoDueRequests_isSome)
    (System.runWithin_of_performWithin (Option.some_get lockingPass_isSome).symm)
    (Option.some_get twoDueConfiguration_stored).symm

end SubnetRental.Lifecycle
