import SubnetRental.Foundation.ExclusiveRegistry
import SubnetRental.Lifecycle.Commits
import SubnetRental.Lifecycle.Steps
import SubnetRental.Locking.Snapshot

/-!
# The canister is a registry of rentals

What the canister is for: users request a subnet, a request is cancelled or turned into an
agreement, and an agreement lasts. `rentalRules` states that as a registry: governance makes claims
and grants, a user withdraws the own claim, `locking` revises claims, and top-ups, burn passes and
the migration amend agreements. `step_simulated` shows that every step of the canister is a list of
such moves, each made by the operation that is resumed, and that the replies agree with the moves:
governance is told that a proposal was executed exactly when a claim was made or granted.
`registry_refined` is the refinement for all runs.

A pass of `locking` may revise a past value of a request, because it works on copies. Where every
pass finds its copies stored, the same simulation holds for the registry in which revisions start
from the pending value.
-/

set_option autoImplicit false
set_option relaxedAutoImplicit false

namespace SubnetRental.Lifecycle

open Canister Foundation.GuardedCalls Foundation.MachineInteger Foundation.TransitionSystem
open Foundation.TreeMapTotals Foundation.ExclusiveRegistry Locking Std

/-! ### The rules -/

/-- Who changes requests and agreements. -/
inductive Agent
  | call (operation : Operation)
  | upgrade

abbrev RentalMove := Move Principal Principal RentalRequest RentalAgreement

/-- A new request for what a proposal asks for, with a tenth of the cost locked. -/
def Opens (payload : SubnetRentalProposalPayload) (r : RentalRequest) : Prop :=
  ∃ neededIcp lockedCycles nowNanos,
    r = openedRequest payload neededIcp ⟨neededIcp.e8s / 10⟩ lockedCycles nowNanos

/-- What an agent may do. -/
def May : Agent → RentalMove → Prop
  | .call (.executeRentalRequestProposal caller payload), .claim user r =>
    caller = governanceCanisterId ∧ user = payload.user ∧ Opens payload r
  | .call (.executeCreateRentalAgreement caller payload), .grant user subnetId a =>
    caller = governanceCanisterId ∧ user = payload.user ∧ subnetId = payload.subnetId ∧
      a.subnetId = payload.subnetId ∧ a.subnetCreationProposalId = some payload.proposalId
  | .call (.refund caller), .withdraw user => user = caller
  | .call .locking, .revise _ _ => True
  | .call (.topUpSubnet subnetId), .amend subnetId' _ => subnetId' = subnetId
  | .call .burnCycles, .amend _ _ => True
  | .upgrade, .amend subnetId _ => subnetId = targetSubnet
  | _, _ => False

/-- A due request after one more tenth was locked. -/
def LocksTenth (r r' : RentalRequest) : Prop :=
  ∃ nowNanos lockedCycles, nowNanos < 2 ^ 64 ∧ WellFormedRequest nowNanos r ∧ r.Due nowNanos ∧
    r' = r.afterLocking nowNanos r.tenPercentIcp lockedCycles

/-- An agreement for what was requested. -/
structure Grants (r : RentalRequest) (a : RentalAgreement) : Prop where
  rentalRequestProposalId : a.rentalRequestProposalId = r.initialProposalId
  rentalConditionId : a.rentalConditionId = r.rentalConditionId
  totalIcpPaid : a.totalIcpPaid = r.initialCostIcp
  totalCyclesBurned : a.totalCyclesBurned = 0

/-- An agreement keeps its user, its subnet and its proposals, its totals only grow, and its
condition changes at most from the first to the second one. -/
structure Amends (a a' : RentalAgreement) : Prop where
  user : a'.user = a.user
  subnetId : a'.subnetId = a.subnetId
  rentalRequestProposalId : a'.rentalRequestProposalId = a.rentalRequestProposalId
  subnetCreationProposalId : a'.subnetCreationProposalId = a.subnetCreationProposalId
  creationTimeNanos : a'.creationTimeNanos = a.creationTimeNanos
  icpPaid_le : a.totalIcpPaid ≤ a'.totalIcpPaid
  created_le : a.totalCyclesCreated ≤ a'.totalCyclesCreated
  burned_le : a.totalCyclesBurned ≤ a'.totalCyclesBurned
  condition : a'.rentalConditionId = a.rentalConditionId ∨
    a.rentalConditionId = .app13CH ∧ a'.rentalConditionId = .app7CH

/-- The canister as a registry. -/
def rentalRules (stale : Prop) : Rules Agent Principal Principal RentalRequest RentalAgreement where
  holder := RentalAgreement.user
  may := May
  stale
  revises := LocksTenth
  grants := Grants
  amends := Amends
  holder_amends _ _ h := h.user

/-! ### The simulation -/

/-- The registry of the stored requests and agreements. -/
structure Represents {stale : Prop} (s : State) (R : Registry (rentalRules stale)) : Prop where
  pending : ∀ user : Principal, R.pending user = s.rentalRequests[user]?
  held : ∀ subnetId : Principal, R.held subnetId = s.rentalAgreements[subnetId]?

/-- The copies of requests that a suspended position works on. -/
def copies : Frame → List RentalRequest
  | .lockingConvert _ rentalRequest _ rest _ => rentalRequest :: rest
  | _ => []

/-- The registry remembers every copy that is in flight. -/
structure Simulates {stale : Prop} (c : Configuration) (R : Registry (rentalRules stale)) : Prop
    extends Represents c.state.canister R where
  copies : ∀ (id : ℕ) call, c.calls[id]? = some call → ∀ r ∈ copies call.frame, r ∈ R.past r.user

/-- The proposal whose execution an act is. -/
def executedBy : Agent × RentalMove → Option Operation
  | (.call operation, .claim _ _) => some operation
  | (.call operation, .grant _ _ _) => some operation
  | _ => none

/-- The proposals that were executed, by the replies to governance. -/
def executions (ended : List (Operation × Except Trap Response)) : List Operation :=
  (ended.filter succeeded).map Prod.fst

/-- A refund of a user that returned `Ok`. -/
def refunded (user : Principal) : Operation × Except Trap Response → Bool
  | (.refund caller, .ok (.refunded (.ok _))) => caller = user
  | _ => false

/-- The replies agree with the moves. -/
structure Reported (acts : List (Agent × RentalMove))
    (ended : List (Operation × Except Trap Response)) : Prop where
  executed : acts.filterMap executedBy = executions ended
  withdrawn : ∀ user, counted (Move.withdrawals user) acts ≤ ended.countP (refunded user)

theorem Reported.append {acts more : List (Agent × RentalMove)}
    {ended later : List (Operation × Except Trap Response)} (h : Reported acts ended)
    (hmore : Reported more later) : Reported (acts ++ more) (ended ++ later) := by
  constructor
  · unfold executions
    rw [List.filterMap_append, List.filter_append, List.map_append, h.executed, hmore.executed]
    rfl
  · intro user
    rw [counted_append, List.countP_append]
    exact Nat.add_le_add (h.withdrawn user) (hmore.withdrawn user)

/-- An act that neither executes a proposal nor withdraws a request agrees with a reply that does
not say so. -/
theorem reported_of_silent {acts : List (Agent × RentalMove)}
    {ended : List (Operation × Except Trap Response)}
    (hexecuted : ∀ act ∈ acts, executedBy act = none)
    (hwithdrawn : ∀ act ∈ acts, ∀ user, Move.withdrawals user act.2 = 0)
    (hended : ∀ entry ∈ ended, succeeded entry = false) : Reported acts ended := by
  constructor
  · have hnone : executions ended = [] := by
      unfold executions
      rw [List.filter_eq_nil_iff.mpr fun entry hentry ↦ by simp [hended entry hentry], List.map_nil]
    rw [hnone, List.filterMap_eq_nil_iff]
    exact hexecuted
  · intro user
    have hzero : counted (Move.withdrawals user) acts = 0 := by
      refine List.sum_eq_zero fun value hvalue ↦ ?_
      obtain ⟨act, hact, rfl⟩ := List.mem_map.mp hvalue
      exact hwithdrawn act hact user
    rw [hzero]
    exact Nat.zero_le _

theorem reported_nil {ended : List (Operation × Except Trap Response)}
    (hended : ∀ entry ∈ ended, succeeded entry = false) : Reported [] ended :=
  reported_of_silent (List.forall_mem_nil _) (List.forall_mem_nil _) hended

theorem succeeded_error (operation : Operation) (reason : Trap) :
    succeeded (operation, .error reason) = false := by
  cases operation <;> rfl

/-! ### Segments -/

section Segments

variable {stale : Prop} {R : Registry (rentalRules stale)} {s s' : State}

theorem Represents.of_maps (hR : Represents s R) (hrequests : s'.rentalRequests = s.rentalRequests)
    (hagreements : s'.rentalAgreements = s.rentalAgreements) : Represents s' R :=
  ⟨fun user ↦ hrequests ▸ hR.pending user, fun subnetId ↦ hagreements ▸ hR.held subnetId⟩

/-- The registry after a permitted move represents the state with the same changes. -/
theorem Represents.after {m : RentalMove} (hpermits : R.Permits m)
    (hpending : ∀ user : Principal, m.pendingAfter R.pending user = s'.rentalRequests[user]?)
    (hheld : ∀ subnetId : Principal, m.heldAfter R.held subnetId = s'.rentalAgreements[subnetId]?) :
    Represents s' (R.after m hpermits) :=
  ⟨hpending, hheld⟩

/-- Requests that differ by one inserted value. -/
theorem pending_insert (hR : Represents s R) {user : Principal} {r : RentalRequest}
    (hrequests : s'.rentalRequests = s.rentalRequests.insert user r) (u : Principal) :
    Function.update R.pending user (some r) u = s'.rentalRequests[u]? := by
  rw [hrequests, getElem?_insert_ite, Function.update_apply, hR.pending]
  exact if_congr eq_comm rfl rfl

/-- Requests that differ by one erased value. -/
theorem pending_erase (hR : Represents s R) {user : Principal}
    (hrequests : s'.rentalRequests = s.rentalRequests.erase user) (u : Principal) :
    Function.update R.pending user none u = s'.rentalRequests[u]? := by
  rw [hrequests, getElem?_erase_ite, Function.update_apply, hR.pending]
  exact if_congr eq_comm rfl rfl

/-- Agreements that differ by one inserted value. -/
theorem held_insert (hR : Represents s R) {subnetId : Principal} {a : RentalAgreement}
    (hagreements : s'.rentalAgreements = s.rentalAgreements.insert subnetId a) (i : Principal) :
    Function.update R.held subnetId (some a) i = s'.rentalAgreements[i]? := by
  rw [hagreements, getElem?_insert_ite, Function.update_apply, hR.held]
  exact if_congr eq_comm rfl rfl

theorem held_same (hR : Represents s R) (hagreements : s'.rentalAgreements = s.rentalAgreements)
    (i : Principal) : R.held i = s'.rentalAgreements[i]? := by
  rw [hagreements, hR.held]

theorem pending_same (hR : Represents s R) (hrequests : s'.rentalRequests = s.rentalRequests)
    (u : Principal) : R.pending u = s'.rentalRequests[u]? := by
  rw [hrequests, hR.pending]

/-- The replies of a segment. -/
def replies (operation : Operation) (response : Option Response) :
    List (Operation × Except Trap Response) :=
  response.toList.map fun reply ↦ (operation, .ok reply)

theorem reported_of_declined {acts : List (Agent × RentalMove)} {operation : Operation}
    {response : Option Response} (hexecuted : ∀ act ∈ acts, executedBy act = none)
    (hwithdrawn : ∀ act ∈ acts, ∀ user, Move.withdrawals user act.2 = 0)
    (hdeclined : Declined operation response) : Reported acts (replies operation response) := by
  refine reported_of_silent hexecuted hwithdrawn fun entry hentry ↦ ?_
  obtain ⟨reply, hreply, rfl⟩ := List.mem_map.mp hentry
  exact hdeclined reply (Option.mem_toList.mp hreply)

/-- Some moves lead from one registry to one that represents the state after a segment. -/
def SimulatedBy (R : Registry (rentalRules stale)) (s' : State)
    (ended : List (Operation × Except Trap Response)) : Prop :=
  ∃ acts R', (registry (rentalRules stale)).perform R acts = some R' ∧ Represents s' R' ∧
    Reported acts ended

theorem SimulatedBy.still {ended : List (Operation × Except Trap Response)}
    (hR : Represents s' R) (hended : ∀ entry ∈ ended, succeeded entry = false) :
    SimulatedBy R s' ended :=
  ⟨[], R, rfl, hR, reported_nil hended⟩

theorem SimulatedBy.silent (hR : Represents s' R) : SimulatedBy R s' [] :=
  .still hR (List.forall_mem_nil _)

/-- A permitted move that makes the changes of a segment simulates it. -/
theorem SimulatedBy.move {agent : Agent} {m : RentalMove}
    {ended : List (Operation × Except Trap Response)} (hmay : May agent m) (hpermits : R.Permits m)
    (hpending : ∀ user : Principal, m.pendingAfter R.pending user = s'.rentalRequests[user]?)
    (hheld : ∀ subnetId : Principal, m.heldAfter R.held subnetId = s'.rentalAgreements[subnetId]?)
    (hreported : Reported [(agent, m)] ended) : SimulatedBy R s' ended :=
  ⟨[(agent, m)], R.after m hpermits, perform_singleton (a := agent) hmay hpermits,
    .after hpermits hpending hheld, hreported⟩

/-- What a resumed segment commits to is one move of its operation. -/
theorem simulated_of_commit {operation : Operation} {frame : Frame} {response : Option Response}
    (hR : Represents s R) (hs : Consistent s) (hawaits : Awaits operation frame)
    (hknows : Knows frame s) (hcopies : ∀ r ∈ copies frame, r ∈ R.past r.user)
    (hcurrent : stale ∨ ∀ r ∈ (copies frame).head?, s.rentalRequests[r.user]? = some r)
    (hcommit : Commit s s' operation frame response) :
    SimulatedBy R s' (replies operation response) := by
  cases hcommit with
  | quiet _ _ hdeclined h =>
    exact ⟨[], R, rfl, hR.of_maps h.rentalRequests h.rentalAgreements,
      reported_of_declined (List.forall_mem_nil _) (List.forall_mem_nil _) hdeclined⟩
  | opened payload neededIcp lockAmountIcp blockIndex lockedCycles h =>
    cases operation <;> try exact hawaits.elim
    case executeRentalRequestProposal caller payload' =>
    obtain ⟨rfl, rfl⟩ := hawaits
    obtain ⟨⟨hnone, hother⟩, -, rfl, -⟩ := hknows
    have hpermits : R.Permits (.claim payload.user
        (openedRequest payload neededIcp ⟨neededIcp.e8s / 10⟩ lockedCycles s.now)) :=
      ⟨(hR.pending _).trans hnone, fun i a ha ↦ hother i a ((hR.held i).symm.trans ha)⟩
    have hmay : May (.call (.executeRentalRequestProposal governanceCanisterId payload))
        (.claim payload.user
          (openedRequest payload neededIcp ⟨neededIcp.e8s / 10⟩ lockedCycles s.now)) :=
      ⟨rfl, rfl, neededIcp, lockedCycles, s.now, rfl⟩
    exact .move hmay hpermits (pending_insert hR h.rentalRequests)
      (held_same hR h.rentalAgreements) ⟨rfl, fun user ↦ Nat.zero_le _⟩
  | locked nowNanos r stored tenPercentIcp rest blockIndex lockedCycles _ hdeclined hstored h =>
    cases operation <;> try exact hawaits.elim
    case locking =>
    obtain ⟨hnow, hwell, hdue, rfl, -⟩ := hknows
    have hsource : R.Source r.user r := by
      obtain hstale | hstored' := hcurrent
      · exact .inr ⟨hstale, by rw [hR.pending, hstored]; rfl, hcopies r List.mem_cons_self⟩
      · exact .inl ((hR.pending _).trans (hstored' r rfl))
    have hpermits : R.Permits (.revise r.user
        (r.afterLocking nowNanos r.tenPercentIcp lockedCycles)) :=
      ⟨r, hsource, nowNanos, lockedCycles, hnow.trans_lt hs.now_lt, hwell, hdue, rfl⟩
    have hmay : May (.call .locking)
        (.revise r.user (r.afterLocking nowNanos r.tenPercentIcp lockedCycles)) := trivial
    refine .move hmay hpermits (pending_insert hR h.rentalRequests)
      (held_same hR h.rentalAgreements) ?_
    exact reported_of_declined (by simp [executedBy]) (by simp [Move.withdrawals]) hdeclined
  | cancelled caller toBeRefunded blockId burned r hstored h =>
    cases operation <;> try exact hawaits.elim
    case refund caller' =>
    obtain rfl : caller = caller' := hawaits
    have hpermits : R.Permits (.withdraw caller) := ⟨r, (hR.pending _).trans hstored⟩
    have hmay : May (.call (.refund caller)) (.withdraw caller) := rfl
    refine .move hmay hpermits (pending_erase hR h.rentalRequests)
      (held_same hR h.rentalAgreements) ⟨rfl, fun user ↦ ?_⟩
    by_cases hsame : caller = user
    · simp [counted, Move.withdrawals, replies, refunded, hsame]
    · simp [counted, Move.withdrawals, hsame]
  | granted payload r a h =>
    cases operation <;> try exact hawaits.elim
    case executeCreateRentalAgreement caller payload' =>
    obtain ⟨rfl, rfl⟩ := hawaits
    obtain ⟨hrequest, hfree, conditions, convertedCycles, nowNanos, -, -, rfl⟩ := hknows
    have hpermits : R.Permits (.grant payload.user payload.subnetId (grantedAgreement payload r
        (initialRentalPeriodNanos conditions) convertedCycles nowNanos)) :=
      ⟨r, (hR.pending _).trans hrequest, (hR.held _).trans hfree, rfl, rfl, rfl, rfl, rfl⟩
    have hmay : May (.call (.executeCreateRentalAgreement governanceCanisterId payload))
        (.grant payload.user payload.subnetId (grantedAgreement payload r
          (initialRentalPeriodNanos conditions) convertedCycles nowNanos)) :=
      ⟨rfl, rfl, rfl, rfl, rfl⟩
    exact .move hmay hpermits (pending_erase hR h.rentalRequests)
      (held_insert hR h.rentalAgreements) ⟨rfl, fun user ↦ Nat.zero_le _⟩
  | toppedUp subnetId a stored balance amount blockIndex actualCycles dailyCostCycles _ hdeclined
      hstored h =>
    cases operation <;> try exact hawaits.elim
    case topUpSubnet subnetId' =>
    obtain rfl : subnetId = subnetId' := hawaits
    obtain rfl : a = stored := Option.some.inj (hknows.1.symm.trans hstored)
    have hwell := hs.agreement_wellFormed subnetId a hstored
    have hpermits : R.Permits (.amend subnetId
        (toppedUpAgreement a a dailyCostCycles actualCycles balance)) :=
      ⟨a, (hR.held _).trans hstored, rfl, rfl, rfl, rfl, rfl, Nat.le_add_right _ _,
        le_saturatingAdd hwell.created_lt, le_rfl, .inl rfl⟩
    have hmay : May (.call (.topUpSubnet subnetId))
        (.amend subnetId (toppedUpAgreement a a dailyCostCycles actualCycles balance)) := rfl
    refine .move hmay hpermits (pending_same hR h.rentalRequests)
      (held_insert hR h.rentalAgreements) ?_
    exact reported_of_declined (by simp [executedBy]) (by simp [Move.withdrawals]) hdeclined

/-- A burn pass amends agreements. -/
theorem simulated_of_burnPass {burned : List (Principal × ℕ)} (hR : Represents s R)
    (hs : Consistent s) (h : burnPass s = .ok (burned, s'))
    {ended : List (Operation × Except Trap Response)}
    (hended : ∀ entry ∈ ended, succeeded entry = false) : SimulatedBy R s' ended := by
  have hpass : ∃ acts R', (registry (rentalRules stale)).perform R acts = some R' ∧
      Represents s' R' ∧ Consistent s' ∧ ∀ act ∈ acts, ∃ i a, act.2 = Move.amend i a := by
    refine burnPass_induct (J := fun _ t ↦ ∃ acts R',
      (registry (rentalRules stale)).perform R acts = some R' ∧ Represents t R' ∧ Consistent t ∧
        ∀ act ∈ acts, ∃ i a, act.2 = Move.amend i a) ?_ h
      ⟨[], R, rfl, hR, hs, List.forall_mem_nil _⟩
    rintro done t subnetId amounts t' ⟨acts, R', hacts, hR', ht, hamends⟩ hstep
    have ht' := ht.of_burnStep hstep
    cases hstep with
    | skip => exact ⟨acts, R', hacts, hR', ht, hamends⟩
    | burn a amount hfree hstored hsome hdivisible hamount =>
      have hwell := ht.agreement_wellFormed subnetId a hstored
      have hpermits : R'.Permits (.amend subnetId (burnedAgreement a amount)) :=
        ⟨a, (hR'.held _).trans hstored, rfl, rfl, rfl, rfl, rfl, Nat.le_refl _, le_rfl,
          le_saturatingAdd (hwell.burned_le.trans_lt hwell.created_lt), .inl rfl⟩
      refine ⟨_, _, System.perform_append hacts
        (perform_singleton (a := Agent.call .burnCycles) trivial hpermits),
        .after hpermits (pending_same hR' rfl) (held_insert hR' rfl), ht', ?_⟩
      intro act hact
      obtain hold | hlast := List.mem_append.mp hact
      · exact hamends act hold
      · obtain rfl := List.mem_singleton.mp hlast
        exact ⟨subnetId, _, rfl⟩
  obtain ⟨acts, R', hacts, hR', -, hamends⟩ := hpass
  refine ⟨acts, R', hacts, hR', reported_of_silent (fun act hact ↦ ?_) (fun act hact user ↦ ?_)
    hended⟩
  · obtain ⟨i, a, ha⟩ := hamends act hact
    obtain ⟨agent, m⟩ := act
    obtain rfl : m = .amend i a := ha
    cases agent <;> rfl
  · obtain ⟨i, a, ha⟩ := hamends act hact
    rw [ha]
    rfl

/-- A first segment changes nothing, or it is a burn pass. -/
theorem start_simulated (operation : Operation) (hR : Represents s R) (hs : Consistent s) :
    (start operation s).Leaving fun s' ↦ ∀ ended : List (Operation × Except Trap Response),
      (∀ entry ∈ ended, succeeded entry = false) → SimulatedBy R s' ended :=
  start_leaving framing_quiet operation
    (fun _ hquiet _ ↦ .still (hR.of_maps hquiet.rentalRequests hquiet.rentalAgreements))
    fun _ _ hpass _ hended ↦ simulated_of_burnPass hR hs hpass hended

/-- An upgrade amends the agreement of the target subnet or nothing. -/
theorem simulated_of_upgraded (hR : Represents s R) (h : Upgraded s s') : SimulatedBy R s' [] := by
  obtain hagreements | ⟨a, hstored, hcondition, hagreements⟩ := h.agreements
  · exact .silent (hR.of_maps h.rentalRequests hagreements)
  · have hpermits : R.Permits (.amend targetSubnet (repricedAgreement s.now a)) :=
      ⟨a, (hR.held _).trans hstored, rfl, rfl, rfl, rfl, rfl, Nat.le_refl _, le_rfl, le_rfl,
        .inr ⟨hcondition, rfl⟩⟩
    have hmay : May .upgrade (.amend targetSubnet (repricedAgreement s.now a)) := rfl
    refine .move hmay hpermits (pending_same hR h.rentalRequests) (held_insert hR hagreements) ?_
    exact reported_of_silent (by simp [executedBy]) (by simp [Move.withdrawals])
      (List.forall_mem_nil _)

end Segments

/-! ### Steps -/

/-- The copies of a pass that starts are stored. -/
theorem stored_of_copies {operation : Operation} {s s' : State} {frame : Frame} (hs : Consistent s)
    (h : start operation s = .suspend s' frame) {r : RentalRequest} (hr : r ∈ copies frame) :
    s'.rentalRequests[r.user]? = some r := by
  cases frame with
  | lockingConvert nowNanos r₀ tenPercentIcp rest stage => exact stored_of_start hs h hr
  | _ => cases hr

/-- A pass that goes on has no new copies. -/
theorem copies_of_resume {operation : Operation} {frame frame' : Frame} {answer : Answer}
    {s s' : State} (hawaits : Awaits operation frame) (hknows : Knows frame s)
    (h : resume frame answer s = .suspend s' frame') {r : RentalRequest} (hr : r ∈ copies frame') :
    r ∈ copies frame := by
  cases frame' with
  | lockingConvert nowNanos r₁ tenPercentIcp rest stage =>
    obtain ⟨nowNanos₀, r₀, tenPercentIcp₀, rest₀, stage₀, rfl, hfrom⟩ :=
      lockingConvert_of_resume hawaits hknows h
    obtain ⟨-, rfl, rfl⟩ | ⟨result, -, -, hsuffix, -⟩ := hfrom
    · exact hr
    · exact List.mem_cons_of_mem _ (hsuffix.subset hr)
  | _ => cases hr

/-- A copy in flight after a step is stored or was in flight before. -/
theorem copies_of_next {cycles : ℕ} {allowed : Configuration → Label → Prop} {c c' : Configuration}
    {a : Label} (hc : (system cycles).ReachableWithin allowed c)
    (hnext : (system cycles).next c a = some c') {id : ℕ} {call : Call Operation Frame Answer}
    (hcall : c'.calls[id]? = some call) {r : RentalRequest} (hr : r ∈ copies call.frame) :
    c'.state.canister.rentalRequests[r.user]? = some r ∨
      ∃ old, c.calls[id]? = some old ∧ r ∈ copies old.frame := by
  have hsound := sound_of_reachable hc
  cases (Service.step_of_next hnext).origin hcall with
  | untouched call htarget hold => exact .inr ⟨call, hold, hr⟩
  | started operation frame ha h =>
    obtain ⟨s', hsegment, hstate⟩ := Outcome.mapState_eq_suspend h
    rw [hstate]
    exact .inl (stored_of_copies hsound.inv.consistent hsegment hr)
  | served operation frame answer ha hold h => exact .inr ⟨_, hold, hr⟩
  | resumed operation frame answer frame' ha hold h =>
    obtain ⟨s', hsegment, -⟩ := Outcome.mapState_eq_suspend h
    have hknown := hsound.assert id _ hold
    exact .inr ⟨_, hold, copies_of_resume hknown.awaits hknown.knows hsegment hr⟩

/-- Some moves simulate what happens between two configurations. -/
def Simulated {stale : Prop} (c c' : Configuration) (R : Registry (rentalRules stale)) : Prop :=
  ∃ acts R' ended, (registry (rentalRules stale)).perform R acts = some R' ∧ Simulates c' R' ∧
    c'.trace = c.trace ++ ended ∧ Reported acts ended

/-- The copies of the suspended passes are stored. -/
def CopiesStored : Configuration → Prop := CopiesRelated fun r stored ↦ stored = some r

/-- Every step of the canister is a list of moves of the registry. Without stale revisions this
needs the copies of the suspended passes to be stored. -/
theorem step_simulated {stale : Prop} {cycles : ℕ} {allowed : Configuration → Label → Prop}
    {c c' : Configuration} {a : Label} {R : Registry (rentalRules stale)}
    (hc : (system cycles).ReachableWithin allowed c) (hsim : Simulates c R)
    (hcurrent : stale ∨ CopiesStored c) (hnext : (system cycles).next c a = some c') :
    Simulated c c' R := by
  have hsound := sound_of_reachable hc
  have hs := hsound.inv.consistent
  have hR := hsim.toRepresents
  have hfailed (operation : Operation) (reason : Trap) :
      ∀ entry ∈ [(operation, (.error reason : Except Trap Response))],
        succeeded entry = false := by
    intro entry hentry
    obtain rfl := List.mem_singleton.mp hentry
    exact succeeded_error operation reason
  have hover : RepliesOver (fun _ s' ended ↦ SimulatedBy R s' ended) c := by
    refine ⟨fun operation ↦ ?_, fun id operation frame answer hcall ↦ ?_,
      fun operation reason ↦ .still hR (hfailed operation reason),
      fun guards operation reason ↦ .still (hR.of_maps rfl rfl) (hfailed operation reason),
      fun _ _ _ _ ↦ .silent (hR.of_maps rfl rfl),
      fun _ ↦ simulated_of_upgraded hR (upgraded_postUpgrade c.state.canister)⟩
    · have hleaves := start_simulated operation hR hs
      cases hsegment : start operation c.state.canister with
      | trap reason => trivial
      | suspend s' frame =>
        rw [hsegment] at hleaves
        exact hleaves [] (List.forall_mem_nil _)
      | reply s' response =>
        rw [hsegment] at hleaves
        refine hleaves _ fun entry hentry ↦ ?_
        obtain rfl := List.mem_singleton.mp hentry
        exact start_declines hsegment
    · have hknown := hsound.assert id _ hcall
      have hcommits := resume_commits hknown.awaits answer c.state.canister
      have hfresh : stale ∨ ∀ r ∈ (copies frame).head?,
          c.state.canister.rentalRequests[r.user]? = some r := by
        refine hcurrent.imp_right fun hstored r hr ↦ ?_
        cases frame with
        | lockingConvert nowNanos r₀ tenPercentIcp rest stage =>
          obtain rfl := Option.some.inj hr
          exact hstored id _ nowNanos r₀ tenPercentIcp rest stage hcall rfl
        | _ => cases hr
      have hsimulated {s' : State} {response : Option Response}
          (hcommit : Commit c.state.canister s' operation frame response) :
          SimulatedBy R s' (replies operation response) :=
        simulated_of_commit hR hs hknown.awaits hknown.knows (hsim.copies id _ hcall) hfresh hcommit
      cases hsegment : resume frame answer c.state.canister with
      | trap reason => trivial
      | suspend s' frame' =>
        rw [hsegment] at hcommits
        exact hsimulated hcommits
      | reply s' response =>
        rw [hsegment] at hcommits
        exact hsimulated hcommits
  obtain ⟨ended, htrace, acts, R', hacts, hR', hreported⟩ := replies_of_next hover hnext
  refine ⟨acts, R', ended, hacts, ⟨hR', fun id call hcall r hr ↦ ?_⟩, htrace, hreported⟩
  obtain hstored | ⟨old, hold, hmem⟩ := copies_of_next hc hnext hcall hr
  · exact R'.recorded _ r ((hR'.pending _).trans hstored)
  · exact past_subset_of_perform hacts _ (hsim.copies id old hold r hmem)

/-! ### Runs -/

/-- The schedules for which the moves of the registry are exact: passes find their copies stored, or
revisions may be stale. -/
def Exact (stale : Prop) (allowed : Configuration → Label → Prop) : Prop :=
  stale ∨ ∀ c a, allowed c a → snapshotCurrent c a

theorem copiesStored_of_reachable {cycles : ℕ} {allowed : Configuration → Label → Prop}
    {c : Configuration} (hallowed : ∀ c a, allowed c a → snapshotCurrent c a)
    (hc : (system cycles).ReachableWithin allowed c) : CopiesStored c := by
  refine System.ReachableWithin.induct ?_ ?_ hc
  · rintro start ⟨-, hcalls, -, -⟩ id call _ _ _ _ _ hcall
    simp [hcalls] at hcall
  · intro u v a hu ih ha hnext
    refine CopiesRelated.step (R := fun r stored ↦ stored = some r) (fun _ ↦ rfl) hu ih
      (fun r hr ↦ ?_) hnext
    simpa only [snapshotCurrent, hr, decide_eq_true_eq] using hallowed u a ha

/-- Every run of the canister is a list of moves of the registry. -/
theorem run_simulated {stale : Prop} {cycles : ℕ} {allowed : Configuration → Label → Prop}
    {c c' : Configuration} {R : Registry (rentalRules stale)} (hexact : Exact stale allowed)
    (hc : (system cycles).ReachableWithin allowed c) (hsim : Simulates c R)
    (hrun : (system cycles).RunWithin allowed c c') : Simulated c c' R := by
  refine hrun.induct (J := fun d ↦ Simulated c d R)
    ⟨[], R, [], rfl, hsim, (List.append_nil _).symm, reported_nil (List.forall_mem_nil _)⟩ ?_
  rintro u v a hu ⟨acts, R', ended, hacts, hsim', htrace, hreported⟩ - hnext
  have hreachable := hc.append hu
  obtain ⟨more, R'', later, hmore, hsim'', htrace', hreported'⟩ := step_simulated hreachable hsim'
    (hexact.imp_right fun hallowed ↦ copiesStored_of_reachable hallowed hreachable) hnext
  refine ⟨acts ++ more, R'', ended ++ later, System.perform_append hacts hmore, hsim'', ?_,
    hreported.append hreported'⟩
  rw [htrace', htrace, List.append_assoc]

theorem simulates_of_init {stale : Prop} {cycles : ℕ} {c : Configuration}
    (h : (system cycles).init c) :
    Simulates c (.empty : Registry (rentalRules stale)) := by
  obtain ⟨⟨now, seed, -, hcanister⟩, hcalls, -, -⟩ := h
  constructor
  · constructor
    · intro user
      rw [hcanister]
      rfl
    · intro subnetId
      rw [hcanister]
      rfl
  · intro id call hcall
    simp [hcalls] at hcall

/-- The history of a configuration is a history of the registry, with the same replies. -/
def Refined (stale : Prop) (c : Configuration) : Prop :=
  ∃ acts R, (registry (rentalRules stale)).perform .empty acts = some R ∧ Simulates c R ∧
    Reported acts c.trace

theorem refined_of_reachable {stale : Prop} {cycles : ℕ} {allowed : Configuration → Label → Prop}
    {c : Configuration} (hexact : Exact stale allowed)
    (hc : (system cycles).ReachableWithin allowed c) : Refined stale c := by
  obtain ⟨start, hinit, hrun⟩ := hc
  obtain ⟨acts, R, ended, hacts, hsim, htrace, hreported⟩ :=
    run_simulated hexact (.init hinit) (simulates_of_init hinit) hrun
  obtain ⟨-, -, -, hnone⟩ := hinit
  rw [hnone, List.nil_append] at htrace
  exact ⟨acts, R, hacts, hsim, htrace ▸ hreported⟩

/-- Every history of the canister is one of the registry in which a revision may start from a past
value, and of the exact registry as long as the passes of `locking` find their copies stored. -/
theorem registry_refined {cycles : ℕ} {allowed : Configuration → Label → Prop} {c : Configuration}
    (hc : (system cycles).ReachableWithin allowed c) :
    Refined True c ∧ ((∀ c a, allowed c a → snapshotCurrent c a) → Refined False c) :=
  ⟨refined_of_reachable (.inl trivial) hc, fun hcurrent ↦ refined_of_reachable (.inr hcurrent) hc⟩

/-- A run in which a pass locks for two users. -/
theorem registry_refined_lockingOfBoth :
    Refined False (((system (10 ^ 12)).performWithin (fun c a ↦ snapshotCurrent c a ∧ cyclesFit c a)
      (idle (installedWorld (10 ^ 12) fun _ ↦ 10 ^ 13)) lockingOfBoth).get
        lockingOfBoth_isSome) :=
  (registry_refined (System.reachableWithin_get_performWithin (init_idle _ _)
    lockingOfBoth_isSome)).2 fun _ _ h ↦ h.1

end SubnetRental.Lifecycle
