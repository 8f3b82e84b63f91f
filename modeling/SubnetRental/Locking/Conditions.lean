import SubnetRental.Lifecycle.Steps
import SubnetRental.Locking.Snapshot

/-!
# Open requests for a condition

`execute_rental_request_proposal` looks at all open requests before its first await and stores the
new one after its last. The guard that it takes is for the user, so a proposal for the same
condition and another user passes the same checks in between. `locking` writes back the copy of a
request from the start of its pass, which may be for another condition than the one that is stored
by then. `separate_of_reachable` shows that these are the only ways to two open requests for one
condition: without them the conditions of the open requests and of the proposals in flight stay
distinct (`Separate`). In `two_requests_for_condition` two proposals overlap.
-/

set_option autoImplicit false
set_option relaxedAutoImplicit false

namespace SubnetRental.Locking

open Canister Lifecycle Foundation.GuardedCalls Foundation.TransitionSystem
open Foundation.TreeMapTotals Std

/-! ### Requested conditions -/

/-- The condition of the open request of a user. -/
def requested (s : State) (user : Principal) : Option RentalConditionId :=
  (s.rentalRequests[user]?).map RentalRequest.rentalConditionId

theorem requested_of_requests {s s' : State} (h : s'.rentalRequests = s.rentalRequests)
    (user : Principal) : requested s' user = requested s user := by
  unfold requested
  rw [h]

theorem requested_insert (s : State) {s' : State} {u : Principal} {r : RentalRequest}
    (h : s'.rentalRequests = s.rentalRequests.insert u r) (user : Principal) :
    requested s' user = if u = user then some r.rentalConditionId else requested s user := by
  unfold requested
  rw [h, getElem?_insert_ite]
  split_ifs <;> rfl

theorem requested_erase (s : State) {s' : State} {u : Principal}
    (h : s'.rentalRequests = s.rentalRequests.erase u) (user : Principal) :
    requested s' user = if u = user then none else requested s user := by
  unfold requested
  rw [h, getElem?_erase_ite]
  split_ifs <;> rfl

/-- The operation is a proposal for a condition. -/
def proposes (conditionId : RentalConditionId) : Operation → Bool
  | .executeRentalRequestProposal _ payload => payload.rentalConditionId = conditionId
  | _ => false

/-- The checks of a proposal before its first await. -/
def admits (caller : Principal) (payload : SubnetRentalProposalPayload) (s : State) : Bool :=
  caller = governanceCanisterId && requestLock payload.user ∉ s.locks &&
    (s.getRentalRequest payload.user).isNone &&
    !(s.iterRentalAgreements.any fun entry ↦ entry.2.user = payload.user) &&
    !(s.iterRentalRequests.any fun entry ↦
      entry.2.rentalConditionId = payload.rentalConditionId)

/-- A proposal that gets to its first await has passed the checks. -/
theorem admits_of_suspend {caller : Principal} {payload : SubnetRentalProposalPayload}
    {s s' : State} {frame : Frame}
    (h : executeRentalRequestProposal caller payload s = .suspend s' frame) :
    admits caller payload s := by
  have hfailed (e : ExecuteProposalError) (t : State) :
      rentalRequestFailed payload e t ≠ .suspend s' frame := nofun
  unfold executeRentalRequestProposal at h
  split at h
  · cases h
  rename_i hcaller
  split at h
  · cases h
  rename_i t hguard
  obtain ⟨hfree, rfl⟩ := callerGuard_eq_some hguard
  split at h
  · exact absurd h (hfailed _ _)
  rename_i hrequest
  split at h
  · exact absurd h (hfailed _ _)
  rename_i hagreement
  split at h
  · cases h
  split at h
  · exact absurd h (hfailed _ _)
  split at h
  · exact absurd h (hfailed _ _)
  rename_i hcondition
  have hnone : (s.getRentalRequest payload.user).isNone := by
    rwa [Option.isNone_iff_eq_none, ← Option.not_isSome_iff_eq_none]
  unfold admits
  simp only [Bool.and_eq_true, Bool.not_eq_true', decide_eq_true_eq]
  exact ⟨⟨⟨⟨not_not.mp hcaller, hfree⟩, hnone⟩, Bool.eq_false_of_not_eq_true hagreement⟩,
    Bool.eq_false_of_not_eq_true hcondition⟩

/-- An admitted proposal is for a condition that nobody has requested. -/
theorem not_requested_of_admits {caller : Principal} {payload : SubnetRentalProposalPayload}
    {s : State} (h : admits caller payload s) (user : Principal) :
    requested s user ≠ some payload.rentalConditionId := by
  intro hrequested
  unfold admits at h
  obtain ⟨r, hstored, hcondition⟩ := Option.map_eq_some_iff.mp hrequested
  have hnone := (Bool.and_eq_true_iff.mp h).2
  have hsome : (s.iterRentalRequests.any fun entry ↦
      decide (entry.2.rentalConditionId = payload.rentalConditionId)) = true :=
    List.any_eq_true.mpr ⟨(user, r), ExtTreeMap.mem_toList_iff_getElem?_eq_some.mpr hstored,
      decide_eq_true hcondition⟩
  rw [hsome] at hnone
  cases hnone

/-! ### What a step can do -/

/-- A proposal is admitted only while no other one for its condition is suspended, and a pass of
`locking` writes back a copy for the condition that is stored. -/
def keepsSeparate (c : Configuration) : Label → Bool
  | .start (.executeRentalRequestProposal caller payload) =>
    !admits caller payload c.state.canister ||
      c.calls.toList.all fun entry ↦ !proposes payload.rentalConditionId entry.2.operation
  | .resume id =>
    match c.calls[id]? with
    | some ⟨_, .lockingConvert _ r _ _ (.notify _), some (.notifyTopUp (.ok _))⟩ =>
      (requested c.state.canister r.user).all fun stored ↦ stored = r.rentalConditionId
    | _ => true
  | _ => true

/-- A step requests no further condition, except that a resumed proposal ends and requests its
own. -/
inductive Requests (c c' : Configuration) : Prop
  | fewer (h : ∀ user conditionId, requested c'.state.canister user = some conditionId →
      requested c.state.canister user = some conditionId)
  | opened (id : ℕ) (call : Call Operation Frame Answer) (user : Principal)
      (conditionId : RentalConditionId) (hcall : c.calls[id]? = some call)
      (hproposes : proposes conditionId call.operation) (hends : c'.calls[id]? = none)
      (h : ∀ other, requested c'.state.canister other =
        if user = other then some conditionId else requested c.state.canister other)

theorem Requests.of_eq {c c' : Configuration}
    (h : c'.state.canister.rentalRequests = c.state.canister.rentalRequests) : Requests c c' :=
  .fewer fun user conditionId hrequested ↦ by rwa [requested_of_requests h] at hrequested

/-- A proposal ends when the CMC has created its cycles. -/
theorem opened_not_suspended (payload : SubnetRentalProposalPayload)
    (neededIcp lockAmountIcp : Tokens) (blockIndex lockedCycles : ℕ) (s s' : State)
    (frame : Frame) :
    resume (.rentalRequestConvert payload neededIcp lockAmountIcp (.notify blockIndex))
      (.notifyTopUp (.ok lockedCycles)) s ≠ .suspend s' frame := by
  intro h
  unfold resume resumeRentalRequestConvert at h
  dsimp only [convertIcpToCycles, rentalRequestAfterConvert] at h
  split at h <;> cases h

theorem requests_of_next {cycles : ℕ} {c c' : Configuration} {a : Label}
    (hc : (system cycles).Reachable c) (hkeeps : keepsSeparate c a)
    (hnext : (system cycles).next c a = some c') : Requests c c' := by
  have hsound := sound_of_reachable hc
  have hresumed {id : ℕ} {operation : Operation} {frame : Frame} {answer : Answer} {s' : State}
      (ha : a = .resume id) (hcall : c.calls[id]? = some ⟨operation, frame, some answer⟩)
      (hstate : c'.state.canister = s') (heffect : Effect c.state.canister s' frame answer)
      (hopened : ∀ payload neededIcp lockAmountIcp blockIndex,
        frame = .rentalRequestConvert payload neededIcp lockAmountIcp (.notify blockIndex) →
          (∃ lockedCycles, answer = .notifyTopUp (.ok lockedCycles)) → c'.calls[id]? = none) :
      Requests c c' := by
    subst ha hstate
    cases heffect with
    | quiet frame answer h => exact .of_eq h.rentalRequests
    | opened payload neededIcp lockAmountIcp blockIndex lockedCycles hnone h =>
      have hawaits := (hsound.assert id _ hcall).awaits
      cases operation <;> try exact hawaits.elim
      case executeRentalRequestProposal caller payload' =>
        obtain ⟨-, rfl⟩ := hawaits
        exact .opened id _ payload.user payload.rentalConditionId hcall (decide_eq_true rfl)
          (hopened payload neededIcp lockAmountIcp blockIndex rfl ⟨lockedCycles, rfl⟩)
          (requested_insert _ h.rentalRequests)
    | locked nowNanos r stored tenPercentIcp rest blockIndex lockedCycles hstored h =>
      refine .fewer fun user conditionId hrequested ↦ ?_
      rw [requested_insert _ h.rentalRequests] at hrequested
      split_ifs at hrequested with huser
      · subst huser
        have hsame := hkeeps
        simp only [keepsSeparate, hcall] at hsame
        unfold requested at hsame ⊢
        rw [hstored] at hsame ⊢
        rw [← hrequested]
        exact congrArg some (of_decide_eq_true hsame)
      · exact hrequested
    | cancelled caller toBeRefunded blockId r hstored h =>
      refine .fewer fun user conditionId hrequested ↦ ?_
      rw [requested_erase _ h.rentalRequests] at hrequested
      split_ifs at hrequested
      exact hrequested
    | granted payload r stored agreement answer hanswer hstored hfree h =>
      refine .fewer fun user conditionId hrequested ↦ ?_
      rw [requested_erase _ h.rentalRequests] at hrequested
      split_ifs at hrequested
      exact hrequested
    | toppedUp subnetId agreement stored balance amount blockIndex actualCycles conditions
        hconditions
        hstored h => exact .of_eq h.rentalRequests
  cases Service.step_of_next hnext with
  | startTrap operation reason h => exact .of_eq rfl
  | startSuspend operation state frame h =>
    obtain ⟨s', hsegment, rfl⟩ := Outcome.mapState_eq_suspend h
    have hstart := start_rentalRequests operation c.state.canister
    rw [hsegment] at hstart
    exact .of_eq hstart
  | startReply operation state response h =>
    obtain ⟨s', hsegment, rfl⟩ := Outcome.mapState_eq_reply h
    have hstart := start_rentalRequests operation c.state.canister
    rw [hsegment] at hstart
    exact .of_eq hstart
  | serve id operation frame answer hcall =>
    refine .of_eq ?_
    change (c.state.answer frame.outgoing answer).canister.rentalRequests = _
    rw [world_answer_canister]
  | resumeTrap id operation frame answer reason hcall h => exact .of_eq rfl
  | resumeSuspend id operation frame answer state frame' hcall h =>
    obtain ⟨s', hsegment, rfl⟩ := Outcome.mapState_eq_suspend h
    have heffect := resume_effect frame answer c.state.canister
    rw [hsegment] at heffect
    refine hresumed rfl hcall rfl heffect ?_
    rintro payload neededIcp lockAmountIcp blockIndex rfl ⟨lockedCycles, rfl⟩
    exact absurd hsegment (opened_not_suspended payload neededIcp lockAmountIcp blockIndex
      lockedCycles _ _ _)
  | resumeReply id operation frame answer state response hcall h =>
    obtain ⟨s', hsegment, rfl⟩ := Outcome.mapState_eq_reply h
    have heffect := resume_effect frame answer c.state.canister
    rw [hsegment] at heffect
    exact hresumed rfl hcall rfl heffect fun _ _ _ _ _ _ ↦ ExtTreeMap.getElem?_erase_self
  | environment event state h => exact .of_eq (environment_keeps h).1

/-! ### Distinct conditions -/

/-- The conditions of open requests and of suspended proposals are all different. -/
structure Separate (c : Configuration) : Prop where
  requests : ∀ user other conditionId, requested c.state.canister user = some conditionId →
    requested c.state.canister other = some conditionId → user = other
  proposals : ∀ (i j : ℕ) callI callJ conditionId, c.calls[i]? = some callI →
    c.calls[j]? = some callJ → proposes conditionId callI.operation →
      proposes conditionId callJ.operation → i = j
  apart : ∀ (id : ℕ) call user conditionId, c.calls[id]? = some call →
    proposes conditionId call.operation →
      requested c.state.canister user ≠ some conditionId

/-- A suspended proposal was suspended before the step, or the step admitted it while no other one
for its condition was suspended. -/
theorem proposal_origin {cycles : ℕ} {c c' : Configuration} {a : Label} (hkeeps : keepsSeparate c a)
    (hnext : (system cycles).next c a = some c') {id : ℕ} {call : Call Operation Frame Answer}
    {conditionId : RentalConditionId} (hcall : c'.calls[id]? = some call)
    (hproposes : proposes conditionId call.operation) :
    (∃ old, c.calls[id]? = some old ∧ proposes conditionId old.operation) ∨
      (id = c.nextCall ∧
        (∀ user, requested c'.state.canister user ≠ some conditionId) ∧
        ∀ (other : ℕ) old, c.calls[other]? = some old → ¬ proposes conditionId old.operation) := by
  obtain ⟨old, hold, hsame⟩ | ⟨hid, rfl, hstart⟩ :=
    (Service.step_of_next hnext).operation_of_some hcall
  · exact .inl ⟨old, hold, hsame ▸ hproposes⟩
  · refine .inr ⟨hid, ?_⟩
    obtain ⟨operation, frame, answer⟩ := call
    cases operation <;> try exact absurd hproposes Bool.noConfusion
    case executeRentalRequestProposal caller payload =>
      obtain rfl : payload.rentalConditionId = conditionId := of_decide_eq_true hproposes
      obtain ⟨s', hsegment, hstate⟩ := Outcome.mapState_eq_suspend hstart
      have hadmits := admits_of_suspend hsegment
      have hrequests := start_rentalRequests
        (.executeRentalRequestProposal caller payload) c.state.canister
      rw [hsegment] at hrequests
      constructor
      · intro user
        rw [hstate, requested_of_requests hrequests]
        exact not_requested_of_admits hadmits user
      · intro other old hold hother
        change (!admits caller payload c.state.canister || _) = true at hkeeps
        rw [hadmits] at hkeeps
        have hnot := List.all_eq_true.mp hkeeps (other, old)
          (ExtTreeMap.mem_toList_iff_getElem?_eq_some.mpr hold)
        rw [hother] at hnot
        cases hnot

theorem Separate.step {cycles : ℕ} {c c' : Configuration} {a : Label}
    (hc : (system cycles).Reachable c) (h : Separate c) (hkeeps : keepsSeparate c a)
    (hnext : (system cycles).next c a = some c') : Separate c' := by
  have hrequests := requests_of_next hc hkeeps hnext
  refine ⟨?_, ?_, ?_⟩
  · intro user other conditionId huser hother
    cases hrequests with
    | fewer hfewer => exact h.requests user other conditionId (hfewer _ _ huser) (hfewer _ _ hother)
    | opened id call opener openedId hcall hproposes hends hopened =>
      have hapart := h.apart id call
      rw [hopened] at huser hother
      split_ifs at huser hother with hu ho ho
      · exact hu.symm.trans ho
      · obtain rfl := Option.some.inj huser
        exact absurd hother (hapart other openedId hcall hproposes)
      · obtain rfl := Option.some.inj hother
        exact absurd huser (hapart user openedId hcall hproposes)
      · exact h.requests user other conditionId huser hother
  · intro i j callI callJ conditionId hi hj hproposesI hproposesJ
    obtain ⟨oldI, hoI, hpI⟩ | ⟨rfl, -, hnoneI⟩ := proposal_origin hkeeps hnext hi hproposesI
    · obtain ⟨oldJ, hoJ, hpJ⟩ | ⟨rfl, -, hnoneJ⟩ := proposal_origin hkeeps hnext hj hproposesJ
      · exact h.proposals i j oldI oldJ conditionId hoI hoJ hpI hpJ
      · exact absurd hpI (hnoneJ i oldI hoI)
    · obtain ⟨oldJ, hoJ, hpJ⟩ | ⟨rfl, -, -⟩ := proposal_origin hkeeps hnext hj hproposesJ
      · exact absurd hpJ (hnoneI j oldJ hoJ)
      · rfl
  · intro id call user conditionId hcall hproposes hrequested
    obtain ⟨old, hold, hproposesOld⟩ | ⟨-, hnone, -⟩ := proposal_origin hkeeps hnext hcall hproposes
    · cases hrequests with
      | fewer hfewer =>
        exact h.apart id old user conditionId hold hproposesOld (hfewer _ _ hrequested)
      | opened other opening opener openedId hopening hopens hends hopened =>
        rw [hopened] at hrequested
        split_ifs at hrequested
        · -- the proposal that ended is the only one for its condition
          obtain rfl := Option.some.inj hrequested
          obtain rfl := h.proposals id other old opening openedId hold hopening hproposesOld hopens
          exact absurd (hends.symm.trans hcall) nofun
        · exact h.apart id old user conditionId hold hproposesOld hrequested
    · exact hnone user hrequested

/-- In every run in which no proposal is admitted while another one for its condition is suspended,
and in which `locking` never writes back a copy for another condition than the stored one, there are
never two open requests for one condition. -/
theorem separate_of_reachable {cycles : ℕ} {c : Configuration}
    (h : (system cycles).ReachableWithin (fun c a ↦ keepsSeparate c a) c) :
    ∀ (u v : Principal) q r, c.state.canister.rentalRequests[u]? = some q →
      c.state.canister.rentalRequests[v]? = some r →
        q.rentalConditionId = r.rentalConditionId → u = v := by
  have hseparate : Separate c := by
    refine h.induct (J := Separate) ?_ ?_
    · rintro start ⟨⟨now, reserve, -, hinstall⟩, hcalls, -, -⟩
      refine ⟨?_, ?_, ?_⟩
      · intro user other conditionId huser
        rw [hinstall] at huser
        cases huser
      · intro i j callI callJ conditionId hi
        rw [hcalls] at hi
        cases hi
      · intro id call user conditionId hcall
        rw [hcalls] at hcall
        cases hcall
    · intro u v a hu hJ ha hnext
      exact hJ.step hu.reachable ha hnext
  intro u v q r hu hv hsame
  refine hseparate.requests u v q.rentalConditionId ?_ ?_
  · exact Option.map_eq_some_iff.mpr ⟨q, hu, rfl⟩
  · exact Option.map_eq_some_iff.mpr ⟨r, hv, hsame.symm⟩

/-- A pass over two requests, to its end. -/
def lockedBoth : List Label := lockingOfBoth ++ [.resume 2]

theorem lockedBoth_isSome :
    ((system (10 ^ 12)).performWithin (fun c a ↦ keepsSeparate c a)
      (idle (installedWorld (10 ^ 12) fun _ ↦ 10 ^ 13)) lockedBoth).isSome := by
  decide +kernel

def lockedBothConfiguration : Configuration :=
  ((system (10 ^ 12)).performWithin (fun c a ↦ keepsSeparate c a)
    (idle (installedWorld (10 ^ 12) fun _ ↦ 10 ^ 13)) lockedBoth).get lockedBoth_isSome

theorem separate_lockedBoth : ∃ q r,
    lockedBothConfiguration.state.canister.rentalRequests[aliceProposal.user]? = some q ∧
      lockedBothConfiguration.state.canister.rentalRequests[bobProposal.user]? = some r ∧
      q.rentalConditionId ≠ r.rentalConditionId := by
  have halice :
      (lockedBothConfiguration.state.canister.rentalRequests[aliceProposal.user]?).isSome := by
    decide +kernel
  have hbob :
      (lockedBothConfiguration.state.canister.rentalRequests[bobProposal.user]?).isSome := by
    decide +kernel
  obtain ⟨q, hq⟩ := Option.isSome_iff_exists.mp halice
  obtain ⟨r, hr⟩ := Option.isSome_iff_exists.mp hbob
  refine ⟨q, r, hq, hr, fun hsame ↦ ?_⟩
  have heq := separate_of_reachable
    (System.reachableWithin_get_performWithin (init_idle _ _) lockedBoth_isSome) _ _ q r hq hr hsame
  exact absurd heq (by decide)

/-! ### Two proposals for one condition -/

/-- Proposals of Alice and Bob for the same condition are executed at the same time. -/
def overlappingProposals : List Label :=
  [.start (.executeRentalRequestProposal governanceCanisterId aliceProposal),
    .start (.executeRentalRequestProposal governanceCanisterId
      { bobProposal with rentalConditionId := aliceProposal.rentalConditionId })] ++
    [0, 1].flatMap fun id ↦
      [.exchangeRate (.ok (3_500_000_000, 9)), .accountBalance ⟨10 ^ 13⟩, .transfer (.ok (id + 1)),
        .notifyTopUp (.ok (10 ^ 16))].flatMap fun answer ↦ [.serve id answer, .resume id]

theorem overlappingProposals_isSome :
    ((system (10 ^ 12)).perform (idle (installedWorld (10 ^ 12) fun _ ↦ 10 ^ 13))
      overlappingProposals).isSome := by
  decide +kernel

def overlappingConfiguration : Configuration :=
  ((system (10 ^ 12)).perform (idle (installedWorld (10 ^ 12) fun _ ↦ 10 ^ 13))
    overlappingProposals).get overlappingProposals_isSome

theorem requested_overlapping :
    requested overlappingConfiguration.state.canister aliceProposal.user = some .app13CH ∧
      requested overlappingConfiguration.state.canister bobProposal.user = some .app13CH := by
  decide +kernel

/-- Both proposals succeed, and two requests for one condition are open. -/
theorem two_requests_for_condition :
    ¬ ∀ c, (system (10 ^ 12)).Reachable c → ∀ (u v : Principal) q r,
      c.state.canister.rentalRequests[u]? = some q →
        c.state.canister.rentalRequests[v]? = some r →
          q.rentalConditionId = r.rentalConditionId → u = v := by
  intro hseparate
  obtain ⟨halice, hbob⟩ := requested_overlapping
  obtain ⟨q, hq, hconditionQ⟩ := Option.map_eq_some_iff.mp halice
  obtain ⟨r, hr, hconditionR⟩ := Option.map_eq_some_iff.mp hbob
  have heq := hseparate overlappingConfiguration
    (System.reachable_get_perform (init_idle _ _) overlappingProposals_isSome) _ _ q r hq hr
    (hconditionQ.trans hconditionR.symm)
  exact absurd heq (by decide)

end SubnetRental.Locking
