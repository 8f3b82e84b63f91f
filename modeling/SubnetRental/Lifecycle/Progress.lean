import SubnetRental.Foundation.RankedCalls
import SubnetRental.Lifecycle.Locks

/-!
# Every call comes to an end

No endpoint and no timer waits for another call of the canister: a guard that is not free makes a
call fail or, in `locking`, skip a request. `Frame.awaitsAhead` counts the awaits that can follow a
suspended position, and every segment that suspends again lowers it (`resume_awaiting`). This is a
ranking of the service, from which two results follow for all interleavings. `calls_bounded` bounds
the answers that one call can be given, whatever runs in between. `drains_of_reachable` says that
answering and delivering ends every reachable configuration in one without calls and guards, within
a number of steps that is known beforehand and whatever the answers are. The canister can then be
upgraded.
-/

set_option autoImplicit false
set_option relaxedAutoImplicit false

namespace SubnetRental.Lifecycle

open Canister Foundation.GuardedCalls Foundation.TransitionSystem Foundation.TreeMapTotals Std

/-! ### Awaits that lie ahead -/

/-- The requests of a list that `locking` converts for. -/
def dueCount (nowNanos : ℕ) (requests : List RentalRequest) : ℕ :=
  requests.countP fun r ↦ r.Due nowNanos

/-- The awaits of `convert_icp_to_cycles` after the one at hand. -/
def stageAhead : ConvertStage → ℕ
  | .transfer => 1
  | .notify _ => 0

/-- The awaits that can follow the one at hand. -/
def awaitsAhead : Frame → ℕ
  | .todaysPrice _ _ => 0
  -- the balance, the transfer and the CMC
  | .rentalRequestRate _ _ _ => 3
  | .rentalRequestBalance _ _ => 2
  | .rentalRequestConvert _ _ _ stage => stageAhead stage
  -- the authorization follows the conversion
  | .createConvert _ _ _ _ stage => stageAhead stage + 1
  | .createAuthorize _ _ _ => 0
  | .refundBalance _ => 1
  | .refundTransfer _ _ => 0
  | .estimateRate _ _ _ => 0
  | .topUpBalance _ _ => 2
  | .topUpConvert _ _ _ _ stage => stageAhead stage
  | .subnetAdmins _ => 0
  -- two for each request of the snapshot that is still to be locked
  | .lockingConvert nowNanos _ _ rest stage => stageAhead stage + 2 * dueCount nowNanos rest

/-- The awaits of an operation that starts in a state. -/
def maxAwaits : Operation → State → ℕ
  | .getTodaysPrice _, _ => 1
  | .executeRentalRequestProposal _ _, _ => 4
  | .executeCreateRentalAgreement _ _, _ => 3
  | .refund _, _ => 2
  | .subnetTopUpEstimate _ _, _ => 1
  | .topUpSubnet _, _ => 3
  | .updateSubnetAdmins _ _, _ => 1
  | .locking, s => 2 * dueCount s.now (s.iterRentalRequests.map Prod.snd)
  | .burnCycles, _ => 0

/-- The segment does not suspend with `bound` or more awaits ahead. -/
def Awaiting (bound : ℕ) : Segment → Prop :=
  Outcome.Suspending fun _ frame ↦ awaitsAhead frame < bound

theorem Awaiting.mono {bound larger : ℕ} {segment : Segment} (h : Awaiting bound segment)
    (hle : bound ≤ larger) : Awaiting larger segment :=
  Outcome.Suspending.mono h fun _ _ hlt ↦ hlt.trans_le hle

theorem stageAhead_await {stage stage' : ConvertStage} {answer : Answer}
    (h : convertIcpToCycles stage answer = .await stage') :
    stageAhead stage' < stageAhead stage := by
  obtain ⟨rfl, blockIndex, rfl⟩ := convertIcpToCycles_eq_await h
  exact Nat.zero_lt_one

/-! ### Segments -/

theorem awaiting_todaysPriceAfterRate (conditions : RentalConditions) (guards : Finset Lock)
    (rate : ℕ × ℕ) (s : State) : Awaiting 0 (todaysPriceAfterRate conditions guards rate s) := by
  unfold todaysPriceAfterRate
  dsimp only
  split <;> trivial

theorem awaiting_getTodaysPrice (id : RentalConditionId) (s : State) :
    Awaiting 1 (getTodaysPrice id s) := by
  unfold getTodaysPrice
  split
  · trivial
  · dsimp only
    split
    · exact (awaiting_todaysPriceAfterRate _ _ _ _).mono (Nat.zero_le _)
    · split
      · trivial
      · split
        · exact (awaiting_todaysPriceAfterRate _ _ _ _).mono (Nat.zero_le _)
        · exact Nat.zero_lt_one
        · trivial

theorem awaiting_resumeTodaysPrice (conditions : RentalConditions) (prevMidnight : ℕ)
    (answer : Answer) (s : State) :
    Awaiting 0 (resumeTodaysPrice conditions prevMidnight answer s) := by
  unfold resumeTodaysPrice
  split
  · trivial
  · trivial
  · exact awaiting_todaysPriceAfterRate _ _ _ _

theorem awaiting_rentalRequestAfterRate (payload : SubnetRentalProposalPayload)
    (conditions : RentalConditions) (rate : ℕ × ℕ) (s : State) :
    Awaiting 3 (rentalRequestAfterRate payload conditions rate s) := by
  unfold rentalRequestAfterRate
  split
  · trivial
  · exact Nat.lt_succ_self 2

theorem awaiting_executeRentalRequestProposal (caller : Principal)
    (payload : SubnetRentalProposalPayload) (s : State) :
    Awaiting 4 (executeRentalRequestProposal caller payload s) := by
  unfold executeRentalRequestProposal
  split_ifs with hcaller
  · trivial
  · split
    · trivial
    · split
      · trivial
      · split
        · trivial
        · split
          · trivial
          · split
            · trivial
            · split
              · trivial
              · dsimp only
                split
                · exact (awaiting_rentalRequestAfterRate _ _ _ _).mono (Nat.le_succ 3)
                · exact Nat.lt_succ_self 3
                · trivial

theorem awaiting_resumeRentalRequestRate (payload : SubnetRentalProposalPayload)
    (conditions : RentalConditions) (exchangeRateQueryTime : ℕ) (answer : Answer) (s : State) :
    Awaiting 3 (resumeRentalRequestRate payload conditions exchangeRateQueryTime answer s) := by
  unfold resumeRentalRequestRate
  split
  · trivial
  · trivial
  · exact awaiting_rentalRequestAfterRate _ _ _ _

theorem awaiting_resumeRentalRequestBalance (payload : SubnetRentalProposalPayload)
    (neededIcp : Tokens) (answer : Answer) (s : State) :
    Awaiting 2 (resumeRentalRequestBalance payload neededIcp answer s) := by
  unfold resumeRentalRequestBalance
  split
  · split
    · trivial
    · exact beginConvert_elim trivial fun _ ↦ Nat.lt_succ_self 1
  · trivial
  · trivial

theorem awaiting_resumeRentalRequestConvert (payload : SubnetRentalProposalPayload)
    (neededIcp lockAmountIcp : Tokens) (stage : ConvertStage) (answer : Answer) (s : State) :
    Awaiting (stageAhead stage)
      (resumeRentalRequestConvert payload neededIcp lockAmountIcp stage answer s) := by
  unfold resumeRentalRequestConvert
  split
  · trivial
  · rename_i stage' hstage
    exact stageAhead_await hstage
  · rename_i result _
    cases result with
    | error e => trivial
    | ok converted =>
      unfold rentalRequestAfterConvert
      dsimp only
      split <;> trivial

theorem awaiting_executeCreateRentalAgreement (caller : Principal)
    (payload : CreateRentalAgreementPayload) (s : State) :
    Awaiting 3 (executeCreateRentalAgreement caller payload s) := by
  unfold executeCreateRentalAgreement
  split_ifs with hcaller
  · trivial
  · split
    · trivial
    · split
      · trivial
      · split
        · trivial
        · split_ifs
          · trivial
          · split
            · trivial
            · exact beginCreateConvert_elim trivial fun _ _ ↦ Nat.lt_succ_self 2

theorem awaiting_resumeCreateConvert (payload : CreateRentalAgreementPayload)
    (rentalRequest : RentalRequest) (initialRentalPeriodNanos : ℕ) (remainingIcp : Tokens)
    (stage : ConvertStage) (answer : Answer) (s : State) :
    Awaiting (stageAhead stage + 1) (resumeCreateConvert payload rentalRequest
      initialRentalPeriodNanos remainingIcp stage answer s) := by
  unfold resumeCreateConvert
  split
  · trivial
  · rename_i stage' hstage
    exact Nat.succ_lt_succ (stageAhead_await hstage)
  · rename_i result _
    cases result with
    | error e => trivial
    | ok converted => exact Nat.succ_pos _

theorem awaiting_resumeCreateAuthorize (payload : CreateRentalAgreementPayload)
    (rentalAgreement : RentalAgreement) (answer : Answer) (s : State) :
    Awaiting 0 (resumeCreateAuthorize payload rentalAgreement answer s) := by
  unfold resumeCreateAuthorize
  split
  · trivial
  · split
    · trivial
    · split <;> trivial

theorem awaiting_refund (caller : Principal) (s : State) : Awaiting 2 (refund caller s) := by
  unfold refund
  split
  · trivial
  · split
    · trivial
    · exact Nat.lt_succ_self 1

theorem awaiting_resumeRefundBalance (caller : Principal) (answer : Answer) (s : State) :
    Awaiting 1 (resumeRefundBalance caller answer s) := by
  unfold resumeRefundBalance
  split
  · split
    · trivial
    · exact Nat.zero_lt_one
  · trivial
  · trivial

theorem awaiting_resumeRefundTransfer (caller : Principal) (toBeRefunded : Tokens)
    (answer : Answer) (s : State) :
    Awaiting 0 (resumeRefundTransfer caller toBeRefunded answer s) := by
  unfold resumeRefundTransfer
  split
  · trivial
  · dsimp only
    split
    · trivial
    · split <;> trivial
  · trivial
  · trivial

theorem awaiting_estimateAfterRate (rentalAgreement : RentalAgreement) (icp : Tokens)
    (rate : ℕ × ℕ) (s : State) : Awaiting 0 (estimateAfterRate rentalAgreement icp rate s) := by
  exact estimateAfterRate_elim trivial trivial fun _ ↦ trivial

theorem awaiting_subnetTopUpEstimate (subnetId : Principal) (icp : Tokens) (s : State) :
    Awaiting 1 (subnetTopUpEstimate subnetId icp s) := by
  unfold subnetTopUpEstimate
  split
  · trivial
  · dsimp only
    split
    · exact (awaiting_estimateAfterRate _ _ _ _).mono (Nat.zero_le _)
    · exact Nat.zero_lt_one
    · trivial

theorem awaiting_resumeEstimate (rentalAgreement : RentalAgreement) (icp : Tokens)
    (prevMidnight : ℕ) (answer : Answer) (s : State) :
    Awaiting 0 (resumeEstimate rentalAgreement icp prevMidnight answer s) := by
  unfold resumeEstimate
  split
  · trivial
  · trivial
  · exact awaiting_estimateAfterRate _ _ _ _

theorem awaiting_topUpSubnet (subnetId : Principal) (s : State) :
    Awaiting 3 (topUpSubnet subnetId s) := by
  unfold topUpSubnet
  split
  · trivial
  · split
    · trivial
    · exact Nat.lt_succ_self 2

theorem awaiting_resumeTopUpBalance (subnetId : Principal) (rentalAgreement : RentalAgreement)
    (answer : Answer) (s : State) :
    Awaiting 2 (resumeTopUpBalance subnetId rentalAgreement answer s) := by
  unfold resumeTopUpBalance
  split
  · split
    · trivial
    · exact beginConvert_elim trivial fun _ ↦ Nat.lt_succ_self 1
  · trivial
  · trivial

theorem awaiting_resumeTopUpConvert (subnetId : Principal) (rentalAgreement : RentalAgreement)
    (userIcpBalance icpAmountForCycles : Tokens) (stage : ConvertStage) (answer : Answer)
    (s : State) :
    Awaiting (stageAhead stage) (resumeTopUpConvert subnetId rentalAgreement userIcpBalance
      icpAmountForCycles stage answer s) := by
  unfold resumeTopUpConvert
  split
  · trivial
  · rename_i stage' hstage
    exact stageAhead_await hstage
  · rename_i result _
    cases result with
    | error e => trivial
    | ok converted =>
      unfold topUpAfterConvert
      dsimp only
      split
      · trivial
      · split
        · trivial
        · split
          · trivial
          · split <;> trivial

theorem awaiting_updateSubnetAdmins (caller : Principal) (payload : UpdateSubnetAdminsPayload)
    (s : State) : Awaiting 1 (updateSubnetAdmins caller payload s) := by
  unfold updateSubnetAdmins
  dsimp only
  split_ifs
  · split
    · trivial
    · split
      · trivial
      · split_ifs
        · trivial
        · exact Nat.zero_lt_one
      · split_ifs
        · trivial
        · exact Nat.zero_lt_one
      · exact Nat.zero_lt_one
  · trivial

theorem awaiting_resumeSubnetAdmins (payload : UpdateSubnetAdminsPayload) (answer : Answer)
    (s : State) : Awaiting 0 (resumeSubnetAdmins payload answer s) := by
  unfold resumeSubnetAdmins
  split <;> trivial

/-- The loop of `locking` has two awaits for each request that is due. -/
theorem awaiting_lockingLoop (nowNanos : ℕ) (requests : List RentalRequest) (s : State) :
    Awaiting (2 * dueCount nowNanos requests) (lockingLoop nowNanos requests s) := by
  induction requests with
  | nil => trivial
  | cons rentalRequest rest ih =>
    have hrest : dueCount nowNanos rest ≤ dueCount nowNanos (rentalRequest :: rest) := by
      unfold dueCount
      rw [List.countP_cons]
      exact Nat.le_add_right _ _
    unfold lockingLoop
    split_ifs with hdue
    · have hcons : dueCount nowNanos (rentalRequest :: rest) = dueCount nowNanos rest + 1 :=
        List.countP_cons_of_pos (decide_eq_true hdue)
      split
      · exact ih.mono (Nat.mul_le_mul_left 2 hrest)
      · refine beginConvert_elim trivial fun _ ↦ ?_
        change stageAhead .transfer + 2 * dueCount nowNanos rest < _
        rw [hcons, stageAhead]
        omega
    · exact ih.mono (Nat.mul_le_mul_left 2 hrest)

theorem awaiting_resumeLockingConvert (nowNanos : ℕ) (rentalRequest : RentalRequest)
    (tenPercentIcp : Tokens) (rest : List RentalRequest) (stage : ConvertStage) (answer : Answer)
    (s : State) :
    Awaiting (stageAhead stage + 2 * dueCount nowNanos rest)
      (resumeLockingConvert nowNanos rentalRequest tenPercentIcp rest stage answer s) := by
  unfold resumeLockingConvert
  split
  · trivial
  · rename_i stage' hstage
    exact Nat.add_lt_add_right (stageAhead_await hstage) _
  · rename_i result _
    have hloop (t : State) : Awaiting (stageAhead stage + 2 * dueCount nowNanos rest)
        (lockingLoop nowNanos rest t) :=
      (awaiting_lockingLoop nowNanos rest t).mono (Nat.le_add_left _ _)
    cases result with
    | error e => exact hloop _
    | ok converted =>
      unfold lockingAfterConvert
      dsimp only
      split
      · trivial
      · split
        · trivial
        · exact hloop _

theorem awaiting_burnCycles (s : State) : Awaiting 0 (burnCycles s) := by
  unfold burnCycles
  split <;> trivial

/-- An operation suspends with fewer awaits ahead than it can have in all. -/
theorem start_awaiting (operation : Operation) (s : State) :
    Awaiting (maxAwaits operation s) (start operation s) := by
  cases operation with
  | getTodaysPrice id => exact awaiting_getTodaysPrice id s
  | executeRentalRequestProposal caller payload =>
    exact awaiting_executeRentalRequestProposal caller payload s
  | executeCreateRentalAgreement caller payload =>
    exact awaiting_executeCreateRentalAgreement caller payload s
  | refund caller => exact awaiting_refund caller s
  | subnetTopUpEstimate subnetId icp => exact awaiting_subnetTopUpEstimate subnetId icp s
  | topUpSubnet subnetId => exact awaiting_topUpSubnet subnetId s
  | updateSubnetAdmins caller payload => exact awaiting_updateSubnetAdmins caller payload s
  | locking => exact awaiting_lockingLoop s.now _ s
  | burnCycles => exact awaiting_burnCycles s

/-- A segment that suspends again has fewer awaits ahead. -/
theorem resume_awaiting (frame : Frame) (answer : Answer) (s : State) :
    Awaiting (awaitsAhead frame) (resume frame answer s) := by
  cases frame with
  | todaysPrice conditions prevMidnight => exact awaiting_resumeTodaysPrice _ _ answer s
  | rentalRequestRate payload conditions time =>
    exact awaiting_resumeRentalRequestRate _ _ _ answer s
  | rentalRequestBalance payload neededIcp =>
    exact awaiting_resumeRentalRequestBalance _ _ answer s
  | rentalRequestConvert payload neededIcp lockAmountIcp stage =>
    exact awaiting_resumeRentalRequestConvert _ _ _ stage answer s
  | createConvert payload rentalRequest period remainingIcp stage =>
    exact awaiting_resumeCreateConvert _ _ _ _ stage answer s
  | createAuthorize payload rentalRequest rentalAgreement =>
    exact awaiting_resumeCreateAuthorize _ _ answer s
  | refundBalance caller => exact awaiting_resumeRefundBalance _ answer s
  | refundTransfer caller toBeRefunded => exact awaiting_resumeRefundTransfer _ _ answer s
  | estimateRate rentalAgreement icp prevMidnight => exact awaiting_resumeEstimate _ _ _ answer s
  | topUpBalance subnetId rentalAgreement => exact awaiting_resumeTopUpBalance _ _ answer s
  | topUpConvert subnetId rentalAgreement userIcpBalance icpAmountForCycles stage =>
    exact awaiting_resumeTopUpConvert _ _ _ _ stage answer s
  | subnetAdmins payload => exact awaiting_resumeSubnetAdmins _ answer s
  | lockingConvert nowNanos rentalRequest tenPercentIcp rest stage =>
    exact awaiting_resumeLockingConvert _ _ _ rest stage answer s

/-- The ranking of the service by the awaits that lie ahead. -/
def awaitRanking : Ranking service where
  rank := awaitsAhead
  rank_lt frame answer w w' frame' h := by
    obtain ⟨s', hsegment, -⟩ := Outcome.mapState_eq_suspend h
    have hawaiting := resume_awaiting frame answer w.canister
    rw [hsegment] at hawaiting
    exact hawaiting

/-! ### Runs -/

/-- Whatever runs in between, a call that suspended is given at most `maxAwaits` answers; at most
twice as many steps act on it, and fewer as long as it is suspended. -/
theorem calls_bounded {cycles : ℕ} {c d c' : Configuration} {operation : Operation}
    {labels : List Label} (hstart : service.next c (.start operation) = some d)
    (hsuspended : c.nextCall < d.nextCall) (hrun : (system cycles).perform d labels = some c') :
    answersGiven c.nextCall labels ≤ maxAwaits operation c.state.canister ∧
      stepsTaken c.nextCall labels ≤ 2 * maxAwaits operation c.state.canister ∧
      ((c'.calls[c.nextCall]?).isSome →
        stepsTaken c.nextCall labels < 2 * maxAwaits operation c.state.canister) := by
  obtain ⟨frame, hcall, hahead⟩ : ∃ frame, d.calls[c.nextCall]? = some ⟨operation, frame, none⟩ ∧
      awaitsAhead frame < maxAwaits operation c.state.canister := by
    cases Service.step_of_next hstart with
    | startTrap | startReply => exact absurd hsuspended (lt_irrefl _)
    | startSuspend _ w frame h =>
      obtain ⟨s', hsegment, -⟩ := Outcome.mapState_eq_suspend h
      have hawaiting := start_awaiting operation c.state.canister
      rw [hsegment] at hawaiting
      exact ⟨frame, by rw [getElem?_insert_ite, if_pos rfl], hawaiting⟩
  have hanswers := awaitRanking.answersAt_perform hrun hsuspended
  have hsteps := awaitRanking.stepsAt_perform hrun hsuspended
  rw [Ranking.answersAt_of_some hcall, Ranking.answersLeft_none] at hanswers
  rw [Ranking.stepsAt_of_some hcall, Ranking.stepsLeft_none] at hsteps
  have hrank : awaitRanking.rank frame = awaitsAhead frame := rfl
  refine ⟨by omega, by omega, fun hsome ↦ ?_⟩
  obtain ⟨call, hleft⟩ := Option.isSome_iff_exists.mp hsome
  rw [Ranking.stepsAt_of_some hleft, Ranking.stepsLeft] at hsteps
  omega

theorem topUp_isSome :
    (service.next rentedConfiguration (.start (.topUpSubnet aliceCreation.subnetId))).isSome := by
  decide +kernel

/-- The configuration in which a top-up of the rented subnet asks for the balance. -/
def askingBalance : Configuration :=
  (service.next rentedConfiguration (.start (.topUpSubnet aliceCreation.subnetId))).get topUp_isSome

/-- The balance, and what happens next. -/
def balanceAnswered : List Label :=
  [.serve rentedConfiguration.nextCall (.accountBalance ⟨10 ^ 10⟩),
    .resume rentedConfiguration.nextCall]

theorem balanceAnswered_isSome :
    ((system (10 ^ 12)).perform askingBalance balanceAnswered).isSome := by
  decide +kernel

theorem calls_bounded_askingBalance :
    answersGiven rentedConfiguration.nextCall balanceAnswered ≤ 3 :=
  (calls_bounded (Option.some_get topUp_isSome).symm (by decide +kernel)
    (Option.some_get balanceAnswered_isSome).symm).1

/-- Nothing is in flight, no guard is held and the canister can be upgraded. -/
structure Drained (c : Configuration) : Prop where
  calls : c.calls = ∅
  locks : c.state.canister.locks = ∅
  upgrade : (service.next c (.environment .upgrade)).isSome

theorem drained_of_idle {cycles : ℕ} {c : Configuration} (hc : (system cycles).Reachable c)
    (hcalls : c.calls = ∅) : Drained c := by
  refine ⟨hcalls, (sound_of_reachable hc).held_of_idle hcalls, ?_⟩
  obtain ⟨w, calls, nextCall, trace⟩ := c
  obtain rfl : calls = ∅ := hcalls
  rfl

/-- Answering requests and delivering answers ends all calls: such a run is bounded before it
begins, it can be stuck only where nothing is in flight and no guard is held, and it gets there
whatever the other canisters answer. -/
theorem drains_of_reachable {cycles : ℕ} {c : Configuration} (hc : (system cycles).Reachable c) :
    (∀ labels c', (system cycles).perform c labels = some c' → (∀ a ∈ labels, a.Delivers) →
      labels.length ≤ awaitRanking.pending c ∧
        ((∀ id, service.next c' (.resume id) = none) →
          (∀ id, ∃ answer, service.next c' (.serve id answer) = none) → Drained c')) ∧
      ∀ answers : Frame → World → Answer, ∃ c',
        (system cycles).RunWithin (Service.Follows answers) c c' ∧ Drained c' := by
  constructor
  · intro labels c' hrun hdelivers
    have hbound := awaitRanking.length_le_pending hrun hdelivers
    refine ⟨by omega, fun hresume hserve ↦ ?_⟩
    exact drained_of_idle (hc.append (System.run_of_perform hrun))
      (Service.idle_of_stuck hresume hserve)
  · intro answers
    obtain ⟨c', hrun, hidle⟩ := Service.exists_drained awaitRanking (Installed cycles) answers c
    exact ⟨c', hrun, drained_of_idle (hc.append hrun.run) hidle⟩

theorem drains_toppingUp : ∃ c',
    (system (10 ^ 12)).RunWithin (Service.Follows fun _ _ ↦ .callFailed "") toppingUpConfiguration
      c' ∧ Drained c' :=
  (drains_of_reachable reachable_toppingUpConfiguration).2 _

end SubnetRental.Lifecycle
