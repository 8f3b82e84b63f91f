import SubnetRental.Lifecycle.Discipline

/-!
# The unwraps that never fail

The canister unwraps the results of `persist_rental_request`, `remove_rental_request`,
`persist_rental_agreement` and `update_rental_agreement` although the checks that make them succeed
were made before an await. `External` are the traps that do not come from one of these four.
`resume_external` shows that a segment that resumes with what its frame knows traps for no other
reason, and `external_of_reachable` that no call of any run ever did.
-/

set_option autoImplicit false
set_option relaxedAutoImplicit false

namespace SubnetRental.Lifecycle

open Canister Foundation.GuardedCalls Foundation.MachineInteger Foundation.TreeMapTotals
open Foundation.TransitionSystem Std

/-- Traps that do not come from an unwrap of a change of the maps whose precondition was checked. -/
def External (reason : Trap) : Prop :=
  reason ≠ .persistRentalRequest ∧ reason ≠ .removeRentalRequest ∧
    reason ≠ .persistRentalAgreement ∧ reason ≠ .updateRentalAgreement

instance (reason : Trap) : Decidable (External reason) :=
  inferInstanceAs (Decidable (_ ∧ _ ∧ _ ∧ _))

theorem external_getExchangeRate {s : State} {time : ℕ} {reason : Trap}
    (h : getExchangeRate s time = .trap reason) : External reason := by
  unfold getExchangeRate at h
  split at h
  · cases h
  · split_ifs at h
    obtain rfl := RateLookup.trap.inj h
    decide

theorem external_receiveExchangeRate {s : State} {time : ℕ} {answer : Answer} {reason : Trap}
    (h : receiveExchangeRate s time answer = .error reason) : External reason := by
  unfold receiveExchangeRate at h
  split at h
  · cases h
  · cases h
  · obtain rfl := Except.error.inj h
    decide
  · obtain rfl := Except.error.inj h
    decide

theorem external_convertIcpToCycles {stage : ConvertStage} {answer : Answer} {reason : Trap}
    (h : convertIcpToCycles stage answer = .trap reason) : External reason := by
  unfold convertIcpToCycles at h
  split at h
  · cases h
  · cases h
  · cases h
  · cases h
  · obtain rfl := ConvertResult.trap.inj h
    decide
  · obtain rfl := ConvertResult.trap.inj h
    decide

theorem external_burnPass {s : State} {reason : Trap} (h : burnPass s = .error reason) :
    External reason := by
  have hone (subnetId : Principal) (t : State) {reason : Trap}
      (h : burnOne subnetId t = .error reason) : External reason := by
    rw [burnOne_eq] at h
    split_ifs at h
    split at h
    · cases h
    · split_ifs at h
      obtain rfl := Except.error.inj h
      decide
  have hloop (subnets : List Principal) : ∀ t, burnLoop subnets t = .error reason →
      External reason := by
    induction subnets with
    | nil => exact nofun
    | cons subnetId rest ih =>
      intro t h
      unfold burnLoop at h
      split at h
      · rename_i reason' hfirst
        obtain rfl := Except.error.inj h
        exact hone subnetId t hfirst
      · rename_i burned t' hfirst
        split at h
        · rename_i reason' hrest
          obtain rfl := Except.error.inj h
          exact ih t' hrest
        · cases h
  exact hloop _ s h

/-! ### Segments that change no map -/

theorem external_todaysPriceAfterRate (conditions : RentalConditions) (guards : Finset Lock)
    (rate : ℕ × ℕ) (s : State) :
    (todaysPriceAfterRate conditions guards rate s).Trapping External := by
  unfold todaysPriceAfterRate
  dsimp only
  split <;> trivial

theorem external_rentalRequestAfterRate (payload : SubnetRentalProposalPayload)
    (conditions : RentalConditions) (rate : ℕ × ℕ) (s : State) :
    (rentalRequestAfterRate payload conditions rate s).Trapping External := by
  unfold rentalRequestAfterRate
  split <;> trivial

theorem external_estimateAfterRate (rentalAgreement : RentalAgreement) (icp : Tokens)
    (rate : ℕ × ℕ) (s : State) :
    (estimateAfterRate rentalAgreement icp rate s).Trapping External :=
  estimateAfterRate_elim (by decide : External .tokensUnderflow)
    (by decide : External .divisionByZero) fun _ ↦ trivial

theorem external_beginConvert (amount : Tokens) (frame : Frame) (s : State) :
    (beginConvert amount frame s).Trapping External :=
  beginConvert_elim (by decide : External .tokensUnderflow) fun _ ↦ trivial

theorem external_lockingLoop (nowNanos : ℕ) (requests : List RentalRequest) (s : State) :
    (lockingLoop nowNanos requests s).Trapping External := by
  induction requests with
  | nil => trivial
  | cons rentalRequest rest ih =>
    unfold lockingLoop
    split_ifs
    · split
      · exact ih
      · exact external_beginConvert _ _ _
    · exact ih

theorem external_executeRentalRequestProposal (caller : Principal)
    (payload : SubnetRentalProposalPayload) (s : State) :
    (executeRentalRequestProposal caller payload s).Trapping External := by
  unfold executeRentalRequestProposal
  split
  · trivial
  · split
    · exact (by decide : External .concurrentCall)
    · split
      · trivial
      · split
        · trivial
        · split
          · exact (by decide : External .rentalConditionsNotFound)
          · split
            · trivial
            · split
              · trivial
              · dsimp only
                split
                · exact external_rentalRequestAfterRate _ _ _ _
                · trivial
                · rename_i reason hrate
                  exact external_getExchangeRate hrate

theorem external_executeCreateRentalAgreement (caller : Principal)
    (payload : CreateRentalAgreementPayload) (s : State) :
    (executeCreateRentalAgreement caller payload s).Trapping External := by
  unfold executeCreateRentalAgreement
  split
  · trivial
  · split
    · exact (by decide : External .concurrentCall)
    · split
      · exact (by decide : External .concurrentCall)
      · split
        · trivial
        · split
          · trivial
          · split
            · exact (by decide : External .rentalConditionsNotFound)
            · exact beginCreateConvert_elim (by decide : External .tokensUnderflow)
                fun _ _ ↦ trivial

/-- A first segment never fails in one of the four unwraps. -/
theorem start_external (operation : Operation) (s : State) :
    (start operation s).Trapping External := by
  cases operation with
  | getTodaysPrice id =>
    change (getTodaysPrice id s).Trapping External
    unfold getTodaysPrice
    split
    · trivial
    · dsimp only
      split
      · exact external_todaysPriceAfterRate _ _ _ s
      · split
        · trivial
        · split
          · exact external_todaysPriceAfterRate _ _ _ _
          · trivial
          · rename_i reason hrate
            exact external_getExchangeRate hrate
  | executeRentalRequestProposal caller payload =>
    exact external_executeRentalRequestProposal caller payload s
  | executeCreateRentalAgreement caller payload =>
    exact external_executeCreateRentalAgreement caller payload s
  | refund caller =>
    change (refund caller s).Trapping External
    unfold refund
    split
    · trivial
    · split <;> trivial
  | subnetTopUpEstimate subnetId icp =>
    change (subnetTopUpEstimate subnetId icp s).Trapping External
    unfold subnetTopUpEstimate
    split
    · trivial
    · dsimp only
      split
      · exact external_estimateAfterRate _ _ _ s
      · trivial
      · rename_i reason hrate
        exact external_getExchangeRate hrate
  | topUpSubnet subnetId =>
    change (topUpSubnet subnetId s).Trapping External
    unfold topUpSubnet
    split
    · trivial
    · split <;> trivial
  | updateSubnetAdmins caller payload =>
    change (updateSubnetAdmins caller payload s).Trapping External
    unfold updateSubnetAdmins
    dsimp only
    split_ifs
    · split
      · trivial
      · split
        · trivial
        · split_ifs <;> trivial
        · split_ifs <;> trivial
        · trivial
    · trivial
  | locking => exact external_lockingLoop _ _ s
  | burnCycles =>
    change (burnCycles s).Trapping External
    unfold burnCycles
    split
    · rename_i reason hpass
      exact external_burnPass hpass
    · trivial

/-! ### Segments that change a map -/

theorem external_resumeRentalRequestConvert {payload : SubnetRentalProposalPayload}
    {neededIcp lockAmountIcp : Tokens} {stage : ConvertStage} (answer : Answer) {s : State}
    (hnone : NoRental payload.user s) :
    (resumeRentalRequestConvert payload neededIcp lockAmountIcp stage answer s).Trapping
      External := by
  unfold resumeRentalRequestConvert
  split
  · rename_i reason hconvert
    exact external_convertIcpToCycles hconvert
  · trivial
  · rename_i result _
    cases result with
    | error e => trivial
    | ok converted =>
      unfold rentalRequestAfterConvert State.persistRentalRequest
      dsimp only
      rw [State.persistEvent_rentalRequests, hnone.1]
      trivial

theorem external_resumeCreateConvert (payload : CreateRentalAgreementPayload)
    (rentalRequest : RentalRequest) (period : ℕ) (remainingIcp : Tokens) (stage : ConvertStage)
    (answer : Answer) (s : State) :
    (resumeCreateConvert payload rentalRequest period remainingIcp stage answer s).Trapping
      External := by
  unfold resumeCreateConvert
  split
  · rename_i reason hconvert
    exact external_convertIcpToCycles hconvert
  · trivial
  · rename_i result _
    cases result <;> trivial

theorem external_resumeCreateAuthorize {payload : CreateRentalAgreementPayload}
    {rentalRequest : RentalRequest} {rentalAgreement : RentalAgreement} (answer : Answer)
    {s : State} (hknows : Knows (.createAuthorize payload rentalRequest rentalAgreement) s) :
    (resumeCreateAuthorize payload rentalAgreement answer s).Trapping External := by
  obtain ⟨hrequest, hfree, conditions, convertedCycles, nowNanos, -, -, rfl⟩ := hknows
  unfold resumeCreateAuthorize
  split
  · exact (by decide : External .callFailed)
  · unfold State.removeRentalRequest State.persistRentalAgreement
    simp only [hrequest]
    have hfree' : s.rentalAgreements[(grantedAgreement payload rentalRequest
        (initialRentalPeriodNanos conditions) convertedCycles nowNanos).subnetId]? = none := hfree
    simp only [hfree']
    trivial

theorem external_resumeRefundTransfer (caller : Principal) (toBeRefunded : Tokens)
    (answer : Answer) (s : State) :
    (resumeRefundTransfer caller toBeRefunded answer s).Trapping External := by
  unfold resumeRefundTransfer
  split
  · trivial
  · dsimp only
    split
    · trivial
    · rename_i rentalRequest hstored
      have hstored' : s.rentalRequests[caller]? = some rentalRequest := hstored
      unfold State.removeRentalRequest
      rw [State.cyclesBurn_rentalRequests, State.persistEvent_rentalRequests, hstored']
      trivial
  · exact (by decide : External .callFailed)
  · exact (by decide : External .decodeFailed)

theorem external_resumeTopUpConvert {subnetId : Principal} {rentalAgreement : RentalAgreement}
    {userIcpBalance icpAmountForCycles : Tokens} {stage : ConvertStage} (answer : Answer)
    {s : State} (hstored : s.rentalAgreements[subnetId]? = some rentalAgreement) :
    (resumeTopUpConvert subnetId rentalAgreement userIcpBalance icpAmountForCycles stage answer
      s).Trapping External := by
  unfold resumeTopUpConvert
  split
  · rename_i reason hconvert
    exact external_convertIcpToCycles hconvert
  · trivial
  · rename_i result _
    cases result with
    | error e => trivial
    | ok converted =>
      unfold topUpAfterConvert
      dsimp only
      split
      · exact (by decide : External .rentalConditionsNotFound)
      · split
        · exact (by decide : External .divisionByZero)
        · split
          · exact (by decide : External .tokensOverflow)
          · unfold State.updateRentalAgreement
            rw [State.persistEvent_rentalAgreements, hstored]
            trivial

theorem external_resumeLockingConvert (nowNanos : ℕ) (rentalRequest : RentalRequest)
    (tenPercentIcp : Tokens) (rest : List RentalRequest) (stage : ConvertStage) (answer : Answer)
    (s : State) :
    (resumeLockingConvert nowNanos rentalRequest tenPercentIcp rest stage answer s).Trapping
      External := by
  unfold resumeLockingConvert
  split
  · rename_i reason hconvert
    exact external_convertIcpToCycles hconvert
  · trivial
  · rename_i result _
    cases result with
    | error e => exact external_lockingLoop _ _ _
    | ok converted =>
      unfold lockingAfterConvert
      dsimp only
      split
      · exact (by decide : External .tokensOverflow)
      · split
        · exact (by decide : External .updateRentalRequest)
        · exact external_lockingLoop _ _ _

/-- A resumed segment never fails in one of the four unwraps. -/
theorem resume_external {frame : Frame} (answer : Answer) {s : State} (hknows : Knows frame s) :
    (resume frame answer s).Trapping External := by
  cases frame with
  | todaysPrice conditions prevMidnight =>
    change (resumeTodaysPrice conditions prevMidnight answer s).Trapping External
    unfold resumeTodaysPrice
    split
    · rename_i reason hrate
      exact external_receiveExchangeRate hrate
    · trivial
    · exact external_todaysPriceAfterRate _ _ _ _
  | rentalRequestRate payload conditions time =>
    change (resumeRentalRequestRate payload conditions time answer s).Trapping External
    unfold resumeRentalRequestRate
    split
    · rename_i reason hrate
      exact external_receiveExchangeRate hrate
    · trivial
    · exact external_rentalRequestAfterRate _ _ _ _
  | rentalRequestBalance payload neededIcp =>
    change (resumeRentalRequestBalance payload neededIcp answer s).Trapping External
    unfold resumeRentalRequestBalance
    split
    · split
      · trivial
      · exact external_beginConvert _ _ _
    · exact (by decide : External .callFailed)
    · exact (by decide : External .decodeFailed)
  | rentalRequestConvert payload neededIcp lockAmountIcp stage =>
    exact external_resumeRentalRequestConvert answer hknows.1
  | createConvert payload rentalRequest period remainingIcp stage =>
    exact external_resumeCreateConvert _ _ _ _ _ _ s
  | createAuthorize payload rentalRequest rentalAgreement =>
    exact external_resumeCreateAuthorize answer hknows
  | refundBalance caller =>
    change (resumeRefundBalance caller answer s).Trapping External
    unfold resumeRefundBalance
    split
    · split <;> trivial
    · exact (by decide : External .callFailed)
    · exact (by decide : External .decodeFailed)
  | refundTransfer caller toBeRefunded => exact external_resumeRefundTransfer _ _ _ s
  | estimateRate rentalAgreement icp prevMidnight =>
    change (resumeEstimate rentalAgreement icp prevMidnight answer s).Trapping External
    unfold resumeEstimate
    split
    · rename_i reason hrate
      exact external_receiveExchangeRate hrate
    · trivial
    · exact external_estimateAfterRate _ _ _ _
  | topUpBalance subnetId rentalAgreement =>
    change (resumeTopUpBalance subnetId rentalAgreement answer s).Trapping External
    unfold resumeTopUpBalance
    split
    · split
      · trivial
      · exact external_beginConvert _ _ _
    · exact (by decide : External .callFailed)
    · exact (by decide : External .decodeFailed)
  | topUpConvert subnetId rentalAgreement userIcpBalance icpAmountForCycles stage =>
    exact external_resumeTopUpConvert answer hknows.1
  | subnetAdmins payload =>
    change (resumeSubnetAdmins payload answer s).Trapping External
    unfold resumeSubnetAdmins
    split <;> trivial
  | lockingConvert nowNanos rentalRequest tenPercentIcp rest stage =>
    exact external_resumeLockingConvert _ _ _ _ _ _ s

/-- No call of any run ended in one of the four unwraps. -/
theorem external_of_reachable {cycles : ℕ} {c : Configuration} (h : (system cycles).Reachable c) :
    ∀ operation reason, (operation, .error reason) ∈ c.trace → External reason := by
  refine System.ReachableWithin.induct (J := fun c ↦ ∀ operation reason,
    (operation, .error reason) ∈ c.trace → External reason) ?_ ?_ h
  · rintro start ⟨-, -, -, htrace⟩ operation reason hmem
    simp [htrace] at hmem
  · intro c c' a hc ih _ hnext operation reason hmem
    have hsound := sound_of_reachable hc
    obtain hold | hending := (Service.step_of_next hnext).mem_trace hmem
    · exact ih operation reason hold
    · cases hending with
      | startTrap operation reason h =>
        have hstart := Outcome.mapState_eq_trap h
        have hexternal := start_external operation c.state.canister
        rwa [hstart] at hexternal
      | resumeTrap id operation frame answer reason hcall h =>
        have hresume := Outcome.mapState_eq_trap h
        have hexternal := resume_external answer (hsound.assert id _ hcall).knows
        rwa [hresume] at hexternal

end SubnetRental.Lifecycle
