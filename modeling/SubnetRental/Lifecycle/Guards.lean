import SubnetRental.Lifecycle.Burning

/-!
# What a segment does to the locks

A segment that begins owning some guards ends in one of two ways, when it does not trap: it replies
with all of them released, or it is suspended owning the guards of its new frame, which nobody else
holds (`Owning`). Between the two `callerGuard` adds a guard to those owned
(`Owning.of_callerGuard`) and `dropGuards` releases them (`owning_dropGuards`,
`Owning.after_drop`). `start_owning` and `resume_owning` are the results for all segments.
-/

set_option autoImplicit false
set_option relaxedAutoImplicit false

namespace SubnetRental.Lifecycle

open Canister Foundation.GuardedCalls Foundation.MachineInteger Std

/-- How a segment that begins with the locks `held`, of which it owns `owned`, leaves the locks. -/
def Owning (owned held : Finset Lock) : Segment → Prop
  | .trap _ => True
  | .suspend s frame => s.locks = held \ owned ∪ frame.guards ∧
      Disjoint frame.guards (held \ owned)
  | .reply s _ => s.locks = held \ owned

/-- Replying with the owned guards dropped. -/
theorem owning_dropGuards (s : State) (owned : Finset Lock) (response : Response) :
    Owning owned s.locks (.reply (s.dropGuards owned) response) := rfl

/-- Staying suspended with the same guards. -/
theorem owning_suspend {s : State} {owned : Finset Lock} {frame : Frame} (hsub : owned ⊆ s.locks)
    (hguards : frame.guards = owned) : Owning owned s.locks (.suspend s frame) := by
  subst hguards
  exact ⟨(Finset.sdiff_union_of_subset hsub).symm, Finset.disjoint_sdiff⟩

/-- Owning a guard that was free before. -/
theorem Owning.of_callerGuard {s s' : State} {lock : Lock} {owned : Finset Lock}
    {outcome : Segment} (hguard : s.callerGuard lock = some s')
    (h : Owning (insert lock owned) s'.locks outcome) : Owning owned s.locks outcome := by
  obtain ⟨hfree, rfl⟩ := callerGuard_eq_some hguard
  have hrest : insert lock s.locks \ insert lock owned = s.locks \ owned := by
    rw [Finset.insert_sdiff_insert, Finset.sdiff_insert, Finset.erase_eq_of_notMem]
    exact fun hmem ↦ hfree (Finset.mem_sdiff.mp hmem).1
  cases outcome with
  | trap reason => trivial
  | suspend t frame =>
    obtain ⟨hlocks, hdisjoint⟩ := h
    exact ⟨hrest ▸ hlocks, hrest ▸ hdisjoint⟩
  | reply t response => exact h.trans hrest

/-- Going on without guards after the owned ones are dropped. -/
theorem Owning.after_drop {s : State} {owned : Finset Lock} {outcome : Segment}
    (h : Owning ∅ (s.dropGuards owned).locks outcome) : Owning owned s.locks outcome := by
  cases outcome with
  | trap reason => trivial
  | suspend t frame =>
    obtain ⟨hlocks, hdisjoint⟩ := h
    rw [Finset.sdiff_empty] at hlocks hdisjoint
    exact ⟨hlocks, hdisjoint⟩
  | reply t response => exact h.trans (Finset.sdiff_empty)

/-- A guard just acquired is held. -/
theorem subset_of_callerGuard {s s' : State} {lock : Lock} {owned : Finset Lock}
    (hguard : s.callerGuard lock = some s') (hsub : owned ⊆ s.locks) :
    insert lock owned ⊆ s'.locks := by
  obtain ⟨-, rfl⟩ := callerGuard_eq_some hguard
  exact Finset.insert_subset_insert lock hsub

theorem locks_getExchangeRate {s s' : State} {time : ℕ}
    (h : getExchangeRate s time = .calling s') : s'.locks = s.locks := by
  obtain ⟨-, rfl⟩ := getExchangeRate_eq_calling h
  rfl

theorem locks_receiveExchangeRate {s s' : State} {time : ℕ} {answer : Answer}
    {result : Except ExchangeRateError (ℕ × ℕ)}
    (h : receiveExchangeRate s time answer = .ok (s', result)) : s'.locks = s.locks := by
  unfold receiveExchangeRate at h
  split at h
  · obtain ⟨rfl, -⟩ := Prod.mk.inj (Except.ok.inj h)
    rfl
  · obtain ⟨rfl, -⟩ := Prod.mk.inj (Except.ok.inj h)
    rfl
  · cases h
  · cases h

/-! ### Segments with the guard of the exchange rate canister or none -/

theorem owning_todaysPriceAfterRate (conditions : RentalConditions) (guards : Finset Lock)
    (rate : ℕ × ℕ) (s : State) :
    Owning guards s.locks (todaysPriceAfterRate conditions guards rate s) := by
  unfold todaysPriceAfterRate
  dsimp only
  split <;> rfl

theorem owning_getTodaysPrice (id : RentalConditionId) (s : State) :
    Owning ∅ s.locks (getTodaysPrice id s) := by
  have hreply (response : Response) : Owning ∅ s.locks (.reply s response) :=
    (Finset.sdiff_empty).symm
  unfold getTodaysPrice
  split
  · exact hreply _
  · dsimp only
    split
    · exact owning_todaysPriceAfterRate _ _ _ s
    · split
      · exact hreply _
      · rename_i s' hguard
        have hsub := subset_of_callerGuard hguard (Finset.empty_subset _)
        refine Owning.of_callerGuard hguard ?_
        split
        · exact owning_todaysPriceAfterRate _ _ _ s'
        · rename_i s'' hrate
          rw [← locks_getExchangeRate hrate] at hsub ⊢
          exact owning_suspend hsub rfl
        · trivial

theorem owning_resumeTodaysPrice (conditions : RentalConditions) (prevMidnight : ℕ)
    (answer : Answer) (s : State) :
    Owning {exchangeRateLock} s.locks (resumeTodaysPrice conditions prevMidnight answer s) := by
  unfold resumeTodaysPrice
  split
  · trivial
  · rename_i s' e hrate
    rw [← locks_receiveExchangeRate hrate]
    exact owning_dropGuards s' _ _
  · rename_i s' rate hrate
    rw [← locks_receiveExchangeRate hrate]
    exact owning_todaysPriceAfterRate conditions _ rate s'

theorem owning_estimateAfterRate (rentalAgreement : RentalAgreement) (icp : Tokens) (rate : ℕ × ℕ)
    (s : State) : Owning ∅ s.locks (estimateAfterRate rentalAgreement icp rate s) :=
  estimateAfterRate_elim trivial trivial fun _ ↦ (Finset.sdiff_empty).symm

theorem owning_subnetTopUpEstimate (subnetId : Principal) (icp : Tokens) (s : State) :
    Owning ∅ s.locks (subnetTopUpEstimate subnetId icp s) := by
  unfold subnetTopUpEstimate
  split
  · exact (Finset.sdiff_empty).symm
  · dsimp only
    split
    · exact owning_estimateAfterRate _ _ _ s
    · rename_i s' hrate
      rw [← locks_getExchangeRate hrate]
      exact owning_suspend (Finset.empty_subset _) rfl
    · trivial

theorem owning_resumeEstimate (rentalAgreement : RentalAgreement) (icp : Tokens)
    (prevMidnight : ℕ) (answer : Answer) (s : State) :
    Owning ∅ s.locks (resumeEstimate rentalAgreement icp prevMidnight answer s) := by
  unfold resumeEstimate
  split
  · trivial
  · rename_i s' e hrate
    rw [← locks_receiveExchangeRate hrate]
    exact (Finset.sdiff_empty).symm
  · rename_i s' rate hrate
    rw [← locks_receiveExchangeRate hrate]
    exact owning_estimateAfterRate rentalAgreement icp rate s'

/-! ### Segments of requests -/

theorem owning_rentalRequestFailed (payload : SubnetRentalProposalPayload)
    (e : ExecuteProposalError) (s : State) :
    Owning {requestLock payload.user} s.locks (rentalRequestFailed payload e s) := rfl

theorem owning_rentalRequestAfterRate (payload : SubnetRentalProposalPayload)
    (conditions : RentalConditions) (rate : ℕ × ℕ) {s : State}
    (hsub : {requestLock payload.user} ⊆ s.locks) :
    Owning {requestLock payload.user} s.locks
      (rentalRequestAfterRate payload conditions rate s) := by
  unfold rentalRequestAfterRate
  split
  · exact owning_rentalRequestFailed payload _ s
  · exact owning_suspend hsub rfl

theorem owning_executeRentalRequestProposal (caller : Principal)
    (payload : SubnetRentalProposalPayload) (s : State) :
    Owning ∅ s.locks (executeRentalRequestProposal caller payload s) := by
  unfold executeRentalRequestProposal
  split_ifs with hcaller
  · exact (Finset.sdiff_empty).symm
  · split
    · trivial
    · rename_i s' hguard
      have hsub := subset_of_callerGuard hguard (Finset.empty_subset _)
      have hfailed (e : ExecuteProposalError) := owning_rentalRequestFailed payload e s'
      refine Owning.of_callerGuard hguard ?_
      split
      · exact hfailed _
      · split
        · exact hfailed _
        · split
          · trivial
          · split
            · exact hfailed _
            · split
              · exact hfailed _
              · dsimp only
                split
                · exact owning_rentalRequestAfterRate payload _ _ hsub
                · rename_i s'' hrate
                  rw [← locks_getExchangeRate hrate] at hsub ⊢
                  exact owning_suspend hsub rfl
                · trivial

theorem owning_resumeRentalRequestRate (payload : SubnetRentalProposalPayload)
    (conditions : RentalConditions) (exchangeRateQueryTime : ℕ) (answer : Answer) {s : State}
    (hsub : {requestLock payload.user} ⊆ s.locks) :
    Owning {requestLock payload.user} s.locks
      (resumeRentalRequestRate payload conditions exchangeRateQueryTime answer s) := by
  unfold resumeRentalRequestRate
  split
  · trivial
  · rename_i s' e hrate
    rw [← locks_receiveExchangeRate hrate]
    exact owning_rentalRequestFailed payload _ s'
  · rename_i s' rate hrate
    rw [← locks_receiveExchangeRate hrate] at hsub ⊢
    exact owning_rentalRequestAfterRate payload conditions rate hsub

theorem owning_resumeRentalRequestBalance (payload : SubnetRentalProposalPayload)
    (neededIcp : Tokens) (answer : Answer) {s : State}
    (hsub : {requestLock payload.user} ⊆ s.locks) :
    Owning {requestLock payload.user} s.locks
      (resumeRentalRequestBalance payload neededIcp answer s) := by
  unfold resumeRentalRequestBalance
  split
  · split
    · exact owning_rentalRequestFailed payload _ s
    · exact beginConvert_elim trivial fun _ ↦ owning_suspend hsub rfl
  · trivial
  · trivial

theorem locks_persistRentalRequest {s s' : State} {rentalRequest : RentalRequest}
    (h : s.persistRentalRequest rentalRequest = some s') : s'.locks = s.locks := by
  unfold State.persistRentalRequest at h
  split at h
  · cases h
  · obtain rfl := Option.some.inj h
    rfl

theorem owning_resumeRentalRequestConvert (payload : SubnetRentalProposalPayload)
    (neededIcp lockAmountIcp : Tokens) (stage : ConvertStage) (answer : Answer) {s : State}
    (hsub : {requestLock payload.user} ⊆ s.locks) :
    Owning {requestLock payload.user} s.locks
      (resumeRentalRequestConvert payload neededIcp lockAmountIcp stage answer s) := by
  unfold resumeRentalRequestConvert
  split
  · trivial
  · exact owning_suspend hsub rfl
  · rename_i result _
    cases result with
    | error e => exact owning_rentalRequestFailed payload e s
    | ok converted =>
      unfold rentalRequestAfterConvert
      dsimp only
      split
      · trivial
      · rename_i s' hpersist
        have hlocks : s'.locks = s.locks := (locks_persistRentalRequest hpersist).trans rfl
        rw [← hlocks]
        exact owning_dropGuards s' _ _

/-- The loop of `locking` begins without guards and may take one. -/
theorem owning_lockingLoop (nowNanos : ℕ) (requests : List RentalRequest) (s : State) :
    Owning ∅ s.locks (lockingLoop nowNanos requests s) := by
  induction requests with
  | nil => exact (Finset.sdiff_empty).symm
  | cons rentalRequest rest ih =>
    unfold lockingLoop
    split_ifs with hdue
    · split
      · exact ih
      · rename_i s' hguard
        refine Owning.of_callerGuard hguard ?_
        have hsub := subset_of_callerGuard hguard (Finset.empty_subset s.locks)
        exact beginConvert_elim trivial fun _ ↦ owning_suspend hsub rfl
    · exact ih

theorem locks_updateRentalRequest {s s' : State} {requester : Principal}
    {transform : RentalRequest → RentalRequest}
    (h : s.updateRentalRequest requester transform = some s') : s'.locks = s.locks := by
  unfold State.updateRentalRequest at h
  split at h
  · cases h
  · obtain rfl := Option.some.inj h
    rfl

theorem owning_resumeLockingConvert (nowNanos : ℕ) (rentalRequest : RentalRequest)
    (tenPercentIcp : Tokens) (rest : List RentalRequest) (stage : ConvertStage) (answer : Answer)
    {s : State} (hsub : {requestLock rentalRequest.user} ⊆ s.locks) :
    Owning {requestLock rentalRequest.user} s.locks
      (resumeLockingConvert nowNanos rentalRequest tenPercentIcp rest stage answer s) := by
  unfold resumeLockingConvert
  split
  · trivial
  · exact owning_suspend hsub rfl
  · rename_i result _
    cases result with
    | error e =>
      refine Owning.after_drop (s := s.persistEvent (.lockingFailure rentalRequest.user e)
        (some rentalRequest.user)) ?_
      exact owning_lockingLoop nowNanos rest _
    | ok converted =>
      unfold lockingAfterConvert
      dsimp only
      split
      · trivial
      · split
        · trivial
        · rename_i s' hupdate
          have hlocks : s'.locks = s.locks := (locks_updateRentalRequest hupdate).trans rfl
          rw [← hlocks]
          exact Owning.after_drop (owning_lockingLoop nowNanos rest _)

theorem owning_refund (caller : Principal) (s : State) :
    Owning ∅ s.locks (refund caller s) := by
  unfold refund
  split
  · exact (Finset.sdiff_empty).symm
  · rename_i s₁ hguard₁
    have hsub₁ := subset_of_callerGuard hguard₁ (Finset.empty_subset _)
    refine Owning.of_callerGuard hguard₁ ?_
    split
    · exact owning_dropGuards s₁ _ _
    · rename_i s₂ hguard₂
      refine Owning.of_callerGuard hguard₂ ?_
      exact owning_suspend (subset_of_callerGuard hguard₂ hsub₁) (Finset.pair_comm _ _)

theorem owning_resumeRefundBalance (caller : Principal) (answer : Answer) {s : State}
    (hsub : {refundLock, requestLock caller} ⊆ s.locks) :
    Owning {refundLock, requestLock caller} s.locks (resumeRefundBalance caller answer s) := by
  unfold resumeRefundBalance
  split
  · split
    · exact owning_dropGuards s _ _
    · exact owning_suspend hsub rfl
  · trivial
  · trivial

theorem owning_resumeRefundTransfer (caller : Principal) (toBeRefunded : Tokens) (answer : Answer)
    (s : State) :
    Owning {refundLock, requestLock caller} s.locks
      (resumeRefundTransfer caller toBeRefunded answer s) := by
  unfold resumeRefundTransfer
  split
  · exact owning_dropGuards s _ _
  · dsimp only
    split
    · rfl
    · split
      · trivial
      · rename_i s' hremove
        obtain ⟨_, _, rfl⟩ := removeRentalRequest_eq_some hremove
        rfl
  · trivial
  · trivial

/-! ### Segments of agreements -/

theorem owning_executeCreateRentalAgreement (caller : Principal)
    (payload : CreateRentalAgreementPayload) (s : State) :
    Owning ∅ s.locks (executeCreateRentalAgreement caller payload s) := by
  unfold executeCreateRentalAgreement
  split_ifs with hcaller
  · exact (Finset.sdiff_empty).symm
  · split
    · trivial
    · rename_i s₁ hguard₁
      have hsub₁ := subset_of_callerGuard hguard₁ (Finset.empty_subset _)
      refine Owning.of_callerGuard hguard₁ ?_
      split
      · trivial
      · rename_i s₂ hguard₂
        have hpair := Finset.pair_comm (requestLock payload.user) ⟨payload.subnetId, .nns⟩
        have hsub₂ : createGuards payload ⊆ s₂.locks := by
          rw [createGuards, hpair]
          exact subset_of_callerGuard hguard₂ hsub₁
        refine Owning.of_callerGuard hguard₂ ?_
        have howned : insert (⟨payload.subnetId, .nns⟩ : Lock)
            (insert (requestLock payload.user) ∅) = createGuards payload := hpair.symm
        rw [howned]
        split
        · rfl
        · split_ifs with hrented
          · rfl
          · split
            · trivial
            · exact beginCreateConvert_elim trivial fun _ _ ↦ owning_suspend hsub₂ rfl

theorem owning_resumeCreateConvert (payload : CreateRentalAgreementPayload)
    (rentalRequest : RentalRequest) (initialRentalPeriodNanos : ℕ) (remainingIcp : Tokens)
    (stage : ConvertStage) (answer : Answer) {s : State}
    (hsub : createGuards payload ⊆ s.locks) :
    Owning (createGuards payload) s.locks
      (resumeCreateConvert payload rentalRequest initialRentalPeriodNanos remainingIcp stage answer
        s) := by
  unfold resumeCreateConvert
  split
  · trivial
  · exact owning_suspend hsub rfl
  · rename_i result _
    cases result with
    | error e => rfl
    | ok converted => exact owning_suspend (s := s.persistEvent _ _) hsub rfl

theorem locks_persistRentalAgreement {s s' : State} {rentalAgreement : RentalAgreement}
    (h : s.persistRentalAgreement rentalAgreement = some s') : s'.locks = s.locks := by
  unfold State.persistRentalAgreement at h
  split at h
  · cases h
  · obtain rfl := Option.some.inj h
    rfl

theorem owning_resumeCreateAuthorize (payload : CreateRentalAgreementPayload)
    (rentalAgreement : RentalAgreement) (answer : Answer) (s : State) :
    Owning (createGuards payload) s.locks
      (resumeCreateAuthorize payload rentalAgreement answer s) := by
  unfold resumeCreateAuthorize
  split
  · trivial
  · split
    · trivial
    · rename_i s₁ hremove
      obtain ⟨_, _, rfl⟩ := removeRentalRequest_eq_some hremove
      split
      · trivial
      · rename_i s₂ hpersist
        have hlocks : s₂.locks = s.locks := (locks_persistRentalAgreement hpersist).trans rfl
        rw [← hlocks]
        exact owning_dropGuards s₂ _ _

theorem owning_topUpFailed (subnetId : Principal) (rentalAgreement : RentalAgreement)
    (e : TopUpError) (s : State) :
    Owning {agreementLock subnetId} s.locks (topUpFailed subnetId rentalAgreement e s) := rfl

theorem owning_topUpSubnet (subnetId : Principal) (s : State) :
    Owning ∅ s.locks (topUpSubnet subnetId s) := by
  unfold topUpSubnet
  split
  · exact (Finset.sdiff_empty).symm
  · rename_i s' hguard
    refine Owning.of_callerGuard hguard ?_
    split
    · exact owning_dropGuards s' _ _
    · exact owning_suspend (subset_of_callerGuard hguard (Finset.empty_subset _)) rfl

theorem owning_resumeTopUpBalance (subnetId : Principal) (rentalAgreement : RentalAgreement)
    (answer : Answer) {s : State} (hsub : {agreementLock subnetId} ⊆ s.locks) :
    Owning {agreementLock subnetId} s.locks
      (resumeTopUpBalance subnetId rentalAgreement answer s) := by
  unfold resumeTopUpBalance
  split
  · split
    · exact owning_topUpFailed subnetId rentalAgreement _ s
    · exact beginConvert_elim trivial fun _ ↦ owning_suspend hsub rfl
  · trivial
  · trivial

theorem owning_resumeTopUpConvert (subnetId : Principal) (rentalAgreement : RentalAgreement)
    (userIcpBalance icpAmountForCycles : Tokens) (stage : ConvertStage) (answer : Answer)
    {s : State} (hsub : {agreementLock subnetId} ⊆ s.locks) :
    Owning {agreementLock subnetId} s.locks
      (resumeTopUpConvert subnetId rentalAgreement userIcpBalance icpAmountForCycles stage answer
        s) := by
  unfold resumeTopUpConvert
  split
  · trivial
  · exact owning_suspend hsub rfl
  · rename_i result _
    cases result with
    | error e => exact owning_topUpFailed subnetId rentalAgreement _ s
    | ok converted =>
      unfold topUpAfterConvert
      dsimp only
      split
      · trivial
      · split
        · trivial
        · split
          · trivial
          · split
            · trivial
            · rename_i s' hupdate
              obtain ⟨_, _, rfl⟩ := updateRentalAgreement_eq_some hupdate
              rfl

theorem owning_updateSubnetAdmins (caller : Principal) (payload : UpdateSubnetAdminsPayload)
    (s : State) : Owning ∅ s.locks (updateSubnetAdmins caller payload s) := by
  unfold updateSubnetAdmins
  dsimp only
  split_ifs with hrenting
  · split
    · exact (Finset.sdiff_empty).symm
    · rename_i s' hguard
      have hsub := subset_of_callerGuard hguard (Finset.empty_subset _)
      have hsuspend : Owning {agreementLock payload.subnetId} s'.locks
          (.suspend s' (.subnetAdmins payload)) := owning_suspend hsub rfl
      refine Owning.of_callerGuard hguard ?_
      split
      · rfl
      · split_ifs
        · rfl
        · exact hsuspend
      · split_ifs
        · rfl
        · exact hsuspend
      · exact hsuspend
  · exact (Finset.sdiff_empty).symm

theorem owning_resumeSubnetAdmins (payload : UpdateSubnetAdminsPayload) (answer : Answer)
    (s : State) :
    Owning {agreementLock payload.subnetId} s.locks (resumeSubnetAdmins payload answer s) := by
  unfold resumeSubnetAdmins
  split <;> rfl

theorem owning_burnCycles (s : State) : Owning ∅ s.locks (burnCycles s) := by
  unfold burnCycles
  split
  · trivial
  · rename_i burned s' hpass
    exact (burnPass_burnsOnly hpass).locks.trans (Finset.sdiff_empty).symm

/-! ### All segments -/

/-- A first segment owns nothing when it begins. -/
theorem start_owning (operation : Operation) (s : State) :
    Owning ∅ s.locks (start operation s) := by
  cases operation with
  | getTodaysPrice id => exact owning_getTodaysPrice id s
  | executeRentalRequestProposal caller payload =>
    exact owning_executeRentalRequestProposal caller payload s
  | executeCreateRentalAgreement caller payload =>
    exact owning_executeCreateRentalAgreement caller payload s
  | refund caller => exact owning_refund caller s
  | subnetTopUpEstimate subnetId icp => exact owning_subnetTopUpEstimate subnetId icp s
  | topUpSubnet subnetId => exact owning_topUpSubnet subnetId s
  | updateSubnetAdmins caller payload => exact owning_updateSubnetAdmins caller payload s
  | locking => exact owning_lockingLoop _ _ s
  | burnCycles => exact owning_burnCycles s

/-- A resumed segment owns the guards of its frame. -/
theorem resume_owning (frame : Frame) (answer : Answer) {s : State}
    (hsub : frame.guards ⊆ s.locks) : Owning frame.guards s.locks (resume frame answer s) := by
  cases frame with
  | todaysPrice conditions prevMidnight => exact owning_resumeTodaysPrice _ _ _ s
  | rentalRequestRate payload conditions time =>
    exact owning_resumeRentalRequestRate payload conditions time answer hsub
  | rentalRequestBalance payload neededIcp =>
    exact owning_resumeRentalRequestBalance payload neededIcp answer hsub
  | rentalRequestConvert payload neededIcp lockAmountIcp stage =>
    exact owning_resumeRentalRequestConvert payload neededIcp lockAmountIcp stage answer hsub
  | createConvert payload rentalRequest period remainingIcp stage =>
    exact owning_resumeCreateConvert payload rentalRequest period remainingIcp stage answer hsub
  | createAuthorize payload rentalRequest rentalAgreement =>
    exact owning_resumeCreateAuthorize payload rentalAgreement answer s
  | refundBalance caller => exact owning_resumeRefundBalance caller answer hsub
  | refundTransfer caller toBeRefunded =>
    exact owning_resumeRefundTransfer caller toBeRefunded answer s
  | estimateRate rentalAgreement icp prevMidnight =>
    exact owning_resumeEstimate rentalAgreement icp prevMidnight answer s
  | topUpBalance subnetId rentalAgreement =>
    exact owning_resumeTopUpBalance subnetId rentalAgreement answer hsub
  | topUpConvert subnetId rentalAgreement userIcpBalance icpAmountForCycles stage =>
    exact owning_resumeTopUpConvert subnetId rentalAgreement userIcpBalance icpAmountForCycles
      stage answer hsub
  | subnetAdmins payload => exact owning_resumeSubnetAdmins payload answer s
  | lockingConvert nowNanos rentalRequest tenPercentIcp rest stage =>
    exact owning_resumeLockingConvert nowNanos rentalRequest tenPercentIcp rest stage answer hsub

end SubnetRental.Lifecycle
