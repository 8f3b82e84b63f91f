import SubnetRental.Lifecycle.Knowledge

/-!
# Replies and what was written

A call of governance changes the stored requests and agreements only in the segment that ends it
with a success, and such a segment always does: a proposal that replies `Ok` has stored its request,
a creation its agreement. A refund has cancelled a request only if it replies `Ok`. `Commit` lists
the ways in which a resumed segment can end, with what it writes, and `resume_commits` is the
inversion lemma. Only a pass of `locking` writes while it goes on.
-/

set_option autoImplicit false
set_option relaxedAutoImplicit false

namespace SubnetRental.Lifecycle

open Canister Foundation.GuardedCalls Foundation.MachineInteger Std

/-- The reply of a proposal that was executed. -/
abbrev executed : Response := .executed (.ok ())

/-- An ended call in which governance executed a proposal. -/
def succeeded : Operation × Except Trap Response → Bool
  | (.executeRentalRequestProposal _ _, .ok (.executed (.ok ()))) => true
  | (.executeCreateRentalAgreement _ _, .ok (.executed (.ok ()))) => true
  | _ => false

/-- The call goes on, or its reply is not that a proposal was executed. -/
def Declined (operation : Operation) (response : Option Response) : Prop :=
  ∀ reply ∈ response, succeeded (operation, .ok reply) = false

/-- What a resumed segment of an operation writes, and its reply if it ends the call. -/
inductive Commit (s s' : State) (operation : Operation) : Frame → Option Response → Prop
  | quiet (frame : Frame) (response : Option Response) (hdeclined : Declined operation response)
      (h : Quiet s s') : Commit s s' operation frame response
  | opened (payload : SubnetRentalProposalPayload) (neededIcp lockAmountIcp : Tokens)
      (blockIndex lockedCycles : ℕ)
      (h : Writes s s' (s.rentalRequests.insert payload.user
        (openedRequest payload neededIcp lockAmountIcp lockedCycles s.now)) s.rentalAgreements 0) :
      Commit s s' operation
        (.rentalRequestConvert payload neededIcp lockAmountIcp (.notify blockIndex)) (some executed)
  | locked (nowNanos : ℕ) (rentalRequest stored : RentalRequest) (tenPercentIcp : Tokens)
      (rest : List RentalRequest) (blockIndex lockedCycles : ℕ) (response : Option Response)
      (hdeclined : Declined operation response)
      (hstored : s.rentalRequests[rentalRequest.user]? = some stored)
      (h : Writes s s' (s.rentalRequests.insert rentalRequest.user
        (rentalRequest.afterLocking nowNanos tenPercentIcp lockedCycles)) s.rentalAgreements 0) :
      Commit s s' operation
        (.lockingConvert nowNanos rentalRequest tenPercentIcp rest (.notify blockIndex)) response
  | cancelled (caller : Principal) (toBeRefunded : Tokens) (blockId burned : ℕ)
      (rentalRequest : RentalRequest) (hstored : s.rentalRequests[caller]? = some rentalRequest)
      (h : Writes s s' (s.rentalRequests.erase caller) s.rentalAgreements burned) :
      Commit s s' operation (.refundTransfer caller toBeRefunded)
        (some (.refunded (.ok blockId)))
  | granted (payload : CreateRentalAgreementPayload) (rentalRequest : RentalRequest)
      (rentalAgreement : RentalAgreement)
      (h : Writes s s' (s.rentalRequests.erase payload.user)
        (s.rentalAgreements.insert rentalAgreement.subnetId rentalAgreement) 0) :
      Commit s s' operation (.createAuthorize payload rentalRequest rentalAgreement) (some executed)
  | toppedUp (subnetId : Principal) (rentalAgreement stored : RentalAgreement)
      (userIcpBalance icpAmountForCycles : Tokens) (blockIndex actualCycles dailyCostCycles : ℕ)
      (response : Option Response) (hdeclined : Declined operation response)
      (hstored : s.rentalAgreements[subnetId]? = some stored)
      (h : Writes s s' s.rentalRequests (s.rentalAgreements.insert subnetId
        (toppedUpAgreement rentalAgreement stored dailyCostCycles actualCycles userIcpBalance)) 0) :
      Commit s s' operation
        (.topUpConvert subnetId rentalAgreement userIcpBalance icpAmountForCycles
          (.notify blockIndex)) response

/-- The segment that resumes a frame commits to what it replies. -/
def Committing (s : State) (operation : Operation) (frame : Frame) : Segment → Prop
  | .trap _ => True
  | .suspend s' _ => Commit s s' operation frame none
  | .reply s' response => Commit s s' operation frame (some response)

/-- If the segment replies, the proposal was not executed. -/
def Declining : Segment → Prop
  | .trap _ => True
  | .suspend _ _ => True
  | .reply _ response => response ≠ executed

theorem declined_none (operation : Operation) : Declined operation none := by
  intro reply hreply
  cases hreply

/-- Whatever the other operations reply, no proposal was executed. -/
theorem declined_of_other {operation : Operation}
    (hproposal : ∀ caller payload, operation ≠ .executeRentalRequestProposal caller payload)
    (hcreation : ∀ caller payload, operation ≠ .executeCreateRentalAgreement caller payload)
    (response : Option Response) : Declined operation response := by
  intro reply _
  cases operation with
  | executeRentalRequestProposal caller payload => exact absurd rfl (hproposal caller payload)
  | executeCreateRentalAgreement caller payload => exact absurd rfl (hcreation caller payload)
  | _ => rfl

theorem succeeded_eq_false {operation : Operation} {response : Response}
    (h : response ≠ executed) : succeeded (operation, .ok response) = false := by
  cases operation with
  | executeRentalRequestProposal | executeCreateRentalAgreement =>
    cases response with
    | executed result =>
      cases result with
      | error e => rfl
      | ok done => exact absurd rfl h
    | _ => rfl
  | _ => rfl

theorem committing_of_quiet {s : State} (operation : Operation) (frame : Frame)
    {segment : Segment} (hquiet : segment.Leaving (Quiet s)) (hdeclining : Declining segment) :
    Committing s operation frame segment := by
  cases segment with
  | trap reason => trivial
  | suspend s' frame' => exact .quiet frame none (declined_none operation) hquiet
  | reply s' response =>
    refine .quiet frame (some response) (fun reply hreply ↦ ?_) hquiet
    obtain rfl := Option.some.inj hreply
    exact succeeded_eq_false hdeclining

theorem committing_of_other {s : State} {operation : Operation} (frame : Frame)
    (hother : ∀ response, Declined operation response) {segment : Segment}
    (hquiet : segment.Leaving (Quiet s)) : Committing s operation frame segment := by
  cases segment with
  | trap reason => trivial
  | suspend s' frame' => exact .quiet frame none (hother none) hquiet
  | reply s' response => exact .quiet frame (some response) (hother (some response)) hquiet

/-! ### Proposals that are declined -/

theorem declining_rentalRequestFailed (payload : SubnetRentalProposalPayload)
    (e : ExecuteProposalError) (s : State) : Declining (rentalRequestFailed payload e s) := by
  intro h
  cases h

theorem declining_rentalRequestAfterRate (payload : SubnetRentalProposalPayload)
    (conditions : RentalConditions) (rate : ℕ × ℕ) (s : State) :
    Declining (rentalRequestAfterRate payload conditions rate s) := by
  unfold rentalRequestAfterRate
  split
  · exact declining_rentalRequestFailed _ _ _
  · trivial

theorem declining_executeRentalRequestProposal (caller : Principal)
    (payload : SubnetRentalProposalPayload) (s : State) :
    Declining (executeRentalRequestProposal caller payload s) := by
  unfold executeRentalRequestProposal
  split_ifs
  · intro h
    cases h
  · split
    · trivial
    · split
      · exact declining_rentalRequestFailed _ _ _
      · split
        · exact declining_rentalRequestFailed _ _ _
        · split
          · trivial
          · split
            · exact declining_rentalRequestFailed _ _ _
            · split
              · exact declining_rentalRequestFailed _ _ _
              · dsimp only
                split
                · exact declining_rentalRequestAfterRate _ _ _ _
                · trivial
                · trivial

theorem declining_createReturns (payload : CreateRentalAgreementPayload)
    (e : ExecuteProposalError) (s : State) : Declining (createReturns payload (.error e) s) := by
  intro h
  cases h

theorem declining_executeCreateRentalAgreement (caller : Principal)
    (payload : CreateRentalAgreementPayload) (s : State) :
    Declining (executeCreateRentalAgreement caller payload s) := by
  unfold executeCreateRentalAgreement
  split_ifs
  · intro h
    cases h
  · split
    · trivial
    · split
      · trivial
      · split
        · exact declining_createReturns _ _ _
        · split_ifs
          · exact declining_createReturns _ _ _
          · split
            · trivial
            · exact beginCreateConvert_elim trivial fun _ _ ↦ trivial

/-- No call of governance succeeds before its first await. -/
theorem start_declines {operation : Operation} {s s' : State} {response : Response}
    (h : start operation s = .reply s' response) : succeeded (operation, .ok response) = false := by
  cases operation with
  | executeRentalRequestProposal caller payload =>
    have hdeclining := declining_executeRentalRequestProposal caller payload s
    change executeRentalRequestProposal caller payload s = _ at h
    rw [h] at hdeclining
    exact succeeded_eq_false hdeclining
  | executeCreateRentalAgreement caller payload =>
    have hdeclining := declining_executeCreateRentalAgreement caller payload s
    change executeCreateRentalAgreement caller payload s = _ at h
    rw [h] at hdeclining
    exact succeeded_eq_false hdeclining
  | _ => rfl

theorem declining_resumeRentalRequestRate (payload : SubnetRentalProposalPayload)
    (conditions : RentalConditions) (exchangeRateQueryTime : ℕ) (answer : Answer) (s : State) :
    Declining (resumeRentalRequestRate payload conditions exchangeRateQueryTime answer s) := by
  unfold resumeRentalRequestRate
  split
  · trivial
  · exact declining_rentalRequestFailed _ _ _
  · exact declining_rentalRequestAfterRate _ _ _ _

theorem declining_resumeRentalRequestBalance (payload : SubnetRentalProposalPayload)
    (neededIcp : Tokens) (answer : Answer) (s : State) :
    Declining (resumeRentalRequestBalance payload neededIcp answer s) := by
  unfold resumeRentalRequestBalance
  split
  · split
    · exact declining_rentalRequestFailed _ _ _
    · exact beginConvert_elim trivial fun _ ↦ trivial
  · trivial
  · trivial

theorem declining_resumeCreateConvert (payload : CreateRentalAgreementPayload)
    (rentalRequest : RentalRequest) (initialRentalPeriodNanos : ℕ) (remainingIcp : Tokens)
    (stage : ConvertStage) (answer : Answer) (s : State) :
    Declining (resumeCreateConvert payload rentalRequest initialRentalPeriodNanos remainingIcp stage
      answer s) := by
  unfold resumeCreateConvert
  split
  · trivial
  · trivial
  · rename_i result _
    cases result with
    | error e => exact declining_createReturns _ _ _
    | ok converted => trivial

/-! ### Segments that commit -/

theorem commits_resumeRentalRequestConvert (operation : Operation)
    (payload : SubnetRentalProposalPayload) (neededIcp lockAmountIcp : Tokens)
    (stage : ConvertStage) (answer : Answer) (s : State) :
    Committing s operation (.rentalRequestConvert payload neededIcp lockAmountIcp stage)
      (resumeRentalRequestConvert payload neededIcp lockAmountIcp stage answer s) := by
  unfold resumeRentalRequestConvert
  split
  · trivial
  · exact .quiet _ none (declined_none operation) (Quiet.refl s)
  · rename_i result hresult
    cases result with
    | error e =>
      exact committing_of_quiet operation _ (framed_rentalRequestFailed framing_quiet payload e s)
        (declining_rentalRequestFailed payload e s)
    | ok converted =>
      obtain ⟨blockIndex, lockedCycles⟩ := converted
      obtain ⟨rfl, rfl⟩ := convertIcpToCycles_eq_ok hresult
      unfold rentalRequestAfterConvert
      dsimp only
      split
      · trivial
      · rename_i s' hpersist
        obtain ⟨-, hwrites⟩ := persistRentalRequest_eq_some hpersist
        refine .opened payload neededIcp lockAmountIcp blockIndex lockedCycles ?_
        exact ((Quiet.persistEvent s _ _).trans_writes hwrites).trans_quiet (Quiet.dropGuards s' _)

theorem commits_resumeCreateAuthorize (operation : Operation)
    (payload : CreateRentalAgreementPayload) (rentalRequest : RentalRequest)
    (rentalAgreement : RentalAgreement) (answer : Answer) (s : State) :
    Committing s operation (.createAuthorize payload rentalRequest rentalAgreement)
      (resumeCreateAuthorize payload rentalAgreement answer s) := by
  unfold resumeCreateAuthorize
  split
  · trivial
  · split
    · trivial
    · rename_i s₁ hremove
      obtain ⟨stored, -, rfl⟩ := removeRentalRequest_eq_some hremove
      split
      · trivial
      · rename_i s₂ hpersist
        obtain ⟨-, hwrites⟩ := persistRentalAgreement_eq_some hpersist
        refine .granted payload rentalRequest rentalAgreement ?_
        have hboth : Writes s s₂ (s.rentalRequests.erase payload.user)
            (s.rentalAgreements.insert rentalAgreement.subnetId rentalAgreement) 0 :=
          ⟨⟨hwrites.rentalConditions, hwrites.now, hwrites.reserve⟩, hwrites.rentalRequests,
            hwrites.rentalAgreements, hwrites.cycles⟩
        exact hboth.trans_quiet (Quiet.dropGuards s₂ _)

theorem commits_resumeRefundTransfer {operation : Operation}
    (hother : ∀ response, Declined operation response) (caller : Principal)
    (toBeRefunded : Tokens) (answer : Answer) (s : State) :
    Committing s operation (.refundTransfer caller toBeRefunded)
      (resumeRefundTransfer caller toBeRefunded answer s) := by
  have heffect := effect_resumeRefundTransfer caller toBeRefunded answer s
  have hkept {segment : Segment} (h : segment.Leaving (Quiet s)) :=
    committing_of_other (.refundTransfer caller toBeRefunded) hother h
  unfold resumeRefundTransfer at heffect ⊢
  split
  · exact hkept (Quiet.dropGuards s _)
  · rename_i blockId
    dsimp only at heffect ⊢
    split
    · exact hkept ((Quiet.persistEvent s _ _).trans (Quiet.dropGuards _ _))
    · rename_i rentalRequest hstored
      rw [hstored] at heffect
      dsimp only at heffect
      split
      · trivial
      · rename_i s' hremove
        rw [hremove] at heffect
        cases heffect with
        | quiet _ _ hquiet => exact hkept hquiet
        | cancelled _ _ _ r hr hwrites =>
          exact .cancelled caller toBeRefunded blockId _ r hr hwrites
  · trivial
  · trivial

/-- What a segment has done is committed to by an operation that does not execute proposals. -/
theorem committing_of_leaving {s : State} {operation : Operation} {frame : Frame}
    (hother : ∀ response, Declined operation response) {segment : Segment}
    (h : segment.Leaving fun s' ↦
      ∀ response, Declined operation response → Commit s s' operation frame response) :
    Committing s operation frame segment := by
  cases segment with
  | trap reason => trivial
  | suspend s' frame' => exact h none (hother none)
  | reply s' response => exact h (some response) (hother (some response))

theorem commits_resumeTopUpConvert {operation : Operation}
    (hother : ∀ response, Declined operation response) (subnetId : Principal)
    (rentalAgreement : RentalAgreement) (userIcpBalance icpAmountForCycles : Tokens)
    (stage : ConvertStage) (answer : Answer) (s : State) :
    Committing s operation
      (.topUpConvert subnetId rentalAgreement userIcpBalance icpAmountForCycles stage)
      (resumeTopUpConvert subnetId rentalAgreement userIcpBalance icpAmountForCycles stage answer
        s) := by
  refine committing_of_leaving hother ?_
  refine (effect_resumeTopUpConvert subnetId rentalAgreement userIcpBalance icpAmountForCycles
    stage answer s).mono fun s' heffect response hdeclined ↦ ?_
  cases heffect with
  | quiet _ _ hquiet => exact .quiet _ response hdeclined hquiet
  | toppedUp _ _ stored _ _ blockIndex actualCycles conditions _ hstored hwrites =>
    exact .toppedUp subnetId rentalAgreement stored userIcpBalance icpAmountForCycles blockIndex
      actualCycles conditions.dailyCostCycles response hdeclined hstored hwrites

theorem commits_resumeLockingConvert {operation : Operation}
    (hother : ∀ response, Declined operation response) (nowNanos : ℕ)
    (rentalRequest : RentalRequest) (tenPercentIcp : Tokens) (rest : List RentalRequest)
    (stage : ConvertStage) (answer : Answer) (s : State) :
    Committing s operation (.lockingConvert nowNanos rentalRequest tenPercentIcp rest stage)
      (resumeLockingConvert nowNanos rentalRequest tenPercentIcp rest stage answer s) := by
  refine committing_of_leaving hother ?_
  refine (effect_resumeLockingConvert nowNanos rentalRequest tenPercentIcp rest stage answer
    s).mono fun s' heffect response hdeclined ↦ ?_
  cases heffect with
  | quiet _ _ hquiet => exact .quiet _ response hdeclined hquiet
  | locked _ _ stored _ _ blockIndex lockedCycles hstored hwrites =>
    exact .locked nowNanos rentalRequest stored tenPercentIcp rest blockIndex lockedCycles response
      hdeclined hstored hwrites

/-- Every segment that resumes a suspended call commits to what it replies. -/
theorem resume_commits {operation : Operation} {frame : Frame} (hawaits : Awaits operation frame)
    (answer : Answer) (s : State) : Committing s operation frame (resume frame answer s) := by
  cases operation with
  | executeRentalRequestProposal caller payload =>
    cases frame <;> try exact hawaits.elim
    case rentalRequestRate payload' conditions time =>
      exact committing_of_quiet _ _
        (framed_resumeRentalRequestRate framing_quiet Quiet.cacheRate _ _ _ _ s)
        (declining_resumeRentalRequestRate _ _ _ _ s)
    case rentalRequestBalance payload' neededIcp =>
      exact committing_of_quiet _ _ (framed_resumeRentalRequestBalance framing_quiet _ _ _ s)
        (declining_resumeRentalRequestBalance _ _ _ s)
    case rentalRequestConvert payload' neededIcp lockAmountIcp stage =>
      exact commits_resumeRentalRequestConvert _ _ _ _ stage answer s
  | executeCreateRentalAgreement caller payload =>
    cases frame <;> try exact hawaits.elim
    case createConvert payload' rentalRequest period remainingIcp stage =>
      exact committing_of_quiet _ _ (framed_resumeCreateConvert framing_quiet _ _ _ _ _ _ s)
        (declining_resumeCreateConvert _ _ _ _ _ _ s)
    case createAuthorize payload' rentalRequest rentalAgreement =>
      exact commits_resumeCreateAuthorize _ _ _ _ answer s
  | refund caller =>
    have hother : ∀ response, Declined (.refund caller) response :=
      declined_of_other (by simp) (by simp)
    cases frame <;> try exact hawaits.elim
    case refundBalance caller' =>
      exact committing_of_other _ hother (framed_resumeRefundBalance framing_quiet _ _ s)
    case refundTransfer caller' toBeRefunded =>
      exact commits_resumeRefundTransfer hother _ _ answer s
  | topUpSubnet subnetId =>
    have hother : ∀ response, Declined (.topUpSubnet subnetId) response :=
      declined_of_other (by simp) (by simp)
    cases frame <;> try exact hawaits.elim
    case topUpBalance subnetId' rentalAgreement =>
      exact committing_of_other _ hother (framed_resumeTopUpBalance framing_quiet _ _ _ s)
    case topUpConvert subnetId' rentalAgreement balance amount stage =>
      exact commits_resumeTopUpConvert hother _ _ _ _ stage answer s
  | locking =>
    have hother : ∀ response, Declined .locking response :=
      declined_of_other (by simp) (by simp)
    cases frame <;> try exact hawaits.elim
    case lockingConvert nowNanos rentalRequest tenPercentIcp rest stage =>
      exact commits_resumeLockingConvert hother _ _ _ rest stage answer s
  | getTodaysPrice id =>
    have hother : ∀ response, Declined (.getTodaysPrice id) response :=
      declined_of_other (by simp) (by simp)
    cases frame <;> try exact hawaits.elim
    case todaysPrice conditions prevMidnight =>
      exact committing_of_other _ hother
        (framed_resumeTodaysPrice framing_quiet Quiet.cacheRate _ _ _ s)
  | subnetTopUpEstimate subnetId icp =>
    have hother : ∀ response, Declined (.subnetTopUpEstimate subnetId icp) response :=
      declined_of_other (by simp) (by simp)
    cases frame <;> try exact hawaits.elim
    case estimateRate rentalAgreement icp' prevMidnight =>
      exact committing_of_other _ hother
        (framed_resumeEstimate framing_quiet Quiet.cacheRate _ _ _ _ s)
  | updateSubnetAdmins caller payload =>
    have hother : ∀ response, Declined (.updateSubnetAdmins caller payload) response :=
      declined_of_other (by simp) (by simp)
    cases frame <;> try exact hawaits.elim
    case subnetAdmins payload' =>
      exact committing_of_other _ hother (framed_resumeSubnetAdmins framing_quiet _ _ s)
  | burnCycles => cases frame <;> exact hawaits.elim

end SubnetRental.Lifecycle
