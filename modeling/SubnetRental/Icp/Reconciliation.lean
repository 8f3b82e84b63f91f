import SubnetRental.Icp.Books

/-!
# ICP paid and ICP taken

An agreement records in `total_icp_paid` what its user paid: the cost at the creation, and at every
top-up the balance it read. A tenth, a remainder or a cost that covers a fee is what its conversion
takes. A top-up passes on all of the balance but a fee, and the conversion takes just that, so that
it records a fee more than it takes (`surplus`). With this surplus the books stay balanced over
every segment (`balanced_resume`) and every step (`Books.step`) of a run in which operations run one
after another and no total overflows. `icp_paid_of_run` says what that means for `total_icp_paid`:
it is what was taken in every run in which no top-up finds two fees (`Untopped`), and in the others
when no top-up of the agreement has succeeded. `icp_paid_too_much` is an ordinary top-up.
-/

set_option autoImplicit false
set_option relaxedAutoImplicit false

namespace SubnetRental.Icp

open Canister Cycles Lifecycle Locking Foundation.GuardedCalls Foundation.MachineInteger
open Foundation.TreeMapTotals Foundation.TransitionSystem Std

variable {s s' : State} {sums fees pending : Principal → ℕ}

/-! ### Segments -/

/-- A frame at which nothing is taken yet. -/
def Untaken (frame : Frame) : Prop := unrecorded frame none = 0

theorem untaken_rentalRequestAfterRate (payload : SubnetRentalProposalPayload)
    (conditions : RentalConditions) (rate : ℕ × ℕ) (s : State) :
    (rentalRequestAfterRate payload conditions rate s).Suspending fun _ frame ↦ Untaken frame := by
  unfold rentalRequestAfterRate
  split
  · trivial
  · exact rfl

theorem untaken_executeRentalRequestProposal (caller : Principal)
    (payload : SubnetRentalProposalPayload) (s : State) :
    (executeRentalRequestProposal caller payload s).Suspending fun _ frame ↦ Untaken frame := by
  unfold executeRentalRequestProposal
  split
  · trivial
  split
  · trivial
  split
  · trivial
  split
  · trivial
  split
  · trivial
  split
  · trivial
  split
  · trivial
  dsimp only
  split
  · exact untaken_rentalRequestAfterRate payload _ _ _
  · exact rfl
  · trivial

theorem untaken_lockingLoop (nowNanos : ℕ) (requests : List RentalRequest) (s : State) :
    (lockingLoop nowNanos requests s).Suspending fun _ frame ↦ Untaken frame := by
  cases hloop : lockingLoop nowNanos requests s with
  | trap | reply => trivial
  | suspend s' frame =>
    obtain ⟨r, rest, rfl, -⟩ := lockingLoop_eq_suspend hloop
    exact rfl

/-- No first segment has taken anything. -/
theorem untaken_start (hs : Consistent s) (operation : Operation) :
    (start operation s).Suspending fun _ frame ↦ Untaken frame := by
  have hinformed := start_informed operation hs
  have hother (hawaits : ∀ frame, Awaits operation frame → Untaken frame) :
      (start operation s).Suspending fun _ frame ↦ Untaken frame :=
    Outcome.Suspending.mono hinformed fun _ frame h ↦ hawaits frame h.1
  cases operation with
  | executeRentalRequestProposal caller payload =>
    exact untaken_executeRentalRequestProposal caller payload s
  | executeCreateRentalAgreement caller payload =>
    refine (executeCreateRentalAgreement_suspending caller payload s).mono ?_
    rintro s' frame ⟨-, r, period, -, rfl⟩
    exact rfl
  | topUpSubnet subnetId =>
    change (topUpSubnet subnetId s).Suspending _
    unfold topUpSubnet
    split
    · trivial
    · split
      · trivial
      · exact rfl
  | locking => exact untaken_lockingLoop _ _ s
  | getTodaysPrice | refund | subnetTopUpEstimate | updateSubnetAdmins | burnCycles =>
    refine hother fun frame h ↦ ?_
    cases frame <;> first | exact rfl | exact h.elim

/-- The books after a segment of an operation: what a suspended position has taken is not recorded
yet, and at the end of a call everything is, with a fee more when it is a successful top-up. -/
def Balanced (operation : Operation) (s : State) (sums fees : Principal → ℕ) : Segment → Prop
  | .trap _ => Reconciled s sums fees 0
  | .suspend s' frame => Reconciled s' sums fees (unrecorded frame none)
  | .reply s' response => Reconciled s' sums (fees + surplus [(operation, .ok response)]) 0

/-- Only a top-up has a surplus. -/
theorem surplus_of_ne {operation : Operation} (h : ∀ i, operation ≠ .topUpSubnet i)
    (response : Response) : surplus [(operation, .ok response)] = 0 :=
  surplus_of_empty fun subnetId ↦ topUps_of_ne h subnetId response

section Balanced

variable {operation : Operation} {frame : Frame} {answer : Answer}

/-- A segment that takes nothing, leaves balanced books and does not end a successful top-up. -/
theorem Reconciled.balanced (h : Reconciled s sums fees 0) {outcome : Segment}
    (hleaving : outcome.Leaving fun s' ↦ Reconciled s' sums fees 0)
    (huntaken : outcome.Suspending fun _ frame ↦ Untaken frame)
    (hsurplus : ∀ s' response, outcome = .reply s' response →
      surplus [(operation, .ok response)] = 0) : Balanced operation s sums fees outcome := by
  cases outcome with
  | trap reason => exact h
  | suspend s' frame =>
    change Reconciled s' sums fees (unrecorded frame none)
    rw [show unrecorded frame none = 0 from huntaken]
    exact hleaving
  | reply s' response =>
    change Reconciled s' sums (fees + surplus [(operation, .ok response)]) 0
    rw [hsurplus s' response rfl, add_zero]
    exact hleaving

theorem Reconciled.balanced_of_quiet (h : Reconciled s sums fees 0) {outcome : Segment}
    (hquiet : outcome.Leaving (Quiet s))
    (huntaken : outcome.Suspending fun _ frame ↦ Untaken frame)
    (hsurplus : ∀ s' response, outcome = .reply s' response →
      surplus [(operation, .ok response)] = 0) : Balanced operation s sums fees outcome :=
  h.balanced (hquiet.mono fun _ ↦ h.of_quiet) huntaken hsurplus

/-- A segment of an operation that never converts. -/
theorem balanced_of_undebited (hawaits : Awaits operation frame) (hknows : Knows frame s)
    (hall : ∀ frame', Awaits operation frame' → Untaken frame')
    (hother : ∀ i, operation ≠ .topUpSubnet i) (h : Reconciled s sums fees 0)
    (hleaving : (resume frame answer s).Leaving fun s' ↦ Reconciled s' sums fees 0) :
    Balanced operation s sums fees (resume frame answer s) := by
  have hinformed := resume_informed answer hawaits hknows
  have huntaken : (resume frame answer s).Suspending fun _ frame' ↦ Untaken frame' :=
    Outcome.Suspending.mono hinformed fun _ frame' h ↦ hall frame' h.1
  exact h.balanced hleaving huntaken fun _ _ _ ↦ surplus_of_ne hother _

theorem balanced_getTodaysPrice {id : RentalConditionId}
    (hawaits : Awaits (.getTodaysPrice id) frame) (hknows : Knows frame s)
    (h : Reconciled s sums fees (unrecorded frame (some answer))) :
    Balanced (.getTodaysPrice id) s sums fees (resume frame answer s) := by
  cases frame <;> try exact hawaits.elim
  case todaysPrice conditions prevMidnight =>
    refine balanced_of_undebited hawaits hknows (fun frame' hframe' ↦ ?_) nofun h
      ((framed_resumeTodaysPrice framing_quiet Quiet.cacheRate conditions prevMidnight answer
        s).mono fun _ ↦ h.of_quiet)
    cases frame' <;> first | exact rfl | exact hframe'.elim

theorem balanced_subnetTopUpEstimate {subnetId : Principal} {icp : Tokens}
    (hawaits : Awaits (.subnetTopUpEstimate subnetId icp) frame) (hknows : Knows frame s)
    (h : Reconciled s sums fees (unrecorded frame (some answer))) :
    Balanced (.subnetTopUpEstimate subnetId icp) s sums fees (resume frame answer s) := by
  cases frame <;> try exact hawaits.elim
  case estimateRate a icp' prevMidnight =>
    refine balanced_of_undebited hawaits hknows (fun frame' hframe' ↦ ?_) nofun h
      ((framed_resumeEstimate framing_quiet Quiet.cacheRate a icp' prevMidnight answer s).mono
        fun _ ↦ h.of_quiet)
    cases frame' <;> first | exact rfl | exact hframe'.elim

theorem balanced_updateSubnetAdmins {caller : Principal} {payload : UpdateSubnetAdminsPayload}
    (hawaits : Awaits (.updateSubnetAdmins caller payload) frame) (hknows : Knows frame s)
    (h : Reconciled s sums fees (unrecorded frame (some answer))) :
    Balanced (.updateSubnetAdmins caller payload) s sums fees (resume frame answer s) := by
  cases frame <;> try exact hawaits.elim
  case subnetAdmins payload' =>
    refine balanced_of_undebited hawaits hknows (fun frame' hframe' ↦ ?_) nofun h
      ((framed_resumeSubnetAdmins framing_quiet payload' answer s).mono fun _ ↦ h.of_quiet)
    cases frame' <;> first | exact rfl | exact hframe'.elim

/-- A refund takes nothing for a rental, and it may end one. -/
theorem balanced_refund {caller : Principal} (hawaits : Awaits (.refund caller) frame)
    (hknows : Knows frame s) (h : Reconciled s sums fees (unrecorded frame (some answer))) :
    Balanced (.refund caller) s sums fees (resume frame answer s) := by
  have hall (frame' : Frame) (hframe' : Awaits (.refund caller) frame') : Untaken frame' := by
    cases frame' <;> first | exact rfl | exact hframe'.elim
  cases frame <;> try exact hawaits.elim
  case refundBalance caller' =>
    exact balanced_of_undebited hawaits hknows hall nofun h
      ((framed_resumeRefundBalance framing_quiet caller' answer s).mono fun _ ↦ h.of_quiet)
  case refundTransfer caller' toBeRefunded =>
    refine balanced_of_undebited hawaits hknows hall nofun h ?_
    refine (effect_resumeRefundTransfer caller' toBeRefunded answer s).mono fun s' heffect ↦ ?_
    cases heffect with
    | quiet _ _ hquiet => exact h.of_quiet hquiet
    | cancelled _ _ _ _ _ hwrites =>
      exact Reconciled.cancelled h hwrites.rentalRequests hwrites.rentalAgreements

/-- The books after the rest of a pass of `locking`. -/
theorem Reconciled.balanced_lockingLoop {t : State} (h : Reconciled t sums fees 0) {nowNanos : ℕ}
    {requests : List RentalRequest} (hwell : ∀ r ∈ requests, WellFormedRequest nowNanos r) :
    Balanced .locking s sums fees (lockingLoop nowNanos requests t) := by
  have hbalanced : Balanced .locking t sums fees (lockingLoop nowNanos requests t) :=
    h.balanced_of_quiet (framed_lockingLoop framing_quiet nowNanos requests t)
      (untaken_lockingLoop nowNanos requests t) fun _ _ _ ↦ surplus_of_ne (by simp) _
  have htrap := lockingLoop_trapping hwell t
  cases hloop : lockingLoop nowNanos requests t with
  | trap reason =>
    rw [hloop] at htrap
    exact htrap.elim
  | suspend t' frame => rwa [hloop] at hbalanced
  | reply t' response => rwa [hloop] at hbalanced

/-- A proposal records the tenth that it converted. -/
theorem balanced_rentalRequestConvert {caller : Principal} {payload : SubnetRentalProposalPayload}
    {neededIcp lockAmountIcp : Tokens} {stage : ConvertStage}
    (hknows : Knows (.rentalRequestConvert payload neededIcp lockAmountIcp stage) s)
    (haccepted : successful (stage.outgoing lockAmountIcp payload.user) answer)
    (h : Reconciled s sums fees (takenAt lockAmountIcp payload.user stage (some answer))) :
    Balanced (.executeRentalRequestProposal caller payload) s sums fees
      (resumeRentalRequestConvert payload neededIcp lockAmountIcp stage answer s) := by
  have hquiet (e : ExecuteProposalError) := framed_rentalRequestFailed framing_quiet payload e s
  have hsurplus (response : Response) :
      surplus [(.executeRentalRequestProposal caller payload, .ok response)] = 0 :=
    surplus_of_ne (fun i hi ↦ by cases hi) response
  unfold resumeRentalRequestConvert
  cases stage with
  | transfer =>
    cases answer with
    | transfer result =>
      cases result with
      | ok blockIndex => exact h
      | error e => exact h.balanced_of_quiet (hquiet _) trivial fun _ _ _ ↦ hsurplus _
    | _ => exact h
  | notify blockIndex =>
    cases answer with
    | notifyTopUp result =>
      cases result with
      | error e => cases haccepted
      | ok lockedCycles =>
        obtain ⟨hnone, -, -, hcovers⟩ := hknows
        have hfee : taken lockAmountIcp = lockAmountIcp.e8s :=
          (taken_eq_iff lockAmountIcp).mpr hcovers
        have hpos : lockAmountIcp.e8s ≠ 0 := hfee ▸ (taken_pos lockAmountIcp).ne'
        change Reconciled s sums fees (Pi.single payload.user (taken lockAmountIcp)) at h
        rw [hfee] at h
        dsimp only [convertIcpToCycles, rentalRequestAfterConvert]
        unfold State.persistRentalRequest
        rw [State.persistEvent_rentalRequests, hnone.1]
        change Reconciled _ sums (fees + surplus _) 0
        rw [hsurplus, add_zero]
        exact h.opened hpos hnone rfl rfl rfl
    | _ => cases haccepted

theorem balanced_executeRentalRequestProposal {caller : Principal}
    {payload : SubnetRentalProposalPayload}
    (hawaits : Awaits (.executeRentalRequestProposal caller payload) frame)
    (hknows : Knows frame s) (haccepted : successful frame.outgoing answer)
    (h : Reconciled s sums fees (unrecorded frame (some answer))) :
    Balanced (.executeRentalRequestProposal caller payload) s sums fees
      (resume frame answer s) := by
  cases frame <;> try exact hawaits.elim
  case rentalRequestRate payload' conditions time =>
    refine Reconciled.balanced_of_quiet h (framed_resumeRentalRequestRate framing_quiet
      Quiet.cacheRate payload' conditions time answer s) ?_ fun _ _ _ ↦ surplus_of_ne (by simp) _
    change (resumeRentalRequestRate payload' conditions time answer s).Suspending _
    unfold resumeRentalRequestRate
    split
    · trivial
    · trivial
    · exact untaken_rentalRequestAfterRate payload' conditions _ _
  case rentalRequestBalance payload' neededIcp =>
    refine Reconciled.balanced_of_quiet h
      (framed_resumeRentalRequestBalance framing_quiet payload' neededIcp answer s) ?_
      fun _ _ _ ↦ surplus_of_ne (by simp) _
    change (resumeRentalRequestBalance payload' neededIcp answer s).Suspending _
    unfold resumeRentalRequestBalance
    split
    · split
      · trivial
      · exact beginConvert_elim trivial fun _ ↦ rfl
    · trivial
    · trivial
  case rentalRequestConvert payload' neededIcp lockAmountIcp stage =>
    obtain ⟨rfl, rfl⟩ := hawaits
    exact balanced_rentalRequestConvert hknows haccepted h

/-- A creation has taken the rest when the CMC has created the cycles. -/
theorem balanced_createConvert {caller : Principal} {payload : CreateRentalAgreementPayload}
    {r : RentalRequest} {period : ℕ} {icp : Tokens} {stage : ConvertStage}
    (hknows : Knows (.createConvert payload r period icp stage) s)
    (haccepted : successful (stage.outgoing icp payload.user) answer)
    (h : Reconciled s sums fees (takenAt icp payload.user stage (some answer))) :
    Balanced (.executeCreateRentalAgreement caller payload) s sums fees
      (resumeCreateConvert payload r period icp stage answer s) := by
  unfold resumeCreateConvert
  cases stage with
  | transfer =>
    cases answer with
    | transfer result =>
      cases result with
      | ok blockIndex => exact h
      | error e =>
        change Reconciled _ sums (fees + surplus _) 0
        rw [surplus_of_ne (by simp), add_zero]
        exact h.of_quiet (Quiet.dropGuards s _)
    | _ => exact h
  | notify blockIndex =>
    cases answer with
    | notifyTopUp result =>
      cases result with
      | error e => cases haccepted
      | ok convertedCycles =>
        obtain ⟨-, -, -, hremaining, hcovers⟩ := hknows
        change Reconciled s sums fees (Pi.single payload.user (taken icp)) at h
        rw [(taken_eq_iff icp).mpr hcovers, hremaining] at h
        exact h.of_quiet (Quiet.persistEvent s _ _)
    | _ => cases haccepted

/-- A creation records the cost when the CMC was told about the subnet. -/
theorem balanced_createAuthorize (hs : Consistent s) {caller : Principal}
    {payload : CreateRentalAgreementPayload} {r : RentalRequest} {a : RentalAgreement}
    (hknows : Knows (.createAuthorize payload r a) s)
    (haccepted : successful (.setAuthorizedSubnetworkList payload.user [payload.subnetId]) answer)
    (h : Reconciled s sums fees (Pi.single payload.user (remainingIcp r).e8s)) :
    Balanced (.executeCreateRentalAgreement caller payload) s sums fees
      (resumeCreateAuthorize payload a answer s) := by
  obtain ⟨hstored, hfree, conditions, convertedCycles, nowNanos, -, -, rfl⟩ := hknows
  unfold resumeCreateAuthorize
  split
  · cases haccepted
  · unfold State.removeRentalRequest
    rw [hstored]
    dsimp only
    unfold State.persistRentalAgreement
    dsimp only [grantedAgreement]
    rw [hfree]
    change Reconciled _ sums (fees + surplus _) 0
    rw [surplus_of_ne (by simp), add_zero]
    exact h.granted hs hstored (a := grantedAgreement payload r
      (initialRentalPeriodNanos conditions) convertedCycles nowNanos) hfree rfl rfl rfl rfl

theorem balanced_executeCreateRentalAgreement (hs : Consistent s) {caller : Principal}
    {payload : CreateRentalAgreementPayload}
    (hawaits : Awaits (.executeCreateRentalAgreement caller payload) frame)
    (hknows : Knows frame s) (haccepted : successful frame.outgoing answer)
    (h : Reconciled s sums fees (unrecorded frame (some answer))) :
    Balanced (.executeCreateRentalAgreement caller payload) s sums fees
      (resume frame answer s) := by
  cases frame <;> try exact hawaits.elim
  case createConvert payload' r period icp stage =>
    obtain ⟨rfl, rfl⟩ := hawaits
    exact balanced_createConvert hknows haccepted h
  case createAuthorize payload' r a =>
    obtain ⟨rfl, rfl⟩ := hawaits
    exact balanced_createAuthorize hs hknows haccepted h

/-- A top-up records the balance, a fee more than it took. -/
theorem balanced_topUpConvert (hs : Consistent s) {subnetId : Principal} {a : RentalAgreement}
    {balance icp : Tokens} {stage : ConvertStage}
    (hknows : Knows (.topUpConvert subnetId a balance icp stage) s)
    (haccepted : successful (stage.outgoing icp a.user) answer)
    (hfits : recordFits (.topUpConvert subnetId a balance icp stage))
    (h : Reconciled s sums fees (takenAt icp a.user stage (some answer))) :
    Balanced (.topUpSubnet subnetId) s sums fees
      (resumeTopUpConvert subnetId a balance icp stage answer s) := by
  obtain ⟨hstored, hcovers, rfl, hfee⟩ := hknows
  unfold resumeTopUpConvert
  cases stage with
  | transfer =>
    cases answer with
    | transfer result =>
      cases result with
      | ok blockIndex => exact h
      | error e =>
        refine h.balanced_of_quiet (framed_topUpFailed framing_quiet subnetId a _ s) trivial ?_
        intro s' response hreply
        obtain ⟨-, rfl⟩ := Outcome.reply.inj hreply
        exact surplus_of_empty fun i ↦ topUps_of_error i subnetId _
    | _ => exact h
  | notify blockIndex =>
    cases answer with
    | notifyTopUp result =>
      cases result with
      | error e => cases haccepted
      | ok actualCycles =>
        change Reconciled s sums fees (Pi.single a.user (taken (balance - defaultFee))) at h
        have hcost :
            (standardConditions a.rentalConditionId).dailyCostCycles / secondsPerDay ≠ 0 := by
          cases a.rentalConditionId <;> decide
        obtain htraps | ⟨-, s', hreply, hrequests, hagreements, -⟩ :=
          topUpAfterConvert_of_stored balance (balance - defaultFee) blockIndex actualCycles
            (hs.conditions a.rentalConditionId) hcost hstored
        · exact absurd htraps.1 (Nat.not_le_of_lt (of_decide_eq_true hfits))
        · dsimp only [convertIcpToCycles]
          rw [hreply]
          change Reconciled s' sums (fees + surplus _) 0
          rw [surplus_topUp]
          refine h.toppedUp hs hstored (b := toppedUpAgreement a a
            (standardConditions a.rentalConditionId).dailyCostCycles actualCycles balance)
            rfl ?_ hrequests hagreements
          rw [taken_topUp_add hcovers hfee]
          rfl
    | _ => cases haccepted

theorem balanced_topUpSubnet (hs : Consistent s) {subnetId : Principal}
    (hawaits : Awaits (.topUpSubnet subnetId) frame) (hknows : Knows frame s)
    (haccepted : successful frame.outgoing answer) (hfits : recordFits frame)
    (h : Reconciled s sums fees (unrecorded frame (some answer))) :
    Balanced (.topUpSubnet subnetId) s sums fees (resume frame answer s) := by
  cases frame <;> try exact hawaits.elim
  case topUpBalance subnetId' a =>
    refine Reconciled.balanced_of_quiet h
      (framed_resumeTopUpBalance framing_quiet subnetId' a answer s) ?_ ?_
    · change (resumeTopUpBalance subnetId' a answer s).Suspending _
      unfold resumeTopUpBalance
      split
      · split
        · trivial
        · exact beginConvert_elim trivial fun _ ↦ rfl
      · trivial
      · trivial
    · intro s' response hreply
      cases topUpEnd_of_reply hawaits hknows hreply with
      | failed _ _ e _ => exact surplus_of_empty fun i ↦ topUps_of_error i _ e
  case topUpConvert subnetId' a balance icp stage =>
    obtain rfl : subnetId' = subnetId := hawaits
    exact balanced_topUpConvert hs hknows haccepted hfits h

/-- A pass of `locking` records the tenth that it converted. -/
theorem balanced_lockingConvert (hs : Consistent s) {nowNanos : ℕ} {r : RentalRequest}
    {tenPercentIcp : Tokens} {rest : List RentalRequest} {stage : ConvertStage}
    (hknows : Knows (.lockingConvert nowNanos r tenPercentIcp rest stage) s)
    (hcurrent : s.rentalRequests[r.user]? = some r)
    (haccepted : successful (stage.outgoing tenPercentIcp r.user) answer)
    (h : Reconciled s sums fees (takenAt tenPercentIcp r.user stage (some answer))) :
    Balanced .locking s sums fees
      (resumeLockingConvert nowNanos r tenPercentIcp rest stage answer s) := by
  obtain ⟨-, hwell, hdue, rfl, hrest, -⟩ := hknows
  unfold resumeLockingConvert
  cases stage with
  | transfer =>
    cases answer with
    | transfer result =>
      cases result with
      | ok blockIndex => exact h
      | error e =>
        refine Reconciled.balanced_lockingLoop (h.of_maps ?_ ?_) hrest
        · rfl
        · rfl
    | _ => exact h
  | notify blockIndex =>
    cases answer with
    | notifyTopUp result =>
      cases result with
      | error e => cases haccepted
      | ok lockedCycles =>
        change Reconciled s sums fees (Pi.single r.user (taken r.tenPercentIcp)) at h
        rw [(taken_eq_iff r.tenPercentIcp).mpr hwell.fee_le] at h
        dsimp only [convertIcpToCycles, lockingAfterConvert]
        rw [if_neg (Bool.eq_false_iff.mp (not_lockedIcpOverflows hwell hdue.2))]
        unfold State.updateRentalRequest
        rw [State.persistEvent_rentalRequests, State.persistEvent_rentalRequests, hcurrent]
        have hlocked : (r.afterLocking nowNanos r.tenPercentIcp lockedCycles).lockedAmountIcp.e8s =
            r.lockedAmountIcp.e8s + r.tenPercentIcp.e8s := rfl
        refine Reconciled.balanced_lockingLoop (h.locked hs hcurrent hlocked ?_ ?_) hrest
        · rfl
        · rfl
    | _ => cases haccepted

/-- What a call has taken and not recorded stays so or is recorded when it goes on. -/
theorem balanced_resume (hs : Consistent s) (hawaits : Awaits operation frame)
    (hknows : Knows frame s)
    (hcurrent : ∀ nowNanos r tenPercentIcp rest stage,
      frame = .lockingConvert nowNanos r tenPercentIcp rest stage →
        s.rentalRequests[r.user]? = some r)
    (haccepted : successful frame.outgoing answer) (hfits : recordFits frame)
    (h : Reconciled s sums fees (unrecorded frame (some answer))) :
    Balanced operation s sums fees (resume frame answer s) := by
  cases operation with
  | getTodaysPrice id => exact balanced_getTodaysPrice hawaits hknows h
  | executeRentalRequestProposal caller payload =>
    exact balanced_executeRentalRequestProposal hawaits hknows haccepted h
  | executeCreateRentalAgreement caller payload =>
    exact balanced_executeCreateRentalAgreement hs hawaits hknows haccepted h
  | refund caller => exact balanced_refund hawaits hknows h
  | subnetTopUpEstimate subnetId icp => exact balanced_subnetTopUpEstimate hawaits hknows h
  | topUpSubnet subnetId => exact balanced_topUpSubnet hs hawaits hknows haccepted hfits h
  | updateSubnetAdmins caller payload => exact balanced_updateSubnetAdmins hawaits hknows h
  | locking =>
    cases frame <;> try exact hawaits.elim
    case lockingConvert nowNanos r tenPercentIcp rest stage =>
      exact balanced_lockingConvert hs hknows (hcurrent nowNanos r tenPercentIcp rest stage rfl)
        haccepted h
  | burnCycles => cases frame <;> exact hawaits.elim

end Balanced

/-! ### Runs -/

/-- The books are balanced, up to what the call in flight has taken. -/
structure Posted (c : Configuration) (sums : Principal → ℕ) : Prop where
  idle : c.calls = ∅ → Reconciled c.state.canister sums (surplus c.trace) 0
  busy : ∀ (id : ℕ) call, c.calls[id]? = some call →
    Reconciled c.state.canister sums (surplus c.trace) (unrecorded call.frame call.answer)

theorem posted_of_none {c : Configuration} (hnone : ∀ (id : ℕ) call, c.calls[id]? ≠ some call)
    (h : Reconciled c.state.canister sums (surplus c.trace) 0) : Posted c sums :=
  ⟨fun _ ↦ h, fun id call hcall ↦ absurd hcall (hnone id call)⟩

theorem posted_of_only {c : Configuration} {id : ℕ} {call : Call Operation Frame Answer}
    (hcall : c.calls[id]? = some call)
    (honly : ∀ (other : ℕ) found, c.calls[other]? = some found → found = call)
    (h : Reconciled c.state.canister sums (surplus c.trace) (unrecorded call.frame call.answer)) :
    Posted c sums := by
  refine ⟨fun hempty ↦ absurd hcall (not_called_of_idle hempty), fun other found hfound ↦ ?_⟩
  rw [honly other found hfound]
  exact h

/-- What holds along a run in which operations run one after another, the CMC accepts every call,
and no total overflows. -/
structure Books (c : Configuration) (sums : Principal → ℕ) : Prop
    extends SingleCall c, Posted c sums where
  accepted : ∀ (id : ℕ) call answer, c.calls[id]? = some call → call.answer = some answer →
    successful call.frame.outgoing answer

/-- First segments keep the books. -/
theorem Reconciled.start (h : Reconciled s sums fees 0) (operation : Operation) :
    (start operation s).Leaving fun s' ↦ Reconciled s' sums fees 0 := by
  refine start_leaving framing_quiet operation (fun _ ↦ h.of_quiet) fun burned s' hpass ↦ ?_
  have hburns := burnPass_burnsOnly hpass
  refine h.of_payments hburns.rentalRequests (fun i a ha ↦ ?_) fun i hi ↦ ?_
  · obtain ⟨old, hold, heq⟩ := hburns.agreement i a ha
    exact ⟨old, hold, by rw [heq], by rw [heq]⟩
  · exact hburns.unrented i hi

/-- What happens around the canister keeps the books. -/
theorem Reconciled.environment {w w' : World} {event : Environment} {idle : Bool}
    (h : Reconciled w.canister sums fees pending) (hidle : idle → pending = 0)
    (hevent : w.environment event idle = some w') : Reconciled w'.canister sums fees pending := by
  cases environmentStep_of_environment hevent with
  | paid => exact h
  | passed | received | reserved => exact h.of_maps rfl rfl
  | upgraded hupgrade =>
    obtain rfl := hidle hupgrade
    have hupgraded := upgraded_postUpgrade w.canister
    obtain hsame | ⟨old, hold, -, hmigrated⟩ := hupgraded.agreements
    · exact h.of_maps hupgraded.rentalRequests hsame
    · refine h.of_payments hupgraded.rentalRequests (fun i a ha ↦ ?_) fun i hi ↦ ?_
      · rw [hmigrated] at ha
        obtain ⟨rfl, rfl⟩ | ⟨-, ha⟩ := getElem?_insert_eq_some_iff.mp ha
        · exact ⟨old, hold, rfl, rfl⟩
        · exact ⟨a, ha, rfl, rfl⟩
      · rw [hmigrated] at hi
        exact (getElem?_insert_eq_none_iff.mp hi).2

/-- A suspended call that goes on, in books that hold. -/
theorem Books.balanced {cycles : ℕ} {c : Configuration} (hreach : (system cycles).Reachable c)
    (hc : Books c sums) {id : ℕ} {operation : Operation} {frame : Frame} {answer : Answer}
    (hcall : c.calls[id]? = some ⟨operation, frame, some answer⟩) (hfits : recordFits frame) :
    Balanced operation c.state.canister sums (surplus c.trace)
      (resume frame answer c.state.canister) := by
  have hsound := sound_of_reachable hreach
  have hknown := hsound.assert id _ hcall
  refine balanced_resume hsound.inv.consistent hknown.awaits hknown.knows ?_
    (hc.accepted id _ answer hcall rfl) hfits (hc.busy id _ hcall)
  intro nowNanos r tenPercentIcp rest stage hframe
  exact hc.current id _ nowNanos r tenPercentIcp rest stage hcall hframe r List.mem_cons_self

section Settled

variable {cycles : ℕ} {c : Configuration}

/-- A call that traps has no surplus. -/
theorem surplus_of_trap (c : Configuration) (operation : Operation) (reason : Trap) :
    surplus (c.trace ++ [(operation, .error reason)]) = surplus c.trace := by
  rw [surplus_append, surplus_of_empty fun i ↦ (ended_trap i operation reason).1, add_zero]

/-- The books after an answer. -/
theorem Books.served (hreach : (system cycles).Reachable c) (hc : Books c sums) {id : ℕ}
    {operation : Operation} {frame : Frame}
    (hserved : c.calls[id]? = some ⟨operation, frame, none⟩) (answer : Answer) :
    Posted { c with
      state := c.state.answer frame.outgoing answer
      calls := c.calls.insert id ⟨operation, frame, some answer⟩ }
      (enteredBy c sums (.serve id answer)) := by
  have hentered : enteredBy c sums (.serve id answer) = entered sums frame answer := by
    simp only [enteredBy, hserved]
  have hanswered := (hc.busy id _ hserved).answered
    ((sound_of_reachable hreach).assert id _ hserved).knows
    (fun nowNanos r tenPercentIcp rest stage hframe ↦ hc.current id _ nowNanos r tenPercentIcp
      rest stage hserved hframe r List.mem_cons_self) answer
  rw [hentered]
  refine posted_of_only ExtTreeMap.getElem?_insert_self
    (fun _ _ hfound ↦ hc.eq_of_insert hserved hfound) ?_
  dsimp only
  rw [world_answer_canister]
  exact hanswered.of_maps rfl rfl

/-- The books after a segment that starts an operation while no call is in flight. -/
theorem Books.started (hreach : (system cycles).Reachable c) (hc : Books c sums)
    {operation : Operation} (hone : oneAtATime c (.start operation)) {s' : State} {frame : Frame}
    (hsegment : start operation c.state.canister = .suspend s' frame) :
    Posted { c with
      state := { c.state with canister := s' }
      nextCall := c.nextCall + 1
      calls := c.calls.insert c.nextCall ⟨operation, frame, none⟩ } sums := by
  have hkept := (hc.idle (ExtTreeMap.isEmpty_iff.mp hone)).start operation
  have huntaken := untaken_start (sound_of_reachable hreach).inv.consistent operation
  rw [hsegment] at hkept huntaken
  refine posted_of_only ExtTreeMap.getElem?_insert_self (fun id found hfound ↦ ?_) ?_
  · obtain ⟨-, rfl⟩ | ⟨-, hfound⟩ := getElem?_insert_eq_some_iff.mp hfound
    · rfl
    · exact absurd ((calls_of_start hone id).symm.trans hfound) (by simp)
  · change Reconciled s' sums _ (unrecorded frame none)
    rw [show unrecorded frame none = 0 from huntaken]
    exact hkept

/-- The books of the calls after a step. -/
theorem Books.settled {c' : Configuration} {a : Label} (hreach : (system cycles).Reachable c)
    (hc : Books c sums) (hone : oneAtATime c a) (hfitting : fittingSteps c a)
    (hstep : service.Step c a c') : Posted c' (enteredBy c sums a) := by
  have hbalanced {id : ℕ} {operation : Operation} {frame : Frame} {answer : Answer}
      (hfitting : fittingSteps c (.resume id))
      (hresumed : c.calls[id]? = some ⟨operation, frame, some answer⟩) :
      Balanced operation c.state.canister sums (surplus c.trace)
        (resume frame answer c.state.canister) :=
    hc.balanced hreach hresumed (by simpa only [fittingSteps, hresumed] using hfitting)
  cases hstep with
  | startTrap operation reason =>
    constructor
    · dsimp only
      rw [surplus_of_trap]
      exact hc.idle
    · dsimp only
      rw [surplus_of_trap]
      exact hc.busy
  | startSuspend operation state frame h =>
    obtain ⟨s', hsegment, rfl⟩ := Outcome.mapState_eq_suspend h
    exact hc.started hreach hone hsegment
  | startReply operation state response h =>
    obtain ⟨s', hsegment, rfl⟩ := Outcome.mapState_eq_reply h
    have hkept := (hc.idle (ExtTreeMap.isEmpty_iff.mp hone)).start operation
    rw [hsegment] at hkept
    refine posted_of_none (fun id call hcall ↦ ?_) ?_
    · exact absurd ((calls_of_start hone id).symm.trans hcall) (by simp)
    · dsimp only
      rw [surplus_append, surplus_of_empty (topUps_of_startReply hsegment), add_zero]
      exact hkept
  | serve id operation frame answer hserved => exact hc.served hreach hserved answer
  | resumeTrap id operation frame answer reason hresumed h =>
    have hbalanced := hbalanced hfitting hresumed
    rw [Outcome.mapState_eq_trap h] at hbalanced
    refine posted_of_none (fun _ _ ↦ hc.not_called_of_erase hresumed) ?_
    dsimp only
    rw [surplus_of_trap]
    exact Reconciled.of_maps hbalanced rfl rfl
  | resumeSuspend id operation frame answer state frame' hresumed h =>
    obtain ⟨s', hsegment, rfl⟩ := Outcome.mapState_eq_suspend h
    have hbalanced := hbalanced hfitting hresumed
    rw [hsegment] at hbalanced
    exact posted_of_only ExtTreeMap.getElem?_insert_self
      (fun _ _ hfound ↦ hc.eq_of_insert hresumed hfound) hbalanced
  | resumeReply id operation frame answer state response hresumed h =>
    obtain ⟨s', hsegment, rfl⟩ := Outcome.mapState_eq_reply h
    have hbalanced := hbalanced hfitting hresumed
    rw [hsegment] at hbalanced
    refine posted_of_none (fun _ _ ↦ hc.not_called_of_erase hresumed) ?_
    dsimp only
    rw [surplus_append]
    exact hbalanced
  | environment event state h =>
    refine ⟨fun hempty ↦ (hc.idle hempty).environment (fun _ ↦ rfl) h, fun id call hcall ↦ ?_⟩
    refine (hc.busy id call hcall).environment (fun hempty ↦ ?_) h
    exact absurd hcall (not_called_of_idle (ExtTreeMap.isEmpty_iff.mp hempty))

end Settled

/-- Every step keeps the books. -/
theorem Books.step {cycles : ℕ} {c c' : Configuration} {a : Label}
    (hreach : (system cycles).Reachable c) (hc : Books c sums) (ha : reconciledSteps c a)
    (hnext : (system cycles).next c a = some c') : Books c' (enteredBy c sums a) := by
  unfold reconciledSteps at ha
  rw [Bool.and_eq_true, Bool.and_eq_true] at ha
  obtain ⟨⟨hone, haccepted⟩, hfitting⟩ := ha
  have hstep := Service.step_of_next hnext
  refine ⟨hc.toSingleCall.step hreach hone hnext, hc.settled hreach hone hfitting hstep, ?_⟩
  intro id call answer hcall hanswer
  cases hstep.origin hcall with
  | untouched call htarget hold => exact hc.accepted id call answer hold hanswer
  | started operation frame ha => cases hanswer
  | served operation frame answer' ha hold =>
    subst ha
    obtain rfl : answer' = answer := Option.some.inj hanswer
    simpa only [acceptedSteps, hold] using haccepted
  | resumed operation frame answer' frame' ha hold => cases hanswer

/-- A call that works on another rental has taken nothing from a user. -/
theorem unrecorded_of_other {frame : Frame} {user : Principal} (h : rentalOf frame ≠ some user)
    (answer : Option Answer) : unrecorded frame answer user = 0 := by
  have hother {source : Principal} (hne : some source ≠ some user) (amount : Tokens)
      (stage : ConvertStage) : takenAt amount source stage answer user = 0 := by
    have hsingle : (Pi.single source (taken amount) : Principal → ℕ) user = 0 :=
      Pi.single_eq_of_ne (fun heq ↦ hne (congrArg some heq.symm)) _
    unfold takenAt
    split
    · exact hsingle
    · exact hsingle
    · rfl
  cases frame with
  | rentalRequestConvert payload needed icp stage => exact hother h icp stage
  | createConvert payload r period icp stage => exact hother h icp stage
  | topUpConvert subnetId a balance icp stage => exact hother h icp stage
  | lockingConvert nowNanos r icp rest stage => exact hother h icp stage
  | createAuthorize payload r a =>
    exact Pi.single_eq_of_ne (fun heq ↦ h (congrArg some heq.symm)) _
  | _ => rfl

theorem next_of_reconciling {cycles : ℕ} {s s' : Configuration × (Principal → ℕ)} {a : Label}
    (h : (reconciling cycles).next s a = some s') :
    (system cycles).next s.1 a = some s'.1 ∧ s'.2 = enteredBy s.1 s.2 a := by
  obtain ⟨c, hnext, rfl⟩ := Option.map_eq_some_iff.mp h
  exact ⟨hnext, rfl⟩

theorem reachable_of_reconciling {cycles : ℕ} {s : Configuration × (Principal → ℕ)}
    {allowed : Configuration × (Principal → ℕ) → Label → Prop}
    (h : (reconciling cycles).ReachableWithin allowed s) : (system cycles).Reachable s.1 := by
  refine System.reachable_of_refines Prod.fst ?_ ?_ h
  · intro _ hinit
    exact hinit.1
  · intro _ _ _ _ hnext
    exact System.Run.tail (System.RunWithin.refl _) (next_of_reconciling hnext).1

/-- The books hold in every state of such a run. -/
theorem books_of_run {cycles : ℕ} {s : Configuration × (Principal → ℕ)}
    (h : (reconciling cycles).ReachableWithin (fun s a ↦ reconciledSteps s.1 a) s) :
    Books s.1 s.2 := by
  refine System.ReachableWithin.induct (J := fun s ↦ Books s.1 s.2) ?_ ?_ h
  · rintro ⟨c, sums⟩ ⟨⟨⟨now, reserve, -, hinstall⟩, hidle, -, htrace⟩, rfl⟩
    refine ⟨singleCall_of_idle hidle, posted_of_none (fun _ _ ↦ not_called_of_idle hidle) ?_, ?_⟩
    · rw [htrace]
      refine ⟨fun u r hr ↦ ?_, fun i a ha ↦ ?_, fun _ _ hpending ↦ absurd rfl hpending,
        fun _ _ ↦ rfl⟩
      · have hnone : c.state.canister.rentalRequests[u]? = none := by
          rw [hinstall]
          exact ExtTreeMap.getElem?_empty
        exact absurd (hnone.symm.trans hr) (by simp)
      · have hnone : c.state.canister.rentalAgreements[i]? = none := by
          rw [hinstall]
          exact ExtTreeMap.getElem?_empty
        exact absurd (hnone.symm.trans ha) (by simp)
    · intro id call answer hcall
      exact absurd hcall (not_called_of_idle hidle)
  · rintro ⟨u, sums⟩ ⟨v, sums'⟩ a hu hbooks ha hnext
    obtain ⟨hnext, rfl⟩ := next_of_reconciling hnext
    exact hbooks.step (reachable_of_reconciling hu) ha hnext

/-! ### Runs without a successful top-up -/

/-- A position at which no top-up has found two fees. -/
def Meager : Frame → Option Answer → Prop
  | .topUpConvert _ _ _ _ _, _ => False
  | .topUpBalance _ _, some (.accountBalance balance) => balance.e8s < 2 * defaultFee.e8s
  | _, _ => True

/-- What holds along a run in which no top-up finds two fees. -/
structure Untopped (c : Configuration) : Prop where
  calls : ∀ (id : ℕ) call, c.calls[id]? = some call → Meager call.frame call.answer
  trace : ∀ i, topUps i c.trace = []

/-- A top-up that finds less than two fees does not come to a conversion. -/
theorem resumeTopUpBalance_ne_suspend {subnetId : Principal} {a : RentalAgreement}
    {answer : Answer} (hmeager : Meager (.topUpBalance subnetId a) (some answer)) (frame : Frame) :
    resumeTopUpBalance subnetId a answer s ≠ .suspend s' frame := by
  intro h
  unfold resumeTopUpBalance at h
  split at h
  · split at h
    · cases h
    · rename_i balance _
      obtain ⟨hfee, -, -⟩ := beginConvert_eq_suspend h
      have hless : balance.e8s < 2 * defaultFee.e8s := hmeager
      rw [Tokens.le_iff, Tokens.sub_e8s] at hfee
      omega
  · cases h
  · cases h

/-- A call that starts or goes on does not come to the conversion of a top-up. -/
theorem meager_of_awaits {operation : Operation} {frame : Frame}
    (hawaits : Awaits operation frame)
    (htopUp : ∀ i, operation = .topUpSubnet i → ∃ a, frame = .topUpBalance i a) :
    Meager frame none := by
  cases frame <;> try trivial
  case topUpConvert subnetId a balance icp stage =>
    cases operation <;> try exact hawaits.elim
    case topUpSubnet i =>
      obtain ⟨_, hframe⟩ := htopUp i rfl
      cases hframe

/-- A call that ends where no top-up has found two fees is no successful top-up. -/
theorem topUps_of_meager {operation : Operation} {frame : Frame} {answer : Answer}
    {response : Response} (hawaits : Awaits operation frame) (hknows : Knows frame s)
    (hmeager : Meager frame (some answer)) (h : resume frame answer s = .reply s' response)
    (i : Principal) : topUps i [(operation, .ok response)] = [] := by
  by_cases htopUp : ∃ j, operation = .topUpSubnet j
  · obtain ⟨j, rfl⟩ := htopUp
    cases topUpEnd_of_reply hawaits hknows h with
    | failed _ _ e _ => exact topUps_of_error i j e
    | added => exact hmeager.elim
  · exact topUps_of_ne (fun j hj ↦ htopUp ⟨j, hj⟩) i response

/-- A step leaves every suspended call with less than two fees to convert. -/
theorem Untopped.calls_of_next {cycles : ℕ} {c c' : Configuration} {a : Label}
    (hreach : (system cycles).Reachable c) (hc : Untopped c) (ha : meagerSteps c a)
    (hnext : (system cycles).next c a = some c') {id : ℕ} {call : Call Operation Frame Answer}
    (hcall : c'.calls[id]? = some call) : Meager call.frame call.answer := by
  have hsound := sound_of_reachable hreach
  have hawaits := ((sound_of_reachable (hreach.tail hnext)).assert id call hcall).awaits
  cases (Service.step_of_next hnext).origin hcall with
  | untouched _ _ hold => exact hc.calls id call hold
  | started operation frame _ h =>
    obtain ⟨_, hsegment, -⟩ := Outcome.mapState_eq_suspend h
    refine meager_of_awaits hawaits ?_
    rintro i rfl
    exact topUpSubnet_eq_suspend hsegment
  | served operation frame answer ha' hold =>
    subst ha'
    have hmeager := hc.calls id _ hold
    cases frame <;> try exact hmeager
    case topUpBalance subnetId a =>
      cases answer <;> try trivial
      case accountBalance balance =>
        have hless : balance.e8s < 2 * defaultFee.e8s := by
          simpa only [meagerSteps, hold, decide_eq_true_eq] using ha
        exact hless
  | resumed operation frame answer frame' _ hold h =>
    obtain ⟨_, hsegment, -⟩ := Outcome.mapState_eq_suspend h
    have hmeager := hc.calls id _ hold
    refine meager_of_awaits hawaits ?_
    rintro i rfl
    have hold' := (hsound.assert id _ hold).awaits
    cases frame <;> try exact hold'.elim
    case topUpBalance subnetId a =>
      exact absurd hsegment (resumeTopUpBalance_ne_suspend hmeager frame')
    case topUpConvert => exact hmeager.elim

/-- A step ends no top-up with a summary. -/
theorem Untopped.trace_of_next {cycles : ℕ} {c c' : Configuration} {a : Label}
    (hreach : (system cycles).Reachable c) (hc : Untopped c)
    (hnext : (system cycles).next c a = some c') (i : Principal) : topUps i c'.trace = [] := by
  have htrace {ended : Ended} (h : ∀ i, topUps i [ended] = []) :
      topUps i (c.trace ++ [ended]) = [] := by
    rw [topUps_append, hc.trace, h]
    rfl
  cases Service.step_of_next hnext with
  | startSuspend | serve | resumeSuspend | environment => exact hc.trace i
  | startTrap operation reason => exact htrace fun i ↦ (ended_trap i operation reason).1
  | resumeTrap id operation frame answer reason =>
    exact htrace fun i ↦ (ended_trap i operation reason).1
  | startReply operation state response h =>
    obtain ⟨_, hsegment, -⟩ := Outcome.mapState_eq_reply h
    exact htrace (topUps_of_startReply hsegment)
  | resumeReply id operation frame answer state response hresumed h =>
    obtain ⟨_, hsegment, -⟩ := Outcome.mapState_eq_reply h
    have hknown := (sound_of_reachable hreach).assert id _ hresumed
    exact htrace (topUps_of_meager hknown.awaits hknown.knows (hc.calls id _ hresumed) hsegment)

/-- While no top-up finds two fees, none comes to a conversion. -/
theorem Untopped.step {cycles : ℕ} {c c' : Configuration} {a : Label}
    (hreach : (system cycles).Reachable c) (hc : Untopped c) (ha : meagerSteps c a)
    (hnext : (system cycles).next c a = some c') : Untopped c' :=
  ⟨fun _ _ hcall ↦ hc.calls_of_next hreach ha hnext hcall, hc.trace_of_next hreach hnext⟩

/-- While none does, nothing overflows. -/
theorem Untopped.fitting {c : Configuration} (hc : Untopped c) (a : Label) : fittingSteps c a := by
  cases a with
  | resume id =>
    cases hcall : c.calls[id]? with
    | none => simp only [fittingSteps, hcall]
    | some call =>
      obtain ⟨operation, frame, answer⟩ := call
      have hmeager := hc.calls id _ hcall
      simp only [fittingSteps, hcall]
      cases frame <;> try rfl
      case topUpConvert => exact hmeager.elim
  | _ => rfl

theorem untopped_of_run {cycles : ℕ} {s : Configuration × (Principal → ℕ)}
    (h : (reconciling cycles).ReachableWithin (fun s a ↦ frugalSteps s.1 a) s) :
    (reconciling cycles).ReachableWithin (fun s a ↦ reconciledSteps s.1 a) s ∧ Untopped s.1 := by
  refine System.ReachableWithin.induct (J := fun s ↦
    (reconciling cycles).ReachableWithin (fun s a ↦ reconciledSteps s.1 a) s ∧ Untopped s.1)
    ?_ ?_ h
  · rintro s hinit
    obtain ⟨⟨-, hidle, -, htrace⟩, -⟩ := id hinit
    refine ⟨System.ReachableWithin.init hinit, ?_, fun i ↦ by rw [htrace]; rfl⟩
    intro id call hcall
    exact absurd hcall (not_called_of_idle hidle)
  · rintro u v a - ⟨hu, hc⟩ ha hnext
    unfold frugalSteps at ha
    rw [Bool.and_eq_true, Bool.and_eq_true] at ha
    obtain ⟨⟨hone, haccepted⟩, hmeager⟩ := ha
    refine ⟨hu.tail ?_ hnext, hc.step (reachable_of_reconciling hu) hmeager
      (next_of_reconciling hnext).1⟩
    unfold reconciledSteps
    rw [hone, haccepted, hc.fitting a]
    rfl

/-! ### What is recorded as paid -/

/-- An agreement whose user has no call in flight records what the conversions took, and its
surplus. -/
theorem Books.paid {c : Configuration} (hbooks : Books c sums) {i : Principal} {a : RentalAgreement}
    (ha : c.state.canister.rentalAgreements[i]? = some a)
    (hquiet : ∀ (id : ℕ) call, c.calls[id]? = some call → rentalOf call.frame ≠ some a.user) :
    a.totalIcpPaid.e8s = sums a.user + surplus c.trace i := by
  by_cases hidle : c.calls = ∅
  · have hsum := (hbooks.idle hidle).agreement i a ha
    rw [hsum, Pi.zero_apply, Nat.add_zero]
  · obtain ⟨id, call, hcall⟩ : ∃ (id : ℕ) (call : _), c.calls[id]? = some call := by
      by_contra hnone
      push Not at hnone
      refine hidle (ExtTreeMap.ext_getElem? fun id ↦ ?_)
      rw [Option.eq_none_iff_forall_ne_some.mpr (hnone id), ExtTreeMap.getElem?_empty]
    have hsum := (hbooks.busy id call hcall).agreement i a ha
    rw [hsum, unrecorded_of_other (hquiet id call hcall), Nat.add_zero]

/-- In every run in which operations run one after another and the CMC accepts every call, an
agreement whose user has no call in flight records as paid what the conversions of the rental took,
if no top-up finds two fees. If top-ups do and no total overflows, it records a fee more for every
successful top-up of the subnet, so that the two agree only when there was none. -/
theorem icp_paid_of_run {cycles : ℕ} {c : Configuration} {sums : Principal → ℕ} {i : Principal}
    {a : RentalAgreement} (ha : c.state.canister.rentalAgreements[i]? = some a)
    (hquiet : ∀ (id : ℕ) call, c.calls[id]? = some call → rentalOf call.frame ≠ some a.user) :
    ((reconciling cycles).ReachableWithin (fun s a ↦ frugalSteps s.1 a) (c, sums) →
      a.totalIcpPaid.e8s = sums a.user) ∧
    ((reconciling cycles).ReachableWithin (fun s a ↦ reconciledSteps s.1 a) (c, sums) →
      a.totalIcpPaid.e8s = sums a.user + defaultFee.e8s * (topUps i c.trace).length ∧
      (a.totalIcpPaid.e8s = sums a.user ↔ topUps i c.trace = [])) := by
  refine ⟨fun h ↦ ?_, fun h ↦ ?_⟩
  · obtain ⟨hrun, huntopped⟩ := untopped_of_run h
    have hpaid := (books_of_run hrun).paid ha hquiet
    rwa [surplus_of_empty huntopped.trace] at hpaid
  · have hpaid : a.totalIcpPaid.e8s = sums a.user + defaultFee.e8s * (topUps i c.trace).length :=
      (books_of_run h).paid ha hquiet
    refine ⟨hpaid, ?_⟩
    rw [hpaid, Nat.add_eq_left, Nat.mul_eq_zero, List.length_eq_zero_iff]
    exact or_iff_right (by decide)

theorem reconciling_init_idle (cycles : ℕ) (balance : Principal → ℕ) :
    (reconciling cycles).init (idle (installedWorld cycles balance), fun _ ↦ 0) :=
  ⟨init_idle cycles balance, rfl⟩

/-- A rental whose user has paid the cost and one fee: a proposal, a pass of `locking` after 30
days, the creation, and a top-up that finds one fee only. -/
def exactRental : List Label :=
  undisturbed (.executeRentalRequestProposal governanceCanisterId aliceProposal) 0
      [.exchangeRate (.ok (3_500_000_000, 9)), .accountBalance ⟨4_217_142_867_142⟩,
        .transfer (.ok 1), .notifyTopUp (.ok (10 ^ 16))] ++
    [.environment (.pass (30 * secondsPerDay * billion))] ++
    undisturbed .locking 1 [.transfer (.ok 2), .notifyTopUp (.ok (10 ^ 16))] ++
    undisturbed (.executeCreateRentalAgreement governanceCanisterId aliceCreation) 2
      [.transfer (.ok 3), .notifyTopUp (.ok (8 * 10 ^ 16)), .authorized] ++
    undisturbed (.topUpSubnet aliceCreation.subnetId) 3
      [.accountBalance ⟨10_000⟩]

/-- The configuration after it, with what the conversions took. -/
def exactRentalConfiguration : Configuration × (Principal → ℕ) :=
  ((reconciling (10 ^ 12)).performWithin (fun s a ↦ frugalSteps s.1 a)
    (idle (installedWorld (10 ^ 12) fun _ ↦ 4_217_142_867_142), fun _ ↦ 0)
    exactRental).get (by decide +kernel)

theorem reachable_exactRentalConfiguration :
    (reconciling (10 ^ 12)).ReachableWithin (fun s a ↦ frugalSteps s.1 a)
      exactRentalConfiguration :=
  System.reachableWithin_get_performWithin (reconciling_init_idle _ _) _

/-- A rental, and a top-up of all that is left on the subaccount. -/
def rentalWithTopUp : List Label :=
  rentalRun ++ undisturbed (.topUpSubnet aliceCreation.subnetId) 2
    [.accountBalance ⟨5_782_857_142_858⟩, .transfer (.ok 3), .notifyTopUp (.ok (10 ^ 17))]

/-- The configuration after it, with what the conversions took. -/
def toppedUpRental : Configuration × (Principal → ℕ) :=
  ((reconciling (10 ^ 12)).performWithin
    (fun s a ↦ (oneAtATime s.1 a ∧ cooperativeSteps s.1 a) ∧ reconciledSteps s.1 a)
    (idle (installedWorld (10 ^ 12) fun _ ↦ 10 ^ 13), fun _ ↦ 0) rentalWithTopUp).get
      (by decide +kernel)

theorem reachable_toppedUpRental :
    (reconciling (10 ^ 12)).ReachableWithin
      (fun s a ↦ (oneAtATime s.1 a ∧ cooperativeSteps s.1 a) ∧ reconciledSteps s.1 a)
      toppedUpRental :=
  System.reachableWithin_get_performWithin (reconciling_init_idle _ _) _

theorem cooperative_toppedUpRental :
    (reconciling (10 ^ 12)).ReachableWithin
      (fun s a ↦ oneAtATime s.1 a ∧ cooperativeSteps s.1 a)
      (toppedUpRental.1, toppedUpRental.2) := by
  rw [Prod.mk.eta]
  exact System.ReachableWithin.mono (fun _ _ h ↦ h.1) reachable_toppedUpRental

theorem reconciled_toppedUpRental :
    (reconciling (10 ^ 12)).ReachableWithin (fun s a ↦ reconciledSteps s.1 a)
      (toppedUpRental.1, toppedUpRental.2) := by
  rw [Prod.mk.eta]
  exact System.ReachableWithin.mono (fun _ _ h ↦ h.2) reachable_toppedUpRental

theorem icp_paid_of_exactRental :
    (∃ a, exactRentalConfiguration.1.state.canister.rentalAgreements[aliceCreation.subnetId]? =
        some a ∧ a.totalIcpPaid.e8s = exactRentalConfiguration.2 a.user) ∧
      ∃ a, toppedUpRental.1.state.canister.rentalAgreements[aliceCreation.subnetId]? = some a ∧
        a.totalIcpPaid.e8s = toppedUpRental.2 a.user + 10_000 := by
  have hrented : (exactRentalConfiguration.1.state.canister.rentalAgreements[
      aliceCreation.subnetId]?).isSome := by
    decide +kernel
  have hidle : exactRentalConfiguration.1.calls = ∅ :=
    ExtTreeMap.isEmpty_iff.mp (by decide +kernel)
  have hrented' :
      (toppedUpRental.1.state.canister.rentalAgreements[aliceCreation.subnetId]?).isSome := by
    decide +kernel
  have hidle' : toppedUpRental.1.calls = ∅ := ExtTreeMap.isEmpty_iff.mp (by decide +kernel)
  have hended : (topUps aliceCreation.subnetId toppedUpRental.1.trace).length = 1 := by
    decide +kernel
  obtain ⟨a, ha⟩ := Option.isSome_iff_exists.mp hrented
  obtain ⟨b, hb⟩ := Option.isSome_iff_exists.mp hrented'
  refine ⟨⟨a, ha, (icp_paid_of_run ha ?_).1 reachable_exactRentalConfiguration⟩, b, hb, ?_⟩
  · intro id _ hcall
    exact absurd hcall (not_called_of_idle hidle)
  · have hnone : ∀ (id : ℕ) call, toppedUpRental.1.calls[id]? = some call →
        rentalOf call.frame ≠ some b.user := by
      intro id _ hcall
      exact absurd hcall (not_called_of_idle hidle')
    obtain ⟨hpaid, -⟩ := (icp_paid_of_run hb hnone).2 reconciled_toppedUpRental
    rwa [hended] at hpaid

/-! ### A top-up -/

/-- After an ordinary top-up the agreement records a fee more than was taken. -/
theorem icp_paid_too_much :
    ∃ c sums a, (reconciling (10 ^ 12)).ReachableWithin
        (fun s a ↦ oneAtATime s.1 a ∧ cooperativeSteps s.1 a) (c, sums) ∧
      c.calls = ∅ ∧ c.state.canister.rentalAgreements[aliceCreation.subnetId]? = some a ∧
      a.totalIcpPaid.e8s ≠ sums a.user := by
  have hrented :
      (toppedUpRental.1.state.canister.rentalAgreements[aliceCreation.subnetId]?).isSome := by
    decide +kernel
  have hpaid : ∀ a ∈ toppedUpRental.1.state.canister.rentalAgreements[aliceCreation.subnetId]?,
      a.totalIcpPaid.e8s ≠ toppedUpRental.2 a.user := by
    decide +kernel
  have hidle : toppedUpRental.1.calls = ∅ := ExtTreeMap.isEmpty_iff.mp (by decide +kernel)
  obtain ⟨a, ha⟩ := Option.isSome_iff_exists.mp hrented
  exact ⟨toppedUpRental.1, toppedUpRental.2, a, cooperative_toppedUpRental, hidle, ha, hpaid a ha⟩

end SubnetRental.Icp
