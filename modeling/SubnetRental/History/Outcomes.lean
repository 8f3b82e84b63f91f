import SubnetRental.History.Determined
import SubnetRental.Lifecycle.Commits

/-!
# Replies and the history

How a proposal or a top-up ended is told twice: in the reply of the call, and in the history under
the user or the subnet. `Verdict` is what both say, `told` reads it off an ended call and
`verdictOf` off an event. `Recorded` is the growth of the history between two states, in the order
of time, with the verdicts told meanwhile; it holds over every step (`recorded_of_next`) and over
every run. `outcomes_recorded` compares the history of a key with the replies, `history_grows` says
what becomes of the history and of its pages in a run, and `endpoints_of_reachable` what the two
endpoints return.
-/

set_option autoImplicit false
set_option relaxedAutoImplicit false

namespace SubnetRental.History

open Canister Lifecycle Foundation.KeyedLogs Foundation.GuardedCalls Foundation.TransitionSystem Std

/-! ### Verdicts -/

/-- How a proposal or a top-up ended. -/
inductive Verdict
  | requested (proposalId : ℕ)
  | declined (proposalId : ℕ) (reason : ExecuteProposalError)
  | rented (user : Principal) (subnetCreationProposalId : Option ℕ)
  | toppedUp (cyclesAdded daysAdded : ℕ)
  | topUpFailed (reason : TopUpError)
  deriving DecidableEq

def Verdict.isSuccess : Verdict → Bool
  | .requested _ | .rented _ _ | .toppedUp _ _ => true
  | .declined _ _ | .topUpFailed _ => false

/-- The verdict that an event records. -/
def verdictOf : EventType → Option Verdict
  | .rentalRequestCreated rentalRequest => some (.requested rentalRequest.initialProposalId)
  | .rentalRequestFailed _ proposalId reason => some (.declined proposalId reason)
  | .rentalAgreementCreated user _ subnetCreationProposalId _ =>
    some (.rented user subnetCreationProposalId)
  | .subnetTopUp _ _ cyclesAdded daysAdded _ => some (.toppedUp cyclesAdded daysAdded)
  | .subnetTopUpFailed _ reason => some (.topUpFailed reason)
  | _ => none

/-- The verdict in the reply of an ended call, with the key it concerns. A proposal of another
caller than governance is refused, a failed creation is not recorded, and a top-up is not recorded
before the agreement is found. -/
def told : Operation × Except Trap Response → Option (Option Principal × Verdict)
  | (.executeRentalRequestProposal caller payload, .ok (.executed (.error e))) =>
    if caller = governanceCanisterId then
      some (some payload.user, .declined payload.proposalId e)
    else none
  | (.executeRentalRequestProposal _ payload, .ok (.executed (.ok ()))) =>
    some (some payload.user, .requested payload.proposalId)
  | (.executeCreateRentalAgreement _ payload, .ok (.executed (.ok ()))) =>
    some (some payload.subnetId, .rented payload.user (some payload.proposalId))
  | (.topUpSubnet subnetId, .ok (.topUp (.ok summary))) =>
    some (some subnetId, .toppedUp summary.cyclesAdded summary.daysAdded)
  | (.topUpSubnet subnetId, .ok (.topUp (.error (.insufficientFunds user balance)))) =>
    some (some subnetId, .topUpFailed (.insufficientFunds user balance))
  | (.topUpSubnet subnetId, .ok (.topUp (.error (.conversionFailed e)))) =>
    some (some subnetId, .topUpFailed (.conversionFailed e))
  | _ => none

/-- The verdicts among some entries of the history, in order. -/
def verdictsIn (entries : List (Option Principal × Event)) : List (Option Principal × Verdict) :=
  entries.filterMap fun entry ↦ (verdictOf entry.2.event).map fun verdict ↦ (entry.1, verdict)

theorem verdictsIn_append (first second : List (Option Principal × Event)) :
    verdictsIn (first ++ second) = verdictsIn first ++ verdictsIn second :=
  List.filterMap_append

/-- The successes among some verdicts. -/
def successes (verdicts : List (Option Principal × Verdict)) : List (Option Principal × Verdict) :=
  verdicts.filter fun verdict ↦ verdict.2.isSuccess

theorem successes_append (first second : List (Option Principal × Verdict)) :
    successes (first ++ second) = successes first ++ successes second :=
  List.filter_append _ _

/-- An event that is not booked records no success. -/
theorem successes_of_unbooked {event : EventType} (h : isBooked event = false)
    (key : Option Principal) (time : ℕ) : successes (verdictsIn [(key, ⟨time, event⟩)]) = [] := by
  cases event <;> first | rfl | cases h

/-! ### The growth of the history -/

/-- One entry is not later than another. -/
def Earlier (first second : Option Principal × Event) : Prop :=
  first.2.timeNanos ≤ second.2.timeNanos

/-- The history grows by entries in the order of time. They record the given verdicts, and no other
successes. -/
structure Recorded (s s' : State) (verdicts : List (Option Principal × Verdict)) : Prop where
  now : s.now ≤ s'.now
  logged : ∃ entries, log s' = (log s).appendAll 64 entries ∧
    (∀ entry ∈ entries, s.now ≤ entry.2.timeNanos ∧ entry.2.timeNanos ≤ s'.now) ∧
    entries.Pairwise Earlier ∧ verdicts.Sublist (verdictsIn entries) ∧
    successes (verdictsIn entries) = successes verdicts

namespace Recorded

theorem of_log {s s' : State} (hlog : log s' = log s) (hnow : s.now ≤ s'.now) :
    Recorded s s' [] :=
  ⟨hnow, [], hlog, List.forall_mem_nil _, .nil, .slnil, rfl⟩

theorem trans {s t u : State} {first second : List (Option Principal × Verdict)}
    (hst : Recorded s t first) (htu : Recorded t u second) : Recorded s u (first ++ second) := by
  obtain ⟨hnow, entries, ht, htimes, hsorted, htold, hsuccesses⟩ := hst
  obtain ⟨hnow', entries', hu, htimes', hsorted', htold', hsuccesses'⟩ := htu
  refine ⟨hnow.trans hnow', entries ++ entries', ?_, ?_, ?_, ?_, ?_⟩
  · rw [hu, ht, KeyedLog.appendAll_append]
  · intro entry hentry
    rcases List.mem_append.mp hentry with hfirst | hsecond
    · exact ⟨(htimes entry hfirst).1, (htimes entry hfirst).2.trans hnow'⟩
    · exact ⟨hnow.trans (htimes' entry hsecond).1, (htimes' entry hsecond).2⟩
  · refine List.pairwise_append.mpr ⟨hsorted, hsorted', fun entry hfirst entry' hsecond ↦ ?_⟩
    exact (htimes entry hfirst).2.trans (htimes' entry' hsecond).1
  · rw [verdictsIn_append]
    exact htold.append htold'
  · rw [verdictsIn_append, successes_append, successes_append, hsuccesses, hsuccesses']

theorem silent (s : State) (event : EventType) (key : Option Principal)
    (h : successes (verdictsIn [(key, ⟨s.now, event⟩)]) = []) :
    Recorded s (s.persistEvent event key) [] := by
  refine ⟨le_rfl, [(key, ⟨s.now, event⟩)], rfl, ?_, List.pairwise_singleton _ _, List.nil_sublist _,
    h⟩
  intro entry hentry
  obtain rfl := List.mem_singleton.mp hentry
  exact ⟨le_rfl, le_rfl⟩

theorem event (s : State) {event : EventType} {verdict : Verdict}
    (h : verdictOf event = some verdict)
    (key : Option Principal) : Recorded s (s.persistEvent event key) [(key, verdict)] := by
  have hverdicts : verdictsIn [(key, ⟨s.now, event⟩)] = [(key, verdict)] := by
    unfold verdictsIn
    rw [List.filterMap_cons_some (b := (key, verdict)) (by rw [h]; rfl), List.filterMap_nil]
  refine ⟨le_rfl, [(key, ⟨s.now, event⟩)], rfl, ?_, List.pairwise_singleton _ _, ?_, ?_⟩
  · intro entry hentry
    obtain rfl := List.mem_singleton.mp hentry
    exact ⟨le_rfl, le_rfl⟩
  · rw [hverdicts]
  · rw [hverdicts]

/-- Writing requests and agreements. -/
theorem maps (s : State) (rentalRequests : ExtTreeMap Principal RentalRequest)
    (rentalAgreements : ExtTreeMap Principal RentalAgreement) :
    Recorded s { s with rentalRequests, rentalAgreements } [] := .of_log rfl le_rfl

end Recorded

theorem framing_recorded : Framing fun s s' ↦ Recorded s s' [] where
  refl _ := .of_log rfl le_rfl
  trans hst htu := hst.trans htu
  dropGuards _ _ := .of_log rfl le_rfl
  insertLock _ _ := .of_log rfl le_rfl
  persistEvent s event key h := .silent s event key (successes_of_unbooked h key s.now)
  calling s _ := by
    have hlog (cycles calls : ℕ) :
        Recorded s { s with cycles, exchangeRateCalls := calls } [] := .of_log rfl le_rfl
    exact hlog _ _

theorem recorded_cacheRate (s : State) (time rate decimals : ℕ) :
    Recorded s (s.cacheRate time rate decimals) [] := .of_log rfl le_rfl

/-! ### Segments -/

/-- A segment records the verdict that it tells. -/
def Tells (operation : Operation) (s : State) : Segment → Prop :=
  Replying operation fun s' ended ↦ Recorded s s' (ended.filterMap told)

/-- A segment goes on after some that told nothing. -/
theorem Tells.after {operation : Operation} {s t : State} {segment : Segment}
    (h : Tells operation t segment) (hst : Recorded s t []) : Tells operation s segment := by
  cases segment with
  | trap reason => trivial
  | suspend s' frame => exact hst.trans h
  | reply s' response => exact hst.trans h

/-- The reply of a segment, if it replies, tells nothing. -/
def Silent (operation : Operation) : Segment → Prop
  | .reply _ response => told (operation, .ok response) = none
  | _ => True

theorem tells_of_silent {operation : Operation} {s : State} {segment : Segment}
    (hsilent : Silent operation segment) (h : segment.Leaving fun s' ↦ Recorded s s' []) :
    Tells operation s segment := by
  cases segment with
  | trap reason => trivial
  | suspend s' frame => exact h
  | reply s' response =>
    have hnone : [(operation, (.ok response : Except Trap Response))].filterMap told = [] :=
      List.filterMap_cons_none hsilent
    change Recorded s s' (List.filterMap told _)
    rw [hnone]
    exact h

/-- Whatever an operation replies, its reply tells nothing. -/
theorem silent_of_other {operation : Operation}
    (h : ∀ response, told (operation, .ok response) = none) (segment : Segment) :
    Silent operation segment := by
  cases segment with
  | trap | suspend => trivial
  | reply s' response => exact h response

theorem silent_of_declining {caller : Principal} {payload : CreateRentalAgreementPayload}
    {segment : Segment} (h : Declining segment) :
    Silent (.executeCreateRentalAgreement caller payload) segment := by
  cases segment with
  | trap | suspend => trivial
  | reply s' response =>
    cases response with
    | executed result =>
      cases result with
      | error e => rfl
      | ok done => exact absurd rfl h
    | _ => rfl

section Proposals

variable (payload : SubnetRentalProposalPayload) (s : State)

theorem tells_rentalRequestFailed (e : ExecuteProposalError) :
    Tells (.executeRentalRequestProposal governanceCanisterId payload) s
      (rentalRequestFailed payload e s) :=
  (Recorded.event s rfl _).trans (framing_recorded.dropGuards _ _)

theorem tells_rentalRequestAfterRate (conditions : RentalConditions) (rate : ℕ × ℕ) :
    Tells (.executeRentalRequestProposal governanceCanisterId payload) s
      (rentalRequestAfterRate payload conditions rate s) := by
  unfold rentalRequestAfterRate
  split
  · exact tells_rentalRequestFailed payload s _
  · exact framing_recorded.refl s

/-- A proposal of governance records why it is declined, one of another caller nothing. -/
theorem tells_executeRentalRequestProposal (caller : Principal) :
    Tells (.executeRentalRequestProposal caller payload) s
      (executeRentalRequestProposal caller payload s) := by
  unfold executeRentalRequestProposal
  split_ifs with hcaller
  · refine tells_of_silent (if_neg hcaller) ?_
    exact framing_recorded.refl s
  · obtain rfl := not_not.mp hcaller
    split
    · trivial
    · rename_i s' hguard
      have hs' := framed_callerGuard framing_recorded hguard
      have hfailed (e : ExecuteProposalError) :=
        (tells_rentalRequestFailed payload s' e).after hs'
      split
      · exact hfailed _
      · split
        · exact hfailed _
        · split
          · trivial
          · split
            · exact hfailed _
            · split
              · exact hfailed _
              · dsimp only
                split
                · exact (tells_rentalRequestAfterRate payload s' _ _).after hs'
                · rename_i s'' hrate
                  exact hs'.trans (framed_getExchangeRate framing_recorded hrate)
                · trivial

theorem tells_resumeRentalRequestRate (conditions : RentalConditions) (exchangeRateQueryTime : ℕ)
    (answer : Answer) : Tells (.executeRentalRequestProposal governanceCanisterId payload) s
      (resumeRentalRequestRate payload conditions exchangeRateQueryTime answer s) := by
  have hreceived {s' : State} {result : Except ExchangeRateError (ℕ × ℕ)}
      (h : receiveExchangeRate s exchangeRateQueryTime answer = .ok (s', result)) :=
    framed_receiveExchangeRate framing_recorded recorded_cacheRate h
  unfold resumeRentalRequestRate
  split
  · trivial
  · rename_i s' e hrate
    exact (tells_rentalRequestFailed payload s' _).after (hreceived hrate)
  · rename_i s' rate hrate
    exact (tells_rentalRequestAfterRate payload s' conditions rate).after (hreceived hrate)

theorem tells_resumeRentalRequestBalance (neededIcp : Tokens) (answer : Answer) :
    Tells (.executeRentalRequestProposal governanceCanisterId payload) s
      (resumeRentalRequestBalance payload neededIcp answer s) := by
  unfold resumeRentalRequestBalance
  split
  · split
    · exact tells_rentalRequestFailed payload s _
    · exact beginConvert_elim trivial fun _ ↦ framing_recorded.refl s
  · trivial
  · trivial

theorem tells_resumeRentalRequestConvert (neededIcp lockAmountIcp : Tokens) (stage : ConvertStage)
    (answer : Answer) : Tells (.executeRentalRequestProposal governanceCanisterId payload) s
      (resumeRentalRequestConvert payload neededIcp lockAmountIcp stage answer s) := by
  unfold resumeRentalRequestConvert
  split
  · trivial
  · exact framing_recorded.refl s
  · rename_i result _
    cases result with
    | error e => exact tells_rentalRequestFailed payload s e
    | ok converted =>
      unfold rentalRequestAfterConvert State.persistRentalRequest
      dsimp only
      cases hstored : (s.persistEvent (.transferSuccess lockAmountIcp converted.1)
          (some payload.user)).rentalRequests[payload.user]? with
      | some r => trivial
      | none =>
        have hfirst := Recorded.silent s (.transferSuccess lockAmountIcp converted.1)
          (some payload.user) rfl
        exact hfirst.trans ((Recorded.maps _ _ _).trans
          ((Recorded.event _ rfl _).trans (framing_recorded.dropGuards _ _)))

end Proposals

/-- A creation records the agreement that it grants. -/
theorem tells_resumeCreateAuthorize {payload : CreateRentalAgreementPayload}
    {rentalRequest : RentalRequest} {rentalAgreement : RentalAgreement} {s : State}
    (hknows : Knows (.createAuthorize payload rentalRequest rentalAgreement) s) (caller : Principal)
    (answer : Answer) : Tells (.executeCreateRentalAgreement caller payload) s
      (resumeCreateAuthorize payload rentalAgreement answer s) := by
  obtain ⟨hrequest, hfree, conditions, convertedCycles, nowNanos, -, -, rfl⟩ := hknows
  unfold resumeCreateAuthorize
  split
  · trivial
  · unfold State.removeRentalRequest State.persistRentalAgreement
    simp only [hrequest]
    split
    · trivial
    · rename_i s' hpersist
      split at hpersist
      · cases hpersist
      · obtain rfl := Option.some.inj hpersist
        exact (Recorded.maps s _ _).trans
          ((Recorded.event _ rfl _).trans (framing_recorded.dropGuards _ _))

section TopUps

variable (subnetId : Principal) (rentalAgreement : RentalAgreement) (s : State)

theorem tells_topUpFailed {e : TopUpError}
    (htold : told (.topUpSubnet subnetId, .ok (.topUp (.error e))) =
      some (some subnetId, .topUpFailed e)) :
    Tells (.topUpSubnet subnetId) s (topUpFailed subnetId rentalAgreement e s) := by
  have hrecorded : Recorded s (s.persistEvent (.subnetTopUpFailed rentalAgreement.user e)
      (some subnetId)) [(some subnetId, .topUpFailed e)] := .event s rfl _
  have hverdicts : [(Operation.topUpSubnet subnetId,
      (.ok (.topUp (.error e)) : Except Trap Response))].filterMap told =
        [(some subnetId, .topUpFailed e)] :=
    List.filterMap_cons_some htold
  change Recorded s _ (List.filterMap told _)
  rw [hverdicts]
  exact hrecorded.trans (framing_recorded.dropGuards _ {agreementLock subnetId})

theorem silent_topUpSubnet : Silent (.topUpSubnet subnetId) (topUpSubnet subnetId s) := by
  unfold topUpSubnet
  split
  · rfl
  · split
    · rfl
    · trivial

theorem tells_resumeTopUpBalance (answer : Answer) : Tells (.topUpSubnet subnetId) s
    (resumeTopUpBalance subnetId rentalAgreement answer s) := by
  unfold resumeTopUpBalance
  split
  · split
    · exact tells_topUpFailed subnetId rentalAgreement s rfl
    · exact beginConvert_elim trivial fun _ ↦ framing_recorded.refl s
  · trivial
  · trivial

theorem tells_resumeTopUpConvert (userIcpBalance icpAmountForCycles : Tokens) (stage : ConvertStage)
    (answer : Answer) : Tells (.topUpSubnet subnetId) s
      (resumeTopUpConvert subnetId rentalAgreement userIcpBalance icpAmountForCycles stage answer
        s) := by
  unfold resumeTopUpConvert
  split
  · trivial
  · exact framing_recorded.refl s
  · rename_i result _
    cases result with
    | error e => exact tells_topUpFailed subnetId rentalAgreement s rfl
    | ok converted =>
      unfold topUpAfterConvert
      dsimp only
      split
      · trivial
      · split
        · trivial
        · split
          · trivial
          split
          · trivial
          · rename_i s' hupdate
            obtain ⟨stored, hstored, rfl⟩ := updateRentalAgreement_eq_some hupdate
            have hfirst := Recorded.silent s (.transferSuccess icpAmountForCycles converted.1)
              (some subnetId) rfl
            exact hfirst.trans ((Recorded.maps _ _ _).trans
              ((Recorded.event _ rfl _).trans (framing_recorded.dropGuards _ _)))

end TopUps

/-! ### Other segments -/

theorem recorded_resumeRefundTransfer (caller : Principal) (toBeRefunded : Tokens) (answer : Answer)
    (s : State) : (resumeRefundTransfer caller toBeRefunded answer s).Leaving fun s' ↦
      Recorded s s' [] := by
  unfold resumeRefundTransfer
  split
  · exact framing_recorded.dropGuards s _
  · rename_i blockId
    have hfirst := Recorded.silent s (.transferSuccess toBeRefunded blockId) (some caller) rfl
    dsimp only
    split
    · exact hfirst.trans (framing_recorded.dropGuards _ _)
    · rename_i rentalRequest _
      split
      · trivial
      · rename_i s' hremove
        obtain ⟨-, -, rfl⟩ := removeRentalRequest_eq_some hremove
        have hburned (t : State) (cycles : ℕ) : Recorded t { t with cycles } [] :=
          .of_log rfl le_rfl
        have hcancelled (t : State) :=
          Recorded.silent t (.rentalRequestCancelled rentalRequest) (some caller) rfl
        exact hfirst.trans ((hburned _ _).trans ((Recorded.maps _ _ _).trans
          ((hcancelled _).trans (framing_recorded.dropGuards _ _))))
  · trivial
  · trivial

theorem recorded_resumeLockingConvert (nowNanos : ℕ) (rentalRequest : RentalRequest)
    (tenPercentIcp : Tokens) (rest : List RentalRequest) (stage : ConvertStage) (answer : Answer)
    (s : State) : (resumeLockingConvert nowNanos rentalRequest tenPercentIcp rest stage answer
      s).Leaving fun s' ↦ Recorded s s' [] := by
  have hloop {t : State} (ht : Recorded s t []) :=
    (framed_lockingLoop framing_recorded nowNanos rest t).mono fun _ ↦ ht.trans
  unfold resumeLockingConvert
  split
  · trivial
  · exact framing_recorded.refl s
  · rename_i result _
    cases result with
    | error e =>
      have hfailure := Recorded.silent s (.lockingFailure rentalRequest.user e)
        (some rentalRequest.user) rfl
      exact hloop (hfailure.trans (framing_recorded.dropGuards _ _))
    | ok converted =>
      unfold lockingAfterConvert
      dsimp only
      split
      · trivial
      split
      · trivial
      · rename_i s₁ hupdate
        unfold State.updateRentalRequest at hupdate
        split at hupdate
        · cases hupdate
        · obtain rfl := Option.some.inj hupdate
          have hfirst := Recorded.silent s (.transferSuccess tenPercentIcp converted.1)
            (some rentalRequest.user) rfl
          have hsecond (t : State) := Recorded.silent t
            (.lockingSuccess rentalRequest.user tenPercentIcp converted.2)
            (some rentalRequest.user) rfl
          exact hloop (hfirst.trans ((hsecond _).trans ((Recorded.maps _ _ _).trans
            (framing_recorded.dropGuards _ _))))

/-- A burn pass records nothing. -/
theorem recorded_burnPass {s s' : State} {burned : List (Principal × ℕ)}
    (h : burnPass s = .ok (burned, s')) : Recorded s s' [] := by
  refine burnPass_induct (J := fun _ t ↦ Recorded s t []) ?_ h (framing_recorded.refl s)
  rintro done t subnetId amounts t' ht hstep
  cases hstep with
  | skip => exact ht
  | burn a amount hfree hstored hsome hdivisible hamount =>
    exact ht.trans (.of_log rfl le_rfl)

theorem recorded_beforeMigration (s : State) : Recorded s (beforeMigration s) [] := by
  have hcleared : Recorded s { s with rentalConditions := fun _ ↦ none, locks := ∅ } [] :=
    .of_log rfl le_rfl
  have hcondition (t : State) (entry : RentalConditionId × RentalConditions) :
      Recorded t ((t.insertRentalCondition entry.1 entry.2).persistEvent
        (.rentalConditionsChanged entry.1 (some entry.2)) none) [] :=
    (show Recorded t (t.insertRentalCondition entry.1 entry.2) [] from .of_log rfl le_rfl).trans
      (.silent _ _ _ rfl)
  exact hcleared.trans ((hcondition _ _).trans (hcondition _ _))

theorem recorded_postUpgrade (s : State) : Recorded s (postUpgrade s) [] := by
  have hbefore := recorded_beforeMigration s
  obtain ⟨-, heq⟩ | ⟨a, -, -, heq⟩ := postUpgrade_cases s
  · rw [heq]
    exact hbefore
  · rw [heq]
    exact hbefore.trans ((Recorded.maps _ _ _).trans (.silent _ _ _ rfl))

/-! ### Steps -/

theorem tells_start (operation : Operation) (s : State) :
    Tells operation s (start operation s) := by
  have hframed (hsilent : Silent operation (start operation s)) :
      Tells operation s (start operation s) :=
    tells_of_silent hsilent
      (start_leaving framing_recorded operation (fun _ h ↦ h) fun _ _ ↦ recorded_burnPass)
  cases operation with
  | executeRentalRequestProposal caller payload =>
    exact tells_executeRentalRequestProposal payload s caller
  | executeCreateRentalAgreement caller payload =>
    exact hframed (silent_of_declining (declining_executeCreateRentalAgreement caller payload s))
  | topUpSubnet subnetId => exact hframed (silent_topUpSubnet subnetId s)
  | _ => exact hframed (silent_of_other (fun _ ↦ rfl) _)

theorem tells_resume {operation : Operation} {frame : Frame} (hawaits : Awaits operation frame)
    {s : State} (hknows : Knows frame s) (answer : Answer) :
    Tells operation s (resume frame answer s) := by
  have hother (hsilent : ∀ response, told (operation, .ok response) = none)
      (h : (resume frame answer s).Leaving fun s' ↦ Recorded s s' []) :
      Tells operation s (resume frame answer s) :=
    tells_of_silent (silent_of_other hsilent _) h
  have hR := framing_recorded
  cases operation with
  | executeRentalRequestProposal caller payload =>
    cases frame <;> try exact hawaits.elim
    case rentalRequestRate payload' conditions time =>
      obtain ⟨rfl, rfl⟩ := hawaits
      exact tells_resumeRentalRequestRate _ s conditions time answer
    case rentalRequestBalance payload' neededIcp =>
      obtain ⟨rfl, rfl⟩ := hawaits
      exact tells_resumeRentalRequestBalance _ s neededIcp answer
    case rentalRequestConvert payload' neededIcp lockAmountIcp stage =>
      obtain ⟨rfl, rfl⟩ := hawaits
      exact tells_resumeRentalRequestConvert _ s neededIcp lockAmountIcp stage answer
  | executeCreateRentalAgreement caller payload =>
    cases frame <;> try exact hawaits.elim
    case createConvert payload' rentalRequest period remainingIcp stage =>
      exact tells_of_silent (silent_of_declining (declining_resumeCreateConvert _ _ _ _ _ _ s))
        (framed_resumeCreateConvert hR _ _ _ _ _ _ s)
    case createAuthorize payload' rentalRequest rentalAgreement =>
      obtain ⟨-, rfl⟩ := hawaits
      exact tells_resumeCreateAuthorize hknows caller answer
  | topUpSubnet subnetId =>
    cases frame <;> try exact hawaits.elim
    case topUpBalance subnetId' rentalAgreement =>
      obtain rfl := hawaits
      exact tells_resumeTopUpBalance _ rentalAgreement s answer
    case topUpConvert subnetId' rentalAgreement balance amount stage =>
      obtain rfl := hawaits
      exact tells_resumeTopUpConvert _ rentalAgreement s balance amount stage answer
  | refund caller =>
    refine hother (fun _ ↦ rfl) ?_
    cases frame <;> try exact hawaits.elim
    case refundBalance caller' => exact framed_resumeRefundBalance hR _ _ s
    case refundTransfer caller' toBeRefunded => exact recorded_resumeRefundTransfer _ _ answer s
  | locking =>
    refine hother (fun _ ↦ rfl) ?_
    cases frame <;> try exact hawaits.elim
    case lockingConvert nowNanos rentalRequest tenPercentIcp rest stage =>
      exact recorded_resumeLockingConvert nowNanos rentalRequest tenPercentIcp rest stage answer s
  | getTodaysPrice id =>
    refine hother (fun _ ↦ rfl) ?_
    cases frame <;> try exact hawaits.elim
    case todaysPrice conditions prevMidnight =>
      exact framed_resumeTodaysPrice hR recorded_cacheRate _ _ _ s
  | subnetTopUpEstimate subnetId icp =>
    refine hother (fun _ ↦ rfl) ?_
    cases frame <;> try exact hawaits.elim
    case estimateRate rentalAgreement icp' prevMidnight =>
      exact framed_resumeEstimate hR recorded_cacheRate _ _ _ _ s
  | updateSubnetAdmins caller payload =>
    refine hother (fun _ ↦ rfl) ?_
    cases frame <;> try exact hawaits.elim
    case subnetAdmins payload' => exact framed_resumeSubnetAdmins hR _ _ s
  | burnCycles => cases frame <;> exact hawaits.elim

/-- Every step records what the call that it ends is told. -/
theorem recorded_of_next {cycles : ℕ} {c c' : Configuration} {a : Label}
    (hc : (system cycles).Reachable c) (hnext : (system cycles).next c a = some c') :
    ∃ ended, c'.trace = c.trace ++ ended ∧
      Recorded c.state.canister c'.state.canister (ended.filterMap told) := by
  have hsound := sound_of_reachable hc
  have htrap (operation : Operation) (reason : Trap) :
      [(operation, (.error reason : Except Trap Response))].filterMap told = [] :=
    List.filterMap_cons_none (by cases operation <;> rfl)
  refine replies_of_next (T := fun s s' ended ↦ Recorded s s' (ended.filterMap told))
    ⟨fun operation ↦ tells_start operation _, fun id operation frame answer hcall ↦ ?_,
      fun operation reason ↦ ?_, fun guards operation reason ↦ ?_,
      fun now cycles reserve hnow ↦ .of_log rfl hnow, fun _ ↦ recorded_postUpgrade _⟩ hnext
  · have hknown := hsound.assert id _ hcall
    exact tells_resume hknown.awaits hknown.knows answer
  · rw [htrap]
    exact framing_recorded.refl _
  · rw [htrap]
    exact framing_recorded.dropGuards _ guards

/-- Every run records what the calls that end in it are told. -/
theorem recorded_of_run {cycles : ℕ} {c c' : Configuration} (hc : (system cycles).Reachable c)
    (hrun : (system cycles).Run c c') : ∃ ended, c'.trace = c.trace ++ ended ∧
      Recorded c.state.canister c'.state.canister (ended.filterMap told) := by
  refine hrun.induct (J := fun d ↦ ∃ ended, d.trace = c.trace ++ ended ∧
    Recorded c.state.canister d.state.canister (ended.filterMap told))
    ⟨[], (List.append_nil _).symm, framing_recorded.refl _⟩ ?_
  rintro u v a hu ⟨ended, htrace, hrecorded⟩ - hnext
  obtain ⟨later, htrace', hrecorded'⟩ := recorded_of_next (hc.append hu) hnext
  refine ⟨ended ++ later, by rw [htrace', htrace, List.append_assoc], ?_⟩
  rw [List.filterMap_append]
  exact hrecorded.trans hrecorded'

/-- From before the installation on. -/
theorem recorded_of_reachable {cycles : ℕ} {c : Configuration} (h : (system cycles).Reachable c) :
    ∃ s₀, Blank s₀ ∧ Recorded s₀ c.state.canister (c.trace.filterMap told) := by
  obtain ⟨start, hinit, hrun⟩ := h
  obtain ⟨ended, htrace, hrecorded⟩ := recorded_of_run (.init hinit) hrun
  obtain ⟨⟨now, reserve, -, hcanister⟩, -, -, hnone⟩ := hinit
  rw [hnone, List.nil_append] at htrace
  rw [hcanister] at hrecorded
  have hinstalled := recorded_beforeMigration
    { install cycles now reserve with eventCounters := ∅, history := ∅ }
  refine ⟨{ install cycles now reserve with eventCounters := ∅, history := ∅ }, ⟨rfl, rfl⟩, ?_⟩
  rw [htrace]
  exact hinstalled.trans hrecorded

/-! ### What the history of a key tells -/

/-- The verdicts that ended calls were told about a key, in order. -/
def verdictsTold (key : Option Principal) (trace : List (Operation × Except Trap Response)) :
    List Verdict :=
  ((trace.filterMap told).filter fun verdict ↦ verdict.1 = key).map Prod.snd

/-- The verdicts of the events of a key, in order. -/
theorem filterMap_verdictOf (key : Option Principal) (entries : List (Option Principal × Event)) :
    ((entries.filter fun entry ↦ entry.1 = key).map Prod.snd).filterMap
        (fun event ↦ verdictOf event.event) =
      ((verdictsIn entries).filter fun verdict ↦ verdict.1 = key).map Prod.snd := by
  unfold verdictsIn
  induction entries with
  | nil => rfl
  | cons entry rest ih =>
    obtain ⟨entryKey, event⟩ := entry
    rw [List.filter_cons, List.filterMap_cons]
    by_cases hkey : entryKey = key
    · cases hverdict : verdictOf event.event <;> simp [hkey, hverdict, ih]
    · cases hverdict : verdictOf event.event <;> simp [hkey, ih]

/-- The successes of a key. -/
theorem filter_isSuccess (key : Option Principal) (verdicts : List (Option Principal × Verdict)) :
    ((verdicts.filter fun verdict ↦ verdict.1 = key).map Prod.snd).filter Verdict.isSuccess =
      ((successes verdicts).filter fun verdict ↦ verdict.1 = key).map Prod.snd := by
  unfold successes
  rw [List.filter_map, List.filter_filter, List.filter_filter]
  congr 1
  refine List.filter_congr fun verdict _ ↦ ?_
  exact Bool.and_comm _ _

/-- As long as no counter has wrapped, every verdict that the caller of a proposal or of a top-up
was told is an event of its user or its subnet, in the order of the replies, and the requests,
agreements and top-ups among the events are exactly those that were told. -/
theorem outcomes_recorded {cycles : ℕ} {c : Configuration} (h : (system cycles).Reachable c)
    (hunwrapped : (log c.state.canister).Unwrapped 64) (key : Option Principal) :
    (verdictsTold key c.trace).Sublist (selected verdictOf key (log c.state.canister)) ∧
      (selected verdictOf key (log c.state.canister)).filter Verdict.isSuccess =
        (verdictsTold key c.trace).filter Verdict.isSuccess := by
  obtain ⟨s₀, hblank, -, entries, hlog, -, -, htold, hsuccesses⟩ := recorded_of_reachable h
  rw [hlog] at hunwrapped
  have hselected : selected verdictOf key (log c.state.canister) =
      ((verdictsIn entries).filter fun verdict ↦ verdict.1 = key).map Prod.snd := by
    unfold selected
    rw [hlog, KeyedLog.under_appendAll hblank.numbered hunwrapped, hblank.under, List.nil_append]
    exact filterMap_verdictOf key entries
  rw [hselected]
  unfold verdictsTold
  constructor
  · exact (htold.filter _).map _
  · rw [filter_isSuccess, filter_isSuccess, hsuccesses]

/-- The subnet was rented once, as its history says. -/
theorem outcomes_recorded_upgraded :
    verdictsTold (some targetSubnet) upgradedConfiguration.trace =
        [.rented Cycles.targetCreation.user (some Cycles.targetCreation.proposalId)] ∧
      (selected verdictOf (some targetSubnet) (log upgradedConfiguration.state.canister)).filter
          Verdict.isSuccess =
        (verdictsTold (some targetSubnet) upgradedConfiguration.trace).filter Verdict.isSuccess :=
  ⟨by decide +kernel, (outcomes_recorded reachable_upgradedConfiguration
    unwrapped_upgradedConfiguration (some targetSubnet)).2⟩

/-! ### The growth of the history in a run -/

/-- The history of a key and its pages, from one state to another. -/
structure HistoryGrows (key : Option Principal) (s s' : State) : Prop where
  added : ∃ events, (log s').under key = (log s).under key ++ events ∧
    ∀ event ∈ events, s.now ≤ event.timeNanos ∧ event.timeNanos ≤ s'.now
  pages : ∀ olderThan pageSize, olderThan ≤ (s.eventCounters[key]?).getD 0 →
    s'.getHistoryPage key (some olderThan) pageSize =
      s.getHistoryPage key (some olderThan) pageSize
  chronological : ∀ olderThan pageSize, (s'.getHistoryPage key olderThan pageSize).1.Pairwise
    fun event later ↦ event.timeNanos ≤ later.timeNanos

/-- The history of a reachable state is numbered and in the order of time. -/
theorem chronological_of_reachable {cycles : ℕ} {c : Configuration}
    (h : (system cycles).Reachable c) (hunwrapped : (log c.state.canister).Unwrapped 64) :
    (log c.state.canister).Numbered ∧ ∀ key, ((log c.state.canister).under key).Pairwise
      fun event later ↦ event.timeNanos ≤ later.timeNanos := by
  obtain ⟨s₀, hblank, -, entries, hlog, -, hsorted, -⟩ := recorded_of_reachable h
  rw [hlog] at hunwrapped ⊢
  refine ⟨hblank.numbered.appendAll hunwrapped, fun key ↦ ?_⟩
  rw [KeyedLog.under_appendAll hblank.numbered hunwrapped, hblank.under, List.nil_append,
    List.pairwise_map]
  exact hsorted.filter _

/-- The last events of a list before a number, as many as the two endpoints return, and the number
of the first of them. -/
def lastEvents (events : List Event) (olderThan : Option ℕ) : List Event × ℕ :=
  let high := olderThan.getD events.length
  ((events.take high).drop (high - State.historyPageSize), high - State.historyPageSize)

/-- In every reachable state, as long as no counter has wrapped, the two endpoints return the last
events of a user or a subnet, and of the rental conditions. -/
theorem endpoints_of_reachable {cycles : ℕ} {c : Configuration} (h : (system cycles).Reachable c)
    (hunwrapped : (log c.state.canister).Unwrapped 64) (olderThan : Option ℕ) :
    (∀ principal, c.state.canister.historyPage principal olderThan =
      lastEvents ((log c.state.canister).under (some principal)) olderThan) ∧
      c.state.canister.rentalConditionsHistoryPage olderThan =
        lastEvents ((log c.state.canister).under none) olderThan := by
  obtain ⟨hnumbered, -⟩ := chronological_of_reachable h hunwrapped
  have hpage (key : Option Principal) :
      c.state.canister.getHistoryPage key olderThan State.historyPageSize =
        lastEvents ((log c.state.canister).under key) olderThan := by
    rw [getHistoryPage_eq, KeyedLog.page_eq hnumbered, ← KeyedLog.length_under hnumbered]
    rfl
  exact ⟨fun principal ↦ hpage (some principal), hpage none⟩

/-- In every run, as long as no counter wraps, events are only added to the history of a key, with
times that lie in the run. A page of events older than a number that the counter has reached stays
as it is, and the events of a page are in the order of time. -/
theorem history_grows {cycles : ℕ} {c c' : Configuration} (hc : (system cycles).Reachable c)
    (hrun : (system cycles).Run c c') (hunwrapped : (log c'.state.canister).Unwrapped 64)
    (key : Option Principal) : HistoryGrows key c.state.canister c'.state.canister := by
  obtain ⟨-, -, -, entries, hlog, htimes, -⟩ := recorded_of_run hc hrun
  have hbefore : (log c.state.canister).Unwrapped 64 := by
    rw [hlog] at hunwrapped
    exact hunwrapped.of_appendAll
  have hnumbered := (chronological_of_reachable hc hbefore).1
  obtain ⟨hnumbered', hsorted⟩ := chronological_of_reachable (hc.append hrun) hunwrapped
  constructor
  · refine ⟨(entries.filter fun entry ↦ entry.1 = key).map Prod.snd, ?_, fun event hevent ↦ ?_⟩
    · rw [hlog] at hunwrapped ⊢
      exact KeyedLog.under_appendAll hnumbered hunwrapped key
    · obtain ⟨entry, hentry, rfl⟩ := List.mem_map.mp hevent
      exact htimes entry (List.mem_filter.mp hentry).1
  · intro olderThan pageSize hle
    rw [getHistoryPage_eq, getHistoryPage_eq, Option.getD_some, Option.getD_some]
    rw [hlog] at hunwrapped ⊢
    rw [KeyedLog.page_appendAll hnumbered hunwrapped hle]
  · intro olderThan pageSize
    rw [getHistoryPage_eq, KeyedLog.page_eq hnumbered']
    exact (hsorted key).sublist ((List.drop_sublist _ _).trans (List.take_sublist _ _))

/-- From the installation through a rental and two upgrades. -/
theorem history_grows_upgraded :
    HistoryGrows (some targetSubnet) (installedWorld (10 ^ 12) fun _ ↦ 10 ^ 13).canister
      upgradedConfiguration.state.canister :=
  history_grows (.init (init_idle _ _)) (System.run_of_perform (Option.some_get _).symm)
    unwrapped_upgradedConfiguration (some targetSubnet)

end SubnetRental.History
