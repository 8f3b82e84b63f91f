import SubnetRental.History.Pages
import SubnetRental.Lifecycle.Steps

/-!
# What the history records

The events that record a change of the stored requests or agreements are booked: a request was
created or cancelled, an agreement was created, topped up or moved to another condition. `Booked`
pairs each of them with the change that it records, and `booked_of_next` shows that every step of
the canister makes exactly the changes that it books: none without its event, and no event without
its change.
-/

set_option autoImplicit false
set_option relaxedAutoImplicit false

namespace SubnetRental.History

open Canister Lifecycle Foundation.KeyedLogs Foundation.GuardedCalls Foundation.MachineInteger
open Foundation.TransitionSystem Foundation.TreeMapTotals Std

/-! ### Logged events -/

/-- The booked events among some entries, in order. -/
def bookedOf (entries : List (Option Principal × Event)) : List (Option Principal × EventType) :=
  (entries.filter fun entry ↦ isBooked entry.2.event).map fun entry ↦ (entry.1, entry.2.event)

/-- The history grows by entries of which the booked ones are given. -/
def Logs (s s' : State) (events : List (Option Principal × EventType)) : Prop :=
  ∃ entries, log s' = (log s).appendAll 64 entries ∧ bookedOf entries = events

namespace Logs

theorem of_eq {s s' : State} (h : log s' = log s) : Logs s s' [] := ⟨[], h, rfl⟩

theorem trans {s t u : State} {first second : List (Option Principal × EventType)}
    (hst : Logs s t first) (htu : Logs t u second) : Logs s u (first ++ second) := by
  obtain ⟨entries, ht, rfl⟩ := hst
  obtain ⟨others, hu, rfl⟩ := htu
  refine ⟨entries ++ others, ?_, ?_⟩
  · rw [hu, ht, KeyedLog.appendAll_append]
  · unfold bookedOf
    rw [List.filter_append, List.map_append]

theorem persistEvent (s : State) (event : EventType) (key : Option Principal) :
    Logs s (s.persistEvent event key) (if isBooked event then [(key, event)] else []) := by
  refine ⟨[(key, ⟨s.now, event⟩)], rfl, ?_⟩
  unfold bookedOf
  rw [List.filter_singleton]
  cases isBooked event <;> rfl

theorem unbooked (s : State) (event : EventType) (key : Option Principal)
    (h : isBooked event = false) : Logs s (s.persistEvent event key) [] := by
  have hlogs := persistEvent s event key
  rwa [if_neg (by simp [h])] at hlogs

theorem booked {s : State} {event : EventType} (h : isBooked event) (key : Option Principal) :
    Logs s (s.persistEvent event key) [(key, event)] := by
  have hlogs := persistEvent s event key
  rwa [if_pos h] at hlogs

end Logs

/-! ### Booked changes -/

/-- What the history determines of an agreement. -/
structure Terms where
  user : Principal
  rentalConditionId : RentalConditionId
  creationTimeNanos : ℕ
  paidUntilNanos : ℕ

def terms (a : RentalAgreement) : Terms where
  user := a.user
  rentalConditionId := a.rentalConditionId
  creationTimeNanos := a.creationTimeNanos
  paidUntilNanos := a.paidUntilNanos

/-- The changes of the stored requests and agreements, with the events that record them. -/
inductive Booked (s s' : State) : List (Option Principal × EventType) → Prop
  | nothing
      (hrequests : ∀ u : Principal,
        (s'.rentalRequests[u]?).isSome = (s.rentalRequests[u]?).isSome)
      (hagreements : ∀ i : Principal,
        (s'.rentalAgreements[i]?).map terms = (s.rentalAgreements[i]?).map terms) :
      Booked s s' []
  | opened (r : RentalRequest) (hnone : s.rentalRequests[r.user]? = none)
      (hrequests : s'.rentalRequests = s.rentalRequests.insert r.user r)
      (hagreements : s'.rentalAgreements = s.rentalAgreements) :
      Booked s s' [(some r.user, .rentalRequestCreated r)]
  | cancelled (user : Principal) (r : RentalRequest) (hstored : s.rentalRequests[user]? = some r)
      (hrequests : s'.rentalRequests = s.rentalRequests.erase user)
      (hagreements : s'.rentalAgreements = s.rentalAgreements) :
      Booked s s' [(some user, .rentalRequestCancelled r)]
  | granted (a : RentalAgreement) (r : RentalRequest)
      (hstored : s.rentalRequests[a.user]? = some r)
      (hfree : s.rentalAgreements[a.subnetId]? = none)
      (hpaid : a.paidUntilNanos = wrappingAdd 64 a.creationTimeNanos
        (initialRentalPeriodNanos (standardConditions a.rentalConditionId)))
      (hrequests : s'.rentalRequests = s.rentalRequests.erase a.user)
      (hagreements : s'.rentalAgreements = s.rentalAgreements.insert a.subnetId a) :
      Booked s s' [(some a.subnetId, .rentalAgreementCreated a.user a.rentalRequestProposalId
        a.subnetCreationProposalId a.rentalConditionId)]
  | toppedUp (i user : Principal) (icp : Tokens) (cycles days : ℕ) (old new : RentalAgreement)
      (hstored : s.rentalAgreements[i]? = some old)
      (hterms : terms new = { terms old with paidUntilNanos := new.paidUntilNanos })
      (hrequests : s'.rentalRequests = s.rentalRequests)
      (hagreements : s'.rentalAgreements = s.rentalAgreements.insert i new) :
      Booked s s' [(some i, .subnetTopUp user icp cycles days new.paidUntilNanos)]
  | switched (a : RentalAgreement) (hstored : s.rentalAgreements[targetSubnet]? = some a)
      (hcondition : a.rentalConditionId = .app13CH)
      (hrequests : s'.rentalRequests = s.rentalRequests)
      (hagreements : s'.rentalAgreements =
        s.rentalAgreements.insert targetSubnet (repricedAgreement s.now a)) :
      Booked s s' [(some targetSubnet, .rentalConditionSwitched a.user .app13CH .app7CH
        a.cyclesRemaining a.paidUntilNanos (repricedAgreement s.now a).paidUntilNanos)]

/-- A step books the changes that it makes. -/
def Books (s s' : State) : Prop := ∃ events, Logs s s' events ∧ Booked s s' events

theorem Books.of_maps {s s' : State} (hlog : Logs s s' [])
    (hrequests : s'.rentalRequests = s.rentalRequests)
    (hagreements : s'.rentalAgreements = s.rentalAgreements) : Books s s' :=
  ⟨[], hlog, .nothing (fun _ ↦ by rw [hrequests]) (fun _ ↦ by rw [hagreements])⟩

/-- Nothing booked, requests and agreements as they were. -/
structure Unbooked (s s' : State) : Prop where
  logs : Logs s s' []
  rentalRequests : s'.rentalRequests = s.rentalRequests
  rentalAgreements : s'.rentalAgreements = s.rentalAgreements

theorem Unbooked.books {s s' : State} (h : Unbooked s s') : Books s s' :=
  .of_maps h.logs h.rentalRequests h.rentalAgreements

theorem framing_unbooked : Framing Unbooked where
  refl s := ⟨.of_eq rfl, rfl, rfl⟩
  trans hst htu := ⟨hst.logs.trans htu.logs, htu.rentalRequests.trans hst.rentalRequests,
    htu.rentalAgreements.trans hst.rentalAgreements⟩
  dropGuards _ _ := ⟨.of_eq rfl, rfl, rfl⟩
  insertLock _ _ := ⟨.of_eq rfl, rfl, rfl⟩
  persistEvent _ _ key h := ⟨.unbooked _ _ key h, rfl, rfl⟩
  calling s _ := by
    have hlog (cycles calls : ℕ) :
        Logs s { s with cycles, exchangeRateCalls := calls } [] := .of_eq rfl
    exact ⟨hlog _ _, rfl, rfl⟩

theorem unbooked_cacheRate (s : State) (time rate decimals : ℕ) :
    Unbooked s (s.cacheRate time rate decimals) := ⟨.of_eq rfl, rfl, rfl⟩

/-! ### Segments -/

theorem books_resumeRentalRequestConvert (payload : SubnetRentalProposalPayload)
    (neededIcp lockAmountIcp : Tokens) (stage : ConvertStage) (answer : Answer) (s : State) :
    (resumeRentalRequestConvert payload neededIcp lockAmountIcp stage answer s).Leaving
      (Books s) := by
  unfold resumeRentalRequestConvert
  split
  · trivial
  · exact (framing_unbooked.refl s).books
  · rename_i result _
    cases result with
    | error e =>
      exact (framed_rentalRequestFailed framing_unbooked payload e s).mono fun _ h ↦ h.books
    | ok converted =>
      unfold rentalRequestAfterConvert State.persistRentalRequest
      dsimp only
      rw [State.persistEvent_rentalRequests]
      cases hstored : s.rentalRequests[payload.user]? with
      | some r => trivial
      | none =>
        have hfirst := Logs.unbooked s (.transferSuccess lockAmountIcp converted.1)
          (some payload.user) rfl
        exact ⟨_, hfirst.trans (.booked rfl _),
          .opened (openedRequest payload neededIcp lockAmountIcp converted.2 s.now) hstored rfl rfl⟩

theorem books_resumeCreateAuthorize {payload : CreateRentalAgreementPayload}
    {rentalRequest : RentalRequest} {rentalAgreement : RentalAgreement} {s : State}
    (hs : Consistent s) (hknows : Knows (.createAuthorize payload rentalRequest rentalAgreement) s)
    (answer : Answer) :
    (resumeCreateAuthorize payload rentalAgreement answer s).Leaving (Books s) := by
  obtain ⟨hrequest, hfree, conditions, convertedCycles, nowNanos, hconditions, -, rfl⟩ := hknows
  obtain rfl : standardConditions rentalRequest.rentalConditionId = conditions :=
    Option.some.inj ((hs.conditions _).symm.trans hconditions)
  unfold resumeCreateAuthorize
  split
  · trivial
  · unfold State.removeRentalRequest State.persistRentalAgreement
    simp only [hrequest]
    split
    · trivial
    · rename_i s' hpersist
      split at hpersist
      · cases hpersist
      · obtain rfl := Option.some.inj hpersist
        exact ⟨_, .booked rfl _, .granted _ rentalRequest hrequest hfree rfl rfl rfl⟩

theorem books_resumeRefundTransfer (caller : Principal) (toBeRefunded : Tokens) (answer : Answer)
    (s : State) : (resumeRefundTransfer caller toBeRefunded answer s).Leaving (Books s) := by
  unfold resumeRefundTransfer
  split
  · exact (framing_unbooked.dropGuards s _).books
  · rename_i blockId
    have hfirst :
        Unbooked s (s.persistEvent (.transferSuccess toBeRefunded blockId) (some caller)) :=
      framing_unbooked.persistEvent s _ _ rfl
    dsimp only
    unfold State.getRentalRequest
    rw [State.persistEvent_rentalRequests]
    cases hstored : s.rentalRequests[caller]? with
    | none => exact (framing_unbooked.trans hfirst (framing_unbooked.dropGuards _ _)).books
    | some rentalRequest =>
      unfold State.removeRentalRequest
      simp only [State.cyclesBurn_rentalRequests, State.persistEvent_rentalRequests, hstored]
      exact ⟨_, hfirst.logs.trans (.booked rfl _), .cancelled caller rentalRequest hstored rfl rfl⟩
  · trivial
  · trivial

theorem books_resumeTopUpConvert {subnetId : Principal} {rentalAgreement : RentalAgreement}
    {userIcpBalance icpAmountForCycles : Tokens} {stage : ConvertStage} {s : State}
    (answer : Answer) :
    (resumeTopUpConvert subnetId rentalAgreement userIcpBalance icpAmountForCycles stage answer
      s).Leaving (Books s) := by
  unfold resumeTopUpConvert
  split
  · trivial
  · exact (framing_unbooked.refl s).books
  · rename_i result _
    cases result with
    | error e => exact (framed_topUpFailed framing_unbooked _ _ _ s).mono fun _ h ↦ h.books
    | ok converted =>
      unfold topUpAfterConvert
      dsimp only
      split
      · trivial
      · rename_i conditions hconditions
        split
        · trivial
        · split
          · trivial
          split
          · trivial
          · rename_i s' hupdate
            obtain ⟨stored, hstored, rfl⟩ := updateRentalAgreement_eq_some hupdate
            have hfirst := Logs.unbooked s (.transferSuccess icpAmountForCycles converted.1)
              (some subnetId) rfl
            exact ⟨_, hfirst.trans (.booked rfl _), .toppedUp subnetId _ _ _ _ stored
              (toppedUpAgreement rentalAgreement stored conditions.dailyCostCycles converted.2
                userIcpBalance) hstored rfl rfl rfl⟩

theorem books_resumeLockingConvert (nowNanos : ℕ) (rentalRequest : RentalRequest)
    (tenPercentIcp : Tokens) (rest : List RentalRequest) (stage : ConvertStage) (answer : Answer)
    (s : State) :
    (resumeLockingConvert nowNanos rentalRequest tenPercentIcp rest stage answer s).Leaving
      (Books s) := by
  unfold resumeLockingConvert
  split
  · trivial
  · exact (framing_unbooked.refl s).books
  · rename_i result _
    cases result with
    | error e =>
      refine (framed_lockingLoop framing_unbooked nowNanos rest _).mono fun _ h ↦ Unbooked.books ?_
      exact framing_unbooked.trans (framing_unbooked.trans
        (framing_unbooked.persistEvent s _ _ rfl) (framing_unbooked.dropGuards _ _)) h
    | ok converted =>
      unfold lockingAfterConvert
      dsimp only
      split
      · trivial
      split
      · trivial
      · rename_i s₁ hupdate
        unfold State.updateRentalRequest at hupdate
        split at hupdate
        · cases hupdate
        · rename_i stored hstored
          obtain rfl := Option.some.inj hupdate
          refine (framed_lockingLoop framing_unbooked nowNanos rest _).mono fun s' h ↦ ?_
          have hfirst := Logs.unbooked s (.transferSuccess tenPercentIcp converted.1)
            (some rentalRequest.user) rfl
          have hsecond := Logs.unbooked
            (s.persistEvent (.transferSuccess tenPercentIcp converted.1) (some rentalRequest.user))
            (.lockingSuccess rentalRequest.user tenPercentIcp converted.2)
            (some rentalRequest.user) rfl
          refine ⟨[], (hfirst.trans hsecond).trans h.logs, .nothing (fun u ↦ ?_) fun i ↦ ?_⟩
          · rw [h.rentalRequests]
            change ((s.rentalRequests.insert rentalRequest.user _)[u]?).isSome = _
            rw [getElem?_insert_ite]
            split_ifs with hu
            · subst hu
              change true = (s.rentalRequests[rentalRequest.user]?).isSome
              have hsome : s.rentalRequests[rentalRequest.user]? = some stored := hstored
              rw [hsome]
              rfl
            · rfl
          · rw [h.rentalAgreements]
            rfl

/-- A burn pass changes no terms and records nothing. -/
theorem books_burnPass {s s' : State} {burned : List (Principal × ℕ)}
    (h : burnPass s = .ok (burned, s')) : Books s s' := by
  have hpass : log s' = log s ∧ s'.rentalRequests = s.rentalRequests ∧ ∀ i : Principal,
      (s'.rentalAgreements[i]?).map terms = (s.rentalAgreements[i]?).map terms := by
    refine burnPass_induct (J := fun _ t ↦ log t = log s ∧ t.rentalRequests = s.rentalRequests ∧
      ∀ i : Principal, (t.rentalAgreements[i]?).map terms = (s.rentalAgreements[i]?).map terms)
      ?_ h ⟨rfl, rfl, fun _ ↦ rfl⟩
    rintro done t subnetId amounts t' ⟨hlog, hrequests, hagreements⟩ hstep
    cases hstep with
    | skip => exact ⟨hlog, hrequests, hagreements⟩
    | burn a amount hfree hstored hsome hdivisible hamount =>
      refine ⟨hlog, hrequests, fun i ↦ ?_⟩
      rw [← hagreements i]
      change ((t.rentalAgreements.insert subnetId (burnedAgreement a amount))[i]?).map terms = _
      rw [getElem?_insert_ite]
      split_ifs with hi
      · subst hi
        rw [hstored]
        rfl
      · rfl
  obtain ⟨hlog, hrequests, hagreements⟩ := hpass
  exact ⟨[], .of_eq hlog, .nothing (fun u ↦ by rw [hrequests]) hagreements⟩

theorem books_start (operation : Operation) (s : State) : (start operation s).Leaving (Books s) :=
  start_leaving framing_unbooked operation (fun _ h ↦ h.books) fun _ _ ↦ books_burnPass

theorem books_resume {frame : Frame} {s : State} (hs : Consistent s) (hknows : Knows frame s)
    (answer : Answer) : (resume frame answer s).Leaving (Books s) := by
  have hunbooked {outcome : Segment} (h : outcome.Leaving (Unbooked s)) :
      outcome.Leaving (Books s) := h.mono fun _ hs' ↦ hs'.books
  have hR := framing_unbooked
  cases frame with
  | todaysPrice conditions prevMidnight =>
    exact hunbooked (framed_resumeTodaysPrice hR unbooked_cacheRate _ _ _ s)
  | rentalRequestRate payload conditions time =>
    exact hunbooked (framed_resumeRentalRequestRate hR unbooked_cacheRate _ _ _ _ s)
  | rentalRequestBalance payload neededIcp =>
    exact hunbooked (framed_resumeRentalRequestBalance hR _ _ _ s)
  | rentalRequestConvert payload neededIcp lockAmountIcp stage =>
    exact books_resumeRentalRequestConvert payload neededIcp lockAmountIcp stage answer s
  | createConvert payload rentalRequest period remainingIcp stage =>
    exact hunbooked (framed_resumeCreateConvert hR _ _ _ _ _ _ s)
  | createAuthorize payload rentalRequest rentalAgreement =>
    exact books_resumeCreateAuthorize hs hknows answer
  | refundBalance caller => exact hunbooked (framed_resumeRefundBalance hR _ _ s)
  | refundTransfer caller toBeRefunded =>
    exact books_resumeRefundTransfer caller toBeRefunded answer s
  | estimateRate rentalAgreement icp prevMidnight =>
    exact hunbooked (framed_resumeEstimate hR unbooked_cacheRate _ _ _ _ s)
  | topUpBalance subnetId rentalAgreement =>
    exact hunbooked (framed_resumeTopUpBalance hR _ _ _ s)
  | topUpConvert subnetId rentalAgreement userIcpBalance icpAmountForCycles stage =>
    exact books_resumeTopUpConvert answer
  | subnetAdmins payload => exact hunbooked (framed_resumeSubnetAdmins hR _ _ s)
  | lockingConvert nowNanos rentalRequest tenPercentIcp rest stage =>
    exact books_resumeLockingConvert nowNanos rentalRequest tenPercentIcp rest stage answer s

/-! ### Steps -/

/-- An installation logs only the rental conditions. -/
theorem logs_install (cycles now reserve : ℕ) :
    ∃ s₀, Blank s₀ ∧ Logs s₀ (install cycles now reserve) [] :=
  ⟨{ install cycles now reserve with eventCounters := ∅, history := ∅ }, ⟨rfl, rfl⟩,
    [(none, ⟨now, .rentalConditionsChanged .app13CH (some (standardConditions .app13CH))⟩),
      (none, ⟨now, .rentalConditionsChanged .app7CH (some (standardConditions .app7CH))⟩)],
    rfl, rfl⟩

theorem logs_beforeMigration (s : State) : Logs s (beforeMigration s) [] :=
  ⟨[(none, ⟨s.now, .rentalConditionsChanged .app13CH (some (standardConditions .app13CH))⟩),
    (none, ⟨s.now, .rentalConditionsChanged .app7CH (some (standardConditions .app7CH))⟩)],
    rfl, rfl⟩

theorem books_postUpgrade (s : State) : Books s (postUpgrade s) := by
  obtain ⟨-, heq⟩ | ⟨a, hstored, hcondition, heq⟩ := postUpgrade_cases s
  · rw [heq]
    exact .of_maps (logs_beforeMigration s) rfl rfl
  · rw [heq]
    exact ⟨_, (logs_beforeMigration s).trans (.booked rfl _),
      .switched a hstored hcondition rfl rfl⟩

/-- Every step makes exactly the changes that it books. -/
theorem books_of_next {cycles : ℕ} {c c' : Configuration} {a : Label}
    (hc : (system cycles).Reachable c) (hnext : (system cycles).next c a = some c') :
    Books c.state.canister c'.state.canister := by
  have hsound := sound_of_reachable hc
  refine canister_of_next ⟨(framing_unbooked.refl _).books, fun operation ↦ books_start operation _,
    fun id operation frame answer hcall ↦ ?_, fun guards ↦ ?_, fun now cycles reserve _ ↦ ?_,
    fun _ ↦ books_postUpgrade _⟩ hnext
  · exact books_resume hsound.inv.consistent (hsound.assert id _ hcall).knows answer
  · exact (framing_unbooked.dropGuards _ guards).books
  · exact .of_maps (.of_eq rfl) rfl rfl

end SubnetRental.History
