import SubnetRental.Lifecycle.Consistency

/-!
# What suspended calls know

The three kinds of guards protect different things (`Agree`): the guard of a user's request the
stored request of the user and the absence of an agreement, the guard of a subnet's proposal that
the subnet stays not rented, and the guard of an agreement the stored agreement. What a suspended
position knows stays true as long as its own guards are respected (`Knows.of_agree`), and every
segment that suspends has made the checks its new frame relies on (`start_informed`,
`resume_informed`).
-/

set_option autoImplicit false
set_option relaxedAutoImplicit false

namespace SubnetRental.Lifecycle

open Canister Foundation.GuardedCalls Foundation.MachineInteger Foundation.TreeMapTotals Std

/-! ### What guards protect -/

/-- Two states agree on what a lock protects in the canister. -/
def Agree (lock : Lock) (s s' : State) : Prop :=
  match lock.tag with
  | .request =>
    s'.rentalRequests[lock.principal]? = s.rentalRequests[lock.principal]? ∧
      ∀ (i : Principal) a, s'.rentalAgreements[i]? = some a → a.user = lock.principal →
        ∃ b, s.rentalAgreements[i]? = some b ∧ b.user = lock.principal
  | .nns => s.rentalAgreements[lock.principal]? = none →
      s'.rentalAgreements[lock.principal]? = none
  | .agreement => ∀ a, s.rentalAgreements[lock.principal]? = some a →
      s'.rentalAgreements[lock.principal]? = some a
  | .refund | .xrc => True

/-- States with the same agreements agree on every lock whose request did not change. -/
theorem agree_of_other_request {s s' : State}
    (hagreements : s'.rentalAgreements = s.rentalAgreements)
    {principal : Principal} {tag : Tag}
    (hrequest : tag = .request → s'.rentalRequests[principal]? = s.rentalRequests[principal]?) :
    Agree ⟨principal, tag⟩ s s' := by
  cases tag with
  | request => exact ⟨hrequest rfl, fun i a ha huser ↦ ⟨a, hagreements ▸ ha, huser⟩⟩
  | nns => exact fun h ↦ hagreements ▸ h
  | agreement => exact fun a ha ↦ hagreements ▸ ha
  | refund | xrc => trivial

/-- States with the same maps agree on everything. -/
theorem agree_of_maps {s s' : State} (hrequests : s'.rentalRequests = s.rentalRequests)
    (hagreements : s'.rentalAgreements = s.rentalAgreements) (lock : Lock) : Agree lock s s' :=
  agree_of_other_request hagreements fun _ ↦ by rw [hrequests]

/-- Nobody of a user without rental gets one while the user's guard is held. -/
theorem NoRental.of_agree {user : Principal} {s s' : State} (h : NoRental user s)
    (hagree : Agree (requestLock user) s s') : NoRental user s' := by
  obtain ⟨hrequest, hagreements⟩ := hagree
  refine ⟨hrequest.trans h.1, fun i a ha huser ↦ ?_⟩
  obtain ⟨b, hb, hbuser⟩ := hagreements i a ha huser
  exact h.2 i b hb hbuser

/-- What a suspended position knows stays true while its guards are respected. -/
theorem Knows.of_agree {frame : Frame} {s s' : State} (h : Knows frame s)
    (hagree : ∀ lock ∈ frame.guards, Agree lock s s')
    (hconditions : s'.rentalConditions = s.rentalConditions) (hnow : s.now ≤ s'.now) :
    Knows frame s' := by
  cases frame with
  | rentalRequestRate payload conditions time =>
    exact ⟨h.1.of_agree (hagree _ (Finset.mem_singleton_self _)), hconditions ▸ h.2⟩
  | rentalRequestBalance payload neededIcp =>
    exact ⟨h.1.of_agree (hagree _ (Finset.mem_singleton_self _)), h.2⟩
  | rentalRequestConvert payload neededIcp lockAmountIcp stage =>
    exact ⟨h.1.of_agree (hagree _ (Finset.mem_singleton_self _)), h.2⟩
  | createConvert payload r period remainingIcp stage =>
    obtain ⟨hrequest, hfree, hperiod, hremaining⟩ := h
    have huser := hagree (requestLock payload.user) (Finset.mem_insert_self _ _)
    have hsubnet := hagree ⟨payload.subnetId, .nns⟩
      (Finset.mem_insert_of_mem (Finset.mem_singleton_self _))
    exact ⟨huser.1.trans hrequest, hsubnet hfree, hconditions ▸ hperiod, hremaining⟩
  | createAuthorize payload r a =>
    obtain ⟨hrequest, hfree, conditions, convertedCycles, nowNanos, hlookup, hle, ha⟩ := h
    have huser := hagree (requestLock payload.user) (Finset.mem_insert_self _ _)
    have hsubnet := hagree ⟨payload.subnetId, .nns⟩
      (Finset.mem_insert_of_mem (Finset.mem_singleton_self _))
    exact ⟨huser.1.trans hrequest, hsubnet hfree, conditions, convertedCycles, nowNanos,
      hconditions ▸ hlookup, hle.trans hnow, ha⟩
  | topUpBalance subnetId a => exact hagree _ (Finset.mem_singleton_self _) a h
  | topUpConvert subnetId a balance amount stage =>
    exact ⟨hagree _ (Finset.mem_singleton_self _) a h.1, h.2⟩
  | lockingConvert nowNanos r tenPercentIcp rest stage => exact ⟨h.1.trans hnow, h.2⟩
  | todaysPrice | refundBalance | refundTransfer | estimateRate | subnetAdmins => trivial

theorem Knows.of_quiet {frame : Frame} {s s' : State} (h : Knows frame s) (hs : Quiet s s') :
    Knows frame s' :=
  h.of_agree (fun lock _ ↦ agree_of_maps hs.rentalRequests hs.rentalAgreements lock)
    hs.rentalConditions hs.now.ge

/-! ### What suspending segments have checked -/

/-- The suspended positions of an operation. Both kinds of proposals are executed by governance. -/
def Awaits : Operation → Frame → Prop
  | .getTodaysPrice _, .todaysPrice _ _ => True
  | .executeRentalRequestProposal caller payload, .rentalRequestRate payload' _ _ =>
    caller = governanceCanisterId ∧ payload' = payload
  | .executeRentalRequestProposal caller payload, .rentalRequestBalance payload' _ =>
    caller = governanceCanisterId ∧ payload' = payload
  | .executeRentalRequestProposal caller payload, .rentalRequestConvert payload' _ _ _ =>
    caller = governanceCanisterId ∧ payload' = payload
  | .executeCreateRentalAgreement caller payload, .createConvert payload' _ _ _ _ =>
    caller = governanceCanisterId ∧ payload' = payload
  | .executeCreateRentalAgreement caller payload, .createAuthorize payload' _ _ =>
    caller = governanceCanisterId ∧ payload' = payload
  | .refund caller, .refundBalance caller' => caller' = caller
  | .refund caller, .refundTransfer caller' _ => caller' = caller
  | .subnetTopUpEstimate _ icp, .estimateRate _ icp' _ => icp' = icp
  | .topUpSubnet subnetId, .topUpBalance subnetId' _ => subnetId' = subnetId
  | .topUpSubnet subnetId, .topUpConvert subnetId' _ _ _ _ => subnetId' = subnetId
  | .updateSubnetAdmins _ payload, .subnetAdmins payload' => payload' = payload
  | .locking, .lockingConvert _ _ _ _ _ => True
  | _, _ => False

/-- The segment stays with its operation, and its new frame knows what it relies on. -/
def Informed (operation : Operation) : Segment → Prop :=
  Outcome.Suspending fun s frame ↦ Awaits operation frame ∧ Knows frame s

/-- A segment that does not suspend says nothing about a new frame. -/
theorem informed_todaysPriceAfterRate (operation : Operation) (conditions : RentalConditions)
    (guards : Finset Lock) (rate : ℕ × ℕ) (s : State) :
    Informed operation (todaysPriceAfterRate conditions guards rate s) := by
  unfold todaysPriceAfterRate
  dsimp only
  split <;> trivial

theorem informed_getTodaysPrice (id : RentalConditionId) (s : State) :
    Informed (.getTodaysPrice id) (getTodaysPrice id s) := by
  have hprice := informed_todaysPriceAfterRate (.getTodaysPrice id)
  unfold getTodaysPrice
  split
  · trivial
  · dsimp only
    split
    · exact hprice _ _ _ s
    · split
      · trivial
      · split
        · exact hprice _ _ _ _
        · exact ⟨trivial, trivial⟩
        · trivial

theorem noRental_of_checks {user : Principal} {s : State}
    (hrequest : ¬ (s.getRentalRequest user).isSome)
    (hagreement : ¬ s.iterRentalAgreements.any fun entry ↦ entry.2.user = user) :
    NoRental user s := by
  refine ⟨by simpa [State.getRentalRequest] using hrequest, fun i a ha huser ↦ hagreement ?_⟩
  rw [List.any_eq_true]
  exact ⟨(i, a), ExtTreeMap.mem_toList_iff_getElem?_eq_some.mpr ha, by simpa using huser⟩

theorem informed_rentalRequestAfterRate {caller : Principal}
    {payload : SubnetRentalProposalPayload} (conditions : RentalConditions) (rate : ℕ × ℕ)
    {s : State} (hcaller : caller = governanceCanisterId) (hnone : NoRental payload.user s) :
    Informed (.executeRentalRequestProposal caller payload)
      (rentalRequestAfterRate payload conditions rate s) := by
  unfold rentalRequestAfterRate
  split
  · trivial
  · rename_i neededIcp hprice
    refine ⟨⟨hcaller, rfl⟩, hnone, ?_⟩
    unfold calculateSubnetPrice at hprice
    dsimp only at hprice
    split at hprice
    · cases hprice
    · obtain rfl := Except.ok.inj hprice
      exact truncate_lt

theorem informed_executeRentalRequestProposal (caller : Principal)
    (payload : SubnetRentalProposalPayload) (s : State) :
    Informed (.executeRentalRequestProposal caller payload)
      (executeRentalRequestProposal caller payload s) := by
  unfold executeRentalRequestProposal
  split_ifs with hcaller
  · trivial
  · have hcaller := of_not_not hcaller
    split
    · trivial
    · rename_i s' hguard
      split
      · trivial
      · rename_i hrequest
        split
        · trivial
        · rename_i hagreement
          have hnone := noRental_of_checks hrequest hagreement
          split
          · trivial
          · rename_i conditions hconditions
            split
            · trivial
            · split
              · trivial
              · dsimp only
                split
                · exact informed_rentalRequestAfterRate conditions _ hcaller hnone
                · rename_i s'' hrate
                  have hquiet := framed_getExchangeRate framing_quiet hrate
                  refine ⟨⟨hcaller, rfl⟩, ?_, hquiet.rentalConditions ▸ hconditions⟩
                  exact hnone.of_agree
                    (agree_of_maps hquiet.rentalRequests hquiet.rentalAgreements _)
                · trivial

theorem informed_executeCreateRentalAgreement (caller : Principal)
    (payload : CreateRentalAgreementPayload) (s : State) :
    Informed (.executeCreateRentalAgreement caller payload)
      (executeCreateRentalAgreement caller payload s) := by
  unfold executeCreateRentalAgreement
  split_ifs with hcaller
  · trivial
  · have hcaller := of_not_not hcaller
    split
    · trivial
    · split
      · trivial
      · split
        · trivial
        · rename_i rentalRequest hrequest
          split_ifs with hrented
          · trivial
          · split
            · trivial
            · rename_i conditions hconditions
              refine beginCreateConvert_elim trivial fun _ hfee ↦ ?_
              refine ⟨⟨hcaller, rfl⟩, hrequest, ?_, ⟨conditions, hconditions, rfl⟩, rfl, hfee⟩
              simpa [State.getRentalAgreement] using hrented

/-- A creation suspends first for the conversion of the remaining ICP. -/
theorem executeCreateRentalAgreement_converts (caller : Principal)
    (payload : CreateRentalAgreementPayload) (s : State) :
    (executeCreateRentalAgreement caller payload s).Suspending fun _ frame ↦
      ∃ r period icp, frame = .createConvert payload r period icp .transfer := by
  unfold executeCreateRentalAgreement
  split_ifs
  · trivial
  · split
    · trivial
    · split
      · trivial
      · split
        · trivial
        · split_ifs
          · trivial
          · split
            · trivial
            · exact beginCreateConvert_elim trivial fun _ _ ↦ ⟨_, _, _, rfl⟩

theorem informed_refund (caller : Principal) (s : State) :
    Informed (.refund caller) (refund caller s) := by
  unfold refund
  split
  · trivial
  · split
    · trivial
    · exact ⟨rfl, trivial⟩

theorem informed_estimateAfterRate (subnetId : Principal) (rentalAgreement : RentalAgreement)
    (icp : Tokens) (rate : ℕ × ℕ) (s : State) :
    Informed (.subnetTopUpEstimate subnetId icp)
      (estimateAfterRate rentalAgreement icp rate s) :=
  estimateAfterRate_elim trivial trivial fun _ ↦ trivial

theorem informed_subnetTopUpEstimate (subnetId : Principal) (icp : Tokens) (s : State) :
    Informed (.subnetTopUpEstimate subnetId icp) (subnetTopUpEstimate subnetId icp s) := by
  unfold subnetTopUpEstimate
  split
  · trivial
  · dsimp only
    split
    · exact informed_estimateAfterRate subnetId _ icp _ s
    · exact ⟨rfl, trivial⟩
    · trivial

theorem informed_topUpSubnet (subnetId : Principal) (s : State) :
    Informed (.topUpSubnet subnetId) (topUpSubnet subnetId s) := by
  unfold topUpSubnet
  split
  · trivial
  · split
    · trivial
    · rename_i rentalAgreement hstored
      exact ⟨rfl, hstored⟩

theorem informed_updateSubnetAdmins (caller : Principal) (payload : UpdateSubnetAdminsPayload)
    (s : State) : Informed (.updateSubnetAdmins caller payload)
      (updateSubnetAdmins caller payload s) := by
  unfold updateSubnetAdmins
  dsimp only
  split_ifs
  · split
    · trivial
    · split
      · trivial
      · split_ifs
        · trivial
        · exact ⟨rfl, trivial⟩
      · split_ifs
        · trivial
        · exact ⟨rfl, trivial⟩
      · exact ⟨rfl, trivial⟩
  · trivial

/-- `locking` suspends for a request of its snapshot. -/
theorem informed_lockingLoop {nowNanos : ℕ} {requests : List RentalRequest} {s : State}
    (hnow : nowNanos ≤ s.now) (hwell : ∀ r ∈ requests, WellFormedRequest nowNanos r)
    (hnodup : (requests.map RentalRequest.user).Nodup) :
    Informed .locking (lockingLoop nowNanos requests s) := by
  induction requests with
  | nil => trivial
  | cons rentalRequest rest ih =>
    have hrest : ∀ r ∈ rest, WellFormedRequest nowNanos r :=
      fun r hr ↦ hwell r (List.mem_cons_of_mem _ hr)
    have hnodup' : (rest.map RentalRequest.user).Nodup := (List.nodup_cons.mp hnodup).2
    unfold lockingLoop
    split_ifs with hdue
    · split
      · exact ih hrest hnodup'
      · rename_i s' hguard
        have hnow' : nowNanos ≤ s'.now := (framed_callerGuard framing_quiet hguard).now ▸ hnow
        refine beginConvert_elim trivial fun _ ↦ ?_
        exact ⟨trivial, hnow', hwell _ List.mem_cons_self, hdue, rfl, hrest, hnodup⟩
    · exact ih hrest hnodup'

/-- The users of the requests in a consistent state are distinct. -/
theorem nodup_snapshot {s : State} (hs : Consistent s) :
    ((s.iterRentalRequests.map Prod.snd).map RentalRequest.user).Nodup := by
  have huser : (s.iterRentalRequests.map Prod.snd).map RentalRequest.user =
      s.rentalRequests.toList.map Prod.fst := by
    rw [List.map_map]
    refine List.map_congr_left fun ⟨user, r⟩ hmem ↦ ?_
    exact hs.request_user user r (ExtTreeMap.mem_toList_iff_getElem?_eq_some.mp hmem)
  rw [huser]
  exact nodup_keys_toList s.rentalRequests

theorem start_informed (operation : Operation) {s : State} (hs : Consistent s) :
    Informed operation (start operation s) := by
  cases operation with
  | getTodaysPrice id => exact informed_getTodaysPrice id s
  | executeRentalRequestProposal caller payload =>
    exact informed_executeRentalRequestProposal caller payload s
  | executeCreateRentalAgreement caller payload =>
    exact informed_executeCreateRentalAgreement caller payload s
  | refund caller => exact informed_refund caller s
  | subnetTopUpEstimate subnetId icp => exact informed_subnetTopUpEstimate subnetId icp s
  | topUpSubnet subnetId => exact informed_topUpSubnet subnetId s
  | updateSubnetAdmins caller payload => exact informed_updateSubnetAdmins caller payload s
  | locking =>
    refine informed_lockingLoop le_rfl (fun r hr ↦ ?_) (nodup_snapshot hs)
    obtain ⟨⟨user, r⟩, hmem, rfl⟩ := List.mem_map.mp hr
    exact hs.request_wellFormed user r (ExtTreeMap.mem_toList_iff_getElem?_eq_some.mp hmem)
  | burnCycles =>
    change Informed _ (burnCycles s)
    unfold burnCycles
    split <;> trivial

/-- A first segment that suspends is quiet: the burn pass never does. -/
theorem quiet_of_suspend {operation : Operation} {s s' : State} {frame : Frame}
    (h : start operation s = .suspend s' frame) : Quiet s s' := by
  by_cases hburn : operation = .burnCycles
  · subst hburn
    change burnCycles s = _ at h
    unfold burnCycles at h
    split at h <;> cases h
  · have hquiet := start_quiet operation hburn s
    rwa [h] at hquiet

theorem informed_resumeTodaysPrice (operation : Operation) (conditions : RentalConditions)
    (prevMidnight : ℕ) (answer : Answer) (s : State) :
    Informed operation (resumeTodaysPrice conditions prevMidnight answer s) := by
  unfold resumeTodaysPrice
  split
  · trivial
  · trivial
  · exact informed_todaysPriceAfterRate _ _ _ _ _

theorem informed_resumeRentalRequestRate {caller : Principal}
    {payload : SubnetRentalProposalPayload} {conditions : RentalConditions} {time : ℕ}
    (answer : Answer) {s : State} (hcaller : caller = governanceCanisterId)
    (hknows : Knows (.rentalRequestRate payload conditions time) s) :
    Informed (.executeRentalRequestProposal caller payload)
      (resumeRentalRequestRate payload conditions time answer s) := by
  unfold resumeRentalRequestRate
  split
  · trivial
  · trivial
  · rename_i s' rate hrate
    have hquiet := framed_receiveExchangeRate framing_quiet Quiet.cacheRate hrate
    refine informed_rentalRequestAfterRate conditions rate hcaller ?_
    exact hknows.1.of_agree (agree_of_maps hquiet.rentalRequests hquiet.rentalAgreements _)

theorem informed_resumeRentalRequestBalance {caller : Principal}
    {payload : SubnetRentalProposalPayload} {neededIcp : Tokens} (answer : Answer) {s : State}
    (hcaller : caller = governanceCanisterId)
    (hknows : Knows (.rentalRequestBalance payload neededIcp) s) :
    Informed (.executeRentalRequestProposal caller payload)
      (resumeRentalRequestBalance payload neededIcp answer s) := by
  unfold resumeRentalRequestBalance
  split
  · split
    · trivial
    · exact beginConvert_elim trivial fun hfee ↦ ⟨⟨hcaller, rfl⟩, hknows.1, hknows.2, rfl, hfee⟩
  · trivial
  · trivial

theorem informed_resumeRentalRequestConvert {caller : Principal}
    {payload : SubnetRentalProposalPayload} {neededIcp lockAmountIcp : Tokens}
    {stage : ConvertStage} (answer : Answer) {s : State} (hcaller : caller = governanceCanisterId)
    (hknows : Knows (.rentalRequestConvert payload neededIcp lockAmountIcp stage) s) :
    Informed (.executeRentalRequestProposal caller payload)
      (resumeRentalRequestConvert payload neededIcp lockAmountIcp stage answer s) := by
  unfold resumeRentalRequestConvert
  split
  · trivial
  · exact ⟨⟨hcaller, rfl⟩, hknows⟩
  · unfold rentalRequestAfterConvert
    split
    · trivial
    · dsimp only
      split <;> trivial

theorem informed_resumeCreateConvert {caller : Principal}
    {payload : CreateRentalAgreementPayload} {rentalRequest : RentalRequest} {period : ℕ}
    {remainingIcp : Tokens} {stage : ConvertStage} (answer : Answer) {s : State}
    (hcaller : caller = governanceCanisterId)
    (hknows : Knows (.createConvert payload rentalRequest period remainingIcp stage) s) :
    Informed (.executeCreateRentalAgreement caller payload)
      (resumeCreateConvert payload rentalRequest period remainingIcp stage answer s) := by
  unfold resumeCreateConvert
  split
  · trivial
  · exact ⟨⟨hcaller, rfl⟩, hknows⟩
  · rename_i result _
    cases result with
    | error e => trivial
    | ok converted =>
      obtain ⟨hrequest, hfree, ⟨conditions, hconditions, rfl⟩, -⟩ := hknows
      exact ⟨⟨hcaller, rfl⟩, hrequest, hfree, conditions, converted.2, s.now, hconditions, le_rfl,
        rfl⟩

/-- The last segment of a creation does not suspend. -/
theorem resumeCreateAuthorize_suspending (payload : CreateRentalAgreementPayload)
    (rentalAgreement : RentalAgreement) (answer : Answer) (s : State) :
    (resumeCreateAuthorize payload rentalAgreement answer s).Suspending fun _ _ ↦ False := by
  unfold resumeCreateAuthorize
  split
  · trivial
  · split
    · trivial
    · split <;> trivial

theorem informed_resumeRefundBalance {caller : Principal} (answer : Answer) (s : State) :
    Informed (.refund caller) (resumeRefundBalance caller answer s) := by
  unfold resumeRefundBalance
  split
  · split
    · trivial
    · exact ⟨rfl, trivial⟩
  · trivial
  · trivial

theorem informed_resumeRefundTransfer (operation : Operation) (caller : Principal)
    (toBeRefunded : Tokens) (answer : Answer) (s : State) :
    Informed operation (resumeRefundTransfer caller toBeRefunded answer s) := by
  unfold resumeRefundTransfer
  split
  · trivial
  · dsimp only
    split
    · trivial
    · split <;> trivial
  · trivial
  · trivial

theorem informed_resumeEstimate {subnetId : Principal} (rentalAgreement : RentalAgreement)
    (icp : Tokens) (prevMidnight : ℕ) (answer : Answer) (s : State) :
    Informed (.subnetTopUpEstimate subnetId icp)
      (resumeEstimate rentalAgreement icp prevMidnight answer s) := by
  unfold resumeEstimate
  split
  · trivial
  · trivial
  · exact informed_estimateAfterRate _ _ _ _ _

theorem informed_resumeTopUpBalance {subnetId : Principal} {rentalAgreement : RentalAgreement}
    (answer : Answer) {s : State} (hknows : Knows (.topUpBalance subnetId rentalAgreement) s) :
    Informed (.topUpSubnet subnetId) (resumeTopUpBalance subnetId rentalAgreement answer s) := by
  unfold resumeTopUpBalance
  split
  · split
    · trivial
    · rename_i balance hfunds
      exact beginConvert_elim trivial fun hfee ↦ ⟨rfl, hknows, Nat.le_of_not_lt hfunds, rfl, hfee⟩
  · trivial
  · trivial

theorem informed_resumeTopUpConvert {subnetId : Principal} {rentalAgreement : RentalAgreement}
    {userIcpBalance icpAmountForCycles : Tokens} {stage : ConvertStage} (answer : Answer)
    {s : State}
    (hknows : Knows (.topUpConvert subnetId rentalAgreement userIcpBalance icpAmountForCycles
      stage) s) :
    Informed (.topUpSubnet subnetId)
      (resumeTopUpConvert subnetId rentalAgreement userIcpBalance icpAmountForCycles stage answer
        s) := by
  unfold resumeTopUpConvert
  split
  · trivial
  · exact ⟨rfl, hknows⟩
  · unfold topUpAfterConvert
    split
    · trivial
    · dsimp only
      split
      · trivial
      · split
        · trivial
        · split
          · trivial
          · split <;> trivial

theorem informed_resumeSubnetAdmins (operation : Operation) (payload : UpdateSubnetAdminsPayload)
    (answer : Answer) (s : State) : Informed operation (resumeSubnetAdmins payload answer s) := by
  unfold resumeSubnetAdmins
  split <;> trivial

theorem informed_resumeLockingConvert {nowNanos : ℕ} {rentalRequest : RentalRequest}
    {tenPercentIcp : Tokens} {rest : List RentalRequest} {stage : ConvertStage} (answer : Answer)
    {s : State}
    (hknows : Knows (.lockingConvert nowNanos rentalRequest tenPercentIcp rest stage) s) :
    Informed .locking
      (resumeLockingConvert nowNanos rentalRequest tenPercentIcp rest stage answer s) := by
  obtain ⟨hnow, hwell, hdue, rfl, hrest, hnodup⟩ := hknows
  have hnodup' : (rest.map RentalRequest.user).Nodup := (List.nodup_cons.mp hnodup).2
  unfold resumeLockingConvert
  split
  · trivial
  · exact ⟨trivial, hnow, hwell, hdue, rfl, hrest, hnodup⟩
  · unfold lockingAfterConvert
    split
    · exact informed_lockingLoop hnow hrest hnodup'
    · dsimp only
      split
      · trivial
      · split
        · trivial
        · rename_i s' hupdate
          obtain ⟨-, -, hwrites⟩ := updateRentalRequest_eq_some hupdate
          have hnow' : nowNanos ≤ s'.now := hnow.trans hwrites.now.ge
          exact informed_lockingLoop hnow' hrest hnodup'

/-- A segment that follows an answer keeps to its operation, and its new frame knows what it relies
on when the old one did. -/
theorem resume_informed {operation : Operation} {frame : Frame} (answer : Answer) {s : State}
    (hawaits : Awaits operation frame) (hknows : Knows frame s) :
    Informed operation (resume frame answer s) := by
  cases operation with
  | getTodaysPrice id =>
    cases frame <;> try exact hawaits.elim
    case todaysPrice conditions prevMidnight => exact informed_resumeTodaysPrice _ _ _ _ s
  | executeRentalRequestProposal caller payload =>
    cases frame <;> try exact hawaits.elim
    case rentalRequestRate payload' conditions time =>
      obtain ⟨hcaller, rfl⟩ := hawaits
      exact informed_resumeRentalRequestRate answer hcaller hknows
    case rentalRequestBalance payload' neededIcp =>
      obtain ⟨hcaller, rfl⟩ := hawaits
      exact informed_resumeRentalRequestBalance answer hcaller hknows
    case rentalRequestConvert payload' neededIcp lockAmountIcp stage =>
      obtain ⟨hcaller, rfl⟩ := hawaits
      exact informed_resumeRentalRequestConvert answer hcaller hknows
  | executeCreateRentalAgreement caller payload =>
    cases frame <;> try exact hawaits.elim
    case createConvert payload' rentalRequest period remainingIcp stage =>
      obtain ⟨hcaller, rfl⟩ := hawaits
      exact informed_resumeCreateConvert answer hcaller hknows
    case createAuthorize payload' rentalRequest rentalAgreement =>
      exact (resumeCreateAuthorize_suspending _ _ _ s).mono fun _ _ ↦ False.elim
  | refund caller =>
    cases frame <;> try exact hawaits.elim
    case refundBalance caller' =>
      obtain rfl : caller' = caller := hawaits
      exact informed_resumeRefundBalance answer s
    case refundTransfer caller' toBeRefunded => exact informed_resumeRefundTransfer _ _ _ _ s
  | subnetTopUpEstimate subnetId icp =>
    cases frame <;> try exact hawaits.elim
    case estimateRate rentalAgreement icp' prevMidnight =>
      obtain rfl : icp' = icp := hawaits
      exact informed_resumeEstimate _ _ _ _ s
  | topUpSubnet subnetId =>
    cases frame <;> try exact hawaits.elim
    case topUpBalance subnetId' rentalAgreement =>
      obtain rfl : subnetId' = subnetId := hawaits
      exact informed_resumeTopUpBalance answer hknows
    case topUpConvert subnetId' rentalAgreement userIcpBalance icpAmountForCycles stage =>
      obtain rfl : subnetId' = subnetId := hawaits
      exact informed_resumeTopUpConvert answer hknows
  | updateSubnetAdmins caller payload =>
    cases frame <;> try exact hawaits.elim
    case subnetAdmins payload' => exact informed_resumeSubnetAdmins _ _ _ s
  | locking =>
    cases frame <;> try exact hawaits.elim
    case lockingConvert nowNanos rentalRequest tenPercentIcp rest stage =>
      exact informed_resumeLockingConvert answer hknows
  | burnCycles => cases frame <;> exact hawaits.elim

end SubnetRental.Lifecycle
