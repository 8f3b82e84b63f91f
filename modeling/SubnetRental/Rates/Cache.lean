import SubnetRental.Lifecycle.Steps

/-!
# The cache of exchange rates

Three operations read the rate of a midnight from the cache and call the exchange rate canister when
it is not there. Only the segment that receives a rate writes to the cache (`caches_of_resume`,
`sameRates_start`), a call is made only for a midnight without a rate (`start_priced`), and what a
proposal demands is the price at the cached rate of the midnight before its creation (`Priced`).
-/

set_option autoImplicit false
set_option relaxedAutoImplicit false

namespace SubnetRental.Rates

open Canister Lifecycle Foundation.GuardedCalls Foundation.TransitionSystem
open Foundation.TreeMapTotals Std

/-- The midnight for which a suspended call awaits the exchange rate canister. -/
def awaitedMidnight : Frame → Option ℕ
  | .todaysPrice _ prevMidnight => some prevMidnight
  | .rentalRequestRate _ _ exchangeRateQueryTime => some exchangeRateQueryTime
  | .estimateRate _ _ prevMidnight => some prevMidnight
  | _ => none

/-! ### Segments that leave the cache alone -/

/-- The cached rates are the same. -/
def SameRates (s s' : State) : Prop := s'.rates = s.rates

theorem framing_sameRates : Framing SameRates where
  refl _ := rfl
  trans hst htu := htu.trans hst
  dropGuards _ _ := rfl
  insertLock _ _ := rfl
  persistEvent _ _ _ _ := rfl
  calling _ _ := rfl

theorem sameRates_start (operation : Operation) (s : State) :
    (start operation s).Leaving (SameRates s) := by
  refine start_leaving framing_sameRates operation (fun _ hsame ↦ hsame) fun burned s' hpass ↦ ?_
  refine burnPass_induct (J := fun _ t ↦ SameRates s t) ?_ hpass rfl
  intro done t subnetId amounts t' hsame hstep
  cases hstep with
  | skip => exact hsame
  | burn => exact hsame

theorem sameRates_resumeRentalRequestConvert (payload : SubnetRentalProposalPayload)
    (neededIcp lockAmountIcp : Tokens) (stage : ConvertStage) (answer : Answer) (s : State) :
    (resumeRentalRequestConvert payload neededIcp lockAmountIcp stage answer s).Leaving
      (SameRates s) := by
  unfold resumeRentalRequestConvert
  split
  · trivial
  · rfl
  · rename_i result _
    cases result with
    | error e => exact framed_rentalRequestFailed framing_sameRates payload e s
    | ok converted =>
      unfold rentalRequestAfterConvert State.persistRentalRequest
      dsimp only
      split
      · trivial
      · rename_i s' hpersist
        split at hpersist
        · cases hpersist
        · obtain rfl := Option.some.inj hpersist
          rfl

theorem sameRates_resumeCreateAuthorize (payload : CreateRentalAgreementPayload)
    (rentalAgreement : RentalAgreement) (answer : Answer) (s : State) :
    (resumeCreateAuthorize payload rentalAgreement answer s).Leaving (SameRates s) := by
  unfold resumeCreateAuthorize
  split
  · trivial
  · split
    · trivial
    · rename_i s₁ hremove
      split
      · trivial
      · rename_i s₂ hpersist
        unfold State.removeRentalRequest at hremove
        unfold State.persistRentalAgreement at hpersist
        split at hremove
        · cases hremove
        · obtain rfl := Option.some.inj hremove
          split at hpersist
          · cases hpersist
          · obtain rfl := Option.some.inj hpersist
            rfl

theorem sameRates_resumeRefundTransfer (caller : Principal) (toBeRefunded : Tokens)
    (answer : Answer) (s : State) :
    (resumeRefundTransfer caller toBeRefunded answer s).Leaving (SameRates s) := by
  unfold resumeRefundTransfer
  split
  · rfl
  · dsimp only
    split
    · rfl
    · unfold State.removeRentalRequest
      split
      · trivial
      · rename_i s' hremove
        split at hremove
        · cases hremove
        · obtain rfl := Option.some.inj hremove
          rfl
  · trivial
  · trivial

theorem sameRates_resumeTopUpConvert (subnetId : Principal) (rentalAgreement : RentalAgreement)
    (userIcpBalance icpAmountForCycles : Tokens) (stage : ConvertStage) (answer : Answer)
    (s : State) :
    (resumeTopUpConvert subnetId rentalAgreement userIcpBalance icpAmountForCycles stage answer
      s).Leaving (SameRates s) := by
  unfold resumeTopUpConvert
  split
  · trivial
  · rfl
  · rename_i result _
    cases result with
    | error e => exact framed_topUpFailed framing_sameRates _ _ _ s
    | ok converted =>
      unfold topUpAfterConvert
      dsimp only
      split
      · trivial
      · split
        · trivial
        · split
          · trivial
          · split
            · trivial
            · rename_i s' hupdate
              obtain ⟨stored, -, rfl⟩ := updateRentalAgreement_eq_some hupdate
              rfl

theorem sameRates_resumeLockingConvert (nowNanos : ℕ) (rentalRequest : RentalRequest)
    (tenPercentIcp : Tokens) (rest : List RentalRequest) (stage : ConvertStage) (answer : Answer)
    (s : State) :
    (resumeLockingConvert nowNanos rentalRequest tenPercentIcp rest stage answer s).Leaving
      (SameRates s) := by
  unfold resumeLockingConvert
  split
  · trivial
  · rfl
  · rename_i result _
    cases result with
    | error e => exact framed_lockingLoop framing_sameRates nowNanos rest _
    | ok converted =>
      unfold lockingAfterConvert
      dsimp only
      split
      · trivial
      · split
        · trivial
        · rename_i s₁ hupdate
          unfold State.updateRentalRequest at hupdate
          split at hupdate
          · cases hupdate
          · obtain rfl := Option.some.inj hupdate
            exact framed_lockingLoop framing_sameRates nowNanos rest _

/-- A segment that does not receive a rate leaves the cache. -/
theorem sameRates_resume {frame : Frame} (hframe : awaitedMidnight frame = none) (answer : Answer)
    (s : State) : (resume frame answer s).Leaving (SameRates s) := by
  have hR := framing_sameRates
  cases frame with
  | todaysPrice | rentalRequestRate | estimateRate => cases hframe
  | rentalRequestBalance payload neededIcp => exact framed_resumeRentalRequestBalance hR _ _ _ s
  | rentalRequestConvert payload neededIcp lockAmountIcp stage =>
    exact sameRates_resumeRentalRequestConvert _ _ _ _ _ s
  | createConvert payload rentalRequest period remainingIcp stage =>
    exact framed_resumeCreateConvert hR _ _ _ _ _ _ s
  | createAuthorize payload rentalRequest rentalAgreement =>
    exact sameRates_resumeCreateAuthorize _ _ _ s
  | refundBalance caller => exact framed_resumeRefundBalance hR _ _ s
  | refundTransfer caller toBeRefunded => exact sameRates_resumeRefundTransfer _ _ _ s
  | topUpBalance subnetId rentalAgreement => exact framed_resumeTopUpBalance hR _ _ _ s
  | topUpConvert subnetId rentalAgreement userIcpBalance icpAmountForCycles stage =>
    exact sameRates_resumeTopUpConvert _ _ _ _ _ _ s
  | subnetAdmins payload => exact framed_resumeSubnetAdmins hR _ _ s
  | lockingConvert nowNanos rentalRequest tenPercentIcp rest stage =>
    exact sameRates_resumeLockingConvert _ _ _ _ _ _ s

/-! ### Segments that receive a rate -/

theorem receiveExchangeRate_eq_ok {s s' : State} {time : ℕ} {answer : Answer}
    {result : Except ExchangeRateError (ℕ × ℕ)}
    (h : receiveExchangeRate s time answer = .ok (s', result)) :
    (s' = s ∧ (∃ e, answer = .exchangeRate (.error e)) ∧ ∃ e, result = .error e) ∨
      ∃ rate decimals, answer = .exchangeRate (.ok (rate, decimals)) ∧
        s' = s.cacheRate time rate decimals ∧ result = .ok (rate, decimals) := by
  unfold receiveExchangeRate at h
  split at h
  · obtain ⟨rfl, rfl⟩ := Prod.mk.inj (Except.ok.inj h)
    exact .inr ⟨_, _, rfl, rfl, rfl⟩
  · obtain ⟨rfl, rfl⟩ := Prod.mk.inj (Except.ok.inj h)
    exact .inl ⟨rfl, ⟨_, rfl⟩, _, rfl⟩
  · cases h
  · cases h

/-- The cache after a segment: an answered rate is stored for the midnight, and otherwise
nothing. -/
def Caches (midnight : ℕ) (answer : Answer) (s s' : State) : Prop :=
  ((∃ e, answer = .exchangeRate (.error e)) ∧ s'.rates = s.rates) ∨
    ∃ rate decimals, answer = .exchangeRate (.ok (rate, decimals)) ∧
      s'.rates = s.rates.insert midnight (rate, decimals)

theorem caches_of_receive {s t s' : State} {midnight : ℕ} {answer : Answer}
    {result : Except ExchangeRateError (ℕ × ℕ)}
    (h : receiveExchangeRate s midnight answer = .ok (t, result)) (hsame : SameRates t s') :
    Caches midnight answer s s' := by
  obtain ⟨rfl, herror, -⟩ | ⟨rate, decimals, hanswer, rfl, -⟩ := receiveExchangeRate_eq_ok h
  · exact .inl ⟨herror, hsame⟩
  · exact .inr ⟨rate, decimals, hanswer, hsame⟩

theorem caches_of_resume {frame : Frame} {midnight : ℕ}
    (hframe : awaitedMidnight frame = some midnight)
    (answer : Answer) (s : State) : (resume frame answer s).Leaving (Caches midnight answer s) := by
  have hR := framing_sameRates
  cases frame with
  | todaysPrice conditions prevMidnight =>
    obtain rfl := Option.some.inj hframe
    change (resumeTodaysPrice conditions prevMidnight answer s).Leaving _
    unfold resumeTodaysPrice
    split
    · trivial
    · rename_i t e hrate
      exact caches_of_receive hrate rfl
    · rename_i t rate hrate
      exact (framed_todaysPriceAfterRate hR conditions _ rate t).mono fun _ ↦
        caches_of_receive hrate
  | rentalRequestRate payload conditions exchangeRateQueryTime =>
    obtain rfl := Option.some.inj hframe
    change (resumeRentalRequestRate payload conditions exchangeRateQueryTime answer s).Leaving _
    unfold resumeRentalRequestRate
    split
    · trivial
    · rename_i t e hrate
      exact (framed_rentalRequestFailed hR payload _ t).mono fun _ ↦ caches_of_receive hrate
    · rename_i t rate hrate
      exact (framed_rentalRequestAfterRate hR payload conditions rate t).mono fun _ ↦
        caches_of_receive hrate
  | estimateRate rentalAgreement icp prevMidnight =>
    obtain rfl := Option.some.inj hframe
    change (resumeEstimate rentalAgreement icp prevMidnight answer s).Leaving _
    unfold resumeEstimate
    split
    · trivial
    · rename_i t e hrate
      exact caches_of_receive hrate rfl
    · rename_i t rate hrate
      exact (framed_estimateAfterRate hR rentalAgreement icp rate t).mono fun _ ↦
        caches_of_receive hrate
  | rentalRequestBalance | rentalRequestConvert | createConvert | createAuthorize => cases hframe
  | refundBalance | refundTransfer | topUpBalance | topUpConvert => cases hframe
  | subnetAdmins | lockingConvert => cases hframe

/-! ### Prices at cached rates -/

/-- The price of a condition at the rate that is cached for a midnight. -/
def cachedPrice (s : State) (conditionId : RentalConditionId) (midnight : ℕ) : Option Tokens :=
  (s.rates[midnight]?).bind fun rate ↦
    (calculateSubnetPrice (standardConditions conditionId).dailyCostCycles
      (standardConditions conditionId).initialRentalPeriodDays rate.1 rate.2).toOption

/-- The midnight whose rate a proposal is charged at. -/
def chargedMidnight (payload : SubnetRentalProposalPayload) : ℕ :=
  roundToPreviousMidnight payload.proposalCreationTimeSeconds

/-- What a suspended position knows about prices. -/
def Priced : Operation → Frame → State → Prop
  | .getTodaysPrice id, .todaysPrice conditions _, _ => conditions = standardConditions id
  | _, .rentalRequestRate payload conditions exchangeRateQueryTime, _ =>
    conditions = standardConditions payload.rentalConditionId ∧
      exchangeRateQueryTime = chargedMidnight payload
  | _, .rentalRequestBalance payload neededIcp, s =>
    cachedPrice s payload.rentalConditionId (chargedMidnight payload) = some neededIcp
  | _, .rentalRequestConvert payload neededIcp _ _, s =>
    cachedPrice s payload.rentalConditionId (chargedMidnight payload) = some neededIcp
  | _, _, _ => True

theorem getCachedRate_of_calling {s s' : State} {time : ℕ}
    (h : getExchangeRate s time = .calling s') : s.rates[time]? = none := by
  unfold getExchangeRate at h
  split at h
  · cases h
  · assumption

theorem getCachedRate_of_cached {s : State} {time : ℕ} {rate : ℕ × ℕ}
    (h : getExchangeRate s time = .cached rate) : s.rates[time]? = some rate := by
  unfold getExchangeRate at h
  split at h
  · obtain rfl := RateLookup.cached.inj h
    assumption
  · split_ifs at h

/-- What a call knows when it suspends first, and that it calls the exchange rate canister only for
a midnight without a rate. -/
def FirstPriced (s : State) (operation : Operation) : Segment → Prop :=
  Outcome.Suspending fun s' frame ↦ Priced operation frame s' ∧
    ∀ midnight, awaitedMidnight frame = some midnight → s.rates[midnight]? = none

/-- Once the rate is known, a price is returned at once. -/
theorem todaysPriceAfterRate_suspending (conditions : RentalConditions) (guards : Finset Lock)
    (rate : ℕ × ℕ) (s : State) :
    (todaysPriceAfterRate conditions guards rate s).Suspending fun _ _ ↦ False := by
  unfold todaysPriceAfterRate
  dsimp only
  split <;> trivial

/-- Once the rate is known, an estimate is returned at once. -/
theorem estimateAfterRate_suspending (rentalAgreement : RentalAgreement) (icp : Tokens)
    (rate : ℕ × ℕ) (s : State) :
    (estimateAfterRate rentalAgreement icp rate s).Suspending fun _ _ ↦ False :=
  estimateAfterRate_elim trivial trivial fun _ ↦ trivial

theorem firstPriced_getTodaysPrice {s : State} (hs : Consistent s) (id : RentalConditionId) :
    FirstPriced s (.getTodaysPrice id) (getTodaysPrice id s) := by
  unfold getTodaysPrice
  split
  · trivial
  · rename_i conditions hconditions
    obtain rfl : standardConditions id = conditions :=
      Option.some.inj ((hs.conditions id).symm.trans hconditions)
    dsimp only
    split
    · exact (todaysPriceAfterRate_suspending _ _ _ _).mono fun _ _ ↦ False.elim
    · rename_i hnone
      split
      · trivial
      · split
        · exact (todaysPriceAfterRate_suspending _ _ _ _).mono fun _ _ ↦ False.elim
        · refine ⟨rfl, fun midnight hmidnight ↦ ?_⟩
          obtain rfl := Option.some.inj hmidnight
          exact hnone
        · trivial

/-- Once the rate is cached, a proposal goes on with the price at it. -/
theorem rentalRequestAfterRate_suspending {s : State} {payload : SubnetRentalProposalPayload}
    {rate : ℕ × ℕ} (hrate : s.rates[chargedMidnight payload]? = some rate) :
    (rentalRequestAfterRate payload (standardConditions payload.rentalConditionId) rate
      s).Suspending fun s' frame ↦ ∃ neededIcp, frame = .rentalRequestBalance payload neededIcp ∧
        cachedPrice s' payload.rentalConditionId (chargedMidnight payload) = some neededIcp := by
  unfold rentalRequestAfterRate
  split
  · trivial
  · rename_i neededIcp hprice
    refine ⟨neededIcp, rfl, ?_⟩
    unfold cachedPrice
    rw [hrate]
    exact congrArg Except.toOption hprice

/-- A proposal awaits the rate first where it is not cached, or the balance, knowing its price. -/
theorem executeRentalRequestProposal_suspending {s : State} (hs : Consistent s)
    (caller : Principal) (payload : SubnetRentalProposalPayload) :
    (executeRentalRequestProposal caller payload s).Suspending fun s' frame ↦
      (frame = .rentalRequestRate payload (standardConditions payload.rentalConditionId)
          (chargedMidnight payload) ∧ s.rates[chargedMidnight payload]? = none) ∨
        ∃ neededIcp, frame = .rentalRequestBalance payload neededIcp ∧
          cachedPrice s' payload.rentalConditionId (chargedMidnight payload) = some neededIcp := by
  unfold executeRentalRequestProposal
  split
  · trivial
  split
  · trivial
  rename_i t hguard
  obtain ⟨-, rfl⟩ := callerGuard_eq_some hguard
  split
  · trivial
  split
  · trivial
  split
  · trivial
  rename_i conditions hconditions
  obtain rfl : standardConditions payload.rentalConditionId = conditions :=
    Option.some.inj ((hs.conditions payload.rentalConditionId).symm.trans hconditions)
  split
  · trivial
  split
  · trivial
  dsimp only
  split
  · rename_i rate hrate
    exact (rentalRequestAfterRate_suspending (getCachedRate_of_cached hrate)).mono
      fun _ _ ↦ .inr
  · rename_i t hcalling
    have hnone := getCachedRate_of_calling hcalling
    exact .inl ⟨rfl, hnone⟩
  · trivial

theorem firstPriced_executeRentalRequestProposal {s : State} (hs : Consistent s)
    (caller : Principal) (payload : SubnetRentalProposalPayload) :
    FirstPriced s (.executeRentalRequestProposal caller payload)
      (executeRentalRequestProposal caller payload s) := by
  refine (executeRentalRequestProposal_suspending hs caller payload).mono ?_
  rintro s' frame (⟨rfl, hnone⟩ | ⟨neededIcp, rfl, hprice⟩)
  · refine ⟨⟨rfl, rfl⟩, fun midnight hmidnight ↦ ?_⟩
    obtain rfl := Option.some.inj hmidnight
    exact hnone
  · exact ⟨hprice, nofun⟩

theorem firstPriced_subnetTopUpEstimate (s : State) (subnetId : Principal) (icp : Tokens) :
    FirstPriced s (.subnetTopUpEstimate subnetId icp) (subnetTopUpEstimate subnetId icp s) := by
  unfold subnetTopUpEstimate
  split
  · trivial
  · dsimp only
    split
    · exact (estimateAfterRate_suspending _ _ _ _).mono fun _ _ ↦ False.elim
    · rename_i t hcalling
      refine ⟨trivial, fun midnight hmidnight ↦ ?_⟩
      obtain rfl := Option.some.inj hmidnight
      exact getCachedRate_of_calling hcalling
    · trivial

theorem start_priced {s : State} (hs : Consistent s) (operation : Operation) :
    FirstPriced s operation (start operation s) := by
  have hinformed := start_informed operation hs
  have hother (hawaits : ∀ frame, Awaits operation frame → awaitedMidnight frame = none)
      (hpriced : ∀ frame t, Awaits operation frame → Priced operation frame t) :
      FirstPriced s operation (start operation s) := by
    refine Outcome.Suspending.mono hinformed fun t frame h ↦ ⟨hpriced frame t h.1, ?_⟩
    intro midnight hmidnight
    exact absurd ((hawaits frame h.1).symm.trans hmidnight) nofun
  cases operation with
  | getTodaysPrice id => exact firstPriced_getTodaysPrice hs id
  | executeRentalRequestProposal caller payload =>
    exact firstPriced_executeRentalRequestProposal hs caller payload
  | subnetTopUpEstimate subnetId icp => exact firstPriced_subnetTopUpEstimate s subnetId icp
  | executeCreateRentalAgreement | refund | topUpSubnet | updateSubnetAdmins | locking
  | burnCycles =>
    refine hother (fun frame h ↦ ?_) fun frame t h ↦ ?_
    · cases frame <;> first | rfl | exact h.elim
    · cases frame <;> trivial

/-- A resumed segment calls the exchange rate canister for no midnight, and it knows the price it
goes on with. -/
theorem resume_priced {operation : Operation} {frame : Frame} {s : State}
    (hawaits : Awaits operation frame) (hknows : Knows frame s) (hpriced : Priced operation frame s)
    (answer : Answer) : (resume frame answer s).Suspending fun s' frame' ↦
      Priced operation frame' s' ∧ awaitedMidnight frame' = none := by
  have hinformed := resume_informed answer hawaits hknows
  have hother (hawaits' : ∀ frame, Awaits operation frame → awaitedMidnight frame = none)
      (hpriced' : ∀ frame t, Awaits operation frame → Priced operation frame t) :
      (resume frame answer s).Suspending fun s' frame' ↦
        Priced operation frame' s' ∧ awaitedMidnight frame' = none :=
    Outcome.Suspending.mono hinformed fun t frame h ↦ ⟨hpriced' frame t h.1, hawaits' frame h.1⟩
  cases operation with
  | getTodaysPrice id =>
    cases frame <;> try exact hawaits.elim
    case todaysPrice conditions prevMidnight =>
      change (resumeTodaysPrice conditions prevMidnight answer s).Suspending _
      unfold resumeTodaysPrice
      split
      · trivial
      · trivial
      · exact (todaysPriceAfterRate_suspending _ _ _ _).mono fun _ _ ↦ False.elim
  | subnetTopUpEstimate subnetId icp =>
    cases frame <;> try exact hawaits.elim
    case estimateRate rentalAgreement icp prevMidnight =>
      change (resumeEstimate rentalAgreement icp prevMidnight answer s).Suspending _
      unfold resumeEstimate
      split
      · trivial
      · trivial
      · exact (estimateAfterRate_suspending _ _ _ _).mono fun _ _ ↦ False.elim
  | executeRentalRequestProposal caller payload =>
    cases frame <;> try exact hawaits.elim
    case rentalRequestRate payload' conditions exchangeRateQueryTime =>
      obtain ⟨rfl, rfl⟩ := hpriced
      change (resumeRentalRequestRate payload' _ _ answer s).Suspending _
      unfold resumeRentalRequestRate
      split
      · trivial
      · trivial
      · rename_i t rate hrate
        obtain ⟨-, -, e, hresult⟩ | ⟨scaled, decimals, -, rfl, hresult⟩ :=
          receiveExchangeRate_eq_ok hrate
        · cases hresult
        · obtain rfl := Except.ok.inj hresult
          refine (rentalRequestAfterRate_suspending ExtTreeMap.getElem?_insert_self).mono ?_
          rintro s' frame ⟨neededIcp, rfl, hprice⟩
          exact ⟨hprice, rfl⟩
    case rentalRequestBalance payload' neededIcp =>
      change (resumeRentalRequestBalance payload' neededIcp answer s).Suspending _
      unfold resumeRentalRequestBalance
      split
      · split
        · trivial
        · exact beginConvert_elim trivial fun _ ↦ ⟨hpriced, rfl⟩
      · trivial
      · trivial
    case rentalRequestConvert payload' neededIcp lockAmountIcp stage =>
      change
        (resumeRentalRequestConvert payload' neededIcp lockAmountIcp stage answer s).Suspending _
      unfold resumeRentalRequestConvert
      split
      · trivial
      · exact ⟨hpriced, rfl⟩
      · rename_i result _
        cases result with
        | error e => trivial
        | ok converted =>
          unfold rentalRequestAfterConvert
          dsimp only
          split <;> trivial
  | executeCreateRentalAgreement | refund | topUpSubnet | updateSubnetAdmins | locking
  | burnCycles =>
    refine hother (fun frame h ↦ ?_) fun frame t h ↦ ?_
    · cases frame <;> first | rfl | exact h.elim
    · cases frame <;> trivial

end SubnetRental.Rates
