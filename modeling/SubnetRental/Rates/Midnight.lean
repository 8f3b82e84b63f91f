import SubnetRental.Rates.Cache
import SubnetRental.Rates.Estimate

/-!
# One rate for a midnight

`get_todays_price` takes a lock before it calls the exchange rate canister, but the other two
operations that fill the cache do not. As long as no call for a midnight starts while another one
for it is in flight (`oneCallEach`), the cached rates are never overwritten and every price of a day
is computed from one rate (`one_rate`). In `rate_overwritten` a proposal calls the canister while
`get_todays_price` does, and is charged another price than the one returned.
-/

set_option autoImplicit false
set_option relaxedAutoImplicit false

namespace SubnetRental.Rates

open Canister Lifecycle Foundation.GuardedCalls Foundation.MachineInteger
open Foundation.TransitionSystem Foundation.TreeMapTotals Std

/-! ### Calls of the exchange rate canister -/

/-- The midnight for which a step calls the exchange rate canister. -/
def callsFor (c : Configuration) : Label → Option ℕ
  | .start operation =>
    match start operation c.state.canister with
    | .suspend _ frame => awaitedMidnight frame
    | _ => none
  | _ => none

/-- The midnight for which a step answers a call with a rate. -/
def answersFor (c : Configuration) : Label → Option ℕ
  | .serve id (.exchangeRate (.ok _)) =>
    (c.calls[id]?).bind fun call ↦ awaitedMidnight call.frame
  | _ => none

/-- No call for a midnight starts while another one for it is in flight. -/
def oneCallEach (c : Configuration) (a : Label) : Bool :=
  match callsFor c a with
  | some midnight =>
    c.calls.toList.all fun entry ↦ awaitedMidnight entry.2.frame ≠ some midnight
  | none => true

/-- A position at which a rate with these decimals is not the cause of a trap: an estimate subtracts
two fees from an amount that pays one, and it divides by what is left of the power of ten. -/
def usable (decimals : ℕ) : Frame → Bool
  | .estimateRate _ icp _ => icp < defaultFee ||
    (2 * defaultFee.e8s ≤ icp.e8s && wrappingPow 128 10 decimals / 10_000 ≠ 0)
  | _ => true

/-- No estimate gets a rate on which it traps. -/
def estimable (c : Configuration) : Label → Bool
  | .serve id (.exchangeRate (.ok (_, decimals))) =>
    match c.calls[id]? with
    | some call => usable decimals call.frame
    | none => true
  | _ => true

/-- A call of `get_todays_price` goes on before the next midnight. -/
def onItsDay (c : Configuration) : Label → Bool
  | .resume id =>
    match c.calls[id]? with
    | some ⟨_, .todaysPrice _ prevMidnight, _⟩ =>
      roundToPreviousMidnight (c.state.canister.now / billion) = prevMidnight
    | _ => true
  | _ => true

def undisturbedRates (c : Configuration) (a : Label) : Bool :=
  oneCallEach c a && estimable c a && onItsDay c a

/-! ### Steps -/

/-- A step leaves the cache, or it resumes a call and stores the rate that the call was answered. -/
theorem rates_of_next {cycles : ℕ} {c c' : Configuration} {a : Label}
    (hnext : (system cycles).next c a = some c') :
    SameRates c.state.canister c'.state.canister ∨
      ∃ id operation frame midnight rate decimals, a = .resume id ∧
        c.calls[(id : ℕ)]? =
          some ⟨operation, frame, some (.exchangeRate (.ok (rate, decimals)))⟩ ∧
        awaitedMidnight frame = some midnight ∧
        c'.state.canister.rates = c.state.canister.rates.insert midnight (rate, decimals) := by
  have hstep := canisterStep_of_next hnext
  generalize c'.state.canister = s' at hstep ⊢
  cases hstep with
  | refused | answered | dropped | passed | paid | received | reserved => exact .inl rfl
  | started operation s' hleaves => exact .inl (hleaves _ (sameRates_start operation _))
  | resumed id operation frame answer s' hcall hleaves =>
    cases hframe : awaitedMidnight frame with
    | none => exact .inl (hleaves _ (sameRates_resume hframe answer c.state.canister))
    | some midnight =>
      obtain ⟨-, hsame⟩ | ⟨rate, decimals, rfl, hinsert⟩ :=
        hleaves _ (caches_of_resume hframe answer c.state.canister)
      · exact .inl hsame
      · exact .inr ⟨id, operation, frame, midnight, rate, decimals, rfl, hcall, hframe, hinsert⟩
  | upgraded hidle =>
    obtain ⟨-, heq⟩ | ⟨a, -, -, heq⟩ := postUpgrade_cases c.state.canister
    · rw [heq]
      exact .inl rfl
    · rw [heq]
      exact .inl rfl

/-- A call that awaits a rate after a step awaited it before, and is not the one that the step
resumed, or the step started it. -/
theorem awaiting_of_next {cycles : ℕ} {c c' : Configuration} {a : Label}
    (hc : (system cycles).Reachable c)
    (hpriced : ∀ (id : ℕ) call, c.calls[id]? = some call →
      Priced call.operation call.frame c.state.canister)
    (hnext : (system cycles).next c a = some c') {id : ℕ} {call : Call Operation Frame Answer}
    {midnight : ℕ} (hcall : c'.calls[id]? = some call)
    (hawaited : awaitedMidnight call.frame = some midnight) :
    (∃ old, c.calls[id]? = some old ∧ awaitedMidnight old.frame = some midnight ∧
        a ≠ .resume id) ∨
      (id = c.nextCall ∧ callsFor c a = some midnight ∧
        c.state.canister.rates[midnight]? = none) := by
  have hsound := sound_of_reachable hc
  have hstep := Service.step_of_next hnext
  obtain ⟨old, hold, -⟩ | ⟨hid, rfl, hstart⟩ := hstep.operation_of_some hcall
  · left
    by_cases htarget : a.target = some id
    · cases hstep.origin hcall with
      | untouched call hne hold' => exact absurd htarget hne
      | started operation frame ha h =>
        subst ha
        cases htarget
      | served operation frame answer ha hold' h =>
        subst ha
        exact ⟨_, hold', hawaited, nofun⟩
      | resumed operation frame answer frame' ha hold' h =>
        obtain ⟨s', hsegment, -⟩ := Outcome.mapState_eq_suspend h
        have hknown := hsound.assert id _ hold'
        have hresumed := resume_priced hknown.awaits hknown.knows (hpriced id _ hold') answer
        rw [hsegment] at hresumed
        exact absurd (hresumed.2.symm.trans hawaited) nofun
    · have hsame := hstep.calls_of_target_ne (hsound.fresh id old hold) htarget
      refine ⟨call, hsame.symm.trans hcall, hawaited, ?_⟩
      rintro rfl
      exact htarget rfl
  · right
    obtain ⟨s', hsegment, -⟩ := Outcome.mapState_eq_suspend hstart
    have hfirst := start_priced hsound.inv.consistent call.operation
    rw [hsegment] at hfirst
    refine ⟨hid, ?_, hfirst.2 midnight hawaited⟩
    simp only [callsFor, hsegment]
    exact hawaited

/-! ### Calls one at a time -/

/-- At most one call is in flight for a midnight, and none for one whose rate is cached. -/
structure OneCall (c : Configuration) : Prop where
  single : ∀ (i j : ℕ) callI callJ midnight, c.calls[i]? = some callI → c.calls[j]? = some callJ →
    awaitedMidnight callI.frame = some midnight → awaitedMidnight callJ.frame = some midnight →
      i = j
  unset : ∀ (id : ℕ) call midnight, c.calls[id]? = some call →
    awaitedMidnight call.frame = some midnight → c.state.canister.rates[midnight]? = none
  priced : ∀ (id : ℕ) call, c.calls[id]? = some call →
    Priced call.operation call.frame c.state.canister

section Step

variable {cycles : ℕ} {c c' : Configuration} {a : Label}

/-- A cached rate stays. -/
theorem OneCall.kept (h : OneCall c) (hnext : (system cycles).next c a = some c') {midnight : ℕ}
    {rate : ℕ × ℕ} (hrate : c.state.canister.rates[midnight]? = some rate) :
    c'.state.canister.rates[midnight]? = some rate := by
  obtain hsame | ⟨id, operation, frame, m, scaled, decimals, -, hcall, hm, hinsert⟩ :=
    rates_of_next hnext
  · rw [hsame, hrate]
  · have hne : m ≠ midnight := by
      rintro rfl
      exact absurd ((h.unset id _ m hcall hm).symm.trans hrate) nofun
    rw [hinsert, getElem?_insert_ite, if_neg hne, hrate]

theorem cachedPrice_of_kept {s s' : State}
    (h : ∀ (midnight : ℕ) rate, s.rates[midnight]? = some rate → s'.rates[midnight]? = some rate)
    {conditionId : RentalConditionId} {midnight : ℕ} {tokens : Tokens}
    (hprice : cachedPrice s conditionId midnight = some tokens) :
    cachedPrice s' conditionId midnight = some tokens := by
  unfold cachedPrice at hprice ⊢
  obtain ⟨rate, hrate, htokens⟩ := Option.bind_eq_some_iff.mp hprice
  rw [h midnight rate hrate]
  exact htokens

theorem Priced.of_kept {s s' : State} {operation : Operation} {frame : Frame}
    (hpriced : Priced operation frame s)
    (h : ∀ (midnight : ℕ) rate, s.rates[midnight]? = some rate →
      s'.rates[midnight]? = some rate) : Priced operation frame s' := by
  cases frame with
  | todaysPrice => cases operation <;> exact hpriced
  | rentalRequestRate => cases operation <;> exact hpriced
  | rentalRequestBalance => cases operation <;> exact cachedPrice_of_kept h hpriced
  | rentalRequestConvert => cases operation <;> exact cachedPrice_of_kept h hpriced
  | createConvert | createAuthorize | refundBalance | refundTransfer => cases operation <;> trivial
  | estimateRate | topUpBalance | topUpConvert => cases operation <;> trivial
  | subnetAdmins | lockingConvert => cases operation <;> trivial

theorem OneCall.priced_step (hc : (system cycles).Reachable c) (h : OneCall c)
    (hnext : (system cycles).next c a = some c') (id : ℕ) (call : Call Operation Frame Answer)
    (hcall : c'.calls[id]? = some call) :
    Priced call.operation call.frame c'.state.canister := by
  have hsound := sound_of_reachable hc
  have hkept (midnight : ℕ) (rate : ℕ × ℕ)
      (hrate : c.state.canister.rates[midnight]? = some rate) := h.kept hnext hrate
  cases (Service.step_of_next hnext).origin hcall with
  | untouched call htarget hold => exact (h.priced id call hold).of_kept hkept
  | started operation frame ha hstart =>
    obtain ⟨s', hsegment, hstate⟩ := Outcome.mapState_eq_suspend hstart
    have hfirst := start_priced hsound.inv.consistent operation
    rw [hsegment] at hfirst
    rw [hstate]
    exact hfirst.1
  | served operation frame answer ha hold hserved => exact (h.priced id _ hold).of_kept hkept
  | resumed operation frame answer frame' ha hold hresume =>
    obtain ⟨s', hsegment, hstate⟩ := Outcome.mapState_eq_suspend hresume
    have hknown := hsound.assert id _ hold
    have hresumed := resume_priced hknown.awaits hknown.knows (h.priced id _ hold) answer
    rw [hsegment] at hresumed
    rw [hstate]
    exact hresumed.1

theorem OneCall.step (hc : (system cycles).Reachable c) (h : OneCall c) (hone : oneCallEach c a)
    (hnext : (system cycles).next c a = some c') : OneCall c' := by
  have hnotCalled {id : ℕ} {call : Call Operation Frame Answer} {midnight : ℕ}
      (hcalls : callsFor c a = some midnight) (hold : c.calls[id]? = some call) :
      awaitedMidnight call.frame ≠ some midnight := by
    unfold oneCallEach at hone
    rw [hcalls] at hone
    exact of_decide_eq_true (List.all_eq_true.mp hone (id, call)
      (ExtTreeMap.mem_toList_iff_getElem?_eq_some.mpr hold))
  refine ⟨?_, ?_, h.priced_step hc hnext⟩
  · intro i j callI callJ midnight hi hj hawaitedI hawaitedJ
    obtain ⟨oldI, hoI, hmI, -⟩ | ⟨rfl, hcalls, -⟩ := awaiting_of_next hc h.priced hnext hi hawaitedI
    · obtain ⟨oldJ, hoJ, hmJ, -⟩ | ⟨rfl, hcalls, -⟩ :=
        awaiting_of_next hc h.priced hnext hj hawaitedJ
      · exact h.single i j oldI oldJ midnight hoI hoJ hmI hmJ
      · exact absurd hmI (hnotCalled hcalls hoI)
    · obtain ⟨oldJ, hoJ, hmJ, -⟩ | ⟨rfl, -, -⟩ := awaiting_of_next hc h.priced hnext hj hawaitedJ
      · exact absurd hmJ (hnotCalled hcalls hoJ)
      · rfl
  · intro id call midnight hcall hawaited
    have hbefore : c.state.canister.rates[midnight]? = none := by
      obtain ⟨old, hold, hm, -⟩ | ⟨-, -, hnone⟩ :=
        awaiting_of_next hc h.priced hnext hcall hawaited
      · exact h.unset id old midnight hold hm
      · exact hnone
    obtain hsame | ⟨other, operation, frame, m, rate, decimals, rfl, hresumed, hm, hinsert⟩ :=
      rates_of_next hnext
    · rw [hsame, hbefore]
    · have hne : m ≠ midnight := by
        -- the resumed call is the only one for its midnight, and it awaits nothing any more
        rintro rfl
        obtain ⟨old, hold, hmold, hnot⟩ | ⟨-, hcalls, -⟩ :=
          awaiting_of_next hc h.priced hnext hcall hawaited
        · exact hnot (congrArg Action.resume
            (h.single other id _ old m hresumed hold hm hmold))
        · exact hnotCalled hcalls hresumed hm
      rw [hinsert, getElem?_insert_ite, if_neg hne, hbefore]

end Step

theorem oneCall_of_reachable {cycles : ℕ} {allowed : Configuration → Label → Prop}
    (hallowed : ∀ c a, allowed c a → oneCallEach c a) {c : Configuration}
    (h : (system cycles).ReachableWithin allowed c) : OneCall c := by
  refine h.induct (J := OneCall) ?_ ?_
  · rintro start ⟨-, hcalls, -, -⟩
    have hnone (id : ℕ) : start.calls[id]? = none := by
      rw [hcalls]
      exact ExtTreeMap.getElem?_empty
    refine ⟨?_, ?_, ?_⟩
    · intro i j callI callJ midnight hi
      exact absurd ((hnone i).symm.trans hi) nofun
    · intro id call midnight hcall
      exact absurd ((hnone id).symm.trans hcall) nofun
    · intro id call hcall
      exact absurd ((hnone id).symm.trans hcall) nofun
  · intro u v a hu hJ ha hnext
    exact hJ.step hu.reachable (hallowed u a ha) hnext

/-! ### Answers -/

/-- The rate of a midnight is cached, or a suspended call has it. -/
def Settled (midnight : ℕ) (c : Configuration) : Prop :=
  (c.state.canister.rates[midnight]?).isSome ∨
    ∃ (id : ℕ) (operation : Operation) (frame : Frame) (rate decimals : ℕ),
      c.calls[id]? = some ⟨operation, frame, some (.exchangeRate (.ok (rate, decimals)))⟩ ∧
        awaitedMidnight frame = some midnight ∧ usable decimals frame

/-- A call does not trap on a usable rate. -/
theorem resume_usable {frame : Frame} {midnight decimals : ℕ} {s : State}
    (hframe : awaitedMidnight frame = some midnight) (husable : usable decimals frame)
    (hs : Consistent s) (rate : ℕ) :
    (resume frame (.exchangeRate (.ok (rate, decimals))) s).Trapping fun _ ↦ False := by
  cases frame with
  | todaysPrice conditions prevMidnight =>
    change (todaysPriceAfterRate conditions {exchangeRateLock} (rate, decimals) _).Trapping _
    unfold todaysPriceAfterRate
    dsimp only
    split <;> trivial
  | rentalRequestRate payload conditions exchangeRateQueryTime =>
    change (rentalRequestAfterRate payload conditions (rate, decimals) _).Trapping _
    unfold rentalRequestAfterRate
    split <;> trivial
  | estimateRate rentalAgreement icp prevMidnight =>
    change (estimateAfterRate rentalAgreement icp (rate, decimals)
      (s.cacheRate prevMidnight rate decimals)).Trapping _
    by_cases hfee : icp < defaultFee
    · unfold estimateAfterRate
      rw [if_pos hfee]
      trivial
    · have hsame : wrappingPow 128 10 decimals / 10_000 = estimateDivisor decimals := rfl
      obtain ⟨hfees, hdivisor⟩ : 2 * defaultFee.e8s ≤ icp.e8s ∧ estimateDivisor decimals ≠ 0 := by
        simpa only [usable, hfee, hsame, decide_false, Bool.false_or, Bool.and_eq_true,
          decide_eq_true_eq] using husable
      have hconditions := hs.conditions rentalAgreement.rentalConditionId
      rw [estimateAfterRate_eq (s := s.cacheRate prevMidnight rate decimals)
        (Nat.le_of_not_lt hfee) hconditions (dailyCostCycles_pos _).ne', estimateResult,
        if_neg (Nat.not_lt_of_le hfees), if_neg hdivisor]
      trivial
  | rentalRequestBalance | rentalRequestConvert | createConvert | createAuthorize => cases hframe
  | refundBalance | refundTransfer | topUpBalance | topUpConvert => cases hframe
  | subnetAdmins | lockingConvert => cases hframe

section Answers

variable {cycles : ℕ} {c c' : Configuration} {a : Label} {midnight : ℕ}

/-- A step that answers with a rate settles the midnight. -/
theorem settled_of_answered (hestimable : estimable c a)
    (hnext : (system cycles).next c a = some c') (hanswers : answersFor c a = some midnight) :
    Settled midnight c' := by
  cases Service.step_of_next hnext with
  | serve id operation frame answer hcall =>
    cases answer with
    | exchangeRate result =>
      cases result with
      | error e => cases hanswers
      | ok rate =>
        obtain ⟨rate, decimals⟩ := rate
        simp only [answersFor, hcall, Option.bind_some] at hanswers
        simp only [estimable, hcall] at hestimable
        exact .inr ⟨id, operation, frame, rate, decimals, ExtTreeMap.getElem?_insert_self, hanswers,
          hestimable⟩
    | accountBalance | transfer | notifyTopUp | authorized => cases hanswers
    | subnetAdminsUpdated | callFailed => cases hanswers
  | startTrap | startSuspend | startReply | resumeTrap | resumeSuspend => cases hanswers
  | resumeReply | environment => cases hanswers

/-- A settled midnight stays settled. -/
theorem Settled.step (hc : (system cycles).Reachable c) (hone : OneCall c)
    (h : Settled midnight c) (hnext : (system cycles).next c a = some c') :
    Settled midnight c' := by
  have hsound := sound_of_reachable hc
  rcases h with hcached | ⟨id, operation, frame, rate, decimals, hcall, hframe, husable⟩
  · obtain ⟨rate, hrate⟩ := Option.isSome_iff_exists.mp hcached
    exact .inl (Option.isSome_iff_exists.mpr ⟨rate, hone.kept hnext hrate⟩)
  · by_cases htarget : a.target = some id
    · left
      have hstep := canisterStep_of_next hnext
      generalize c'.state.canister = s' at hstep ⊢
      cases hstep with
      | refused | started | passed | paid | received | reserved | upgraded => cases htarget
      | answered other operation' frame' answer hserved =>
        obtain rfl := Option.some.inj htarget
        exact absurd (hserved.symm.trans hcall) (by simp)
      | dropped other operation' frame' answer reason hresumed htrap =>
        obtain rfl := Option.some.inj htarget
        obtain ⟨rfl, rfl, hanswer⟩ := Call.mk.inj (Option.some.inj (hresumed.symm.trans hcall))
        obtain rfl := Option.some.inj hanswer
        have hsegment := resume_usable hframe husable hsound.inv.consistent rate
        rw [htrap] at hsegment
        exact hsegment.elim
      | resumed other operation' frame' answer s' hresumed hleaves =>
        obtain rfl := Option.some.inj htarget
        obtain ⟨rfl, rfl, hanswer⟩ := Call.mk.inj (Option.some.inj (hresumed.symm.trans hcall))
        obtain rfl := Option.some.inj hanswer
        obtain ⟨⟨e, he⟩, -⟩ | ⟨scaled, places, -, hinsert⟩ :=
          hleaves _ (caches_of_resume hframe (.exchangeRate (.ok (rate, decimals))) _)
        · cases he
        · rw [hinsert, ExtTreeMap.getElem?_insert_self]
          rfl
    · have hsame :=
        (Service.step_of_next hnext).calls_of_target_ne (hsound.fresh id _ hcall) htarget
      exact .inr ⟨id, operation, frame, rate, decimals, hsame.trans hcall, hframe, husable⟩

/-- Nothing is answered for a settled midnight. -/
theorem Settled.not_answered (hone : OneCall c) (h : Settled midnight c)
    (hnext : (system cycles).next c a = some c') : answersFor c a ≠ some midnight := by
  intro hanswers
  cases Service.step_of_next hnext with
  | serve id operation frame answer hcall =>
    have hawaited : awaitedMidnight frame = some midnight := by
      cases answer with
      | exchangeRate result =>
        cases result with
        | error e => cases hanswers
        | ok rate => simpa only [answersFor, hcall, Option.bind_some] using hanswers
      | accountBalance | transfer | notifyTopUp | authorized => cases hanswers
      | subnetAdminsUpdated | callFailed => cases hanswers
    rcases h with hcached | ⟨other, operation', frame', rate, decimals, hother, hframe, -⟩
    · rw [hone.unset id _ midnight hcall hawaited] at hcached
      cases hcached
    · obtain rfl := hone.single id other _ _ midnight hcall hother hawaited hframe
      exact absurd (hcall.symm.trans hother) (by simp)
  | startTrap | startSuspend | startReply | resumeTrap | resumeSuspend => cases hanswers
  | resumeReply | environment => cases hanswers

end Answers

/-! ### Quotes and charges -/

/-- The step ends a call of `get_todays_price` that returns a price. -/
def Quotes (c c' : Configuration) (conditionId : RentalConditionId) (tokens : Tokens) : Prop :=
  c'.trace = c.trace ++ [(.getTodaysPrice conditionId, .ok (.price (.ok tokens)))]

/-- A suspended proposal demands an amount. -/
def Demands (c : Configuration) (payload : SubnetRentalProposalPayload) (neededIcp : Tokens) :
    Prop :=
  ∃ (id : ℕ) (call : Call Operation Frame Answer), c.calls[id]? = some call ∧
    (call.frame = .rentalRequestBalance payload neededIcp ∨
      ∃ lockAmountIcp stage,
        call.frame = .rentalRequestConvert payload neededIcp lockAmountIcp stage)

/-- The step resumes a proposal, which opens a request. -/
def Opens (c : Configuration) (a : Label) (c' : Configuration)
    (payload : SubnetRentalProposalPayload) (r : RentalRequest) : Prop :=
  ∃ (id : ℕ) (caller : Principal) (call : Call Operation Frame Answer), a = .resume id ∧
    c.calls[id]? = some call ∧ call.operation = .executeRentalRequestProposal caller payload ∧
    c.state.canister.rentalRequests[payload.user]? = none ∧
    c'.state.canister.rentalRequests[payload.user]? = some r

/-- A returned price is the one at the rate it is computed from. -/
theorem price_of_todaysPriceAfterRate {conditionId : RentalConditionId} {guards : Finset Lock}
    {rate : ℕ × ℕ} {midnight : ℕ} {s s' : State} {tokens : Tokens}
    (hrate : s.rates[midnight]? = some rate)
    (h : todaysPriceAfterRate (standardConditions conditionId) guards rate s =
      .reply s' (.price (.ok tokens))) : cachedPrice s' conditionId midnight = some tokens := by
  unfold todaysPriceAfterRate at h
  dsimp only at h
  split at h
  · rename_i price hprice
    obtain ⟨rfl, hresponse⟩ := Outcome.reply.inj h
    obtain rfl := Except.ok.inj (Response.price.inj hresponse)
    unfold cachedPrice
    rw [State.dropGuards_rates, hrate]
    exact congrArg Except.toOption hprice
  · obtain ⟨-, hresponse⟩ := Outcome.reply.inj h
    cases hresponse

theorem price_of_getTodaysPrice {conditionId : RentalConditionId} {s s' : State} {tokens : Tokens}
    (hs : Consistent s) (h : getTodaysPrice conditionId s = .reply s' (.price (.ok tokens))) :
    cachedPrice s' conditionId (roundToPreviousMidnight (s.now / billion)) = some tokens := by
  unfold getTodaysPrice at h
  split at h
  · cases h
  · rename_i conditions hconditions
    obtain rfl : standardConditions conditionId = conditions :=
      Option.some.inj ((hs.conditions conditionId).symm.trans hconditions)
    dsimp only at h
    split at h
    · rename_i rate hrate
      exact price_of_todaysPriceAfterRate hrate h
    · split at h
      · cases h
      · rename_i t hguard
        obtain ⟨-, rfl⟩ := callerGuard_eq_some hguard
        split at h
        · rename_i rate hrate
          have hcached := getCachedRate_of_cached hrate
          exact price_of_todaysPriceAfterRate hcached h
        · cases h
        · cases h

theorem price_of_resumeTodaysPrice {conditionId : RentalConditionId} {midnight : ℕ}
    {answer : Answer} {s s' : State} {tokens : Tokens}
    (h : resumeTodaysPrice (standardConditions conditionId) midnight answer s =
      .reply s' (.price (.ok tokens))) : cachedPrice s' conditionId midnight = some tokens := by
  unfold resumeTodaysPrice at h
  split at h
  · cases h
  · cases h
  · rename_i t rate hrate
    obtain ⟨-, -, e, hresult⟩ | ⟨scaled, decimals, -, rfl, hresult⟩ :=
      receiveExchangeRate_eq_ok hrate
    · cases hresult
    · obtain rfl := Except.ok.inj hresult
      exact price_of_todaysPriceAfterRate ExtTreeMap.getElem?_insert_self h

section Charges

variable {cycles : ℕ} {c c' : Configuration} {a : Label}

/-- A returned price is the one at the cached rate of the day. -/
theorem OneCall.quoted (hc : (system cycles).Reachable c) (h : OneCall c) (hday : onItsDay c a)
    (hnext : (system cycles).next c a = some c') {conditionId : RentalConditionId} {tokens : Tokens}
    (hquotes : Quotes c c' conditionId tokens) :
    cachedPrice c'.state.canister conditionId
      (roundToPreviousMidnight (c.state.canister.now / billion)) = some tokens := by
  have hsound := sound_of_reachable hc
  unfold Quotes at hquotes
  cases Service.step_of_next hnext with
  | startTrap operation reason hstart =>
    cases List.append_cancel_left hquotes
  | startSuspend | serve | resumeSuspend | environment =>
    exact absurd (congrArg List.length hquotes) (by simp)
  | startReply operation state response hstart =>
    obtain ⟨s', hsegment, rfl⟩ := Outcome.mapState_eq_reply hstart
    obtain ⟨rfl, hresponse⟩ := Prod.mk.inj (List.cons.inj (List.append_cancel_left hquotes)).1
    obtain rfl := Except.ok.inj hresponse
    exact price_of_getTodaysPrice hsound.inv.consistent hsegment
  | resumeTrap id operation frame answer reason hcall hresume =>
    cases List.append_cancel_left hquotes
  | resumeReply id operation frame answer state response hcall hresume =>
    obtain ⟨s', hsegment, rfl⟩ := Outcome.mapState_eq_reply hresume
    obtain ⟨rfl, hresponse⟩ := Prod.mk.inj (List.cons.inj (List.append_cancel_left hquotes)).1
    obtain rfl := Except.ok.inj hresponse
    have hawaits := (hsound.assert id _ hcall).awaits
    have hpriced := h.priced id _ hcall
    cases frame <;> try exact hawaits.elim
    case todaysPrice conditions prevMidnight =>
      obtain rfl : conditions = standardConditions conditionId := hpriced
      simp only [onItsDay, hcall, decide_eq_true_eq] at hday
      rw [hday]
      exact price_of_resumeTodaysPrice hsegment

/-- What a proposal demands is the price at the cached rate of the day of its creation. -/
theorem OneCall.demanded (h : OneCall c) {payload : SubnetRentalProposalPayload}
    {neededIcp : Tokens} (hdemands : Demands c payload neededIcp) :
    cachedPrice c.state.canister payload.rentalConditionId (chargedMidnight payload) =
      some neededIcp := by
  obtain ⟨id, ⟨operation, frame, answer⟩, hcall, hframe⟩ := hdemands
  have hpriced := h.priced id _ hcall
  rcases hframe with rfl | ⟨lockAmountIcp, stage, rfl⟩
  · cases operation <;> exact hpriced
  · cases operation <;> exact hpriced

/-- The cost of an opened request is what its proposal demanded. -/
theorem demanded_of_opens (hc : (system cycles).Reachable c)
    (hnext : (system cycles).next c a = some c') {payload : SubnetRentalProposalPayload}
    {r : RentalRequest} (hopens : Opens c a c' payload r) : Demands c payload r.initialCostIcp := by
  obtain ⟨id, caller, ⟨operation, frame, answered⟩, rfl, hcall, rfl, hnone, hsome⟩ := hopens
  have hawaits := ((sound_of_reachable hc).assert id _ hcall).awaits
  have hstep := canisterStep_of_next hnext
  generalize c'.state.canister = s' at hstep hsome
  cases hstep with
  | dropped id operation frame' answer reason hresumed htrap =>
    rw [State.dropGuards_rentalRequests] at hsome
    exact absurd (hnone.symm.trans hsome) (by simp)
  | resumed id operation frame' answer s' hresumed hleaves =>
    obtain ⟨-, rfl, rfl⟩ := Call.mk.inj (Option.some.inj (hresumed.symm.trans hcall))
    cases hleaves _ (resume_effect frame' answer c.state.canister) with
    | quiet frame answer h =>
      rw [h.rentalRequests] at hsome
      exact absurd (hnone.symm.trans hsome) (by simp)
    | opened payload' neededIcp lockAmountIcp blockIndex lockedCycles hbefore h =>
      obtain ⟨-, rfl⟩ := hawaits
      rw [h.rentalRequests, ExtTreeMap.getElem?_insert_self] at hsome
      obtain rfl := Option.some.inj hsome
      exact ⟨id, _, hcall, .inr ⟨lockAmountIcp, _, rfl⟩⟩
    | locked | cancelled | granted | toppedUp => exact hawaits.elim

end Charges

/-! ### Runs -/

/-- What holds from a configuration on, over the allowed steps: a midnight is answered with a rate
at most once, a cached rate stays, and a returned price is what every later proposal created on the
same day for the same condition demands and what the request that it opens costs. -/
structure OneRate (cycles : ℕ) (allowed : Configuration → Label → Prop) (c : Configuration) :
    Prop where
  answered : ∀ c' d d' a b midnight, allowed c a → (system cycles).next c a = some c' →
    (system cycles).RunWithin allowed c' d → allowed d b → (system cycles).next d b = some d' →
      answersFor c a = some midnight → answersFor d b ≠ some midnight
  kept : ∀ d (midnight : ℕ) rate, (system cycles).RunWithin allowed c d →
    c.state.canister.rates[midnight]? = some rate → d.state.canister.rates[midnight]? = some rate
  charged : ∀ c' d a conditionId tokens, allowed c a → (system cycles).next c a = some c' →
    Quotes c c' conditionId tokens → (system cycles).RunWithin allowed c' d →
      ∀ payload : SubnetRentalProposalPayload, payload.rentalConditionId = conditionId →
        roundToPreviousMidnight payload.proposalCreationTimeSeconds =
            roundToPreviousMidnight (c.state.canister.now / billion) →
          (∀ neededIcp, Demands d payload neededIcp → neededIcp = tokens) ∧
            ∀ d' b r, allowed d b → (system cycles).next d b = some d' → Opens d b d' payload r →
              r.initialCostIcp = tokens

/-- In every run in which no call of the exchange rate canister for a midnight starts while another
one for it is in flight, no estimate traps on the rate that it gets, and `get_todays_price` returns
on the day on which it was called, there is one rate for a midnight. -/
theorem one_rate {cycles : ℕ} {c : Configuration}
    (h : (system cycles).ReachableWithin (fun c a ↦ undisturbedRates c a) c) :
    OneRate cycles (fun c a ↦ undisturbedRates c a) c := by
  have hallowed {u : Configuration} {a : Label} (ha : undisturbedRates u a) :
      oneCallEach u a ∧ estimable u a ∧ onItsDay u a := by
    unfold undisturbedRates at ha
    rw [Bool.and_eq_true, Bool.and_eq_true] at ha
    exact ⟨ha.1.1, ha.1.2, ha.2⟩
  have hone {u : Configuration}
      (hu : (system cycles).ReachableWithin (fun c a ↦ undisturbedRates c a) u) : OneCall u :=
    oneCall_of_reachable (fun _ _ ha ↦ (hallowed ha).1) hu
  have hkept {u v : Configuration} (hu : (system cycles).ReachableWithin
      (fun c a ↦ undisturbedRates c a) u)
      (hrun : (system cycles).RunWithin (fun c a ↦ undisturbedRates c a) u v) (midnight : ℕ)
      (rate : ℕ × ℕ) (hrate : u.state.canister.rates[midnight]? = some rate) :
      v.state.canister.rates[midnight]? = some rate := by
    refine hrun.induct (J := fun v ↦ v.state.canister.rates[midnight]? = some rate) hrate ?_
    intro w w' a hw hrate _ hnext
    exact (hone (hu.append hw)).kept hnext hrate
  refine ⟨?_, fun d midnight rate hrun ↦ hkept h hrun midnight rate, ?_⟩
  · intro c' d d' a b midnight ha hnext hrun _ hlater hanswers
    have hsettled : Settled midnight d := by
      refine hrun.induct (J := Settled midnight)
        (settled_of_answered (hallowed ha).2.1 hnext hanswers) ?_
      intro u v b hu hsettled _ hstep
      have hreachable := (h.tail ha hnext).append hu
      exact hsettled.step hreachable.reachable (hone hreachable) hstep
    exact hsettled.not_answered (hone ((h.tail ha hnext).append hrun)) hlater
  · intro c' d a conditionId tokens ha hnext hquotes hrun payload hcondition hday
    have hreachable := h.tail ha hnext
    have hquoted := (hone h).quoted h.reachable (hallowed ha).2.2 hnext hquotes
    have hlater := cachedPrice_of_kept (hkept hreachable hrun) hquoted
    have hdemanded {neededIcp : Tokens} (hdemands : Demands d payload neededIcp) :
        neededIcp = tokens := by
      have hprice := (hone (hreachable.append hrun)).demanded hdemands
      rw [hcondition] at hprice
      unfold chargedMidnight at hprice
      rw [hday, hlater] at hprice
      exact (Option.some.inj hprice).symm
    refine ⟨fun neededIcp hdemands ↦ hdemanded hdemands, fun d' b r _ hstep hopens ↦ ?_⟩
    exact hdemanded (demanded_of_opens (hreachable.append hrun).reachable hstep hopens)

/-- A call of `get_todays_price` gets a rate. -/
def quoting : List Label :=
  [.start (.getTodaysPrice .app13CH), .serve 0 (.exchangeRate (.ok (3_500_000_000, 9)))]

/-- Five days after its creation a proposal is executed. -/
def charging : List Label :=
  [.environment (.pass (5 * secondsPerDay * billion)),
    .start (.executeRentalRequestProposal governanceCanisterId aliceProposal)]

def quotingConfiguration : Configuration :=
  ((system (10 ^ 12)).performWithin (fun c a ↦ undisturbedRates c a)
    (idle (installedWorld (10 ^ 12) fun _ ↦ 10 ^ 13)) quoting).get (by decide +kernel)

theorem reachable_quotingConfiguration :
    (system (10 ^ 12)).ReachableWithin (fun c a ↦ undisturbedRates c a) quotingConfiguration :=
  System.reachableWithin_get_performWithin (init_idle _ _) _

def quotedConfiguration : Configuration :=
  ((system (10 ^ 12)).next quotingConfiguration (.resume 0)).get (by decide +kernel)

def chargingConfiguration : Configuration :=
  ((system (10 ^ 12)).performWithin (fun c a ↦ undisturbedRates c a) quotedConfiguration
    charging).get (by decide +kernel)

theorem run_chargingConfiguration :
    (system (10 ^ 12)).RunWithin (fun c a ↦ undisturbedRates c a) quotedConfiguration
      chargingConfiguration :=
  System.runWithin_of_performWithin (Option.some_get _).symm

/-- The price of a 13-node subnet at 3.5 XDR per ICP. -/
def quotedPrice : Tokens := ⟨4_217_142_857_142⟩

theorem quotes_quotedConfiguration :
    quotedConfiguration.trace =
      quotingConfiguration.trace ++
        [(.getTodaysPrice .app13CH, .ok (.price (.ok quotedPrice)))] := by
  decide +kernel

/-- The proposal demands the price that was returned five days before, and nothing else. -/
theorem one_rate_charged :
    ((chargingConfiguration.calls[1]?).any fun call ↦
      match call.frame with
      | .rentalRequestBalance payload neededIcp => payload = aliceProposal ∧ neededIcp = quotedPrice
      | _ => false) ∧
      ∀ neededIcp, Demands chargingConfiguration aliceProposal neededIcp →
        neededIcp = quotedPrice := by
  refine ⟨by decide +kernel, ?_⟩
  exact ((one_rate reachable_quotingConfiguration).charged _ _ (.resume 0) .app13CH quotedPrice
    (by decide +kernel) (Option.some_get _).symm quotes_quotedConfiguration
    run_chargingConfiguration aliceProposal rfl (by decide +kernel)).1

/-! ### Overlapping calls -/

/-- While a call of `get_todays_price` awaits a rate, a proposal asks for the same one. -/
def overlappingCalls : List Label :=
  [.start (.getTodaysPrice .app13CH),
    .start (.executeRentalRequestProposal governanceCanisterId aliceProposal),
    .serve 0 (.exchangeRate (.ok (3_500_000_000, 9))), .resume 0]

/-- The proposal gets another rate. -/
def secondAnswer : List Label := [.serve 1 (.exchangeRate (.ok (7_000_000_000, 9))), .resume 1]

def firstRateConfiguration : Configuration :=
  ((system (10 ^ 12)).perform (idle (installedWorld (10 ^ 12) fun _ ↦ 10 ^ 13))
    overlappingCalls).get (by decide +kernel)

theorem reachable_firstRateConfiguration : (system (10 ^ 12)).Reachable firstRateConfiguration :=
  System.reachable_get_perform (init_idle _ _) _

def secondRateConfiguration : Configuration :=
  ((system (10 ^ 12)).perform firstRateConfiguration secondAnswer).get (by decide +kernel)

theorem run_secondRateConfiguration :
    (system (10 ^ 12)).Run firstRateConfiguration secondRateConfiguration :=
  System.run_of_perform (Option.some_get _).symm

/-- Both calls get a rate, and the second one overwrites the first. -/
theorem rate_overwritten :
    ¬ ∀ c, (system (10 ^ 12)).Reachable c → OneRate (10 ^ 12) (fun _ _ ↦ True) c := by
  intro hone
  have hkept := (hone firstRateConfiguration reachable_firstRateConfiguration).kept
    secondRateConfiguration 86_400 (3_500_000_000, 9) run_secondRateConfiguration
    (by decide +kernel)
  have hsecond : secondRateConfiguration.state.canister.rates[(86_400 : ℕ)]? =
      some (7_000_000_000, 9) := by decide +kernel
  exact absurd (hsecond.symm.trans hkept) (by decide)

end SubnetRental.Rates
