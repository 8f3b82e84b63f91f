import SubnetRental.Canister.Machine

/-!
# What a segment can do to requests, agreements and cycles

Most segments leave the stored requests and agreements as they are and spend cycles at most on a
call of the exchange rate canister (`Quiet`). The exceptions are five: the segments that end a
proposal with a new request, that write a request back after a locking, that cancel a request, that
turn a request into an agreement, and that extend an agreement. `Effect` lists them with exactly
what they write, each tied to the suspended position and the answer it follows.
`resume_effect` is the inversion of all resumed segments, and `start_quiet` that of all first
segments except the burn pass, which `burnPass` describes itself.
-/

set_option autoImplicit false
set_option relaxedAutoImplicit false

namespace SubnetRental.Lifecycle

open Canister Foundation.GuardedCalls Foundation.MachineInteger Std

/-! ### Quiet segments -/

/-- What no segment changes: the rental conditions, the time and the reserve. -/
structure SameSetting (s s' : State) : Prop where
  rentalConditions : s'.rentalConditions = s.rentalConditions
  now : s'.now = s.now
  reserve : s'.reserve = s.reserve

/-- The stored requests and agreements are unchanged, and every cycle spent was attached to a call
of the exchange rate canister. -/
structure Quiet (s s' : State) : Prop extends SameSetting s s' where
  rentalRequests : s'.rentalRequests = s.rentalRequests
  rentalAgreements : s'.rentalAgreements = s.rentalAgreements
  cycles : s'.cycles + exchangeRateFee * s'.exchangeRateCalls =
    s.cycles + exchangeRateFee * s.exchangeRateCalls

theorem SameSetting.trans {s t u : State} (hst : SameSetting s t) (htu : SameSetting t u) :
    SameSetting s u :=
  ⟨htu.rentalConditions.trans hst.rentalConditions, htu.now.trans hst.now,
    htu.reserve.trans hst.reserve⟩

namespace Quiet

theorem refl (s : State) : Quiet s s := ⟨⟨rfl, rfl, rfl⟩, rfl, rfl, rfl⟩

theorem trans {s t u : State} (hst : Quiet s t) (htu : Quiet t u) : Quiet s u :=
  ⟨hst.toSameSetting.trans htu.toSameSetting, htu.rentalRequests.trans hst.rentalRequests,
    htu.rentalAgreements.trans hst.rentalAgreements, htu.cycles.trans hst.cycles⟩

theorem dropGuards (s : State) (guards : Finset Lock) : Quiet s (s.dropGuards guards) :=
  ⟨⟨rfl, rfl, rfl⟩, rfl, rfl, rfl⟩

theorem persistEvent (s : State) (event : EventType) (key : Option Principal) :
    Quiet s (s.persistEvent event key) :=
  ⟨⟨rfl, rfl, rfl⟩, rfl, rfl, rfl⟩

theorem cacheRate (s : State) (time rate decimals : ℕ) : Quiet s (s.cacheRate time rate decimals) :=
  ⟨⟨rfl, rfl, rfl⟩, rfl, rfl, rfl⟩

/-- Taking a lock. -/
theorem insertLock (s : State) (lock : Lock) : Quiet s { s with locks := insert lock s.locks } :=
  ⟨⟨rfl, rfl, rfl⟩, rfl, rfl, rfl⟩

end Quiet

/-- A guard is acquired exactly when its lock is free, and then only the lock set changes. -/
theorem callerGuard_eq_some {s s' : State} {lock : Lock} (h : s.callerGuard lock = some s') :
    lock ∉ s.locks ∧ s' = { s with locks := insert lock s.locks } := by
  unfold State.callerGuard at h
  split_ifs at h with hheld
  exact ⟨hheld, (Option.some.inj h).symm⟩

/-- A call of the exchange rate canister takes its fee from the balance. -/
theorem getExchangeRate_eq_calling {s s' : State} {time : ℕ}
    (h : getExchangeRate s time = .calling s') :
    exchangeRateFee + s.reserve ≤ s.cycles ∧ s' = { s with
      cycles := s.cycles - exchangeRateFee, exchangeRateCalls := s.exchangeRateCalls + 1 } := by
  unfold getExchangeRate at h
  split at h
  · cases h
  · split_ifs at h with hfunds
    refine ⟨?_, (RateLookup.calling.inj h).symm⟩
    have hfee : 0 < exchangeRateFee := by decide
    omega

/-! ### Framing relations -/

/-- The events that record a change of the stored requests or agreements. -/
def isBooked : EventType → Bool
  | .rentalRequestCreated _ | .rentalRequestCancelled _ | .rentalAgreementCreated .. => true
  | .subnetTopUp .. | .rentalConditionSwitched .. => true
  | _ => false

/-- A relation between the states before and after that holds over everything that touches neither
requests nor agreements nor cached rates. -/
structure Framing (R : State → State → Prop) : Prop where
  refl : ∀ s, R s s
  trans : ∀ {s t u}, R s t → R t u → R s u
  dropGuards : ∀ s guards, R s (s.dropGuards guards)
  insertLock : ∀ s lock, R s { s with locks := insert lock s.locks }
  persistEvent : ∀ s event key, isBooked event = false → R s (s.persistEvent event key)
  calling : ∀ s, exchangeRateFee ≤ s.cycles → R s { s with
    cycles := s.cycles - exchangeRateFee, exchangeRateCalls := s.exchangeRateCalls + 1 }

theorem framing_quiet : Framing Quiet where
  refl := Quiet.refl
  trans := Quiet.trans
  dropGuards := Quiet.dropGuards
  insertLock := Quiet.insertLock
  persistEvent s event key _ := Quiet.persistEvent s event key
  calling s hfunds := by
    refine ⟨⟨rfl, rfl, rfl⟩, rfl, rfl, ?_⟩
    change s.cycles - exchangeRateFee + exchangeRateFee * (s.exchangeRateCalls + 1) = _
    rw [Nat.mul_succ]
    omega

section Framed

variable {R : State → State → Prop} (hR : Framing R)

include hR

theorem framed_callerGuard {s s' : State} {lock : Lock} (h : s.callerGuard lock = some s') :
    R s s' := by
  obtain ⟨-, rfl⟩ := callerGuard_eq_some h
  exact hR.insertLock s lock

theorem framed_getExchangeRate {s s' : State} {time : ℕ}
    (h : getExchangeRate s time = .calling s') : R s s' := by
  obtain ⟨hfunds, rfl⟩ := getExchangeRate_eq_calling h
  exact hR.calling s (Nat.le_of_add_right_le hfunds)

theorem framed_receiveExchangeRate
    (hcache : ∀ s time rate decimals, R s (s.cacheRate time rate decimals)) {s s' : State}
    {time : ℕ} {answer : Answer} {result : Except ExchangeRateError (ℕ × ℕ)}
    (h : receiveExchangeRate s time answer = .ok (s', result)) : R s s' := by
  unfold receiveExchangeRate at h
  split at h
  · obtain ⟨rfl, -⟩ := Prod.mk.inj (Except.ok.inj h)
    exact hcache s _ _ _
  · obtain ⟨rfl, -⟩ := Prod.mk.inj (Except.ok.inj h)
    exact hR.refl s
  · cases h
  · cases h

/-! ### First segments -/

theorem framed_todaysPriceAfterRate (conditions : RentalConditions) (guards : Finset Lock)
    (rate : ℕ × ℕ) (s : State) :
    (todaysPriceAfterRate conditions guards rate s).Leaving (R s) := by
  unfold todaysPriceAfterRate
  dsimp only
  split <;> exact hR.dropGuards s guards

theorem framed_getTodaysPrice (id : RentalConditionId) (s : State) :
    (getTodaysPrice id s).Leaving (R s) := by
  unfold getTodaysPrice
  split
  · exact hR.refl s
  · dsimp only
    split
    · exact framed_todaysPriceAfterRate hR _ _ _ s
    · split
      · exact hR.refl s
      · rename_i s' hguard
        have hs' := framed_callerGuard hR hguard
        split
        · exact (framed_todaysPriceAfterRate hR _ _ _ s').mono fun _ ↦ hR.trans hs'
        · rename_i s'' hrate
          exact hR.trans hs' (framed_getExchangeRate hR hrate)
        · trivial

theorem framed_rentalRequestFailed (payload : SubnetRentalProposalPayload)
    (e : ExecuteProposalError) (s : State) :
    (rentalRequestFailed payload e s).Leaving (R s) :=
  hR.trans (hR.persistEvent s _ _ rfl) (hR.dropGuards _ _)

theorem framed_rentalRequestAfterRate (payload : SubnetRentalProposalPayload)
    (conditions : RentalConditions) (rate : ℕ × ℕ) (s : State) :
    (rentalRequestAfterRate payload conditions rate s).Leaving (R s) := by
  unfold rentalRequestAfterRate
  split
  · exact framed_rentalRequestFailed hR payload _ s
  · exact hR.refl s

theorem framed_executeRentalRequestProposal (caller : Principal)
    (payload : SubnetRentalProposalPayload) (s : State) :
    (executeRentalRequestProposal caller payload s).Leaving (R s) := by
  unfold executeRentalRequestProposal
  split_ifs with hcaller
  · exact hR.refl s
  · split
    · trivial
    · rename_i s' hguard
      have hs' := framed_callerGuard hR hguard
      have hfailed (e : ExecuteProposalError) :
          (rentalRequestFailed payload e s').Leaving (R s) :=
        (framed_rentalRequestFailed hR payload e s').mono fun _ ↦ hR.trans hs'
      split
      · exact hfailed _
      · split
        · exact hfailed _
        · split
          · trivial
          · rename_i conditions hconditions
            split
            · exact hfailed _
            · split
              · exact hfailed _
              · dsimp only
                split
                · exact (framed_rentalRequestAfterRate hR payload conditions _ s').mono fun _ ↦
                    hR.trans hs'
                · rename_i s'' hrate
                  exact hR.trans hs' (framed_getExchangeRate hR hrate)
                · trivial

theorem framed_executeCreateRentalAgreement (caller : Principal)
    (payload : CreateRentalAgreementPayload) (s : State) :
    (executeCreateRentalAgreement caller payload s).Leaving (R s) := by
  unfold executeCreateRentalAgreement
  split_ifs with hcaller
  · exact hR.refl s
  · split
    · trivial
    · rename_i s₁ hguard₁
      split
      · trivial
      · rename_i s₂ hguard₂
        have hs₂ := hR.trans (framed_callerGuard hR hguard₁) (framed_callerGuard hR hguard₂)
        have hreturns (e : ExecuteProposalError) :
            (createReturns payload (.error e) s₂).Leaving (R s) :=
          hR.trans hs₂ (hR.dropGuards s₂ _)
        split
        · exact hreturns _
        · split_ifs with hrented
          · exact hreturns _
          · split
            · trivial
            · exact beginCreateConvert_elim trivial fun _ _ ↦ hs₂

theorem framed_refund (caller : Principal) (s : State) : (refund caller s).Leaving (R s) := by
  unfold refund
  split
  · exact hR.refl s
  · rename_i s₁ hguard₁
    have hs₁ := framed_callerGuard hR hguard₁
    split
    · exact hR.trans hs₁ (hR.dropGuards s₁ _)
    · rename_i s₂ hguard₂
      exact hR.trans hs₁ (framed_callerGuard hR hguard₂)

theorem framed_estimateAfterRate (rentalAgreement : RentalAgreement) (icp : Tokens) (rate : ℕ × ℕ)
    (s : State) : (estimateAfterRate rentalAgreement icp rate s).Leaving (R s) :=
  estimateAfterRate_elim trivial trivial fun _ ↦ hR.refl s

theorem framed_subnetTopUpEstimate (subnetId : Principal) (icp : Tokens) (s : State) :
    (subnetTopUpEstimate subnetId icp s).Leaving (R s) := by
  unfold subnetTopUpEstimate
  split
  · exact hR.refl s
  · dsimp only
    split
    · exact framed_estimateAfterRate hR _ _ _ s
    · rename_i s' hrate
      exact framed_getExchangeRate hR hrate
    · trivial

theorem framed_topUpSubnet (subnetId : Principal) (s : State) :
    (topUpSubnet subnetId s).Leaving (R s) := by
  unfold topUpSubnet
  split
  · exact hR.refl s
  · rename_i s' hguard
    have hs' := framed_callerGuard hR hguard
    split
    · exact hR.trans hs' (hR.dropGuards s' _)
    · exact hs'

theorem framed_updateSubnetAdmins (caller : Principal) (payload : UpdateSubnetAdminsPayload)
    (s : State) : (updateSubnetAdmins caller payload s).Leaving (R s) := by
  unfold updateSubnetAdmins
  dsimp only
  split_ifs with hrenting
  · split
    · exact hR.refl s
    · rename_i s' hguard
      have hs' := framed_callerGuard hR hguard
      have hreturns (e : UpdateSubnetAdminsError) :
          (subnetAdminsReturns payload.subnetId (.error e) s').Leaving (R s) :=
        hR.trans hs' (hR.dropGuards s' _)
      split
      · exact hreturns _
      · split_ifs
        · exact hreturns _
        · exact hs'
      · split_ifs
        · exact hreturns _
        · exact hs'
      · exact hs'
  · exact hR.refl s

/-- The loop of `locking` only takes a lock. -/
theorem framed_lockingLoop (nowNanos : ℕ) (requests : List RentalRequest) (s : State) :
    (lockingLoop nowNanos requests s).Leaving (R s) := by
  induction requests with
  | nil => exact hR.refl s
  | cons rentalRequest rest ih =>
    unfold lockingLoop
    split_ifs with hdue
    · split
      · exact ih
      · rename_i s' hguard
        exact beginConvert_elim trivial fun _ ↦ framed_callerGuard hR hguard
    · exact ih

/-- No first segment except the burn pass touches requests or agreements. -/
theorem framed_start (operation : Operation) (hburn : operation ≠ .burnCycles) (s : State) :
    (start operation s).Leaving (R s) := by
  cases operation with
  | getTodaysPrice id => exact framed_getTodaysPrice hR id s
  | executeRentalRequestProposal caller payload =>
    exact framed_executeRentalRequestProposal hR caller payload s
  | executeCreateRentalAgreement caller payload =>
    exact framed_executeCreateRentalAgreement hR caller payload s
  | refund caller => exact framed_refund hR caller s
  | subnetTopUpEstimate subnetId icp => exact framed_subnetTopUpEstimate hR subnetId icp s
  | topUpSubnet subnetId => exact framed_topUpSubnet hR subnetId s
  | updateSubnetAdmins caller payload => exact framed_updateSubnetAdmins hR caller payload s
  | locking => exact framed_lockingLoop hR _ _ s
  | burnCycles => exact absurd rfl hburn

/-- What a first segment leaves: a framed state, or the one after a burn pass. -/
theorem start_leaving {P : State → Prop} (operation : Operation) {s : State}
    (hframed : ∀ s', R s s' → P s')
    (hburns : ∀ burned s', burnPass s = .ok (burned, s') → P s') :
    (start operation s).Leaving P := by
  by_cases hburn : operation = .burnCycles
  · subst hburn
    change (burnCycles s).Leaving P
    unfold burnCycles
    split
    · trivial
    · rename_i burned s' hpass
      exact hburns burned s' hpass
  · exact (framed_start hR operation hburn s).mono hframed

/-! ### Resumed segments -/

theorem framed_resumeTodaysPrice
    (hcache : ∀ s time rate decimals, R s (s.cacheRate time rate decimals))
    (conditions : RentalConditions) (prevMidnight : ℕ) (answer : Answer) (s : State) :
    (resumeTodaysPrice conditions prevMidnight answer s).Leaving (R s) := by
  unfold resumeTodaysPrice
  split
  · trivial
  · rename_i s' e hrate
    exact hR.trans (framed_receiveExchangeRate hR hcache hrate) (hR.dropGuards s' _)
  · rename_i s' rate hrate
    exact (framed_todaysPriceAfterRate hR conditions _ rate s').mono fun _ ↦
      hR.trans (framed_receiveExchangeRate hR hcache hrate)

theorem framed_resumeRentalRequestRate
    (hcache : ∀ s time rate decimals, R s (s.cacheRate time rate decimals))
    (payload : SubnetRentalProposalPayload) (conditions : RentalConditions)
    (exchangeRateQueryTime : ℕ) (answer : Answer) (s : State) :
    (resumeRentalRequestRate payload conditions exchangeRateQueryTime answer s).Leaving (R s) := by
  unfold resumeRentalRequestRate
  split
  · trivial
  · rename_i s' e hrate
    exact (framed_rentalRequestFailed hR payload _ s').mono fun _ ↦
      hR.trans (framed_receiveExchangeRate hR hcache hrate)
  · rename_i s' rate hrate
    exact (framed_rentalRequestAfterRate hR payload conditions rate s').mono fun _ ↦
      hR.trans (framed_receiveExchangeRate hR hcache hrate)

theorem framed_resumeRentalRequestBalance (payload : SubnetRentalProposalPayload)
    (neededIcp : Tokens) (answer : Answer) (s : State) :
    (resumeRentalRequestBalance payload neededIcp answer s).Leaving (R s) := by
  unfold resumeRentalRequestBalance
  split
  · split
    · exact framed_rentalRequestFailed hR payload _ s
    · exact beginConvert_elim trivial fun _ ↦ hR.refl s
  · trivial
  · trivial

theorem framed_resumeCreateConvert (payload : CreateRentalAgreementPayload)
    (rentalRequest : RentalRequest) (initialRentalPeriodNanos : ℕ) (remainingIcp : Tokens)
    (stage : ConvertStage) (answer : Answer) (s : State) :
    (resumeCreateConvert payload rentalRequest initialRentalPeriodNanos remainingIcp stage answer
      s).Leaving (R s) := by
  unfold resumeCreateConvert
  split
  · trivial
  · exact hR.refl s
  · rename_i result _
    cases result with
    | error e => exact hR.dropGuards s _
    | ok converted => exact hR.persistEvent s _ _ rfl

theorem framed_resumeRefundBalance (caller : Principal) (answer : Answer) (s : State) :
    (resumeRefundBalance caller answer s).Leaving (R s) := by
  unfold resumeRefundBalance
  split
  · split
    · exact hR.dropGuards s _
    · exact hR.refl s
  · trivial
  · trivial

theorem framed_resumeEstimate
    (hcache : ∀ s time rate decimals, R s (s.cacheRate time rate decimals))
    (rentalAgreement : RentalAgreement) (icp : Tokens) (prevMidnight : ℕ) (answer : Answer)
    (s : State) :
    (resumeEstimate rentalAgreement icp prevMidnight answer s).Leaving (R s) := by
  unfold resumeEstimate
  split
  · trivial
  · rename_i s' e hrate
    exact framed_receiveExchangeRate hR hcache hrate
  · rename_i s' rate hrate
    exact (framed_estimateAfterRate hR rentalAgreement icp rate s').mono fun _ ↦
      hR.trans (framed_receiveExchangeRate hR hcache hrate)

theorem framed_topUpFailed (subnetId : Principal) (rentalAgreement : RentalAgreement)
    (e : TopUpError) (s : State) :
    (topUpFailed subnetId rentalAgreement e s).Leaving (R s) :=
  hR.trans (hR.persistEvent s _ _ rfl) (hR.dropGuards _ _)

theorem framed_resumeTopUpBalance (subnetId : Principal) (rentalAgreement : RentalAgreement)
    (answer : Answer) (s : State) :
    (resumeTopUpBalance subnetId rentalAgreement answer s).Leaving (R s) := by
  unfold resumeTopUpBalance
  split
  · split
    · exact framed_topUpFailed hR _ _ _ s
    · dsimp only
      exact beginConvert_elim trivial fun _ ↦ hR.refl s
  · trivial
  · trivial

theorem framed_resumeSubnetAdmins (payload : UpdateSubnetAdminsPayload) (answer : Answer)
    (s : State) : (resumeSubnetAdmins payload answer s).Leaving (R s) := by
  unfold resumeSubnetAdmins
  split <;> exact hR.dropGuards s _

end Framed

/-- Every first segment except the burn pass is quiet. -/
theorem start_quiet (operation : Operation) (hburn : operation ≠ .burnCycles) (s : State) :
    (start operation s).Leaving (Quiet s) := framed_start framing_quiet operation hburn s

/-! ### Effects -/

/-- A segment that leaves the given requests and agreements and burns cycles. -/
structure Writes (s s' : State) (requests : ExtTreeMap Principal RentalRequest)
    (agreements : ExtTreeMap Principal RentalAgreement) (burned : ℕ) : Prop
    extends SameSetting s s' where
  rentalRequests : s'.rentalRequests = requests
  rentalAgreements : s'.rentalAgreements = agreements
  cycles : s'.cycles + exchangeRateFee * s'.exchangeRateCalls + burned =
    s.cycles + exchangeRateFee * s.exchangeRateCalls

theorem Writes.trans_quiet {s t u : State} {requests : ExtTreeMap Principal RentalRequest}
    {agreements : ExtTreeMap Principal RentalAgreement} {burned : ℕ}
    (hst : Writes s t requests agreements burned) (htu : Quiet t u) :
    Writes s u requests agreements burned :=
  ⟨hst.toSameSetting.trans htu.toSameSetting, htu.rentalRequests.trans hst.rentalRequests,
    htu.rentalAgreements.trans hst.rentalAgreements, by rw [htu.cycles, hst.cycles]⟩

theorem Quiet.trans_writes {s t u : State} {requests : ExtTreeMap Principal RentalRequest}
    {agreements : ExtTreeMap Principal RentalAgreement} {burned : ℕ}
    (hst : Quiet s t) (htu : Writes t u requests agreements burned) :
    Writes s u requests agreements burned :=
  ⟨hst.toSameSetting.trans htu.toSameSetting, htu.rentalRequests, htu.rentalAgreements, by
    rw [htu.cycles, hst.cycles]⟩

/-- Burning reduces the balance by what it returns. -/
theorem cyclesBurn_add (s : State) (amount : ℕ) :
    (s.cyclesBurn amount).2.cycles + (s.cyclesBurn amount).1 = s.cycles := by
  have hle : min amount (s.cycles - s.reserve) ≤ s.cycles :=
    (min_le_right _ _).trans (Nat.sub_le _ _)
  exact Nat.sub_add_cancel hle

/-- The request a proposal creates when its first tenth is converted. -/
def openedRequest (payload : SubnetRentalProposalPayload) (neededIcp lockAmountIcp : Tokens)
    (lockedCycles nowNanos : ℕ) : RentalRequest where
  user := payload.user
  initialCostIcp := neededIcp
  lockedAmountIcp := lockAmountIcp
  lockedAmountCycles := lockedCycles
  initialProposalId := payload.proposalId
  creationTimeNanos := nowNanos
  rentalConditionId := payload.rentalConditionId
  lastLockingTimeNanos := nowNanos

/-- The agreement `top_up_subnet` writes over the stored one: its totals come from the copy. -/
def toppedUpAgreement (copy stored : RentalAgreement) (dailyCostCycles actualCycles : ℕ)
    (userIcpBalance : Tokens) : RentalAgreement :=
  { stored with
    totalCyclesCreated := saturatingAdd 128 copy.totalCyclesCreated actualCycles
    totalIcpPaid := stored.totalIcpPaid + userIcpBalance
    paidUntilNanos :=
      newPaidUntilNanos copy.paidUntilNanos (secondsCharged dailyCostCycles actualCycles) }

section ToppedUp

variable (copy stored : RentalAgreement) (dailyCostCycles actualCycles : ℕ)
  (userIcpBalance : Tokens)

@[simp] theorem toppedUpAgreement_totalCyclesCreated :
    (toppedUpAgreement copy stored dailyCostCycles actualCycles userIcpBalance).totalCyclesCreated =
      saturatingAdd 128 copy.totalCyclesCreated actualCycles := rfl

@[simp] theorem toppedUpAgreement_totalCyclesBurned :
    (toppedUpAgreement copy stored dailyCostCycles actualCycles userIcpBalance).totalCyclesBurned =
      stored.totalCyclesBurned := rfl

@[simp] theorem toppedUpAgreement_paidUntilNanos :
    (toppedUpAgreement copy stored dailyCostCycles actualCycles userIcpBalance).paidUntilNanos =
      newPaidUntilNanos copy.paidUntilNanos (secondsCharged dailyCostCycles actualCycles) := rfl

end ToppedUp

/-- What the segment that follows an answer does to the state. -/
inductive Effect (s s' : State) : Frame → Answer → Prop
  | quiet (frame : Frame) (answer : Answer) (h : Quiet s s') : Effect s s' frame answer
  | opened (payload : SubnetRentalProposalPayload) (neededIcp lockAmountIcp : Tokens)
      (blockIndex lockedCycles : ℕ) (hnone : s.rentalRequests[payload.user]? = none)
      (h : Writes s s' (s.rentalRequests.insert payload.user
        (openedRequest payload neededIcp lockAmountIcp lockedCycles s.now)) s.rentalAgreements 0) :
      Effect s s' (.rentalRequestConvert payload neededIcp lockAmountIcp (.notify blockIndex))
        (.notifyTopUp (.ok lockedCycles))
  | locked (nowNanos : ℕ) (rentalRequest stored : RentalRequest) (tenPercentIcp : Tokens)
      (rest : List RentalRequest) (blockIndex lockedCycles : ℕ)
      (hstored : s.rentalRequests[rentalRequest.user]? = some stored)
      (h : Writes s s' (s.rentalRequests.insert rentalRequest.user
        (rentalRequest.afterLocking nowNanos tenPercentIcp lockedCycles)) s.rentalAgreements 0) :
      Effect s s' (.lockingConvert nowNanos rentalRequest tenPercentIcp rest (.notify blockIndex))
        (.notifyTopUp (.ok lockedCycles))
  | cancelled (caller : Principal) (toBeRefunded : Tokens) (blockId : ℕ)
      (rentalRequest : RentalRequest) (hstored : s.rentalRequests[caller]? = some rentalRequest)
      (h : Writes s s' (s.rentalRequests.erase caller) s.rentalAgreements
        (min rentalRequest.lockedAmountCycles (s.cycles - s.reserve))) :
      Effect s s' (.refundTransfer caller toBeRefunded) (.transfer (.ok blockId))
  | granted (payload : CreateRentalAgreementPayload) (rentalRequest stored : RentalRequest)
      (rentalAgreement : RentalAgreement) (answer : Answer)
      (hanswer : ∀ text, answer ≠ .callFailed text)
      (hstored : s.rentalRequests[payload.user]? = some stored)
      (hfree : s.rentalAgreements[rentalAgreement.subnetId]? = none)
      (h : Writes s s' (s.rentalRequests.erase payload.user)
        (s.rentalAgreements.insert rentalAgreement.subnetId rentalAgreement) 0) :
      Effect s s' (.createAuthorize payload rentalRequest rentalAgreement) answer
  | toppedUp (subnetId : Principal) (rentalAgreement stored : RentalAgreement)
      (userIcpBalance icpAmountForCycles : Tokens) (blockIndex actualCycles : ℕ)
      (conditions : RentalConditions)
      (hconditions : s.rentalConditions rentalAgreement.rentalConditionId = some conditions)
      (hstored : s.rentalAgreements[subnetId]? = some stored)
      (h : Writes s s' s.rentalRequests (s.rentalAgreements.insert subnetId
        (toppedUpAgreement rentalAgreement stored conditions.dailyCostCycles actualCycles
          userIcpBalance)) 0) :
      Effect s s'
        (.topUpConvert subnetId rentalAgreement userIcpBalance icpAmountForCycles
          (.notify blockIndex))
        (.notifyTopUp (.ok actualCycles))

theorem sameSetting_of_effect {s s' : State} {frame : Frame} {answer : Answer}
    (h : Effect s s' frame answer) : SameSetting s s' := by
  cases h with
  | quiet frame answer h => exact h.toSameSetting
  | opened _ _ _ _ _ _ h => exact h.toSameSetting
  | locked _ _ _ _ _ _ _ _ h => exact h.toSameSetting
  | cancelled _ _ _ _ _ h => exact h.toSameSetting
  | granted _ _ _ _ _ _ _ _ h => exact h.toSameSetting
  | toppedUp _ _ _ _ _ _ _ _ _ _ h => exact h.toSameSetting

/-- A conversion is over with created cycles only when the CMC told so. -/
theorem convertIcpToCycles_eq_ok {stage : ConvertStage} {answer : Answer} {blockIndex cycles : ℕ}
    (h : convertIcpToCycles stage answer = .done (.ok (blockIndex, cycles))) :
    stage = .notify blockIndex ∧ answer = .notifyTopUp (.ok cycles) := by
  unfold convertIcpToCycles at h
  split at h <;> simp_all

/-- A conversion goes on to the CMC only from the ledger. -/
theorem convertIcpToCycles_eq_await {stage stage' : ConvertStage} {answer : Answer}
    (h : convertIcpToCycles stage answer = .await stage') :
    stage = .transfer ∧ ∃ blockIndex, stage' = .notify blockIndex := by
  unfold convertIcpToCycles at h
  split at h
  · rename_i blockIndex
    exact ⟨rfl, blockIndex, (ConvertResult.await.inj h).symm⟩
  all_goals cases h

theorem persistRentalRequest_eq_some {s s' : State} {rentalRequest : RentalRequest}
    (h : s.persistRentalRequest rentalRequest = some s') :
    s.rentalRequests[rentalRequest.user]? = none ∧
      Writes s s' (s.rentalRequests.insert rentalRequest.user rentalRequest) s.rentalAgreements
        0 := by
  unfold State.persistRentalRequest at h
  split at h
  · cases h
  · rename_i hnone
    obtain rfl := Option.some.inj h
    exact ⟨hnone, ⟨⟨rfl, rfl, rfl⟩, rfl, rfl, rfl⟩⟩

theorem updateRentalRequest_eq_some {s s' : State} {requester : Principal}
    {transform : RentalRequest → RentalRequest}
    (h : s.updateRentalRequest requester transform = some s') :
    ∃ stored, s.rentalRequests[requester]? = some stored ∧
      Writes s s' (s.rentalRequests.insert requester (transform stored)) s.rentalAgreements 0 := by
  unfold State.updateRentalRequest at h
  split at h
  · cases h
  · rename_i stored hstored
    obtain rfl := Option.some.inj h
    exact ⟨stored, hstored, ⟨⟨rfl, rfl, rfl⟩, rfl, rfl, rfl⟩⟩

theorem removeRentalRequest_eq_some {s s' : State} {requester : Principal}
    (h : s.removeRentalRequest requester = some s') :
    ∃ stored, s.rentalRequests[requester]? = some stored ∧
      s' = { s with rentalRequests := s.rentalRequests.erase requester } := by
  unfold State.removeRentalRequest at h
  split at h
  · cases h
  · rename_i stored hstored
    exact ⟨stored, hstored, (Option.some.inj h).symm⟩

theorem persistRentalAgreement_eq_some {s s' : State} {rentalAgreement : RentalAgreement}
    (h : s.persistRentalAgreement rentalAgreement = some s') :
    s.rentalAgreements[rentalAgreement.subnetId]? = none ∧
      Writes s s' s.rentalRequests
        (s.rentalAgreements.insert rentalAgreement.subnetId rentalAgreement) 0 := by
  unfold State.persistRentalAgreement at h
  split at h
  · cases h
  · rename_i hnone
    obtain rfl := Option.some.inj h
    exact ⟨hnone, ⟨⟨rfl, rfl, rfl⟩, rfl, rfl, rfl⟩⟩

theorem updateRentalAgreement_eq_some {s s' : State} {subnetId : Principal}
    {transform : RentalAgreement → RentalAgreement}
    (h : s.updateRentalAgreement subnetId transform = some s') :
    ∃ stored, s.rentalAgreements[subnetId]? = some stored ∧
      s' = { s with
        rentalAgreements := s.rentalAgreements.insert subnetId (transform stored) } := by
  unfold State.updateRentalAgreement at h
  split at h
  · cases h
  · rename_i stored hstored
    exact ⟨stored, hstored, (Option.some.inj h).symm⟩

theorem effect_resumeRentalRequestConvert (payload : SubnetRentalProposalPayload)
    (neededIcp lockAmountIcp : Tokens) (stage : ConvertStage) (answer : Answer) (s : State) :
    (resumeRentalRequestConvert payload neededIcp lockAmountIcp stage answer s).Leaving fun s' ↦
      Effect s s' (.rentalRequestConvert payload neededIcp lockAmountIcp stage) answer := by
  unfold resumeRentalRequestConvert
  split
  · trivial
  · exact .quiet _ _ (Quiet.refl s)
  · rename_i result hresult
    cases result with
    | error e =>
      exact (framed_rentalRequestFailed framing_quiet payload e s).mono fun _ ↦ .quiet _ _
    | ok converted =>
      obtain ⟨blockIndex, lockedCycles⟩ := converted
      obtain ⟨rfl, rfl⟩ := convertIcpToCycles_eq_ok hresult
      unfold rentalRequestAfterConvert
      dsimp only
      split
      · trivial
      · rename_i s' hpersist
        obtain ⟨hnone, hwrites⟩ := persistRentalRequest_eq_some hpersist
        refine .opened payload neededIcp lockAmountIcp blockIndex lockedCycles hnone ?_
        exact ((Quiet.persistEvent s _ _).trans_writes hwrites).trans_quiet (Quiet.dropGuards s' _)

theorem effect_resumeCreateAuthorize (payload : CreateRentalAgreementPayload)
    (rentalRequest : RentalRequest) (rentalAgreement : RentalAgreement) (answer : Answer)
    (s : State) :
    (resumeCreateAuthorize payload rentalAgreement answer s).Leaving fun s' ↦
      Effect s s' (.createAuthorize payload rentalRequest rentalAgreement) answer := by
  unfold resumeCreateAuthorize
  split
  · trivial
  · rename_i hanswer
    split
    · trivial
    · rename_i s₁ hremove
      obtain ⟨stored, hstored, rfl⟩ := removeRentalRequest_eq_some hremove
      split
      · trivial
      · rename_i s₂ hpersist
        obtain ⟨hfree, hwrites⟩ := persistRentalAgreement_eq_some hpersist
        refine .granted payload rentalRequest stored rentalAgreement answer hanswer hstored
          hfree ?_
        have hboth : Writes s s₂ (s.rentalRequests.erase payload.user)
            (s.rentalAgreements.insert rentalAgreement.subnetId rentalAgreement) 0 :=
          ⟨⟨hwrites.rentalConditions, hwrites.now, hwrites.reserve⟩, hwrites.rentalRequests,
            hwrites.rentalAgreements, hwrites.cycles⟩
        exact hboth.trans_quiet (Quiet.dropGuards s₂ _)

theorem effect_resumeRefundTransfer (caller : Principal) (toBeRefunded : Tokens) (answer : Answer)
    (s : State) :
    (resumeRefundTransfer caller toBeRefunded answer s).Leaving fun s' ↦
      Effect s s' (.refundTransfer caller toBeRefunded) answer := by
  unfold resumeRefundTransfer
  split
  · exact .quiet _ _ (Quiet.dropGuards s _)
  · rename_i blockId
    dsimp only
    split
    · exact .quiet _ _ ((Quiet.persistEvent s _ _).trans (Quiet.dropGuards _ _))
    · rename_i rentalRequest hstored
      split
      · trivial
      · rename_i s' hremove
        obtain ⟨stored, -, rfl⟩ := removeRentalRequest_eq_some hremove
        refine .cancelled caller toBeRefunded blockId rentalRequest hstored ?_
        have hburn := cyclesBurn_add s rentalRequest.lockedAmountCycles
        refine ⟨⟨rfl, rfl, rfl⟩, rfl, rfl, ?_⟩
        change (s.cyclesBurn rentalRequest.lockedAmountCycles).2.cycles +
          exchangeRateFee * s.exchangeRateCalls + (s.cyclesBurn rentalRequest.lockedAmountCycles).1
            = _
        omega
  · trivial
  · trivial

theorem effect_resumeTopUpConvert (subnetId : Principal) (rentalAgreement : RentalAgreement)
    (userIcpBalance icpAmountForCycles : Tokens) (stage : ConvertStage) (answer : Answer)
    (s : State) :
    (resumeTopUpConvert subnetId rentalAgreement userIcpBalance icpAmountForCycles stage answer
      s).Leaving fun s' ↦
        Effect s s'
          (.topUpConvert subnetId rentalAgreement userIcpBalance icpAmountForCycles stage)
          answer := by
  unfold resumeTopUpConvert
  split
  · trivial
  · exact .quiet _ _ (Quiet.refl s)
  · rename_i result hresult
    cases result with
    | error e => exact (framed_topUpFailed framing_quiet _ _ _ s).mono fun _ ↦ .quiet _ _
    | ok converted =>
      obtain ⟨blockIndex, actualCycles⟩ := converted
      obtain ⟨rfl, rfl⟩ := convertIcpToCycles_eq_ok hresult
      unfold topUpAfterConvert
      dsimp only
      split
      · trivial
      · rename_i conditions hconditions
        split
        · trivial
        · split
          · trivial
          · split
            · trivial
            · rename_i s' hupdate
              obtain ⟨stored, hstored, rfl⟩ := updateRentalAgreement_eq_some hupdate
              refine .toppedUp subnetId rentalAgreement stored userIcpBalance icpAmountForCycles
                blockIndex actualCycles conditions hconditions hstored ?_
              exact ⟨⟨rfl, rfl, rfl⟩, rfl, rfl, rfl⟩

theorem effect_resumeLockingConvert (nowNanos : ℕ) (rentalRequest : RentalRequest)
    (tenPercentIcp : Tokens) (rest : List RentalRequest) (stage : ConvertStage) (answer : Answer)
    (s : State) :
    (resumeLockingConvert nowNanos rentalRequest tenPercentIcp rest stage answer s).Leaving
      fun s' ↦
        Effect s s' (.lockingConvert nowNanos rentalRequest tenPercentIcp rest stage) answer := by
  unfold resumeLockingConvert
  split
  · trivial
  · exact .quiet _ _ (Quiet.refl s)
  · rename_i result hresult
    cases result with
    | error e =>
      refine (framed_lockingLoop framing_quiet nowNanos rest _).mono fun s' hs' ↦ .quiet _ _ ?_
      exact ((Quiet.persistEvent s _ _).trans (Quiet.dropGuards _ _)).trans hs'
    | ok converted =>
      obtain ⟨blockIndex, lockedCycles⟩ := converted
      obtain ⟨rfl, rfl⟩ := convertIcpToCycles_eq_ok hresult
      unfold lockingAfterConvert
      dsimp only
      split
      · trivial
      · split
        · trivial
        · rename_i s₁ hupdate
          obtain ⟨stored, hstored, hwrites⟩ := updateRentalRequest_eq_some hupdate
          refine (framed_lockingLoop framing_quiet nowNanos rest _).mono fun s' hs' ↦ ?_
          refine .locked nowNanos rentalRequest stored tenPercentIcp rest blockIndex lockedCycles
            hstored ?_
          have hevents := (Quiet.persistEvent s
            (.transferSuccess tenPercentIcp blockIndex) (some rentalRequest.user)).trans
            (Quiet.persistEvent _ (.lockingSuccess rentalRequest.user tenPercentIcp lockedCycles)
              (some rentalRequest.user))
          exact (hevents.trans_writes hwrites).trans_quiet ((Quiet.dropGuards s₁ _).trans hs')

/-- Every resumed segment has one of the listed effects. -/
theorem resume_effect (frame : Frame) (answer : Answer) (s : State) :
    (resume frame answer s).Leaving fun s' ↦ Effect s s' frame answer := by
  have hquiet {outcome : Segment} (h : outcome.Leaving (Quiet s)) :
      outcome.Leaving fun s' ↦ Effect s s' frame answer := h.mono fun _ ↦ .quiet _ _
  cases frame with
  | todaysPrice conditions prevMidnight =>
    exact hquiet (framed_resumeTodaysPrice framing_quiet Quiet.cacheRate _ _ _ s)
  | rentalRequestRate payload conditions time =>
    exact hquiet (framed_resumeRentalRequestRate framing_quiet Quiet.cacheRate _ _ _ _ s)
  | rentalRequestBalance payload neededIcp =>
    exact hquiet (framed_resumeRentalRequestBalance framing_quiet _ _ _ s)
  | rentalRequestConvert payload neededIcp lockAmountIcp stage =>
    exact effect_resumeRentalRequestConvert payload neededIcp lockAmountIcp stage answer s
  | createConvert payload rentalRequest period remainingIcp stage =>
    exact hquiet (framed_resumeCreateConvert framing_quiet _ _ _ _ _ _ s)
  | createAuthorize payload rentalRequest rentalAgreement =>
    exact effect_resumeCreateAuthorize payload rentalRequest rentalAgreement answer s
  | refundBalance caller => exact hquiet (framed_resumeRefundBalance framing_quiet _ _ s)
  | refundTransfer caller toBeRefunded =>
    exact effect_resumeRefundTransfer caller toBeRefunded answer s
  | estimateRate rentalAgreement icp prevMidnight =>
    exact hquiet (framed_resumeEstimate framing_quiet Quiet.cacheRate _ _ _ _ s)
  | topUpBalance subnetId rentalAgreement =>
    exact hquiet (framed_resumeTopUpBalance framing_quiet _ _ _ s)
  | topUpConvert subnetId rentalAgreement userIcpBalance icpAmountForCycles stage =>
    exact effect_resumeTopUpConvert subnetId rentalAgreement userIcpBalance icpAmountForCycles
      stage answer s
  | subnetAdmins payload => exact hquiet (framed_resumeSubnetAdmins framing_quiet _ _ s)
  | lockingConvert nowNanos rentalRequest tenPercentIcp rest stage =>
    exact effect_resumeLockingConvert nowNanos rentalRequest tenPercentIcp rest stage answer s

end SubnetRental.Lifecycle
