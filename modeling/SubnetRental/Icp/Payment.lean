import SubnetRental.Icp.Creation

/-!
# A requester who paid gets the agreement

With a ledger that accepts exactly the covered transfers and a CMC that accepts every call
(`cooperative`), the creation of an agreement ends with the agreement exactly when the request is
not fully locked and the subaccount holds the rest of the cost (`ensures_granted_iff`). After ten
tenths less than a fee is left of the cost, and the creation traps when it subtracts the fee from
it. `fully_paid_granted_iff` follows the ICP from the proposal on: a requester who held the cost
gets the agreement exactly when the request is not fully locked.
-/

set_option autoImplicit false
set_option relaxedAutoImplicit false

namespace SubnetRental.Icp

open Canister Lifecycle Foundation.GuardedCalls Foundation.MachineInteger
open Foundation.TransitionSystem Foundation.TreeMapTotals Std

/-- A truthful ledger and a CMC that accepts every call. -/
def cooperative (frame : Frame) (answer : Answer) (w : World) : Prop :=
  truthful w frame.outgoing answer ∧ successful frame.outgoing answer

instance (frame : Frame) (answer : Answer) (w : World) : Decidable (cooperative frame answer w) :=
  inferInstanceAs (Decidable (_ ∧ _))

/-- The creation succeeded: the request became an agreement over the whole cost. -/
structure Granted (payload : CreateRentalAgreementPayload) (r : RentalRequest) (w : World)
    (result : Except Trap Response) : Prop where
  replied : result = .ok (.executed (.ok ()))
  request : w.canister.rentalRequests[payload.user]? = none
  agreement : ∃ a, w.canister.rentalAgreements[payload.subnetId]? = some a ∧
    a.user = payload.user ∧ a.totalIcpPaid = r.initialCostIcp

/-- The rest of the cost covers the fee until the request is fully locked. -/
theorem fee_le_remainingIcp_iff {now : ℕ} {r : RentalRequest} (h : WellFormedRequest now r) :
    defaultFee ≤ remainingIcp r ↔ ¬ r.FullyLocked := by
  have hfee : defaultFee.e8s ≤ r.tenPercentIcp.e8s := h.fee_le
  rw [Tokens.le_iff, remainingIcp, Tokens.sub_e8s]
  constructor
  · intro hle hfull
    rw [fullyLocked_iff h] at hfull
    have hremainder : r.initialCostIcp.e8s < r.tenPercentIcp.e8s * 10 + 10 :=
      Nat.lt_div_mul_add (by decide)
    have hten : 10 ≤ defaultFee.e8s := by decide
    omega
  · intro hnot
    have hnext := lockedAmountIcp_add_le h hnot
    omega

/-- The conversion of the rest of the cost awaits the ledger, or the subtraction of the fee
underflows. -/
theorem beginCreateConvert_eq {now : ℕ} (payload : CreateRentalAgreementPayload) {r : RentalRequest}
    (h : WellFormedRequest now r) (conditions : RentalConditions) (s : State) :
    beginCreateConvert payload r conditions s =
      if r.FullyLocked then .trap .tokensUnderflow
      else .suspend s (.createConvert payload r (initialRentalPeriodNanos conditions)
        (remainingIcp r) .transfer) := by
  have hle : ¬ r.initialCostIcp < r.lockedAmountIcp := Nat.not_lt_of_le (lockedAmountIcp_le h)
  unfold beginCreateConvert
  dsimp only
  rw [if_neg hle]
  change beginConvert (remainingIcp r) _ s = _
  split_ifs with hfull
  · refine beginConvert_of_lt (Nat.lt_of_not_le fun hfee ↦ ?_) _ s
    exact (fee_le_remainingIcp_iff h).mp hfee hfull
  · exact beginConvert_of_le ((fee_le_remainingIcp_iff h).mpr hfull) _ s

/-- A creation whose guards are free awaits the ledger for the rest of the cost, unless the request
is fully locked. -/
theorem executeCreateRentalAgreement_eq {payload : CreateRentalAgreementPayload} {s : State}
    {r : RentalRequest} (hs : Consistent s)
    (hstored : s.rentalRequests[payload.user]? = some r)
    (hrented : s.rentalAgreements[payload.subnetId]? = none)
    (hfree : Disjoint (createGuards payload) s.locks) :
    ∃ s' period, executeCreateRentalAgreement governanceCanisterId payload s =
        (if r.FullyLocked then .trap .tokensUnderflow
        else .suspend s' (.createConvert payload r period (remainingIcp r) .transfer)) ∧
      Quiet s s' := by
  have hrequest : requestLock payload.user ∉ s.locks :=
    Finset.disjoint_left.mp hfree (Finset.mem_insert_self _ _)
  have hnns : (⟨payload.subnetId, .nns⟩ : Lock) ∉ insert (requestLock payload.user) s.locks := by
    rw [Finset.mem_insert, not_or]
    have htag : Tag.nns ≠ Tag.request := by decide
    refine ⟨fun h ↦ htag (congrArg Lock.tag h), ?_⟩
    exact Finset.disjoint_left.mp hfree (Finset.mem_insert_of_mem (Finset.mem_singleton_self _))
  have hconditions := hs.conditions r.rentalConditionId
  refine ⟨_, initialRentalPeriodNanos (standardConditions r.rentalConditionId), ?_,
    (Quiet.insertLock s (requestLock payload.user)).trans
      (Quiet.insertLock _ ⟨payload.subnetId, .nns⟩)⟩
  unfold executeCreateRentalAgreement State.callerGuard
  simp only [ne_eq, not_true_eq_false, if_false, hrequest, hnns, State.getRentalRequest,
    State.getRentalAgreement, State.getRentalConditions, hstored, hrented, hconditions,
    Option.isSome_none, Bool.false_eq_true]
  exact beginCreateConvert_eq payload (hs.request_wellFormed _ r hstored) _ _

/-- The last segment of a creation, when the CMC did not fail. -/
theorem resumeCreateAuthorize_eq {payload : CreateRentalAgreementPayload} {r : RentalRequest}
    {a : RentalAgreement} {answer : Answer} {s : State}
    (hanswer : ∀ text, answer ≠ .callFailed text)
    (hstored : s.rentalRequests[payload.user]? = some r)
    (hrented : s.rentalAgreements[a.subnetId]? = none) :
    ∃ s', resumeCreateAuthorize payload a answer s = .reply s' (.executed (.ok ())) ∧
      s'.rentalRequests = s.rentalRequests.erase payload.user ∧
      s'.rentalAgreements = s.rentalAgreements.insert a.subnetId a := by
  unfold resumeCreateAuthorize
  split
  · exact absurd rfl (hanswer _)
  · simp only [State.removeRentalRequest, hstored, State.persistRentalAgreement, hrented]
    exact ⟨_, rfl, rfl, rfl⟩

/-- The end of a creation, when the CMC does not fail. -/
theorem ensuresFrom_createAuthorize {payload : CreateRentalAgreementPayload} {r : RentalRequest}
    {a : RentalAgreement} {w : World} (hknows : Knows (.createAuthorize payload r a) w.canister) :
    service.EnsuresFrom cooperative (.createAuthorize payload r a) w (Granted payload r) := by
  refine Service.ensuresFrom_of_answers ⟨.authorized, rfl, rfl⟩ ?_
  rintro answer ⟨-, hsuccessful⟩
  have hanswer : ∀ text, answer ≠ .callFailed text := by
    rintro text rfl
    cases hsuccessful
  have hknows' := knows_served hknows answer
  generalize service.serve (.createAuthorize payload r a) answer w = v at hknows' ⊢
  obtain ⟨hstored, hrented, conditions, convertedCycles, nowNanos, -, -, rfl⟩ := hknows'
  obtain ⟨s', hresume, hrequests, hagreements⟩ := resumeCreateAuthorize_eq
    (a := grantedAgreement payload r (initialRentalPeriodNanos conditions) convertedCycles nowNanos)
    hanswer hstored hrented
  change service.Continues cooperative _ v _
    ((resumeCreateAuthorize payload _ answer v.canister).mapState _)
  rw [hresume]
  refine ⟨rfl, ?_, grantedAgreement payload r (initialRentalPeriodNanos conditions)
    convertedCycles nowNanos, ?_, rfl, rfl⟩
  · change s'.rentalRequests[payload.user]? = none
    rw [hrequests, getElem?_erase_ite, if_pos rfl]
  · change s'.rentalAgreements[payload.subnetId]? = _
    rw [hagreements]
    exact ExtTreeMap.getElem?_insert_self

/-- A creation whose transfer was accepted is granted. -/
theorem ensuresFrom_createNotify {payload : CreateRentalAgreementPayload} {r : RentalRequest}
    {period : ℕ} {icp : Tokens} {blockIndex : ℕ} {w : World}
    (hknows : Knows (.createConvert payload r period icp (.notify blockIndex)) w.canister) :
    service.EnsuresFrom cooperative (.createConvert payload r period icp (.notify blockIndex)) w
      (Granted payload r) := by
  refine Service.ensuresFrom_of_answers ⟨.notifyTopUp (.ok 0), rfl, rfl⟩ ?_
  rintro answer ⟨-, hsuccessful⟩
  have hknows' := knows_served hknows answer
  generalize service.serve (.createConvert payload r period icp (.notify blockIndex)) answer w = v
    at hknows' ⊢
  cases answer <;> try cases hsuccessful
  case notifyTopUp result =>
    cases result with
    | error e => cases hsuccessful
    | ok convertedCycles =>
      have hcaller : governanceCanisterId = governanceCanisterId := rfl
      have hinformed := informed_resumeCreateConvert (.notifyTopUp (.ok convertedCycles)) hcaller
        hknows'
      exact ensuresFrom_createAuthorize hinformed.2

/-- With a truthful ledger and a cooperative CMC the creation is granted when the subaccount covers
the transfer. -/
theorem ensuresFrom_createTransfer {payload : CreateRentalAgreementPayload} {r : RentalRequest}
    {period : ℕ} {icp : Tokens} {w : World}
    (hknows : Knows (.createConvert payload r period icp .transfer) w.canister)
    (hcovers : Covers w payload.user (icp - defaultFee)) :
    service.EnsuresFrom cooperative (.createConvert payload r period icp .transfer) w
      (Granted payload r) := by
  refine Service.ensuresFrom_of_answers ⟨.transfer (.ok 0), decide_eq_true hcovers, rfl⟩ ?_
  rintro answer ⟨htruthful, -⟩
  have hknows' := knows_served hknows answer
  cases answer <;> try cases htruthful
  case transfer result =>
    cases result with
    | error e => exact absurd hcovers (of_decide_eq_true htruthful)
    | ok blockIndex => exact ensuresFrom_createNotify hknows'

/-- With a truthful ledger the creation fails when the subaccount does not cover the transfer. -/
theorem ensuresFrom_createRefused {payload : CreateRentalAgreementPayload} {r : RentalRequest}
    {period : ℕ} {icp : Tokens} {w : World}
    (hcovers : ¬ Covers w payload.user (icp - defaultFee)) :
    service.EnsuresFrom cooperative (.createConvert payload r period icp .transfer) w
      fun _ result ↦ result ≠ .ok (.executed (.ok ())) := by
  refine Service.ensuresFrom_of_answers
    ⟨.transfer (.error ⟨"InsufficientFunds"⟩), decide_eq_true hcovers, rfl⟩ ?_
  rintro answer ⟨htruthful, -⟩
  cases answer <;> try cases htruthful
  case transfer result =>
    cases result with
    | error e => exact nofun
    | ok blockIndex => exact absurd (of_decide_eq_true htruthful) hcovers

/-- A creation for a fully locked request traps before its first await. -/
theorem ensures_creationTraps {payload : CreateRentalAgreementPayload} {r : RentalRequest}
    {w : World} (hw : Consistent w.canister)
    (hstored : w.canister.rentalRequests[payload.user]? = some r)
    (hrented : w.canister.rentalAgreements[payload.subnetId]? = none)
    (hfree : Disjoint (createGuards payload) w.canister.locks) (hfull : r.FullyLocked) :
    service.Ensures cooperative (.executeCreateRentalAgreement governanceCanisterId payload) w
      fun w' result ↦ result = .error .tokensUnderflow ∧ w' = w := by
  obtain ⟨s', period, hsegment, -⟩ := executeCreateRentalAgreement_eq hw hstored hrented hfree
  rw [if_pos hfull] at hsegment
  refine Service.ensures_of_trap ?_ ⟨rfl, rfl⟩
  change (executeCreateRentalAgreement governanceCanisterId payload w.canister).mapState _ = _
  rw [hsegment]
  rfl

/-- In any consistent state in which the guards of the creation are free, the creation is granted
exactly when the request is not fully locked and the subaccount holds the rest of the cost. -/
theorem ensures_granted_iff {payload : CreateRentalAgreementPayload} {r : RentalRequest}
    {w : World} (hw : Consistent w.canister)
    (hstored : w.canister.rentalRequests[payload.user]? = some r)
    (hrented : w.canister.rentalAgreements[payload.subnetId]? = none)
    (hfree : Disjoint (createGuards payload) w.canister.locks) :
    service.Ensures cooperative (.executeCreateRentalAgreement governanceCanisterId payload) w
        (Granted payload r) ↔
      ¬ r.FullyLocked ∧
        r.initialCostIcp.e8s ≤ r.lockedAmountIcp.e8s + w.balance payload.user := by
  by_cases hfull : r.FullyLocked
  · refine iff_of_false (fun hgranted ↦ ?_) fun h ↦ h.1 hfull
    have htraps := ensures_creationTraps hw hstored hrented hfree hfull
    refine htraps.not_of_contradicts (fun _ _ htrapped hsucceeds ↦ ?_) hgranted
    obtain ⟨htrapped, -⟩ := htrapped
    rw [hsucceeds.replied] at htrapped
    cases htrapped
  obtain ⟨s', period, hsegment, hquiet⟩ := executeCreateRentalAgreement_eq hw hstored hrented hfree
  rw [if_neg hfull] at hsegment
  have hknows : Knows (.createConvert payload r period (remainingIcp r) .transfer) s' := by
    have hsuspending := executeCreateRentalAgreement_suspending governanceCanisterId payload
      w.canister
    rw [hsegment] at hsuspending
    exact hsuspending.1
  have hstart : service.start (.executeCreateRentalAgreement governanceCanisterId payload) w =
      .suspend { w with canister := s' }
        (.createConvert payload r period (remainingIcp r) .transfer) := by
    change (executeCreateRentalAgreement governanceCanisterId payload w.canister).mapState _ = _
    rw [hsegment]
    rfl
  have hfee : defaultFee.e8s ≤ (remainingIcp r).e8s :=
    (fee_le_remainingIcp_iff (hw.request_wellFormed _ r hstored)).mpr hfull
  have hcovers : Covers { w with canister := s' } payload.user (remainingIcp r - defaultFee) ↔
      r.initialCostIcp.e8s ≤ r.lockedAmountIcp.e8s + w.balance payload.user := by
    rw [remainingIcp, Tokens.sub_e8s] at hfee
    rw [Covers, Tokens.sub_e8s, remainingIcp, Tokens.sub_e8s]
    dsimp only
    omega
  rw [and_iff_right hfull, ← hcovers]
  constructor
  · intro hgranted
    by_contra hnot
    have hrefused := Service.ensures_of_suspend hstart (ensuresFrom_createRefused hnot)
    exact hrefused.not_of_contradicts (fun _ _ hfails hsucceeds ↦ hfails hsucceeds.replied) hgranted
  · intro h
    exact Service.ensures_of_suspend hstart (ensuresFrom_createTransfer hknows h)

/-! ### From the proposal on -/

/-- If a proposal of a user who held `held` succeeded, the user held the cost, and all that has left
the subaccount is the first tenth. -/
def OpenedFrom (user : Principal) (held : ℕ) (w : World) (result : Except Trap Response) : Prop :=
  result = .ok (.executed (.ok ())) →
    ∃ r, w.canister.rentalRequests[user]? = some r ∧ r.lockedAmountIcp = r.tenPercentIcp ∧
      r.initialCostIcp.e8s ≤ held ∧ held ≤ w.balance user + r.tenPercentIcp.e8s

/-- A proposal that ends in an error opens no request. -/
theorem openedFrom_error {user : Principal} {held : ℕ} {w : World} {e : ExecuteProposalError} :
    OpenedFrom user held w (.ok (.executed (.error e))) := by
  intro h
  cases h

theorem openedFrom_trap {user : Principal} {held : ℕ} {w : World} {reason : Trap} :
    OpenedFrom user held w (.error reason) := by
  intro h
  cases h

theorem ensuresFrom_requestNotify {payload : SubnetRentalProposalPayload} {neededIcp : Tokens}
    {blockIndex held : ℕ} {w : World} (hnone : w.canister.rentalRequests[payload.user]? = none)
    (hneeded : neededIcp.e8s ≤ held)
    (hheld : held ≤ w.balance payload.user + neededIcp.e8s / 10) :
    service.EnsuresFrom cooperative
      (.rentalRequestConvert payload neededIcp ⟨neededIcp.e8s / 10⟩ (.notify blockIndex)) w
        (OpenedFrom payload.user held) := by
  refine Service.ensuresFrom_of_answers ⟨.notifyTopUp (.ok 0), rfl, rfl⟩ ?_
  rintro answer ⟨-, hsuccessful⟩
  cases answer <;> try cases hsuccessful
  case notifyTopUp result =>
    cases result with
    | error e => cases hsuccessful
    | ok lockedCycles =>
      change service.Continues cooperative _ _ _ ((rentalRequestAfterConvert payload neededIcp
        ⟨neededIcp.e8s / 10⟩ { w.canister with cycles := w.canister.cycles + lockedCycles }
        (.ok (blockIndex, lockedCycles))).mapState _)
      unfold rentalRequestAfterConvert State.persistRentalRequest
      simp only [State.persistEvent_rentalRequests, hnone]
      exact fun _ ↦ ⟨_, ExtTreeMap.getElem?_insert_self, rfl, hneeded, hheld⟩

theorem ensuresFrom_requestTransfer {payload : SubnetRentalProposalPayload} {neededIcp : Tokens}
    {w : World} (hnone : w.canister.rentalRequests[payload.user]? = none)
    (hneeded : neededIcp.e8s ≤ w.balance payload.user)
    (hfee : defaultFee.e8s ≤ neededIcp.e8s / 10) :
    service.EnsuresFrom cooperative
      (.rentalRequestConvert payload neededIcp ⟨neededIcp.e8s / 10⟩ .transfer) w
        (OpenedFrom payload.user (w.balance payload.user)) := by
  have hsome : ∃ answer, cooperative
      (.rentalRequestConvert payload neededIcp ⟨neededIcp.e8s / 10⟩ .transfer) answer w := by
    by_cases hcovers : Covers w payload.user (⟨neededIcp.e8s / 10⟩ - defaultFee)
    · exact ⟨.transfer (.ok 0), decide_eq_true hcovers, rfl⟩
    · exact ⟨.transfer (.error ⟨"InsufficientFunds"⟩), decide_eq_true hcovers, rfl⟩
  refine Service.ensuresFrom_of_answers hsome ?_
  rintro answer ⟨htruthful, -⟩
  cases answer <;> try cases htruthful
  case transfer result =>
    cases result with
    | error e => exact openedFrom_error
    | ok blockIndex =>
      refine ensuresFrom_requestNotify hnone hneeded ?_
      have hbalance := debit_balance w payload.user payload.user
        (⟨neededIcp.e8s / 10⟩ - defaultFee)
      rw [if_pos rfl] at hbalance
      change _ ≤ (w.debit payload.user (⟨neededIcp.e8s / 10⟩ - defaultFee)).balance payload.user + _
      rw [hbalance, Tokens.sub_e8s]
      dsimp only
      omega

theorem ensuresFrom_requestBalance {payload : SubnetRentalProposalPayload} {neededIcp : Tokens}
    {w : World} (hnone : w.canister.rentalRequests[payload.user]? = none) :
    service.EnsuresFrom cooperative (.rentalRequestBalance payload neededIcp) w
      (OpenedFrom payload.user (w.balance payload.user)) := by
  refine Service.ensuresFrom_of_answers
    ⟨.accountBalance ⟨w.balance payload.user⟩, decide_eq_true rfl, rfl⟩ ?_
  rintro answer ⟨htruthful, -⟩
  cases answer <;> try cases htruthful
  case accountBalance availableIcp =>
    have hbalance : availableIcp.e8s = w.balance payload.user := of_decide_eq_true htruthful
    change service.Continues cooperative _ w _
      ((resumeRentalRequestBalance payload neededIcp (.accountBalance availableIcp)
        w.canister).mapState _)
    unfold resumeRentalRequestBalance
    dsimp only
    split
    · exact openedFrom_error
    · rename_i hless
      refine beginConvert_elim openedFrom_trap fun hfee ↦ ensuresFrom_requestTransfer hnone ?_ hfee
      change neededIcp.e8s ≤ w.balance payload.user
      rw [← hbalance]
      exact Nat.le_of_not_lt hless

/-- A proposal whose price is known. -/
theorem continues_rentalRequestAfterRate {payload : SubnetRentalProposalPayload}
    {conditions : RentalConditions} {rate : ℕ × ℕ} {frame : Frame} {w v : World} {s : State}
    (hnone : s.rentalRequests[payload.user]? = none) :
    service.Continues cooperative frame v (OpenedFrom payload.user (w.balance payload.user))
      ((rentalRequestAfterRate payload conditions rate s).mapState
        fun s ↦ { w with canister := s }) := by
  unfold rentalRequestAfterRate
  split
  · exact openedFrom_error
  · exact ensuresFrom_requestBalance (w := { w with canister := s }) hnone

theorem ensuresFrom_requestRate {payload : SubnetRentalProposalPayload}
    {conditions : RentalConditions} {time : ℕ} {w : World}
    (hnone : w.canister.rentalRequests[payload.user]? = none) :
    service.EnsuresFrom cooperative (.rentalRequestRate payload conditions time) w
      (OpenedFrom payload.user (w.balance payload.user)) := by
  refine Service.ensuresFrom_of_answers ⟨.authorized, rfl, rfl⟩ ?_
  rintro answer -
  change service.Continues cooperative _ w _
    ((resumeRentalRequestRate payload conditions time answer w.canister).mapState _)
  unfold resumeRentalRequestRate
  split
  · exact openedFrom_trap
  · exact openedFrom_error
  · rename_i s rate hrate
    refine continues_rentalRequestAfterRate ?_
    rw [(framed_receiveExchangeRate framing_quiet Quiet.cacheRate hrate).rentalRequests, hnone]

theorem continues_executeRentalRequestProposal (caller : Principal)
    (payload : SubnetRentalProposalPayload) (frame : Frame) (w v : World) :
    service.Continues cooperative frame v (OpenedFrom payload.user (w.balance payload.user))
      ((executeRentalRequestProposal caller payload w.canister).mapState
        fun s ↦ { w with canister := s }) := by
  unfold executeRentalRequestProposal
  split
  · exact openedFrom_error
  · split
    · exact openedFrom_trap
    · rename_i s hguard
      split
      · exact openedFrom_error
      · rename_i hrequest
        have hnone : s.rentalRequests[payload.user]? = none := by
          simpa [State.getRentalRequest] using hrequest
        split
        · exact openedFrom_error
        · split
          · exact openedFrom_trap
          · split
            · exact openedFrom_error
            · split
              · exact openedFrom_error
              · dsimp only
                split
                · exact continues_rentalRequestAfterRate hnone
                · rename_i t hrate
                  refine ensuresFrom_requestRate (w := { w with canister := t }) ?_
                  change t.rentalRequests[payload.user]? = none
                  rw [(framed_getExchangeRate framing_quiet hrate).rentalRequests, hnone]
                · exact openedFrom_trap

/-- A proposal that succeeds found the cost on the subaccount and took a tenth of it. -/
theorem openedFrom_of_completes {caller : Principal} {payload : SubnetRentalProposalPayload}
    {w w' : World} {result : Except Trap Response}
    (h : service.Completes cooperative (.executeRentalRequestProposal caller payload) w w' result) :
    OpenedFrom payload.user (w.balance payload.user) w' result := by
  have hcontinues (frame : Frame) :
      service.Continues cooperative frame w (OpenedFrom payload.user (w.balance payload.user))
        (service.start (.executeRentalRequestProposal caller payload) w) :=
    continues_executeRentalRequestProposal caller payload frame w w
  cases h with
  | trap hstart => exact openedFrom_trap
  | reply hstart =>
    have hreply := hcontinues (.refundBalance caller)
    rw [hstart] at hreply
    exact hreply
  | @suspend frame t _ _ hstart hrest =>
    have hsuspend := hcontinues frame
    rw [hstart] at hsuspend
    exact hsuspend.2 _ _ hrest

/-- Without suspended calls every guard is free. -/
theorem disjoint_of_idle {cycles : ℕ} {c : Configuration} (h : (system cycles).Reachable c)
    (hidle : c.calls = ∅) (guards : Finset Lock) : Disjoint guards c.state.canister.locks := by
  rw [Finset.disjoint_right]
  intro lock hheld
  obtain ⟨id, call, hcall, -⟩ := ((sound_of_reachable h).held_iff lock).mp hheld
  exact absurd hcall (not_called_of_idle hidle)

/-- A requester who paid gets the agreement: in any reachable state in which the guards are free,
the creation is granted exactly when the request is not fully locked and the subaccount holds the
rest of the cost. From a proposal that succeeded on, in sequential runs in which only conversions
take from the subaccount, that is so exactly when the request is not fully locked. -/
theorem fully_paid_granted_iff {cycles : ℕ} :
    (∀ c payload r, (system cycles).Reachable c →
      c.state.canister.rentalRequests[payload.user]? = some r →
        c.state.canister.rentalAgreements[payload.subnetId]? = none →
          Disjoint (createGuards payload) c.state.canister.locks →
            (service.Ensures cooperative
                (.executeCreateRentalAgreement governanceCanisterId payload) c.state
                (Granted payload r) ↔
              ¬ r.FullyLocked ∧
                r.initialCostIcp.e8s ≤ r.lockedAmountIcp.e8s + c.state.balance payload.user)) ∧
      ∀ proposal payload w c₁ c r₁,
        service.Completes cooperative
          (.executeRentalRequestProposal governanceCanisterId proposal) w c₁.state
          (.ok (.executed (.ok ()))) →
        (system cycles).Reachable c₁ → c₁.calls = ∅ →
        c₁.state.canister.rentalRequests[proposal.user]? = some r₁ →
        (system cycles).RunWithin (fun c a ↦ accountedSteps proposal.user c a) c₁ c → c.calls = ∅ →
        payload.user = proposal.user →
        c.state.canister.rentalAgreements[payload.subnetId]? = none →
          ∃ r, c.state.canister.rentalRequests[payload.user]? = some r ∧
            r.initialCostIcp = r₁.initialCostIcp ∧
            (service.Ensures cooperative
                (.executeCreateRentalAgreement governanceCanisterId payload) c.state
                (Granted payload r) ↔
              ¬ r.FullyLocked) := by
  have hiff : ∀ c payload r, (system cycles).Reachable c →
      c.state.canister.rentalRequests[payload.user]? = some r →
        c.state.canister.rentalAgreements[payload.subnetId]? = none →
          Disjoint (createGuards payload) c.state.canister.locks →
            (service.Ensures cooperative
                (.executeCreateRentalAgreement governanceCanisterId payload) c.state
                (Granted payload r) ↔
              ¬ r.FullyLocked ∧
                r.initialCostIcp.e8s ≤ r.lockedAmountIcp.e8s + c.state.balance payload.user) := by
    intro c payload r hreach hstored hrented hfree
    exact ensures_granted_iff (sound_of_reachable hreach).inv.consistent hstored hrented hfree
  refine ⟨hiff, ?_⟩
  rintro proposal payload w c₁ c r₁ hproposal hreach₁ hidle₁ hstored₁ hrun hidle huser hrented
  obtain ⟨r, hstored, hcost, hsum⟩ := accounted_of_run hreach₁ hidle₁ hstored₁ hrun hidle
  rw [← huser] at hstored
  refine ⟨r, hstored, hcost, ?_⟩
  have hreach : (system cycles).Reachable c := System.ReachableWithin.append hreach₁ hrun.run
  rw [hiff c payload r hreach hstored hrented (disjoint_of_idle hreach hidle _)]
  obtain ⟨q, hq, hfirst, hpaid, hleft⟩ := openedFrom_of_completes hproposal rfl
  obtain rfl : r₁ = q := Option.some.inj (hstored₁.symm.trans hq)
  have hbalance := balance_add_debited_mono hrun proposal.user
  have hfirst' : r₁.lockedAmountIcp.e8s = r₁.tenPercentIcp.e8s := congrArg Tokens.e8s hfirst
  have hcost' : r.initialCostIcp.e8s = r₁.initialCostIcp.e8s := congrArg Tokens.e8s hcost
  have hcovered : r.initialCostIcp.e8s ≤ r.lockedAmountIcp.e8s + c.state.balance payload.user := by
    rw [huser]
    omega
  exact and_iff_left hcovered

/-! ### An exact payment -/

theorem exactProposal_completes :
    service.Completes cooperative
      (.executeRentalRequestProposal governanceCanisterId aliceProposal)
      (installedWorld (10 ^ 12) fun _ ↦ exactCost) exactConfiguration.state
      (.ok (.executed (.ok ()))) := by
  have hend : service.completeAlone
      (.executeRentalRequestProposal governanceCanisterId aliceProposal)
      [.exchangeRate (.ok (3_600_000_000, 9)), .accountBalance ⟨exactCost⟩, .transfer (.ok 1),
        .notifyTopUp (.ok (10 ^ 16))] (installedWorld (10 ^ 12) fun _ ↦ exactCost) =
      some (exactConfiguration.state, .ok (.executed (.ok ()))) := rfl
  exact Service.completes_of_completeAlone hend (by decide +kernel)

theorem exactConfiguration_idle : exactConfiguration.calls = ∅ :=
  ExtTreeMap.isEmpty_iff.mp (by decide +kernel)

/-- The answers of a run are those of a truthful ledger and a CMC that accepts every call. -/
def cooperativeSteps (c : Configuration) : Label → Bool
  | .serve id answer =>
    match c.calls[id]? with
    | some call => cooperative call.frame answer c.state
    | none => true
  | _ => true

/-- Every 30 days a tenth is locked, after a number of passes. -/
def monthlyLockings (passes months : ℕ) : List Label :=
  (List.range months).flatMap fun k ↦
    .environment (.pass (30 * secondsPerDay * billion)) ::
      undisturbed .locking (passes + k + 1)
        [.transfer (.ok (passes + k + 2)), .notifyTopUp (.ok (10 ^ 16))]

theorem eightLockings_isSome :
    ((system (10 ^ 12)).performWithin
      (fun c a ↦ accountedSteps aliceProposal.user c a ∧ cooperativeSteps c a) exactConfiguration
        (monthlyLockings 0 8)).isSome := by
  decide +kernel

/-- Nine of the ten tenths are locked. -/
def nineTenthsConfiguration : Configuration :=
  ((system (10 ^ 12)).performWithin
    (fun c a ↦ accountedSteps aliceProposal.user c a ∧ cooperativeSteps c a) exactConfiguration
      (monthlyLockings 0 8)).get eightLockings_isSome

theorem run_nineTenthsConfiguration :
    (system (10 ^ 12)).RunWithin
      (fun c a ↦ accountedSteps aliceProposal.user c a ∧ cooperativeSteps c a) exactConfiguration
        nineTenthsConfiguration :=
  System.runWithin_of_performWithin (Option.some_get eightLockings_isSome).symm

theorem nineTenthsConfiguration_idle : nineTenthsConfiguration.calls = ∅ :=
  ExtTreeMap.isEmpty_iff.mp (by decide +kernel)

theorem nineTenthsConfiguration_stored :
    (nineTenthsConfiguration.state.canister.rentalRequests[aliceProposal.user]?).isSome := by
  decide +kernel

/-- Right after the proposal the creation is granted, and so it is after eight passes. -/
theorem fully_paid_granted_exact :
    service.Ensures cooperative (.executeCreateRentalAgreement governanceCanisterId aliceCreation)
        exactConfiguration.state (Granted aliceCreation
          ((exactConfiguration.state.canister.rentalRequests[aliceProposal.user]?).get
            exactConfiguration_stored)) ∧
      ∃ r, nineTenthsConfiguration.state.canister.rentalRequests[aliceCreation.user]? = some r ∧
        service.Ensures cooperative
          (.executeCreateRentalAgreement governanceCanisterId aliceCreation)
          nineTenthsConfiguration.state (Granted aliceCreation r) := by
  have hstored := (Option.some_get exactConfiguration_stored).symm
  have hstored' := (Option.some_get nineTenthsConfiguration_stored).symm
  have hnot : ¬ ((nineTenthsConfiguration.state.canister.rentalRequests[aliceProposal.user]?).get
      nineTenthsConfiguration_stored).FullyLocked := by decide +kernel
  constructor
  · exact ((@fully_paid_granted_iff (10 ^ 12)).1 exactConfiguration aliceCreation _
      reachable_exactConfiguration hstored (by decide +kernel)
      (disjoint_of_idle reachable_exactConfiguration exactConfiguration_idle _)).mpr
        ⟨by decide +kernel, by decide +kernel⟩
  · obtain ⟨r, hr, -, hiff⟩ := (@fully_paid_granted_iff (10 ^ 12)).2 aliceProposal
      aliceCreation _ exactConfiguration nineTenthsConfiguration _ exactProposal_completes
      reachable_exactConfiguration exactConfiguration_idle hstored
      (run_nineTenthsConfiguration.mono fun _ _ h ↦ h.1) nineTenthsConfiguration_idle rfl
      (by decide +kernel)
    refine ⟨r, hr, hiff.mpr ?_⟩
    rw [Option.some.inj (hr.symm.trans hstored')]
    exact hnot

theorem ninthLocking_isSome :
    ((system (10 ^ 12)).performWithin
      (fun c a ↦ accountedSteps aliceProposal.user c a ∧ cooperativeSteps c a)
        nineTenthsConfiguration (monthlyLockings 8 1)).isSome := by
  decide +kernel

/-- Ten tenths are locked. -/
def lockedConfiguration : Configuration :=
  ((system (10 ^ 12)).performWithin
    (fun c a ↦ accountedSteps aliceProposal.user c a ∧ cooperativeSteps c a)
      nineTenthsConfiguration (monthlyLockings 8 1)).get ninthLocking_isSome

theorem run_lockedConfiguration :
    (system (10 ^ 12)).RunWithin
      (fun c a ↦ accountedSteps aliceProposal.user c a ∧ cooperativeSteps c a) exactConfiguration
        lockedConfiguration :=
  run_nineTenthsConfiguration.trans
    (System.runWithin_of_performWithin (Option.some_get ninthLocking_isSome).symm)

theorem reachable_lockedConfiguration : (system (10 ^ 12)).Reachable lockedConfiguration :=
  System.ReachableWithin.append reachable_exactConfiguration run_lockedConfiguration.run

theorem lockedConfiguration_idle : lockedConfiguration.calls = ∅ :=
  ExtTreeMap.isEmpty_iff.mp (by decide +kernel)

theorem lockedConfiguration_stored :
    (lockedConfiguration.state.canister.rentalRequests[aliceProposal.user]?).isSome := by
  decide +kernel

/-- A user who paid exactly the cost, of which ten tenths are locked, does not get the agreement:
nothing is left from which the fee could be subtracted. -/
theorem fully_locked_not_granted :
    ∃ w c₁ c r, service.Completes cooperative
        (.executeRentalRequestProposal governanceCanisterId aliceProposal) w c₁.state
        (.ok (.executed (.ok ()))) ∧
      (system (10 ^ 12)).Reachable c₁ ∧ c₁.calls = ∅ ∧
      (system (10 ^ 12)).RunWithin
        (fun c a ↦ accountedSteps aliceProposal.user c a ∧ cooperativeSteps c a) c₁ c ∧
      c.calls = ∅ ∧ c.state.canister.rentalRequests[aliceCreation.user]? = some r ∧
      r.initialCostIcp.e8s ≤ w.balance aliceCreation.user ∧
      c.state.canister.rentalAgreements[aliceCreation.subnetId]? = none ∧
      ¬ service.Ensures cooperative
        (.executeCreateRentalAgreement governanceCanisterId aliceCreation) c.state
        (Granted aliceCreation r) := by
  have hstored := (Option.some_get lockedConfiguration_stored).symm
  have hrented : lockedConfiguration.state.canister.rentalAgreements[aliceCreation.subnetId]? =
      none := by
    decide +kernel
  refine ⟨_, exactConfiguration, lockedConfiguration, _, exactProposal_completes,
    reachable_exactConfiguration, exactConfiguration_idle, run_lockedConfiguration,
    lockedConfiguration_idle, hstored, by decide +kernel, hrented, ?_⟩
  intro hensures
  have hiff := @ensures_granted_iff aliceCreation _ _
    (sound_of_reachable reachable_lockedConfiguration).inv.consistent hstored hrented
    (disjoint_of_idle reachable_lockedConfiguration lockedConfiguration_idle _)
  exact (hiff.mp hensures).1 (by decide +kernel)

end SubnetRental.Icp
