import SubnetRental.Icp.Ledger
import SubnetRental.Lifecycle.Steps
import SubnetRental.Locking.Snapshot

/-!
# A request over a sequential run

When operations run one after another, a pass of `locking` finds every request of its snapshot as it
copied it, and nothing but its conversions debits the ICP of the requests. `Accounted` relates what
was debited for a request to its locked amount, with the transfers of the pass in flight as
`pending`. A sequential run keeps it as long as the CMC accepts the notifications for the user
(`Accounted.step`, `accounted_of_run`).
-/

set_option autoImplicit false
set_option relaxedAutoImplicit false

namespace SubnetRental.Icp

open Canister Lifecycle Locking Foundation.GuardedCalls Foundation.MachineInteger
open Foundation.TreeMapTotals Foundation.TransitionSystem Std

/-! ### Sequential runs -/

/-- Operations run one after another: none starts while a call is suspended. -/
def oneAtATime (c : Configuration) : Label → Bool
  | .start _ => c.calls.isEmpty
  | _ => true

/-- Neither a refund nor the creation of an agreement for a user, which end the life of a
request. -/
def keepsRequest (user : Principal) : Operation → Bool
  | .refund caller => caller ≠ user
  | .executeCreateRentalAgreement _ payload => payload.user ≠ user
  | _ => true

/-- The operations of a step keep the request of a user open. -/
def keepsOpen (user : Principal) : Label → Bool
  | .start operation => keepsRequest user operation
  | _ => true

/-- The CMC creates cycles for the ICP that a pass of `locking` transferred for a user. -/
def notificationsAccepted (user : Principal) (c : Configuration) : Label → Bool
  | .serve id answer =>
    match c.calls[id]? with
    | some ⟨_, .lockingConvert _ r _ _ (.notify _), _⟩ =>
      match answer with
      | .notifyTopUp (.ok _) => true
      | _ => r.user ≠ user
    | _ => true
  | _ => true

/-- The ICP of a user that a suspended pass transferred and has not recorded yet. -/
def pending (user : Principal) (frame : Frame) (answer : Option Answer) : ℕ :=
  match frame, answer with
  | .lockingConvert _ r tenPercentIcp _ (.notify _), _ =>
    if r.user = user then tenPercentIcp.e8s else 0
  | .lockingConvert _ r tenPercentIcp _ .transfer, some (.transfer (.ok _)) =>
    if r.user = user then tenPercentIcp.e8s else 0
  | _, _ => 0

/-- What holds along every run whose operations run one after another: at most one call is
suspended, and a pass of `locking` finds the requests of its snapshot as it copied them. -/
structure SingleCall (c : Configuration) : Prop where
  single : ∀ (i j : ℕ) a b, c.calls[i]? = some a → c.calls[j]? = some b → i = j
  current : ∀ (id : ℕ) call nowNanos r tenPercentIcp rest stage, c.calls[id]? = some call →
    call.frame = .lockingConvert nowNanos r tenPercentIcp rest stage →
      ∀ q ∈ r :: rest, c.state.canister.rentalRequests[q.user]? = some q

/-- What holds along a sequential run that keeps the request of a user open. -/
structure Sequential (user : Principal) (c : Configuration) : Prop where
  single : ∀ (i j : ℕ) a b, c.calls[i]? = some a → c.calls[j]? = some b → i = j
  keeps : ∀ (id : ℕ) call, c.calls[id]? = some call → keepsRequest user call.operation
  current : ∀ (id : ℕ) call nowNanos r tenPercentIcp rest stage, c.calls[id]? = some call →
    call.frame = .lockingConvert nowNanos r tenPercentIcp rest stage →
      ∀ q ∈ r :: rest, c.state.canister.rentalRequests[q.user]? = some q
  accepted : ∀ (id : ℕ) call nowNanos r tenPercentIcp rest blockIndex answer,
    c.calls[id]? = some call →
      call.frame = .lockingConvert nowNanos r tenPercentIcp rest (.notify blockIndex) →
        call.answer = some answer → r.user = user → ∃ cycles, answer = .notifyTopUp (.ok cycles)

theorem calls_of_idle {c : Configuration} (h : c.calls = ∅) (id : ℕ) : c.calls[id]? = none := by
  rw [h]
  exact ExtTreeMap.getElem?_empty

theorem not_called_of_idle {c : Configuration} (h : c.calls = ∅) {id : ℕ}
    {call : Call Operation Frame Answer} : c.calls[id]? ≠ some call := by
  rw [calls_of_idle h]
  exact (Option.some_ne_none call).symm

/-- An operation starts only when no call is suspended. -/
theorem calls_of_start {c : Configuration} {operation : Operation}
    (h : oneAtATime c (.start operation)) (id : ℕ) : c.calls[id]? = none :=
  calls_of_idle (ExtTreeMap.isEmpty_iff.mp h) id

theorem singleCall_of_idle {c : Configuration} (h : c.calls = ∅) : SingleCall c := by
  constructor
  · intro i _ a _ ha
    exact absurd ha (not_called_of_idle h)
  · intro id call _ _ _ _ _ hcall
    exact absurd hcall (not_called_of_idle h)

theorem sequential_of_idle (user : Principal) {c : Configuration} (h : c.calls = ∅) :
    Sequential user c := by
  constructor
  · exact (singleCall_of_idle h).single
  · intro id call hcall
    exact absurd hcall (not_called_of_idle h)
  · exact (singleCall_of_idle h).current
  · intro id call _ _ _ _ _ _ hcall
    exact absurd hcall (not_called_of_idle h)

/-- A call that goes on stays the only one. -/
theorem SingleCall.eq_of_insert {c : Configuration} (h : SingleCall c) {id : ℕ}
    {old call : Call Operation Frame Answer} (hold : c.calls[id]? = some old) {other : ℕ}
    {found : Call Operation Frame Answer}
    (hfound : (c.calls.insert id call)[other]? = some found) : found = call := by
  obtain ⟨-, rfl⟩ | ⟨hne, hfound⟩ := getElem?_insert_eq_some_iff.mp hfound
  · rfl
  · exact absurd (h.single id other _ _ hold hfound) hne

/-- When it ends, none is suspended. -/
theorem SingleCall.not_called_of_erase {c : Configuration} (h : SingleCall c) {id : ℕ}
    {old : Call Operation Frame Answer} (hold : c.calls[id]? = some old) {other : ℕ}
    {found : Call Operation Frame Answer} : (c.calls.erase id)[other]? ≠ some found := by
  intro hfound
  obtain ⟨hne, hfound⟩ := getElem?_erase_eq_some_iff.mp hfound
  exact absurd (h.single id other _ _ hold hfound) hne

/-- When operations run one after another, only the environment acts while a call is suspended that
is not acted on. -/
theorem SingleCall.eq_environment {c c' : Configuration} {a : Label} (hc : SingleCall c)
    (hone : oneAtATime c a) (hstep : service.Step c a c') {id : ℕ}
    {call : Call Operation Frame Answer} (hcall : c.calls[id]? = some call)
    (htarget : a.target ≠ some id) : ∃ event, a = .environment event := by
  have hstart (operation : Operation) (ha : a = .start operation) : False := by
    subst ha
    exact absurd ((calls_of_start hone id).symm.trans hcall) (by simp)
  cases hstep with
  | startTrap operation | startSuspend operation | startReply operation =>
    exact (hstart operation rfl).elim
  | serve other _ _ _ hother =>
    exact absurd (congrArg some (hc.single other id _ _ hother hcall)) htarget
  | resumeTrap other _ _ _ _ hother =>
    exact absurd (congrArg some (hc.single other id _ _ hother hcall)) htarget
  | resumeSuspend other _ _ _ _ _ hother =>
    exact absurd (congrArg some (hc.single other id _ _ hother hcall)) htarget
  | resumeReply other _ _ _ _ _ hother =>
    exact absurd (congrArg some (hc.single other id _ _ hother hcall)) htarget
  | environment event => exact ⟨event, rfl⟩

/-- The steps of a run whose operations run one after another keep what holds along it. -/
theorem SingleCall.step {cycles : ℕ} {c c' : Configuration} {a : Label}
    (hreach : (system cycles).Reachable c) (hc : SingleCall c) (hone : oneAtATime c a)
    (hnext : (system cycles).next c a = some c') : SingleCall c' := by
  have hstep := Service.step_of_next hnext
  have hsound := sound_of_reachable hreach
  refine ⟨?_, ?_⟩
  · intro i j callI callJ hi hj
    have hempty {operation : Operation} (ha : a = .start operation) (id : ℕ) :
        c.calls[id]? = none := by
      subst ha
      exact calls_of_start hone id
    obtain ⟨oldI, hoI, -⟩ | ⟨rfl, haI, -⟩ := hstep.operation_of_some hi
    · obtain ⟨oldJ, hoJ, -⟩ | ⟨rfl, haJ, -⟩ := hstep.operation_of_some hj
      · exact hc.single i j oldI oldJ hoI hoJ
      · exact absurd ((hempty haJ i).symm.trans hoI) (by simp)
    · obtain ⟨oldJ, hoJ, -⟩ | ⟨rfl, haJ, -⟩ := hstep.operation_of_some hj
      · exact absurd ((hempty haI j).symm.trans hoJ) (by simp)
      · rfl
  · intro id call nowNanos r tenPercentIcp rest stage hcall hframe q hq
    cases hstep.origin hcall with
    | untouched call htarget hold =>
      obtain ⟨event, rfl⟩ := hc.eq_environment hone hstep hold htarget
      obtain ⟨state, hstate, rfl⟩ := Option.map_eq_some_iff.mp hnext
      have hrequests := (environment_keeps hstate).1
      dsimp only
      rw [hrequests]
      exact hc.current id call nowNanos r tenPercentIcp rest stage hold hframe q hq
    | started operation frame ha h =>
      obtain ⟨s', hsegment, hstate⟩ := Outcome.mapState_eq_suspend h
      obtain rfl : frame = .lockingConvert nowNanos r tenPercentIcp rest stage := hframe
      rw [hstate]
      exact stored_of_start hsound.inv.consistent hsegment hq
    | served operation frame answer ha hold h =>
      have hstate := (congrArg World.canister h).trans
        (world_answer_canister c.state frame.outgoing answer)
      rw [hstate]
      exact hc.current id _ nowNanos r tenPercentIcp rest stage hold hframe q hq
    | resumed operation frame answer frame' ha hold h =>
      obtain ⟨s', hsegment, hstate⟩ := Outcome.mapState_eq_suspend h
      obtain rfl : frame' = .lockingConvert nowNanos r tenPercentIcp rest stage := hframe
      have hknown := hsound.assert id _ hold
      obtain ⟨nowNanos₀, r₀, tenPercentIcp₀, rest₀, stage₀, rfl, hfrom⟩ :=
        lockingConvert_of_resume hknown.awaits hknown.knows hsegment
      have hbefore := hc.current id _ nowNanos₀ r₀ tenPercentIcp₀ rest₀ stage₀ hold rfl
      rw [hstate]
      obtain ⟨rfl, rfl, rfl⟩ | ⟨result, -, -, hsuffix, hsame⟩ := hfrom
      · exact hbefore q hq
      · exact (hsame q hq).trans (hbefore q (List.mem_cons_of_mem _ (hsuffix.subset hq)))

/-- The steps of a sequential run keep what holds along it. -/
theorem Sequential.step {cycles : ℕ} {user : Principal} {c c' : Configuration} {a : Label}
    (hreach : (system cycles).Reachable c) (hc : Sequential user c) (hone : oneAtATime c a)
    (hopen : keepsOpen user a) (haccepted : notificationsAccepted user c a)
    (hnext : (system cycles).next c a = some c') : Sequential user c' := by
  have hstep := Service.step_of_next hnext
  have hsingleCall := (SingleCall.mk hc.single hc.current).step hreach hone hnext
  refine ⟨hsingleCall.single, ?_, hsingleCall.current, ?_⟩
  · intro id call hcall
    cases hstep.origin hcall with
    | untouched call htarget hold => exact hc.keeps id call hold
    | started operation frame ha =>
      subst ha
      exact hopen
    | served operation frame answer ha hold => exact hc.keeps id ⟨operation, frame, none⟩ hold
    | resumed operation frame answer frame' ha hold =>
      exact hc.keeps id ⟨operation, frame, some answer⟩ hold
  · intro id call nowNanos r tenPercentIcp rest blockIndex answer hcall hframe hanswer huser
    cases hstep.origin hcall with
    | untouched call htarget hold =>
      exact hc.accepted id call nowNanos r tenPercentIcp rest blockIndex answer hold hframe hanswer
        huser
    | started operation frame ha => cases hanswer
    | served operation frame answer' ha hold =>
      subst ha
      obtain rfl : frame = .lockingConvert nowNanos r tenPercentIcp rest (.notify blockIndex) :=
        hframe
      obtain rfl : answer' = answer := Option.some.inj hanswer
      simp only [notificationsAccepted, hold] at haccepted
      split at haccepted
      · exact ⟨_, rfl⟩
      · exact absurd huser (of_decide_eq_true haccepted)
    | resumed operation frame answer' frame' ha hold => cases hanswer

/-! ### What was debited and what is locked -/

def callPending (user : Principal) (_ : ℕ) (call : Call Operation Frame Answer) : ℕ :=
  pending user call.frame call.answer

/-- Since a moment with a request and an amount debited so far, the request is stored at the same
cost, and everything debited is locked or pending. -/
def Accounted (user : Principal) (start : RentalRequest) (debited : ℕ) (c : Configuration) : Prop :=
  ∃ r, c.state.canister.rentalRequests[user]? = some r ∧ r.initialCostIcp = start.initialCostIcp ∧
    c.state.debited user + start.lockedAmountIcp.e8s =
      debited + r.lockedAmountIcp.e8s + total (callPending user) c.calls

/-- Only a pass of `locking` has pending ICP. -/
theorem pending_eq_zero {user : Principal} {frame : Frame} {answer : Option Answer}
    (h : ∀ nowNanos r tenPercentIcp rest stage,
      frame ≠ .lockingConvert nowNanos r tenPercentIcp rest stage) :
    pending user frame answer = 0 := by
  unfold pending
  split
  · exact absurd rfl (h _ _ _ _ _)
  · exact absurd rfl (h _ _ _ _ _)
  · rfl

/-- The first segment of a call leaves nothing pending. -/
theorem pending_of_start {user : Principal} {operation : Operation} {frame : Frame} {s s' : State}
    (hs : Consistent s) (h : start operation s = .suspend s' frame) :
    pending user frame none = 0 := by
  by_cases hlocking : ∀ nowNanos r tenPercentIcp rest stage,
      frame ≠ .lockingConvert nowNanos r tenPercentIcp rest stage
  · exact pending_eq_zero hlocking
  push Not at hlocking
  obtain ⟨nowNanos, r, tenPercentIcp, rest, stage, rfl⟩ := hlocking
  have hinformed := start_informed operation hs
  rw [h] at hinformed
  cases operation <;> try exact hinformed.1.elim
  case locking =>
    obtain ⟨r', rest', hframe, -⟩ := lockingLoop_eq_suspend h
    rw [hframe]
    rfl

/-- A call that keeps the request of a user does not refund it. -/
theorem caller_ne_of_keepsRequest {user caller : Principal} {toBeRefunded : Tokens}
    {operation : Operation} (hkeeps : keepsRequest user operation)
    (hawaits : Awaits operation (.refundTransfer caller toBeRefunded)) : caller ≠ user := by
  cases operation <;> try exact hawaits.elim
  case refund caller' =>
    obtain rfl : caller = caller' := hawaits
    exact of_decide_eq_true hkeeps

/-- What an answer takes from the subaccount of a user with a request is pending afterwards. -/
theorem pending_answered {user : Principal} {operation : Operation} {frame : Frame} {s : State}
    {r : RentalRequest} (hs : Consistent s) (hstored : s.rentalRequests[user]? = some r)
    (hkeeps : keepsRequest user operation) (hawaits : Awaits operation frame)
    (hknows : Knows frame s) (answer : Answer) :
    pending user frame (some answer) =
      pending user frame none + debitOf user frame.outgoing answer := by
  have hother {source : Principal} (amount : Tokens) (stage : ConvertStage) (hne : source ≠ user) :
      debitOf user (stage.outgoing amount source) answer = 0 := by
    cases stage with
    | transfer =>
      cases answer with
      | transfer result =>
        cases result with
        | ok blockIndex => exact if_neg hne
        | error e => rfl
      | _ => rfl
    | notify blockIndex => cases answer <;> rfl
  have hnothing (hframe : ∀ nowNanos q tenPercentIcp rest stage,
      frame ≠ .lockingConvert nowNanos q tenPercentIcp rest stage)
      (hdebit : debitOf user frame.outgoing answer = 0) :
      pending user frame (some answer) =
        pending user frame none + debitOf user frame.outgoing answer := by
    rw [pending_eq_zero hframe, pending_eq_zero hframe, hdebit]
  cases frame with
  | rentalRequestConvert payload neededIcp lockAmountIcp stage =>
    have hne : payload.user ≠ user := by
      rintro rfl
      exact absurd (hknows.1.1.symm.trans hstored) (by simp)
    exact hnothing nofun (hother lockAmountIcp stage hne)
  | createConvert payload rentalRequest period remainingIcp stage =>
    have hne : payload.user ≠ user := by
      cases operation <;> try exact hawaits.elim
      case executeCreateRentalAgreement caller payload' =>
        obtain ⟨-, rfl⟩ := hawaits
        exact of_decide_eq_true hkeeps
    exact hnothing nofun (hother remainingIcp stage hne)
  | topUpConvert subnetId a balance amount stage =>
    exact hnothing nofun
      (hother amount stage (hs.exclusive user subnetId r a hstored hknows.1))
  | refundTransfer caller toBeRefunded =>
    have hne := caller_ne_of_keepsRequest hkeeps hawaits
    refine hnothing nofun ?_
    cases answer with
    | transfer result =>
      cases result with
      | ok blockIndex => exact if_neg hne
      | error e => rfl
    | _ => rfl
  | lockingConvert nowNanos q tenPercentIcp rest stage =>
    obtain ⟨-, hwell, -, rfl, -, -⟩ := hknows
    have htenth : (q.tenPercentIcp - defaultFee).e8s + defaultFee.e8s = q.tenPercentIcp.e8s := by
      rw [Tokens.sub_e8s]
      exact Nat.sub_add_cancel hwell.fee_le
    cases stage with
    | transfer =>
      cases answer with
      | transfer result =>
        cases result with
        | ok blockIndex =>
          change (if q.user = user then q.tenPercentIcp.e8s else 0) =
            0 + if q.user = user then (q.tenPercentIcp - defaultFee).e8s + defaultFee.e8s else 0
          by_cases huser : q.user = user
          · rw [if_pos huser, if_pos huser, htenth, Nat.zero_add]
          · rw [if_neg huser, if_neg huser]
        | error e => rfl
      | _ => rfl
    | notify blockIndex => cases answer <;> rfl
  | _ => exact hnothing nofun (by cases answer <;> rfl)

/-- How the ICP pending before a segment are pending after it: all of them when it suspends, and
none when it ends. -/
def PendingKept (user : Principal) (before : ℕ) : Segment → Prop
  | .trap _ => before = 0
  | .suspend _ frame => pending user frame none = before
  | .reply _ _ => before = 0

/-- The loop of `locking` starts with nothing pending. -/
theorem pendingKept_lockingLoop (user : Principal) (nowNanos : ℕ) (requests : List RentalRequest)
    (s : State) : PendingKept user 0 (lockingLoop nowNanos requests s) := by
  cases hloop : lockingLoop nowNanos requests s with
  | trap reason => rfl
  | suspend s' frame =>
    obtain ⟨r, rest, rfl, -⟩ := lockingLoop_eq_suspend hloop
    rfl
  | reply s' response => rfl

/-- A segment other than the end of a conversion for the user keeps what is pending. -/
theorem pendingKept_resume {user : Principal} {operation : Operation} {frame : Frame} {s : State}
    (hawaits : Awaits operation frame) (hknows : Knows frame s) (answer : Answer)
    (hother : ∀ nowNanos r tenPercentIcp rest blockIndex,
      frame = .lockingConvert nowNanos r tenPercentIcp rest (.notify blockIndex) → r.user ≠ user) :
    PendingKept user (pending user frame (some answer)) (resume frame answer s) := by
  by_cases hlocking : ∀ nowNanos r tenPercentIcp rest stage,
      frame ≠ .lockingConvert nowNanos r tenPercentIcp rest stage
  · rw [pending_eq_zero hlocking]
    cases hresume : resume frame answer s with
    | trap reason => rfl
    | reply s' response => rfl
    | suspend s' frame' =>
      refine pending_eq_zero ?_
      rintro nowNanos r tenPercentIcp rest stage rfl
      obtain ⟨_, _, _, _, _, hframe, -⟩ := lockingConvert_of_resume hawaits hknows hresume
      exact absurd hframe (hlocking _ _ _ _ _)
  push Not at hlocking
  obtain ⟨nowNanos, r, tenPercentIcp, rest, stage, rfl⟩ := hlocking
  change PendingKept user _ (resumeLockingConvert nowNanos r tenPercentIcp rest stage answer s)
  unfold resumeLockingConvert
  cases stage with
  | transfer =>
    cases answer with
    | transfer result =>
      cases result with
      | ok blockIndex => exact rfl
      | error e => exact pendingKept_lockingLoop user nowNanos rest _
    | _ => exact rfl
  | notify blockIndex =>
    have hzero (answered : Answer) : pending user
        (.lockingConvert nowNanos r tenPercentIcp rest (.notify blockIndex)) (some answered) = 0 :=
      if_neg (hother nowNanos r tenPercentIcp rest blockIndex rfl)
    rw [hzero]
    cases answer with
    | notifyTopUp result =>
      cases result with
      | ok lockedCycles =>
        dsimp only [convertIcpToCycles, lockingAfterConvert]
        split
        · rfl
        · split
          · rfl
          · exact pendingKept_lockingLoop user nowNanos rest _
      | error e => exact pendingKept_lockingLoop user nowNanos rest _
    | _ => exact rfl

/-- A segment other than the end of a conversion for the user leaves the user's request. -/
theorem request_of_effect {user : Principal} {operation : Operation} {frame : Frame}
    {answer : Answer} {s s' : State} {r : RentalRequest}
    (hstored : s.rentalRequests[user]? = some r) (hkeeps : keepsRequest user operation)
    (hawaits : Awaits operation frame) (hknows : Knows frame s)
    (hother : ∀ nowNanos q tenPercentIcp rest blockIndex,
      frame = .lockingConvert nowNanos q tenPercentIcp rest (.notify blockIndex) → q.user ≠ user)
    (h : Effect s s' frame answer) : s'.rentalRequests[user]? = some r := by
  cases h with
  | quiet _ _ hquiet => rw [hquiet.rentalRequests, hstored]
  | opened payload neededIcp lockAmountIcp blockIndex lockedCycles hnone hwrites =>
    have hne : payload.user ≠ user := by
      rintro rfl
      exact absurd (hnone.symm.trans hstored) (by simp)
    rw [hwrites.rentalRequests, getElem?_insert_ite, if_neg hne, hstored]
  | locked nowNanos q stored tenPercentIcp rest blockIndex lockedCycles _ hwrites =>
    have hne := hother nowNanos q tenPercentIcp rest blockIndex rfl
    rw [hwrites.rentalRequests, getElem?_insert_ite, if_neg hne, hstored]
  | cancelled caller toBeRefunded blockId q _ hwrites =>
    have hne := caller_ne_of_keepsRequest hkeeps hawaits
    rw [hwrites.rentalRequests, getElem?_erase_ite, if_neg hne, hstored]
  | granted payload q stored a _ _ _ _ hwrites =>
    have hne : payload.user ≠ user := by
      cases operation <;> try exact hawaits.elim
      case executeCreateRentalAgreement caller payload' =>
        obtain ⟨-, rfl⟩ := hawaits
        exact of_decide_eq_true hkeeps
    rw [hwrites.rentalRequests, getElem?_erase_ite, if_neg hne, hstored]
  | toppedUp _ _ _ _ _ _ _ _ _ _ hwrites => rw [hwrites.rentalRequests, hstored]

/-- The end of a conversion for which the CMC created cycles: it does not trap, the request has a
tenth more, and nothing is pending. -/
theorem resume_notified {nowNanos : ℕ} {r : RentalRequest} {tenPercentIcp : Tokens}
    {rest : List RentalRequest} {blockIndex : ℕ} {s : State}
    (hknows : Knows (.lockingConvert nowNanos r tenPercentIcp rest (.notify blockIndex)) s)
    (hstored : s.rentalRequests[r.user]? = some r) (lockedCycles : ℕ) :
    PendingKept r.user 0
        (resume (.lockingConvert nowNanos r tenPercentIcp rest (.notify blockIndex))
          (.notifyTopUp (.ok lockedCycles)) s) ∧
      (resume (.lockingConvert nowNanos r tenPercentIcp rest (.notify blockIndex))
        (.notifyTopUp (.ok lockedCycles)) s).Trapping (fun _ ↦ False) ∧
      (resume (.lockingConvert nowNanos r tenPercentIcp rest (.notify blockIndex))
        (.notifyTopUp (.ok lockedCycles)) s).Leaving fun s' ↦
          ∃ r', s'.rentalRequests[r.user]? = some r' ∧ r'.initialCostIcp = r.initialCostIcp ∧
            r'.lockedAmountIcp.e8s = r.lockedAmountIcp.e8s + tenPercentIcp.e8s := by
  obtain ⟨-, hwell, hdue, rfl, hrest, -⟩ := hknows
  obtain ⟨t, hresume, hrequests, -, -⟩ := resume_lockingConvert_written hstored
    (not_lockedIcpOverflows hwell hdue.2) nowNanos rest blockIndex lockedCycles
  rw [hresume]
  refine ⟨pendingKept_lockingLoop r.user nowNanos rest t, lockingLoop_trapping hrest t, ?_⟩
  refine (framed_lockingLoop framing_quiet nowNanos rest t).mono fun s' hquiet ↦ ?_
  refine ⟨r.afterLocking nowNanos r.tenPercentIcp lockedCycles, ?_, rfl, rfl⟩
  rw [hquiet.rentalRequests, hrequests, getElem?_insert_ite, if_pos rfl]

/-- What a resumed segment does to the request of a user: what was pending is locked or still
pending. -/
theorem resume_request {cycles : ℕ} {user : Principal} {c : Configuration}
    (hreach : (system cycles).Reachable c) (hc : Sequential user c) {r : RentalRequest}
    (hstored : c.state.canister.rentalRequests[user]? = some r) {id : ℕ} {operation : Operation}
    {frame : Frame} {answer : Answer}
    (hcall : c.calls[id]? = some ⟨operation, frame, some answer⟩) :
    ∃ kept, PendingKept user kept (resume frame answer c.state.canister) ∧
      (resume frame answer c.state.canister).Trapping
        (fun _ ↦ pending user frame (some answer) = 0) ∧
      (resume frame answer c.state.canister).Leaving fun s' ↦
        ∃ r', s'.rentalRequests[user]? = some r' ∧ r'.initialCostIcp = r.initialCostIcp ∧
          r'.lockedAmountIcp.e8s + kept =
            r.lockedAmountIcp.e8s + pending user frame (some answer) := by
  obtain ⟨hawaits, hknows, -⟩ := (sound_of_reachable hreach).assert id _ hcall
  by_cases hmine : ∃ nowNanos q tenPercentIcp rest blockIndex,
      frame = .lockingConvert nowNanos q tenPercentIcp rest (.notify blockIndex) ∧ q.user = user
  · obtain ⟨nowNanos, q, tenPercentIcp, rest, blockIndex, rfl, rfl⟩ := hmine
    obtain ⟨lockedCycles, rfl⟩ := hc.accepted id _ nowNanos q tenPercentIcp rest blockIndex answer
      hcall rfl rfl rfl
    have hcurrent := hc.current id _ nowNanos q tenPercentIcp rest _ hcall rfl q List.mem_cons_self
    obtain rfl : q = r := Option.some.inj (hcurrent.symm.trans hstored)
    have hpending : pending q.user
        (.lockingConvert nowNanos q tenPercentIcp rest (.notify blockIndex))
          (some (.notifyTopUp (.ok lockedCycles))) = tenPercentIcp.e8s := if_pos rfl
    obtain ⟨hkept, htrap, hleaving⟩ := resume_notified hknows hstored lockedCycles
    rw [hpending]
    refine ⟨0, hkept, ?_, hleaving⟩
    cases hresume : resume (.lockingConvert nowNanos q tenPercentIcp rest (.notify blockIndex))
        (.notifyTopUp (.ok lockedCycles)) c.state.canister with
    | trap reason =>
      rw [hresume] at htrap
      exact htrap.elim
    | suspend | reply => trivial
  · have hother : ∀ nowNanos q tenPercentIcp rest blockIndex,
        frame = .lockingConvert nowNanos q tenPercentIcp rest (.notify blockIndex) →
          q.user ≠ user := by
      intro nowNanos q tenPercentIcp rest blockIndex hframe huser
      exact hmine ⟨nowNanos, q, tenPercentIcp, rest, blockIndex, hframe, huser⟩
    have hkept := pendingKept_resume hawaits hknows answer hother
    refine ⟨_, hkept, ?_, ?_⟩
    · cases hresume : resume frame answer c.state.canister with
      | trap reason =>
        rw [hresume] at hkept
        exact hkept
      | suspend | reply => trivial
    · refine (resume_effect frame answer c.state.canister).mono fun s' heffect ↦ ⟨r, ?_, rfl, rfl⟩
      exact request_of_effect hstored (hc.keeps id _ hcall) hawaits hknows hother heffect

section Accounted

variable {cycles : ℕ} {user : Principal} {start : RentalRequest} {debited : ℕ} {c : Configuration}

/-- An operation that suspends at once has nothing pending. -/
theorem Accounted.startSuspend (hsound : discipline.Sound c) (h : Accounted user start debited c)
    {operation : Operation} {s' : State} {frame : Frame}
    (hsegment : Canister.start operation c.state.canister = .suspend s' frame) :
    Accounted user start debited { c with
      state := { c.state with canister := s' }
      nextCall := c.nextCall + 1
      calls := c.calls.insert c.nextCall ⟨operation, frame, none⟩ } := by
  obtain ⟨r, hstored, hcost, hsum⟩ := h
  have hquiet := quiet_of_suspend hsegment
  have hinsert := total_insert_of_none (callPending user) ⟨operation, frame, none⟩
    hsound.calls_nextCall
  have hpending : callPending user c.nextCall ⟨operation, frame, none⟩ = 0 :=
    pending_of_start hsound.inv.consistent hsegment
  refine ⟨r, by rw [hquiet.rentalRequests, hstored], hcost, ?_⟩
  rw [hinsert, hpending]
  exact hsum

/-- What an answer takes from the user is debited and pending. -/
theorem Accounted.serve (hsound : discipline.Sound c) (hc : Sequential user c)
    (h : Accounted user start debited c) {id : ℕ} {operation : Operation} {frame : Frame}
    (hcall : c.calls[id]? = some ⟨operation, frame, none⟩) (answer : Answer) :
    Accounted user start debited { c with
      state := c.state.answer frame.outgoing answer
      calls := c.calls.insert id ⟨operation, frame, some answer⟩ } := by
  obtain ⟨r, hstored, hcost, hsum⟩ := h
  obtain ⟨hawaits, hknows, -⟩ := hsound.assert id _ hcall
  have hdebited := (answer_debited c.state user frame.outgoing answer).1
  have hpending : pending user frame (some answer) =
      pending user frame none + debitOf user frame.outgoing answer :=
    pending_answered hsound.inv.consistent hstored (hc.keeps id _ hcall) hawaits hknows answer
  have hinsert := total_insert_of_some (callPending user) ⟨operation, frame, some answer⟩ hcall
  change total (callPending user) _ + pending user frame none =
    total (callPending user) _ + pending user frame (some answer) at hinsert
  refine ⟨r, ?_, hcost, ?_⟩
  · dsimp only
    rw [world_answer_canister]
    exact hstored
  · change (c.state.answer frame.outgoing answer).debited user + start.lockedAmountIcp.e8s =
      debited + r.lockedAmountIcp.e8s +
        total (callPending user) (c.calls.insert id ⟨operation, frame, some answer⟩)
    omega

/-- A call that traps had nothing pending. -/
theorem Accounted.resumeTrap (hreach : (system cycles).Reachable c) (hc : Sequential user c)
    (h : Accounted user start debited c) {id : ℕ} {operation : Operation} {frame : Frame}
    {answer : Answer} {reason : Trap} (trace : List (Operation × Except Trap Response))
    (hcall : c.calls[id]? = some ⟨operation, frame, some answer⟩)
    (hsegment : resume frame answer c.state.canister = .trap reason) :
    Accounted user start debited { c with
      state := service.unwind frame c.state
      calls := c.calls.erase id
      trace := trace } := by
  obtain ⟨r, hstored, hcost, hsum⟩ := h
  obtain ⟨kept, -, htrap, -⟩ := resume_request hreach hc hstored hcall
  rw [hsegment] at htrap
  have hzero : pending user frame (some answer) = 0 := htrap
  have herase := total_erase_add (callPending user) hcall
  change total (callPending user) _ + pending user frame (some answer) = _ at herase
  refine ⟨r, hstored, hcost, ?_⟩
  change c.state.debited user + start.lockedAmountIcp.e8s =
    debited + r.lockedAmountIcp.e8s + total (callPending user) (c.calls.erase id)
  omega

/-- What is pending when a call goes on was pending or is locked. -/
theorem Accounted.resumeSuspend (hreach : (system cycles).Reachable c) (hc : Sequential user c)
    (h : Accounted user start debited c) {id : ℕ} {operation : Operation} {frame frame' : Frame}
    {answer : Answer} {s' : State} (hcall : c.calls[id]? = some ⟨operation, frame, some answer⟩)
    (hsegment : resume frame answer c.state.canister = .suspend s' frame') :
    Accounted user start debited { c with
      state := { c.state with canister := s' }
      calls := c.calls.insert id ⟨operation, frame', none⟩ } := by
  obtain ⟨r, hstored, hcost, hsum⟩ := h
  obtain ⟨kept, hkept, -, hleaving⟩ := resume_request hreach hc hstored hcall
  rw [hsegment] at hkept hleaving
  obtain ⟨r', hstored', hcost', hlocked⟩ := hleaving
  have hinsert := total_insert_of_some (callPending user) ⟨operation, frame', none⟩ hcall
  change total (callPending user) _ + pending user frame (some answer) =
    total (callPending user) _ + pending user frame' none at hinsert
  have hkept' : pending user frame' none = kept := hkept
  refine ⟨r', hstored', hcost'.trans hcost, ?_⟩
  change c.state.debited user + start.lockedAmountIcp.e8s = debited + r'.lockedAmountIcp.e8s +
    total (callPending user) (c.calls.insert id ⟨operation, frame', none⟩)
  omega

/-- When a call ends, what was pending is locked. -/
theorem Accounted.resumeReply (hreach : (system cycles).Reachable c) (hc : Sequential user c)
    (h : Accounted user start debited c) {id : ℕ} {operation : Operation} {frame : Frame}
    {answer : Answer} {s' : State} {response : Response}
    (trace : List (Operation × Except Trap Response))
    (hcall : c.calls[id]? = some ⟨operation, frame, some answer⟩)
    (hsegment : resume frame answer c.state.canister = .reply s' response) :
    Accounted user start debited { c with
      state := { c.state with canister := s' }
      calls := c.calls.erase id
      trace := trace } := by
  obtain ⟨r, hstored, hcost, hsum⟩ := h
  obtain ⟨kept, hkept, -, hleaving⟩ := resume_request hreach hc hstored hcall
  rw [hsegment] at hkept hleaving
  obtain ⟨r', hstored', hcost', hlocked⟩ := hleaving
  have hkept' : kept = 0 := hkept
  have herase := total_erase_add (callPending user) hcall
  change total (callPending user) _ + pending user frame (some answer) = _ at herase
  refine ⟨r', hstored', hcost'.trans hcost, ?_⟩
  change c.state.debited user + start.lockedAmountIcp.e8s = debited + r'.lockedAmountIcp.e8s +
    total (callPending user) (c.calls.erase id)
  omega

/-- One step of a sequential run keeps the request accounted for. -/
theorem Accounted.step (hreach : (system cycles).Reachable c) (hc : Sequential user c)
    (h : Accounted user start debited c) {c' : Configuration} {a : Label}
    (hnext : (system cycles).next c a = some c') : Accounted user start debited c' := by
  have hsound := sound_of_reachable hreach
  cases Service.step_of_next hnext with
  | startTrap => exact h
  | startSuspend operation state frame hstart =>
    obtain ⟨s', hsegment, rfl⟩ := Outcome.mapState_eq_suspend hstart
    exact h.startSuspend hsound hsegment
  | startReply operation state response hstart =>
    obtain ⟨s', hsegment, rfl⟩ := Outcome.mapState_eq_reply hstart
    obtain ⟨r, hstored, hcost, hsum⟩ := h
    have hrequests := start_rentalRequests operation c.state.canister
    rw [hsegment] at hrequests
    refine ⟨r, ?_, hcost, hsum⟩
    rw [hrequests, hstored]
  | serve id operation frame answer hcall => exact h.serve hsound hc hcall answer
  | resumeTrap id operation frame answer reason hcall hresume =>
    exact h.resumeTrap hreach hc _ hcall (Outcome.mapState_eq_trap hresume)
  | resumeSuspend id operation frame answer state frame' hcall hresume =>
    obtain ⟨s', hsegment, rfl⟩ := Outcome.mapState_eq_suspend hresume
    exact h.resumeSuspend hreach hc hcall hsegment
  | resumeReply id operation frame answer state response hcall hresume =>
    obtain ⟨s', hsegment, rfl⟩ := Outcome.mapState_eq_reply hresume
    exact h.resumeReply hreach hc _ hcall hsegment
  | environment event state henvironment =>
    obtain ⟨r, hstored, hcost, hsum⟩ := h
    obtain ⟨hrequests, hdebited⟩ := environment_keeps henvironment
    refine ⟨r, ?_, hcost, ?_⟩
    · dsimp only
      rw [hrequests, hstored]
    · dsimp only
      rw [hdebited]
      exact hsum

end Accounted

/-- The steps of a sequential run that keeps the request of a user open and in which the CMC accepts
the notifications for the user. -/
def accountedSteps (user : Principal) (c : Configuration) (a : Label) : Bool :=
  oneAtATime c a && keepsOpen user a && notificationsAccepted user c a

/-- Over a sequential run, what was debited for a request is what was locked for it. -/
theorem accounted_of_run {cycles : ℕ} {user : Principal} {c₀ c : Configuration} {r₀ : RentalRequest}
    (h₀ : (system cycles).Reachable c₀) (hidle₀ : c₀.calls = ∅)
    (hstored₀ : c₀.state.canister.rentalRequests[user]? = some r₀)
    (hrun : (system cycles).RunWithin (fun c a ↦ accountedSteps user c a) c₀ c)
    (hidle : c.calls = ∅) :
    ∃ r, c.state.canister.rentalRequests[user]? = some r ∧
      r.initialCostIcp = r₀.initialCostIcp ∧
      c.state.debited user + r₀.lockedAmountIcp.e8s =
        c₀.state.debited user + r.lockedAmountIcp.e8s := by
  have hinvariant : (system cycles).Reachable c ∧ Sequential user c ∧
      Accounted user r₀ (c₀.state.debited user) c := by
    refine hrun.induct (J := fun d ↦ (system cycles).Reachable d ∧ Sequential user d ∧
      Accounted user r₀ (c₀.state.debited user) d) ?_ ?_
    · refine ⟨h₀, sequential_of_idle user hidle₀, r₀, hstored₀, rfl, ?_⟩
      rw [hidle₀, total_empty, Nat.add_zero]
    · rintro u v a - ⟨hu, hsequential, haccounted⟩ ha hnext
      unfold accountedSteps at ha
      rw [Bool.and_eq_true, Bool.and_eq_true] at ha
      exact ⟨hu.tail hnext, hsequential.step hu ha.1.1 ha.1.2 ha.2 hnext,
        haccounted.step hu hsequential hnext⟩
  obtain ⟨-, -, r, hstored, hcost, hsum⟩ := hinvariant
  rw [hidle, total_empty, Nat.add_zero] at hsum
  exact ⟨r, hstored, hcost, hsum⟩

end SubnetRental.Icp
