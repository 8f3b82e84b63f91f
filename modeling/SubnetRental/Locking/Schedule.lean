import SubnetRental.Locking.Passes

/-!
# The schedule of `locking`

The timer lets a pass of `locking` run again and again. `Months n` is `n` times the same: 30 days go
by, and a pass runs to its end without interleaving, with a truthful ledger and a CMC that accepts
every call. `locking_schedule` says what has become of every request then. Each pass locks a tenth
until ten tenths are locked or the subaccount of the user does not cover a tenth any more, so that
after `n` months the least of `n`, the tenths that were missing and the tenths that were covered are
locked, and taken, in addition (`lockings`).
-/

set_option autoImplicit false
set_option relaxedAutoImplicit false

namespace SubnetRental.Locking

open Canister Lifecycle Icp Foundation.GuardedCalls Foundation.TransitionSystem Std

/-! ### Months -/

/-- A number of months, each of which ends with a pass. -/
inductive Months : ℕ → World → World → Prop
  | zero (w : World) : Months 0 w w
  | month {n : ℕ} {w v u w' : World} {result : Except Trap Response} (hbefore : Months n w v)
      (hwaited : v.environment (.pass thirtyDaysNanos) true = some u)
      (hpass : service.Completes cooperative .locking u w' result) : Months (n + 1) w w'

/-- A call that completes alone takes no time. -/
theorem now_of_completes {allowed : Frame → Answer → World → Prop} {operation : Operation}
    {w w' : World} {result : Except Trap Response}
    (h : service.Completes allowed operation w w' result) :
    w'.canister.now = w.canister.now := by
  refine h.keeps (P := fun v ↦ v.canister.now = w.canister.now) (fun _ ↦ ?_)
    (fun frame answer v hv ↦ ?_) (fun frame v hv ↦ ?_) (fun frame answer v hv ↦ ?_) rfl
  · exact Outcome.Leaving.mapState (start_leaving framing_quiet operation
      (fun _ hquiet ↦ hquiet.now) fun _ _ hpass ↦ (burnPass_burnsOnly hpass).now)
  · change (v.answer frame.outgoing answer).canister.now = _
    rw [world_answer_canister]
    exact hv
  · exact hv
  · exact Outcome.Leaving.mapState ((resume_effect frame answer v.canister).mono
      fun s' heffect ↦ (sameSetting_of_effect heffect).now.trans hv)

theorem environment_pass {w : World} {nanos : ℕ} (h : w.canister.now + nanos < 2 ^ 64) :
    w.environment (.pass nanos) true =
      some { w with canister.now := w.canister.now + nanos } :=
  if_pos h

/-- Time can pass whether or not calls are suspended. -/
theorem next_of_pass (cycles : ℕ) {c : Configuration} {nanos : ℕ} {u : World}
    (h : c.state.environment (.pass nanos) true = some u) :
    (system cycles).next c (.environment (.pass nanos)) = some { c with state := u } := by
  have hany : c.state.environment (.pass nanos) c.calls.isEmpty = some u := h
  change (c.state.environment (.pass nanos) c.calls.isEmpty).map _ = _
  rw [hany]
  rfl

/-- Months are a run of the canister that leaves the suspended calls as they are. -/
theorem run_of_months {cycles n : ℕ} {c : Configuration} {w : World}
    (h : (system cycles).Reachable c) (hmonths : Months n c.state w) :
    ∃ c', (system cycles).Run c c' ∧ c'.state = w ∧ c'.calls = c.calls := by
  generalize hstart : c.state = start at hmonths
  induction hmonths with
  | zero => exact ⟨c, System.RunWithin.refl c, hstart, rfl⟩
  | @month n start v u w' result hbefore hwaited hpass ih =>
    obtain ⟨d, hrun, rfl, hcalls⟩ := ih hstart
    have hwaitedRun : (system cycles).Run c { d with state := u } :=
      hrun.tail (next_of_pass cycles hwaited)
    obtain ⟨nextCall, -, hcompleted⟩ := Service.run_of_completes (c := { d with state := u }) _
      (sound_of_reachable (System.ReachableWithin.append h hwaitedRun)).calls_nextCall hpass
    exact ⟨_, System.RunWithin.trans hwaitedRun hcompleted, rfl, hcalls⟩

/-! ### How many tenths are locked -/

/-- How many tenths of a request are missing. -/
def tenthsLeft (r : RentalRequest) : ℕ :=
  (10 * r.tenPercentIcp.e8s - r.lockedAmountIcp.e8s) / r.tenPercentIcp.e8s

/-- How many tenths `n` passes lock for a request whose user holds some ICP. -/
def lockings (n : ℕ) (r : RentalRequest) (held : ℕ) : ℕ :=
  min n (min (tenthsLeft r) (held / taken r.tenPercentIcp))

theorem lockings_succ (n : ℕ) (r : RentalRequest) (held : ℕ) :
    lockings (n + 1) r held =
      if lockings n r held < tenthsLeft r ∧ lockings n r held < held / taken r.tenPercentIcp then
        lockings n r held + 1
      else lockings n r held := by
  unfold lockings
  split_ifs with hmore <;> omega

/-- Tenths are missing after some lockings exactly when ten tenths are not locked by then. -/
theorem lt_tenthsLeft_iff {now : ℕ} {r : RentalRequest} (h : WellFormedRequest now r) (j : ℕ) :
    j < tenthsLeft r ↔
      r.lockedAmountIcp.e8s + j * r.tenPercentIcp.e8s < 10 * r.tenPercentIcp.e8s := by
  obtain ⟨k, -, -, hk⟩ := h.tenths
  unfold tenthsLeft
  rw [hk, ← Nat.sub_mul, ← Nat.add_mul]
  obtain hzero | hpos := Nat.eq_zero_or_pos r.tenPercentIcp.e8s
  · simp [hzero]
  · rw [Nat.mul_div_cancel _ hpos, Nat.mul_lt_mul_right hpos]
    omega

/-- What is left on a subaccount after some lockings covers one more. -/
theorem lt_div_taken_iff (held j : ℕ) (amount : Tokens) :
    j < held / taken amount ↔ taken amount ≤ held - j * taken amount := by
  rw [← Nat.succ_le_iff, Nat.le_div_iff_mul_le (taken_pos amount), Nat.succ_mul]
  have := taken_pos amount
  omega

/-! ### The schedule -/

/-- A request after a number of further lockings. -/
structure LockedTimes (j : ℕ) (r r' : RentalRequest) : Prop where
  locked : r'.lockedAmountIcp.e8s = r.lockedAmountIcp.e8s + j * r.tenPercentIcp.e8s
  user : r'.user = r.user
  initialCostIcp : r'.initialCostIcp = r.initialCostIcp
  initialProposalId : r'.initialProposalId = r.initialProposalId
  creationTimeNanos : r'.creationTimeNanos = r.creationTimeNanos
  rentalConditionId : r'.rentalConditionId = r.rentalConditionId

theorem LockedTimes.refl (r : RentalRequest) : LockedTimes 0 r r :=
  ⟨by rw [Nat.zero_mul, Nat.add_zero], rfl, rfl, rfl, rfl, rfl⟩

theorem LockedTimes.tenPercentIcp_eq {j : ℕ} {r r' : RentalRequest} (h : LockedTimes j r r') :
    r'.tenPercentIcp = r.tenPercentIcp := by
  unfold RentalRequest.tenPercentIcp
  rw [h.initialCostIcp]

/-- A pass locks once more. -/
theorem LockedTimes.succ {j : ℕ} {r r' : RentalRequest} (h : LockedTimes j r r')
    (nowNanos lockedCycles : ℕ) :
    LockedTimes (j + 1) r (r'.afterLocking nowNanos r'.tenPercentIcp lockedCycles) := by
  refine ⟨?_, h.user, h.initialCostIcp, h.initialProposalId, h.creationTimeNanos,
    h.rentalConditionId⟩
  rw [lockedAmountIcp_afterLocking, h.locked, h.tenPercentIcp_eq, Nat.succ_mul, Nat.add_assoc]

/-- What has become of the requests after a number of months. -/
structure Scheduled (n : ℕ) (w w' : World) : Prop where
  now : w'.canister.now = w.canister.now + n * thirtyDaysNanos
  requests : ∀ (user : Principal) r, w.canister.rentalRequests[user]? = some r →
    requestLock user ∉ w.canister.locks →
      ∃ r', w'.canister.rentalRequests[user]? = some r' ∧
        LockedTimes (lockings n r (w.balance user)) r r' ∧
        w'.balance user =
          w.balance user - lockings n r (w.balance user) * taken r.tenPercentIcp
  kept : ∀ user : Principal, requestLock user ∈ w.canister.locks ∨
    w.canister.rentalRequests[user]? = none →
      w'.canister.rentalRequests[user]? = w.canister.rentalRequests[user]? ∧
        w'.balance user = w.balance user
  agreements : w'.canister.rentalAgreements = w.canister.rentalAgreements
  locks : w'.canister.locks = w.canister.locks

theorem Scheduled.zero (w : World) : Scheduled 0 w w := by
  have hnone (r : RentalRequest) (held : ℕ) : lockings 0 r held = 0 := Nat.zero_min _
  refine ⟨by rw [Nat.zero_mul, Nat.add_zero], fun user r hstored _ ↦ ?_, fun _ _ ↦ ⟨rfl, rfl⟩,
    rfl, rfl⟩
  rw [hnone, Nat.zero_mul, Nat.sub_zero]
  exact ⟨r, hstored, .refl r, rfl⟩

/-- After a month a pass locks for a request exactly when a tenth is missing and covered. -/
theorem lockable_iff {j held : ℕ} {v u : World} {user : Principal} {now : ℕ}
    {r r' : RentalRequest} (hwell : WellFormedRequest now r) (hlocked : LockedTimes j r r')
    (huser : r'.user = user) (hfree : requestLock user ∉ u.canister.locks)
    (hv : WellFormedRequest v.canister.now r') (hu : WellFormedRequest u.canister.now r')
    (hlt : u.canister.now < 2 ^ 64)
    (hwaited : u.canister.now = v.canister.now + thirtyDaysNanos)
    (hbalance : u.balance user = held - j * taken r.tenPercentIcp) :
    Lockable u.canister.now u r' ↔ j < tenthsLeft r ∧ j < held / taken r.tenPercentIcp := by
  have hlong : r'.lastLockingTimeNanos + 30 * secondsPerDay * billion ≤ u.canister.now := by
    rw [hwaited]
    exact Nat.add_le_add_right hv.locked_le _
  unfold Lockable
  rw [due_iff hu hlt, lt_tenthsLeft_iff hwell, lt_div_taken_iff, ← hbalance, hlocked.locked,
    hlocked.tenPercentIcp_eq, huser]
  exact ⟨fun h ↦ ⟨h.1.2, h.2.2⟩, fun h ↦ ⟨⟨hlong, h.1⟩, hfree, h.2⟩⟩

/-- One more month. -/
theorem Scheduled.month {n : ℕ} {w v u w' : World} {result : Except Trap Response}
    (h : Scheduled n w v) (hw : Consistent w.canister) (hv : Consistent v.canister)
    (hu : Consistent u.canister)
    (hwaited : v.environment (.pass thirtyDaysNanos) true = some u)
    (hpass : PassAlone u w' result) (hnow : w'.canister.now = u.canister.now) :
    Scheduled (n + 1) w w' := by
  cases environmentStep_of_environment hwaited
  refine ⟨?_, fun user r hstored hfree ↦ ?_, fun user hkept ↦ ?_,
    hpass.agreements.trans h.agreements, hpass.locks.trans h.locks⟩
  · rw [hnow, Nat.succ_mul, ← Nat.add_assoc, ← h.now]
  · obtain ⟨r', hstored', hlocked, hbalance⟩ := h.requests user r hstored hfree
    have hwell := hu.request_wellFormed user r' hstored'
    have huser := hu.request_user user r' hstored'
    have hfree' : requestLock user ∉ v.canister.locks := by
      rw [h.locks]
      exact hfree
    have hiff := lockable_iff (u := { v with canister.now := v.canister.now + thirtyDaysNanos })
      (hw.request_wellFormed user r hstored) hlocked huser hfree'
      (hv.request_wellFormed user r' hstored') hwell hu.now_lt rfl hbalance
    have hpassed := hpass.requests user r' hstored'
    rw [lockings_succ]
    split_ifs with hmore
    · obtain ⟨⟨lockedCycles, hafter⟩, htaken⟩ := hpassed.locked (hiff.mpr hmore)
      rw [huser] at hafter htaken
      refine ⟨_, hafter, hlocked.succ _ _, ?_⟩
      rw [htaken, hlocked.tenPercentIcp_eq, Nat.succ_mul, Nat.sub_add_eq]
      exact congrArg (· - _) hbalance
    · obtain ⟨hsame, hbalance'⟩ := hpassed.kept (mt hiff.mp hmore)
      rw [huser] at hsame hbalance'
      exact ⟨r', hsame, hlocked, hbalance'.trans hbalance⟩
  · obtain ⟨hsame, hbalance⟩ := h.kept user hkept
    cases hstored : v.canister.rentalRequests[user]? with
    | none =>
      obtain ⟨hnone, hbalance'⟩ := hpass.others user hstored
      exact ⟨hnone.trans (hstored.symm.trans hsame), hbalance'.trans hbalance⟩
    | some r =>
      have huser := hv.request_user user r hstored
      have hheld : requestLock user ∈ v.canister.locks := by
        rw [h.locks]
        exact hkept.resolve_right fun hnone ↦ by rw [hsame, hnone] at hstored; cases hstored
      obtain ⟨hsame', hbalance'⟩ := (hpass.requests user r hstored).kept fun hlockable ↦
        hlockable.2.1 (huser ▸ hheld)
      rw [huser] at hsame' hbalance'
      exact ⟨hsame'.trans (hstored.symm.trans hsame), hbalance'.trans hbalance⟩

/-- From a reachable state every number of months has gone by the schedule. -/
theorem scheduled_of_months {cycles n : ℕ} {c : Configuration} {w' : World}
    (h : (system cycles).Reachable c) (hmonths : Months n c.state w') :
    Scheduled n c.state w' := by
  have hc := (sound_of_reachable h).inv.consistent
  generalize hstart : c.state = start at hmonths hc ⊢
  induction hmonths with
  | zero => exact Scheduled.zero _
  | @month n start v u w' result hbefore hwaited hpass ih =>
    obtain ⟨d, hrun, rfl, -⟩ := run_of_months h (hstart ▸ hbefore)
    have hd : (system cycles).Reachable d := System.ReachableWithin.append h hrun
    have hu : (system cycles).Reachable { d with state := u } :=
      hd.tail (next_of_pass cycles hwaited)
    have hconsistent := (sound_of_reachable hu).inv.consistent
    exact (ih hstart hc).month hc (sound_of_reachable hd).inv.consistent hconsistent hwaited
      ((ensures_locking hconsistent).2 _ _ hpass) (now_of_completes hpass)

/-- As long as the time fits, the months can go by. -/
theorem months_exist {cycles : ℕ} {c : Configuration} (h : (system cycles).Reachable c) (n : ℕ)
    (hnow : c.state.canister.now + n * thirtyDaysNanos < 2 ^ 64) : ∃ w', Months n c.state w' := by
  induction n with
  | zero => exact ⟨c.state, .zero _⟩
  | succ n ih =>
    rw [Nat.succ_mul, ← Nat.add_assoc] at hnow
    obtain ⟨v, hbefore⟩ := ih (by omega)
    obtain ⟨d, hrun, rfl, -⟩ := run_of_months h hbefore
    have hlater : d.state.canister.now + thirtyDaysNanos < 2 ^ 64 := by
      rw [(scheduled_of_months h hbefore).now]
      exact hnow
    have hwaited := environment_pass hlater
    have hd : (system cycles).Reachable d := System.ReachableWithin.append h hrun
    have hu := (sound_of_reachable (hd.tail (next_of_pass cycles hwaited))).inv.consistent
    obtain ⟨w', result, hpass⟩ := (ensures_locking hu).1
    exact ⟨w', hbefore.month hwaited hpass⟩

/-- Nine tenths are missing at most. -/
theorem tenthsLeft_le {now : ℕ} {r : RentalRequest} (h : WellFormedRequest now r) :
    tenthsLeft r ≤ 9 := by
  obtain ⟨k, hk₁, -, hk⟩ := h.tenths
  refine Nat.le_of_not_lt fun hten ↦ ?_
  have hnine := (lt_tenthsLeft_iff h 9).mp hten
  rw [hk, ← Nat.add_mul] at hnine
  have := Nat.lt_of_mul_lt_mul_right hnine
  omega

/-- When all missing tenths were locked the request is fully locked. -/
theorem fullyLocked_of_tenthsLeft {now later j : ℕ} {r r' : RentalRequest}
    (h : WellFormedRequest now r) (hlater : WellFormedRequest later r')
    (hlocked : LockedTimes j r r') (hall : tenthsLeft r ≤ j) : r'.FullyLocked := by
  have hnot := mt (lt_tenthsLeft_iff h j).mpr (Nat.not_lt.mpr hall)
  rw [fullyLocked_iff hlater, hlocked.locked, hlocked.tenPercentIcp_eq]
  omega

/-- After nine months a request whose user held nine tenths and was not locked is fully locked. -/
theorem Scheduled.fullyLocked {n : ℕ} {w w' : World} (h : Scheduled n w w')
    (hw : Consistent w.canister) (hw' : Consistent w'.canister) (hnine : 9 ≤ n) {user : Principal}
    {r : RentalRequest} (hstored : w.canister.rentalRequests[user]? = some r)
    (hfree : requestLock user ∉ w.canister.locks)
    (hheld : 9 * taken r.tenPercentIcp ≤ w.balance user) :
    ∃ r', w'.canister.rentalRequests[user]? = some r' ∧ r'.FullyLocked := by
  obtain ⟨r', hstored', hlocked, -⟩ := h.requests user r hstored hfree
  have hwell := hw.request_wellFormed user r hstored
  refine ⟨r', hstored', fullyLocked_of_tenthsLeft hwell
    (hw'.request_wellFormed user r' hstored') hlocked ?_⟩
  have hleft := tenthsLeft_le hwell
  have hcovered : 9 ≤ w.balance user / taken r.tenPercentIcp :=
    (Nat.le_div_iff_mul_le (taken_pos _)).mpr hheld
  unfold lockings
  omega

/-- From every reachable state months go by, if the time fits, and whichever blocks and cycles the
ledger and the CMC answer with, the requests have gone by the schedule. After nine months every
request whose user held nine tenths and was not locked is fully locked. -/
theorem locking_schedule {cycles n : ℕ} {c : Configuration} (h : (system cycles).Reachable c)
    (hnow : c.state.canister.now + n * thirtyDaysNanos < 2 ^ 64) :
    (∃ w', Months n c.state w') ∧ ∀ w', Months n c.state w' →
      (∃ c', (system cycles).Run c c' ∧ c'.state = w') ∧ Scheduled n c.state w' ∧
        (9 ≤ n → ∀ (user : Principal) r, c.state.canister.rentalRequests[user]? = some r →
          requestLock user ∉ c.state.canister.locks →
            9 * taken r.tenPercentIcp ≤ c.state.balance user →
              ∃ r', w'.canister.rentalRequests[user]? = some r' ∧ r'.FullyLocked) := by
  refine ⟨months_exist h n hnow, fun w' hmonths ↦ ?_⟩
  obtain ⟨c', hrun, rfl, -⟩ := run_of_months h hmonths
  have hscheduled := scheduled_of_months h hmonths
  have hreach : (system cycles).Reachable c' := System.ReachableWithin.append h hrun
  exact ⟨⟨c', hrun, rfl⟩, hscheduled, fun hnine user r hstored hfree hheld ↦
    hscheduled.fullyLocked (sound_of_reachable h).inv.consistent
      (sound_of_reachable hreach).inv.consistent hnine hstored hfree hheld⟩

/-- Nine months from Alice's and Bob's requests on. -/
theorem locking_schedule_twoDue :
    ∃ w', Months 9 twoDueConfiguration.state w' ∧ Scheduled 9 twoDueConfiguration.state w' := by
  obtain ⟨⟨w', hmonths⟩, hall⟩ := locking_schedule (n := 9) reachable_twoDueConfiguration
    (by decide +kernel)
  exact ⟨w', hmonths, (hall w' hmonths).2.1⟩

end SubnetRental.Locking
