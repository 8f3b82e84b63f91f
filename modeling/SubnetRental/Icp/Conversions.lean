import SubnetRental.Icp.Sequential

/-!
# ICP that leaves through a conversion

`convert_icp_to_cycles` transfers the ICP of a user to the CMC and then asks for the cycles. When
the second call fails, the ICP are gone and the caller records a failure. `failedConversion` is the
world in which a conversion of one of the four callers returns `Err`, and
`balance_of_failedConversion` says that the balance is then the one before exactly when it was the
ledger that refused. `conversions_accounted` adds what follows over the life of a request, and
`failed_notification_debits` is a run in which a notification fails.
-/

set_option autoImplicit false
set_option relaxedAutoImplicit false

namespace SubnetRental.Icp

open Canister Lifecycle Locking Foundation.GuardedCalls Foundation.MachineInteger
open Foundation.TreeMapTotals Foundation.TransitionSystem Std

/-! ### One conversion -/

/-- The world in which `convert_icp_to_cycles` returns an error to its caller, if it does so with
the given replies of the ledger and the CMC, when nothing else happens meanwhile. The frame is that
of the caller awaiting the ledger. -/
def failedConversion (frame : Frame) (ledger : Except TransferError ℕ) (cmc : Except NotifyError ℕ)
    (w : World) : Option World :=
  let transferred := service.serve frame (.transfer ledger) w
  match convertIcpToCycles .transfer (.transfer ledger) with
  | .done (.error _) => some transferred
  | .await stage =>
    match service.resume frame (.transfer ledger) transferred with
    | .suspend w' frame' =>
      let notified := service.serve frame' (.notifyTopUp cmc) w'
      match convertIcpToCycles stage (.notifyTopUp cmc) with
      | .done (.error _) => some notified
      | _ => none
    | _ => none
  | _ => none

/-- After an accepted transfer each of the four callers asks the CMC for the cycles. -/
theorem resume_transfer_ok {frame : Frame} {amount : Tokens} {source : Principal}
    (hframe : frame.outgoing = .transferToCmc amount source) (blockIndex : ℕ) (w : World) :
    ∃ frame', service.resume frame (.transfer (.ok blockIndex)) w = .suspend w frame' ∧
      frame'.outgoing = .notifyTopUp blockIndex := by
  have hstage {stage : ConvertStage} {icp : Tokens} {user : Principal}
      (h : stage.outgoing icp user = .transferToCmc amount source) : stage = .transfer := by
    cases stage with
    | transfer => rfl
    | notify blockIndex => cases h
  cases frame with
  | rentalRequestConvert payload neededIcp lockAmountIcp stage =>
    obtain rfl := hstage hframe
    exact ⟨_, rfl, rfl⟩
  | createConvert payload r period remainingIcp stage =>
    obtain rfl := hstage hframe
    exact ⟨_, rfl, rfl⟩
  | topUpConvert subnetId a balance icp stage =>
    obtain rfl := hstage hframe
    exact ⟨_, rfl, rfl⟩
  | lockingConvert nowNanos r tenPercentIcp rest stage =>
    obtain rfl := hstage hframe
    exact ⟨_, rfl, rfl⟩
  | _ => cases hframe

/-- A conversion that the ledger refuses leaves the balance, and one that only the CMC refuses does
not. -/
theorem balance_of_failedConversion {frame : Frame} {amount : Tokens} {source : Principal}
    (hframe : frame.outgoing = .transferToCmc amount source) {ledger : Except TransferError ℕ}
    {cmc : Except NotifyError ℕ} {w : World}
    (hcovered : ∀ blockIndex, ledger = .ok blockIndex → Covers w source amount) :
    (∀ w', failedConversion frame ledger cmc w = some w' →
        w'.balance source = w.balance source) ↔
      ¬ ∃ blockIndex e, ledger = .ok blockIndex ∧ cmc = .error e := by
  cases ledger with
  | error e =>
    refine iff_of_true (fun w' h ↦ ?_) (by rintro ⟨_, _, h, -⟩; cases h)
    obtain rfl := Option.some.inj h
    change (w.answer frame.outgoing (.transfer (.error e))).balance source = _
    rw [hframe]
    rfl
  | ok blockIndex =>
    have hcovered := hcovered blockIndex rfl
    obtain ⟨frame', hresume, houtgoing⟩ := resume_transfer_ok hframe blockIndex
      (service.serve frame (.transfer (.ok blockIndex)) w)
    have hbalance : (service.serve frame (.transfer (.ok blockIndex)) w).balance source =
        w.balance source - (amount.e8s + defaultFee.e8s) := by
      change (w.answer frame.outgoing _).balance source = _
      rw [hframe]
      exact (debit_balance w source source amount).trans (by rw [if_pos rfl])
    cases cmc with
    | ok cycles =>
      refine iff_of_true (fun w' h ↦ ?_) (by rintro ⟨_, _, -, h⟩; cases h)
      simp [failedConversion, convertIcpToCycles, hresume] at h
    | error e =>
      refine iff_of_false (fun h ↦ ?_) (not_not_intro ⟨blockIndex, e, rfl, rfl⟩)
      have hfailed : failedConversion frame (.ok blockIndex) (.error e) w =
          some (service.serve frame' (.notifyTopUp (.error e))
            (service.serve frame (.transfer (.ok blockIndex)) w)) := by
        simp [failedConversion, convertIcpToCycles, hresume]
      have hsame := h _ hfailed
      change ((service.serve frame (.transfer (.ok blockIndex)) w).answer frame'.outgoing
        (.notifyTopUp (.error e))).balance source = _ at hsame
      rw [houtgoing] at hsame
      have hfee : 0 < defaultFee.e8s := by decide
      unfold Covers at hcovered
      have heq : w.balance source - (amount.e8s + defaultFee.e8s) = w.balance source :=
        hbalance.symm.trans hsame
      omega

/-! ### All conversions -/

/-- A conversion that returns `Err` leaves the balance of the subaccount exactly when it is not the
case that the ledger accepted the transfer and the CMC refused the notification. Over sequential
runs in which the CMC accepts the notifications for a user, what was debited for the user's request
is what was locked for it. -/
theorem conversions_accounted (user : Principal) :
    (∀ frame amount ledger cmc w, frame.outgoing = .transferToCmc amount user →
      (∀ blockIndex, ledger = .ok blockIndex → Covers w user amount) →
        ((∀ w', failedConversion frame ledger cmc w = some w' →
            w'.balance user = w.balance user) ↔
          ¬ ∃ blockIndex e, ledger = .ok blockIndex ∧ cmc = .error e)) ∧
      ∀ cycles c₀ c r₀, (system cycles).Reachable c₀ → c₀.calls = ∅ →
        c₀.state.canister.rentalRequests[user]? = some r₀ →
          (system cycles).RunWithin (fun c a ↦ accountedSteps user c a) c₀ c → c.calls = ∅ →
            ∃ r, c.state.canister.rentalRequests[user]? = some r ∧
              c.state.debited user + r₀.lockedAmountIcp.e8s =
                c₀.state.debited user + r.lockedAmountIcp.e8s := by
  constructor
  · intro frame amount ledger cmc w hframe hcovered
    exact balance_of_failedConversion hframe hcovered
  · intro cycles c₀ c r₀ h₀ hidle₀ hstored₀ hrun hidle
    obtain ⟨r, hstored, -, hsum⟩ := accounted_of_run h₀ hidle₀ hstored₀ hrun hidle
    exact ⟨r, hstored, hsum⟩

/-! ### Passes an hour apart -/

/-- Alice gets a request, and 30 days pass. -/
def dueRequest : List Label :=
  undisturbed (.executeRentalRequestProposal governanceCanisterId aliceProposal) 0
      [.exchangeRate (.ok (3_500_000_000, 9)), .accountBalance ⟨10 ^ 13⟩, .transfer (.ok 1),
        .notifyTopUp (.ok (10 ^ 16))] ++
    [.environment (.pass (30 * secondsPerDay * billion))]

theorem dueRequest_isSome :
    ((system (10 ^ 12)).perform (idle (installedWorld (10 ^ 12) fun _ ↦ 10 ^ 13))
      dueRequest).isSome := by
  decide +kernel

def dueConfiguration : Configuration :=
  ((system (10 ^ 12)).perform (idle (installedWorld (10 ^ 12) fun _ ↦ 10 ^ 13)) dueRequest).get
    dueRequest_isSome

theorem reachable_dueConfiguration : (system (10 ^ 12)).Reachable dueConfiguration :=
  System.reachable_get_perform (init_idle _ _) dueRequest_isSome

theorem dueConfiguration_stored :
    (dueConfiguration.state.canister.rentalRequests[aliceProposal.user]?).isSome := by
  decide +kernel

/-- The ledger refuses the first pass, the next hour's pass converts. -/
def lockingTwice : List Label :=
  undisturbed .locking 1 [.transfer (.error ⟨"TemporarilyUnavailable"⟩)] ++
    [.environment (.pass (3_600 * billion))] ++
    undisturbed .locking 2 [.transfer (.ok 2), .notifyTopUp (.ok (10 ^ 16))]

theorem lockingTwice_isSome :
    ((system (10 ^ 12)).performWithin (fun c a ↦ accountedSteps aliceProposal.user c a)
      dueConfiguration lockingTwice).isSome := by
  decide +kernel

theorem dueConfiguration_idle : dueConfiguration.calls = ∅ :=
  ExtTreeMap.isEmpty_iff.mp (by decide +kernel)

/-- A conversion the ledger refuses, and two passes of which the second converts. -/
theorem conversions_accounted_lockingTwice :
    (∀ w', failedConversion
        (.topUpConvert aliceCreation.subnetId
          (grantedAgreement aliceCreation
            (openedRequest aliceProposal ⟨10 ^ 12⟩ ⟨10 ^ 11⟩ (10 ^ 16) 0) 0 0 0)
          ⟨10 ^ 10⟩ ⟨10 ^ 9⟩ .transfer)
        (.error ⟨"TemporarilyUnavailable"⟩) (.ok 0) dueConfiguration.state = some w' →
      w'.balance aliceCreation.user = dueConfiguration.state.balance aliceCreation.user) ∧
    ∃ r, (((system (10 ^ 12)).performWithin (fun c a ↦ accountedSteps aliceProposal.user c a)
        dueConfiguration lockingTwice).get
          lockingTwice_isSome).state.canister.rentalRequests[aliceProposal.user]? = some r ∧
      (((system (10 ^ 12)).performWithin (fun c a ↦ accountedSteps aliceProposal.user c a)
          dueConfiguration lockingTwice).get lockingTwice_isSome).state.debited aliceProposal.user +
          ((dueConfiguration.state.canister.rentalRequests[aliceProposal.user]?).get
            dueConfiguration_stored).lockedAmountIcp.e8s =
        dueConfiguration.state.debited aliceProposal.user + r.lockedAmountIcp.e8s := by
  constructor
  · exact ((conversions_accounted aliceCreation.user).1 _ (⟨10 ^ 9⟩ - defaultFee) _ _ _ rfl
      (by rintro _ h; cases h)).mpr (by rintro ⟨_, _, h, -⟩; cases h)
  · exact (conversions_accounted aliceProposal.user).2 (10 ^ 12) _ _ _
      reachable_dueConfiguration dueConfiguration_idle
      (Option.some_get dueConfiguration_stored).symm
      (System.runWithin_of_performWithin (Option.some_get lockingTwice_isSome).symm)
      (ExtTreeMap.isEmpty_iff.mp (by decide +kernel))

/-! ### A notification that fails -/

/-- The ledger accepts the transfer of a pass, and the CMC refuses the notification. -/
def failedNotification : List Label :=
  undisturbed .locking 1 [.transfer (.ok 2), .notifyTopUp (.error .processing)]

theorem failedNotification_isSome :
    ((system (10 ^ 12)).performWithin (fun c a ↦ oneAtATime c a) dueConfiguration
      failedNotification).isSome := by
  decide +kernel

def failedConfiguration : Configuration :=
  ((system (10 ^ 12)).performWithin (fun c a ↦ oneAtATime c a) dueConfiguration
    failedNotification).get failedNotification_isSome

/-- The last event of a user is a failed locking. -/
def recordsLockingFailure (s : State) (user : Principal) : Bool :=
  match s.getCurrentSeq (some user) with
  | none => false
  | some seq =>
    match s.history[((some user, seq) : HistoryKey)]? with
    | some ⟨_, .lockingFailure _ _⟩ => true
    | _ => false

/-- A pass for which the conversion returns `Err` and the caller records a failure: the request is
unchanged, but a tenth of its cost has left the subaccount. -/
theorem failed_notification_debits :
    ∃ c₀ c r, (system (10 ^ 12)).Reachable c₀ ∧ c₀.calls = ∅ ∧
      (system (10 ^ 12)).RunWithin (fun c a ↦ oneAtATime c a) c₀ c ∧ c.calls = ∅ ∧
      c₀.state.canister.rentalRequests[aliceProposal.user]? = some r ∧
      c.state.canister.rentalRequests[aliceProposal.user]? = some r ∧
      recordsLockingFailure c.state.canister aliceProposal.user ∧
      c.state.balance aliceProposal.user < c₀.state.balance aliceProposal.user ∧
      c.state.debited aliceProposal.user + r.lockedAmountIcp.e8s ≠
        c₀.state.debited aliceProposal.user + r.lockedAmountIcp.e8s :=
  ⟨dueConfiguration, failedConfiguration, _, reachable_dueConfiguration, dueConfiguration_idle,
    System.runWithin_of_performWithin (Option.some_get failedNotification_isSome).symm,
    ExtTreeMap.isEmpty_iff.mp (by decide +kernel), (Option.some_get dueConfiguration_stored).symm,
    by decide +kernel, by decide +kernel, by decide +kernel, by decide +kernel⟩

end SubnetRental.Icp
