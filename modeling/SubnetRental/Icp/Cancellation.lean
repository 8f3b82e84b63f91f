import SubnetRental.Icp.Payment

/-!
# Cancelling a request

A user cancels a request by a refund. With a truthful ledger the refund removes the request, burns
its locked cycles and returns the balance exactly when the subaccount holds the fee and the canister
can burn that many cycles (`cancelled_iff`). When ten tenths are locked of an exact payment, nothing
is left for the fee, and the request stays (`fully_locked_not_cancelled`).
-/

set_option autoImplicit false
set_option relaxedAutoImplicit false

namespace SubnetRental.Icp

open Canister Lifecycle Foundation.GuardedCalls Foundation.MachineInteger
open Foundation.TransitionSystem Foundation.TreeMapTotals Std

/-- The ledger tells the balance and accepts exactly the covered transfers. -/
def truthfulLedger (frame : Frame) (answer : Answer) (w : World) : Prop :=
  truthful w frame.outgoing answer

/-- What a refund that returned the balance leaves, with the cycles that it burned. -/
structure Returned (user : Principal) (r : RentalRequest) (burned : ℕ) (w w' : World)
    (result : Except Trap Response) : Prop where
  replied : ∃ blockId, result = .ok (.refunded (.ok blockId))
  request : w'.canister.rentalRequests[user]? = none
  recorded : ∃ seq time, w'.canister.history[((some user, seq) : HistoryKey)]? =
    some ⟨time, .rentalRequestCancelled r⟩
  cycles : w'.canister.cycles = w.canister.cycles - burned
  balance : w'.balance user = 0
  debited : w'.debited user = w.debited user + w.balance user

/-- The request of a user is cancelled: it is removed and recorded as such, its locked cycles are
burned, and the whole balance is debited, as the returned ICP and the fee. -/
structure Cancelled (user : Principal) (r : RentalRequest) (w w' : World)
    (result : Except Trap Response) : Prop
    extends Returned user r r.lockedAmountCycles w w' result where
  affordable : r.lockedAmountCycles ≤ w.canister.cycles

/-- The last segment of a refund. -/
theorem resumeRefundTransfer_eq {user : Principal} {r : RentalRequest} {toBeRefunded : Tokens}
    {blockId : ℕ} {s : State} (hstored : s.rentalRequests[user]? = some r) :
    ∃ s' seq, resumeRefundTransfer user toBeRefunded (.transfer (.ok blockId)) s =
        .reply s' (.refunded (.ok blockId)) ∧
      s'.rentalRequests = s.rentalRequests.erase user ∧
      s'.history[((some user, seq) : HistoryKey)]? = some ⟨s.now, .rentalRequestCancelled r⟩ ∧
      s'.cycles = s.cycles - min r.lockedAmountCycles (s.cycles - s.reserve) := by
  unfold resumeRefundTransfer refundReturns
  simp only [State.getRentalRequest, State.persistEvent_rentalRequests, hstored,
    State.removeRentalRequest, State.cyclesBurn_rentalRequests]
  exact ⟨_, _, rfl, rfl, ExtTreeMap.getElem?_insert_self, rfl⟩

/-- A refund of the balance without the fee. -/
theorem ensuresFrom_refundTransfer {user : Principal} {r : RentalRequest} {icp : Tokens} {w : World}
    (hstored : w.canister.rentalRequests[user]? = some r)
    (hicp : icp.e8s + defaultFee.e8s = w.balance user) :
    service.EnsuresFrom truthfulLedger (.refundTransfer user icp) w
      (Returned user r (min r.lockedAmountCycles (w.canister.cycles - w.canister.reserve)) w) := by
  have hcovers : Covers w user icp := hicp.le
  refine Service.ensuresFrom_of_answers ⟨.transfer (.ok 0), decide_eq_true hcovers⟩ ?_
  intro answer htruthful
  cases answer <;> try cases htruthful
  case transfer result =>
    cases result with
    | error e => exact absurd hcovers (of_decide_eq_true htruthful)
    | ok blockId =>
      obtain ⟨s', seq, hresume, hrequests, hhistory, hcycles⟩ := @resumeRefundTransfer_eq user r
        icp blockId w.canister hstored
      change service.Continues truthfulLedger _ (w.debit user icp) _
        ((resumeRefundTransfer user icp (.transfer (.ok blockId)) w.canister).mapState _)
      rw [hresume]
      have hbalance := debit_balance w user user icp
      have hdebited := debit_debited w user user icp
      rw [if_pos rfl, hicp] at hbalance hdebited
      refine ⟨⟨blockId, rfl⟩, ?_, ⟨seq, w.canister.now, hhistory⟩, hcycles, ?_, hdebited⟩
      · change s'.rentalRequests[user]? = none
        rw [hrequests, getElem?_erase_ite, if_pos rfl]
      · rw [Nat.sub_self] at hbalance
        exact hbalance

/-- A refund that is told the balance. -/
theorem ensuresFrom_refundBalance {user : Principal} {w : World}
    {post : World → Except Trap Response → Prop}
    (hfails : w.balance user < defaultFee.e8s → ∀ w' e, post w' (.ok (.refunded (.error e))))
    (hgoes : defaultFee.e8s ≤ w.balance user → service.EnsuresFrom truthfulLedger
      (.refundTransfer user (⟨w.balance user⟩ - defaultFee)) w post) :
    service.EnsuresFrom truthfulLedger (.refundBalance user) w post := by
  refine Service.ensuresFrom_of_answers
    ⟨.accountBalance ⟨w.balance user⟩, decide_eq_true rfl⟩ ?_
  intro answer htruthful
  cases answer <;> try cases htruthful
  case accountBalance balance =>
    have hbalance : balance = ⟨w.balance user⟩ := congrArg Tokens.mk (of_decide_eq_true htruthful)
    subst hbalance
    change service.Continues truthfulLedger _ w _
      ((resumeRefundBalance user (.accountBalance ⟨w.balance user⟩) w.canister).mapState _)
    unfold resumeRefundBalance
    dsimp only
    split_ifs with hless
    · exact hfails hless _ _
    · exact hgoes (Nat.le_of_not_lt hless)

/-- A refund whose guards are free awaits the ledger. -/
theorem refund_eq {user : Principal} {s : State} (hrefund : refundLock ∉ s.locks)
    (hrequest : requestLock user ∉ s.locks) :
    ∃ locks, refund user s = .suspend { s with locks } (.refundBalance user) := by
  have htag : Tag.request ≠ Tag.refund := by decide
  have hnot : requestLock user ∉ insert refundLock s.locks := by
    rw [Finset.mem_insert, not_or]
    exact ⟨fun h ↦ htag (congrArg Lock.tag h), hrequest⟩
  unfold refund State.callerGuard
  simp only [hrefund, hnot, if_false]
  exact ⟨_, rfl⟩

/-- A refund that starts goes on with the balance. -/
theorem ensures_refund {user : Principal} {w : World} {post : World → Except Trap Response → Prop}
    (hrefund : refundLock ∉ w.canister.locks) (hrequest : requestLock user ∉ w.canister.locks)
    (h : ∀ locks, service.EnsuresFrom truthfulLedger (.refundBalance user)
      { w with canister.locks := locks } post) :
    service.Ensures truthfulLedger (.refund user) w post := by
  obtain ⟨locks, hsegment⟩ := refund_eq hrefund hrequest
  refine Service.ensures_of_suspend (t := { w with canister.locks := locks }) ?_ (h locks)
  change (refund user w.canister).mapState _ = _
  rw [hsegment]
  rfl

/-- A refund without the fee fails. -/
theorem not_cancelled_of_lt {user : Principal} {r : RentalRequest} {w : World}
    (hrefund : refundLock ∉ w.canister.locks) (hrequest : requestLock user ∉ w.canister.locks)
    (hless : w.balance user < defaultFee.e8s) :
    ¬ service.Ensures truthfulLedger (.refund user) w (Cancelled user r w) := by
  have hfails : service.Ensures truthfulLedger (.refund user) w
      fun _ result ↦ ∃ e, result = .ok (.refunded (.error e)) :=
    ensures_refund hrefund hrequest fun _ ↦ ensuresFrom_refundBalance (fun _ _ e ↦ ⟨e, rfl⟩)
      fun hgoes ↦ absurd hless (Nat.not_lt_of_le hgoes)
  refine hfails.not_of_contradicts fun w' result h hcancelled ↦ ?_
  obtain ⟨e, he⟩ := h
  obtain ⟨blockId, hok⟩ := hcancelled.replied
  exact absurd (he.symm.trans hok) (by simp)

/-- In any state with a request of a user in which the guards of the refund are free, the user can
cancel it exactly when the subaccount holds the fee and the canister can burn the locked cycles. -/
theorem cancelled_iff {user : Principal} {r : RentalRequest} {w : World}
    (hstored : w.canister.rentalRequests[user]? = some r)
    (hrefund : refundLock ∉ w.canister.locks) (hrequest : requestLock user ∉ w.canister.locks) :
    service.Ensures truthfulLedger (.refund user) w (Cancelled user r w) ↔
      defaultFee.e8s ≤ w.balance user ∧
        r.lockedAmountCycles ≤ w.canister.cycles - w.canister.reserve := by
  by_cases hfunds : defaultFee.e8s ≤ w.balance user
  · have hreturned : service.Ensures truthfulLedger (.refund user) w
        (Returned user r (min r.lockedAmountCycles (w.canister.cycles - w.canister.reserve))
          w) := by
      have hback : ((⟨w.balance user⟩ : Tokens) - defaultFee).e8s + defaultFee.e8s =
          w.balance user := by
        rw [Tokens.sub_e8s]
        exact Nat.sub_add_cancel hfunds
      have hlocked (locks : Finset Lock) := ensuresFrom_refundBalance
        (w := { w with canister.locks := locks })
        (fun hless ↦ absurd hfunds (Nat.not_le_of_lt hless))
        fun _ ↦ ensuresFrom_refundTransfer (w := { w with canister.locks := locks }) hstored hback
      refine ensures_refund hrefund hrequest fun locks ↦ (hlocked locks).mono fun _ _ h ↦ ?_
      exact ⟨h.replied, h.request, h.recorded, h.cycles, h.balance, h.debited⟩
    constructor
    · intro hcancelled
      refine ⟨hfunds, ?_⟩
      by_contra hnot
      refine hreturned.not_of_contradicts (fun w' result h hcancelled ↦ ?_) hcancelled
      have hall := hcancelled.cycles
      have hsome := h.cycles
      have haffordable := hcancelled.affordable
      omega
    · rintro ⟨-, hburns⟩
      refine hreturned.mono fun w' result h ↦ ⟨?_, hburns.trans (Nat.sub_le _ _)⟩
      rwa [min_eq_left hburns] at h
  · exact iff_of_false (not_cancelled_of_lt hrefund hrequest (Nat.lt_of_not_le hfunds))
      fun h ↦ hfunds h.1

theorem exactConfiguration_free :
    refundLock ∉ exactConfiguration.state.canister.locks ∧
      requestLock aliceProposal.user ∉ exactConfiguration.state.canister.locks := by
  decide +kernel

/-- Right after her proposal Alice can cancel her request. -/
theorem cancelled_exact :
    service.Ensures truthfulLedger (.refund aliceProposal.user) exactConfiguration.state
      (Cancelled aliceProposal.user
        ((exactConfiguration.state.canister.rentalRequests[aliceProposal.user]?).get
          exactConfiguration_stored) exactConfiguration.state) :=
  (cancelled_iff (Option.some_get exactConfiguration_stored).symm exactConfiguration_free.1
    exactConfiguration_free.2).mpr ⟨by decide +kernel, by decide +kernel⟩

/-- When ten tenths of an exact payment are locked, Alice cannot cancel her request. -/
theorem fully_locked_not_cancelled :
    ∃ c r, (system (10 ^ 12)).Reachable c ∧ c.calls = ∅ ∧
      c.state.canister.rentalRequests[aliceProposal.user]? = some r ∧
      refundLock ∉ c.state.canister.locks ∧
      requestLock aliceProposal.user ∉ c.state.canister.locks ∧
      ¬ service.Ensures truthfulLedger (.refund aliceProposal.user) c.state
        (Cancelled aliceProposal.user r c.state) := by
  exact ⟨lockedConfiguration, _, reachable_lockedConfiguration, lockedConfiguration_idle,
    (Option.some_get lockedConfiguration_stored).symm, by decide +kernel, by decide +kernel,
    not_cancelled_of_lt (by decide +kernel) (by decide +kernel) (by decide +kernel)⟩

end SubnetRental.Icp
