import SubnetRental.Icp.Books
import SubnetRental.Icp.Payment
import SubnetRental.Lifecycle.Tenancy
import SubnetRental.Locking.Records

/-!
# The pace and the passes of `locking`

However passes, refunds and creations interleave, `locking` is slow: `locking_paced` shows that a
request, stored or copied by a suspended pass, has its `k`-th tenth locked no earlier than
`30 * (k - 1)` days after it was made, so that it is fully locked after 270 days at the earliest.

`locking_pass` is one pass without interleaving, with a truthful ledger and a CMC that accepts every
call. Every stored request that is due, whose user is not locked and whose subaccount covers a tenth
of the cost has exactly that tenth locked and taken. All others stay as they are: a transfer that
the ledger refuses for one user does not keep the pass from the next. The induction is over the
snapshot, and each conversion leaves the requests and the ICP of the other users alone.
-/

set_option autoImplicit false
set_option relaxedAutoImplicit false

namespace SubnetRental.Locking

open Canister Lifecycle Icp Foundation.GuardedCalls Foundation.MachineInteger
open Foundation.TransitionSystem Foundation.TreeMapTotals Foundation.ExclusiveRegistry
open Relation Std

/-! ### The pace -/

/-- Thirty days in nanoseconds. -/
def thirtyDaysNanos : ℕ := 30 * secondsPerDay * billion

/-- Some tenths are locked, the last of them 30 days after the one before or later. -/
def Paced (r : RentalRequest) : Prop :=
  ∃ k, k < 10 ∧ r.lockedAmountIcp.e8s = (k + 1) * r.tenPercentIcp.e8s ∧
    r.creationTimeNanos + k * thirtyDaysNanos ≤ r.lastLockingTimeNanos

theorem paced_of_opens {payload : SubnetRentalProposalPayload} {r : RentalRequest}
    (h : Opens payload r) : Paced r := by
  obtain ⟨neededIcp, lockedCycles, nowNanos, rfl⟩ := h
  refine ⟨0, by decide, ?_, ?_⟩
  · change neededIcp.e8s / 10 = (0 + 1) * (neededIcp.e8s / 10)
    omega
  · rw [Nat.zero_mul]
    exact le_rfl

/-- A locking waits for 30 days and adds one tenth of at most ten. -/
theorem Paced.locksTenth {r r' : RentalRequest} (h : Paced r) (hlocks : LocksTenth r r') :
    Paced r' := by
  obtain ⟨k, -, hk, hpace⟩ := h
  obtain ⟨nowNanos, lockedCycles, hlt, hwell, hdue, rfl⟩ := hlocks
  obtain ⟨hdays, htenths⟩ := (due_iff hwell hlt).mp hdue
  have hless : k + 1 < 10 := by
    rw [hk] at htenths
    exact Nat.lt_of_mul_lt_mul_right htenths
  refine ⟨k + 1, hless, ?_, ?_⟩
  · rw [lockedAmountIcp_afterLocking, hk]
    exact (Nat.succ_mul (k + 1) _).symm
  · change r.creationTimeNanos + (k + 1) * thirtyDaysNanos ≤ nowNanos
    rw [Nat.succ_mul, ← Nat.add_assoc]
    exact (Nat.add_le_add_right hpace thirtyDaysNanos).trans hdays

/-- In every interleaving every request is locked at this pace. -/
theorem locking_paced {cycles : ℕ} {c : Configuration} (h : (system cycles).Reachable c) :
    (∀ (user : Principal) r, c.state.canister.rentalRequests[user]? = some r →
      Paced r ∧ (r.FullyLocked → 0 < r.tenPercentIcp.e8s →
        r.creationTimeNanos + 9 * thirtyDaysNanos ≤ c.state.canister.now)) ∧
      ∀ (id : ℕ) call, c.calls[id]? = some call → ∀ r ∈ copies call.frame, Paced r := by
  obtain ⟨acts, R, hacts, hsim, -⟩ := refined_of_reachable (.inl trivial : Exact True _) h
  have hpast (user : Principal) (r : RentalRequest) (hr : r ∈ R.past user) : Paced r := by
    obtain ⟨agent, first, -, hmay, hlocks⟩ := (traced_of_perform hacts).past user r hr
    obtain ⟨payload, -, -, hopens⟩ := may_claim hmay
    clear hr
    induction hlocks with
    | refl => exact paced_of_opens hopens
    | tail _ hlast ih => exact ih.locksTenth hlast
  constructor
  · intro user r hstored
    have hpaced := hpast user r (R.recorded user r ((hsim.pending user).trans hstored))
    refine ⟨hpaced, fun hfull hpos ↦ ?_⟩
    have hwell := (sound_of_reachable h).inv.consistent.request_wellFormed user r hstored
    obtain ⟨k, hless, hk, hpace⟩ := hpaced
    rw [fullyLocked_iff hwell, hk, Nat.mul_comm] at hfull
    have hnine : 9 ≤ k := Nat.le_of_succ_le_succ (Nat.le_of_mul_le_mul_right hfull hpos)
    calc r.creationTimeNanos + 9 * thirtyDaysNanos
        ≤ r.creationTimeNanos + k * thirtyDaysNanos :=
          Nat.add_le_add_left (Nat.mul_le_mul_right _ hnine) _
      _ ≤ r.lastLockingTimeNanos := hpace
      _ ≤ c.state.canister.now := hwell.locked_le
  · intro id call hcall r hr
    exact hpast r.user r (hsim.copies id call hcall r hr)

/-- Alice's request after a pass locked for her. -/
theorem locking_paced_refundDuringLocking :
    Paced ((((system (10 ^ 12)).perform (idle (installedWorld (10 ^ 12) fun _ ↦ 10 ^ 13))
      refundDuringLocking).get refundDuringLocking_isSome).state.canister.rentalRequests[
        aliceProposal.user]?.get refundDuringLocking_stored) :=
  ((locking_paced (System.reachable_get_perform (init_idle _ _) refundDuringLocking_isSome)).1 _ _
    (Option.some_get refundDuringLocking_stored).symm).1

/-! ### A pass alone -/

/-- A pass locks for a request: it is due, its user is not locked, and the ledger accepts the
transfer. -/
def Lockable (nowNanos : ℕ) (w : World) (r : RentalRequest) : Prop :=
  r.Due nowNanos ∧ requestLock r.user ∉ w.canister.locks ∧
    Covers w r.user (r.tenPercentIcp - defaultFee)

instance (nowNanos : ℕ) (w : World) (r : RentalRequest) : Decidable (Lockable nowNanos w r) :=
  inferInstanceAs (Decidable (_ ∧ _))

/-- What a pass does for one request of its snapshot. -/
structure Passed (nowNanos : ℕ) (w w' : World) (r : RentalRequest) : Prop where
  locked : Lockable nowNanos w r →
    (∃ lockedCycles, w'.canister.rentalRequests[r.user]? =
      some (r.afterLocking nowNanos r.tenPercentIcp lockedCycles)) ∧
    w'.balance r.user = w.balance r.user - taken r.tenPercentIcp
  kept : ¬ Lockable nowNanos w r → w'.canister.rentalRequests[r.user]? = some r ∧
    w'.balance r.user = w.balance r.user

/-- What a pass does from one request of its snapshot on. -/
structure PassedOver (nowNanos : ℕ) (snapshot : List RentalRequest) (w w' : World)
    (result : Except Trap Response) : Prop where
  replied : result = .ok .locked
  requests : ∀ r ∈ snapshot, Passed nowNanos w w' r
  others : ∀ user, user ∉ snapshot.map RentalRequest.user →
    w'.canister.rentalRequests[user]? = w.canister.rentalRequests[user]? ∧
      w'.balance user = w.balance user
  agreements : w'.canister.rentalAgreements = w.canister.rentalAgreements
  locks : w'.canister.locks = w.canister.locks

theorem Passed.congr {nowNanos : ℕ} {w v w' : World} {r : RentalRequest}
    (h : Passed nowNanos v w' r) (hlocks : v.canister.locks = w.canister.locks)
    (hbalance : v.balance r.user = w.balance r.user) : Passed nowNanos w w' r := by
  have hiff : Lockable nowNanos v r ↔ Lockable nowNanos w r := by
    unfold Lockable Covers
    rw [hlocks, hbalance]
  constructor
  · intro hlockable
    rw [← hbalance]
    exact h.locked (hiff.mpr hlockable)
  · intro hnot
    rw [← hbalance]
    exact h.kept (mt hiff.mp hnot)

/-- A pass that is done with one request and goes over the rest. -/
theorem PassedOver.cons {nowNanos : ℕ} {r : RentalRequest} {rest : List RentalRequest}
    {w v w' : World} {result : Except Trap Response} (h : PassedOver nowNanos rest v w' result)
    (hfresh : r.user ∉ rest.map RentalRequest.user) (hpassed : Passed nowNanos w v r)
    (hothers : ∀ user, user ≠ r.user →
      v.canister.rentalRequests[user]? = w.canister.rentalRequests[user]? ∧
        v.balance user = w.balance user)
    (hagreements : v.canister.rentalAgreements = w.canister.rentalAgreements)
    (hlocks : v.canister.locks = w.canister.locks) :
    PassedOver nowNanos (r :: rest) w w' result := by
  refine ⟨h.replied, fun q hq ↦ ?_, fun user huser ↦ ?_, h.agreements.trans hagreements,
    h.locks.trans hlocks⟩
  · obtain rfl | hmem := List.mem_cons.mp hq
    · obtain ⟨hrequest, hbalance⟩ := h.others q.user hfresh
      refine ⟨fun hlockable ↦ ?_, fun hnot ↦ ?_⟩
      · obtain ⟨⟨lockedCycles, hlocked⟩, htaken⟩ := hpassed.locked hlockable
        exact ⟨⟨lockedCycles, hrequest.trans hlocked⟩, hbalance.trans htaken⟩
      · obtain ⟨hkept, hsame⟩ := hpassed.kept hnot
        exact ⟨hrequest.trans hkept, hbalance.trans hsame⟩
    · refine (h.requests q hmem).congr hlocks (hothers q.user ?_).2
      rintro hsame
      exact hfresh (hsame ▸ List.mem_map_of_mem hmem)
  · rw [List.map_cons, List.mem_cons, not_or] at huser
    obtain ⟨hrequest, hbalance⟩ := h.others user huser.2
    obtain ⟨hrequest', hbalance'⟩ := hothers user huser.1
    exact ⟨hrequest.trans hrequest', hbalance.trans hbalance'⟩

/-- A pass that leaves out one request. -/
theorem PassedOver.skip {nowNanos : ℕ} {r : RentalRequest} {rest : List RentalRequest}
    {w w' : World} {result : Except Trap Response} (h : PassedOver nowNanos rest w w' result)
    (hfresh : r.user ∉ rest.map RentalRequest.user)
    (hstored : w.canister.rentalRequests[r.user]? = some r) (hnot : ¬ Lockable nowNanos w r) :
    PassedOver nowNanos (r :: rest) w w' result :=
  h.cons hfresh ⟨fun hlockable ↦ absurd hlockable hnot, fun _ ↦ ⟨hstored, rfl⟩⟩
    (fun _ _ ↦ ⟨rfl, rfl⟩) rfl rfl

/-- A guard that is taken and dropped leaves the lock set as it was. -/
theorem released {lock : Lock} {locks : Finset Lock} (h : lock ∉ locks) :
    insert lock locks \ {lock} = locks := by
  rw [Finset.insert_sdiff_of_mem _ (Finset.mem_singleton_self lock),
    Finset.sdiff_singleton_eq_erase, Finset.erase_eq_of_notMem h]

/-- The end of a conversion whose transfer was refused. -/
theorem resume_lockingConvert_refused (r : RentalRequest) (s : State) (nowNanos : ℕ)
    (tenPercentIcp : Tokens) (rest : List RentalRequest) (e : TransferError) :
    ∃ t, resume (.lockingConvert nowNanos r tenPercentIcp rest .transfer)
        (.transfer (.error e)) s = lockingLoop nowNanos rest t ∧
      t.rentalRequests = s.rentalRequests ∧ t.rentalAgreements = s.rentalAgreements ∧
      t.locks = s.locks \ {requestLock r.user} :=
  ⟨_, rfl, rfl, rfl, rfl⟩

/-- What is left to show where a pass goes on to the rest of its snapshot. -/
def GoesOn (nowNanos : ℕ) (snapshot : List RentalRequest) : Prop :=
  ∀ w : World, (∀ r ∈ snapshot, w.canister.rentalRequests[r.user]? = some r) →
    (∀ r ∈ snapshot, WellFormedRequest nowNanos r) → (snapshot.map RentalRequest.user).Nodup →
      service.Proceeds cooperative (PassedOver nowNanos snapshot w)
        ((lockingLoop nowNanos snapshot w.canister).mapState fun s ↦ { w with canister := s })

section Conversion

variable {nowNanos : ℕ} {r : RentalRequest} {rest : List RentalRequest} {w : World}
  (hwell : ∀ q ∈ r :: rest, WellFormedRequest nowNanos q)

include hwell

/-- A pass whose conversion for a request is over. -/
theorem continues_of_done (ih : GoesOn nowNanos rest)
    (hstored : ∀ q ∈ r :: rest, w.canister.rentalRequests[q.user]? = some q)
    (hnodup : ((r :: rest).map RentalRequest.user).Nodup) {frame : Frame} {answer : Answer}
    {v : World} {t : State} (hresume : resume frame answer v.canister = lockingLoop nowNanos rest t)
    (hpassed : Passed nowNanos w { v with canister := t } r)
    (hothers : ∀ user, user ≠ r.user →
      t.rentalRequests[user]? = w.canister.rentalRequests[user]? ∧ v.balance user = w.balance user)
    (hagreements : t.rentalAgreements = w.canister.rentalAgreements)
    (hlocks : t.locks = w.canister.locks) (u : World) :
    service.Continues cooperative frame u (PassedOver nowNanos (r :: rest) w)
      (service.resume frame answer v) := by
  obtain ⟨hfresh, hnodup'⟩ := List.nodup_cons.mp hnodup
  have hrest (q : RentalRequest) (hq : q ∈ rest) : t.rentalRequests[q.user]? = some q := by
    rw [(hothers q.user fun hsame ↦ hfresh (hsame ▸ List.mem_map_of_mem hq)).1]
    exact hstored q (List.mem_cons_of_mem _ hq)
  have hsegment : service.resume frame answer v =
      (lockingLoop nowNanos rest t).mapState fun s ↦ { v with canister := s } :=
    congrArg (Outcome.mapState _) hresume
  rw [hsegment]
  refine Service.Proceeds.continues ?_ frame u
  have hwell' := (List.forall_mem_cons.mp hwell).2
  exact (ih { v with canister := t } hrest hwell' hnodup').mono fun w' result h ↦
    h.cons hfresh hpassed hothers hagreements hlocks

/-- A pass whose transfer was accepted. -/
theorem ensuresFrom_lockingNotify (ih : GoesOn nowNanos rest)
    (hlockable : Lockable nowNanos w r)
    (hstored : ∀ q ∈ r :: rest, w.canister.rentalRequests[q.user]? = some q)
    (hnodup : ((r :: rest).map RentalRequest.user).Nodup) (blockIndex : ℕ) {v : World}
    (hrequests : v.canister.rentalRequests = w.canister.rentalRequests)
    (hagreements : v.canister.rentalAgreements = w.canister.rentalAgreements)
    (hlocks : v.canister.locks = insert (requestLock r.user) w.canister.locks)
    (hbalance : ∀ user, v.balance user =
      w.balance user - if r.user = user then taken r.tenPercentIcp else 0) :
    service.EnsuresFrom cooperative
      (.lockingConvert nowNanos r r.tenPercentIcp rest (.notify blockIndex)) v
      (PassedOver nowNanos (r :: rest) w) := by
  refine Service.ensuresFrom_of_answers ⟨.notifyTopUp (.ok 0), rfl, rfl⟩ ?_
  rintro answer ⟨-, hsuccessful⟩
  cases answer <;> try cases hsuccessful
  case notifyTopUp result =>
    cases result with
    | error e => cases hsuccessful
    | ok lockedCycles =>
      have hself : v.canister.rentalRequests[r.user]? = some r := by
        rw [hrequests]
        exact hstored r List.mem_cons_self
      have hfits := not_lockedIcpOverflows (hwell r List.mem_cons_self) hlockable.1.2
      obtain ⟨t, hresume, hrequests', hagreements', hlocks'⟩ := resume_lockingConvert_written
        (s := { v.canister with cycles := v.canister.cycles + lockedCycles }) hself hfits nowNanos
        rest blockIndex lockedCycles
      have hself' : t.rentalRequests[r.user]? =
          some (r.afterLocking nowNanos r.tenPercentIcp lockedCycles) := by
        rw [hrequests', getElem?_insert_ite, if_pos rfl]
      have hpaid : v.balance r.user = w.balance r.user - taken r.tenPercentIcp := by
        rw [hbalance, if_pos rfl]
      refine continues_of_done hwell
        (v := { v with canister.cycles := v.canister.cycles + lockedCycles }) ih hstored hnodup
        hresume ⟨fun _ ↦ ⟨⟨lockedCycles, hself'⟩, hpaid⟩, fun hnot ↦ absurd hlockable hnot⟩
        (fun user hne ↦ ⟨?_, ?_⟩) (hagreements'.trans hagreements) ?_ _
      · rw [hrequests', getElem?_insert_ite, if_neg (Ne.symm hne), hrequests]
      · change v.balance user = _
        rw [hbalance, if_neg (Ne.symm hne), Nat.sub_zero]
      · rw [hlocks', hlocks]
        exact released hlockable.2.1

/-- A pass that waits for the transfer of a request that is due and not locked. -/
theorem ensuresFrom_lockingTransfer (ih : GoesOn nowNanos rest)
    (hdue : r.Due nowNanos) (hfree : requestLock r.user ∉ w.canister.locks)
    (hstored : ∀ q ∈ r :: rest, w.canister.rentalRequests[q.user]? = some q)
    (hnodup : ((r :: rest).map RentalRequest.user).Nodup) {v : World}
    (hcanister : v.canister =
      { w.canister with locks := insert (requestLock r.user) w.canister.locks })
    (hbalance : v.balance = w.balance) :
    service.EnsuresFrom cooperative (.lockingConvert nowNanos r r.tenPercentIcp rest .transfer) v
      (PassedOver nowNanos (r :: rest) w) := by
  have hcovers_iff : Covers v r.user (r.tenPercentIcp - defaultFee) ↔
      Covers w r.user (r.tenPercentIcp - defaultFee) := by
    unfold Covers
    rw [hbalance]
  have hrequests : v.canister.rentalRequests = w.canister.rentalRequests := by
    rw [hcanister]
  have hagreements : v.canister.rentalAgreements = w.canister.rentalAgreements := by
    rw [hcanister]
  have hlocks : v.canister.locks = insert (requestLock r.user) w.canister.locks := by
    rw [hcanister]
  have hsome : ∃ answer, cooperative
      (.lockingConvert nowNanos r r.tenPercentIcp rest .transfer) answer v := by
    by_cases hcovers : Covers v r.user (r.tenPercentIcp - defaultFee)
    · exact ⟨.transfer (.ok 0), decide_eq_true hcovers, rfl⟩
    · exact ⟨.transfer (.error ⟨""⟩), decide_eq_true hcovers, rfl⟩
  refine Service.ensuresFrom_of_answers hsome ?_
  rintro answer ⟨htruthful, -⟩
  cases answer <;> try cases htruthful
  case transfer result =>
    cases result with
    | ok blockIndex =>
      have hcovers := hcovers_iff.mp (of_decide_eq_true htruthful)
      have hpaid (user : Principal) : (v.debit r.user (r.tenPercentIcp - defaultFee)).balance user =
          w.balance user - if r.user = user then taken r.tenPercentIcp else 0 := by
        rw [debit_balance, hbalance]
        rfl
      exact ensuresFrom_lockingNotify hwell ih ⟨hdue, hfree, hcovers⟩ hstored hnodup blockIndex
        hrequests hagreements hlocks hpaid
    | error e =>
      have hnot : ¬ Covers w r.user (r.tenPercentIcp - defaultFee) :=
        mt hcovers_iff.mpr (of_decide_eq_true htruthful)
      obtain ⟨t, hresume, hrequests', hagreements', hlocks'⟩ :=
        resume_lockingConvert_refused r v.canister nowNanos r.tenPercentIcp rest e
      have hself : t.rentalRequests[r.user]? = some r := by
        rw [hrequests', hrequests]
        exact hstored r List.mem_cons_self
      refine continues_of_done hwell ih hstored hnodup hresume
        ⟨fun hlockable ↦ absurd hlockable.2.2 hnot, fun _ ↦ ⟨hself, congrFun hbalance _⟩⟩
        (fun user _ ↦ ⟨?_, congrFun hbalance user⟩) (hagreements'.trans hagreements) ?_ _
      · rw [hrequests', hrequests]
      · rw [hlocks', hlocks]
        exact released hfree

end Conversion

/-- A pass goes over its snapshot. -/
theorem goesOn (nowNanos : ℕ) (snapshot : List RentalRequest) : GoesOn nowNanos snapshot := by
  induction snapshot with
  | nil => exact fun w _ _ _ ↦ ⟨rfl, List.forall_mem_nil _, fun _ _ ↦ ⟨rfl, rfl⟩, rfl, rfl⟩
  | cons r rest ih =>
    intro w hstored hwell hnodup
    obtain ⟨hfresh, hnodup'⟩ := List.nodup_cons.mp hnodup
    obtain ⟨hfirst, hwell'⟩ := List.forall_mem_cons.mp hwell
    have hskip (hnot : ¬ Lockable nowNanos w r) :
        service.Proceeds cooperative (PassedOver nowNanos (r :: rest) w)
          ((lockingLoop nowNanos rest w.canister).mapState fun s ↦ { w with canister := s }) :=
      (ih w (fun q hq ↦ hstored q (List.mem_cons_of_mem _ hq)) hwell' hnodup').mono
        fun w' result h ↦ h.skip hfresh (hstored r List.mem_cons_self) hnot
    unfold lockingLoop
    split_ifs with hdue
    · split
      · rename_i hheld
        refine hskip fun hlockable ↦ ?_
        rw [State.callerGuard, if_neg hlockable.2.1] at hheld
        cases hheld
      · rename_i s hguard
        obtain ⟨hfree, rfl⟩ := callerGuard_eq_some hguard
        rw [beginConvert_of_le hfirst.fee_le]
        exact ensuresFrom_lockingTransfer hwell ih hdue hfree hstored hnodup rfl rfl
    · exact hskip fun hlockable ↦ hdue hlockable.1

/-- A pass alone, in the world it starts in. -/
structure PassAlone (w w' : World) (result : Except Trap Response) : Prop where
  replied : result = .ok .locked
  requests : ∀ (user : Principal) r, w.canister.rentalRequests[user]? = some r →
    Passed w.canister.now w w' r
  others : ∀ user : Principal, w.canister.rentalRequests[user]? = none →
    w'.canister.rentalRequests[user]? = none ∧ w'.balance user = w.balance user
  agreements : w'.canister.rentalAgreements = w.canister.rentalAgreements
  locks : w'.canister.locks = w.canister.locks

/-- In a consistent state a pass without interleaving runs to its end. -/
theorem ensures_locking {w : World} (hw : Consistent w.canister) :
    service.Ensures cooperative .locking w (PassAlone w) := by
  have hmem (r : RentalRequest) : r ∈ w.canister.iterRentalRequests.map Prod.snd ↔
      w.canister.rentalRequests[r.user]? = some r := by
    constructor
    · intro hr
      obtain ⟨⟨user, q⟩, hentry, rfl⟩ := List.mem_map.mp hr
      have hstored := ExtTreeMap.mem_toList_iff_getElem?_eq_some.mp hentry
      rwa [← hw.request_user user q hstored] at hstored
    · intro hstored
      exact List.mem_map.mpr
        ⟨(r.user, r), ExtTreeMap.mem_toList_iff_getElem?_eq_some.mpr hstored, rfl⟩
  have hgoes := goesOn w.canister.now (w.canister.iterRentalRequests.map Prod.snd) w
    (fun r hr ↦ (hmem r).mp hr) (fun r hr ↦ hw.request_wellFormed r.user r ((hmem r).mp hr))
    (nodup_snapshot hw)
  refine Service.ensures_of_proceeds (hgoes.mono fun w' result hpassed ↦ ?_)
  have hkey {user : Principal} {r : RentalRequest}
      (hstored : w.canister.rentalRequests[user]? = some r) :
      r ∈ w.canister.iterRentalRequests.map Prod.snd := by
    rw [hmem, hw.request_user user r hstored]
    exact hstored
  refine ⟨hpassed.replied, fun user r hstored ↦ hpassed.requests r (hkey hstored),
    fun user hnone ↦ ?_, hpassed.agreements, hpassed.locks⟩
  rw [← hnone]
  refine hpassed.others user fun huser ↦ ?_
  obtain ⟨r, hr, rfl⟩ := List.mem_map.mp huser
  rw [(hmem r).mp hr] at hnone
  cases hnone

/-- From every reachable state a pass without interleaving runs to its end and locks a tenth for
exactly the requests for which it can. -/
theorem locking_pass {cycles : ℕ} {c : Configuration} (h : (system cycles).Reachable c) :
    service.Ensures cooperative .locking c.state (PassAlone c.state) :=
  ensures_locking (sound_of_reachable h).inv.consistent

theorem reachable_twoDueConfiguration : (system (10 ^ 12)).Reachable twoDueConfiguration :=
  (System.reachableWithin_get_performWithin (init_idle _ _) twoDueRequests_isSome).reachable

/-- A pass over Alice's and Bob's requests, which are both due. -/
theorem locking_pass_twoDue :
    (twoDueConfiguration.state.canister.rentalRequests[bobProposal.user]?).any
        (fun r ↦ Lockable twoDueConfiguration.state.canister.now twoDueConfiguration.state r) ∧
      service.Ensures cooperative .locking twoDueConfiguration.state
        (PassAlone twoDueConfiguration.state) :=
  ⟨by decide +kernel, locking_pass reachable_twoDueConfiguration⟩

end SubnetRental.Locking
