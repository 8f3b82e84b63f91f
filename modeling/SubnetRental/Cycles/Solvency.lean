import SubnetRental.Locking.Snapshot

/-!
# Cycle solvency

The canister owes the unburned cycles of its agreements and the locked cycles of its requests
(`owed`), and all of that is backed by its one balance, apart from the fees of exchange rate calls
(`backing`). Cycles that the CMC deposited for a suspended call are not yet owed to anybody; they
are the call's `credit`, which the call turns into a debt when it records them. `Solvent` is the
inequality with these credits, and every segment keeps it, with one exception: a pass of `locking`
that writes the locked cycles of an old copy over a smaller sum.

`snapshotCovered` excludes exactly that, and `solvent_of_reachable` is solvency in every
interleaving without it. `insolvent_after_replaced_request` is a run in which a user gets a refund
and a new request between the snapshot of a pass and its guard.
-/

set_option autoImplicit false
set_option relaxedAutoImplicit false

namespace SubnetRental.Cycles

open Canister Lifecycle Locking Foundation.GuardedCalls Foundation.MachineInteger
open Foundation.TreeMapTotals Foundation.TransitionSystem Std

/-! ### Debts and what backs them -/

/-- Unburned cycles of agreements and locked cycles of requests. -/
def owed (s : State) : ℕ :=
  total (fun _ a ↦ a.cyclesRemaining) s.rentalAgreements +
    total (fun _ r ↦ r.lockedAmountCycles) s.rentalRequests

/-- The cycle balance before the fees of exchange rate calls. -/
def backing (s : State) : ℕ :=
  s.cycles + exchangeRateFee * s.exchangeRateCalls

/-- The stage of a conversion in a frame. -/
def convertStage : Frame → Option ConvertStage
  | .rentalRequestConvert _ _ _ stage => some stage
  | .createConvert _ _ _ _ stage => some stage
  | .topUpConvert _ _ _ _ stage => some stage
  | .lockingConvert _ _ _ _ stage => some stage
  | _ => none

/-- The deposited cycles a suspended call has not recorded yet. -/
def credit (frame : Frame) (answer : Option Answer) : ℕ :=
  match convertStage frame, answer with
  | some (.notify _), some (.notifyTopUp (.ok cycles)) => cycles
  | _, _ =>
    match frame with
    | .createAuthorize _ rentalRequest rentalAgreement =>
      rentalAgreement.totalCyclesCreated - rentalRequest.lockedAmountCycles
    | _ => 0

def callCredit (_ : ℕ) (call : Call Operation Frame Answer) : ℕ :=
  credit call.frame call.answer

/-- Debts and credits are backed. -/
def Solvent (cycles : ℕ) (c : Configuration) : Prop :=
  cycles + owed c.state.canister + total callCredit c.calls ≤ backing c.state.canister

theorem owed_of_quiet {s s' : State} (h : Quiet s s') : owed s' = owed s := by
  unfold owed
  rw [h.rentalAgreements, h.rentalRequests]

theorem backing_of_quiet {s s' : State} (h : Quiet s s') : backing s' = backing s := h.cycles

/-! ### Segments -/

/-- A frame without an answer has cycles of its own only before an agreement is stored. -/
theorem credit_eq_zero {frame : Frame}
    (h : ∀ payload rentalRequest rentalAgreement,
      frame ≠ .createAuthorize payload rentalRequest rentalAgreement) : credit frame none = 0 := by
  unfold credit
  split
  · rename_i hanswer
    cases hanswer
  · split
    · exact absurd rfl (h _ _ _)
    · rfl

/-- Only the creation of an agreement leaves a frame with cycles of its own, and it took them from
the answer of the CMC. -/
theorem credit_of_suspend {operation : Operation} {frame frame' : Frame} {answer : Answer}
    {s s' : State} (hawaits : Awaits operation frame) (hknows : Knows frame s)
    (h : resume frame answer s = .suspend s' frame') :
    credit frame' none = 0 ∨
      (credit frame' none ≤ credit frame (some answer) ∧ Quiet s s') := by
  by_cases hauthorize : ∀ payload r a, frame' ≠ .createAuthorize payload r a
  · exact .inl (credit_eq_zero hauthorize)
  right
  push Not at hauthorize
  obtain ⟨payload, r, a, rfl⟩ := hauthorize
  have hinformed := resume_informed answer hawaits hknows
  rw [h] at hinformed
  cases operation <;> try exact hinformed.1.elim
  cases frame <;> try exact hawaits.elim
  case createConvert payload' r' period remainingIcp stage =>
    change resumeCreateConvert payload' r' period remainingIcp stage answer s = _ at h
    have hquiet := framed_resumeCreateConvert framing_quiet payload' r' period remainingIcp stage
      answer s
    rw [h] at hquiet
    refine ⟨?_, hquiet⟩
    unfold resumeCreateConvert at h
    split at h
    · cases h
    · cases h
    · rename_i result hresult
      cases result with
      | error e => cases h
      | ok converted =>
        obtain ⟨blockIndex, actualCycles⟩ := converted
        obtain ⟨rfl, rfl⟩ := convertIcpToCycles_eq_ok hresult
        obtain ⟨-, hframe⟩ := Outcome.suspend.inj h
        obtain ⟨rfl, rfl, rfl⟩ := Frame.createAuthorize.inj hframe
        change saturatingAdd 128 actualCycles r'.lockedAmountCycles - r'.lockedAmountCycles ≤
          actualCycles
        have hle := saturatingAdd_le (w := 128) (a := actualCycles) (b := r'.lockedAmountCycles)
        omega
  case createAuthorize payload' r' a' =>
    have hnone := resumeCreateAuthorize_suspending payload' a' answer s
    change resumeCreateAuthorize payload' a' answer s = _ at h
    rw [h] at hnone
    exact hnone.elim

/-- A first segment leaves no frame with cycles of its own. -/
theorem credit_of_start {operation : Operation} {frame : Frame} {s s' : State}
    (hs : Consistent s) (h : start operation s = .suspend s' frame) : credit frame none = 0 := by
  refine credit_eq_zero ?_
  rintro payload r a rfl
  have hinformed := start_informed operation hs
  rw [h] at hinformed
  cases operation <;> try exact hinformed.1.elim
  case executeCreateRentalAgreement caller payload' =>
    have hconverts := executeCreateRentalAgreement_converts caller payload' s
    change executeCreateRentalAgreement caller payload' s = _ at h
    rw [h] at hconverts
    obtain ⟨r', period, icp, hframe⟩ := hconverts
    cases hframe

/-- What a segment records as owed was paid for by its answer, unless it writes an old copy with
more locked cycles than the stored request has. -/
theorem owed_of_effect {s s' : State} {frame : Frame} {answer : Answer} (hknows : Knows frame s)
    (hcopy : ∀ nowNanos r tenPercentIcp rest stage stored,
      frame = .lockingConvert nowNanos r tenPercentIcp rest stage →
        s.rentalRequests[r.user]? = some stored →
          r.lockedAmountCycles ≤ stored.lockedAmountCycles)
    (h : Effect s s' frame answer) :
    owed s' + backing s ≤ owed s + backing s' + credit frame (some answer) := by
  unfold owed backing
  cases h with
  | quiet frame answer h =>
    rw [h.rentalAgreements, h.rentalRequests, h.cycles]
    omega
  | opened payload neededIcp lockAmountIcp blockIndex lockedCycles hnone h =>
    have htotal := total_insert_of_none (fun _ r ↦ r.lockedAmountCycles)
      (openedRequest payload neededIcp lockAmountIcp lockedCycles s.now) hnone
    have hcycles := h.cycles
    rw [h.rentalAgreements, h.rentalRequests, htotal]
    change _ ≤ _ + lockedCycles
    change _ + (_ + lockedCycles) + _ ≤ _
    omega
  | locked nowNanos r stored tenPercentIcp rest blockIndex lockedCycles hstored h =>
    have htotal := total_insert_of_some (fun _ r ↦ r.lockedAmountCycles)
      (r.afterLocking nowNanos tenPercentIcp lockedCycles) hstored
    have hle := hcopy nowNanos r tenPercentIcp rest _ stored rfl hstored
    have hsum : (r.afterLocking nowNanos tenPercentIcp lockedCycles).lockedAmountCycles ≤
        r.lockedAmountCycles + lockedCycles := wrappingAdd_le
    have hcycles := h.cycles
    rw [h.rentalAgreements, h.rentalRequests]
    change _ ≤ _ + lockedCycles
    omega
  | cancelled caller toBeRefunded blockId r hstored h =>
    have htotal := total_erase_add (fun _ r ↦ r.lockedAmountCycles) hstored
    have hcycles := h.cycles
    have hburned : min r.lockedAmountCycles (s.cycles - s.reserve) ≤ r.lockedAmountCycles :=
      min_le_left _ _
    rw [h.rentalAgreements, h.rentalRequests]
    omega
  | granted payload r stored a answer hanswer hstored hfree h =>
    obtain ⟨hrequest, -, conditions, convertedCycles, nowNanos, -, -, ha⟩ := hknows
    obtain rfl : r = stored := Option.some.inj (hrequest.symm.trans hstored)
    have htotal := total_erase_add (fun _ r ↦ r.lockedAmountCycles) hstored
    have hinsert := total_insert_of_none (fun _ a ↦ a.cyclesRemaining) a hfree
    have hremaining : a.cyclesRemaining = a.totalCyclesCreated := by
      rw [ha]
      rfl
    have hcycles := h.cycles
    rw [h.rentalAgreements, h.rentalRequests, hinsert, hremaining]
    change _ ≤ _ + (a.totalCyclesCreated - r.lockedAmountCycles)
    omega
  | toppedUp subnetId a stored balance amount blockIndex actualCycles conditions hconditions hstored
      h =>
    obtain ⟨hcopied, -, -⟩ := hknows
    obtain rfl : a = stored := Option.some.inj (hcopied.symm.trans hstored)
    have hinsert := total_insert_of_some (fun _ a ↦ a.cyclesRemaining)
      (toppedUpAgreement a a conditions.dailyCostCycles actualCycles balance) hstored
    have hcreated : (toppedUpAgreement a a conditions.dailyCostCycles actualCycles
        balance).cyclesRemaining ≤ a.cyclesRemaining + actualCycles := by
      have hle := saturatingAdd_le (w := 128) (a := a.totalCyclesCreated) (b := actualCycles)
      unfold RentalAgreement.cyclesRemaining
      rw [toppedUpAgreement_totalCyclesCreated, toppedUpAgreement_totalCyclesBurned]
      omega
    have hcycles := h.cycles
    rw [h.rentalAgreements, h.rentalRequests]
    change _ ≤ _ + actualCycles
    omega

/-- What a burn pass burns it takes from the balance and from the debt. -/
theorem owed_of_burnPass {s s' : State} {burned : List (Principal × ℕ)} (hs : Consistent s)
    (h : burnPass s = .ok (burned, s')) : owed s' + backing s = owed s + backing s' := by
  refine (burnPass_induct (J := fun _ t ↦ Consistent t ∧
    owed t + backing s = owed s + backing t) ?_ h ⟨hs, rfl⟩).2
  rintro _ t subnetId more t' ⟨ht, heq⟩ hstep
  refine ⟨ht.of_burnStep hstep, ?_⟩
  cases hstep with
  | skip => exact heq
  | burn a burned hfree hstored hsome hdivisible hburned =>
    have hle : burned ≤ a.cyclesRemaining :=
      hburned ▸ (min_le_left _ _).trans (burnAmount_le t.now a)
    have hbalance : burned ≤ t.cycles :=
      hburned ▸ (min_le_right _ _).trans (Nat.sub_le _ _)
    have hinsert := total_insert_of_some (fun _ a ↦ a.cyclesRemaining) (burnedAgreement a burned)
      hstored
    have hremaining : (burnedAgreement a burned).cyclesRemaining + burned = a.cyclesRemaining := by
      have hsum := (wellFormed_burned (ht.agreement_wellFormed subnetId a hstored) hle).1
      have hcreated : (burnedAgreement a burned).totalCyclesCreated = a.totalCyclesCreated := rfl
      unfold RentalAgreement.cyclesRemaining at hle ⊢
      omega
    unfold owed backing at heq ⊢
    change total _ (t.rentalAgreements.insert subnetId (burnedAgreement a burned)) +
      total _ t.rentalRequests + _ = _ + (t.cycles - burned + exchangeRateFee * t.exchangeRateCalls)
    omega

/-- The cycles an answer deposits become the credit of the call that awaits it. -/
theorem credit_answered (frame : Frame) (answer : Answer) :
    credit frame (some answer) = credit frame none + deposited frame.outgoing answer := by
  have hconvert (stage : ConvertStage) (amount : Tokens) (source : Principal)
      (hcalls : frame.outgoing = stage.outgoing amount source)
      (hcredit : ∀ answered, credit frame answered = match some stage, answered with
        | some (.notify _), some (.notifyTopUp (.ok cycles)) => cycles
        | _, _ => 0) :
      credit frame (some answer) = credit frame none + deposited frame.outgoing answer := by
    rw [hcredit, hcredit, hcalls]
    cases stage with
    | transfer => rfl
    | notify blockIndex =>
      cases answer with
      | notifyTopUp result => cases result <;> simp [ConvertStage.outgoing, deposited]
      | _ => rfl
  cases frame with
  | rentalRequestConvert payload neededIcp lockAmountIcp stage =>
    exact hconvert stage lockAmountIcp payload.user rfl fun _ ↦ rfl
  | createConvert payload r period remainingIcp stage =>
    exact hconvert stage remainingIcp payload.user rfl fun _ ↦ rfl
  | topUpConvert subnetId a balance amount stage =>
    exact hconvert stage amount a.user rfl fun _ ↦ rfl
  | lockingConvert nowNanos r tenPercentIcp rest stage =>
    exact hconvert stage tenPercentIcp r.user rfl fun _ ↦ rfl
  | _ => rfl

/-- An upgrade changes conditions and deadlines, not cycles. -/
theorem owed_of_upgraded {s s' : State} (h : Upgraded s s') :
    owed s' = owed s ∧ backing s' = backing s := by
  constructor
  · unfold owed
    rw [h.rentalRequests]
    obtain heq | ⟨a, hstored, -, heq⟩ := h.agreements
    · rw [heq]
    · have hinsert := total_insert_of_some (fun _ a ↦ a.cyclesRemaining)
        (repricedAgreement s.now a) hstored
      have hremaining : (repricedAgreement s.now a).cyclesRemaining = a.cyclesRemaining := rfl
      rw [heq]
      omega
  · unfold backing
    rw [h.cycles, h.exchangeRateCalls]

/-! ### Runs -/

/-- When a step lets a pass go on to the next request of its snapshot, what is stored for that user
has at least as many locked cycles as the snapshot says, if anything is stored. -/
def snapshotCovered (c : Configuration) (a : Label) : Bool :=
  match nextOfSnapshot c a with
  | some r =>
    match c.state.canister.rentalRequests[r.user]? with
    | some stored => r.lockedAmountCycles ≤ stored.lockedAmountCycles
    | none => true
  | none => true

/-- Nothing is stored, or at least as many locked cycles as in the copy. -/
def Covered (r : RentalRequest) (stored : Option RentalRequest) : Prop :=
  ∀ q, stored = some q → r.lockedAmountCycles ≤ q.lockedAmountCycles

theorem covered_of_snapshotCovered {c : Configuration} {a : Label} (h : snapshotCovered c a)
    {r : RentalRequest} (hr : nextOfSnapshot c a = some r) :
    Covered r c.state.canister.rentalRequests[r.user]? := by
  intro q hq
  simpa only [snapshotCovered, hr, hq, decide_eq_true_eq] using h

section Step

variable {cycles : ℕ} {c : Configuration} {id : ℕ} {operation : Operation} {frame frame' : Frame}
  {answer : Answer} {s' : State}

/-- What a resumed segment adds to the debts is backed, or was the credit of the call. -/
theorem owed_of_resume (hsound : discipline.Sound c) (hcopies : CopiesRelated Covered c)
    (hcall : c.calls[id]? = some ⟨operation, frame, some answer⟩)
    (heffect : Effect c.state.canister s' frame answer) :
    owed s' + backing c.state.canister ≤
      owed c.state.canister + backing s' + credit frame (some answer) := by
  refine owed_of_effect (hsound.assert id _ hcall).knows ?_ heffect
  intro nowNanos r tenPercentIcp rest stage stored hframe hstored
  exact hcopies id _ nowNanos r tenPercentIcp rest stage hcall hframe stored hstored

/-- An operation that suspends at once has no credit and owes nothing new. -/
theorem Solvent.startSuspend (hsound : discipline.Sound c) (h : Solvent cycles c)
    (hsegment : start operation c.state.canister = .suspend s' frame) :
    Solvent cycles { c with
      state := { c.state with canister := s' }
      nextCall := c.nextCall + 1
      calls := c.calls.insert c.nextCall ⟨operation, frame, none⟩ } := by
  have hcredit := credit_of_start hsound.inv.consistent hsegment
  have hquiet := quiet_of_suspend hsegment
  unfold Solvent at h ⊢
  rw [total_insert_of_none _ _ hsound.calls_nextCall]
  dsimp only [callCredit]
  rw [hcredit, owed_of_quiet hquiet, backing_of_quiet hquiet]
  exact h

/-- Only a burn pass changes the debts and what backs them at the start of an operation, by the same
amount. -/
theorem owed_of_start (hs : Consistent c.state.canister) (operation : Operation) :
    (start operation c.state.canister).Leaving fun s' ↦
      owed s' + backing c.state.canister = owed c.state.canister + backing s' :=
  start_leaving framing_quiet operation
    (fun _ hquiet ↦ by rw [owed_of_quiet hquiet, backing_of_quiet hquiet])
    fun _ _ hpass ↦ owed_of_burnPass hs hpass

/-- Cycles that the CMC deposits back the credit of the call. -/
theorem Solvent.serve (h : Solvent cycles c)
    (hcall : c.calls[id]? = some ⟨operation, frame, none⟩) (answer : Answer) :
    Solvent cycles { c with
      state := c.state.answer frame.outgoing answer
      calls := c.calls.insert id ⟨operation, frame, some answer⟩ } := by
  have hinsert := total_insert_of_some callCredit ⟨operation, frame, some answer⟩ hcall
  have hcredit := credit_answered frame answer
  have hstate := world_answer_canister c.state frame.outgoing answer
  have howed : owed (c.state.answer frame.outgoing answer).canister = owed c.state.canister := by
    rw [hstate]
    rfl
  have hbacking : backing (c.state.answer frame.outgoing answer).canister =
      backing c.state.canister + deposited frame.outgoing answer := by
    rw [hstate]
    change c.state.canister.cycles + deposited frame.outgoing answer +
      exchangeRateFee * c.state.canister.exchangeRateCalls = _
    unfold backing
    omega
  unfold Solvent at h ⊢
  change total callCredit _ + credit frame none = total callCredit _ + credit frame (some answer)
    at hinsert
  dsimp only
  omega

/-- A call that traps loses its credit. -/
theorem Solvent.resumeTrap (h : Solvent cycles c) {call : Call Operation Frame Answer}
    (hcall : c.calls[id]? = some call) (trace : List (Operation × Except Trap Response)) :
    Solvent cycles { c with
      state := service.unwind frame c.state
      calls := c.calls.erase id
      trace := trace } := by
  have herase := total_erase_add callCredit hcall
  unfold Solvent at h ⊢
  change cycles + owed c.state.canister + total callCredit (c.calls.erase id) ≤
    backing c.state.canister
  omega

/-- A call that goes on keeps its credit or has turned it into a debt. -/
theorem Solvent.resumeSuspend (hsound : discipline.Sound c) (hcopies : CopiesRelated Covered c)
    (h : Solvent cycles c) (hcall : c.calls[id]? = some ⟨operation, frame, some answer⟩)
    (hsegment : resume frame answer c.state.canister = .suspend s' frame') :
    Solvent cycles { c with
      state := { c.state with canister := s' }
      calls := c.calls.insert id ⟨operation, frame', none⟩ } := by
  have hknown := hsound.assert id _ hcall
  have hinsert := total_insert_of_some callCredit ⟨operation, frame', none⟩ hcall
  have heffect := resume_effect frame answer c.state.canister
  rw [hsegment] at heffect
  have hdebt := owed_of_resume hsound hcopies hcall heffect
  unfold Solvent at h ⊢
  change total callCredit _ + credit frame (some answer) = total callCredit _ + credit frame' none
    at hinsert
  dsimp only
  obtain hzero | ⟨hle, hquiet⟩ := credit_of_suspend hknown.awaits hknown.knows hsegment
  · omega
  · change credit frame' none ≤ credit frame (some answer) at hle
    have howed := owed_of_quiet hquiet
    have hbacking := backing_of_quiet hquiet
    omega

/-- A call that ends has turned its credit into a debt, or loses it. -/
theorem Solvent.resumeReply (hsound : discipline.Sound c) (hcopies : CopiesRelated Covered c)
    (h : Solvent cycles c) {response : Response}
    (hcall : c.calls[id]? = some ⟨operation, frame, some answer⟩)
    (hsegment : resume frame answer c.state.canister = .reply s' response)
    (trace : List (Operation × Except Trap Response)) :
    Solvent cycles { c with
      state := { c.state with canister := s' }
      calls := c.calls.erase id
      trace := trace } := by
  have herase := total_erase_add callCredit hcall
  have heffect := resume_effect frame answer c.state.canister
  rw [hsegment] at heffect
  have hdebt := owed_of_resume hsound hcopies hcall heffect
  unfold Solvent at h ⊢
  change total callCredit _ + credit frame (some answer) = total callCredit _ at herase
  dsimp only
  omega

/-- The environment adds cycles at most, and an upgrade keeps debts and backing. -/
theorem Solvent.environment (h : Solvent cycles c) {event : Environment} {idle : Bool} {w : World}
    (hevent : c.state.environment event idle = some w) :
    Solvent cycles { c with state := w } := by
  unfold Solvent at h ⊢
  cases environmentStep_of_environment hevent with
  | passed | paid | reserved => exact h
  | received amount =>
    refine h.trans ?_
    change c.state.canister.cycles + _ ≤ c.state.canister.cycles + amount + _
    exact Nat.add_le_add_right (Nat.le_add_right _ _) _
  | upgraded =>
    have hupgraded := owed_of_upgraded (upgraded_postUpgrade c.state.canister)
    dsimp only
    rw [hupgraded.1, hupgraded.2]
    exact h

/-- One step keeps debts and credits backed, when the copies of suspended passes are covered. -/
theorem Solvent.step {allowed : Configuration → Label → Prop} {c' : Configuration} {a : Label}
    (hc : (system cycles).ReachableWithin allowed c) (hcopies : CopiesRelated Covered c)
    (hsolvent : Solvent cycles c) (hnext : (system cycles).next c a = some c') :
    Solvent cycles c' := by
  have hsound := sound_of_reachable hc
  cases Service.step_of_next hnext with
  | startTrap operation reason h => exact hsolvent
  | startSuspend operation state frame h =>
    obtain ⟨s', hsegment, rfl⟩ := Outcome.mapState_eq_suspend h
    exact hsolvent.startSuspend hsound hsegment
  | startReply operation state response h =>
    obtain ⟨s', hsegment, rfl⟩ := Outcome.mapState_eq_reply h
    have hdebt := owed_of_start hsound.inv.consistent operation
    rw [hsegment] at hdebt
    change owed s' + _ = _ at hdebt
    unfold Solvent at hsolvent ⊢
    dsimp only
    omega
  | serve id operation frame answer hcall => exact hsolvent.serve hcall answer
  | resumeTrap id operation frame answer reason hcall h => exact hsolvent.resumeTrap hcall _
  | resumeSuspend id operation frame answer state frame' hcall h =>
    obtain ⟨s', hsegment, rfl⟩ := Outcome.mapState_eq_suspend h
    exact hsolvent.resumeSuspend hsound hcopies hcall hsegment
  | resumeReply id operation frame answer state response hcall h =>
    obtain ⟨s', hsegment, rfl⟩ := Outcome.mapState_eq_reply h
    exact hsolvent.resumeReply hsound hcopies hcall hsegment _
  | environment event state h => exact hsolvent.environment h

end Step

theorem solvent_of_installed {cycles : ℕ} {c : Configuration} (h : (system cycles).init c) :
    Solvent cycles c := by
  obtain ⟨⟨now, reserve, -, hinstall⟩, hcalls, -, -⟩ := h
  unfold Solvent owed backing
  rw [hinstall, hcalls, total_empty]
  change cycles + (total _ ∅ + total _ ∅) + 0 ≤ cycles + exchangeRateFee * 0
  simp

/-- Cycle solvency, in every interleaving without a pass that goes on to a user whose stored request
has fewer locked cycles than the copy. -/
theorem solvent_of_reachable {cycles : ℕ} {c : Configuration}
    (h : (system cycles).ReachableWithin (fun c a ↦ snapshotCovered c a) c) :
    cycles + total (fun _ a ↦ a.totalCyclesCreated - a.totalCyclesBurned)
          c.state.canister.rentalAgreements +
        total (fun _ r ↦ r.lockedAmountCycles) c.state.canister.rentalRequests ≤
      c.state.canister.cycles + 1_000_000_000 * c.state.canister.exchangeRateCalls := by
  have hinvariant : CopiesRelated Covered c ∧ Solvent cycles c := by
    refine System.ReachableWithin.induct
      (J := fun c ↦ CopiesRelated Covered c ∧ Solvent cycles c) ?_ ?_ h
    · intro start hstart
      refine ⟨fun id call _ _ _ _ _ hcall ↦ ?_, solvent_of_installed hstart⟩
      obtain ⟨-, hcalls, -, -⟩ := hstart
      simp [hcalls] at hcall
    · intro u v a hu ih ha hnext
      refine ⟨ih.1.step (fun r q hq ↦ ?_) hu (fun r hr ↦ covered_of_snapshotCovered ha hr) hnext,
        ih.2.step hu ih.1 hnext⟩
      rw [Option.some.inj hq]
  have hsolvent := hinvariant.2
  unfold Solvent owed backing at hsolvent
  have hremaining : total (fun _ a ↦ a.totalCyclesCreated - a.totalCyclesBurned)
      c.state.canister.rentalAgreements =
        total (fun _ (a : RentalAgreement) ↦ a.cyclesRemaining)
          c.state.canister.rentalAgreements := rfl
  have hfee : exchangeRateFee = 1_000_000_000 := rfl
  rw [hfee] at hsolvent
  omega

theorem coveredLockingOfBoth_isSome :
    ((system (10 ^ 12)).performWithin (fun c a ↦ snapshotCovered c a)
      (idle (installedWorld (10 ^ 12) fun _ ↦ 10 ^ 13)) lockingOfBoth).isSome := by
  decide +kernel

/-- The configuration of a pass that converts for two requests one after the other. -/
def coveredConfiguration : Configuration :=
  ((system (10 ^ 12)).performWithin (fun c a ↦ snapshotCovered c a)
    (idle (installedWorld (10 ^ 12) fun _ ↦ 10 ^ 13)) lockingOfBoth).get coveredLockingOfBoth_isSome

theorem solvent_covered :
    10 ^ 12 + total (fun _ a ↦ a.totalCyclesCreated - a.totalCyclesBurned)
          coveredConfiguration.state.canister.rentalAgreements +
        total (fun _ r ↦ r.lockedAmountCycles)
          coveredConfiguration.state.canister.rentalRequests ≤
      coveredConfiguration.state.canister.cycles +
        1_000_000_000 * coveredConfiguration.state.canister.exchangeRateCalls :=
  solvent_of_reachable
    (System.reachableWithin_get_performWithin (init_idle _ _) coveredLockingOfBoth_isSome)

/-! ### A new request between the snapshot and the guard -/

/-- While a pass converts for Alice, Bob gets a refund and a new request, for which the CMC creates
fewer cycles than for the old one; then the pass goes on to Bob. -/
def replacedDuringLocking : List Label :=
  twoDueRequests ++ [.start .locking] ++
    undisturbed (.refund bobProposal.user) 3 [.accountBalance ⟨8 * 10 ^ 12⟩, .transfer (.ok 3)] ++
    [.environment (.payIcp bobProposal.user ⟨10 ^ 13⟩)] ++
    undisturbed (.executeRentalRequestProposal governanceCanisterId bobProposal) 4
      [.accountBalance ⟨10 ^ 13⟩, .transfer (.ok 4), .notifyTopUp (.ok (9 * 10 ^ 15))] ++
    [.serve 2 (.transfer (.ok 5)), .resume 2, .serve 2 (.notifyTopUp (.ok (10 ^ 16))), .resume 2,
      .serve 2 (.transfer (.ok 6)), .resume 2, .serve 2 (.notifyTopUp (.ok (10 ^ 16))), .resume 2]

theorem replacedDuringLocking_isSome :
    ((system (10 ^ 12)).perform (idle (installedWorld (10 ^ 12) fun _ ↦ 10 ^ 13))
      replacedDuringLocking).isSome := by
  decide +kernel

/-- The pass writes the locked cycles of the request that was cancelled, although these were burned
with it, and the canister owes more than it holds. -/
theorem insolvent_after_replaced_request :
    ∃ c, (system (10 ^ 12)).Reachable c ∧
      ¬ 10 ^ 12 + total (fun _ a ↦ a.totalCyclesCreated - a.totalCyclesBurned)
            c.state.canister.rentalAgreements +
          total (fun _ r ↦ r.lockedAmountCycles) c.state.canister.rentalRequests ≤
        c.state.canister.cycles + 1_000_000_000 * c.state.canister.exchangeRateCalls :=
  ⟨_, System.reachable_get_perform (init_idle _ _) replacedDuringLocking_isSome,
    by decide +kernel⟩

end SubnetRental.Cycles
