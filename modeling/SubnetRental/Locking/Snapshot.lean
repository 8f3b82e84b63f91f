import SubnetRental.Lifecycle.Exclusivity

/-!
# Locking works on a snapshot

A pass of `locking` reads all requests at once and takes the guard of a user only when it reaches
that user. In between the request may be refunded, replaced by a new one, turned into an agreement
or locked by another pass, and the pass then converts for a request that is no longer stored and
writes the old copy over whatever is. `burn_cycles`, the other timer, reads the stored agreement
again under the guard.

`nextDue` is the request of the snapshot a pass converts for next, and `snapshotCurrent` says that
it is still the stored one when the pass gets there. `locking_current_of_reachable` shows what holds
then, in every interleaving: the request is stored and due during the whole conversion, and the
write adds exactly what was converted (`LockingCurrent`). `locking_refunded_request` is a run in
which a refund falls into the gap.
-/

set_option autoImplicit false
set_option relaxedAutoImplicit false

namespace SubnetRental.Locking

open Canister Lifecycle Foundation.GuardedCalls Foundation.MachineInteger
open Foundation.TreeMapTotals Foundation.TransitionSystem Std

/-! ### Where a pass goes next -/

/-- The request of the rest of a snapshot that the loop of `locking` converts for next: the first
one that is due and whose user is not locked. -/
def nextDue (nowNanos : ℕ) (locks : Finset Lock) (rest : List RentalRequest) :
    Option RentalRequest :=
  rest.find? fun r ↦ decide (r.Due nowNanos ∧ requestLock r.user ∉ locks)

/-- The loop of `locking` suspends for the next due request, with its guard taken. -/
theorem lockingLoop_eq_suspend {nowNanos : ℕ} {requests : List RentalRequest} {s s' : State}
    {frame : Frame} (h : lockingLoop nowNanos requests s = .suspend s' frame) :
    ∃ r rest, frame = .lockingConvert nowNanos r r.tenPercentIcp rest .transfer ∧
      nextDue nowNanos s.locks requests = some r ∧ r :: rest <:+ requests ∧
      s' = { s with locks := insert (requestLock r.user) s.locks } := by
  induction requests with
  | nil => cases h
  | cons rentalRequest rest ih =>
    unfold lockingLoop at h
    unfold nextDue
    rw [List.find?_cons]
    split_ifs at h with hdue
    · split at h
      · rename_i hheld
        have hmem : requestLock rentalRequest.user ∈ s.locks := by
          by_contra hfree
          rw [State.callerGuard, if_neg hfree] at hheld
          cases hheld
        obtain ⟨r, rest', hframe, hnext, hsuffix, hs'⟩ := ih h
        rw [decide_eq_false fun hboth ↦ hboth.2 hmem]
        exact ⟨r, rest', hframe, hnext, hsuffix.trans (List.suffix_cons _ _), hs'⟩
      · rename_i s₁ hguard
        obtain ⟨hfree, rfl⟩ := callerGuard_eq_some hguard
        obtain ⟨-, rfl, rfl⟩ := beginConvert_eq_suspend h
        rw [decide_eq_true ⟨hdue, hfree⟩]
        exact ⟨rentalRequest, rest, rfl, rfl, List.suffix_refl _, rfl⟩
    · obtain ⟨r, rest', hframe, hnext, hsuffix, hs'⟩ := ih h
      rw [decide_eq_false fun hboth ↦ hdue hboth.1]
      exact ⟨r, rest', hframe, hnext, hsuffix.trans (List.suffix_cons _ _), hs'⟩

/-- A suspended pass that gets an answer either goes on to the CMC for the same request or, when
its conversion is over, to the next due request of its snapshot. -/
theorem resumeLockingConvert_eq_suspend {nowNanos : ℕ} {r : RentalRequest} {tenPercentIcp : Tokens}
    {rest : List RentalRequest} {stage : ConvertStage} {answer : Answer} {s s' : State}
    {frame : Frame}
    (h : resumeLockingConvert nowNanos r tenPercentIcp rest stage answer s = .suspend s' frame) :
    (∃ blockIndex, s' = s ∧ stage = .transfer ∧
      frame = .lockingConvert nowNanos r tenPercentIcp rest (.notify blockIndex)) ∨
    ∃ result next rest', convertIcpToCycles stage answer = .done result ∧
      frame = .lockingConvert nowNanos next next.tenPercentIcp rest' .transfer ∧
      nextDue nowNanos (s.locks \ {requestLock r.user}) rest = some next ∧
      next :: rest' <:+ rest := by
  unfold resumeLockingConvert at h
  split at h
  · cases h
  · rename_i stage' hconvert
    obtain ⟨rfl, rfl⟩ := Outcome.suspend.inj h
    obtain ⟨rfl, blockIndex, rfl⟩ := convertIcpToCycles_eq_await hconvert
    exact .inl ⟨blockIndex, rfl, rfl, rfl⟩
  · rename_i result hconvert
    right
    have hloop {t : State} (hlocks : t.locks = s.locks \ {requestLock r.user})
        (h : lockingLoop nowNanos rest t = .suspend s' frame) :
        ∃ result next rest', convertIcpToCycles stage answer = .done result ∧
          frame = .lockingConvert nowNanos next next.tenPercentIcp rest' .transfer ∧
          nextDue nowNanos (s.locks \ {requestLock r.user}) rest = some next ∧
          next :: rest' <:+ rest := by
      obtain ⟨next, rest', hframe, hnext, hsuffix, -⟩ := lockingLoop_eq_suspend h
      exact ⟨result, next, rest', hconvert, hframe, hlocks ▸ hnext, hsuffix⟩
    unfold lockingAfterConvert at h
    split at h
    · exact hloop rfl h
    · dsimp only at h
      split at h
      · cases h
      · split at h
        · cases h
        · rename_i t hupdate
          refine hloop ?_ h
          rw [State.dropGuards_locks, locks_updateRentalRequest hupdate]
          rfl

/-! ### Copies and stored requests -/

/-- The request of its snapshot that a step lets a pass go on to, after a conversion. -/
def nextOfSnapshot (c : Configuration) : Label → Option RentalRequest
  | .resume id =>
    match c.calls[id]? with
    | some ⟨_, .lockingConvert nowNanos r _ rest stage, some answer⟩ =>
      match convertIcpToCycles stage answer with
      | .done _ => nextDue nowNanos (c.state.canister.locks \ {requestLock r.user}) rest
      | _ => none
    | _ => none
  | _ => none

/-- Every copy that a suspended pass converts for is related to what is stored for its user. -/
def CopiesRelated (R : RentalRequest → Option RentalRequest → Prop) (c : Configuration) : Prop :=
  ∀ (id : ℕ) call nowNanos r tenPercentIcp rest stage, c.calls[id]? = some call →
    call.frame = .lockingConvert nowNanos r tenPercentIcp rest stage →
      R r c.state.canister.rentalRequests[r.user]?

/-- A pass that starts has a snapshot of what is stored. -/
theorem stored_of_locking {s s' : State} (hs : Consistent s) {nowNanos : ℕ} {r : RentalRequest}
    {tenPercentIcp : Tokens} {rest : List RentalRequest} {stage : ConvertStage}
    (h : locking s = .suspend s' (.lockingConvert nowNanos r tenPercentIcp rest stage))
    {q : RentalRequest} (hq : q ∈ r :: rest) : s'.rentalRequests[q.user]? = some q := by
  obtain ⟨first, rest', hframe, -, hsuffix, rfl⟩ := lockingLoop_eq_suspend h
  obtain ⟨-, rfl, -, rfl, -⟩ := Frame.lockingConvert.inj hframe
  have hmem : q ∈ s.iterRentalRequests.map Prod.snd := hsuffix.subset hq
  obtain ⟨⟨user, q'⟩, hentry, rfl⟩ := List.mem_map.mp hmem
  have hstored := ExtTreeMap.mem_toList_iff_getElem?_eq_some.mp hentry
  rw [← hs.request_user user q' hstored] at hstored
  exact hstored

/-- Only a pass that starts suspends for a request of a snapshot at once. -/
theorem stored_of_start {operation : Operation} {s s' : State} (hs : Consistent s) {nowNanos : ℕ}
    {r : RentalRequest} {tenPercentIcp : Tokens} {rest : List RentalRequest} {stage : ConvertStage}
    (h : start operation s = .suspend s' (.lockingConvert nowNanos r tenPercentIcp rest stage))
    {q : RentalRequest} (hq : q ∈ r :: rest) : s'.rentalRequests[q.user]? = some q := by
  have hinformed := start_informed operation hs
  rw [h] at hinformed
  cases operation <;> try exact hinformed.1.elim
  case locking => exact stored_of_locking hs h hq

/-- A call that suspends for a request of a snapshot was a pass already. It still converts for the
same request, or it has gone on to the next due one and left the requests of the rest alone. -/
theorem lockingConvert_of_resume {operation : Operation} {frame : Frame} {answer : Answer}
    {s s' : State} {nowNanos : ℕ} {r : RentalRequest} {tenPercentIcp : Tokens}
    {rest : List RentalRequest} {stage : ConvertStage} (hawaits : Awaits operation frame)
    (hknows : Knows frame s)
    (h : resume frame answer s =
      .suspend s' (.lockingConvert nowNanos r tenPercentIcp rest stage)) :
    ∃ nowNanos₀ r₀ tenPercentIcp₀ rest₀ stage₀,
      frame = .lockingConvert nowNanos₀ r₀ tenPercentIcp₀ rest₀ stage₀ ∧
      ((s' = s ∧ r₀ = r ∧ rest₀ = rest) ∨
        ∃ result, convertIcpToCycles stage₀ answer = .done result ∧
          nextDue nowNanos₀ (s.locks \ {requestLock r₀.user}) rest₀ = some r ∧
          r :: rest <:+ rest₀ ∧
          ∀ q ∈ r :: rest, s'.rentalRequests[q.user]? = s.rentalRequests[q.user]?) := by
  have hinformed := resume_informed answer hawaits hknows
  have heffect := resume_effect frame answer s
  rw [h] at hinformed heffect
  obtain ⟨hawaits', -⟩ := hinformed
  cases operation <;> try exact hawaits'.elim
  cases frame <;> try exact hawaits.elim
  case lockingConvert nowNanos₀ r₀ tenPercentIcp₀ rest₀ stage₀ =>
    refine ⟨nowNanos₀, r₀, tenPercentIcp₀, rest₀, stage₀, rfl, ?_⟩
    obtain ⟨blockIndex, rfl, rfl, hsame⟩ | ⟨result, next, rest', hdone, hnext, hdue, hsuffix⟩ :=
      resumeLockingConvert_eq_suspend h
    · obtain ⟨-, rfl, -, rfl, -⟩ := Frame.lockingConvert.inj hsame
      exact .inl ⟨rfl, rfl, rfl⟩
    · obtain ⟨-, rfl, -, rfl, -⟩ := Frame.lockingConvert.inj hnext
      refine .inr ⟨result, hdone, hdue, hsuffix, fun q hq ↦ ?_⟩
      -- the users of a snapshot are distinct, so the write before did not touch this request
      have hne : r₀.user ≠ q.user := by
        obtain ⟨-, -, -, -, -, hnodup⟩ := hknows
        intro heq
        refine (List.nodup_cons.mp hnodup).1 ?_
        rw [heq]
        exact List.mem_map_of_mem (hsuffix.subset hq)
      cases heffect with
      | quiet _ _ hquiet => rw [hquiet.rentalRequests]
      | locked _ _ stored _ _ blockIndex lockedCycles hstored hwrites =>
        rw [hwrites.rentalRequests, getElem?_insert_ite, if_neg hne]

/-- One step keeps a relation between copies and stored requests, when it holds of the request that
the step lets a pass go on to. -/
theorem CopiesRelated.step {R : RentalRequest → Option RentalRequest → Prop}
    (hself : ∀ r, R r (some r)) {cycles : ℕ} {allowed : Configuration → Label → Prop}
    {c c' : Configuration} {a : Label} (hc : (system cycles).ReachableWithin allowed c)
    (hrelated : CopiesRelated R c)
    (hgoes : ∀ r, nextOfSnapshot c a = some r → R r c.state.canister.rentalRequests[r.user]?)
    (hnext : (system cycles).next c a = some c') : CopiesRelated R c' := by
  intro id call nowNanos r tenPercentIcp rest stage hcall hframe
  have hsound := sound_of_reachable hc
  cases (Service.step_of_next hnext).origin hcall with
  | untouched call htarget hold =>
    have hlock : requestLock r.user ∈ call.frame.guards := by
      rw [hframe]
      exact Finset.mem_singleton_self _
    have hsame : c'.state.canister.rentalRequests[r.user]? =
        c.state.canister.rentalRequests[r.user]? :=
      (agree_of_step hc hnext hold htarget _ hlock).agree.1
    rw [hsame]
    exact hrelated id call nowNanos r tenPercentIcp rest stage hold hframe
  | started operation frame ha h =>
    obtain ⟨s', hsegment, hstate⟩ := Outcome.mapState_eq_suspend h
    obtain rfl : frame = .lockingConvert nowNanos r tenPercentIcp rest stage := hframe
    have hstored : s'.rentalRequests[r.user]? = some r :=
      stored_of_start hsound.inv.consistent hsegment List.mem_cons_self
    rw [hstate]
    exact hstored ▸ hself r
  | served operation frame answer ha hold h =>
    obtain rfl : frame = .lockingConvert nowNanos r tenPercentIcp rest stage := hframe
    have hstate := (congrArg World.canister h).trans (world_answer_canister c.state
      (Frame.lockingConvert nowNanos r tenPercentIcp rest stage).outgoing answer)
    rw [hstate]
    exact hrelated id _ nowNanos r tenPercentIcp rest stage hold rfl
  | resumed operation frame answer frame' ha hold h =>
    subst ha
    obtain ⟨s', hsegment, hstate⟩ := Outcome.mapState_eq_suspend h
    obtain rfl : frame' = .lockingConvert nowNanos r tenPercentIcp rest stage := hframe
    have hknown := hsound.assert id _ hold
    obtain ⟨nowNanos₀, r₀, tenPercentIcp₀, rest₀, stage₀, rfl, hfrom⟩ :=
      lockingConvert_of_resume hknown.awaits hknown.knows hsegment
    rw [hstate]
    obtain ⟨rfl, rfl, rfl⟩ | ⟨result, hdone, hdue, -, hsame⟩ := hfrom
    · exact hrelated id _ nowNanos₀ r₀ tenPercentIcp₀ rest₀ stage₀ hold rfl
    · have hbefore : R r c.state.canister.rentalRequests[r.user]? := by
        refine hgoes r ?_
        simp only [nextOfSnapshot, hold, hdone, hdue]
      exact hsame r List.mem_cons_self ▸ hbefore

/-! ### What holds when the snapshot is current -/

/-- When a step lets a pass go on to the next request of its snapshot, that request is still the
stored one. -/
def snapshotCurrent (c : Configuration) (a : Label) : Bool :=
  match nextOfSnapshot c a with
  | some r => c.state.canister.rentalRequests[r.user]? = some r
  | none => true

/-- The cycles the CMC creates for a locking fit into the request's 128-bit sum. -/
def cyclesFit (c : Configuration) : Label → Bool
  | .serve id (.notifyTopUp (.ok lockedCycles)) =>
    match c.calls[id]? with
    | some ⟨_, .lockingConvert _ r _ _ _, none⟩ => r.lockedAmountCycles + lockedCycles < 2 ^ 128
    | _ => true
  | _ => true

/-- The created cycles a suspended pass is about to add fit. -/
def CreatedFit (c : Configuration) : Prop :=
  ∀ (id : ℕ) operation nowNanos r tenPercentIcp rest stage lockedCycles,
    c.calls[id]? = some ⟨operation, .lockingConvert nowNanos r tenPercentIcp rest stage,
      some (.notifyTopUp (.ok lockedCycles))⟩ →
    r.lockedAmountCycles + lockedCycles < 2 ^ 128

theorem CreatedFit.step {cycles : ℕ} {c c' : Configuration} {a : Label} (hc : CreatedFit c)
    (hfit : cyclesFit c a) (hnext : (system cycles).next c a = some c') : CreatedFit c' := by
  intro id operation nowNanos r tenPercentIcp rest stage lockedCycles hcall
  cases (Service.step_of_next hnext).origin hcall with
  | untouched call htarget hold => exact hc id _ nowNanos r _ rest stage lockedCycles hold
  | served operation frame answer ha hold h =>
    subst ha
    simpa only [cyclesFit, hold, decide_eq_true_eq] using hfit

/-- What is promised about every conversion of a pass in flight: the request is stored and due, and
once the CMC created cycles for it, the pass does not trap and adds exactly what was converted. -/
def LockingCurrent (c : Configuration) : Prop :=
  ∀ (id : ℕ) operation nowNanos r tenPercentIcp rest stage answered,
    c.calls[id]? =
      some ⟨operation, .lockingConvert nowNanos r tenPercentIcp rest stage, answered⟩ →
    ∃ stored, c.state.canister.rentalRequests[r.user]? = some stored ∧
      stored.lastLockingTimeNanos + 30 * secondsPerDay * billion ≤ nowNanos ∧
      stored.lockedAmountIcp.e8s < 10 * stored.tenPercentIcp.e8s ∧
      tenPercentIcp = stored.tenPercentIcp ∧
      ∀ blockIndex lockedCycles, stage = .notify blockIndex →
        answered = some (.notifyTopUp (.ok lockedCycles)) →
        (resume (.lockingConvert nowNanos r tenPercentIcp rest stage)
            (.notifyTopUp (.ok lockedCycles)) c.state.canister).Trapping (fun _ ↦ False) ∧
          (resume (.lockingConvert nowNanos r tenPercentIcp rest stage)
            (.notifyTopUp (.ok lockedCycles)) c.state.canister).Leaving fun s' ↦
              s'.rentalRequests = c.state.canister.rentalRequests.insert r.user
                { stored with
                  lockedAmountIcp := ⟨stored.lockedAmountIcp.e8s + tenPercentIcp.e8s⟩
                  lockedAmountCycles := stored.lockedAmountCycles + lockedCycles
                  lastLockingTimeNanos := nowNanos }

/-- A request is due when 30 days have passed since its last locking and a tenth is left. -/
theorem due_iff {nowNanos : ℕ} {r : RentalRequest} (h : WellFormedRequest nowNanos r)
    (hlt : nowNanos < 2 ^ 64) :
    r.Due nowNanos ↔ r.lastLockingTimeNanos + 30 * secondsPerDay * billion ≤ nowNanos ∧
      r.lockedAmountIcp.e8s < 10 * r.tenPercentIcp.e8s := by
  have hle := h.locked_le
  have hdays : 30 ≤ r.daysSinceLastLocking nowNanos ↔
      r.lastLockingTimeNanos + 30 * secondsPerDay * billion ≤ nowNanos := by
    unfold RentalRequest.daysSinceLastLocking secondsPerDay billion
    rw [wrappingSub_of_le hle hlt]
    omega
  have hfull : ¬ r.FullyLocked ↔ r.lockedAmountIcp.e8s < 10 * r.tenPercentIcp.e8s := by
    rw [fullyLocked_iff h]
    omega
  unfold RentalRequest.Due
  rw [hdays, hfull]

/-- Over requests whose tenths cover the fee, the loop of `locking` never traps. -/
theorem lockingLoop_trapping {nowNanos : ℕ} {requests : List RentalRequest}
    (hwell : ∀ r ∈ requests, WellFormedRequest nowNanos r) (s : State) :
    (lockingLoop nowNanos requests s).Trapping fun _ ↦ False := by
  induction requests with
  | nil => trivial
  | cons rentalRequest rest ih =>
    obtain ⟨hfirst, hrest⟩ := List.forall_mem_cons.mp hwell
    unfold lockingLoop
    split_ifs
    · split
      · exact ih hrest
      · rw [beginConvert_of_le hfirst.fee_le]
        trivial
    · exact ih hrest

/-- The write of a pass, when a request of the user is stored. -/
theorem resume_lockingConvert_written {r stored : RentalRequest} {s : State}
    (hstored : s.rentalRequests[r.user]? = some stored) {tenPercentIcp : Tokens}
    (hfits : r.lockedIcpOverflows tenPercentIcp = false) (nowNanos : ℕ)
    (rest : List RentalRequest) (blockIndex lockedCycles : ℕ) :
    ∃ t, resume (.lockingConvert nowNanos r tenPercentIcp rest (.notify blockIndex))
        (.notifyTopUp (.ok lockedCycles)) s = lockingLoop nowNanos rest t ∧
      t.rentalRequests = s.rentalRequests.insert r.user
        (r.afterLocking nowNanos tenPercentIcp lockedCycles) ∧
      t.rentalAgreements = s.rentalAgreements ∧ t.locks = s.locks \ {requestLock r.user} := by
  unfold resume resumeLockingConvert
  dsimp only [convertIcpToCycles, lockingAfterConvert]
  unfold State.updateRentalRequest
  rw [if_neg (Bool.eq_false_iff.mp hfits), State.persistEvent_rentalRequests,
    State.persistEvent_rentalRequests, hstored]
  exact ⟨_, rfl, rfl, rfl, rfl⟩

/-- The write of a pass, when the copy it works on is stored. -/
theorem resume_lockingConvert_ok {nowNanos : ℕ} {r : RentalRequest} {s : State}
    (hwell : WellFormedRequest nowNanos r) (hdue : r.Due nowNanos)
    (hstored : s.rentalRequests[r.user]? = some r) (rest : List RentalRequest)
    (blockIndex lockedCycles : ℕ)
    (hfit : r.lockedAmountCycles + lockedCycles < 2 ^ 128) :
    ∃ t, resume (.lockingConvert nowNanos r r.tenPercentIcp rest (.notify blockIndex))
        (.notifyTopUp (.ok lockedCycles)) s = lockingLoop nowNanos rest t ∧
      t.rentalRequests = s.rentalRequests.insert r.user
        { r with
          lockedAmountIcp := ⟨r.lockedAmountIcp.e8s + r.tenPercentIcp.e8s⟩
          lockedAmountCycles := r.lockedAmountCycles + lockedCycles
          lastLockingTimeNanos := nowNanos } := by
  have hcopy : r.afterLocking nowNanos r.tenPercentIcp lockedCycles =
      { r with
        lockedAmountIcp := ⟨r.lockedAmountIcp.e8s + r.tenPercentIcp.e8s⟩
        lockedAmountCycles := r.lockedAmountCycles + lockedCycles
        lastLockingTimeNanos := nowNanos } := by
    unfold RentalRequest.afterLocking
    rw [wrappingAdd_of_lt hfit]
    rfl
  rw [← hcopy]
  obtain ⟨t, hresume, hrequests, -, -⟩ := resume_lockingConvert_written hstored
    (not_lockedIcpOverflows hwell hdue.2) nowNanos rest blockIndex lockedCycles
  exact ⟨t, hresume, hrequests⟩

/-- Every suspended pass works on the stored request, and the cycles it is about to add fit. -/
structure PassesCurrent (c : Configuration) : Prop where
  copies : CopiesRelated (fun r stored ↦ stored = some r) c
  fit : CreatedFit c

theorem passesCurrent_of_reachable {cycles : ℕ} {c : Configuration}
    (h : (system cycles).ReachableWithin (fun c a ↦ snapshotCurrent c a ∧ cyclesFit c a) c) :
    PassesCurrent c := by
  refine System.ReachableWithin.induct ?_ ?_ h
  · rintro start ⟨-, hcalls, -, -⟩
    constructor
    · intro id call _ _ _ _ _ hcall
      simp [hcalls] at hcall
    · intro id _ _ _ _ _ _ _ hcall
      simp [hcalls] at hcall
  · intro u v a hu ih ha hnext
    refine ⟨CopiesRelated.step (R := fun r stored ↦ stored = some r) (fun _ ↦ rfl) hu ih.copies
      (fun r hr ↦ ?_) hnext, ih.fit.step ha.2 hnext⟩
    simpa only [snapshotCurrent, hr, decide_eq_true_eq] using ha.1

/-- In every interleaving in which every pass finds the requests of its snapshot still stored when
it gets to them, locking works on the stored requests. -/
theorem locking_current_of_reachable {cycles : ℕ} {c : Configuration}
    (h : (system cycles).ReachableWithin (fun c a ↦ snapshotCurrent c a ∧ cyclesFit c a) c) :
    LockingCurrent c := by
  obtain ⟨hcopies, hfit⟩ := passesCurrent_of_reachable h
  intro id operation nowNanos r tenPercentIcp rest stage answered hcall
  have hsound := sound_of_reachable h
  obtain ⟨hnow, hwell, hdue, rfl, hrest, -⟩ := (hsound.assert id _ hcall).knows
  have hstored := hcopies id _ nowNanos r r.tenPercentIcp rest stage hcall rfl
  have hlt : nowNanos < 2 ^ 64 := hnow.trans_lt hsound.inv.consistent.now_lt
  obtain ⟨hdays, htenths⟩ := (due_iff hwell hlt).mp hdue
  refine ⟨r, hstored, hdays, htenths, rfl, ?_⟩
  rintro blockIndex lockedCycles rfl rfl
  obtain ⟨t, hresume, hrequests⟩ := resume_lockingConvert_ok hwell hdue hstored rest
    blockIndex lockedCycles (hfit id operation nowNanos r _ rest _ lockedCycles hcall)
  rw [hresume]
  refine ⟨lockingLoop_trapping hrest t, ?_⟩
  refine (framed_lockingLoop framing_quiet nowNanos rest t).mono fun s' hs' ↦ ?_
  rw [hs'.rentalRequests, hrequests]

/-! ### Runs with two requests -/

def bobProposal : SubnetRentalProposalPayload where
  user := ⟨[2], by decide⟩
  rentalConditionId := .app7CH
  proposalId := 2
  proposalCreationTimeSeconds := 86_400

/-- Alice and Bob get requests, and 30 days pass. -/
def twoDueRequests : List Label :=
  undisturbed (.executeRentalRequestProposal governanceCanisterId aliceProposal) 0
      [.exchangeRate (.ok (3_500_000_000, 9)), .accountBalance ⟨10 ^ 13⟩, .transfer (.ok 1),
        .notifyTopUp (.ok (10 ^ 16))] ++
    undisturbed (.executeRentalRequestProposal governanceCanisterId bobProposal) 1
      [.accountBalance ⟨10 ^ 13⟩, .transfer (.ok 2), .notifyTopUp (.ok (10 ^ 16))] ++
    [.environment (.pass (30 * secondsPerDay * billion))]

/-- A pass converts for Alice and goes on to Bob. -/
def lockingOfBoth : List Label :=
  twoDueRequests ++ [.start .locking, .serve 2 (.transfer (.ok 3)), .resume 2,
    .serve 2 (.notifyTopUp (.ok (10 ^ 16))), .resume 2, .serve 2 (.transfer (.ok 4)), .resume 2,
    .serve 2 (.notifyTopUp (.ok (10 ^ 16)))]

theorem lockingOfBoth_isSome :
    ((system (10 ^ 12)).performWithin (fun c a ↦ snapshotCurrent c a ∧ cyclesFit c a)
      (idle (installedWorld (10 ^ 12) fun _ ↦ 10 ^ 13)) lockingOfBoth).isSome := by
  decide +kernel

/-- The conversions of that pass work on the stored requests. -/
theorem locking_current_undisturbed :
    LockingCurrent (((system (10 ^ 12)).performWithin
      (fun c a ↦ snapshotCurrent c a ∧ cyclesFit c a)
      (idle (installedWorld (10 ^ 12) fun _ ↦ 10 ^ 13)) lockingOfBoth).get
        lockingOfBoth_isSome) :=
  locking_current_of_reachable
    (System.reachableWithin_get_performWithin (init_idle _ _) lockingOfBoth_isSome)

/-! ### A refund between the snapshot and the guard -/

/-- A pass converts for a user without a request. -/
def convertsWithoutRequest (c : Configuration) (id : ℕ) : Bool :=
  match c.calls[id]? with
  | some ⟨_, .lockingConvert _ r _ _ _, _⟩ =>
    (c.state.canister.rentalRequests[r.user]?).isNone
  | _ => false

theorem not_lockingCurrent {c : Configuration} (id : ℕ) (h : convertsWithoutRequest c id) :
    ¬ LockingCurrent c := by
  intro hcurrent
  unfold convertsWithoutRequest at h
  split at h
  · rename_i operation nowNanos r tenPercentIcp rest stage answered hcall
    obtain ⟨stored, hstored, -⟩ :=
      hcurrent id operation nowNanos r tenPercentIcp rest stage answered hcall
    rw [hstored] at h
    cases h
  · cases h

/-- While a pass converts for Alice, Bob gets a refund; then the pass goes on to Bob. -/
def refundDuringLocking : List Label :=
  twoDueRequests ++ [.start .locking] ++
    undisturbed (.refund bobProposal.user) 3
      [.accountBalance ⟨8 * 10 ^ 12⟩, .transfer (.ok 3)] ++
    [.serve 2 (.transfer (.ok 4)), .resume 2, .serve 2 (.notifyTopUp (.ok (10 ^ 16))), .resume 2]

/-- The conversion for Bob succeeds as well. -/
def lockingOfRefunded : List Label :=
  refundDuringLocking ++
    [.serve 2 (.transfer (.ok 5)), .resume 2, .serve 2 (.notifyTopUp (.ok (10 ^ 16))), .resume 2]

theorem refundDuringLocking_isSome :
    ((system (10 ^ 12)).perform (idle (installedWorld (10 ^ 12) fun _ ↦ 10 ^ 13))
      refundDuringLocking).isSome := by
  decide +kernel

theorem lockingOfRefunded_isSome :
    ((system (10 ^ 12)).perform (idle (installedWorld (10 ^ 12) fun _ ↦ 10 ^ 13))
      lockingOfRefunded).isSome := by
  decide +kernel

/-- A run in which every call of the ledger and the CMC succeeds, and in which a pass converts for a
user who has no request any more; the pass then traps in `update_rental_request`. -/
theorem locking_refunded_request :
    (∃ c, (system (10 ^ 12)).Reachable c ∧ ¬ LockingCurrent c) ∧
      ∃ c, (system (10 ^ 12)).Reachable c ∧ c.trace.getLast?.any fun ended ↦
        match ended with
        | (.locking, .error .updateRentalRequest) => true
        | _ => false :=
  ⟨⟨_, System.reachable_get_perform (init_idle _ _) refundDuringLocking_isSome,
      not_lockingCurrent 2 (by decide +kernel)⟩,
    _, System.reachable_get_perform (init_idle _ _) lockingOfRefunded_isSome,
    by decide +kernel⟩

end SubnetRental.Locking
