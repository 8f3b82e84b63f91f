import SubnetRental.Lifecycle.Discipline

/-!
# What a step does to the canister

A step of the machine is a first or a resumed segment, the end of a trapped call, an answer, or
something that happens around the canister. `CanisterStep` lists what that does to the state of the
canister, and `canister_of_next` reduces a relation between the states before and after a step to
these cases.
-/

set_option autoImplicit false
set_option relaxedAutoImplicit false

namespace SubnetRental.Lifecycle

open Canister Foundation.GuardedCalls Foundation.TransitionSystem Std

/-- What a step does to the state of the canister. -/
inductive CanisterStep (c : Configuration) : Label → State → Prop
  | refused (operation : Operation) (reason : Trap)
      (htrap : start operation c.state.canister = .trap reason) :
      CanisterStep c (.start operation) c.state.canister
  | started (operation : Operation) (s' : State)
      (hleaves : ∀ P : State → Prop, (start operation c.state.canister).Leaving P → P s') :
      CanisterStep c (.start operation) s'
  | answered (id : ℕ) (operation : Operation) (frame : Frame) (answer : Answer)
      (hcall : c.calls[id]? = some ⟨operation, frame, none⟩) :
      CanisterStep c (.serve id answer) { c.state.canister with
        cycles := c.state.canister.cycles + deposited frame.outgoing answer }
  | dropped (id : ℕ) (operation : Operation) (frame : Frame) (answer : Answer) (reason : Trap)
      (hcall : c.calls[id]? = some ⟨operation, frame, some answer⟩)
      (htrap : resume frame answer c.state.canister = .trap reason) :
      CanisterStep c (.resume id) (c.state.canister.dropGuards frame.guards)
  | resumed (id : ℕ) (operation : Operation) (frame : Frame) (answer : Answer) (s' : State)
      (hcall : c.calls[id]? = some ⟨operation, frame, some answer⟩)
      (hleaves : ∀ P : State → Prop, (resume frame answer c.state.canister).Leaving P → P s') :
      CanisterStep c (.resume id) s'
  | passed (nanos : ℕ) :
      CanisterStep c (.environment (.pass nanos))
        { c.state.canister with now := c.state.canister.now + nanos }
  | paid (user : Principal) (amount : Tokens) :
      CanisterStep c (.environment (.payIcp user amount)) c.state.canister
  | received (amount : ℕ) :
      CanisterStep c (.environment (.receiveCycles amount))
        { c.state.canister with cycles := c.state.canister.cycles + amount }
  | reserved (reserve : ℕ) :
      CanisterStep c (.environment (.setReserve reserve)) { c.state.canister with reserve }
  | upgraded (hidle : c.calls.isEmpty) :
      CanisterStep c (.environment .upgrade) (postUpgrade c.state.canister)

/-- The inversion lemma for the canister. -/
theorem canisterStep_of_next {cycles : ℕ} {c c' : Configuration} {a : Label}
    (hnext : (system cycles).next c a = some c') : CanisterStep c a c'.state.canister := by
  cases Service.step_of_next hnext with
  | startTrap operation reason h => exact .refused operation reason (Outcome.mapState_eq_trap h)
  | startSuspend operation state frame h =>
    obtain ⟨s', hsegment, rfl⟩ := Outcome.mapState_eq_suspend h
    exact .started operation s' fun P hP ↦ by rwa [hsegment] at hP
  | startReply operation state response h =>
    obtain ⟨s', hsegment, rfl⟩ := Outcome.mapState_eq_reply h
    exact .started operation s' fun P hP ↦ by rwa [hsegment] at hP
  | serve id operation frame answer hcall =>
    change CanisterStep c _ (c.state.answer frame.outgoing answer).canister
    rw [world_answer_canister]
    exact .answered id operation frame answer hcall
  | resumeTrap id operation frame answer reason hcall h =>
    exact .dropped id operation frame answer reason hcall (Outcome.mapState_eq_trap h)
  | resumeSuspend id operation frame answer state frame' hcall h =>
    obtain ⟨s', hsegment, rfl⟩ := Outcome.mapState_eq_suspend h
    exact .resumed id operation frame answer s' hcall fun P hP ↦ by rwa [hsegment] at hP
  | resumeReply id operation frame answer state response hcall h =>
    obtain ⟨s', hsegment, rfl⟩ := Outcome.mapState_eq_reply h
    exact .resumed id operation frame answer s' hcall fun P hP ↦ by rwa [hsegment] at hP
  | environment event state h =>
    cases environmentStep_of_environment h with
    | passed nanos => exact .passed nanos
    | paid user amount => exact .paid user amount
    | received amount => exact .received amount
    | reserved reserve => exact .reserved reserve
    | upgraded hidle => exact .upgraded hidle

/-- What a relation has to hold over, so that it holds over a step from a configuration. -/
structure HoldsOver (R : State → State → Prop) (c : Configuration) : Prop where
  refl : R c.state.canister c.state.canister
  start : ∀ operation,
    (start operation c.state.canister).Leaving (R c.state.canister)
  resume : ∀ id operation frame answer,
    c.calls[(id : ℕ)]? = some ⟨operation, frame, some answer⟩ →
      (resume frame answer c.state.canister).Leaving (R c.state.canister)
  dropGuards : ∀ guards, R c.state.canister (c.state.canister.dropGuards guards)
  around : ∀ now cycles reserve, c.state.canister.now ≤ now →
    R c.state.canister { c.state.canister with now, cycles, reserve }
  upgrade : c.calls.isEmpty → R c.state.canister (postUpgrade c.state.canister)

theorem canister_of_next {cycles : ℕ} {c c' : Configuration} {a : Label}
    {R : State → State → Prop} (hR : HoldsOver R c) (hnext : (system cycles).next c a = some c') :
    R c.state.canister c'.state.canister := by
  have hstep := canisterStep_of_next hnext
  generalize c'.state.canister = s' at hstep ⊢
  cases hstep with
  | refused | paid => exact hR.refl
  | started operation s' hleaves => exact hleaves _ (hR.start operation)
  | answered => exact hR.around _ _ _ le_rfl
  | dropped id operation frame => exact hR.dropGuards frame.guards
  | resumed id operation frame answer s' hcall hleaves =>
    exact hleaves _ (hR.resume id operation frame answer hcall)
  | passed nanos => exact hR.around _ _ _ (Nat.le_add_right _ _)
  | received | reserved => exact hR.around _ _ _ le_rfl
  | upgraded hidle => exact hR.upgrade hidle

/-- The environment leaves the requests and what was debited. -/
theorem environment_keeps {w w' : World} {event : Environment} {idle : Bool}
    (h : w.environment event idle = some w') :
    w'.canister.rentalRequests = w.canister.rentalRequests ∧ w'.debited = w.debited := by
  cases environmentStep_of_environment h with
  | passed | paid | received | reserved => exact ⟨rfl, rfl⟩
  | upgraded => exact ⟨(upgraded_postUpgrade w.canister).rentalRequests, rfl⟩

/-- No operation changes a request before its first await. -/
theorem start_rentalRequests (operation : Operation) (s : State) :
    (start operation s).Leaving fun s' ↦ s'.rentalRequests = s.rentalRequests :=
  start_leaving framing_quiet operation (fun _ hquiet ↦ hquiet.rentalRequests) fun _ _ hpass ↦
    (burnPass_burnsOnly hpass).rentalRequests

/-! ### Replies -/

/-- A property of the state that a segment leaves and of what it replies if it ends its call. -/
def Replying (operation : Operation)
    (T : State → List (Operation × Except Trap Response) → Prop) : Segment → Prop
  | .trap _ => True
  | .suspend s' _ => T s' []
  | .reply s' response => T s' [(operation, .ok response)]

/-- What a relation between the states and the ended calls has to hold over, so that it holds over a
step from a configuration. -/
structure RepliesOver (T : State → State → List (Operation × Except Trap Response) → Prop)
    (c : Configuration) : Prop where
  start : ∀ operation,
    Replying operation (T c.state.canister) (start operation c.state.canister)
  resume : ∀ id operation frame answer,
    c.calls[(id : ℕ)]? = some ⟨operation, frame, some answer⟩ →
      Replying operation (T c.state.canister) (resume frame answer c.state.canister)
  refused : ∀ operation reason,
    T c.state.canister c.state.canister [(operation, .error reason)]
  dropGuards : ∀ guards operation reason,
    T c.state.canister (c.state.canister.dropGuards guards) [(operation, .error reason)]
  around : ∀ now cycles reserve, c.state.canister.now ≤ now →
    T c.state.canister { c.state.canister with now, cycles, reserve } []
  upgrade : c.calls.isEmpty → T c.state.canister (postUpgrade c.state.canister) []

/-- A step ends at most one call, and only its segment changes the canister. -/
theorem replies_of_next {cycles : ℕ} {c c' : Configuration} {a : Label}
    {T : State → State → List (Operation × Except Trap Response) → Prop}
    (hT : RepliesOver T c) (hnext : (system cycles).next c a = some c') :
    ∃ ended, c'.trace = c.trace ++ ended ∧ T c.state.canister c'.state.canister ended := by
  have hstill : c.trace = c.trace ++ [] := (List.append_nil _).symm
  cases Service.step_of_next hnext with
  | startTrap operation reason h => exact ⟨_, rfl, hT.refused operation reason⟩
  | startSuspend operation w frame h =>
    obtain ⟨s', hsegment, rfl⟩ := Outcome.mapState_eq_suspend h
    have hstart := hT.start operation
    rw [hsegment] at hstart
    exact ⟨[], hstill, hstart⟩
  | startReply operation w response h =>
    obtain ⟨s', hsegment, rfl⟩ := Outcome.mapState_eq_reply h
    have hstart := hT.start operation
    rw [hsegment] at hstart
    exact ⟨_, rfl, hstart⟩
  | serve id operation frame answer hcall =>
    refine ⟨[], hstill, ?_⟩
    change T _ (c.state.answer frame.outgoing answer).canister _
    rw [world_answer_canister]
    exact hT.around _ _ _ le_rfl
  | resumeTrap id operation frame answer reason hcall h =>
    exact ⟨_, rfl, hT.dropGuards frame.guards operation reason⟩
  | resumeSuspend id operation frame answer w frame' hcall h =>
    obtain ⟨s', hsegment, rfl⟩ := Outcome.mapState_eq_suspend h
    have hresume := hT.resume id operation frame answer hcall
    rw [hsegment] at hresume
    exact ⟨[], hstill, hresume⟩
  | resumeReply id operation frame answer w response hcall h =>
    obtain ⟨s', hsegment, rfl⟩ := Outcome.mapState_eq_reply h
    have hresume := hT.resume id operation frame answer hcall
    rw [hsegment] at hresume
    exact ⟨_, rfl, hresume⟩
  | environment event w h =>
    refine ⟨[], hstill, ?_⟩
    cases environmentStep_of_environment h with
    | passed nanos => exact hT.around _ _ _ (Nat.le_add_right _ _)
    | paid | received | reserved => exact hT.around _ _ _ le_rfl
    | upgraded hidle => exact hT.upgrade hidle

end SubnetRental.Lifecycle
