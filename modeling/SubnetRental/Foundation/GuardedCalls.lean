import SubnetRental.Foundation.TransitionSystem
import SubnetRental.Foundation.TreeMapTotals
import Mathlib.Data.Finset.Basic
import Mathlib.Data.Finset.Lattice.Lemmas

/-!
# Suspendable calls under exclusive guards

A service answers calls in segments. A segment runs without interruption on the shared state and
ends in one of three ways: the call traps, it suspends on an outgoing request, leaving a frame, or
it replies. Between segments any other call may run. A trap undoes the segment and the call is
dropped; its destructors (`Service.unwind`) still take effect. Requests are answered by the
outside world (`Service.serve`), which may change the state when it answers, and the answer is
delivered later. `Service.next` is this machine over configurations, `Step` its inversion: one
constructor for each way a step can go.

A `Discipline` says which guards a frame owns, which guards the state records as held, what a
guard protects, and what a suspended call knows about the state. `Discipline.Lawful` collects the
obligations on single segments: a segment may only take free guards and may only change what a
guard held by somebody else protects by leaving it as it is. `Discipline.sound_of_reachable` is
the result for all interleavings: the held guards are exactly those owned by the suspended calls,
no two calls own the same guard, and every suspended call still knows what it knew
(`Discipline.Sound`). `Discipline.Sound.leaves_of_step` is the frame rule for one step, and
`Discipline.Sound.kept_of_step` says that it releases no guard of another call.
-/

set_option autoImplicit false
set_option relaxedAutoImplicit false

namespace Foundation.GuardedCalls

open Std TransitionSystem TreeMapTotals

/-- How a segment ends. -/
inductive Outcome (σ φ ρ τ : Type*)
  | trap (reason : τ)
  | suspend (state : σ) (frame : φ)
  | reply (state : σ) (response : ρ)

/-- The same end of a segment, seen in a larger state. -/
def Outcome.mapState {σ σ' φ ρ τ : Type*} (f : σ → σ') : Outcome σ φ ρ τ → Outcome σ' φ ρ τ
  | .trap reason => .trap reason
  | .suspend state frame => .suspend (f state) frame
  | .reply state response => .reply (f state) response

section MapState

variable {σ σ' φ ρ τ : Type*} {f : σ → σ'} {outcome : Outcome σ φ ρ τ}

theorem Outcome.mapState_eq_trap {reason : τ} (h : outcome.mapState f = .trap reason) :
    outcome = .trap reason := by
  cases outcome with
  | trap reason' =>
    obtain rfl := Outcome.trap.inj h
    rfl
  | suspend state frame => cases h
  | reply state response => cases h

theorem Outcome.mapState_eq_suspend {state' : σ'} {frame : φ}
    (h : outcome.mapState f = .suspend state' frame) :
    ∃ state, outcome = .suspend state frame ∧ state' = f state := by
  cases outcome with
  | trap reason => cases h
  | suspend state frame' =>
    obtain ⟨rfl, rfl⟩ := Outcome.suspend.inj h
    exact ⟨state, rfl, rfl⟩
  | reply state response => cases h

theorem Outcome.mapState_eq_reply {state' : σ'} {response : ρ}
    (h : outcome.mapState f = .reply state' response) :
    ∃ state, outcome = .reply state response ∧ state' = f state := by
  cases outcome with
  | trap reason => cases h
  | suspend state frame => cases h
  | reply state response' =>
    obtain ⟨rfl, rfl⟩ := Outcome.reply.inj h
    exact ⟨state, rfl, rfl⟩

end MapState

/-- A segment that ends its call in a state with a result. -/
def Outcome.ended {σ φ ρ τ : Type*} (s : σ) : Except τ ρ → Outcome σ φ ρ τ
  | .error reason => .trap reason
  | .ok response => .reply s response

theorem Outcome.mapState_ended {σ σ' φ ρ τ : Type*} (f : σ → σ') (s : σ) (result : Except τ ρ) :
    (Outcome.ended s result : Outcome σ φ ρ τ).mapState f = .ended (f s) result := by
  cases result <;> rfl

/-- Every state the segment can leave behind satisfies `P`. -/
def Outcome.Leaving {σ φ ρ τ : Type*} (P : σ → Prop) : Outcome σ φ ρ τ → Prop
  | .trap _ => True
  | .suspend state _ => P state
  | .reply state _ => P state

theorem Outcome.Leaving.mono {σ φ ρ τ : Type*} {P Q : σ → Prop} {outcome : Outcome σ φ ρ τ}
    (h : outcome.Leaving P) (hPQ : ∀ s, P s → Q s) : outcome.Leaving Q := by
  cases outcome with
  | trap reason => trivial
  | suspend state frame => exact hPQ state h
  | reply state response => exact hPQ state h

theorem Outcome.Leaving.mapState {σ σ' φ ρ τ : Type*} {f : σ → σ'} {P : σ' → Prop}
    {outcome : Outcome σ φ ρ τ} (h : outcome.Leaving fun s ↦ P (f s)) :
    (outcome.mapState f).Leaving P := by
  cases outcome with
  | trap reason => trivial
  | suspend state frame => exact h
  | reply state response => exact h

/-- If the segment ends suspended, its state and its frame satisfy `P`. -/
def Outcome.Suspending {σ φ ρ τ : Type*} (P : σ → φ → Prop) : Outcome σ φ ρ τ → Prop
  | .trap _ => True
  | .suspend state frame => P state frame
  | .reply _ _ => True

theorem Outcome.Suspending.mono {σ φ ρ τ : Type*} {P Q : σ → φ → Prop}
    {outcome : Outcome σ φ ρ τ} (h : outcome.Suspending P)
    (hPQ : ∀ s frame, P s frame → Q s frame) :
    outcome.Suspending Q := by
  cases outcome with
  | trap reason => trivial
  | suspend state frame => exact hPQ state frame h
  | reply state response => trivial

/-- If the segment traps, its reason satisfies `P`. -/
def Outcome.Trapping {σ φ ρ τ : Type*} (P : τ → Prop) : Outcome σ φ ρ τ → Prop
  | .trap reason => P reason
  | .suspend _ _ => True
  | .reply _ _ => True

/-- A service whose calls run in segments. -/
structure Service (σ ω φ ε ρ τ η : Type*) where
  /-- The first segment of a call. -/
  start : ω → σ → Outcome σ φ ρ τ
  /-- The segment that follows an answer. -/
  resume : φ → ε → σ → Outcome σ φ ρ τ
  /-- The destructors of a suspended call that is dropped after a trap. -/
  unwind : φ → σ → σ
  /-- What the outside world does when it answers the request of a frame. -/
  serve : φ → ε → σ → σ
  /-- Everything else that happens, told whether no call is in flight. -/
  environment : η → Bool → σ → Option σ

/-- A suspended call: the operation it serves, its frame, and the answer once there is one. -/
structure Call (ω φ ε : Type*) where
  operation : ω
  frame : φ
  answer : Option ε

/-- The shared state, the suspended calls under their identifiers, and how the ended calls ended. -/
structure Config (σ ω φ ε ρ τ : Type*) where
  state : σ
  calls : ExtTreeMap ℕ (Call ω φ ε)
  nextCall : ℕ
  trace : List (ω × Except τ ρ)

/-- The labels of the machine. -/
inductive Action (ω ε η : Type*)
  | start (operation : ω)
  | serve (id : ℕ) (answer : ε)
  | resume (id : ℕ)
  | environment (event : η)

/-- The suspended call a label acts on. -/
def Action.target {ω ε η : Type*} : Action ω ε η → Option ℕ
  | .start _ => none
  | .serve id _ => some id
  | .resume id => some id
  | .environment _ => none

variable {σ ω φ ε ρ τ η κ : Type*}

namespace Service

variable (S : Service σ ω φ ε ρ τ η)

/-- One step of the machine. A label is not enabled when it names no suspended call, answers a
request twice or delivers an answer that does not exist. -/
def next (c : Config σ ω φ ε ρ τ) : Action ω ε η → Option (Config σ ω φ ε ρ τ)
  | .start operation =>
    match S.start operation c.state with
    | .trap reason => some { c with trace := c.trace ++ [(operation, .error reason)] }
    | .suspend state frame =>
      some { c with
        state
        calls := c.calls.insert c.nextCall ⟨operation, frame, none⟩
        nextCall := c.nextCall + 1 }
    | .reply state response =>
      some { c with state, trace := c.trace ++ [(operation, .ok response)] }
  | .serve id answer =>
    match c.calls[id]? with
    | some ⟨operation, frame, none⟩ =>
      some { c with
        state := S.serve frame answer c.state
        calls := c.calls.insert id ⟨operation, frame, some answer⟩ }
    | _ => none
  | .resume id =>
    match c.calls[id]? with
    | some ⟨operation, frame, some answer⟩ =>
      match S.resume frame answer c.state with
      -- the segment is undone, and the future of the call is dropped
      | .trap reason =>
        some { c with
          state := S.unwind frame c.state
          calls := c.calls.erase id
          trace := c.trace ++ [(operation, .error reason)] }
      | .suspend state frame' =>
        some { c with state, calls := c.calls.insert id ⟨operation, frame', none⟩ }
      | .reply state response =>
        some { c with
          state
          calls := c.calls.erase id
          trace := c.trace ++ [(operation, .ok response)] }
    | _ => none
  | .environment event =>
    (S.environment event c.calls.isEmpty c.state).map fun state ↦ { c with state }

/-- The machine of a service, started idle in one of the given states. -/
def system (initial : σ → Prop) : System (Config σ ω φ ε ρ τ) (Action ω ε η) where
  init c := initial c.state ∧ c.calls = ∅ ∧ c.nextCall = 0 ∧ c.trace = []
  next := S.next

/-- The ways one step can go. -/
inductive Step (c : Config σ ω φ ε ρ τ) : Action ω ε η → Config σ ω φ ε ρ τ → Prop
  | startTrap (operation : ω) (reason : τ) (h : S.start operation c.state = .trap reason) :
    Step c (.start operation) { c with trace := c.trace ++ [(operation, .error reason)] }
  | startSuspend (operation : ω) (state : σ) (frame : φ)
      (h : S.start operation c.state = .suspend state frame) :
    Step c (.start operation)
      { c with
        state
        calls := c.calls.insert c.nextCall ⟨operation, frame, none⟩
        nextCall := c.nextCall + 1 }
  | startReply (operation : ω) (state : σ) (response : ρ)
      (h : S.start operation c.state = .reply state response) :
    Step c (.start operation)
      { c with state, trace := c.trace ++ [(operation, .ok response)] }
  | serve (id : ℕ) (operation : ω) (frame : φ) (answer : ε)
      (hcall : c.calls[id]? = some ⟨operation, frame, none⟩) :
    Step c (.serve id answer)
      { c with
        state := S.serve frame answer c.state
        calls := c.calls.insert id ⟨operation, frame, some answer⟩ }
  | resumeTrap (id : ℕ) (operation : ω) (frame : φ) (answer : ε) (reason : τ)
      (hcall : c.calls[id]? = some ⟨operation, frame, some answer⟩)
      (h : S.resume frame answer c.state = .trap reason) :
    Step c (.resume id)
      { c with
        state := S.unwind frame c.state
        calls := c.calls.erase id
        trace := c.trace ++ [(operation, .error reason)] }
  | resumeSuspend (id : ℕ) (operation : ω) (frame : φ) (answer : ε) (state : σ) (frame' : φ)
      (hcall : c.calls[id]? = some ⟨operation, frame, some answer⟩)
      (h : S.resume frame answer c.state = .suspend state frame') :
    Step c (.resume id) { c with state, calls := c.calls.insert id ⟨operation, frame', none⟩ }
  | resumeReply (id : ℕ) (operation : ω) (frame : φ) (answer : ε) (state : σ) (response : ρ)
      (hcall : c.calls[id]? = some ⟨operation, frame, some answer⟩)
      (h : S.resume frame answer c.state = .reply state response) :
    Step c (.resume id)
      { c with
        state
        calls := c.calls.erase id
        trace := c.trace ++ [(operation, .ok response)] }
  | environment (event : η) (state : σ)
      (h : S.environment event c.calls.isEmpty c.state = some state) :
    Step c (.environment event) { c with state }

variable {S}

/-- Every step goes one of the listed ways. -/
theorem step_of_next {c c' : Config σ ω φ ε ρ τ} {a : Action ω ε η} (h : S.next c a = some c') :
    S.Step c a c' := by
  cases a with
  | start operation =>
    simp only [next] at h
    cases hstart : S.start operation c.state with
    | trap reason =>
      rw [hstart] at h
      obtain rfl := Option.some.inj h
      exact .startTrap operation reason hstart
    | suspend state frame =>
      rw [hstart] at h
      obtain rfl := Option.some.inj h
      exact .startSuspend operation state frame hstart
    | reply state response =>
      rw [hstart] at h
      obtain rfl := Option.some.inj h
      exact .startReply operation state response hstart
  | serve id answer =>
    simp only [next] at h
    split at h
    case h_1 operation frame hcall =>
      obtain rfl := Option.some.inj h
      exact .serve id operation frame answer hcall
    case h_2 => cases h
  | resume id =>
    simp only [next] at h
    split at h
    case h_2 => cases h
    case h_1 operation frame answer hcall =>
      cases hresume : S.resume frame answer c.state with
      | trap reason =>
        rw [hresume] at h
        obtain rfl := Option.some.inj h
        exact .resumeTrap id operation frame answer reason hcall hresume
      | suspend state frame' =>
        rw [hresume] at h
        obtain rfl := Option.some.inj h
        exact .resumeSuspend id operation frame answer state frame' hcall hresume
      | reply state response =>
        rw [hresume] at h
        obtain rfl := Option.some.inj h
        exact .resumeReply id operation frame answer state response hcall hresume
  | environment event =>
    obtain ⟨state, hstate, rfl⟩ := Option.map_eq_some_iff.mp h
    exact .environment event state hstate

variable (S) in
/-- Where a call that is suspended after a step comes from. -/
inductive Origin (c c' : Config σ ω φ ε ρ τ) (a : Action ω ε η) (id : ℕ) : Call ω φ ε → Prop
  | untouched (call : Call ω φ ε) (htarget : a.target ≠ some id)
      (hcall : c.calls[id]? = some call) : Origin c c' a id call
  | started (operation : ω) (frame : φ) (ha : a = .start operation)
      (h : S.start operation c.state = .suspend c'.state frame) :
    Origin c c' a id ⟨operation, frame, none⟩
  | served (operation : ω) (frame : φ) (answer : ε) (ha : a = .serve id answer)
      (hcall : c.calls[id]? = some ⟨operation, frame, none⟩)
      (h : c'.state = S.serve frame answer c.state) :
    Origin c c' a id ⟨operation, frame, some answer⟩
  | resumed (operation : ω) (frame : φ) (answer : ε) (frame' : φ) (ha : a = .resume id)
      (hcall : c.calls[id]? = some ⟨operation, frame, some answer⟩)
      (h : S.resume frame answer c.state = .suspend c'.state frame') :
    Origin c c' a id ⟨operation, frame', none⟩

/-- Every call suspended after a step was started, served, resumed or not touched by it. -/
theorem Step.origin {c c' : Config σ ω φ ε ρ τ} {a : Action ω ε η} (h : S.Step c a c') {id : ℕ}
    {call : Call ω φ ε} (hcall : c'.calls[id]? = some call) : S.Origin c c' a id call := by
  cases h with
  | startTrap operation reason h => exact .untouched call nofun hcall
  | startReply operation state response h => exact .untouched call nofun hcall
  | environment event state h => exact .untouched call nofun hcall
  | startSuspend operation state frame h =>
    obtain ⟨-, rfl⟩ | ⟨-, hold⟩ := getElem?_insert_eq_some_iff.mp hcall
    · exact .started operation frame rfl h
    · exact .untouched call nofun hold
  | serve other operation frame answer hserved =>
    obtain ⟨rfl, rfl⟩ | ⟨hne, hold⟩ := getElem?_insert_eq_some_iff.mp hcall
    · exact .served operation frame answer rfl hserved rfl
    · exact .untouched call (fun htarget ↦ hne (Option.some.inj htarget)) hold
  | resumeSuspend other operation frame answer state frame' hresumed h =>
    obtain ⟨rfl, rfl⟩ | ⟨hne, hold⟩ := getElem?_insert_eq_some_iff.mp hcall
    · exact .resumed operation frame answer frame' rfl hresumed h
    · exact .untouched call (fun htarget ↦ hne (Option.some.inj htarget)) hold
  | resumeTrap other operation frame answer reason hresumed h =>
    obtain ⟨hne, hold⟩ := getElem?_erase_eq_some_iff.mp hcall
    exact .untouched call (fun htarget ↦ hne (Option.some.inj htarget)) hold
  | resumeReply other operation frame answer state response hresumed h =>
    obtain ⟨hne, hold⟩ := getElem?_erase_eq_some_iff.mp hcall
    exact .untouched call (fun htarget ↦ hne (Option.some.inj htarget)) hold

variable (S) in
/-- How a call can end in a step from a configuration. -/
inductive Ending (c : Config σ ω φ ε ρ τ) : ω → Except τ ρ → Prop
  | startTrap (operation : ω) (reason : τ) (h : S.start operation c.state = .trap reason) :
    Ending c operation (.error reason)
  | startReply (operation : ω) (state : σ) (response : ρ)
      (h : S.start operation c.state = .reply state response) :
    Ending c operation (.ok response)
  | resumeTrap (id : ℕ) (operation : ω) (frame : φ) (answer : ε) (reason : τ)
      (hcall : c.calls[id]? = some ⟨operation, frame, some answer⟩)
      (h : S.resume frame answer c.state = .trap reason) : Ending c operation (.error reason)
  | resumeReply (id : ℕ) (operation : ω) (frame : φ) (answer : ε) (state : σ) (response : ρ)
      (hcall : c.calls[id]? = some ⟨operation, frame, some answer⟩)
      (h : S.resume frame answer c.state = .reply state response) :
    Ending c operation (.ok response)

/-- A step records at most one ended call. -/
theorem Step.mem_trace {c c' : Config σ ω φ ε ρ τ} {a : Action ω ε η} (h : S.Step c a c')
    {operation : ω} {result : Except τ ρ} (hmem : (operation, result) ∈ c'.trace) :
    (operation, result) ∈ c.trace ∨ S.Ending c operation result := by
  have hnew {operation' : ω} {result' : Except τ ρ}
      (hmem : (operation, result) ∈ c.trace ++ [(operation', result')])
      (hending : S.Ending c operation' result') :
      (operation, result) ∈ c.trace ∨ S.Ending c operation result := by
    obtain hold | hlast := List.mem_append.mp hmem
    · exact .inl hold
    · obtain ⟨rfl, rfl⟩ := Prod.mk.inj (List.mem_singleton.mp hlast)
      exact .inr hending
  cases h with
  | startTrap operation' reason h => exact hnew hmem (.startTrap operation' reason h)
  | startReply operation' state response h =>
    exact hnew hmem (.startReply operation' state response h)
  | resumeTrap id operation' frame answer reason hcall h =>
    exact hnew hmem (.resumeTrap id operation' frame answer reason hcall h)
  | resumeReply id operation' frame answer state response hcall h =>
    exact hnew hmem (.resumeReply id operation' frame answer state response hcall h)
  | startSuspend | serve | resumeSuspend | environment => exact .inl hmem

/-- A call suspended after a step was suspended before it, for the same operation, or is the one it
starts. -/
theorem Step.operation_of_some {c c' : Config σ ω φ ε ρ τ} {a : Action ω ε η} (h : S.Step c a c')
    {id : ℕ} {call : Call ω φ ε} (hcall : c'.calls[id]? = some call) :
    (∃ old, c.calls[id]? = some old ∧ old.operation = call.operation) ∨
      (id = c.nextCall ∧ a = .start call.operation ∧
        S.start call.operation c.state = .suspend c'.state call.frame) := by
  have hinserted {other : ℕ} {old new : Call ω φ ε} (hold : c.calls[other]? = some old)
      (hlookup : (c.calls.insert other new)[id]? = some call)
      (hsame : old.operation = new.operation) :
      ∃ old, c.calls[id]? = some old ∧ old.operation = call.operation := by
    obtain ⟨rfl, rfl⟩ | ⟨-, hlookup⟩ := getElem?_insert_eq_some_iff.mp hlookup
    · exact ⟨old, hold, hsame⟩
    · exact ⟨call, hlookup, rfl⟩
  have herased {other : ℕ} (hlookup : (c.calls.erase other)[id]? = some call) :
      ∃ old, c.calls[id]? = some old ∧ old.operation = call.operation :=
    ⟨call, (getElem?_erase_eq_some_iff.mp hlookup).2, rfl⟩
  cases h with
  | startTrap | startReply | environment => exact .inl ⟨call, hcall, rfl⟩
  | startSuspend operation state frame h =>
    obtain ⟨rfl, rfl⟩ | ⟨-, hold⟩ := getElem?_insert_eq_some_iff.mp hcall
    · exact .inr ⟨rfl, rfl, h⟩
    · exact .inl ⟨call, hold, rfl⟩
  | serve other operation frame answer hserved => exact .inl (hinserted hserved hcall rfl)
  | resumeSuspend other operation frame answer state frame' hresumed h =>
    exact .inl (hinserted hresumed hcall rfl)
  | resumeTrap | resumeReply => exact .inl (herased hcall)

theorem Step.nextCall_le {c c' : Config σ ω φ ε ρ τ} {a : Action ω ε η} (h : S.Step c a c') :
    c.nextCall ≤ c'.nextCall := by
  cases h with
  | startSuspend => exact Nat.le_succ _
  | startTrap | startReply | serve | resumeTrap | resumeSuspend | resumeReply | environment =>
    exact le_rfl

/-- A suspended call that a step does not act on stays as it is. -/
theorem Step.calls_of_target_ne {c c' : Config σ ω φ ε ρ τ} {a : Action ω ε η} (h : S.Step c a c')
    {id : ℕ} (hfresh : id < c.nextCall) (htarget : a.target ≠ some id) :
    c'.calls[id]? = c.calls[id]? := by
  have hother : ∀ other, a.target = some other → other ≠ id := by
    rintro other hother rfl
    exact htarget hother
  cases h with
  | startTrap | startReply | environment => rfl
  | startSuspend operation state frame =>
    exact (getElem?_insert_ite ..).trans (if_neg (Nat.ne_of_gt hfresh))
  | serve other => exact (getElem?_insert_ite ..).trans (if_neg (hother other rfl))
  | resumeSuspend other => exact (getElem?_insert_ite ..).trans (if_neg (hother other rfl))
  | resumeTrap other => exact (getElem?_erase_ite ..).trans (if_neg (hother other rfl))
  | resumeReply other => exact (getElem?_erase_ite ..).trans (if_neg (hother other rfl))

/-- The operations that were started: those of ended and of suspended calls. -/
def Started (c : Config σ ω φ ε ρ τ) (operation : ω) : Prop :=
  (∃ result, (operation, result) ∈ c.trace) ∨
    ∃ id call, c.calls[(id : ℕ)]? = some call ∧ call.operation = operation

/-- A call that was started stays suspended or ends. -/
theorem Step.started {c c' : Config σ ω φ ε ρ τ} {a : Action ω ε η} (h : S.Step c a c')
    (hfresh : ∀ id call, c.calls[(id : ℕ)]? = some call → id < c.nextCall) {operation : ω}
    (hstarted : Started c operation) : Started c' operation := by
  obtain ⟨result, hmem⟩ | ⟨id, call, hcall, rfl⟩ := hstarted
  · refine .inl ⟨result, ?_⟩
    cases h with
    | startTrap | startReply | resumeTrap | resumeReply => exact List.mem_append_left _ hmem
    | startSuspend | serve | resumeSuspend | environment => exact hmem
  · by_cases htarget : a.target = some id
    · cases h with
      | startTrap | startSuspend | startReply | environment => cases htarget
      | serve other operation frame answer hserved =>
        obtain rfl : other = id := Option.some.inj htarget
        obtain rfl := Option.some.inj (hcall.symm.trans hserved)
        exact .inr ⟨other, _, ExtTreeMap.getElem?_insert_self, rfl⟩
      | resumeSuspend other operation frame answer state frame' hresumed h =>
        obtain rfl : other = id := Option.some.inj htarget
        obtain rfl := Option.some.inj (hcall.symm.trans hresumed)
        exact .inr ⟨other, _, ExtTreeMap.getElem?_insert_self, rfl⟩
      | resumeTrap other operation frame answer reason hresumed h =>
        obtain rfl : other = id := Option.some.inj htarget
        obtain rfl := Option.some.inj (hcall.symm.trans hresumed)
        exact .inl ⟨_, List.mem_append_right _ (List.mem_singleton_self _)⟩
      | resumeReply other operation frame answer state response hresumed h =>
        obtain rfl : other = id := Option.some.inj htarget
        obtain rfl := Option.some.inj (hcall.symm.trans hresumed)
        exact .inl ⟨_, List.mem_append_right _ (List.mem_singleton_self _)⟩
    · exact .inr ⟨id, call, (h.calls_of_target_ne (hfresh id call hcall) htarget).trans hcall, rfl⟩

end Service

/-! ### Guards -/

/-- What the guards of a service are for. -/
structure Discipline (σ ω φ ε κ : Type*) where
  /-- The guards a suspended frame owns. -/
  guards : φ → Finset κ
  /-- The guards the state records as held. -/
  held : σ → Finset κ
  /-- What holds of the state between segments. -/
  Inv : σ → Prop
  /-- Two states agree on what a guard protects. -/
  Agree : κ → σ → σ → Prop
  /-- What relates the state before and after any step. -/
  Progress : σ → σ → Prop
  /-- What a suspended call knows about the state. -/
  Assert : Call ω φ ε → σ → Prop

namespace Discipline

variable [DecidableEq κ] (D : Discipline σ ω φ ε κ) (S : Service σ ω φ ε ρ τ η)

/-- The obligations on what a segment owning some guards leaves behind. -/
structure Leaves (owned : Finset κ) (s s' : σ) : Prop where
  inv : D.Inv s'
  progress : D.Progress s s'
  agree : ∀ k ∈ D.held s \ owned, D.Agree k s s'

/-- The obligations on a segment that ends suspended in `frame`: it takes only guards that nobody
else holds. -/
structure Suspends (owned : Finset κ) (s s' : σ) (call : Call ω φ ε) : Prop
    extends D.Leaves owned s s' where
  held_eq : D.held s' = D.held s \ owned ∪ D.guards call.frame
  disjoint : Disjoint (D.guards call.frame) (D.held s \ owned)
  assert : D.Assert call s'

/-- The obligations on a segment that ends its call: all guards it owned are released. -/
structure Finishes (owned : Finset κ) (s s' : σ) : Prop extends D.Leaves owned s s' where
  held_eq : D.held s' = D.held s \ owned

/-- The obligations on the end of a segment, by how it ends. -/
def Ends (owned : Finset κ) (s : σ) (operation : ω) : Outcome σ φ ρ τ → Prop
  | .trap _ => True
  | .suspend s' frame => D.Suspends owned s s' ⟨operation, frame, none⟩
  | .reply s' _ => D.Finishes owned s s'

/-- The obligations on the segments of a service. -/
structure Lawful : Prop where
  stable : ∀ call s s', D.Inv s → D.Inv s' → D.Progress s s' →
    (∀ k ∈ D.guards call.frame, D.Agree k s s') → D.Assert call s → D.Assert call s'
  start : ∀ operation s, D.Inv s → D.Ends ∅ s operation (S.start operation s)
  serve : ∀ operation frame answer s, D.Inv s → D.guards frame ⊆ D.held s →
    D.Assert ⟨operation, frame, none⟩ s →
      D.Suspends (D.guards frame) s (S.serve frame answer s) ⟨operation, frame, some answer⟩
  resume : ∀ operation frame answer s, D.Inv s → D.guards frame ⊆ D.held s →
    D.Assert ⟨operation, frame, some answer⟩ s →
      D.Ends (D.guards frame) s operation (S.resume frame answer s)
  unwind : ∀ frame s, D.Inv s → D.guards frame ⊆ D.held s →
    D.Finishes (D.guards frame) s (S.unwind frame s)
  environment : ∀ event idle s s', D.Inv s → (idle = true → D.held s = ∅) →
    S.environment event idle s = some s' → D.Finishes ∅ s s'

/-- What the discipline gives in every reachable configuration. -/
structure Sound (c : Config σ ω φ ε ρ τ) : Prop where
  inv : D.Inv c.state
  held_iff : ∀ k, k ∈ D.held c.state ↔
    ∃ (id : ℕ) (call : Call ω φ ε), c.calls[id]? = some call ∧ k ∈ D.guards call.frame
  disjoint : ∀ (i j : ℕ) (a b : Call ω φ ε), i ≠ j → c.calls[i]? = some a → c.calls[j]? = some b →
    Disjoint (D.guards a.frame) (D.guards b.frame)
  assert : ∀ (id : ℕ) (call : Call ω φ ε), c.calls[id]? = some call → D.Assert call c.state
  fresh : ∀ (id : ℕ) (call : Call ω φ ε), c.calls[id]? = some call → id < c.nextCall

variable {D} {S} {c c' : Config σ ω φ ε ρ τ} {a : Action ω ε η}

omit [DecidableEq κ] in
/-- The guards of a suspended call are held. -/
theorem Sound.guards_subset (hc : D.Sound c) {id : ℕ} {call : Call ω φ ε}
    (h : c.calls[id]? = some call) : D.guards call.frame ⊆ D.held c.state :=
  fun k hk ↦ (hc.held_iff k).mpr ⟨id, call, h, hk⟩

omit [DecidableEq κ] in
/-- A guard has one owner. -/
theorem Sound.eq_of_guards (hc : D.Sound c) {i j : ℕ} {a b : Call ω φ ε}
    (hi : c.calls[i]? = some a) (hj : c.calls[j]? = some b) {k : κ} (ha : k ∈ D.guards a.frame)
    (hb : k ∈ D.guards b.frame) : i = j := by
  by_contra hne
  exact Finset.disjoint_left.mp (hc.disjoint i j a b hne hi hj) ha hb

/-- The guards of a suspended call are held and not owned by another one. -/
theorem Sound.guards_subset_sdiff (hc : D.Sound c) {i j : ℕ} {a b : Call ω φ ε} (hne : i ≠ j)
    (hi : c.calls[i]? = some a) (hj : c.calls[j]? = some b) :
    D.guards a.frame ⊆ D.held c.state \ D.guards b.frame := by
  intro k hk
  exact Finset.mem_sdiff.mpr ⟨hc.guards_subset hi hk, fun hk' ↦ hne (hc.eq_of_guards hi hj hk hk')⟩

omit [DecidableEq κ] in
theorem Sound.calls_nextCall (hc : D.Sound c) : c.calls[c.nextCall]? = none := by
  cases h : c.calls[c.nextCall]? with
  | none => rfl
  | some call => exact absurd (hc.fresh _ call h) (lt_irrefl _)

omit [DecidableEq κ] in
/-- When no call is suspended, no guard is held. -/
theorem Sound.held_of_idle (hc : D.Sound c) (hidle : c.calls = ∅) : D.held c.state = ∅ := by
  refine Finset.eq_empty_of_forall_notMem fun k hk ↦ ?_
  obtain ⟨id, call, hcall, -⟩ := (hc.held_iff k).mp hk
  rw [hidle] at hcall
  simp at hcall

omit [DecidableEq κ] in
/-- A guard is held exactly when one suspended call owns it. -/
theorem Sound.held_iff_existsUnique (hc : D.Sound c) (k : κ) :
    k ∈ D.held c.state ↔
      ∃! id : ℕ, ∃ call : Call ω φ ε, c.calls[id]? = some call ∧ k ∈ D.guards call.frame := by
  rw [hc.held_iff]
  constructor
  · rintro ⟨id, call, hcall, hk⟩
    refine ⟨id, ⟨call, hcall, hk⟩, ?_⟩
    rintro other ⟨found, hfound, hk'⟩
    exact hc.eq_of_guards hfound hcall hk' hk
  · rintro ⟨id, ⟨call, hcall, hk⟩, -⟩
    exact ⟨id, call, hcall, hk⟩

/-- Taking guards `new` in exchange for `owned` keeps the account of held guards, when `other`
tells which guards the other calls own. -/
private theorem held_exchange {owned new held held' : Finset κ} {other : κ → Prop}
    (hheld : ∀ k, k ∈ held ↔ k ∈ owned ∨ other k) (hother : ∀ k, other k → k ∉ owned)
    (heq : held' = held \ owned ∪ new) (k : κ) : k ∈ held' ↔ k ∈ new ∨ other k := by
  subst heq
  rw [Finset.mem_union, Finset.mem_sdiff, hheld]
  constructor
  · rintro (⟨hown | hoth, hnot⟩ | hnew)
    · exact absurd hown hnot
    · exact .inr hoth
    · exact .inl hnew
  · rintro (hnew | hoth)
    · exact .inr hnew
    · exact .inl ⟨.inr hoth, hother k hoth⟩

omit [DecidableEq κ] in
/-- The account of held guards, with the call of one identifier set apart. -/
private theorem Sound.held_iff_split (hc : D.Sound c) {id : ℕ} {owned : Finset κ}
    (howned : ∀ k, k ∈ owned ↔
      ∃ call : Call ω φ ε, c.calls[id]? = some call ∧ k ∈ D.guards call.frame) (k : κ) :
    k ∈ D.held c.state ↔ k ∈ owned ∨
      ∃ (j : ℕ) (call : Call ω φ ε), j ≠ id ∧ c.calls[j]? = some call ∧
        k ∈ D.guards call.frame := by
  rw [hc.held_iff, howned]
  constructor
  · rintro ⟨j, call, hj, hk⟩
    by_cases hji : j = id
    · exact .inl ⟨call, hji ▸ hj, hk⟩
    · exact .inr ⟨j, call, hji, hj, hk⟩
  · rintro (⟨call, hcall, hk⟩ | ⟨j, call, -, hj, hk⟩)
    · exact ⟨id, call, hcall, hk⟩
    · exact ⟨j, call, hj, hk⟩

omit [DecidableEq κ] in
/-- The guards recorded for an identifier are owned by no other call. -/
private theorem Sound.other_not_owned (hc : D.Sound c) {id : ℕ} {owned : Finset κ}
    (howned : ∀ k, k ∈ owned ↔
      ∃ call : Call ω φ ε, c.calls[id]? = some call ∧ k ∈ D.guards call.frame) (k : κ)
    (hother : ∃ (j : ℕ) (call : Call ω φ ε), j ≠ id ∧ c.calls[j]? = some call ∧
      k ∈ D.guards call.frame) : k ∉ owned := by
  obtain ⟨j, call, hji, hj, hk⟩ := hother
  intro hown
  obtain ⟨mine, hmine, hkmine⟩ := (howned k).mp hown
  exact hji (hc.eq_of_guards hj hmine hk hkmine)

/-- Another suspended call keeps what it knows across a segment of the call `id`. -/
private theorem Sound.assert_other (hlaw : D.Lawful S) (hc : D.Sound c) {id : ℕ}
    {owned : Finset κ} (howned : ∀ k, k ∈ owned ↔
      ∃ call : Call ω φ ε, c.calls[id]? = some call ∧ k ∈ D.guards call.frame)
    {s' : σ} (hleaves : D.Leaves owned c.state s') {j : ℕ} {call : Call ω φ ε} (hji : j ≠ id)
    (hj : c.calls[j]? = some call) : D.Assert call s' := by
  refine hlaw.stable call c.state s' hc.inv hleaves.inv hleaves.progress (fun k hk ↦ ?_)
    (hc.assert j call hj)
  refine hleaves.agree k (Finset.mem_sdiff.mpr ⟨hc.guards_subset hj hk, ?_⟩)
  exact hc.other_not_owned howned k ⟨j, call, hji, hj, hk⟩

/-- A segment that leaves the call `id` suspended keeps the configuration sound. -/
theorem Sound.insert (hlaw : D.Lawful S) (hc : D.Sound c) {id next : ℕ} {call : Call ω φ ε}
    {owned : Finset κ} (howned : ∀ k, k ∈ owned ↔
      ∃ call : Call ω φ ε, c.calls[id]? = some call ∧ k ∈ D.guards call.frame)
    {s' : σ} (hsusp : D.Suspends owned c.state s' call) (hid : id < next)
    (hnext : c.nextCall ≤ next) {trace : List (ω × Except τ ρ)} :
    D.Sound { state := s', calls := c.calls.insert id call, nextCall := next, trace } := by
  have hcases (j : ℕ) (b : Call ω φ ε) (hj : (c.calls.insert id call)[j]? = some b) :
      (j = id ∧ b = call) ∨ (j ≠ id ∧ c.calls[j]? = some b) := by
    obtain ⟨rfl, rfl⟩ | ⟨hne, hold⟩ := getElem?_insert_eq_some_iff.mp hj
    · exact .inl ⟨rfl, rfl⟩
    · exact .inr ⟨hne.symm, hold⟩
  have hdisj (j : ℕ) (b : Call ω φ ε) (hji : j ≠ id) (hj : c.calls[j]? = some b) :
      Disjoint (D.guards call.frame) (D.guards b.frame) := by
    refine hsusp.disjoint.mono_right fun k hk ↦ ?_
    exact Finset.mem_sdiff.mpr ⟨hc.guards_subset hj hk,
      hc.other_not_owned howned k ⟨j, b, hji, hj, hk⟩⟩
  refine ⟨hsusp.inv, fun k ↦ ?_, ?_, ?_, ?_⟩
  · have hheld := held_exchange (hc.held_iff_split howned) (hc.other_not_owned howned)
      hsusp.held_eq k
    refine hheld.trans ⟨?_, ?_⟩
    · rintro (hnew | ⟨j, b, hji, hj, hk⟩)
      · exact ⟨id, call, by rw [getElem?_insert_ite, if_pos rfl], hnew⟩
      · exact ⟨j, b, by rw [getElem?_insert_ite, if_neg (Ne.symm hji)]; exact hj, hk⟩
    · rintro ⟨j, b, hj, hk⟩
      obtain ⟨-, rfl⟩ | ⟨hji, hj⟩ := hcases j b hj
      · exact .inl hk
      · exact .inr ⟨j, b, hji, hj, hk⟩
  · intro i j x y hij hi hj
    obtain ⟨rfl, rfl⟩ | ⟨hine, hiold⟩ := hcases i x hi
    · obtain ⟨rfl, -⟩ | ⟨hjne, hjold⟩ := hcases j y hj
      · exact absurd rfl hij
      · exact hdisj j y hjne hjold
    · obtain ⟨rfl, rfl⟩ | ⟨hjne, hjold⟩ := hcases j y hj
      · exact (hdisj i x hine hiold).symm
      · exact hc.disjoint i j x y hij hiold hjold
  · intro j b hj
    obtain ⟨-, rfl⟩ | ⟨hji, hj⟩ := hcases j b hj
    · exact hsusp.assert
    · exact hc.assert_other hlaw howned hsusp.toLeaves hji hj
  · intro j b hj
    obtain ⟨rfl, -⟩ | ⟨-, hj⟩ := hcases j b hj
    · exact hid
    · exact Nat.lt_of_lt_of_le (hc.fresh j b hj) hnext

/-- A segment that ends the call `id` keeps the configuration sound. -/
theorem Sound.erase (hlaw : D.Lawful S) (hc : D.Sound c) {id : ℕ} {owned : Finset κ}
    (howned : ∀ k, k ∈ owned ↔
      ∃ call : Call ω φ ε, c.calls[id]? = some call ∧ k ∈ D.guards call.frame)
    {s' : σ} (hfin : D.Finishes owned c.state s') {trace : List (ω × Except τ ρ)} :
    D.Sound { state := s', calls := c.calls.erase id, nextCall := c.nextCall, trace } := by
  have hcases (j : ℕ) (b : Call ω φ ε) (hj : (c.calls.erase id)[j]? = some b) :
      j ≠ id ∧ c.calls[j]? = some b := by
    obtain ⟨hne, hold⟩ := getElem?_erase_eq_some_iff.mp hj
    exact ⟨hne.symm, hold⟩
  refine ⟨hfin.inv, fun k ↦ ?_, ?_, ?_, ?_⟩
  · have heq : D.held s' = D.held c.state \ owned ∪ ∅ := by rw [Finset.union_empty, hfin.held_eq]
    have hheld := held_exchange (hc.held_iff_split howned) (hc.other_not_owned howned) heq k
    refine hheld.trans ⟨?_, ?_⟩
    · rintro (hnew | ⟨j, b, hji, hj, hk⟩)
      · exact absurd hnew (Finset.notMem_empty k)
      · exact ⟨j, b, by rw [getElem?_erase_ite, if_neg (Ne.symm hji)]; exact hj, hk⟩
    · rintro ⟨j, b, hj, hk⟩
      obtain ⟨hji, hj⟩ := hcases j b hj
      exact .inr ⟨j, b, hji, hj, hk⟩
  · intro i j x y hij hi hj
    exact hc.disjoint i j x y hij (hcases i x hi).2 (hcases j y hj).2
  · intro j b hj
    obtain ⟨hji, hj⟩ := hcases j b hj
    exact hc.assert_other hlaw howned hfin.toLeaves hji hj
  · intro j b hj
    exact hc.fresh j b (hcases j b hj).2

/-- A step that suspends, resumes and ends no call keeps the configuration sound. -/
theorem Sound.keep (hlaw : D.Lawful S) (hc : D.Sound c) {s' : σ}
    (hfin : D.Finishes ∅ c.state s') {trace : List (ω × Except τ ρ)} :
    D.Sound { state := s', calls := c.calls, nextCall := c.nextCall, trace } := by
  have hnone := hc.calls_nextCall
  have hsound : D.Sound
      { state := s', calls := c.calls.erase c.nextCall, nextCall := c.nextCall, trace } :=
    hc.erase hlaw (by simp [hnone]) hfin
  rwa [erase_eq_self hnone] at hsound

omit [DecidableEq κ] in
/-- The guards of a suspended call, as the guards recorded for its identifier. -/
theorem mem_guards_iff {id : ℕ} {call : Call ω φ ε} (h : c.calls[id]? = some call) (k : κ) :
    k ∈ D.guards call.frame ↔
      ∃ call : Call ω φ ε, c.calls[id]? = some call ∧ k ∈ D.guards call.frame := by
  constructor
  · exact fun hk ↦ ⟨call, h, hk⟩
  · rintro ⟨other, hother, hk⟩
    obtain rfl := Option.some.inj (h.symm.trans hother)
    exact hk

/-- One step keeps a configuration sound. -/
theorem Sound.step (hlaw : D.Lawful S) (hc : D.Sound c) (h : S.Step c a c') : D.Sound c' := by
  have hends {outcome : Outcome σ φ ρ τ} (operation : ω) (h : S.start operation c.state = outcome) :
      D.Ends ∅ c.state operation outcome := h ▸ hlaw.start operation c.state hc.inv
  have hresumes {outcome : Outcome σ φ ρ τ} {id : ℕ} (operation : ω) (frame : φ) (answer : ε)
      (hcall : c.calls[id]? = some ⟨operation, frame, some answer⟩)
      (h : S.resume frame answer c.state = outcome) :
      D.Ends (D.guards frame) c.state operation outcome :=
    h ▸ hlaw.resume operation frame answer c.state hc.inv (hc.guards_subset hcall)
      (hc.assert id _ hcall)
  cases h with
  | startTrap => exact ⟨hc.inv, hc.held_iff, hc.disjoint, hc.assert, hc.fresh⟩
  | startSuspend operation state frame h =>
    have hnone := hc.calls_nextCall
    exact hc.insert hlaw (by simp [hnone]) (hends operation h) (Nat.lt_succ_self _) (Nat.le_succ _)
  | startReply operation state response h => exact hc.keep hlaw (hends operation h)
  | serve id operation frame answer hcall =>
    exact hc.insert hlaw (mem_guards_iff hcall)
      (hlaw.serve operation frame answer c.state hc.inv (hc.guards_subset hcall)
        (hc.assert id _ hcall)) (hc.fresh id _ hcall) le_rfl
  | resumeTrap id operation frame answer reason hcall =>
    exact hc.erase hlaw (mem_guards_iff hcall)
      (hlaw.unwind frame c.state hc.inv (hc.guards_subset hcall))
  | resumeSuspend id operation frame answer state frame' hcall h =>
    exact hc.insert hlaw (mem_guards_iff hcall) (hresumes operation frame answer hcall h)
      (hc.fresh id _ hcall) le_rfl
  | resumeReply id operation frame answer state response hcall h =>
    exact hc.erase hlaw (mem_guards_iff hcall) (hresumes operation frame answer hcall h)
  | environment event state h =>
    exact hc.keep hlaw (hlaw.environment event _ c.state state hc.inv
      (fun hidle ↦ hc.held_of_idle (ExtTreeMap.isEmpty_iff.mp hidle)) h)

/-- Every reachable configuration is sound. -/
theorem sound_of_reachable (hlaw : D.Lawful S) {initial : σ → Prop}
    (hinv : ∀ s, initial s → D.Inv s) (hheld : ∀ s, initial s → D.held s = ∅)
    {allowed : Config σ ω φ ε ρ τ → Action ω ε η → Prop}
    (h : (S.system initial).ReachableWithin allowed c) : D.Sound c := by
  refine System.ReachableWithin.induct ?_ ?_ h
  · rintro start ⟨hinit, hcalls, -, -⟩
    refine ⟨hinv _ hinit, ?_, ?_, ?_, ?_⟩ <;> simp [hcalls, hheld _ hinit]
  · intro u v a _ hu _ hnext
    exact hu.step hlaw (Service.step_of_next hnext)

/-- What a step leaves behind for a suspended call it does not act on. -/
theorem Sound.leaves_of_step (hlaw : D.Lawful S) (hc : D.Sound c) (h : S.Step c a c') {id : ℕ}
    {call : Call ω φ ε} (hcall : c.calls[id]? = some call) (htarget : a.target ≠ some id)
    (hrefl : ∀ s, D.Inv s → D.Progress s s ∧ ∀ k, D.Agree k s s) :
    D.Progress c.state c'.state ∧ ∀ k ∈ D.guards call.frame, D.Agree k c.state c'.state := by
  have hsub := hc.guards_subset hcall
  have hother (j : ℕ) (mine : Call ω φ ε) (hj : c.calls[j]? = some mine)
      (hne : id ≠ j) {s' : σ} (hleaves : D.Leaves (D.guards mine.frame) c.state s') :
      D.Progress c.state s' ∧ ∀ k ∈ D.guards call.frame, D.Agree k c.state s' :=
    ⟨hleaves.progress, fun k hk ↦ hleaves.agree k (hc.guards_subset_sdiff hne hcall hj hk)⟩
  have hnobody {s' : σ} (hleaves : D.Leaves ∅ c.state s') :
      D.Progress c.state s' ∧ ∀ k ∈ D.guards call.frame, D.Agree k c.state s' :=
    ⟨hleaves.progress, fun k hk ↦ hleaves.agree k (by simpa using hsub hk)⟩
  have hne {j : ℕ} (ha : a.target = some j) : id ≠ j := by
    rintro rfl
    exact htarget ha
  have hends {outcome : Outcome σ φ ρ τ} (operation : ω) (h : S.start operation c.state = outcome) :
      D.Ends ∅ c.state operation outcome := h ▸ hlaw.start operation c.state hc.inv
  have hresumes {outcome : Outcome σ φ ρ τ} {j : ℕ} (operation : ω) (frame : φ) (answer : ε)
      (hj : c.calls[j]? = some ⟨operation, frame, some answer⟩)
      (h : S.resume frame answer c.state = outcome) :
      D.Ends (D.guards frame) c.state operation outcome :=
    h ▸ hlaw.resume operation frame answer c.state hc.inv (hc.guards_subset hj)
      (hc.assert j _ hj)
  cases h with
  | startTrap =>
    exact ⟨(hrefl _ hc.inv).1, fun k _ ↦ (hrefl _ hc.inv).2 k⟩
  | startSuspend operation state frame h => exact hnobody (hends operation h).toLeaves
  | startReply operation state response h => exact hnobody (hends operation h).toLeaves
  | serve j operation frame answer hj =>
    exact hother j _ hj (hne rfl) (hlaw.serve operation frame answer c.state hc.inv
      (hc.guards_subset hj) (hc.assert j _ hj)).toLeaves
  | resumeTrap j operation frame answer reason hj =>
    exact hother j _ hj (hne rfl)
      (hlaw.unwind frame c.state hc.inv (hc.guards_subset hj)).toLeaves
  | resumeSuspend j operation frame answer state frame' hj h =>
    exact hother j _ hj (hne rfl) (hresumes operation frame answer hj h).toLeaves
  | resumeReply j operation frame answer state response hj h =>
    exact hother j _ hj (hne rfl) (hresumes operation frame answer hj h).toLeaves
  | environment event state h =>
    exact hnobody (hlaw.environment event _ c.state state hc.inv
      (fun hidle ↦ hc.held_of_idle (ExtTreeMap.isEmpty_iff.mp hidle)) h).toLeaves

/-- A step keeps every suspended call it does not act on, with the guards it owns. -/
theorem Sound.kept_of_step (hlaw : D.Lawful S) (hc : D.Sound c) (h : S.Step c a c') {id : ℕ}
    {call : Call ω φ ε} (hcall : c.calls[id]? = some call) (htarget : a.target ≠ some id) :
    c'.calls[id]? = some call ∧ D.guards call.frame ⊆ D.held c'.state := by
  have hkept : c'.calls[id]? = some call :=
    (h.calls_of_target_ne (hc.fresh id call hcall) htarget).trans hcall
  exact ⟨hkept, (hc.step hlaw h).guards_subset hkept⟩

end Discipline

end Foundation.GuardedCalls
