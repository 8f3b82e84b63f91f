import SubnetRental.Foundation.GuardedCalls

/-!
# Calls that take in a bounded number of answers

A `Ranking` of a service gives every suspended position a rank that a segment lowers when it
suspends again. The rank bounds what can still happen to a suspended call, whatever else runs in
between: the answers it is given (`answersAt_perform`) and the steps that act on it
(`stepsAt_perform`). The potential `pending` adds these bounds up over all suspended calls. A run
that only answers requests and delivers answers is no longer than the potential of its first
configuration (`length_le_pending`), can be extended as long as a call is suspended
(`idle_of_stuck`), and so leads to an idle configuration however the answers are chosen
(`exists_drained`).
-/

set_option autoImplicit false
set_option relaxedAutoImplicit false

namespace Foundation.GuardedCalls

open Std TransitionSystem TreeMapTotals

variable {σ ω φ ε ρ τ η : Type*}

/-- The label answers a request or delivers an answer. -/
def Action.Delivers (a : Action ω ε η) : Prop := ∃ id, a.target = some id

/-- The label answers the request of one call. -/
def Action.Serves (id : ℕ) : Action ω ε η → Prop
  | .serve other _ => other = id
  | _ => False

instance (id : ℕ) (a : Action ω ε η) : Decidable (a.Serves id) := by
  cases a <;> unfold Action.Serves <;> infer_instance

/-- The label acts on one call. -/
def Action.ActsOn (id : ℕ) (a : Action ω ε η) : Prop := a.target = some id

instance (id : ℕ) (a : Action ω ε η) : Decidable (a.ActsOn id) :=
  inferInstanceAs (Decidable (_ = _))

theorem Action.Serves.actsOn {id : ℕ} {a : Action ω ε η} (h : a.Serves id) : a.ActsOn id := by
  cases a with
  | serve other answer => exact congrArg some h
  | start | resume | environment => exact h.elim

/-- The answers that a list of labels gives to one call. -/
def answersGiven (id : ℕ) (labels : List (Action ω ε η)) : ℕ :=
  labels.countP fun a ↦ a.Serves id

/-- The labels of a list that act on one call. -/
def stepsTaken (id : ℕ) (labels : List (Action ω ε η)) : ℕ :=
  labels.countP fun a ↦ a.ActsOn id

theorem answersGiven_cons (id : ℕ) (a : Action ω ε η) (labels : List (Action ω ε η)) :
    answersGiven id (a :: labels) = answersGiven id labels + if a.Serves id then 1 else 0 := by
  unfold answersGiven
  rw [List.countP_cons]
  simp only [decide_eq_true_eq]

theorem stepsTaken_cons (id : ℕ) (a : Action ω ε η) (labels : List (Action ω ε η)) :
    stepsTaken id (a :: labels) = stepsTaken id labels + if a.ActsOn id then 1 else 0 := by
  unfold stepsTaken
  rw [List.countP_cons]
  simp only [decide_eq_true_eq]

/-- A rank of the suspended positions that every segment lowers when it suspends again. -/
structure Ranking (S : Service σ ω φ ε ρ τ η) where
  rank : φ → ℕ
  rank_lt : ∀ frame answer s s' frame', S.resume frame answer s = .suspend s' frame' →
    rank frame' < rank frame

namespace Ranking

variable {S : Service σ ω φ ε ρ τ η} (R : Ranking S)

/-- The answers a suspended call can still be given. -/
def answersLeft (call : Call ω φ ε) : ℕ :=
  R.rank call.frame + if call.answer.isNone then 1 else 0

/-- The steps that can still act on a suspended call. -/
def stepsLeft (call : Call ω φ ε) : ℕ :=
  2 * R.rank call.frame + 1 + if call.answer.isNone then 1 else 0

@[simp] theorem answersLeft_none (operation : ω) (frame : φ) :
    R.answersLeft (⟨operation, frame, none⟩ : Call ω φ ε) = R.rank frame + 1 := rfl

@[simp] theorem answersLeft_some (operation : ω) (frame : φ) (answer : ε) :
    R.answersLeft ⟨operation, frame, some answer⟩ = R.rank frame := rfl

@[simp] theorem stepsLeft_none (operation : ω) (frame : φ) :
    R.stepsLeft (⟨operation, frame, none⟩ : Call ω φ ε) = 2 * R.rank frame + 2 := rfl

@[simp] theorem stepsLeft_some (operation : ω) (frame : φ) (answer : ε) :
    R.stepsLeft ⟨operation, frame, some answer⟩ = 2 * R.rank frame + 1 := rfl

/-- The answers that can still be given under an identifier. -/
def answersAt (c : Config σ ω φ ε ρ τ) (id : ℕ) : ℕ :=
  (c.calls[id]?).elim 0 R.answersLeft

/-- The steps that can still act on the call of an identifier. -/
def stepsAt (c : Config σ ω φ ε ρ τ) (id : ℕ) : ℕ :=
  (c.calls[id]?).elim 0 R.stepsLeft

/-- The steps that can still act on the suspended calls. -/
def pending (c : Config σ ω φ ε ρ τ) : ℕ :=
  total (fun _ call ↦ R.stepsLeft call) c.calls

variable {R} {c c' : Config σ ω φ ε ρ τ} {a : Action ω ε η} {id : ℕ}

theorem answersAt_of_some {call : Call ω φ ε} (h : c.calls[id]? = some call) :
    R.answersAt c id = R.answersLeft call := by
  rw [answersAt, h, Option.elim_some]

theorem stepsAt_of_some {call : Call ω φ ε} (h : c.calls[id]? = some call) :
    R.stepsAt c id = R.stepsLeft call := by
  rw [stepsAt, h, Option.elim_some]

/-- What a step does to the suspended call it acts on. -/
inductive Acted (R : Ranking S) (c c' : Config σ ω φ ε ρ τ) (id : ℕ) (served : Prop) : Prop
  | ended (call : Call ω φ ε) (hcall : c.calls[id]? = some call) (hserved : ¬ served)
      (hcalls : c'.calls = c.calls.erase id)
  | kept (call call' : Call ω φ ε) (hcall : c.calls[id]? = some call)
      (hcalls : c'.calls = c.calls.insert id call')
      (hserved : served → R.answersLeft call' + 1 ≤ R.answersLeft call)
      (hanswers : R.answersLeft call' ≤ R.answersLeft call)
      (hsteps : R.stepsLeft call' + 1 ≤ R.stepsLeft call)

/-- A step that acts on a suspended call ends it or uses up some of its rank. -/
theorem acted_of_step (R : Ranking S) (h : S.Step c a c') (ha : a.ActsOn id) :
    R.Acted c c' id (a.Serves id) := by
  cases h with
  | startTrap | startSuspend | startReply | environment => cases ha
  | serve other operation frame answer hcall =>
    obtain rfl := Option.some.inj ha
    refine .kept _ _ hcall rfl (fun _ ↦ ?_) ?_ ?_ <;> simp
  | resumeTrap other operation frame answer reason hcall =>
    obtain rfl := Option.some.inj ha
    exact .ended _ hcall id rfl
  | resumeReply other operation frame answer state response hcall =>
    obtain rfl := Option.some.inj ha
    exact .ended _ hcall id rfl
  | resumeSuspend other operation frame answer state frame' hcall hresume =>
    obtain rfl := Option.some.inj ha
    have hrank := R.rank_lt _ _ _ _ _ hresume
    refine .kept _ _ hcall rfl False.elim ?_ ?_
    · rw [answersLeft_none, answersLeft_some]
      exact hrank
    · rw [stepsLeft_none, stepsLeft_some]
      omega

/-! ### One call among others -/

/-- A step lowers the answers a call can still be given by the one it gives. -/
theorem answersAt_step (R : Ranking S) (h : S.Step c a c') (hid : id < c.nextCall) :
    R.answersAt c' id + (if a.Serves id then 1 else 0) ≤ R.answersAt c id := by
  by_cases ha : a.ActsOn id
  · cases R.acted_of_step h ha with
    | ended call hcall hserved hcalls =>
      have hnone : c'.calls[id]? = none := by rw [hcalls, getElem?_erase_ite, if_pos rfl]
      rw [if_neg hserved, answersAt, hnone]
      exact Nat.zero_le _
    | kept call call' hcall hcalls hserved hanswers =>
      have hsome : c'.calls[id]? = some call' := by
        rw [hcalls, getElem?_insert_ite, if_pos rfl]
      rw [answersAt_of_some hcall, answersAt_of_some hsome]
      split_ifs with hserves
      · exact hserved hserves
      · exact hanswers
  · rw [if_neg fun hserves ↦ ha hserves.actsOn, answersAt, answersAt,
      h.calls_of_target_ne hid ha]
    exact le_rfl

/-- A step that acts on a call lowers the steps that can still act on it. -/
theorem stepsAt_step (R : Ranking S) (h : S.Step c a c') (hid : id < c.nextCall) :
    R.stepsAt c' id + (if a.ActsOn id then 1 else 0) ≤ R.stepsAt c id := by
  split_ifs with ha
  · cases R.acted_of_step h ha with
    | ended call hcall hserved hcalls =>
      have hnone : c'.calls[id]? = none := by rw [hcalls, getElem?_erase_ite, if_pos rfl]
      rw [stepsAt_of_some hcall, stepsAt, hnone, Option.elim_none, stepsLeft]
      omega
    | kept call call' hcall hcalls hserved hanswers hsteps =>
      have hsome : c'.calls[id]? = some call' := by
        rw [hcalls, getElem?_insert_ite, if_pos rfl]
      rw [stepsAt_of_some hcall, stepsAt_of_some hsome]
      exact hsteps
  · rw [stepsAt, stepsAt, h.calls_of_target_ne hid ha]
    exact le_rfl

variable {initial : σ → Prop} {labels : List (Action ω ε η)}

/-- Whatever else runs, a suspended call is given no more answers than it can take in. -/
theorem answersAt_perform (R : Ranking S) (h : (S.system initial).perform c labels = some c')
    (hid : id < c.nextCall) :
    R.answersAt c' id + answersGiven id labels ≤ R.answersAt c id := by
  induction labels generalizing c with
  | nil =>
    obtain rfl : c = c' := Option.some.inj h
    exact le_rfl
  | cons a rest ih =>
    obtain ⟨d, hnext, hrest⟩ := System.perform_cons_eq_some.mp h
    have hstep := Service.step_of_next hnext
    have hfirst := R.answersAt_step hstep hid
    have hlater := ih hrest (Nat.lt_of_lt_of_le hid hstep.nextCall_le)
    rw [answersGiven_cons]
    omega

/-- Whatever else runs, no more steps act on a suspended call than its rank allows. -/
theorem stepsAt_perform (R : Ranking S) (h : (S.system initial).perform c labels = some c')
    (hid : id < c.nextCall) :
    R.stepsAt c' id + stepsTaken id labels ≤ R.stepsAt c id := by
  induction labels generalizing c with
  | nil =>
    obtain rfl : c = c' := Option.some.inj h
    exact le_rfl
  | cons a rest ih =>
    obtain ⟨d, hnext, hrest⟩ := System.perform_cons_eq_some.mp h
    have hstep := Service.step_of_next hnext
    have hfirst := R.stepsAt_step hstep hid
    have hlater := ih hrest (Nat.lt_of_lt_of_le hid hstep.nextCall_le)
    rw [stepsTaken_cons]
    omega

/-! ### All calls together -/

/-- Answering a request or delivering an answer uses up potential. -/
theorem pending_lt_of_step (R : Ranking S) (h : S.Step c a c') (ha : a.Delivers) :
    R.pending c' < R.pending c := by
  obtain ⟨id, ha⟩ := ha
  unfold pending
  cases R.acted_of_step h ha with
  | ended call hcall hserved hcalls =>
    have herase := total_erase_add (fun _ call ↦ R.stepsLeft call) hcall
    have hpositive : 0 < R.stepsLeft call := by
      rw [stepsLeft]
      omega
    rw [hcalls]
    omega
  | kept call call' hcall hcalls hserved hanswers hsteps =>
    have hinsert := total_insert_of_some (fun _ call ↦ R.stepsLeft call) call' hcall
    rw [hcalls]
    omega

/-- A run that only answers requests and delivers answers is bounded by the potential. -/
theorem length_le_pending (R : Ranking S) (h : (S.system initial).perform c labels = some c')
    (hdelivers : ∀ a ∈ labels, a.Delivers) : labels.length + R.pending c' ≤ R.pending c := by
  induction labels generalizing c with
  | nil =>
    obtain rfl : c = c' := Option.some.inj h
    exact (Nat.zero_add _).le
  | cons a rest ih =>
    obtain ⟨d, hnext, hrest⟩ := System.perform_cons_eq_some.mp h
    have hfirst := R.pending_lt_of_step (Service.step_of_next hnext)
      (hdelivers a List.mem_cons_self)
    have hlater := ih hrest fun b hb ↦ hdelivers b (List.mem_cons_of_mem _ hb)
    rw [List.length_cons]
    omega

end Ranking

/-! ### Progress -/

namespace Service

variable (S : Service σ ω φ ε ρ τ η)

/-- A suspended call can be given any answer, and a given answer can be delivered. -/
theorem next_isSome_of_call (c : Config σ ω φ ε ρ τ) {id : ℕ} {call : Call ω φ ε}
    (hcall : c.calls[id]? = some call) :
    (S.next c (.resume id)).isSome ∨ ∀ answer, (S.next c (.serve id answer)).isSome := by
  obtain ⟨operation, frame, answer⟩ := call
  cases answer with
  | none =>
    refine .inr fun answer ↦ ?_
    rw [next, hcall]
    rfl
  | some answer =>
    refine .inl ?_
    rw [next, hcall]
    dsimp only
    cases S.resume frame answer c.state <;> rfl

variable {S}

/-- A configuration is idle when no answer can be delivered and every suspended call has an answer
that it cannot be given. -/
theorem idle_of_stuck {c : Config σ ω φ ε ρ τ} (hresume : ∀ id, S.next c (.resume id) = none)
    (hserve : ∀ id, ∃ answer, S.next c (.serve id answer) = none) : c.calls = ∅ := by
  refine eq_empty_of_forall_ne fun id call hcall ↦ ?_
  obtain hsome | hany := S.next_isSome_of_call c hcall
  · rw [hresume id] at hsome
    cases hsome
  · obtain ⟨answer, hnone⟩ := hserve id
    have hsome := hany answer
    rw [hnone] at hsome
    cases hsome

/-- The label delivers an answer, or gives the one that `answers` has for the position and the
state. -/
def Follows (answers : φ → σ → ε) (c : Config σ ω φ ε ρ τ) : Action ω ε η → Prop
  | .serve id answer => ∃ call, c.calls[id]? = some call ∧ answer = answers call.frame c.state
  | .resume _ => True
  | _ => False

theorem Follows.delivers {answers : φ → σ → ε} {c : Config σ ω φ ε ρ τ} {a : Action ω ε η}
    (h : Follows answers c a) : a.Delivers := by
  cases a with
  | serve id answer => exact ⟨id, rfl⟩
  | resume id => exact ⟨id, rfl⟩
  | start | environment => exact h.elim

/-- While a call is suspended, a step can be taken whatever the answers are to be. -/
theorem exists_next_of_call (answers : φ → σ → ε) {c : Config σ ω φ ε ρ τ} {id : ℕ}
    {call : Call ω φ ε} (hcall : c.calls[id]? = some call) :
    ∃ a c', Follows answers c a ∧ S.next c a = some c' := by
  obtain hsome | hany := S.next_isSome_of_call c hcall
  · exact ⟨.resume id, _, trivial, (Option.some_get hsome).symm⟩
  · exact ⟨.serve id _, _, ⟨call, hcall, rfl⟩, (Option.some_get (hany _)).symm⟩

/-- However the answers are chosen, giving and delivering them leads to an idle configuration. -/
theorem exists_drained (R : Ranking S) (initial : σ → Prop) (answers : φ → σ → ε)
    (c : Config σ ω φ ε ρ τ) :
    ∃ c', (S.system initial).RunWithin (Follows answers) c c' ∧ c'.calls = ∅ := by
  -- induction on the potential
  induction hpending : R.pending c using Nat.strong_induction_on generalizing c with
  | h potential ih =>
    by_cases hidle : c.calls = ∅
    · exact ⟨c, .refl c, hidle⟩
    · obtain ⟨id, call, hcall⟩ : ∃ (id : ℕ) (call : Call ω φ ε), c.calls[id]? = some call := by
        by_contra hnone
        exact hidle (eq_empty_of_forall_ne fun id call hcall ↦ hnone ⟨id, call, hcall⟩)
      obtain ⟨a, d, ha, hnext⟩ := S.exists_next_of_call answers hcall
      have hlt := R.pending_lt_of_step (Service.step_of_next hnext) ha.delivers
      obtain ⟨c', hrun, hend⟩ := ih _ (hpending ▸ hlt) d rfl
      exact ⟨c', (System.RunWithin.tail (.refl c) ha hnext).trans hrun, hend⟩

end Service

end Foundation.GuardedCalls
