import Mathlib.Logic.Relation
import Mathlib.Data.Option.Basic

/-!
# Runs of labelled transition systems

A system has initial states and a partial step function, read as: in state `s` the label `a` is
enabled when `next s a` is defined, and then leads to that state. `StepWithin allowed` is one step
whose label is allowed in the state it is taken from, `RunWithin allowed` a finite sequence of
such steps and `ReachableWithin allowed` a run from an initial state. The unrestricted versions
are `Run` and `Reachable`.

`ReachableWithin.induct` is the invariant rule, with reachability of the state before the step at
hand. `Once P s` says that a run to `s` passes a state with `P`. `run_of_refines` transports runs
along a refinement map under which every concrete step is a run of the abstract system, possibly of
no step at all. `perform` executes a list of labels and `performWithin` a list of allowed ones;
`run_of_perform` and `runWithin_of_performWithin` turn an executed list into a run.
-/

set_option autoImplicit false
set_option relaxedAutoImplicit false

namespace Foundation.TransitionSystem

/-- A labelled transition system whose step is a partial function of state and label. -/
structure System (σ α : Type*) where
  /-- The initial states. -/
  init : σ → Prop
  /-- The state a label leads to, where it is enabled. -/
  next : σ → α → Option σ

namespace System

variable {σ α β γ : Type*} (S : System σ α)

/-- One step whose label is allowed in the state before it. -/
def StepWithin (allowed : σ → α → Prop) (s t : σ) : Prop :=
  ∃ a, allowed s a ∧ S.next s a = some t

/-- A finite run of allowed steps. -/
def RunWithin (allowed : σ → α → Prop) : σ → σ → Prop :=
  Relation.ReflTransGen (S.StepWithin allowed)

/-- The end of a run of allowed steps from an initial state. -/
def ReachableWithin (allowed : σ → α → Prop) (t : σ) : Prop :=
  ∃ s, S.init s ∧ S.RunWithin allowed s t

/-- A finite run without restriction. -/
def Run : σ → σ → Prop :=
  S.RunWithin fun _ _ ↦ True

/-- The end of a run from an initial state. -/
def Reachable : σ → Prop :=
  S.ReachableWithin fun _ _ ↦ True

variable {S} {allowed : σ → α → Prop}

theorem RunWithin.refl (s : σ) : S.RunWithin allowed s s :=
  Relation.ReflTransGen.refl

theorem RunWithin.trans {s t u : σ} (hst : S.RunWithin allowed s t)
    (htu : S.RunWithin allowed t u) : S.RunWithin allowed s u :=
  Relation.ReflTransGen.trans hst htu

theorem RunWithin.tail {s t u : σ} {a : α} (h : S.RunWithin allowed s t) (ha : allowed t a)
    (hnext : S.next t a = some u) : S.RunWithin allowed s u :=
  Relation.ReflTransGen.tail h ⟨a, ha, hnext⟩

/-- Allowing more labels allows more runs. -/
theorem RunWithin.mono {more : σ → α → Prop} (hmore : ∀ s a, allowed s a → more s a) {s t : σ}
    (h : S.RunWithin allowed s t) : S.RunWithin more s t :=
  Relation.ReflTransGen.mono (fun _ _ ⟨a, ha, hnext⟩ ↦ ⟨a, hmore _ a ha, hnext⟩) _ _ h

theorem RunWithin.run {s t : σ} (h : S.RunWithin allowed s t) : S.Run s t :=
  h.mono fun _ _ _ ↦ trivial

theorem Run.tail {s t u : σ} {a : α} (h : S.Run s t) (hnext : S.next t a = some u) : S.Run s u :=
  RunWithin.tail h trivial hnext

theorem ReachableWithin.init {s : σ} (h : S.init s) : S.ReachableWithin allowed s :=
  ⟨s, h, RunWithin.refl s⟩

theorem ReachableWithin.tail {s t : σ} {a : α} (h : S.ReachableWithin allowed s)
    (ha : allowed s a) (hnext : S.next s a = some t) : S.ReachableWithin allowed t := by
  obtain ⟨start, hstart, hrun⟩ := h
  exact ⟨start, hstart, hrun.tail ha hnext⟩

theorem ReachableWithin.append {s t : σ} (h : S.ReachableWithin allowed s)
    (hrun : S.RunWithin allowed s t) : S.ReachableWithin allowed t := by
  obtain ⟨start, hstart, hto⟩ := h
  exact ⟨start, hstart, hto.trans hrun⟩

theorem ReachableWithin.mono {more : σ → α → Prop} (hmore : ∀ s a, allowed s a → more s a) {s : σ}
    (h : S.ReachableWithin allowed s) : S.ReachableWithin more s := by
  obtain ⟨start, hstart, hrun⟩ := h
  exact ⟨start, hstart, hrun.mono hmore⟩

theorem ReachableWithin.reachable {s : σ} (h : S.ReachableWithin allowed s) : S.Reachable s :=
  h.mono fun _ _ _ ↦ trivial

theorem Reachable.tail {s t : σ} {a : α} (h : S.Reachable s) (hnext : S.next s a = some t) :
    S.Reachable t :=
  ReachableWithin.tail h trivial hnext

/-- The invariant rule along one run: what holds at its start and is kept by each of its steps
holds at its end. -/
theorem RunWithin.induct {J : σ → Prop} {s t : σ} (h : S.RunWithin allowed s t) (hstart : J s)
    (hstep : ∀ u v a, S.RunWithin allowed s u → J u → allowed u a → S.next u a = some v → J v) :
    J t := by
  induction h with
  | refl => exact hstart
  | tail hrun hlast ih =>
    obtain ⟨a, ha, hnext⟩ := hlast
    exact hstep _ _ a hrun ih ha hnext

/-- The invariant rule: a property of the initial states that every allowed step from a reachable
state keeps holds in every reachable state. -/
theorem ReachableWithin.induct {J : σ → Prop} (hinit : ∀ s, S.init s → J s)
    (hstep : ∀ s t a, S.ReachableWithin allowed s → J s → allowed s a → S.next s a = some t → J t)
    {s : σ} (h : S.ReachableWithin allowed s) : J s := by
  obtain ⟨start, hstart, hrun⟩ := h
  refine hrun.induct (hinit start hstart) fun u v a hu hJ ha hnext ↦ ?_
  exact hstep u v a ⟨start, hstart, hu⟩ hJ ha hnext

/-! ### Earlier states -/

/-- A run from an initial state to `s` passes a state in which `P` holds. -/
def Once (S : System σ α) (P : σ → Prop) (s : σ) : Prop :=
  ∃ t, S.Reachable t ∧ S.Run t s ∧ P t

theorem Once.now {P : σ → Prop} {s : σ} (h : S.Reachable s) (hP : P s) : S.Once P s :=
  ⟨s, h, RunWithin.refl s, hP⟩

theorem Once.next {P : σ → Prop} {s t : σ} {a : α} (h : S.Once P s) (hnext : S.next s a = some t) :
    S.Once P t := by
  obtain ⟨u, hu, hrun, hP⟩ := h
  exact ⟨u, hu, hrun.tail hnext, hP⟩

/-! ### Executed label lists -/

section Execution

variable (S) in
/-- The state a list of labels leads to, when each of them is allowed and enabled in turn. -/
def performWithin (allowed : σ → α → Prop) [∀ s a, Decidable (allowed s a)] :
    σ → List α → Option σ
  | s, [] => some s
  | s, a :: rest =>
    if allowed s a then (S.next s a).bind fun t ↦ performWithin allowed t rest else none

variable (S) in
/-- The state a list of labels leads to, when each of them is enabled in turn. -/
def perform : σ → List α → Option σ :=
  S.performWithin fun _ _ ↦ True

variable [∀ s a, Decidable (allowed s a)] {labels : List α} {s t : σ}

/-- An executed list of labels is a run. -/
theorem runWithin_of_performWithin (h : S.performWithin allowed s labels = some t) :
    S.RunWithin allowed s t := by
  induction labels generalizing s with
  | nil =>
    obtain rfl : s = t := Option.some.inj h
    exact RunWithin.refl s
  | cons a rest ih =>
    unfold performWithin at h
    split at h
    · rename_i ha
      obtain ⟨u, hu, hrest⟩ := Option.bind_eq_some_iff.mp h
      exact (RunWithin.tail (RunWithin.refl s) ha hu).trans (ih hrest)
    · cases h

omit [∀ s a, Decidable (allowed s a)] in
theorem run_of_perform (h : S.perform s labels = some t) : S.Run s t :=
  runWithin_of_performWithin h

omit [∀ s a, Decidable (allowed s a)] in
theorem perform_cons_eq_some {a : α} :
    S.perform s (a :: labels) = some t ↔
      ∃ u, S.next s a = some u ∧ S.perform u labels = some t := by
  unfold perform
  rw [performWithin, if_pos trivial, Option.bind_eq_some_iff]

/-- The state reached by an executed list of labels from an initial state. -/
theorem reachableWithin_get_performWithin (hinit : S.init s)
    (h : (S.performWithin allowed s labels).isSome) :
    S.ReachableWithin allowed ((S.performWithin allowed s labels).get h) :=
  ⟨s, hinit, runWithin_of_performWithin (Option.some_get h).symm⟩

omit [∀ s a, Decidable (allowed s a)] in
theorem reachable_get_perform (hinit : S.init s) (h : (S.perform s labels).isSome) :
    S.Reachable ((S.perform s labels).get h) :=
  reachableWithin_get_performWithin hinit h

omit [∀ s a, Decidable (allowed s a)] in
/-- Executing one list of labels after another. -/
theorem perform_append {u : σ} {more : List α} (h : S.perform s labels = some t)
    (hmore : S.perform t more = some u) : S.perform s (labels ++ more) = some u := by
  induction labels generalizing s with
  | nil =>
    obtain rfl : s = t := Option.some.inj h
    exact hmore
  | cons a rest ih =>
    obtain ⟨v, hnext, hrest⟩ := perform_cons_eq_some.mp h
    exact perform_cons_eq_some.mpr ⟨v, hnext, ih hrest⟩

end Execution

/-! ### Refinement -/

variable {A : System β γ} (abstraction : σ → β)

/-- A refinement map sends runs to runs, when every allowed concrete step maps to a run of the
abstract system. -/
theorem run_of_refines
    (hstep : ∀ s t a, allowed s a → S.next s a = some t → A.Run (abstraction s) (abstraction t))
    {s t : σ} (h : S.RunWithin allowed s t) : A.Run (abstraction s) (abstraction t) :=
  h.induct (J := fun u ↦ A.Run (abstraction s) (abstraction u)) (RunWithin.refl _)
    fun u v a _ hto ha hnext ↦ RunWithin.trans hto (hstep u v a ha hnext)

theorem reachable_of_refines (hinit : ∀ s, S.init s → A.init (abstraction s))
    (hstep : ∀ s t a, allowed s a → S.next s a = some t → A.Run (abstraction s) (abstraction t))
    {s : σ} (h : S.ReachableWithin allowed s) : A.Reachable (abstraction s) := by
  obtain ⟨start, hstart, hrun⟩ := h
  exact ⟨abstraction start, hinit start hstart, run_of_refines abstraction hstep hrun⟩

end System

end Foundation.TransitionSystem
