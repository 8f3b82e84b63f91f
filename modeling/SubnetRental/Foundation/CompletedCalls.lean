import SubnetRental.Foundation.GuardedCalls

/-!
# Calls that run alone

A call completes alone when every request it makes is answered and resumed before anything else
happens. `Completes allowed` is this big-step relation between the states before and after the call,
with its result, for answers that are allowed at the frame and the state they are given in;
`Ensures` says that such an end exists and that every end satisfies a postcondition.
`completeAlone` executes it on a list of answers (`completes_of_completeAlone`), and
`run_of_completes` shows that such a call is a run of the machine in any configuration, whatever
else is suspended there.
-/

set_option autoImplicit false
set_option relaxedAutoImplicit false

namespace Foundation.GuardedCalls

open Std TransitionSystem TreeMapTotals

variable {σ ω φ ε ρ τ η : Type*}

namespace Service

variable (S : Service σ ω φ ε ρ τ η)

/-- A suspended frame runs to the end of its call. -/
inductive CompletesFrom (allowed : φ → ε → σ → Prop) : φ → σ → σ → Except τ ρ → Prop
  | trap {frame : φ} {answer : ε} {s : σ} {reason : τ} (hallowed : allowed frame answer s)
      (h : S.resume frame answer (S.serve frame answer s) = .trap reason) :
    CompletesFrom allowed frame s (S.unwind frame (S.serve frame answer s)) (.error reason)
  | reply {frame : φ} {answer : ε} {s s' : σ} {response : ρ} (hallowed : allowed frame answer s)
      (h : S.resume frame answer (S.serve frame answer s) = .reply s' response) :
    CompletesFrom allowed frame s s' (.ok response)
  | suspend {frame frame' : φ} {answer : ε} {s t s' : σ} {result : Except τ ρ}
      (hallowed : allowed frame answer s)
      (h : S.resume frame answer (S.serve frame answer s) = .suspend t frame')
      (hrest : CompletesFrom allowed frame' t s' result) : CompletesFrom allowed frame s s' result

/-- A call runs from its start to its end. -/
inductive Completes (allowed : φ → ε → σ → Prop) (operation : ω) (s : σ) :
    σ → Except τ ρ → Prop
  | trap {reason : τ} (h : S.start operation s = .trap reason) :
    Completes allowed operation s s (.error reason)
  | reply {s' : σ} {response : ρ} (h : S.start operation s = .reply s' response) :
    Completes allowed operation s s' (.ok response)
  | suspend {frame : φ} {t s' : σ} {result : Except τ ρ}
      (h : S.start operation s = .suspend t frame)
      (hrest : S.CompletesFrom allowed frame t s' result) : Completes allowed operation s s' result

variable {S} {allowed : φ → ε → σ → Prop}

/-! ### What a call keeps -/

section Invariants

variable {P : σ → Prop} {s s' : σ} {result : Except τ ρ}

/-- A suspended frame keeps to the end of its call what every answer and every segment keeps. -/
theorem CompletesFrom.keeps {frame : φ} (h : S.CompletesFrom allowed frame s s' result)
    (hserve : ∀ frame answer t, P t → P (S.serve frame answer t))
    (hunwind : ∀ frame t, P t → P (S.unwind frame t))
    (hresume : ∀ frame answer t, P t → (S.resume frame answer t).Leaving P) (hs : P s) : P s' := by
  induction h with
  | trap hallowed h => exact hunwind _ _ (hserve _ _ _ hs)
  | @reply frame answer s s' response hallowed h =>
    have hleaves := hresume frame answer _ (hserve frame answer s hs)
    rw [h] at hleaves
    exact hleaves
  | @suspend frame frame' answer s t s' result hallowed h _ ih =>
    have hleaves := hresume frame answer _ (hserve frame answer s hs)
    rw [h] at hleaves
    exact ih hleaves

/-- A call keeps what its first segment, every answer and every later segment keeps. -/
theorem Completes.keeps {operation : ω} (h : S.Completes allowed operation s s' result)
    (hstart : P s → (S.start operation s).Leaving P)
    (hserve : ∀ frame answer t, P t → P (S.serve frame answer t))
    (hunwind : ∀ frame t, P t → P (S.unwind frame t))
    (hresume : ∀ frame answer t, P t → (S.resume frame answer t).Leaving P) (hs : P s) : P s' := by
  cases h with
  | trap h => exact hs
  | reply h =>
    have hleaves := hstart hs
    rw [h] at hleaves
    exact hleaves
  | suspend h hrest =>
    have hleaves := hstart hs
    rw [h] at hleaves
    exact hrest.keeps hserve hunwind hresume hleaves

end Invariants

/-! ### Execution -/

section Execution

variable (S)

/-- A suspended frame run to the end of its call on a list of answers. -/
def completeFrom : φ → List ε → σ → Option (σ × Except τ ρ)
  | _, [], _ => none
  | frame, answer :: rest, s =>
    match S.resume frame answer (S.serve frame answer s), rest with
    | .trap reason, [] => some (S.unwind frame (S.serve frame answer s), .error reason)
    | .reply s' response, [] => some (s', .ok response)
    | .suspend t frame', rest => completeFrom frame' rest t
    | _, _ => none

/-- A call run from its start to its end on a list of answers. -/
def completeAlone (operation : ω) (answers : List ε) (s : σ) : Option (σ × Except τ ρ) :=
  match S.start operation s, answers with
  | .trap reason, [] => some (s, .error reason)
  | .reply s' response, [] => some (s', .ok response)
  | .suspend t frame, answers => S.completeFrom frame answers t
  | _, _ => none

variable {S}

/-- How a suspended frame goes on to the end of its call. -/
inductive CompleteFromEnd (S : Service σ ω φ ε ρ τ η) (frame : φ) (s s' : σ) :
    List ε → Except τ ρ → Prop
  | trap (answer : ε) (reason : τ)
      (h : S.resume frame answer (S.serve frame answer s) = .trap reason)
      (hend : s' = S.unwind frame (S.serve frame answer s)) :
      CompleteFromEnd S frame s s' [answer] (.error reason)
  | reply (answer : ε) (response : ρ)
      (h : S.resume frame answer (S.serve frame answer s) = .reply s' response) :
      CompleteFromEnd S frame s s' [answer] (.ok response)
  | suspend (answer : ε) (rest : List ε) (t : σ) (frame' : φ) (result : Except τ ρ)
      (h : S.resume frame answer (S.serve frame answer s) = .suspend t frame')
      (hrest : S.completeFrom frame' rest t = some (s', result)) :
      CompleteFromEnd S frame s s' (answer :: rest) result

theorem completeFromEnd_of_eq {frame : φ} {answers : List ε} {s s' : σ} {result : Except τ ρ}
    (h : S.completeFrom frame answers s = some (s', result)) :
    CompleteFromEnd S frame s s' answers result := by
  cases answers with
  | nil => cases h
  | cons answer rest =>
    unfold completeFrom at h
    split at h
    · rename_i reason hresume
      obtain ⟨rfl, rfl⟩ := Prod.mk.inj (Option.some.inj h)
      exact .trap answer reason hresume rfl
    · rename_i t response hresume
      obtain ⟨rfl, rfl⟩ := Prod.mk.inj (Option.some.inj h)
      exact .reply answer response hresume
    · rename_i rest _ _ t frame' hresume
      exact .suspend answer rest t frame' result hresume h
    · cases h

/-- How a call goes from its start to its end. -/
inductive CompleteAloneEnd (S : Service σ ω φ ε ρ τ η) (operation : ω) (s s' : σ) :
    List ε → Except τ ρ → Prop
  | trap (reason : τ) (h : S.start operation s = .trap reason) (hend : s' = s) :
      CompleteAloneEnd S operation s s' [] (.error reason)
  | reply (response : ρ) (h : S.start operation s = .reply s' response) :
      CompleteAloneEnd S operation s s' [] (.ok response)
  | suspend (answers : List ε) (t : σ) (frame : φ) (result : Except τ ρ)
      (h : S.start operation s = .suspend t frame)
      (hrest : S.completeFrom frame answers t = some (s', result)) :
      CompleteAloneEnd S operation s s' answers result

theorem completeAloneEnd_of_eq {operation : ω} {answers : List ε} {s s' : σ} {result : Except τ ρ}
    (h : S.completeAlone operation answers s = some (s', result)) :
    CompleteAloneEnd S operation s s' answers result := by
  unfold completeAlone at h
  split at h
  · rename_i reason hstart
    obtain ⟨rfl, rfl⟩ := Prod.mk.inj (Option.some.inj h)
    exact .trap reason hstart rfl
  · rename_i t response hstart
    obtain ⟨rfl, rfl⟩ := Prod.mk.inj (Option.some.inj h)
    exact .reply response hstart
  · rename_i answers _ _ t frame hstart
    exact .suspend answers t frame result hstart h
  · cases h

variable (S) in
/-- The answers of a suspended frame are allowed where they are given. -/
def allowedFrom (allowed : φ → ε → σ → Prop)
    [∀ frame answer s, Decidable (allowed frame answer s)] :
    φ → List ε → σ → Bool
  | _, [], _ => true
  | frame, answer :: rest, s =>
    decide (allowed frame answer s) &&
      match S.resume frame answer (S.serve frame answer s) with
      | .suspend t frame' => allowedFrom allowed frame' rest t
      | _ => true

variable (S) in
/-- The answers of a call are allowed where they are given. -/
def allowedAlone (allowed : φ → ε → σ → Prop)
    [∀ frame answer s, Decidable (allowed frame answer s)] (operation : ω) (answers : List ε)
    (s : σ) : Bool :=
  match S.start operation s with
  | .suspend t frame => S.allowedFrom allowed frame answers t
  | _ => true

variable [∀ frame answer s, Decidable (allowed frame answer s)]

theorem completesFrom_of_completeFrom {frame : φ} {answers : List ε} {s s' : σ}
    {result : Except τ ρ} (h : S.completeFrom frame answers s = some (s', result))
    (hallowed : S.allowedFrom allowed frame answers s) :
    S.CompletesFrom allowed frame s s' result := by
  induction answers generalizing frame s with
  | nil => cases h
  | cons answer rest ih =>
    unfold allowedFrom at hallowed
    rw [Bool.and_eq_true, decide_eq_true_eq] at hallowed
    obtain ⟨hfirst, hlater⟩ := hallowed
    cases completeFromEnd_of_eq h with
    | trap _ reason hresume hend =>
      subst hend
      exact .trap hfirst hresume
    | reply _ response hresume => exact .reply hfirst hresume
    | suspend _ _ t frame' _ hresume hrest =>
      rw [hresume] at hlater
      exact .suspend hfirst hresume (ih hrest hlater)

/-- An executed call with allowed answers is a completed one. -/
theorem completes_of_completeAlone {operation : ω} {answers : List ε} {s s' : σ}
    {result : Except τ ρ} (h : S.completeAlone operation answers s = some (s', result))
    (hallowed : S.allowedAlone allowed operation answers s) :
    S.Completes allowed operation s s' result := by
  unfold allowedAlone at hallowed
  cases completeAloneEnd_of_eq h with
  | trap reason hstart hend =>
    subst hend
    exact .trap hstart
  | reply response hstart => exact .reply hstart
  | suspend _ t frame _ hstart hrest =>
    rw [hstart] at hallowed
    exact .suspend hstart (completesFrom_of_completeFrom hrest hallowed)

end Execution

/-! ### Postconditions -/

section Postconditions

variable (S)

/-- With the allowed answers a suspended frame has an end, and every end satisfies `post`. -/
def EnsuresFrom (allowed : φ → ε → σ → Prop) (frame : φ) (s : σ) (post : σ → Except τ ρ → Prop) :
    Prop :=
  (∃ s' result, S.CompletesFrom allowed frame s s' result) ∧
    ∀ s' result, S.CompletesFrom allowed frame s s' result → post s' result

/-- With the allowed answers a call has an end, and every end satisfies `post`. -/
def Ensures (allowed : φ → ε → σ → Prop) (operation : ω) (s : σ) (post : σ → Except τ ρ → Prop) :
    Prop :=
  (∃ s' result, S.Completes allowed operation s s' result) ∧
    ∀ s' result, S.Completes allowed operation s s' result → post s' result

/-- What is left to show after a segment of a frame, which was resumed in a state. -/
def Continues (allowed : φ → ε → σ → Prop) (frame : φ) (s : σ) (post : σ → Except τ ρ → Prop) :
    Outcome σ φ ρ τ → Prop
  | .trap reason => post (S.unwind frame s) (.error reason)
  | .suspend t frame' => S.EnsuresFrom allowed frame' t post
  | .reply s' response => post s' (.ok response)

variable {S} {post weaker : σ → Except τ ρ → Prop}

/-- A frame ensures what it ensures after each allowed answer, of which there must be one. -/
theorem ensuresFrom_of_answers {frame : φ} {s : σ} (hsome : ∃ answer, allowed frame answer s)
    (h : ∀ answer, allowed frame answer s →
      S.Continues allowed frame (S.serve frame answer s) post
        (S.resume frame answer (S.serve frame answer s))) :
    S.EnsuresFrom allowed frame s post := by
  constructor
  · obtain ⟨answer, hallowed⟩ := hsome
    have hcontinues := h answer hallowed
    cases hresume : S.resume frame answer (S.serve frame answer s) with
    | trap reason => exact ⟨_, _, .trap hallowed hresume⟩
    | reply s' response => exact ⟨_, _, .reply hallowed hresume⟩
    | suspend t frame' =>
      rw [hresume] at hcontinues
      obtain ⟨s', result, hrest⟩ := hcontinues.1
      exact ⟨s', result, .suspend hallowed hresume hrest⟩
  · intro s' result hend
    cases hend with
    | trap hallowed hresume =>
      have hcontinues := h _ hallowed
      rw [hresume] at hcontinues
      exact hcontinues
    | reply hallowed hresume =>
      have hcontinues := h _ hallowed
      rw [hresume] at hcontinues
      exact hcontinues
    | suspend hallowed hresume hrest =>
      have hcontinues := h _ hallowed
      rw [hresume] at hcontinues
      exact hcontinues.2 s' result hrest

theorem ensures_of_reply {operation : ω} {s s' : σ} {response : ρ}
    (hstart : S.start operation s = .reply s' response) (h : post s' (.ok response)) :
    S.Ensures allowed operation s post := by
  refine ⟨⟨s', _, .reply hstart⟩, fun t result hend ↦ ?_⟩
  cases hend with
  | trap hstart' => exact absurd (hstart.symm.trans hstart') (by simp)
  | reply hstart' =>
    obtain ⟨rfl, rfl⟩ := Outcome.reply.inj (hstart.symm.trans hstart')
    exact h
  | suspend hstart' => exact absurd (hstart.symm.trans hstart') (by simp)

theorem ensures_of_trap {operation : ω} {s : σ} {reason : τ}
    (hstart : S.start operation s = .trap reason) (h : post s (.error reason)) :
    S.Ensures allowed operation s post := by
  refine ⟨⟨s, _, .trap hstart⟩, fun t result hend ↦ ?_⟩
  cases hend with
  | trap hstart' =>
    obtain rfl := Outcome.trap.inj (hstart.symm.trans hstart')
    exact h
  | reply hstart' => exact absurd (hstart.symm.trans hstart') (by simp)
  | suspend hstart' => exact absurd (hstart.symm.trans hstart') (by simp)

/-- A call that ends in its first segment has one result. -/
theorem ensures_of_ended {operation : ω} {s s' : σ} {result : Except τ ρ}
    (hstart : S.start operation s = .ended s' result) :
    S.Ensures allowed operation s fun _ ended ↦ ended = result := by
  cases result with
  | error reason => exact ensures_of_trap hstart rfl
  | ok response => exact ensures_of_reply hstart rfl

/-- A call that suspends ensures what its frame ensures. -/
theorem ensures_of_suspend {operation : ω} {s t : σ} {frame : φ}
    (hstart : S.start operation s = .suspend t frame) (h : S.EnsuresFrom allowed frame t post) :
    S.Ensures allowed operation s post := by
  constructor
  · obtain ⟨s', result, hrest⟩ := h.1
    exact ⟨s', result, .suspend hstart hrest⟩
  · intro s' result hend
    cases hend with
    | trap hstart' => exact absurd (hstart.symm.trans hstart') (by simp)
    | reply hstart' => exact absurd (hstart.symm.trans hstart') (by simp)
    | suspend hstart' hrest =>
      obtain ⟨rfl, rfl⟩ := Outcome.suspend.inj (hstart.symm.trans hstart')
      exact h.2 s' result hrest

theorem EnsuresFrom.mono {frame : φ} {s : σ} (h : S.EnsuresFrom allowed frame s post)
    (hweaker : ∀ s' result, post s' result → weaker s' result) :
    S.EnsuresFrom allowed frame s weaker :=
  ⟨h.1, fun s' result hend ↦ hweaker s' result (h.2 s' result hend)⟩

theorem Ensures.mono {operation : ω} {s : σ} (h : S.Ensures allowed operation s post)
    (hweaker : ∀ s' result, post s' result → weaker s' result) :
    S.Ensures allowed operation s weaker :=
  ⟨h.1, fun s' result hend ↦ hweaker s' result (h.2 s' result hend)⟩

variable (S) in
/-- What is left to show after a segment that does not trap. -/
def Proceeds (allowed : φ → ε → σ → Prop) (post : σ → Except τ ρ → Prop) :
    Outcome σ φ ρ τ → Prop
  | .trap _ => False
  | .suspend t frame => S.EnsuresFrom allowed frame t post
  | .reply s' response => post s' (.ok response)

theorem Proceeds.mono {outcome : Outcome σ φ ρ τ} (h : S.Proceeds allowed post outcome)
    (hweaker : ∀ s' result, post s' result → weaker s' result) :
    S.Proceeds allowed weaker outcome := by
  cases outcome with
  | trap reason => exact h
  | suspend t frame => exact EnsuresFrom.mono h hweaker
  | reply s' response => exact hweaker _ _ h

theorem Proceeds.continues {outcome : Outcome σ φ ρ τ} (h : S.Proceeds allowed post outcome)
    (frame : φ) (s : σ) : S.Continues allowed frame s post outcome := by
  cases outcome with
  | trap reason => exact h.elim
  | suspend t frame' => exact h
  | reply s' response => exact h

/-- A call whose first segment proceeds ensures what is left to show. -/
theorem ensures_of_proceeds {operation : ω} {s : σ}
    (h : S.Proceeds allowed post (S.start operation s)) : S.Ensures allowed operation s post := by
  cases hstart : S.start operation s with
  | trap reason =>
    rw [hstart] at h
    exact h.elim
  | suspend t frame =>
    rw [hstart] at h
    exact ensures_of_suspend hstart h
  | reply s' response =>
    rw [hstart] at h
    exact ensures_of_reply hstart h

/-- A call does not ensure what contradicts what it ensures. -/
theorem Ensures.not_of_contradicts {operation : ω} {s : σ}
    (h : S.Ensures allowed operation s post)
    (hcontradicts : ∀ s' result, post s' result → ¬ weaker s' result) :
    ¬ S.Ensures allowed operation s weaker := by
  rintro ⟨-, hweaker⟩
  obtain ⟨s', result, hend⟩ := h.1
  exact hcontradicts s' result (h.2 s' result hend) (hweaker s' result hend)

/-- A call with one result ensures of its results what holds of that one. -/
theorem Ensures.of_result_iff {operation : ω} {s : σ} {result : Except τ ρ}
    {P : Except τ ρ → Prop} (h : S.Ensures allowed operation s fun _ ended ↦ ended = result) :
    S.Ensures allowed operation s (fun _ ended ↦ P ended) ↔ P result := by
  constructor
  · rintro ⟨-, hother⟩
    obtain ⟨s', ended, hend⟩ := h.1
    exact h.2 s' ended hend ▸ hother s' ended hend
  · intro hresult
    exact h.mono fun _ ended hended ↦ hended ▸ hresult

/-- A call with one result ensures no other. -/
theorem Ensures.result_iff {operation : ω} {s : σ} {result other : Except τ ρ}
    (h : S.Ensures allowed operation s fun _ ended ↦ ended = result) :
    S.Ensures allowed operation s (fun _ ended ↦ ended = other) ↔ result = other :=
  h.of_result_iff

end Postconditions

/-! ### Completed calls are runs -/

section Runs

variable (initial : σ → Prop)

/-- The end of a call in a configuration. -/
private theorem run_of_completesFrom {frame : φ} {s s' : σ} {result : Except τ ρ}
    (h : S.CompletesFrom allowed frame s s' result) (operation : ω)
    (calls : ExtTreeMap ℕ (Call ω φ ε)) (id nextCall : ℕ) (trace : List (ω × Except τ ρ)) :
    (S.system initial).Run
      ⟨s, calls.insert id ⟨operation, frame, none⟩, nextCall, trace⟩
      ⟨s', calls.erase id, nextCall, trace ++ [(operation, result)]⟩ := by
  induction h with
  | @trap frame answer s reason hallowed h =>
    have hsteps : (S.system initial).perform
        ⟨s, calls.insert id ⟨operation, frame, none⟩, nextCall, trace⟩
        [.serve id answer, .resume id] =
        some ⟨S.unwind frame (S.serve frame answer s), calls.erase id, nextCall,
          trace ++ [(operation, .error reason)]⟩ := by
      simp [System.perform, System.performWithin, system, next, h, insert_insert_self,
        erase_insert_self]
    exact System.run_of_perform hsteps
  | @reply frame answer s s' response hallowed h =>
    have hsteps : (S.system initial).perform
        ⟨s, calls.insert id ⟨operation, frame, none⟩, nextCall, trace⟩
        [.serve id answer, .resume id] =
        some ⟨s', calls.erase id, nextCall, trace ++ [(operation, .ok response)]⟩ := by
      simp [System.perform, System.performWithin, system, next, h, insert_insert_self,
        erase_insert_self]
    exact System.run_of_perform hsteps
  | @suspend frame frame' answer s t s' result hallowed h _ ih =>
    have hsteps : (S.system initial).perform
        ⟨s, calls.insert id ⟨operation, frame, none⟩, nextCall, trace⟩
        [.serve id answer, .resume id] =
        some ⟨t, calls.insert id ⟨operation, frame', none⟩, nextCall, trace⟩ := by
      simp [System.perform, System.performWithin, system, next, h, insert_insert_self]
    exact System.RunWithin.trans (System.run_of_perform hsteps) ih

/-- A call that completes alone is a run of the machine from any configuration, and leaves the
suspended calls of the configuration as they are. -/
theorem run_of_completes {operation : ω} {result : Except τ ρ} {c : Config σ ω φ ε ρ τ} {s' : σ}
    (hfresh : c.calls[c.nextCall]? = none)
    (h : S.Completes allowed operation c.state s' result) :
    ∃ nextCall, c.nextCall ≤ nextCall ∧ (S.system initial).Run c
      { state := s', calls := c.calls, nextCall, trace := c.trace ++ [(operation, result)] } := by
  obtain ⟨state, calls, nextCall, trace⟩ := c
  cases h with
  | @trap reason h =>
    have hstep : (S.system initial).perform ⟨state, calls, nextCall, trace⟩ [.start operation] =
        some ⟨state, calls, nextCall, trace ++ [(operation, .error reason)]⟩ := by
      simp [System.perform, System.performWithin, system, next, h]
    exact ⟨nextCall, le_rfl, System.run_of_perform hstep⟩
  | @reply s' response h =>
    have hstep : (S.system initial).perform ⟨state, calls, nextCall, trace⟩ [.start operation] =
        some ⟨s', calls, nextCall, trace ++ [(operation, .ok response)]⟩ := by
      simp [System.perform, System.performWithin, system, next, h]
    exact ⟨nextCall, le_rfl, System.run_of_perform hstep⟩
  | @suspend frame t s' result h hrest =>
    have hstep : (S.system initial).perform ⟨state, calls, nextCall, trace⟩ [.start operation] =
        some ⟨t, calls.insert nextCall ⟨operation, frame, none⟩, nextCall + 1, trace⟩ := by
      simp [System.perform, System.performWithin, system, next, h]
    have hend := run_of_completesFrom initial hrest operation calls nextCall (nextCall + 1) trace
    rw [erase_eq_self hfresh] at hend
    exact ⟨nextCall + 1, Nat.le_succ _, System.RunWithin.trans (System.run_of_perform hstep) hend⟩

end Runs

end Service

end Foundation.GuardedCalls
