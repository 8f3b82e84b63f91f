import SubnetRental.Foundation.TransitionSystem
import Mathlib.Algebra.BigOperators.Group.List.Basic
import Mathlib.Algebra.GroupWithZero.Nat
import Mathlib.Logic.Function.Basic

/-!
# Registries of exclusive claims and contracts

Users claim something from a registry, and a claim is later withdrawn or granted as a contract for
one of the registry's resources. A `Registry` maps users to their pending claims and resources to
the contracts they are under, and remembers the values a user's claim has had; that a user has at
most one pending claim or contract, and never both, is part of the structure. Agents change it by a
`Move`. `Rules` say who may make which move, how claims and contracts may change, and whether a
revision may start from a past value, and `registry` is the transition system of all permitted
moves.

The results are about lists of moves. A contract, once granted, is held by the same user forever and
only amended (`held_of_perform`). A pending claim is only revised until somebody who may do so
withdraws or grants it, unless revisions start from past values (`pending_of_perform`). Claims are
conserved: every claim ever made is withdrawn, granted or still pending (`claims_conserved`), and
every resource under contract was granted exactly once (`grants_conserved`), as was every contract
of a user (`contracts_conserved`). Every contract goes back to a claim and a later grant
(`traced_of_perform`).
-/

set_option autoImplicit false
set_option relaxedAutoImplicit false

namespace Foundation.ExclusiveRegistry

open TransitionSystem Relation

variable {α υ ρ π χ : Type*}

/-- The changes of a registry. -/
inductive Move (υ ρ π χ : Type*)
  | claim (user : υ) (value : π)
  | revise (user : υ) (value : π)
  | withdraw (user : υ)
  | grant (user : υ) (resource : ρ) (contract : χ)
  | amend (resource : ρ) (contract : χ)

/-- Who may do what, and how claims and contracts change. -/
structure Rules (α υ ρ π χ : Type*) where
  /-- The user a contract is with. -/
  holder : χ → υ
  /-- What an agent may do. -/
  may : α → Move υ ρ π χ → Prop
  /-- Revisions may start from a past value of the claim. -/
  stale : Prop
  revises : π → π → Prop
  /-- The contracts a claim leads to. -/
  grants : π → χ → Prop
  amends : χ → χ → Prop
  holder_amends : ∀ k k', amends k k' → holder k' = holder k

/-- The pending claims and the contracts, and all values that claims have had. -/
@[ext]
structure Registry (R : Rules α υ ρ π χ) where
  pending : υ → Option π
  held : ρ → Option χ
  past : υ → Set π
  /-- Nobody has both a pending claim and a contract. -/
  exclusive : ∀ resource contract, held resource = some contract →
    pending (R.holder contract) = none
  /-- Nobody has two contracts. -/
  unique : ∀ i j k l, held i = some k → held j = some l → R.holder k = R.holder l → i = j
  recorded : ∀ user value, pending user = some value → value ∈ past user

/-- A contract stays with its user. -/
theorem Rules.holder_of_amends (R : Rules α υ ρ π χ) {k k' : χ}
    (h : ReflTransGen R.amends k k') : R.holder k' = R.holder k := by
  induction h with
  | refl => rfl
  | tail _ hlast ih => exact (R.holder_amends _ _ hlast).trans ih

section Moves

variable [DecidableEq υ] [DecidableEq ρ]

/-- The pending claims after a move. -/
def Move.pendingAfter (pending : υ → Option π) : Move υ ρ π χ → υ → Option π
  | .claim user value => Function.update pending user (some value)
  | .revise user value => Function.update pending user (some value)
  | .withdraw user => Function.update pending user none
  | .grant user _ _ => Function.update pending user none
  | .amend _ _ => pending

/-- The contracts after a move. -/
def Move.heldAfter (held : ρ → Option χ) : Move υ ρ π χ → ρ → Option χ
  | .grant _ resource contract => Function.update held resource (some contract)
  | .amend resource contract => Function.update held resource (some contract)
  | .claim _ _ => held
  | .revise _ _ => held
  | .withdraw _ => held

/-- The values claims have had after a move. -/
def Move.pastAfter (past : υ → Set π) : Move υ ρ π χ → υ → Set π
  | .claim user value => Function.update past user (insert value (past user))
  | .revise user value => Function.update past user (insert value (past user))
  | .withdraw _ => past
  | .grant _ _ _ => past
  | .amend _ _ => past

variable {R : Rules α υ ρ π χ}

/-- A value that a revision may start from. -/
def Registry.Source (s : Registry R) (user : υ) (old : π) : Prop :=
  s.pending user = some old ∨ R.stale ∧ (s.pending user).isSome ∧ old ∈ s.past user

/-- The registry is such that a move can be made. -/
def Registry.Permits (s : Registry R) : Move υ ρ π χ → Prop
  | .claim user _ => s.pending user = none ∧
      ∀ resource contract, s.held resource = some contract → R.holder contract ≠ user
  | .revise user value => ∃ old, s.Source user old ∧ R.revises old value
  | .withdraw user => ∃ old, s.pending user = some old
  | .grant user resource contract => ∃ old, s.pending user = some old ∧
      s.held resource = none ∧ R.holder contract = user ∧ R.grants old contract
  | .amend resource contract => ∃ old, s.held resource = some old ∧ R.amends old contract

variable {s t : Registry R} {m : Move υ ρ π χ}

omit [DecidableEq υ] [DecidableEq ρ] in
/-- The user of a pending claim has no contract. -/
theorem Registry.holder_ne (s : Registry R) {user : υ} {value : π}
    (hpending : s.pending user = some value) (resource : ρ) (contract : χ)
    (hheld : s.held resource = some contract) : R.holder contract ≠ user := by
  intro hholder
  have hnone := s.exclusive resource contract hheld
  rw [hholder, hpending] at hnone
  cases hnone

omit [DecidableEq υ] [DecidableEq ρ] in
theorem Registry.Source.pending_ne_none {user : υ} {old : π} (h : s.Source user old) :
    ∃ value, s.pending user = some value := by
  obtain hpending | ⟨-, hsome, -⟩ := h
  · exact ⟨old, hpending⟩
  · exact Option.isSome_iff_exists.mp hsome

omit [DecidableEq υ] [DecidableEq ρ] in
theorem Registry.Source.mem_past {user : υ} {old : π} (h : s.Source user old) :
    old ∈ s.past user := by
  obtain hpending | ⟨-, -, hpast⟩ := h
  · exact s.recorded user old hpending
  · exact hpast

omit [DecidableEq υ] in
/-- Where a contract comes from. -/
theorem Registry.held_before (h : s.Permits m) {resource : ρ} {contract : χ}
    (hheld : m.heldAfter s.held resource = some contract) :
    (∃ old, s.held resource = some old ∧ R.holder contract = R.holder old) ∨
      m = .grant (R.holder contract) resource contract := by
  cases m with
  | claim | revise | withdraw => exact .inl ⟨contract, hheld, rfl⟩
  | grant user resource' contract' =>
    obtain ⟨old, -, -, rfl, -⟩ := h
    rw [Move.heldAfter, Function.update_apply] at hheld
    split_ifs at hheld with hsame
    · obtain rfl := Option.some.inj hheld
      exact .inr (by rw [hsame])
    · exact .inl ⟨contract, hheld, rfl⟩
  | amend resource' contract' =>
    obtain ⟨old, hold, hamends⟩ := h
    rw [Move.heldAfter, Function.update_apply] at hheld
    split_ifs at hheld with hsame
    · obtain rfl := Option.some.inj hheld
      exact .inl ⟨old, hsame ▸ hold, R.holder_amends _ _ hamends⟩
    · exact .inl ⟨contract, hheld, rfl⟩

/-- A permitted move leaves nobody with a claim and a contract. -/
theorem Registry.exclusive_after (h : s.Permits m) (resource : ρ) (contract : χ)
    (hheld : m.heldAfter s.held resource = some contract) :
    m.pendingAfter s.pending (R.holder contract) = none := by
  obtain ⟨old, hold, hholder⟩ | rfl := Registry.held_before h hheld
  · have hnone : s.pending (R.holder contract) = none := by
      rw [hholder]
      exact s.exclusive resource old hold
    cases m with
    | claim user value =>
      rw [Move.pendingAfter, Function.update_apply, if_neg, hnone]
      rw [hholder]
      exact h.2 resource old hold
    | revise user value =>
      obtain ⟨old', hsource, -⟩ := h
      obtain ⟨value', hpending⟩ := hsource.pending_ne_none
      rw [Move.pendingAfter, Function.update_apply, if_neg, hnone]
      rw [hholder]
      exact s.holder_ne hpending resource old hold
    | withdraw user | grant user resource' contract' =>
      rw [Move.pendingAfter, Function.update_apply]
      split_ifs
      · rfl
      · exact hnone
    | amend resource' contract' => exact hnone
  · rw [Move.pendingAfter, Function.update_self]

omit [DecidableEq υ] in
/-- A permitted move leaves nobody with two contracts. -/
theorem Registry.unique_after (h : s.Permits m) (i j : ρ) (k l : χ)
    (hi : m.heldAfter s.held i = some k) (hj : m.heldAfter s.held j = some l)
    (hholder : R.holder k = R.holder l) : i = j := by
  have hgranted {i j : ρ} {k l old : χ} (hm : m = .grant (R.holder k) i k)
      (hold : s.held j = some old) (hsame : R.holder l = R.holder old)
      (hholder : R.holder k = R.holder l) : False := by
    subst hm
    obtain ⟨value, hpending, -⟩ := h
    exact s.holder_ne hpending j old hold (hsame.symm.trans hholder.symm)
  obtain ⟨oldᵢ, holdᵢ, hsameᵢ⟩ | hmᵢ := Registry.held_before h hi
  · obtain ⟨oldⱼ, holdⱼ, hsameⱼ⟩ | hmⱼ := Registry.held_before h hj
    · exact s.unique i j oldᵢ oldⱼ holdᵢ holdⱼ (hsameᵢ.symm.trans (hholder.trans hsameⱼ))
    · exact (hgranted hmⱼ holdᵢ hsameᵢ hholder.symm).elim
  · obtain ⟨oldⱼ, holdⱼ, hsameⱼ⟩ | hmⱼ := Registry.held_before h hj
    · exact (hgranted hmᵢ holdⱼ hsameⱼ hholder).elim
    · exact (Move.grant.inj (hmᵢ.symm.trans hmⱼ)).2.1

omit [DecidableEq ρ] in
/-- A move remembers what becomes pending. -/
theorem Registry.recorded_after (s : Registry R) (m : Move υ ρ π χ) (user : υ) (value : π)
    (hpending : m.pendingAfter s.pending user = some value) :
    value ∈ m.pastAfter s.past user := by
  cases m with
  | claim user' value' | revise user' value' =>
    rw [Move.pendingAfter, Function.update_apply] at hpending
    rw [Move.pastAfter, Function.update_apply]
    split_ifs at hpending ⊢ with hsame
    · exact .inl (Option.some.inj hpending).symm
    · exact s.recorded user value hpending
  | withdraw user' | grant user' resource contract =>
    rw [Move.pendingAfter, Function.update_apply] at hpending
    split_ifs at hpending with hsame
    exact s.recorded user value hpending
  | amend resource contract => exact s.recorded user value hpending

omit [DecidableEq ρ] in
/-- No value is forgotten. -/
theorem Move.past_subset (past : υ → Set π) (m : Move υ ρ π χ) (user : υ) :
    past user ⊆ m.pastAfter past user := by
  intro value hvalue
  cases m with
  | claim user' value' | revise user' value' =>
    rw [Move.pastAfter, Function.update_apply]
    split_ifs with hsame
    · subst hsame
      exact .inr hvalue
    · exact hvalue
  | withdraw | grant | amend => exact hvalue

/-- The registry after a permitted move. -/
def Registry.after (s : Registry R) (m : Move υ ρ π χ) (h : s.Permits m) : Registry R where
  pending := m.pendingAfter s.pending
  held := m.heldAfter s.held
  past := m.pastAfter s.past
  exclusive := Registry.exclusive_after h
  unique := Registry.unique_after h
  recorded := Registry.recorded_after s m

/-- The registry without claims and contracts. -/
def Registry.empty : Registry R where
  pending _ := none
  held _ := none
  past _ := ∅
  exclusive _ _ h := by cases h
  unique _ _ _ _ h := by cases h
  recorded _ _ h := by cases h

open Classical in
/-- All moves that the rules and the registry permit. -/
noncomputable def registry (R : Rules α υ ρ π χ) : System (Registry R) (α × Move υ ρ π χ) where
  init s := s = .empty
  next s act := if h : R.may act.1 act.2 ∧ s.Permits act.2 then some (s.after act.2 h.2) else none

variable {a : α}

/-- The inversion lemma of the registry. -/
theorem next_eq_some_iff : (registry R).next s (a, m) = some t ↔
    R.may a m ∧ s.Permits m ∧ t.pending = m.pendingAfter s.pending ∧
      t.held = m.heldAfter s.held ∧ t.past = m.pastAfter s.past := by
  unfold registry
  dsimp only
  constructor
  · intro h
    split_ifs at h with hmay
    obtain rfl := Option.some.inj h
    exact ⟨hmay.1, hmay.2, rfl, rfl, rfl⟩
  · rintro ⟨hmay, hpermits, hpending, hheld, hpast⟩
    rw [dif_pos ⟨hmay, hpermits⟩]
    exact congrArg some (Registry.ext hpending.symm hheld.symm hpast.symm)

/-- A permitted move of somebody who may make it. -/
theorem perform_singleton (hmay : R.may a m) (h : s.Permits m) :
    (registry R).perform s [(a, m)] = some (s.after m h) :=
  System.perform_cons_eq_some.mpr
    ⟨s.after m h, next_eq_some_iff.mpr ⟨hmay, h, rfl, rfl, rfl⟩, rfl⟩

theorem past_subset_of_perform {acts : List (α × Move υ ρ π χ)}
    (h : (registry R).perform s acts = some t) (user : υ) : s.past user ⊆ t.past user := by
  induction acts generalizing s with
  | nil =>
    obtain rfl : s = t := Option.some.inj h
    exact fun _ hvalue ↦ hvalue
  | cons act rest ih =>
    obtain ⟨u, hnext, hrest⟩ := System.perform_cons_eq_some.mp h
    obtain ⟨-, -, -, -, hpast⟩ := next_eq_some_iff.mp hnext
    have hfirst := Move.past_subset s.past act.2 user
    rw [← hpast] at hfirst
    exact fun value hvalue ↦ ih hrest (hfirst hvalue)

/-! ### Contracts -/

/-- A move keeps every contract or amends it. -/
theorem held_of_next (h : (registry R).next s (a, m) = some t) {resource : ρ} {contract : χ}
    (hheld : s.held resource = some contract) :
    ∃ later, t.held resource = some later ∧ ReflTransGen R.amends contract later := by
  obtain ⟨-, hpermits, -, hafter, -⟩ := next_eq_some_iff.mp h
  rw [hafter]
  cases m with
  | claim | revise | withdraw => exact ⟨contract, hheld, .refl⟩
  | grant user resource' contract' =>
    obtain ⟨old, -, hfree, -⟩ := hpermits
    have hne : resource ≠ resource' := by
      rintro rfl
      rw [hfree] at hheld
      cases hheld
    exact ⟨contract, by rwa [Move.heldAfter, Function.update_of_ne hne], .refl⟩
  | amend resource' contract' =>
    obtain ⟨old, hold, hamends⟩ := hpermits
    rw [Move.heldAfter]
    by_cases hsame : resource = resource'
    · subst hsame
      obtain rfl := Option.some.inj (hheld.symm.trans hold)
      exact ⟨contract', Function.update_self .., .single hamends⟩
    · exact ⟨contract, by rwa [Function.update_of_ne hsame], .refl⟩

/-- A contract is only amended. -/
theorem held_of_perform {acts : List (α × Move υ ρ π χ)}
    (h : (registry R).perform s acts = some t) {resource : ρ} {contract : χ}
    (hheld : s.held resource = some contract) :
    ∃ later, t.held resource = some later ∧ ReflTransGen R.amends contract later := by
  induction acts generalizing s contract with
  | nil =>
    obtain rfl : s = t := Option.some.inj h
    exact ⟨contract, hheld, .refl⟩
  | cons act rest ih =>
    obtain ⟨u, hnext, hrest⟩ := System.perform_cons_eq_some.mp h
    obtain ⟨middle, hmiddle, hfirst⟩ := held_of_next hnext hheld
    obtain ⟨later, hlater, hsecond⟩ := ih hrest hmiddle
    exact ⟨later, hlater, hfirst.trans hsecond⟩

/-! ### Claims -/

/-- The move ends the claim of a user. -/
def Move.Ends (user : υ) : Move υ ρ π χ → Prop
  | .withdraw other => other = user
  | .grant other _ _ => other = user
  | _ => False

/-- A move keeps a pending claim, revises it or ends it. -/
theorem pending_of_next (h : (registry R).next s (a, m) = some t) {user : υ} {value : π}
    (hpending : s.pending user = some value) :
    (∃ later, t.pending user = some later ∧ (R.stale ∨ ReflTransGen R.revises value later)) ∨
      m.Ends user := by
  obtain ⟨-, hpermits, hafter, -⟩ := next_eq_some_iff.mp h
  rw [hafter]
  cases m with
  | amend => exact .inl ⟨value, hpending, .inr .refl⟩
  | claim user' value' =>
    have hne : user ≠ user' := by
      rintro rfl
      rw [hpermits.1] at hpending
      cases hpending
    exact .inl ⟨value, by rwa [Move.pendingAfter, Function.update_of_ne hne], .inr .refl⟩
  | revise user' value' =>
    obtain ⟨old, hsource, hrevises⟩ := hpermits
    rw [Move.pendingAfter]
    by_cases hsame : user = user'
    · subst hsame
      refine .inl ⟨value', Function.update_self .., ?_⟩
      obtain hold | ⟨hstale, -⟩ := hsource
      · obtain rfl := Option.some.inj (hpending.symm.trans hold)
        exact .inr (.single hrevises)
      · exact .inl hstale
    · exact .inl ⟨value, by rwa [Function.update_of_ne hsame], .inr .refl⟩
  | withdraw user' | grant user' resource contract =>
    rw [Move.pendingAfter]
    by_cases hsame : user = user'
    · exact .inr hsame.symm
    · exact .inl ⟨value, by rwa [Function.update_of_ne hsame], .inr .refl⟩

/-- A pending claim stays pending until somebody who may do so ends it, and is only revised where
revisions start from the pending value. -/
theorem pending_of_perform {acts : List (α × Move υ ρ π χ)}
    (h : (registry R).perform s acts = some t) {user : υ} {value : π}
    (hpending : s.pending user = some value) :
    (∃ later, t.pending user = some later ∧ (R.stale ∨ ReflTransGen R.revises value later)) ∨
      ∃ act ∈ acts, act.2.Ends user ∧ R.may act.1 act.2 := by
  induction acts generalizing s value with
  | nil =>
    obtain rfl : s = t := Option.some.inj h
    exact .inl ⟨value, hpending, .inr .refl⟩
  | cons act rest ih =>
    obtain ⟨u, hnext, hrest⟩ := System.perform_cons_eq_some.mp h
    obtain ⟨middle, hmiddle, hfirst⟩ | hends := pending_of_next hnext hpending
    · obtain ⟨later, hlater, hsecond⟩ | ⟨act', hmem, hends⟩ := ih hrest hmiddle
      · refine .inl ⟨later, hlater, ?_⟩
        obtain hstale | hfirst := hfirst
        · exact .inl hstale
        · exact hsecond.imp_right hfirst.trans
      · exact .inr ⟨act', List.mem_cons_of_mem _ hmem, hends⟩
    · exact .inr ⟨act, List.mem_cons_self, hends, (next_eq_some_iff.mp hnext).1⟩

/-- Every move is one its agent may make. -/
theorem may_of_perform {acts : List (α × Move υ ρ π χ)}
    (h : (registry R).perform s acts = some t) : ∀ act ∈ acts, R.may act.1 act.2 := by
  induction acts generalizing s with
  | nil => exact List.forall_mem_nil _
  | cons act rest ih =>
    obtain ⟨u, hnext, hrest⟩ := System.perform_cons_eq_some.mp h
    intro act' hact'
    obtain rfl | hmem := List.mem_cons.mp hact'
    · exact (next_eq_some_iff.mp hnext).1
    · exact ih hrest act' hmem

/-! ### Conservation -/

/-- The claims of a user. -/
def Move.claims (user : υ) : Move υ ρ π χ → ℕ
  | .claim other _ => if other = user then 1 else 0
  | _ => 0

/-- The withdrawn claims of a user. -/
def Move.withdrawals (user : υ) : Move υ ρ π χ → ℕ
  | .withdraw other => if other = user then 1 else 0
  | _ => 0

/-- The granted claims of a user. -/
def Move.grantsTo (user : υ) : Move υ ρ π χ → ℕ
  | .grant other _ _ => if other = user then 1 else 0
  | _ => 0

/-- The contracts granted for a resource. -/
def Move.grantsOf (resource : ρ) : Move υ ρ π χ → ℕ
  | .grant _ other _ => if other = resource then 1 else 0
  | _ => 0

/-- The moves of a list, counted. -/
def counted (count : Move υ ρ π χ → ℕ) (acts : List (α × Move υ ρ π χ)) : ℕ :=
  (acts.map fun act ↦ count act.2).sum

omit [DecidableEq υ] [DecidableEq ρ] in
theorem counted_cons (count : Move υ ρ π χ → ℕ) (act : α × Move υ ρ π χ)
    (rest : List (α × Move υ ρ π χ)) :
    counted count (act :: rest) = count act.2 + counted count rest := by
  rw [counted, List.map_cons, List.sum_cons, counted]

omit [DecidableEq υ] [DecidableEq ρ] in
theorem counted_append (count : Move υ ρ π χ → ℕ) (acts more : List (α × Move υ ρ π χ)) :
    counted count (acts ++ more) = counted count acts + counted count more := by
  rw [counted, List.map_append, List.sum_append, counted, counted]

/-- One if there is a value. -/
def present {β : Type*} : Option β → ℕ
  | none => 0
  | some _ => 1

theorem present_update {β γ : Type*} [DecidableEq β] (f : β → Option γ) (b c : β)
    (value : Option γ) :
    present (Function.update f b value c) = if b = c then present value else present (f c) := by
  by_cases h : b = c
  · subst h
    rw [Function.update_self, if_pos rfl]
  · rw [Function.update_of_ne (Ne.symm h), if_neg h]

/-- A move conserves the claims of every user. -/
theorem claims_of_next (h : (registry R).next s (a, m) = some t) (user : υ) :
    present (s.pending user) + m.claims user =
      m.withdrawals user + m.grantsTo user + present (t.pending user) := by
  obtain ⟨-, hpermits, hafter, -⟩ := next_eq_some_iff.mp h
  rw [hafter]
  cases m with
  | amend => simp [Move.claims, Move.withdrawals, Move.grantsTo, Move.pendingAfter]
  | claim user' value =>
    have hnone := hpermits.1
    simp only [Move.claims, Move.withdrawals, Move.grantsTo, Move.pendingAfter, present_update]
    split_ifs with hsame
    · subst hsame
      rw [hnone]
      rfl
    · omega
  | revise user' value =>
    obtain ⟨source, hsource, -⟩ := hpermits
    obtain ⟨old, hold⟩ := hsource.pending_ne_none
    simp only [Move.claims, Move.withdrawals, Move.grantsTo, Move.pendingAfter, present_update]
    split_ifs with hsame
    · subst hsame
      rw [hold]
      rfl
    · omega
  | withdraw user' =>
    obtain ⟨old, hold⟩ := hpermits
    simp only [Move.claims, Move.withdrawals, Move.grantsTo, Move.pendingAfter, present_update]
    split_ifs with hsame
    · subst hsame
      rw [hold]
      rfl
    · omega
  | grant user' resource contract =>
    obtain ⟨old, hold, -⟩ := hpermits
    simp only [Move.claims, Move.withdrawals, Move.grantsTo, Move.pendingAfter, present_update]
    split_ifs with hsame
    · subst hsame
      rw [hold]
      rfl
    · omega

/-- A move grants a contract for a resource exactly when there is a new one. -/
theorem grants_of_next (h : (registry R).next s (a, m) = some t) (resource : ρ) :
    present (s.held resource) + m.grantsOf resource = present (t.held resource) := by
  obtain ⟨-, hpermits, -, hafter, -⟩ := next_eq_some_iff.mp h
  rw [hafter]
  cases m with
  | claim | revise | withdraw => simp [Move.grantsOf, Move.heldAfter]
  | grant user resource' contract =>
    obtain ⟨old, -, hfree, -⟩ := hpermits
    simp only [Move.grantsOf, Move.heldAfter, present_update]
    split_ifs with hsame
    · subst hsame
      rw [hfree]
      rfl
    · omega
  | amend resource' contract =>
    obtain ⟨old, hold, -⟩ := hpermits
    simp only [Move.grantsOf, Move.heldAfter, present_update]
    split_ifs with hsame
    · subst hsame
      rw [hold]
      rfl
    · omega

/-- What every move conserves is conserved by lists of moves. -/
theorem conserved_of_perform {f : Registry R → ℕ} {gain loss : Move υ ρ π χ → ℕ}
    (hmove : ∀ s t a m, (registry R).next s (a, m) = some t → f s + gain m = loss m + f t)
    {acts : List (α × Move υ ρ π χ)} (h : (registry R).perform s acts = some t) :
    f s + counted gain acts = counted loss acts + f t := by
  induction acts generalizing s with
  | nil =>
    obtain rfl : s = t := Option.some.inj h
    simp [counted]
  | cons act rest ih =>
    obtain ⟨u, hnext, hrest⟩ := System.perform_cons_eq_some.mp h
    have hfirst := hmove s u act.1 act.2 hnext
    have hlater := ih hrest
    rw [counted_cons, counted_cons]
    omega

/-- Every claim is withdrawn, granted or pending. -/
theorem claims_conserved {acts : List (α × Move υ ρ π χ)}
    (h : (registry R).perform s acts = some t) (user : υ) :
    present (s.pending user) + counted (Move.claims user) acts =
      counted (Move.withdrawals user) acts + counted (Move.grantsTo user) acts +
        present (t.pending user) := by
  have hconserved := conserved_of_perform (R := R) (f := fun s ↦ present (s.pending user))
    (fun _ _ _ _ hnext ↦ claims_of_next hnext user) h
  have hsplit : counted (fun m : Move υ ρ π χ ↦ m.withdrawals user + m.grantsTo user) acts =
      counted (Move.withdrawals user) acts + counted (Move.grantsTo user) acts :=
    List.sum_map_add
  rwa [hsplit] at hconserved

/-- A resource is under contract once it was granted, and is granted once. -/
theorem grants_conserved {acts : List (α × Move υ ρ π χ)}
    (h : (registry R).perform s acts = some t) (resource : ρ) :
    present (s.held resource) + counted (Move.grantsOf resource) acts =
      present (t.held resource) := by
  have hconserved := conserved_of_perform (f := fun s ↦ present (s.held resource))
    (fun _ _ _ _ hnext ↦ (grants_of_next hnext resource).trans (Nat.zero_add _).symm) h
  have hzero : counted (fun _ : Move υ ρ π χ ↦ 0) acts = 0 := by simp [counted]
  rwa [hzero, Nat.zero_add] at hconserved

/-- One if the user has a contract. -/
noncomputable def Registry.contracts (s : Registry R) (user : υ) : ℕ :=
  open Classical in
  if ∃ resource contract, s.held resource = some contract ∧ R.holder contract = user then 1 else 0

omit [DecidableEq υ] [DecidableEq ρ] in
theorem Registry.contracts_le_one (s : Registry R) (user : υ) : s.contracts user ≤ 1 := by
  unfold Registry.contracts
  split_ifs
  · exact Nat.le_refl 1
  · exact Nat.zero_le 1

omit [DecidableEq υ] [DecidableEq ρ] in
theorem Registry.contracts_pos_iff (s : Registry R) (user : υ) : 0 < s.contracts user ↔
    ∃ resource contract, s.held resource = some contract ∧ R.holder contract = user := by
  unfold Registry.contracts
  split_ifs with h
  · exact iff_of_true Nat.zero_lt_one h
  · exact iff_of_false (Nat.lt_irrefl 0) h

/-- A move grants a user a contract exactly when the user had none. -/
theorem contracts_of_next (h : (registry R).next s (a, m) = some t) (user : υ) :
    s.contracts user + m.grantsTo user = t.contracts user := by
  classical
  obtain ⟨-, hpermits, -, hheld, -⟩ := next_eq_some_iff.mp h
  have hkept : (∃ i k, s.held i = some k ∧ R.holder k = user) →
      ∃ i k, t.held i = some k ∧ R.holder k = user := by
    rintro ⟨i, k, hk, hholder⟩
    obtain ⟨later, hlater, hamends⟩ := held_of_next h hk
    exact ⟨i, later, hlater, (R.holder_of_amends hamends).trans hholder⟩
  have hnew : (∃ i k, t.held i = some k ∧ R.holder k = user) →
      (∃ i k, s.held i = some k ∧ R.holder k = user) ∨ ∃ i k, m = .grant user i k := by
    rintro ⟨i, k, hk, rfl⟩
    rw [hheld] at hk
    obtain ⟨old, hold, hholder⟩ | hgrant := Registry.held_before hpermits hk
    · exact .inl ⟨i, old, hold, hholder.symm⟩
    · exact .inr ⟨i, k, hgrant⟩
  unfold Registry.contracts
  cases m with
  | claim | revise | withdraw | amend =>
    have hiff : (∃ i k, s.held i = some k ∧ R.holder k = user) ↔
        ∃ i k, t.held i = some k ∧ R.holder k = user :=
      ⟨hkept, fun hlater ↦ (hnew hlater).resolve_right (by simp)⟩
    rw [if_congr hiff rfl rfl]
    rfl
  | grant user' resource contract =>
    obtain ⟨value, hpending, -, hholder, -⟩ := hpermits
    by_cases hsame : user' = user
    · subst hsame
      have hnone : ¬ ∃ i k, s.held i = some k ∧ R.holder k = user' := by
        rintro ⟨i, k, hk, hk'⟩
        exact s.holder_ne hpending i k hk hk'
      have hsome : ∃ i k, t.held i = some k ∧ R.holder k = user' :=
        ⟨resource, contract, by rw [hheld, Move.heldAfter, Function.update_self], hholder⟩
      rw [if_neg hnone, if_pos hsome, Move.grantsTo, if_pos rfl]
    · have hiff : (∃ i k, s.held i = some k ∧ R.holder k = user) ↔
          ∃ i k, t.held i = some k ∧ R.holder k = user := by
        refine ⟨hkept, fun hlater ↦ (hnew hlater).resolve_right ?_⟩
        rintro ⟨i, k, hgrant⟩
        exact hsame (Move.grant.inj hgrant).1
      rw [if_congr hiff rfl rfl, Move.grantsTo, if_neg hsame, Nat.add_zero]

/-- A user has a contract once one was granted, and is granted one once. -/
theorem contracts_conserved {acts : List (α × Move υ ρ π χ)}
    (h : (registry R).perform s acts = some t) (user : υ) :
    s.contracts user + counted (Move.grantsTo user) acts = t.contracts user := by
  have hconserved := conserved_of_perform (f := fun s ↦ s.contracts user)
    (fun _ _ _ _ hnext ↦ (contracts_of_next hnext user).trans (Nat.zero_add _).symm) h
  have hzero : counted (fun _ : Move υ ρ π χ ↦ 0) acts = 0 := by simp [counted]
  rwa [hzero, Nat.zero_add] at hconserved

/-- In a registry that began empty, a user has the contracts that were granted. -/
theorem contracts_of_perform {acts : List (α × Move υ ρ π χ)}
    (h : (registry R).perform .empty acts = some t) (user : υ) :
    counted (Move.grantsTo user) acts = t.contracts user := by
  have hnone : (Registry.empty : Registry R).contracts user = 0 := by
    refine Nat.eq_zero_of_not_pos fun hpos ↦ ?_
    obtain ⟨resource, contract, hheld, -⟩ := (Registry.contracts_pos_iff _ user).mp hpos
    cases hheld
  rw [← contracts_conserved h user, hnone, Nat.zero_add]

/-! ### Where contracts come from -/

/-- Every value of a claim goes back to a claim that was made, and every contract to a claim and a
later grant. -/
structure Traced (acts : List (α × Move υ ρ π χ)) (s : Registry R) : Prop where
  past : ∀ user, ∀ value ∈ s.past user, ∃ a first, (a, .claim user first) ∈ acts ∧
    R.may a (.claim user first) ∧ ReflTransGen R.revises first value
  held : ∀ resource contract, s.held resource = some contract →
    ∃ a b first value granted,
      [(a, .claim (R.holder contract) first),
          (b, .grant (R.holder contract) resource granted)].Sublist acts ∧
        R.may a (.claim (R.holder contract) first) ∧
        R.may b (.grant (R.holder contract) resource granted) ∧
        ReflTransGen R.revises first value ∧ R.grants value granted ∧
        ReflTransGen R.amends granted contract

omit [DecidableEq υ] [DecidableEq ρ] in
/-- A later registry with the same past and contracts is traced to the longer list. -/
theorem Traced.mono {acts more : List (α × Move υ ρ π χ)} (hs : Traced acts s)
    (hsub : acts.Sublist more) (hpast : t.past = s.past) (hheld : t.held = s.held) :
    Traced more t := by
  refine ⟨fun user value hvalue ↦ ?_, fun resource contract hcontract ↦ ?_⟩
  · rw [hpast] at hvalue
    obtain ⟨a, first, hmem, hrest⟩ := hs.past user value hvalue
    exact ⟨a, first, hsub.subset hmem, hrest⟩
  · rw [hheld] at hcontract
    obtain ⟨a, b, first, value, granted, hacts, hrest⟩ := hs.held resource contract hcontract
    exact ⟨a, b, first, value, granted, hacts.trans hsub, hrest⟩

omit [DecidableEq ρ] in
/-- A claim that gets a new value, which goes back to one that was made, stays traced. -/
theorem Traced.update {acts more : List (α × Move υ ρ π χ)} (hs : Traced acts s)
    (hsub : acts.Sublist more) {user : υ} {value : π}
    (hpast : t.past = Function.update s.past user (insert value (s.past user)))
    (hheld : t.held = s.held)
    (hvalue : ∃ a first, (a, .claim user first) ∈ more ∧ R.may a (.claim user first) ∧
      ReflTransGen R.revises first value) : Traced more t := by
  have hlonger : Traced more s := hs.mono hsub rfl rfl
  refine ⟨fun user' value' hmem ↦ ?_, hheld ▸ hlonger.held⟩
  rw [hpast, Function.update_apply] at hmem
  split_ifs at hmem with hsame
  · subst hsame
    obtain rfl | hold := hmem
    · exact hvalue
    · exact hlonger.past user' value' hold
  · exact hlonger.past user' value' hmem

/-- A move keeps contracts and claims traced. -/
theorem Traced.next {acts : List (α × Move υ ρ π χ)} (hs : Traced acts s)
    (h : (registry R).next s (a, m) = some t) : Traced (acts ++ [(a, m)]) t := by
  obtain ⟨hmay, hpermits, -, hheld, hpast⟩ := next_eq_some_iff.mp h
  have hsub : acts.Sublist (acts ++ [(a, m)]) := List.sublist_append_left _ _
  cases m with
  | claim user value =>
    refine hs.update hsub hpast hheld ⟨a, value, ?_, hmay, .refl⟩
    exact List.mem_append_right _ (List.mem_singleton_self _)
  | revise user value =>
    obtain ⟨old, hsource, hrevises⟩ := hpermits
    obtain ⟨b, first, hmem, hfirst, hlater⟩ := hs.past user old hsource.mem_past
    exact hs.update hsub hpast hheld ⟨b, first, hsub.subset hmem, hfirst, hlater.tail hrevises⟩
  | withdraw user => exact hs.mono hsub hpast hheld
  | grant user resource contract =>
    obtain ⟨value, hpending, -, rfl, hgrants⟩ := hpermits
    have hlonger : Traced (acts ++ [(a, .grant (R.holder contract) resource contract)]) s :=
      hs.mono hsub rfl rfl
    refine ⟨hpast ▸ hlonger.past, fun resource' contract' hcontract ↦ ?_⟩
    rw [hheld, Move.heldAfter, Function.update_apply] at hcontract
    split_ifs at hcontract with hsame
    · subst hsame
      obtain rfl := Option.some.inj hcontract
      obtain ⟨b, first, hmem, hfirst, hlater⟩ :=
        hs.past _ value (s.recorded _ value hpending)
      refine ⟨b, a, first, value, contract, ?_, hfirst, hmay, hlater, hgrants, .refl⟩
      exact (List.singleton_sublist.mpr hmem).append (List.Sublist.refl [_])
    · exact hlonger.held resource' contract' hcontract
  | amend resource contract =>
    obtain ⟨old, hold, hamends⟩ := hpermits
    have hlonger : Traced (acts ++ [(a, .amend resource contract)]) s := hs.mono hsub rfl rfl
    refine ⟨hpast ▸ hlonger.past, fun resource' contract' hcontract ↦ ?_⟩
    rw [hheld, Move.heldAfter, Function.update_apply] at hcontract
    split_ifs at hcontract with hsame
    · subst hsame
      obtain rfl := Option.some.inj hcontract
      rw [R.holder_amends _ _ hamends]
      obtain ⟨b, b', first, value, granted, hacts, hb, hb', hrevises, hgrants, hlater⟩ :=
        hlonger.held resource' old hold
      exact ⟨b, b', first, value, granted, hacts, hb, hb', hrevises, hgrants,
        hlater.tail hamends⟩
    · exact hlonger.held resource' contract' hcontract

theorem Traced.perform {acts more : List (α × Move υ ρ π χ)} (hs : Traced acts s)
    (h : (registry R).perform s more = some t) : Traced (acts ++ more) t := by
  induction more generalizing acts s with
  | nil =>
    obtain rfl : s = t := Option.some.inj h
    rwa [List.append_nil]
  | cons act rest ih =>
    obtain ⟨u, hnext, hrest⟩ := System.perform_cons_eq_some.mp h
    have hlater := ih (hs.next hnext) hrest
    rwa [List.append_assoc] at hlater

/-- In a registry that began empty, contracts and claims go back to the moves made. -/
theorem traced_of_perform {acts : List (α × Move υ ρ π χ)}
    (h : (registry R).perform .empty acts = some t) : Traced acts t := by
  have hempty : Traced ([] : List (α × Move υ ρ π χ)) (Registry.empty : Registry R) :=
    ⟨fun _ _ hvalue ↦ hvalue.elim, fun _ _ hcontract ↦ by cases hcontract⟩
  exact hempty.perform h

end Moves

end Foundation.ExclusiveRegistry
