import SubnetRental.Lifecycle.Exclusivity

/-!
# Guards are locks

`CallerGuard` inserts a pair into the lock set when it is created and removes it when it is dropped.
The code of the canister creates and drops guards in many places; `Frame.guards` says which are
alive at an await. `locks_owned` shows, for every interleaving of all operations, with replies,
errors and traps in every segment, that the lock set between segments is exactly what the suspended
calls own, each pair by one of them, and that no step takes a pair away from a call it does not
resume.
-/

set_option autoImplicit false
set_option relaxedAutoImplicit false

namespace SubnetRental.Lifecycle

open Canister Foundation.GuardedCalls Foundation.TransitionSystem Std

/-- The lock set is the guards of the suspended calls. -/
structure LocksOwned (c : Configuration) : Prop where
  /-- A pair is locked exactly when one suspended call owns a guard for it. -/
  held_iff : ∀ lock, lock ∈ c.state.canister.locks ↔
    ∃! id : ℕ, ∃ call, c.calls[id]? = some call ∧ lock ∈ call.frame.guards
  owner_unique : ∀ (i j : ℕ) a b lock, c.calls[i]? = some a → c.calls[j]? = some b →
    lock ∈ a.frame.guards → lock ∈ b.frame.guards → i = j
  /-- A new guard is created exactly when no suspended call owns one for the pair. -/
  acquired_iff : ∀ lock, (c.state.canister.callerGuard lock).isSome ↔
    ∀ (id : ℕ) call, c.calls[id]? = some call → lock ∉ call.frame.guards
  /-- Whatever a step does, failed acquisitions and traps included, the calls it does not act on
  keep their guards. -/
  kept : ∀ a c' (id : ℕ) call, service.next c a = some c' → c.calls[id]? = some call →
    a.target ≠ some id →
    c'.calls[id]? = some call ∧ call.frame.guards ⊆ c'.state.canister.locks
  idle : c.calls = ∅ → c.state.canister.locks = ∅

theorem callerGuard_isSome_iff {s : State} {lock : Lock} :
    (s.callerGuard lock).isSome ↔ lock ∉ s.locks := by
  unfold State.callerGuard
  split_ifs with hheld
  · exact iff_of_false Bool.false_ne_true (not_not_intro hheld)
  · exact iff_of_true rfl hheld

/-- In every interleaving of all operations the guards are real locks and none is left behind. -/
theorem locks_owned {cycles : ℕ} {c : Configuration} (h : (system cycles).Reachable c) :
    LocksOwned c := by
  have hsound := sound_of_reachable h
  refine ⟨hsound.held_iff_existsUnique, ?_, fun lock ↦ ?_, ?_, hsound.held_of_idle⟩
  · intro i j a b lock hi hj ha hb
    exact hsound.eq_of_guards hi hj ha hb
  · rw [callerGuard_isSome_iff]
    have hheld := hsound.held_iff lock
    constructor
    · intro hfree id call hcall hlock
      exact hfree (hheld.mpr ⟨id, call, hcall, hlock⟩)
    · intro hnone hlocked
      obtain ⟨id, call, hcall, hlock⟩ := hheld.mp hlocked
      exact hnone id call hcall hlock
  · intro a c' id call hnext hcall htarget
    exact hsound.kept_of_step rental_lawful (Service.step_of_next hnext) hcall htarget

/-- A top-up of the rented subnet that waits for the ledger. -/
def toppingUpConfiguration : Configuration :=
  ((system (10 ^ 12)).perform (idle (installedWorld (10 ^ 12) fun _ ↦ 10 ^ 13))
    (rentalRun ++ [.start (.topUpSubnet aliceCreation.subnetId)])).get (by decide +kernel)

theorem reachable_toppingUpConfiguration :
    (system (10 ^ 12)).Reachable toppingUpConfiguration :=
  System.reachable_get_perform (init_idle _ _) _

theorem locks_owned_toppingUp :
    agreementLock aliceCreation.subnetId ∈ toppingUpConfiguration.state.canister.locks ∧
      LocksOwned toppingUpConfiguration :=
  ⟨by decide +kernel, locks_owned reachable_toppingUpConfiguration⟩

end SubnetRental.Lifecycle
