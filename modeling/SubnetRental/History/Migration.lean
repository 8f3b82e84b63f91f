import SubnetRental.History.Booking
import SubnetRental.Cycles.Repricing

/-!
# The migration is one-shot

`post_upgrade` moves the agreement of the target subnet to App7CH when it finds it on App13CH, and
no version is stored. No other operation changes the condition of an agreement, so an agreement that
is on App7CH stays there (`OnApp7CH.step`), whatever is rewritten of it, and no later upgrade moves
it again: at most one `RentalConditionSwitched` event is recorded.
-/

set_option autoImplicit false
set_option relaxedAutoImplicit false

namespace SubnetRental.History

open Canister Lifecycle Cycles Foundation.KeyedLogs Foundation.GuardedCalls
open Foundation.MachineInteger Foundation.TransitionSystem Foundation.TreeMapTotals Std

/-! ### Counting events -/

/-- One for an event that records a changed condition. -/
def isSwitched : EventType → ℕ
  | .rentalConditionSwitched .. => 1
  | _ => 0

/-- The number of `RentalConditionSwitched` events in a log. -/
def switchedIn (log : KeyedLog (Option Principal) Event) : ℕ :=
  total (fun _ event ↦ isSwitched event.event) log.entries

/-- An entry that is appended adds itself, and may overwrite others. -/
theorem switchedIn_append_le (log : KeyedLog (Option Principal) Event) (key : Option Principal)
    (event : Event) :
    switchedIn (log.append 64 key event) ≤ switchedIn log + isSwitched event.event := by
  unfold switchedIn KeyedLog.append
  rw [total_insert_eq_erase, Nat.add_comm]
  refine Nat.add_le_add_right ?_ _
  cases hold : log.entries[(key, log.count key)]? with
  | none => rw [erase_eq_self hold]
  | some old => exact (Nat.le_add_right _ _).trans_eq (total_erase_add _ hold)

theorem switchedIn_appendAll_le (log : KeyedLog (Option Principal) Event)
    (entries : List (Option Principal × Event)) :
    switchedIn (log.appendAll 64 entries) ≤
      switchedIn log + ((bookedOf entries).map fun entry ↦ isSwitched entry.2).sum := by
  induction entries generalizing log with
  | nil => exact Nat.le_add_right _ _
  | cons entry rest ih =>
    rw [KeyedLog.appendAll_cons]
    refine (ih _).trans ?_
    have hfirst := switchedIn_append_le log entry.1 entry.2
    have hsum : ((bookedOf (entry :: rest)).map fun entry ↦ isSwitched entry.2).sum =
        isSwitched entry.2.event + ((bookedOf rest).map fun entry ↦ isSwitched entry.2).sum := by
      unfold bookedOf
      rw [List.filter_cons]
      split_ifs with hbooked
      · simp
      · have hzero : isSwitched entry.2.event = 0 := by
          cases hevent : entry.2.event <;> simp_all [isBooked, isSwitched]
        rw [hzero, Nat.zero_add]
    omega

theorem Logs.switchedIn_le {s s' : State} {events : List (Option Principal × EventType)}
    (h : Logs s s' events) :
    switchedIn (log s') ≤ switchedIn (log s) + (events.map fun entry ↦ isSwitched entry.2).sum := by
  obtain ⟨entries, hlog, rfl⟩ := h
  rw [hlog]
  exact switchedIn_appendAll_le _ _

/-! ### The moved agreement -/

/-- The agreement of the target subnet is on App7CH. -/
def OnApp7CH (s : State) : Prop :=
  ∃ a, s.rentalAgreements[targetSubnet]? = some a ∧ a.rentalConditionId = .app7CH

/-- Once on App7CH the agreement stays there, and nothing more is recorded. -/
theorem OnApp7CH.of_books {s s' : State} (h : OnApp7CH s) (hbooks : Books s s') :
    OnApp7CH s' ∧ switchedIn (log s') ≤ switchedIn (log s) := by
  obtain ⟨a, hstored, hcondition⟩ := h
  obtain ⟨events, hlogs, hbooked⟩ := hbooks
  have hle := hlogs.switchedIn_le
  cases hbooked with
  | nothing hrequests hagreements =>
    refine ⟨?_, hle⟩
    have hterms := hagreements targetSubnet
    rw [hstored] at hterms
    obtain ⟨b, hb, hsame⟩ := Option.map_eq_some_iff.mp hterms
    exact ⟨b, hb, (congrArg Terms.rentalConditionId hsame).trans hcondition⟩
  | opened r hnone hrequests hagreements => exact ⟨⟨a, hagreements ▸ hstored, hcondition⟩, hle⟩
  | cancelled user r hr hrequests hagreements =>
    exact ⟨⟨a, hagreements ▸ hstored, hcondition⟩, hle⟩
  | granted b r hr hfree hpaid hrequests hagreements =>
    refine ⟨⟨a, ?_, hcondition⟩, hle⟩
    have hne : b.subnetId ≠ targetSubnet := by
      rintro heq
      rw [heq, hstored] at hfree
      cases hfree
    rw [hagreements, getElem?_insert_ite, if_neg hne, hstored]
  | toppedUp i user icp cycles days old new hold hterms hrequests hagreements =>
    refine ⟨?_, hle⟩
    unfold OnApp7CH
    rw [hagreements, getElem?_insert_ite]
    split_ifs with hi
    · subst hi
      obtain rfl : a = old := Option.some.inj (hstored.symm.trans hold)
      exact ⟨new, rfl, (congrArg Terms.rentalConditionId hterms).trans hcondition⟩
    · exact ⟨a, hstored, hcondition⟩
  | switched b hb hother hrequests hagreements =>
    obtain rfl : a = b := Option.some.inj (hstored.symm.trans hb)
    exact absurd (hcondition.symm.trans hother) (by decide)

/-- A step that records a changed condition leaves the agreement on App7CH. -/
theorem onApp7CH_of_recorded {s s' : State} (hbooks : Books s s')
    (hmore : switchedIn (log s) < switchedIn (log s')) :
    OnApp7CH s' ∧ ¬ OnApp7CH s ∧ switchedIn (log s') ≤ switchedIn (log s) + 1 := by
  have hnot : ¬ OnApp7CH s := fun h ↦ absurd (h.of_books hbooks).2 (Nat.not_le.mpr hmore)
  obtain ⟨events, hlogs, hbooked⟩ := hbooks
  have hle := hlogs.switchedIn_le
  cases hbooked with
  | switched a hstored hcondition hrequests hagreements =>
    refine ⟨⟨repricedAgreement s.now a, ?_, rfl⟩, hnot, hle⟩
    rw [hagreements]
    exact ExtTreeMap.getElem?_insert_self
  | nothing | opened | cancelled | granted | toppedUp => exact absurd hle (Nat.not_le.mpr hmore)

/-- At most one changed condition is recorded, and then the agreement is on App7CH. -/
def OneShot (s : State) : Prop :=
  switchedIn (log s) ≤ 1 ∧ (0 < switchedIn (log s) → OnApp7CH s)

theorem OneShot.of_books {s s' : State} (h : OneShot s) (hbooks : Books s s') : OneShot s' := by
  obtain ⟨hone, hmoved⟩ := h
  by_cases hmore : switchedIn (log s) < switchedIn (log s')
  · obtain ⟨hon, hnot, hle⟩ := onApp7CH_of_recorded hbooks hmore
    have hzero : switchedIn (log s) = 0 := by
      by_contra hne
      exact hnot (hmoved (Nat.pos_of_ne_zero hne))
    exact ⟨by omega, fun _ ↦ hon⟩
  · exact ⟨by omega, fun hpos ↦ ((hmoved (by omega)).of_books hbooks).1⟩

/-! ### Runs -/

theorem oneShot_install (cycles now reserve : ℕ) : OneShot (install cycles now reserve) := by
  obtain ⟨s₀, hblank, hlogs⟩ := logs_install cycles now reserve
  have hzero : switchedIn (log s₀) = 0 := by
    unfold switchedIn log
    rw [hblank.history]
    exact total_empty _
  have hle := hlogs.switchedIn_le
  rw [hzero, List.map_nil, List.sum_nil] at hle
  exact ⟨by omega, fun hpos ↦ by omega⟩

theorem oneShot_of_reachable {cycles : ℕ} {c : Configuration} (h : (system cycles).Reachable c) :
    OneShot c.state.canister := by
  refine h.induct (J := fun c ↦ OneShot c.state.canister) ?_ ?_
  · rintro c ⟨⟨now, reserve, -, hinstall⟩, -⟩
    rw [hinstall]
    exact oneShot_install cycles now reserve
  · intro c c' a hc hone _ hnext
    exact hone.of_books (books_of_next hc hnext)

/-- Over a run, an agreement on App7CH stays there, and nothing more is recorded. -/
theorem onApp7CH_of_run {cycles : ℕ} {c c' : Configuration} (h : (system cycles).Reachable c)
    (hon : OnApp7CH c.state.canister) (hrun : (system cycles).Run c c') :
    OnApp7CH c'.state.canister ∧
      switchedIn (log c'.state.canister) ≤ switchedIn (log c.state.canister) := by
  refine hrun.induct (J := fun u ↦ OnApp7CH u.state.canister ∧
    switchedIn (log u.state.canister) ≤ switchedIn (log c.state.canister)) ⟨hon, le_rfl⟩ ?_
  rintro u v a hu ⟨hon, hle⟩ - hnext
  obtain ⟨hon', hle'⟩ := hon.of_books (books_of_next (h.append hu) hnext)
  exact ⟨hon', hle'.trans hle⟩

/-- What no upgrade changes: the requests, the agreements of other subnets, and everything but the
condition and the deadline of the agreement of the target subnet. -/
structure MovesOnly (s s' : State) : Prop where
  rentalRequests : s'.rentalRequests = s.rentalRequests
  others : ∀ i : Principal, i ≠ targetSubnet → s'.rentalAgreements[i]? = s.rentalAgreements[i]?
  target : ∀ a, s.rentalAgreements[targetSubnet]? = some a → ∃ rentalConditionId paidUntilNanos,
    s'.rentalAgreements[targetSubnet]? = some { a with rentalConditionId, paidUntilNanos }
  absent : s.rentalAgreements[targetSubnet]? = none → s'.rentalAgreements[targetSubnet]? = none

theorem movesOnly_postUpgrade (s : State) : MovesOnly s (postUpgrade s) := by
  have hupgraded := upgraded_postUpgrade s
  obtain hsame | ⟨a, hstored, -, hmoved⟩ := hupgraded.agreements
  · refine ⟨hupgraded.rentalRequests, fun i _ ↦ by rw [hsame], fun b hb ↦ ?_, fun hnone ↦ ?_⟩
    · exact ⟨b.rentalConditionId, b.paidUntilNanos, hsame ▸ hb⟩
    · rw [hsame, hnone]
  · refine ⟨hupgraded.rentalRequests, fun i hi ↦ ?_, fun b hb ↦ ?_, fun hnone ↦ ?_⟩
    · rw [hmoved, getElem?_insert_ite, if_neg hi.symm]
    · obtain rfl : a = b := Option.some.inj (hstored.symm.trans hb)
      exact ⟨.app7CH, (repricedAgreement s.now a).paidUntilNanos,
        hmoved ▸ ExtTreeMap.getElem?_insert_self⟩
    · exact absurd (hnone.symm.trans hstored) (by simp)

/-- In every run at most one changed condition is recorded, and once the agreement of the target
subnet is on App7CH it stays there, nothing more is recorded and no upgrade changes an agreement.
Every upgrade leaves the requests, the other agreements and the other fields of that agreement. -/
theorem migration_one_shot {cycles : ℕ} {c : Configuration} (h : (system cycles).Reachable c) :
    switchedIn (log c.state.canister) ≤ 1 ∧
      (0 < switchedIn (log c.state.canister) → OnApp7CH c.state.canister) ∧
      (OnApp7CH c.state.canister → ∀ c', (system cycles).Run c c' →
        OnApp7CH c'.state.canister ∧
          switchedIn (log c'.state.canister) ≤ switchedIn (log c.state.canister) ∧
          (postUpgrade c'.state.canister).rentalAgreements = c'.state.canister.rentalAgreements) ∧
      MovesOnly c.state.canister (postUpgrade c.state.canister) := by
  obtain ⟨hone, hmoved⟩ := oneShot_of_reachable h
  refine ⟨hone, hmoved, fun hon c' hrun ↦ ?_, movesOnly_postUpgrade _⟩
  obtain ⟨hon', hle⟩ := onApp7CH_of_run h hon hrun
  refine ⟨hon', hle, ?_⟩
  obtain ⟨a, hstored, hcondition⟩ := hon'
  obtain ⟨-, heq⟩ | ⟨b, hb, hother, -⟩ := postUpgrade_cases c'.state.canister
  · rw [heq]
    rfl
  · obtain rfl : a = b := Option.some.inj (hstored.symm.trans hb)
    exact absurd (hcondition.symm.trans hother) (by decide)

/-- The target subnet is rented, and the canister is upgraded twice. -/
def upgradedTwice : List Label :=
  targetRun (14 * 10 ^ 16) ++ [.environment .upgrade, .environment .upgrade]

def upgradedConfiguration : Configuration :=
  ((system (10 ^ 12)).perform (idle (installedWorld (10 ^ 12) fun _ ↦ 10 ^ 13))
    upgradedTwice).get (by decide +kernel)

theorem reachable_upgradedConfiguration : (system (10 ^ 12)).Reachable upgradedConfiguration :=
  System.reachable_get_perform (init_idle _ _) _

theorem migration_one_shot_upgradedTwice :
    switchedIn (log upgradedConfiguration.state.canister) = 1 ∧
      OnApp7CH upgradedConfiguration.state.canister := by
  have hswitched : switchedIn (log upgradedConfiguration.state.canister) = 1 := by
    decide +kernel
  refine ⟨hswitched, ?_⟩
  exact (migration_one_shot reachable_upgradedConfiguration).2.1 (hswitched.symm ▸ Nat.one_pos)

end SubnetRental.History
