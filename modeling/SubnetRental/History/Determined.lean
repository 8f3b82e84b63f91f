import SubnetRental.History.Migration

/-!
# The history determines the state

A user has an open request exactly when the history has one request of the user more that was
created than were cancelled or turned into agreements, and the agreement of a subnet has the
deadline and the condition of the last event under the subnet that sets them. `Determined` says so
for a state, and every step keeps it because it makes exactly the changes that it books
(`Determined.of_books`), as long as no counter wraps.
-/

set_option autoImplicit false
set_option relaxedAutoImplicit false

namespace SubnetRental.History

open Canister Lifecycle Foundation.KeyedLogs Foundation.GuardedCalls Foundation.MachineInteger
open Foundation.TransitionSystem Foundation.TreeMapTotals Std

/-! ### Counting and selecting events -/

/-- The number of events in a log that satisfy a property of the key and the event. -/
def tally (p : Option Principal → EventType → Bool) (log : KeyedLog (Option Principal) Event) : ℕ :=
  total (fun key event ↦ if p key.1 event.event then 1 else 0) log.entries

theorem tally_append (p : Option Principal → EventType → Bool)
    {log : KeyedLog (Option Principal) Event} (h : log.Numbered) (key : Option Principal)
    (event : Event) :
    tally p (log.append 64 key event) = tally p log + if p key event.event then 1 else 0 :=
  total_insert_of_none _ event (h.fresh key)

/-- What is selected from the events of a key, in order. -/
def selected {β : Type*} (select : EventType → Option β) (key : Option Principal)
    (log : KeyedLog (Option Principal) Event) : List β :=
  (log.under key).filterMap fun event ↦ select event.event

section Logged

variable {s s' : State} {events : List (Option Principal × EventType)}

/-- A segment adds to a count of booked events what it books. -/
theorem Logs.tally_eq (h : Logs s s' events) (hnumbered : (log s).Numbered)
    (hunwrapped : (log s').Unwrapped 64) {p : Option Principal → EventType → Bool}
    (hp : ∀ key event, p key event → isBooked event) :
    tally p (log s') = tally p (log s) + events.countP fun entry ↦ p entry.1 entry.2 := by
  obtain ⟨entries, hlog, rfl⟩ := h
  rw [hlog] at hunwrapped ⊢
  generalize log s = before at hnumbered hunwrapped ⊢
  clear hlog
  induction entries generalizing before with
  | nil => rfl
  | cons entry rest ih =>
    rw [KeyedLog.appendAll_cons] at hunwrapped ⊢
    rw [ih _ (hnumbered.append hunwrapped.of_appendAll) hunwrapped, tally_append p hnumbered]
    unfold bookedOf
    rw [List.filter_cons]
    by_cases hbooked : isBooked entry.2.event
    · rw [if_pos hbooked, List.map_cons, List.countP_cons]
      dsimp only
      omega
    · have hnot : ¬ p entry.1 entry.2.event := fun hevent ↦ hbooked (hp _ _ hevent)
      rw [if_neg hbooked, if_neg hnot, Nat.add_zero]

/-- A segment appends to what is selected from the events of a key what it books under the key. -/
theorem Logs.selected_eq {β : Type*} (h : Logs s s' events) (hnumbered : (log s).Numbered)
    (hunwrapped : (log s').Unwrapped 64) {select : EventType → Option β}
    (hselect : ∀ event, (select event).isSome → isBooked event) (key : Option Principal) :
    selected select key (log s') = selected select key (log s) ++
      (events.filter fun entry ↦ entry.1 = key).filterMap fun entry ↦ select entry.2 := by
  obtain ⟨entries, hlog, rfl⟩ := h
  rw [hlog] at hunwrapped ⊢
  unfold selected
  rw [KeyedLog.under_appendAll hnumbered hunwrapped, List.filterMap_append]
  congr 1
  unfold bookedOf
  clear hlog hunwrapped
  induction entries with
  | nil => rfl
  | cons entry rest ih =>
    rw [List.filter_cons, List.filter_cons]
    by_cases hbooked : isBooked entry.2.event
    · rw [if_pos hbooked, List.map_cons, List.filter_cons]
      by_cases hkey : entry.1 = key
      · simp only [hkey, decide_true, if_true, List.map_cons, List.filterMap_cons, ih]
      · simp only [hkey, decide_false, if_false, Bool.false_eq_true, ih]
    · have hnone : select entry.2.event = none := by
        rw [← Option.not_isSome_iff_eq_none]
        exact fun hsome ↦ hbooked (hselect _ hsome)
      rw [if_neg hbooked, ← ih]
      split_ifs with hkey
      · exact List.filterMap_cons_none hnone
      · rfl

theorem Logs.numbered (h : Logs s s' events) (hnumbered : (log s).Numbered)
    (hunwrapped : (log s').Unwrapped 64) : (log s').Numbered := by
  obtain ⟨entries, hlog, -⟩ := h
  rw [hlog] at hunwrapped ⊢
  exact hnumbered.appendAll hunwrapped

theorem Logs.unwrapped (h : Logs s s' events) (hunwrapped : (log s').Unwrapped 64) :
    (log s).Unwrapped 64 := by
  obtain ⟨entries, hlog, -⟩ := h
  rw [hlog] at hunwrapped
  exact hunwrapped.of_appendAll

end Logged

/-! ### The counted and selected events -/

/-- `RentalRequestCreated` under a user. -/
def createsRequestOf (user : Principal) : Option Principal → EventType → Bool
  | key, .rentalRequestCreated _ => key = some user
  | _, _ => false

/-- `RentalRequestCancelled` under a user. -/
def cancelsRequestOf (user : Principal) : Option Principal → EventType → Bool
  | key, .rentalRequestCancelled _ => key = some user
  | _, _ => false

/-- `RentalAgreementCreated` that names a user, under any subnet. -/
def namesUser (user : Principal) : Option Principal → EventType → Bool
  | _, .rentalAgreementCreated named _ _ _ => named = user
  | _, _ => false

/-- `RentalAgreementCreated` under a subnet. -/
def createsAgreementOf (subnetId : Principal) : Option Principal → EventType → Bool
  | key, .rentalAgreementCreated .. => key = some subnetId
  | _, _ => false

/-- The deadline that an event sets: a top-up or a changed condition. -/
def newPaidUntilNanos : EventType → Option ℕ
  | .subnetTopUp _ _ _ _ paidUntilNanos => some paidUntilNanos
  | .rentalConditionSwitched _ _ _ _ _ paidUntilNanos => some paidUntilNanos
  | _ => none

/-- The condition that an agreement is moved to. -/
def newConditionId : EventType → Option RentalConditionId
  | .rentalConditionSwitched _ _ conditionId _ _ _ => some conditionId
  | _ => none

/-- The condition of a created agreement. -/
def createdConditionId : EventType → Option RentalConditionId
  | .rentalAgreementCreated _ _ _ conditionId => some conditionId
  | _ => none

/-- The latest of the values that the events under a subnet set. -/
def latest {β : Type*} (select : EventType → Option β) (subnetId : Principal) (s : State) :
    Option β :=
  (selected select (some subnetId) (log s)).getLast?

/-- The deadline of an agreement when it is created, in the arithmetic of the canister. -/
def initialDeadline (creationTimeNanos : ℕ) (rentalConditionId : RentalConditionId) : ℕ :=
  wrappingAdd 64 creationTimeNanos
    (initialRentalPeriodNanos (standardConditions rentalConditionId))

/-! ### Determined states -/

/-- What the history of a subnet says of its agreement. -/
def Told (s : State) (subnetId : Principal) : Option Terms → Prop
  | none =>
    tally (createsAgreementOf subnetId) (log s) = 0 ∧
      selected newPaidUntilNanos (some subnetId) (log s) = [] ∧
      selected newConditionId (some subnetId) (log s) = []
  | some t =>
    tally (createsAgreementOf subnetId) (log s) = 1 ∧
      t.paidUntilNanos = (latest newPaidUntilNanos subnetId s).getD
        (initialDeadline t.creationTimeNanos t.rentalConditionId) ∧
      some t.rentalConditionId =
        (latest newConditionId subnetId s).or (latest createdConditionId subnetId s)

/-- The history determines which requests are open and the terms of the agreements. -/
structure Determined (s : State) : Prop where
  numbered : (log s).Numbered
  requests : ∀ u : Principal, tally (createsRequestOf u) (log s) =
    tally (cancelsRequestOf u) (log s) + tally (namesUser u) (log s) +
      if (s.rentalRequests[u]?).isSome then 1 else 0
  told : ∀ i : Principal, Told s i ((s.rentalAgreements[i]?).map terms)

section Booking

variable {s s' : State} {events : List (Option Principal × EventType)}

theorem createsRequestOf_booked (u : Principal) (key : Option Principal) (event : EventType)
    (h : createsRequestOf u key event) : isBooked event := by
  cases event <;> first | rfl | cases h

theorem cancelsRequestOf_booked (u : Principal) (key : Option Principal) (event : EventType)
    (h : cancelsRequestOf u key event) : isBooked event := by
  cases event <;> first | rfl | cases h

theorem namesUser_booked (u : Principal) (key : Option Principal) (event : EventType)
    (h : namesUser u key event) : isBooked event := by
  cases event <;> first | rfl | cases h

theorem createsAgreementOf_booked (i : Principal) (key : Option Principal) (event : EventType)
    (h : createsAgreementOf i key event) : isBooked event := by
  cases event <;> first | rfl | cases h

theorem newPaidUntilNanos_booked (event : EventType) (h : (newPaidUntilNanos event).isSome) :
    isBooked event := by
  cases event <;> first | rfl | cases h

theorem newConditionId_booked (event : EventType) (h : (newConditionId event).isSome) :
    isBooked event := by
  cases event <;> first | rfl | cases h

theorem createdConditionId_booked (event : EventType) (h : (createdConditionId event).isSome) :
    isBooked event := by
  cases event <;> first | rfl | cases h

/-- The open requests of a user, counted by the booked events, after a step. -/
theorem Determined.requests_of_booked (h : Determined s) (hlogs : Logs s s' events)
    (hunwrapped : (log s').Unwrapped 64) (hbooked : Booked s s' events) (u : Principal) :
    tally (createsRequestOf u) (log s') =
      tally (cancelsRequestOf u) (log s') + tally (namesUser u) (log s') +
        if (s'.rentalRequests[u]?).isSome then 1 else 0 := by
  have hbefore := h.requests u
  have hcreated := hlogs.tally_eq h.numbered hunwrapped (createsRequestOf_booked u)
  have hcancelled := hlogs.tally_eq h.numbered hunwrapped (cancelsRequestOf_booked u)
  have hnamed := hlogs.tally_eq h.numbered hunwrapped (namesUser_booked u)
  rw [hcreated, hcancelled, hnamed]
  clear hcreated hcancelled hnamed
  cases hbooked with
  | nothing hrequests hagreements =>
    rw [hrequests u]
    exact hbefore
  | opened r hnone hrequests hagreements =>
    simp only [List.countP_singleton, createsRequestOf, cancelsRequestOf, namesUser, hrequests,
      getElem?_insert_ite, Option.some.injEq, decide_eq_true_eq, Bool.false_eq_true, if_false]
    by_cases hu : r.user = u
    · subst hu
      rw [hnone] at hbefore
      simp only [if_true, Option.isSome_some, Option.isSome_none, Bool.false_eq_true, if_false]
        at hbefore ⊢
      omega
    · simp only [if_neg hu]
      omega
  | cancelled user r hstored hrequests hagreements =>
    simp only [List.countP_singleton, createsRequestOf, cancelsRequestOf, namesUser, hrequests,
      getElem?_erase_ite, Option.some.injEq, decide_eq_true_eq, Bool.false_eq_true, if_false]
    by_cases hu : user = u
    · subst hu
      rw [hstored] at hbefore
      simp only [if_true, Option.isSome_some, Option.isSome_none, Bool.false_eq_true, if_false]
        at hbefore ⊢
      omega
    · simp only [if_neg hu]
      omega
  | granted a r hstored hfree hpaid hrequests hagreements =>
    simp only [List.countP_singleton, createsRequestOf, cancelsRequestOf, namesUser, hrequests,
      getElem?_erase_ite, decide_eq_true_eq, Bool.false_eq_true, if_false]
    by_cases hu : a.user = u
    · subst hu
      rw [hstored] at hbefore
      simp only [if_true, Option.isSome_some, Option.isSome_none, Bool.false_eq_true, if_false]
        at hbefore ⊢
      omega
    · simp only [if_neg hu]
      omega
  | toppedUp i user icp cycles days old new hstored hterms hrequests hagreements =>
    simp only [List.countP_singleton, createsRequestOf, cancelsRequestOf, namesUser, hrequests,
      Bool.false_eq_true, if_false]
    exact hbefore
  | switched a hstored hcondition hrequests hagreements =>
    simp only [List.countP_singleton, createsRequestOf, cancelsRequestOf, namesUser, hrequests,
      Bool.false_eq_true, if_false]
    exact hbefore

/-- What the history says of a subnet depends on four readings of it. -/
theorem Told.congr {i : Principal} {t : Option Terms} (h : Told s i t)
    (hcount : tally (createsAgreementOf i) (log s') = tally (createsAgreementOf i) (log s))
    (hpaid : selected newPaidUntilNanos (some i) (log s') =
      selected newPaidUntilNanos (some i) (log s))
    (hnew : selected newConditionId (some i) (log s') = selected newConditionId (some i) (log s))
    (hcreated : selected createdConditionId (some i) (log s') =
      selected createdConditionId (some i) (log s)) : Told s' i t := by
  cases t with
  | none => exact ⟨hcount.trans h.1, hpaid.trans h.2.1, hnew.trans h.2.2⟩
  | some t =>
    unfold Told latest at h ⊢
    rwa [hcount, hpaid, hnew, hcreated]

/-- An event under another key, or that sets none of the terms, changes nothing of it. -/
theorem Told.of_other {i : Principal} {t : Option Terms} {key : Option Principal}
    {event : EventType} (h : Told s i t) (hlogs : Logs s s' [(key, event)])
    (hnumbered : (log s).Numbered) (hunwrapped : (log s').Unwrapped 64)
    (hother : key = some i → newPaidUntilNanos event = none ∧ newConditionId event = none ∧
      createdConditionId event = none) : Told s' i t := by
  have hselected {β : Type} {select : EventType → Option β}
      (hselect : ∀ event, (select event).isSome → isBooked event)
      (hnone : key = some i → select event = none) :
      selected select (some i) (log s') = selected select (some i) (log s) := by
    rw [hlogs.selected_eq hnumbered hunwrapped hselect, List.filter_singleton]
    by_cases hkey : key = some i
    · simp [hkey, hnone hkey]
    · simp [hkey]
  have hcount : tally (createsAgreementOf i) (log s') = tally (createsAgreementOf i) (log s) := by
    have hnot : ¬ createsAgreementOf i key event := by
      intro hcreates
      cases event <;> try cases hcreates
      case rentalAgreementCreated =>
        exact Option.some_ne_none _ (hother (of_decide_eq_true hcreates)).2.2
    rw [hlogs.tally_eq hnumbered hunwrapped (createsAgreementOf_booked i), List.countP_singleton,
      if_neg hnot, Nat.add_zero]
  exact h.congr hcount (hselected newPaidUntilNanos_booked fun hkey ↦ (hother hkey).1)
    (hselected newConditionId_booked fun hkey ↦ (hother hkey).2.1)
    (hselected createdConditionId_booked fun hkey ↦ (hother hkey).2.2)

/-- What the history of a subnet says of its agreement, after a step. -/
theorem Determined.told_of_booked (h : Determined s) (hlogs : Logs s s' events)
    (hunwrapped : (log s').Unwrapped 64) (hbooked : Booked s s' events) (i : Principal) :
    Told s' i ((s'.rentalAgreements[i]?).map terms) := by
  have hbefore := h.told i
  have hcount := hlogs.tally_eq h.numbered hunwrapped (createsAgreementOf_booked i)
  have hpaid := hlogs.selected_eq h.numbered hunwrapped newPaidUntilNanos_booked (some i)
  have hnew := hlogs.selected_eq h.numbered hunwrapped newConditionId_booked (some i)
  have hcreated := hlogs.selected_eq h.numbered hunwrapped createdConditionId_booked (some i)
  cases hbooked with
  | nothing hrequests hagreements =>
    rw [hagreements i]
    refine hbefore.congr hcount (hpaid.trans ?_) (hnew.trans ?_) (hcreated.trans ?_) <;>
      exact List.append_nil _
  | opened r hnone hrequests hagreements =>
    rw [hagreements]
    exact hbefore.of_other hlogs h.numbered hunwrapped fun _ ↦ ⟨rfl, rfl, rfl⟩
  | cancelled user r hstored hrequests hagreements =>
    rw [hagreements]
    exact hbefore.of_other hlogs h.numbered hunwrapped fun _ ↦ ⟨rfl, rfl, rfl⟩
  | granted a r hstored hfree hpaidUntil hrequests hagreements =>
    rw [hagreements, getElem?_insert_ite]
    by_cases hi : a.subnetId = i
    · subst hi
      rw [hfree] at hbefore
      obtain ⟨hzero, hnopaid, hnonew⟩ := hbefore
      rw [List.countP_singleton, hzero] at hcount
      rw [List.filter_singleton] at hpaid hnew hcreated
      simp only [decide_true, cond_true] at hpaid hnew hcreated
      rw [hnopaid] at hpaid
      rw [hnonew] at hnew
      rw [if_pos rfl]
      refine ⟨?_, ?_, ?_⟩
      · rw [hcount]
        simp [createsAgreementOf]
      · unfold latest
        rw [hpaid]
        exact hpaidUntil
      · unfold latest
        rw [hnew, hcreated]
        simp [newConditionId, createdConditionId, terms]
    · rw [if_neg hi]
      exact hbefore.of_other hlogs h.numbered hunwrapped fun hkey ↦ absurd (Option.some.inj hkey) hi
  | toppedUp subnetId user icp cycles days old new hstored hterms hrequests hagreements =>
    rw [hagreements, getElem?_insert_ite]
    by_cases hi : subnetId = i
    · subst hi
      rw [hstored] at hbefore
      obtain ⟨hone, -, hcondition⟩ := hbefore
      rw [List.filter_singleton] at hpaid hnew hcreated
      simp only [decide_true, cond_true] at hpaid hnew hcreated
      rw [if_pos rfl]
      refine ⟨hcount.trans hone, ?_, ?_⟩
      · unfold latest
        rw [hpaid]
        simp [newPaidUntilNanos, terms]
      · unfold latest at hcondition ⊢
        rw [hnew, hcreated]
        simp only [newConditionId, createdConditionId, List.filterMap_cons_none, List.filterMap_nil,
          List.append_nil, ← hcondition]
        exact congrArg (fun t ↦ some t.rentalConditionId) hterms
    · rw [if_neg hi]
      exact hbefore.of_other hlogs h.numbered hunwrapped fun hkey ↦ absurd (Option.some.inj hkey) hi
  | switched a hstored hcondition hrequests hagreements =>
    rw [hagreements, getElem?_insert_ite]
    by_cases hi : targetSubnet = i
    · subst hi
      rw [hstored] at hbefore
      obtain ⟨hone, -, -⟩ := hbefore
      rw [List.filter_singleton] at hpaid hnew
      simp only [decide_true, cond_true] at hpaid hnew
      rw [if_pos rfl]
      refine ⟨hcount.trans hone, ?_, ?_⟩
      · unfold latest
        rw [hpaid]
        simp [newPaidUntilNanos, terms]
      · unfold latest
        rw [hnew]
        simp [newConditionId, terms, repricedAgreement]
    · rw [if_neg hi]
      exact hbefore.of_other hlogs h.numbered hunwrapped fun hkey ↦ absurd (Option.some.inj hkey) hi

/-- Every step keeps the state determined, as long as no counter wraps. -/
theorem Determined.of_books (h : Determined s) (hbooks : Books s s')
    (hunwrapped : (log s').Unwrapped 64) : Determined s' := by
  obtain ⟨events, hlogs, hbooked⟩ := hbooks
  exact ⟨hlogs.numbered h.numbered hunwrapped, h.requests_of_booked hlogs hunwrapped hbooked,
    h.told_of_booked hlogs hunwrapped hbooked⟩

end Booking

/-! ### Runs -/

theorem tally_of_blank {s : State} (h : Blank s) (p : Option Principal → EventType → Bool) :
    tally p (log s) = 0 := by
  unfold tally log
  rw [h.history]
  exact total_empty _

theorem determined_install (cycles now reserve : ℕ)
    (hunwrapped : (log (install cycles now reserve)).Unwrapped 64) :
    Determined (install cycles now reserve) := by
  obtain ⟨s₀, hblank, hlogs⟩ := logs_install cycles now reserve
  have hcount {p : Option Principal → EventType → Bool}
      (hp : ∀ key event, p key event → isBooked event) :
      tally p (log (install cycles now reserve)) = 0 :=
    (hlogs.tally_eq hblank.numbered hunwrapped hp).trans (tally_of_blank hblank p)
  have hselected {β : Type} {select : EventType → Option β}
      (hselect : ∀ event, (select event).isSome → isBooked event) (key : Option Principal) :
      selected select key (log (install cycles now reserve)) = [] := by
    rw [hlogs.selected_eq hblank.numbered hunwrapped hselect]
    unfold selected
    rw [hblank.under]
    rfl
  have hnorequest (u : Principal) :
      (install cycles now reserve).rentalRequests[u]? = none := ExtTreeMap.getElem?_empty
  have hnoagreement (i : Principal) :
      (install cycles now reserve).rentalAgreements[i]? = none := ExtTreeMap.getElem?_empty
  refine ⟨hlogs.numbered hblank.numbered hunwrapped, fun u ↦ ?_, fun i ↦ ?_⟩
  · rw [hcount (createsRequestOf_booked u), hcount (cancelsRequestOf_booked u),
      hcount (namesUser_booked u), hnorequest]
    rfl
  · rw [hnoagreement]
    exact ⟨hcount (createsAgreementOf_booked i), hselected newPaidUntilNanos_booked _,
      hselected newConditionId_booked _⟩

theorem determined_of_reachable {cycles : ℕ} {c : Configuration} (h : (system cycles).Reachable c)
    (hunwrapped : (log c.state.canister).Unwrapped 64) : Determined c.state.canister := by
  refine h.induct (J := fun c ↦ (log c.state.canister).Unwrapped 64 →
    Determined c.state.canister) ?_ ?_ hunwrapped
  · rintro c ⟨⟨now, reserve, -, hinstall⟩, -⟩
    rw [hinstall]
    exact determined_install cycles now reserve
  · intro c c' a hc ih _ hnext hunwrapped
    have hbooks := books_of_next hc hnext
    obtain ⟨events, hlogs, -⟩ := id hbooks
    exact (ih (hlogs.unwrapped hunwrapped)).of_books hbooks hunwrapped

/-- As long as the last 64-bit number has not been given to an event under any key, the history
determines the state. A user has an open request exactly when one more request of the user was
created than were cancelled or turned into agreements. There is exactly one `RentalAgreementCreated`
event under a subnet with an agreement, and none under another one. The deadline of an agreement is
the one in the latest `SubnetTopUp` or `RentalConditionSwitched` event of the subnet, and without
such an event the time of the creation plus the initial rental period, as 64-bit numbers. Its
condition is the new one in the latest `RentalConditionSwitched` event, and without such an event
the one in the `RentalAgreementCreated` event. -/
theorem history_determines {cycles : ℕ} {c : Configuration} (h : (system cycles).Reachable c)
    (hunwrapped : (log c.state.canister).Unwrapped 64) :
    (∀ u : Principal,
      (tally (createsRequestOf u) (log c.state.canister) : ℤ) -
          tally (cancelsRequestOf u) (log c.state.canister) -
          tally (namesUser u) (log c.state.canister) =
        if (c.state.canister.rentalRequests[u]?).isSome then 1 else 0) ∧
      ∀ i : Principal,
        tally (createsAgreementOf i) (log c.state.canister) =
            (if (c.state.canister.rentalAgreements[i]?).isSome then 1 else 0) ∧
          ∀ a, c.state.canister.rentalAgreements[i]? = some a →
            a.paidUntilNanos = (latest newPaidUntilNanos i c.state.canister).getD
              (initialDeadline a.creationTimeNanos a.rentalConditionId) ∧
            some a.rentalConditionId = (latest newConditionId i c.state.canister).or
              (latest createdConditionId i c.state.canister) := by
  have hdetermined := determined_of_reachable h hunwrapped
  refine ⟨fun u ↦ ?_, fun i ↦ ?_⟩
  · have hrequests := hdetermined.requests u
    split_ifs at hrequests ⊢ <;> omega
  · have htold := hdetermined.told i
    cases hstored : c.state.canister.rentalAgreements[i]? with
    | none =>
      rw [hstored] at htold
      exact ⟨htold.1, fun a ha ↦ nomatch ha⟩
    | some a =>
      rw [hstored] at htold
      obtain ⟨hone, hdeadline, hcondition⟩ := htold
      refine ⟨hone, fun b hb ↦ ?_⟩
      obtain rfl : a = b := Option.some.inj hb
      exact ⟨hdeadline, hcondition⟩

theorem unwrapped_upgradedConfiguration :
    (log upgradedConfiguration.state.canister).Unwrapped 64 := by
  intro key
  have hall : ∀ entry ∈ upgradedConfiguration.state.canister.history.toList, entry.1.2 < 10 := by
    decide +kernel
  refine Option.eq_none_iff_forall_ne_some.mpr fun event hevent ↦ ?_
  have hlt : 2 ^ 64 - 1 < 10 := hall _ (ExtTreeMap.mem_toList_iff_getElem?_eq_some.mpr hevent)
  exact absurd hlt (by decide)

/-- The agreement of the target subnet was created on App13CH and moved to App7CH. -/
theorem history_determines_upgraded :
    latest createdConditionId targetSubnet upgradedConfiguration.state.canister = some .app13CH ∧
      latest newConditionId targetSubnet upgradedConfiguration.state.canister = some .app7CH ∧
      ∀ a, upgradedConfiguration.state.canister.rentalAgreements[targetSubnet]? = some a →
        a.rentalConditionId = .app7CH := by
  have hcreated : latest createdConditionId targetSubnet upgradedConfiguration.state.canister =
      some .app13CH := by decide +kernel
  have hnew : latest newConditionId targetSubnet upgradedConfiguration.state.canister =
      some .app7CH := by decide +kernel
  refine ⟨hcreated, hnew, fun a ha ↦ ?_⟩
  have hcondition := (((history_determines reachable_upgradedConfiguration
    unwrapped_upgradedConfiguration).2 targetSubnet).2 a ha).2
  rw [hnew] at hcondition
  exact Option.some.inj hcondition

/-! ### At the limits of the numbers -/

/-- A rental that begins at the last nanosecond of the clock. -/
def rentalAtClockEnd : List Label :=
  .environment (.pass (2 ^ 64 - 1 - 86_400 * billion)) :: rentalRun

def clockEndConfiguration : Configuration :=
  ((system (10 ^ 12)).perform (idle (installedWorld (10 ^ 12) fun _ ↦ 10 ^ 13))
    rentalAtClockEnd).get (by decide +kernel)

theorem reachable_clockEndConfiguration : (system (10 ^ 12)).Reachable clockEndConfiguration :=
  System.reachable_get_perform (init_idle _ _) _

theorem clockEnd_wraps : ((clockEndConfiguration.state.canister.rentalAgreements[
    aliceCreation.subnetId]?).any fun a ↦ decide (a.paidUntilNanos < a.creationTimeNanos)) := by
  decide +kernel

/-- The deadline of an agreement that is created late enough is before its creation. -/
theorem deadline_wraps : ∃ a,
    clockEndConfiguration.state.canister.rentalAgreements[aliceCreation.subnetId]? = some a ∧
      latest newPaidUntilNanos aliceCreation.subnetId clockEndConfiguration.state.canister = none ∧
      a.paidUntilNanos < a.creationTimeNanos := by
  obtain ⟨a, ha, hlt⟩ := (Option.any_eq_true _ _).mp clockEnd_wraps
  exact ⟨a, ha, by decide +kernel, of_decide_eq_true hlt⟩

/-- The event of a proposal for a user who has a request already. -/
def refusedEvent (payload : SubnetRentalProposalPayload) : EventType :=
  .rentalRequestFailed payload.user payload.proposalId .userAlreadyRequestingSubnetRental

/-- Such a proposal is refused at once, and only an event remains of it. -/
theorem refused_eq (payload : SubnetRentalProposalPayload) {s : State}
    (hfree : requestLock payload.user ∉ s.locks)
    (hopen : (s.getRentalRequest payload.user).isSome) :
    start (.executeRentalRequestProposal governanceCanisterId payload) s =
      .reply (s.persistEvent (refusedEvent payload) (some payload.user))
        (.executed (.error .userAlreadyRequestingSubnetRental)) := by
  change executeRentalRequestProposal governanceCanisterId payload s = _
  have hopen' : ({ s with locks := insert (requestLock payload.user) s.locks }.getRentalRequest
      payload.user).isSome := hopen
  unfold executeRentalRequestProposal State.callerGuard
  rw [if_neg (not_not.mpr rfl), if_neg hfree]
  dsimp only
  rw [if_pos hopen']
  have hback := dropGuards_insertLock
    (show requestLock payload.user ∉
      (s.persistEvent (refusedEvent payload) (some payload.user)).locks from hfree)
  exact congrArg (fun t : State ↦
    (.reply t (.executed (.error .userAlreadyRequestingSubnetRental)) : Segment)) hback

/-- However often such a proposal is executed. -/
theorem reachable_refused {cycles : ℕ} {c : Configuration} (h : (system cycles).Reachable c)
    (payload : SubnetRentalProposalPayload)
    (hfree : requestLock payload.user ∉ c.state.canister.locks)
    (hopen : (c.state.canister.getRentalRequest payload.user).isSome) (n : ℕ) :
    ∃ c', (system cycles).Reachable c' ∧
      c'.state.canister.locks = c.state.canister.locks ∧
      c'.state.canister.rentalRequests = c.state.canister.rentalRequests ∧
      c'.state.canister.now = c.state.canister.now ∧
      log c'.state.canister = (log c.state.canister).appendAll 64
        (List.replicate n (some payload.user, ⟨c.state.canister.now, refusedEvent payload⟩)) := by
  induction n with
  | zero => exact ⟨c, h, rfl, rfl, rfl, rfl⟩
  | succ n ih =>
    obtain ⟨u, hu, hlocks, hrequests, hnow, hlog⟩ := ih
    have hstart := refused_eq payload (s := u.state.canister) (hlocks ▸ hfree)
      (by unfold State.getRentalRequest; rw [hrequests]; exact hopen)
    have hnext : (system cycles).next u
        (.start (.executeRentalRequestProposal governanceCanisterId payload)) =
        some ⟨{ u.state with canister :=
            u.state.canister.persistEvent (refusedEvent payload) (some payload.user) }, u.calls,
          u.nextCall, u.trace ++ [(.executeRentalRequestProposal governanceCanisterId payload,
            .ok (.executed (.error .userAlreadyRequestingSubnetRental)))]⟩ := by
      unfold system Service.system Service.next service
      dsimp only
      rw [hstart]
      rfl
    refine ⟨_, hu.tail hnext, hlocks, hrequests, hnow, ?_⟩
    rw [List.replicate_succ', KeyedLog.appendAll_append, ← hlog, ← hnow]
    rfl

/-- A request was just opened. -/
def openRun : List Label :=
  undisturbed (.executeRentalRequestProposal governanceCanisterId aliceProposal) 0
    [.exchangeRate (.ok (3_500_000_000, 9)), .accountBalance ⟨10 ^ 13⟩, .transfer (.ok 1),
      .notifyTopUp (.ok (10 ^ 16))]

def openConfiguration : Configuration :=
  ((system (10 ^ 12)).perform (idle (installedWorld (10 ^ 12) fun _ ↦ 10 ^ 13)) openRun).get
    (by decide +kernel)

theorem reachable_openConfiguration : (system (10 ^ 12)).Reachable openConfiguration :=
  System.reachable_get_perform (init_idle _ _) _

/-- The creation of the request has the number one among the events of the user. -/
theorem created_at_openConfiguration :
    ∀ entry ∈ openConfiguration.state.canister.history.toList,
      createsRequestOf aliceProposal.user entry.1.1 entry.2.event →
        entry.1 = (some aliceProposal.user, 1) := by
  decide +kernel

/-- When `2 ^ 64` refused proposals have overwritten it, no creation of the open request is left. -/
theorem creation_overwritten : ∃ c, (system (10 ^ 12)).Reachable c ∧
    (c.state.canister.rentalRequests[aliceProposal.user]?).isSome ∧
      tally (createsRequestOf aliceProposal.user) (log c.state.canister) = 0 := by
  obtain ⟨c, hc, -, hrequests, -, hlog⟩ := reachable_refused
    reachable_openConfiguration aliceProposal (by decide +kernel) (by decide +kernel) (2 ^ 64)
  refine ⟨c, hc, ?_, ?_⟩
  · rw [hrequests]
    decide +kernel
  · rw [hlog]
    refine total_eq_zero _ fun entry event hevent ↦ ?_
    obtain ⟨key, n⟩ := entry
    refine if_neg fun hcreates ↦ ?_
    rcases KeyedLog.mem_appendAll hevent with hbefore | hadded
    · have hlast := created_at_openConfiguration _
        (ExtTreeMap.mem_toList_iff_getElem?_eq_some.mpr hbefore) hcreates
      obtain ⟨rfl, rfl⟩ := Prod.mk.inj hlast
      have hcount : (log openConfiguration.state.canister).count (some aliceProposal.user) = 2 := by
        decide +kernel
      have hfits :
          (log openConfiguration.state.canister).count (some aliceProposal.user) < 2 ^ 64 := by
        rw [hcount]
        decide
      have hj : 2 ^ 64 - 1 < 2 ^ 64 := by decide
      have hover := KeyedLog.entries_appendAll_replicate (some aliceProposal.user)
        ⟨openConfiguration.state.canister.now, refusedEvent aliceProposal⟩ hfits hj
      have hone : (2 + (2 ^ 64 - 1)) % 2 ^ 64 = 1 := by decide
      rw [hcount, hone] at hover
      have hsame := Option.some.inj (hover.symm.trans hevent)
      rw [← hsame] at hcreates
      exact Bool.noConfusion hcreates
    · obtain ⟨rfl, rfl⟩ := Prod.mk.inj (List.eq_of_mem_replicate hadded)
      exact Bool.noConfusion hcreates

/-- Without the bounds of the numbers the history does not determine the state: neither the open
requests nor the deadlines. -/
theorem history_fails_at_limits :
    ¬ (∀ c, (system (10 ^ 12)).Reachable c → ∀ u : Principal,
        (tally (createsRequestOf u) (log c.state.canister) : ℤ) -
            tally (cancelsRequestOf u) (log c.state.canister) -
            tally (namesUser u) (log c.state.canister) =
          if (c.state.canister.rentalRequests[u]?).isSome then 1 else 0) ∧
      ¬ (∀ c, (system (10 ^ 12)).Reachable c → ∀ (i : Principal) a,
        c.state.canister.rentalAgreements[i]? = some a →
          a.paidUntilNanos = (latest newPaidUntilNanos i c.state.canister).getD
            (a.creationTimeNanos +
              initialRentalPeriodNanos (standardConditions a.rentalConditionId))) := by
  constructor
  · intro hrequests
    obtain ⟨c, hc, hopen, hzero⟩ := creation_overwritten
    have hone := hrequests c hc aliceProposal.user
    rw [hzero, if_pos hopen] at hone
    omega
  · intro hdeadline
    obtain ⟨a, ha, hnone, hlt⟩ := deadline_wraps
    have hsum := hdeadline clockEndConfiguration reachable_clockEndConfiguration _ a ha
    rw [hnone, Option.getD_none] at hsum
    omega

end SubnetRental.History
