import SubnetRental.Canister.CanisterState
import SubnetRental.Foundation.KeyedLogs

/-!
# The pages of the history

The event counters and the history are a keyed log (`State.log`), to which `persist_event` appends
and of which `get_history_page` reads a range. `pages_complete` follows a client that reads the
history of a key from the most recent page on, while more events are persisted: it takes as many
pages as the events need that were there at the first call, and gets each of these once, in order.
The counters are 64-bit numbers, and after `2 ^ 64` events under one key the numbers start again.
-/

set_option autoImplicit false
set_option relaxedAutoImplicit false

namespace SubnetRental.History

open Canister Foundation.KeyedLogs Foundation.MachineInteger Foundation.TreeMapTotals Std

/-- The counters and the history of a state as a keyed log. -/
def log (s : State) : KeyedLog (Option Principal) Event := ⟨s.eventCounters, s.history⟩

/-- The arguments of a call of `persist_event`, with the time of the event. -/
structure PersistCall where
  timeNanos : ℕ
  event : EventType
  key : Option Principal

def PersistCall.entry (call : PersistCall) : Option Principal × Event :=
  (call.key, ⟨call.timeNanos, call.event⟩)

/-- Calls of `persist_event` one after another. -/
def persistCalls (s : State) (calls : List PersistCall) : State :=
  calls.foldl (fun s call ↦ { s with now := call.timeNanos }.persistEvent call.event call.key) s

theorem log_persistCalls (s : State) (calls : List PersistCall) :
    log (persistCalls s calls) = (log s).appendAll 64 (calls.map PersistCall.entry) := by
  induction calls generalizing s with
  | nil => rfl
  | cons call rest ih => exact ih _

/-- A page is a range of the log. -/
theorem getHistoryPage_eq (s : State) (principal : Option Principal) (olderThan : Option ℕ)
    (pageSize : ℕ) : s.getHistoryPage principal olderThan pageSize =
      ((log s).page principal (olderThan.getD ((log s).count principal) - pageSize)
        (olderThan.getD ((log s).count principal)),
        olderThan.getD ((log s).count principal) - pageSize) := by
  have hcount : ((s.getCurrentSeq principal).map (· + 1)).getD 0 = (log s).count principal := by
    unfold State.getCurrentSeq KeyedLog.count
    change _ = (s.eventCounters[principal]?).getD 0
    split
    · rename_i hnone
      rw [hnone]
      rfl
    · rename_i count hcount
      rw [hcount]
      split_ifs with hzero
      · exact hzero.symm
      · exact Nat.succ_pred_eq_of_ne_zero hzero
  unfold State.getHistoryPage
  rw [hcount]
  rfl

/-! ### A reading client -/

/-- A client that reads the history of a key from the most recent page on and passes the returned
continuation until it is zero. It gets its pages in one state after another. -/
def readHistory (states : ℕ → State) (principal : Option Principal) (pageSize : ℕ) :
    ℕ → ℕ → Option ℕ → Option (List (List Event))
  | 0, _, _ => none
  | fuel + 1, i, olderThan =>
    let (page, continuation) := (states i).getHistoryPage principal olderThan pageSize
    if continuation = 0 then some [page]
    else (readHistory states principal pageSize fuel (i + 1) (some continuation)).map (page :: ·)

/-- The client reads the log back. -/
theorem readHistory_eq (states : ℕ → State) (principal : Option Principal) (pageSize fuel i : ℕ)
    (olderThan : Option ℕ) : readHistory states principal pageSize fuel i olderThan =
      KeyedLog.readBack (fun i ↦ log (states i)) principal pageSize fuel i
        (olderThan.getD ((log (states i)).count principal)) := by
  induction fuel generalizing i olderThan with
  | zero => rfl
  | succ fuel ih =>
    unfold readHistory KeyedLog.readBack
    rw [getHistoryPage_eq]
    dsimp only
    rw [ih, Option.getD_some]

/-- The calls of `persist_event` up to the `i`-th page. -/
def callsUntil (calls : ℕ → List PersistCall) (i : ℕ) : List PersistCall :=
  (List.range (i + 1)).flatMap calls

theorem callsUntil_succ (calls : ℕ → List PersistCall) (i : ℕ) :
    callsUntil calls (i + 1) = callsUntil calls i ++ calls (i + 1) := by
  unfold callsUntil
  rw [List.range_succ, List.flatMap_append, List.flatMap_singleton]

/-- The events of a key among some calls, in order. -/
def eventsOf (key : Option Principal) (calls : List PersistCall) : List Event :=
  (calls.filter fun call ↦ call.key = key).map fun call ↦ ⟨call.timeNanos, call.event⟩

theorem eventsOf_eq (key : Option Principal) (calls : List PersistCall) :
    ((calls.map PersistCall.entry).filter fun entry ↦ entry.1 = key).map Prod.snd =
      eventsOf key calls := by
  unfold eventsOf
  rw [List.filter_map, List.map_map]
  rfl

theorem countP_entry (key : Option Principal) (calls : List PersistCall) :
    ((calls.map PersistCall.entry).countP fun entry ↦ entry.1 = key) =
      (eventsOf key calls).length := by
  rw [← eventsOf_eq, List.length_map, List.countP_eq_length_filter]

/-- Before any event. -/
structure Blank (s : State) : Prop where
  eventCounters : s.eventCounters = ∅
  history : s.history = ∅

theorem Blank.numbered {s : State} (h : Blank s) : (log s).Numbered := by
  intro key n
  change ((s.history[((key, n) : HistoryKey)]?).isSome ↔ n < (s.eventCounters[key]?).getD 0)
  rw [h.eventCounters, h.history]
  simp

theorem Blank.unwrapped {s : State} (h : Blank s) (w : ℕ) : (log s).Unwrapped w := by
  intro key
  change s.history[((key, 2 ^ w - 1) : HistoryKey)]? = none
  rw [h.history]
  simp

theorem Blank.under {s : State} (h : Blank s) (key : Option Principal) :
    (log s).under key = [] := by
  rw [List.eq_nil_iff_length_eq_zero, KeyedLog.length_under h.numbered]
  change (s.eventCounters[key]?).getD 0 = 0
  rw [h.eventCounters]
  simp

/-- What fewer than `2 ^ 64` calls under each key leave in the log. -/
theorem log_of_blank {s₀ : State} (h : Blank s₀) {calls : List PersistCall}
    (hfits : ∀ key, (eventsOf key calls).length < 2 ^ 64) :
    (log (persistCalls s₀ calls)).Numbered ∧
      ∀ key, (log (persistCalls s₀ calls)).under key = eventsOf key calls := by
  rw [log_persistCalls]
  have hunwrapped : ((log s₀).appendAll 64 (calls.map PersistCall.entry)).Unwrapped 64 := by
    refine KeyedLog.unwrapped_appendAll h.numbered (h.unwrapped 64) fun key ↦ ?_
    rw [countP_entry, ← KeyedLog.length_under h.numbered, h.under, List.length_nil, Nat.zero_add]
    exact hfits key
  refine ⟨h.numbered.appendAll hunwrapped, fun key ↦ ?_⟩
  rw [KeyedLog.under_appendAll h.numbered hunwrapped, h.under, List.nil_append, eventsOf_eq]

/-- As long as fewer than `2 ^ 64` events are persisted under each key, the numbers of a key are
those below its counter, a page holds the events numbered in its range, and reading back from the
most recent page takes as many pages as there were events at the first call, one if there were none,
and gives exactly these events, whatever is persisted between the pages. -/
theorem pages_complete {s₀ : State} (hblank : Blank s₀) {calls : ℕ → List PersistCall}
    (hfits : ∀ i key, (eventsOf key (callsUntil calls i)).length < 2 ^ 64)
    (key : Option Principal) {pageSize : ℕ} (hsize : 0 < pageSize) :
    (∀ i n, ((persistCalls s₀ (callsUntil calls i)).history[((key, n) : HistoryKey)]?).isSome ↔
      n < ((persistCalls s₀ (callsUntil calls i)).eventCounters[key]?).getD 0) ∧
    (∀ i high, (persistCalls s₀ (callsUntil calls i)).getHistoryPage key (some high) pageSize =
      ((List.range' (high - pageSize) (high - (high - pageSize))).filterMap fun n ↦
        (persistCalls s₀ (callsUntil calls i)).history[((key, n) : HistoryKey)]?,
        high - pageSize)) ∧
    ∃ pages,
      readHistory (fun i ↦ persistCalls s₀ (callsUntil calls i)) key pageSize
        (max 1 ((eventsOf key (calls 0)).length ⌈/⌉ pageSize)) 0 none = some pages ∧
      pages.length = max 1 ((eventsOf key (calls 0)).length ⌈/⌉ pageSize) ∧
      pages.reverse.flatten = eventsOf key (calls 0) := by
  have hlog (i : ℕ) := log_of_blank hblank (hfits i)
  refine ⟨fun i n ↦ (hlog i).1 key n, fun i high ↦ ?_, ?_⟩
  · rw [getHistoryPage_eq, Option.getD_some, KeyedLog.page_eq_filterMap]
    rfl
  · have hfirst : callsUntil calls 0 = calls 0 := List.flatMap_singleton ..
    have hcount : (log (persistCalls s₀ (callsUntil calls 0))).count key =
        (eventsOf key (calls 0)).length := by
      rw [← KeyedLog.length_under (hlog 0).1, (hlog 0).2, hfirst]
    have hgrows (i : ℕ) : (log (persistCalls s₀ (callsUntil calls i))).under key <+:
        (log (persistCalls s₀ (callsUntil calls (i + 1)))).under key := by
      rw [(hlog i).2, (hlog (i + 1)).2, callsUntil_succ]
      unfold eventsOf
      rw [List.filter_append, List.map_append]
      exact List.prefix_append _ _
    obtain ⟨pages, hread, hlength, hflatten⟩ := KeyedLog.readBack_eq hsize (fun i ↦ (hlog i).1)
      hgrows (eventsOf key (calls 0)).length 0 hcount.ge
    refine ⟨pages, ?_, hlength, ?_⟩
    · rw [readHistory_eq, Option.getD_none, hcount, hread]
    · rw [hflatten, (hlog 0).2, hfirst, List.take_length]

/-- The state before any event. -/
def blankState : State where
  rentalConditions _ := none
  locks := ∅
  rentalRequests := ∅
  rentalAgreements := ∅
  eventCounters := ∅
  history := ∅
  rates := ∅
  now := 0
  cycles := 0
  reserve := 0
  exchangeRateCalls := 0

theorem blank_blankState : Blank blankState := ⟨rfl, rfl⟩

/-- Five events of the rental conditions, and a sixth one after the first page. -/
def sixEvents : ℕ → List PersistCall
  | 0 => (List.range 5).map fun time ↦ ⟨time, .rentalConditionsChanged .app13CH none, none⟩
  | 1 => [⟨5, .rentalConditionsChanged .app7CH none, none⟩]
  | _ => []

theorem callsUntil_sixEvents (i : ℕ) :
    callsUntil sixEvents (i + 1) = sixEvents 0 ++ sixEvents 1 := by
  induction i with
  | zero => rfl
  | succ i ih =>
    rw [callsUntil_succ, ih]
    exact List.append_nil _

theorem sixEvents_fit (i : ℕ) (key : Option Principal) :
    (eventsOf key (callsUntil sixEvents i)).length < 2 ^ 64 := by
  have hlength : (callsUntil sixEvents i).length ≤ 6 := by
    cases i with
    | zero => decide
    | succ i =>
      rw [callsUntil_sixEvents]
      decide
  unfold eventsOf
  rw [List.length_map]
  exact (List.length_filter_le _ _).trans_lt (hlength.trans_lt (by decide))

/-- With two events to a page, the first five take three pages. -/
theorem pages_complete_sixEvents :
    ∃ pages,
      readHistory (fun i ↦ persistCalls blankState (callsUntil sixEvents i)) none 2 3 0 none =
        some pages ∧
      pages.length = 3 ∧ pages.reverse.flatten = eventsOf none (sixEvents 0) :=
  (pages_complete blank_blankState sixEvents_fit none (by decide)).2.2

/-- The first number is given as soon as there is a call. -/
theorem first_given {s : State} (h : Blank s) {call : PersistCall} {calls : List PersistCall} :
    ((persistCalls s (call :: calls)).history[((call.key, 0) : HistoryKey)]?).isSome := by
  have hzero : (log s).count call.key = 0 := by
    rw [← KeyedLog.length_under h.numbered, h.under, List.length_nil]
  have hsome : (((log s).append 64 call.key call.entry.2).entries[(call.key, 0)]?).isSome := by
    rw [KeyedLog.entries_append, if_pos ⟨rfl, hzero⟩]
    rfl
  change ((log (persistCalls s (call :: calls))).entries[(call.key, 0)]?).isSome
  rw [log_persistCalls, List.map_cons, KeyedLog.appendAll_cons]
  exact KeyedLog.isSome_appendAll hsome

/-- After `2 ^ 64` events the counter is zero again, and the history is not empty. -/
theorem numbers_not_below_counter :
    ¬ ∀ s₀ calls key n, Blank s₀ →
      (((persistCalls s₀ calls).history[((key, n) : HistoryKey)]?).isSome ↔
        n < ((persistCalls s₀ calls).eventCounters[key]?).getD 0) := by
  intro hnumbers
  let call : PersistCall := ⟨0, .rentalConditionsChanged .app13CH none, none⟩
  obtain ⟨n, hn⟩ : ∃ n, 2 ^ 64 = n + 1 := ⟨2 ^ 64 - 1, (Nat.sub_add_cancel (by decide)).symm⟩
  have hcount :
      (log (persistCalls blankState (List.replicate (n + 1) call))).count none = 0 := by
    rw [log_persistCalls, List.map_replicate]
    refine (KeyedLog.count_appendAll_replicate none _ (by decide) (n + 1)).trans ?_
    rw [← hn]
    exact (congrArg (· % 2 ^ 64) (Nat.zero_add (2 ^ 64))).trans (Nat.mod_self (2 ^ 64))
  have hlt : 0 < (log (persistCalls blankState (List.replicate (n + 1) call))).count none :=
    (hnumbers blankState (List.replicate (n + 1) call) none 0 blank_blankState).mp
      (first_given blank_blankState)
  rw [hcount] at hlt
  exact absurd hlt (lt_irrefl 0)

end SubnetRental.History
