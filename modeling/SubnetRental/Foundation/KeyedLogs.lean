import SubnetRental.Foundation.TreeMapTotals
import SubnetRental.Foundation.MachineInteger
import Mathlib.Algebra.Order.Floor.Div
import Mathlib.Data.List.Sort

/-!
# Logs under keys

A keyed log numbers the entries of every key from zero and stores them in one ordered map, under
the pair of key and number. The counters of the keys are machine integers: when one has wrapped, old
entries are overwritten. Until then (`Unwrapped`) the numbers of a key are exactly those below its
counter (`Numbered.append`), and `under`, the entries of a key in order, grows by what is appended
(`under_append`). A range of the map is a slice of `under` (`page_eq`), and pages that are read
backwards, while the log may grow, give back what it held at first (`readBack_eq`).
-/

set_option autoImplicit false
set_option relaxedAutoImplicit false

namespace Foundation.KeyedLogs

open MachineInteger TreeMapTotals Std

attribute [local instance] lexOrd

/-- Counters of keys, and entries under pairs of a key and a number. -/
structure KeyedLog (κ ε : Type*) [Ord κ] where
  counters : ExtTreeMap κ ℕ
  entries : ExtTreeMap (κ × ℕ) ε

namespace KeyedLog

variable {κ ε : Type*} [Ord κ] [TransOrd κ]

/-- The next number of a key. -/
def count (log : KeyedLog κ ε) (key : κ) : ℕ := (log.counters[key]?).getD 0

/-- Appends an entry under a key, with counters of `w` bits. -/
def append (w : ℕ) (log : KeyedLog κ ε) (key : κ) (entry : ε) : KeyedLog κ ε where
  counters := log.counters.insert key (wrappingAdd w (log.count key) 1)
  entries := log.entries.insert (key, log.count key) entry

/-- The numbers of every key are exactly those below its counter. -/
def Numbered (log : KeyedLog κ ε) : Prop :=
  ∀ (key : κ) (n : ℕ), (log.entries[(key, n)]?).isSome ↔ n < log.count key

/-- The last number of `w` bits has not been given under any key. -/
def Unwrapped (w : ℕ) (log : KeyedLog κ ε) : Prop :=
  ∀ key : κ, log.entries[(key, 2 ^ w - 1)]? = none

/-- The entries of a key in order. -/
def under (log : KeyedLog κ ε) (key : κ) : List ε :=
  (List.range (log.count key)).filterMap fun n ↦ log.entries[(key, n)]?

/-- The entries of a key whose numbers are in a range, by a range query on the map. -/
def page (log : KeyedLog κ ε) (key : κ) (low high : ℕ) : List ε :=
  (log.entries.toList.filter fun entry ↦
    (compare (key, low) entry.1).isLE && (compare entry.1 (key, high)).isLT).map Prod.snd

variable [LawfulEqOrd κ] [DecidableEq κ]

/-! ### Appending -/

section Append

variable {w : ℕ} {log : KeyedLog κ ε} {key : κ} {entry : ε}

theorem count_append (other : κ) : (log.append w key entry).count other =
    if key = other then wrappingAdd w (log.count key) 1 else log.count other := by
  unfold count append
  rw [getElem?_insert_ite]
  split_ifs <;> rfl

theorem entries_append (other : κ) (n : ℕ) : (log.append w key entry).entries[(other, n)]? =
    if key = other ∧ log.count key = n then some entry else log.entries[(other, n)]? := by
  unfold append
  rw [getElem?_insert_ite]
  simp only [Prod.mk.injEq]

theorem Unwrapped.of_append (h : Unwrapped w (log.append w key entry)) :
    Unwrapped w log ∧ log.count key ≠ 2 ^ w - 1 := by
  constructor
  · intro other
    have hother := h other
    rw [entries_append] at hother
    split_ifs at hother with hsame
    exact hother
  · intro hlast
    have hkey := h key
    rw [entries_append, if_pos ⟨rfl, hlast⟩] at hkey
    cases hkey

omit [LawfulEqOrd κ] [DecidableEq κ] in
theorem Numbered.count_lt (h : Numbered log) (hunwrapped : Unwrapped w log) (key : κ) :
    log.count key < 2 ^ w := by
  have hpos := Nat.two_pow_pos w
  have hlast := h key (2 ^ w - 1)
  rw [hunwrapped key] at hlast
  have hnot : ¬ 2 ^ w - 1 < log.count key := fun hlt ↦ Bool.noConfusion (hlast.mpr hlt)
  omega

/-- A counter that has not wrapped counts on. -/
theorem Numbered.count_append (h : Numbered log)
    (hunwrapped : Unwrapped w (log.append w key entry)) (other : κ) :
    (log.append w key entry).count other =
      if key = other then log.count key + 1 else log.count other := by
  obtain ⟨hbefore, hne⟩ := hunwrapped.of_append
  have hlt := h.count_lt hbefore key
  rw [KeyedLog.count_append, wrappingAdd_of_lt (by omega)]

theorem Numbered.append (h : Numbered log) (hunwrapped : Unwrapped w (log.append w key entry)) :
    Numbered (log.append w key entry) := by
  intro other n
  rw [entries_append, h.count_append hunwrapped]
  by_cases hkey : key = other
  · subst hkey
    rw [if_pos rfl]
    by_cases hn : log.count key = n
    · rw [if_pos ⟨rfl, hn⟩, ← hn]
      exact iff_of_true rfl (Nat.lt_succ_self _)
    · rw [if_neg fun hboth ↦ hn hboth.2, h key n]
      omega
  · rw [if_neg fun hboth ↦ hkey hboth.1, if_neg hkey]
    exact h other n

omit [LawfulEqOrd κ] [DecidableEq κ] in
/-- The number an entry gets is a fresh one. -/
theorem Numbered.fresh (h : Numbered log) (key : κ) :
    log.entries[(key, log.count key)]? = none := by
  have hnot := (h key (log.count key)).not.mpr (lt_irrefl _)
  rwa [Option.isSome_iff_ne_none, not_not] at hnot

end Append

/-! ### Slices -/

section Slices

variable {log : KeyedLog κ ε} {key : κ}

/-- Consecutive lookups that succeed below a bound and fail from it on. -/
theorem getElem?_filterMap_range' {f : ℕ → Option ε} {bound : ℕ}
    (hf : ∀ n, (f n).isSome ↔ n < bound) (low size i : ℕ) :
    ((List.range' low size).filterMap f)[i]? = if i < size then f (low + i) else none := by
  induction size generalizing low i with
  | zero => simp
  | succ size ih =>
    rw [List.range'_succ]
    cases hlow : f low with
    | some entry =>
      rw [List.filterMap_cons_some hlow]
      cases i with
      | zero => simp [hlow]
      | succ i =>
        rw [List.getElem?_cons_succ, ih (low + 1) i, Nat.add_right_comm low 1 i, Nat.add_assoc]
        simp only [Nat.add_lt_add_iff_right]
    | none =>
      rw [List.filterMap_cons_none hlow, ih (low + 1) i]
      have hbound : bound ≤ low := by
        rw [← Nat.not_lt, ← hf low, hlow]
        exact Bool.noConfusion
      have hnone (n : ℕ) : f (low + n) = none := by
        have hnot := (hf (low + n)).not.mpr (by omega)
        rwa [Option.isSome_iff_ne_none, not_not] at hnot
      rw [hnone i, Nat.add_assoc, hnone (1 + i), ite_self, ite_self]

omit [LawfulEqOrd κ] [DecidableEq κ] in
theorem getElem?_under (h : Numbered log) (key : κ) (n : ℕ) :
    (log.under key)[n]? = log.entries[(key, n)]? := by
  unfold under
  rw [List.range_eq_range', getElem?_filterMap_range' (h key), Nat.zero_add]
  split_ifs with hn
  · rfl
  · have hnot := (h key n).not.mpr hn
    rw [Option.isSome_iff_ne_none, not_not] at hnot
    exact hnot.symm

omit [LawfulEqOrd κ] [DecidableEq κ] in
theorem length_under (h : Numbered log) (key : κ) : (log.under key).length = log.count key := by
  refine Nat.le_antisymm ?_ ?_
  · exact (List.length_filterMap_le _ _).trans_eq List.length_range
  · by_contra hlt
    have hnone := List.getElem?_eq_none (Nat.le_refl (log.under key).length)
    rw [getElem?_under h] at hnone
    have hsome := (h key (log.under key).length).mpr (Nat.lt_of_not_le hlt)
    rw [hnone] at hsome
    cases hsome

/-- What is appended comes after the entries of its key and changes no others. -/
theorem under_append {w : ℕ} {entry : ε} (h : Numbered log)
    (hunwrapped : Unwrapped w (log.append w key entry)) (other : κ) :
    (log.append w key entry).under other =
      if key = other then log.under key ++ [entry] else log.under other := by
  refine List.ext_getElem? fun n ↦ ?_
  rw [getElem?_under (h.append hunwrapped), entries_append]
  by_cases hkey : key = other
  · subst hkey
    rw [if_pos rfl, List.getElem?_append, length_under h]
    by_cases hn : log.count key = n
    · subst hn
      simp
    · rw [if_neg fun hboth ↦ hn hboth.2]
      split_ifs with hlt
      · exact (getElem?_under h key n).symm
      · rw [List.getElem?_eq_none (by rw [List.length_singleton]; omega)]
        have hnot := (h key n).not.mpr hlt
        rwa [Option.isSome_iff_ne_none, not_not] at hnot
  · rw [if_neg fun hboth ↦ hkey hboth.1, if_neg hkey, getElem?_under h]

/-- Between two numbers of a key there are only numbers of the key. -/
theorem between_iff {key other : κ} {low high n : ℕ} :
    ((compare (key, low) (other, n)).isLE && (compare (other, n) (key, high)).isLT) = true ↔
      key = other ∧ low ≤ n ∧ n < high := by
  have hlow : compare (key, low) (other, n) = (compare key other).then (compare low n) := rfl
  have hhigh : compare (other, n) (key, high) = (compare other key).then (compare n high) := rfl
  rw [Bool.and_eq_true, hlow, hhigh]
  by_cases hkey : key = other
  · subst hkey
    have hself : compare key key = .eq := ReflCmp.compare_self
    rw [hself]
    simp [Nat.isLE_compare, Nat.compare_eq_lt]
  · have hne : compare key other ≠ .eq := fun heq ↦ hkey (LawfulEqOrd.eq_of_compare heq)
    rw [OrientedOrd.eq_swap (a := other)]
    cases hcompare : compare key other with
    | eq => exact absurd hcompare hne
    | lt => simp [hkey]
    | gt => simp [hkey]

/-- A range of the map is sorted by number, as the lookups one after another are. -/
theorem filter_toList_eq (log : KeyedLog κ ε) (key : κ) (low high : ℕ) :
    (log.entries.toList.filter fun entry ↦
        (compare (key, low) entry.1).isLE && (compare entry.1 (key, high)).isLT) =
      (List.range' low (high - low)).filterMap fun n ↦
        (log.entries[(key, n)]?).map fun entry ↦ ((key, n), entry) := by
  let before (a b : (κ × ℕ) × ε) : Prop := compare a.1 b.1 = .lt
  have hirrefl (a : (κ × ℕ) × ε) : ¬ before a a := by
    intro hlt
    have hself : compare a.1 a.1 = .eq := ReflCmp.compare_self
    exact Ordering.noConfusion (hself.symm.trans hlt)
  have hasymm (a b : (κ × ℕ) × ε) (hab : before a b) (hba : before b a) : a = b :=
    Ordering.noConfusion (hba.symm.trans (OrientedCmp.gt_of_lt hab))
  have : Std.Antisymm before := ⟨hasymm⟩
  have : Std.Irrefl before := ⟨hirrefl⟩
  refine List.Pairwise.eq_of_mem_iff (r := before) ?_ ?_ ?_
  · exact log.entries.ordered_keys_toList.filter _
  · rw [List.pairwise_filterMap]
    have hsorted : (List.range' low (high - low)).Pairwise (· < ·) := List.pairwise_lt_range'
    refine hsorted.imp ?_
    intro m n hlt a ha b hb
    obtain ⟨_, -, rfl⟩ := Option.map_eq_some_iff.mp ha
    obtain ⟨_, -, rfl⟩ := Option.map_eq_some_iff.mp hb
    have hself : compare key key = .eq := ReflCmp.compare_self
    change (compare key key).then (compare m n) = .lt
    rw [hself, Nat.compare_eq_lt.mpr hlt]
    rfl
  · rintro ⟨⟨other, n⟩, entry⟩
    rw [List.mem_filter, ExtTreeMap.mem_toList_iff_getElem?_eq_some, between_iff]
    simp only [List.mem_filterMap, List.mem_range'_1, Option.map_eq_some_iff, Prod.mk.injEq]
    constructor
    · rintro ⟨hentry, rfl, hle, hlt⟩
      exact ⟨n, ⟨hle, by omega⟩, entry, hentry, ⟨rfl, rfl⟩, rfl⟩
    · rintro ⟨m, ⟨hle, hlt⟩, entry, hentry, ⟨rfl, rfl⟩, rfl⟩
      exact ⟨hentry, rfl, hle, by omega⟩

/-- A range query on the map gives the entries of the key numbered in the range, in order. -/
theorem page_eq_filterMap (log : KeyedLog κ ε) (key : κ) (low high : ℕ) :
    log.page key low high =
      (List.range' low (high - low)).filterMap fun n ↦ log.entries[(key, n)]? := by
  unfold page
  rw [filter_toList_eq, List.map_filterMap]
  refine List.filterMap_congr fun n _ ↦ ?_
  rw [Option.map_map]
  exact Option.map_id'

/-- A page is a slice of the entries of its key. -/
theorem page_eq (h : Numbered log) (key : κ) (low high : ℕ) :
    log.page key low high = ((log.under key).take high).drop low := by
  refine List.ext_getElem? fun i ↦ ?_
  rw [page_eq_filterMap, getElem?_filterMap_range' (h key), List.getElem?_drop,
    List.getElem?_take, getElem?_under h]
  by_cases hlt : low + i < high
  · rw [if_pos hlt, if_pos (by omega)]
  · rw [if_neg hlt, if_neg (by omega)]

end Slices

/-! ### Appending several entries -/

section AppendAll

variable {w : ℕ} {log : KeyedLog κ ε} {appended : List (κ × ε)}

/-- Appends entries under keys, one after another. -/
def appendAll (w : ℕ) (log : KeyedLog κ ε) (appended : List (κ × ε)) : KeyedLog κ ε :=
  appended.foldl (fun log entry ↦ log.append w entry.1 entry.2) log

omit [LawfulEqOrd κ] [DecidableEq κ] in
theorem appendAll_cons (w : ℕ) (log : KeyedLog κ ε) (entry : κ × ε) (rest : List (κ × ε)) :
    log.appendAll w (entry :: rest) = (log.append w entry.1 entry.2).appendAll w rest := rfl

omit [LawfulEqOrd κ] [DecidableEq κ] in
theorem appendAll_append (w : ℕ) (log : KeyedLog κ ε) (first second : List (κ × ε)) :
    log.appendAll w (first ++ second) = (log.appendAll w first).appendAll w second :=
  List.foldl_append

theorem Unwrapped.of_appendAll (h : Unwrapped w (log.appendAll w appended)) : Unwrapped w log := by
  induction appended generalizing log with
  | nil => exact h
  | cons entry rest ih => exact (ih h).of_append.1

theorem Numbered.appendAll (h : Numbered log)
    (hunwrapped : Unwrapped w (log.appendAll w appended)) :
    Numbered (log.appendAll w appended) := by
  induction appended generalizing log with
  | nil => exact h
  | cons entry rest ih =>
    rw [appendAll_cons] at hunwrapped ⊢
    exact ih (h.append hunwrapped.of_appendAll) hunwrapped

/-- The entries of a key grow by those appended under it, in their order. -/
theorem under_appendAll (h : Numbered log) (hunwrapped : Unwrapped w (log.appendAll w appended))
    (key : κ) : (log.appendAll w appended).under key =
      log.under key ++ (appended.filter fun entry ↦ entry.1 = key).map Prod.snd := by
  induction appended generalizing log with
  | nil => exact (List.append_nil _).symm
  | cons entry rest ih =>
    rw [appendAll_cons] at hunwrapped ⊢
    have hfirst := hunwrapped.of_appendAll
    rw [ih (h.append hfirst) hunwrapped, under_append h hfirst, List.filter_cons]
    by_cases hkey : entry.1 = key
    · subst hkey
      simp
    · simp [hkey]

/-- Nothing wraps while the counters and what is appended fit. -/
theorem unwrapped_appendAll (h : Numbered log) (hunwrapped : Unwrapped w log)
    (hfits : ∀ key, log.count key + (appended.countP fun entry ↦ entry.1 = key) < 2 ^ w) :
    Unwrapped w (log.appendAll w appended) := by
  induction appended generalizing log with
  | nil => exact hunwrapped
  | cons entry rest ih =>
    have hfirst : Unwrapped w (log.append w entry.1 entry.2) := by
      intro key
      rw [entries_append]
      split_ifs with hlast
      · obtain ⟨rfl, hlast⟩ := hlast
        have hkey := hfits entry.1
        rw [List.countP_cons_of_pos (by simp)] at hkey
        omega
      · exact hunwrapped key
    refine ih (h.append hfirst) hfirst fun key ↦ ?_
    have hkey := hfits key
    rw [h.count_append hfirst]
    simp only [List.countP_cons, decide_eq_true_eq] at hkey
    split_ifs at hkey ⊢ with hsame
    · rw [hsame]
      omega
    · exact hkey

/-- A number once given stays in the map. -/
theorem isSome_appendAll {key : κ} {n : ℕ} (h : (log.entries[(key, n)]?).isSome) :
    ((log.appendAll w appended).entries[(key, n)]?).isSome := by
  induction appended generalizing log with
  | nil => exact h
  | cons entry rest ih =>
    refine ih ?_
    rw [entries_append]
    split_ifs
    · rfl
    · exact h

/-- A counter counts modulo `2 ^ w`. -/
theorem count_appendAll_replicate (key : κ) (entry : ε) (hcount : log.count key < 2 ^ w) (n : ℕ) :
    (log.appendAll w (List.replicate n (key, entry))).count key =
      (log.count key + n) % 2 ^ w := by
  induction n with
  | zero => exact (Nat.mod_eq_of_lt hcount).symm
  | succ n ih =>
    rw [List.replicate_succ', appendAll_append]
    refine (count_append key).trans ?_
    rw [if_pos rfl, ih]
    exact Nat.mod_add_mod _ _ _

/-- An entry was there before or is one of those appended. -/
theorem mem_appendAll {key : κ} {n : ℕ} {entry : ε}
    (h : (log.appendAll w appended).entries[(key, n)]? = some entry) :
    log.entries[(key, n)]? = some entry ∨ (key, entry) ∈ appended := by
  induction appended generalizing log with
  | nil => exact .inl h
  | cons first rest ih =>
    rw [appendAll_cons] at h
    rcases ih h with hbefore | hrest
    · rw [entries_append] at hbefore
      split_ifs at hbefore with hnew
      · obtain ⟨rfl, -⟩ := hnew
        obtain rfl := Option.some.inj hbefore
        exact .inr List.mem_cons_self
      · exact .inl hbefore
    · exact .inr (List.mem_cons_of_mem _ hrest)

/-- Appending one entry again and again fills the numbers from the counter on, and starts over from
zero. -/
theorem entries_appendAll_replicate (key : κ) (entry : ε) (hcount : log.count key < 2 ^ w) {j n : ℕ}
    (hj : j < n) : (log.appendAll w (List.replicate n (key, entry))).entries[
      (key, (log.count key + j) % 2 ^ w)]? = some entry := by
  induction n with
  | zero => exact absurd hj (Nat.not_lt_zero j)
  | succ n ih =>
    rw [List.replicate_succ', appendAll_append]
    refine (entries_append key _).trans ?_
    rw [count_appendAll_replicate key entry hcount]
    rcases Nat.lt_succ_iff_lt_or_eq.mp hj with hlt | rfl
    · rw [ih hlt, ite_self]
    · rw [if_pos ⟨rfl, rfl⟩]

/-- A page below the counter of its key stays as it is. -/
theorem page_appendAll (h : Numbered log) (hunwrapped : Unwrapped w (log.appendAll w appended))
    {key : κ} {high : ℕ} (hhigh : high ≤ log.count key) (low : ℕ) :
    (log.appendAll w appended).page key low high = log.page key low high := by
  rw [page_eq (h.appendAll hunwrapped), page_eq h, under_appendAll h hunwrapped,
    List.take_append_of_le_length (by rwa [length_under h])]

end AppendAll

/-! ### Reading back -/

section ReadBack

/-- Reads the entries of a key backwards in pages, the next page from the next of the logs, until a
page starts at the first number. -/
def readBack (logs : ℕ → KeyedLog κ ε) (key : κ) (size : ℕ) : ℕ → ℕ → ℕ → Option (List (List ε))
  | 0, _, _ => none
  | fuel + 1, i, high =>
    let page := (logs i).page key (high - size) high
    if high - size = 0 then some [page]
    else (readBack logs key size fuel (i + 1) (high - size)).map (page :: ·)

variable {logs : ℕ → KeyedLog κ ε} {key : κ} {size : ℕ}

/-- One page more for each further full page. -/
theorem ceilDiv_of_lt (hsize : 0 < size) {high : ℕ} (hmore : size < high) :
    max 1 (high ⌈/⌉ size) = max 1 ((high - size) ⌈/⌉ size) + 1 := by
  have hrest : 1 ≤ (high - size) ⌈/⌉ size := by
    rw [← Nat.not_lt, Nat.lt_one_iff, ← Nat.le_zero, ceilDiv_le_iff_le_mul hsize]
    omega
  have hsucc : high ⌈/⌉ size = (high - size) ⌈/⌉ size + 1 := by
    rw [Nat.ceilDiv_eq_add_pred_div, Nat.ceilDiv_eq_add_pred_div, ← Nat.add_div_right _ hsize]
    congr 1
    omega
  omega

/-- Reading back from logs that only grow takes as many pages as the entries need, one if there are
none, and the pages, the last one first, are the entries that there were at the beginning. -/
theorem readBack_eq (hsize : 0 < size) (hnumbered : ∀ i, Numbered (logs i))
    (hgrows : ∀ i, (logs i).under key <+: (logs (i + 1)).under key) (high i : ℕ)
    (hhigh : high ≤ (logs i).count key) :
    ∃ pages, readBack logs key size (max 1 (high ⌈/⌉ size)) i high = some pages ∧
      pages.length = max 1 (high ⌈/⌉ size) ∧
      pages.reverse.flatten = ((logs i).under key).take high := by
  induction high using Nat.strong_induction_on generalizing i with
  | _ high ih =>
    rcases Nat.lt_or_ge size high with hmore | hlast
    · have hnext : high - size ≤ (logs (i + 1)).count key := by
        have hlength := (hgrows i).length_le
        rw [length_under (hnumbered i), length_under (hnumbered (i + 1))] at hlength
        omega
      obtain ⟨pages, hread, hlength, hflatten⟩ := ih (high - size) (by omega) (i + 1) hnext
      rw [ceilDiv_of_lt hsize hmore]
      refine ⟨(logs i).page key (high - size) high :: pages, ?_, ?_, ?_⟩
      · unfold readBack
        rw [hread, if_neg (by omega)]
        rfl
      · rw [List.length_cons, hlength]
      · obtain ⟨added, hadded⟩ := hgrows i
        have hprefix : ((logs (i + 1)).under key).take (high - size) =
            (((logs i).under key).take high).take (high - size) := by
          rw [← hadded, List.take_append_of_le_length, List.take_take, min_eq_left (by omega)]
          rw [length_under (hnumbered i)]
          omega
        rw [List.reverse_cons, List.flatten_append, hflatten, hprefix, List.flatten_singleton,
          page_eq (hnumbered i), List.take_append_drop]
    · have hone : max 1 (high ⌈/⌉ size) = 1 := by
        refine max_eq_left ((ceilDiv_le_iff_le_mul hsize).mpr ?_)
        rwa [Nat.mul_one]
      have hlow : high - size = 0 := Nat.sub_eq_zero_of_le hlast
      rw [hone]
      refine ⟨[(logs i).page key (high - size) high], ?_, rfl, ?_⟩
      · unfold readBack
        rw [if_pos hlow]
      · rw [List.reverse_singleton, List.flatten_singleton, page_eq (hnumbered i), hlow,
          List.drop_zero]

end ReadBack

end KeyedLog

end Foundation.KeyedLogs
