import Mathlib.Algebra.BigOperators.Group.List.Basic
import Mathlib.Algebra.Order.BigOperators.Group.List
import Mathlib.Data.List.Nodup
import Mathlib.Data.List.Perm.Basic

/-!
# Totals over the entries of an ordered map

`total f t` adds `f key value` over the entries of a tree map. Inserting a fresh key, replacing the
value of a present one and erasing a key change the total by that entry alone
(`total_insert_of_none`, `total_insert_of_some`, `total_erase_add`), because the entry list of the
changed map is a permutation of the old one up to that entry (`toList_insert_perm_erase`).
`getElem?_insert_ite` and `getElem?_erase_ite` are lookups stated with equality of keys, for
comparison functions that are equal only on equal keys, and `getElem?_insert_eq_some_iff` and
`getElem?_erase_eq_some_iff` say where a value that is found comes from.
-/

set_option autoImplicit false
set_option relaxedAutoImplicit false

namespace Foundation.TreeMapTotals

open Std

variable {κ β M : Type*} {cmp : κ → κ → Ordering} [TransCmp cmp] [LawfulEqCmp cmp]

theorem getElem?_insert_ite [DecidableEq κ] (t : ExtTreeMap κ β cmp) (k a : κ) (v : β) :
    (t.insert k v)[a]? = if k = a then some v else t[a]? := by
  rw [ExtTreeMap.getElem?_insert]
  by_cases h : k = a
  · subst h
    simp
  · simp [h]

theorem getElem?_erase_ite [DecidableEq κ] (t : ExtTreeMap κ β cmp) (k a : κ) :
    (t.erase k)[a]? = if k = a then none else t[a]? := by
  rw [ExtTreeMap.getElem?_erase]
  by_cases h : k = a
  · subst h
    simp
  · simp [h]

/-- A value that is found after an insertion is the inserted one or was there before. -/
theorem getElem?_insert_eq_some_iff {t : ExtTreeMap κ β cmp} {k a : κ} {v w : β} :
    (t.insert k v)[a]? = some w ↔ (k = a ∧ v = w) ∨ (k ≠ a ∧ t[a]? = some w) := by
  classical
  rw [getElem?_insert_ite]
  split_ifs with h
  · simp [h]
  · simp [h]

theorem getElem?_insert_eq_none_iff {t : ExtTreeMap κ β cmp} {k a : κ} {v : β} :
    (t.insert k v)[a]? = none ↔ k ≠ a ∧ t[a]? = none := by
  classical
  rw [getElem?_insert_ite]
  split_ifs with h
  · simp [h]
  · simp [h]

theorem getElem?_erase_eq_some_iff {t : ExtTreeMap κ β cmp} {k a : κ} {w : β} :
    (t.erase k)[a]? = some w ↔ k ≠ a ∧ t[a]? = some w := by
  classical
  rw [getElem?_erase_ite]
  split_ifs with h
  · simp [h]
  · simp [h]

/-- A map is empty when no key has a value. -/
theorem eq_empty_of_forall_ne {t : ExtTreeMap κ β cmp}
    (h : ∀ (k : κ) (v : β), t[k]? ≠ some v) : t = ∅ := by
  refine ExtTreeMap.ext_getElem? fun k ↦ ?_
  rw [ExtTreeMap.getElem?_empty]
  exact Option.eq_none_iff_forall_ne_some.mpr (h k)

theorem insert_insert_self (t : ExtTreeMap κ β cmp) (k : κ) (v w : β) :
    (t.insert k v).insert k w = t.insert k w := by
  classical
  refine ExtTreeMap.ext_getElem? fun a ↦ ?_
  simp only [getElem?_insert_ite]
  split_ifs <;> rfl

theorem erase_insert_self (t : ExtTreeMap κ β cmp) (k : κ) (v : β) :
    (t.insert k v).erase k = t.erase k := by
  classical
  refine ExtTreeMap.ext_getElem? fun a ↦ ?_
  simp only [getElem?_insert_ite, getElem?_erase_ite]
  split_ifs <;> rfl

/-- No key occurs twice. -/
theorem nodup_keys_toList (t : ExtTreeMap κ β cmp) : (t.toList.map Prod.fst).Nodup := by
  rw [List.nodup_iff_pairwise_ne, List.pairwise_map]
  refine t.ordered_keys_toList.imp fun {a b} hlt heq ↦ ?_
  have hself : cmp b.1 b.1 = Ordering.eq := ReflCmp.compare_self
  rw [heq, hself] at hlt
  exact absurd hlt (by decide)

theorem nodup_toList (t : ExtTreeMap κ β cmp) : t.toList.Nodup :=
  List.Nodup.of_map Prod.fst (nodup_keys_toList t)

/-- Up to order, inserting an entry puts it in front of the other entries. -/
theorem toList_insert_perm_erase (t : ExtTreeMap κ β cmp) (k : κ) (v : β) :
    (t.insert k v).toList.Perm ((k, v) :: (t.erase k).toList) := by
  classical
  have hnot : (k, v) ∉ (t.erase k).toList := by
    rw [ExtTreeMap.mem_toList_iff_getElem?_eq_some]
    simp
  refine (List.perm_ext_iff_of_nodup (nodup_toList _)
    (List.nodup_cons.mpr ⟨hnot, nodup_toList _⟩)).mpr fun ⟨a, w⟩ ↦ ?_
  rw [List.mem_cons, ExtTreeMap.mem_toList_iff_getElem?_eq_some,
    ExtTreeMap.mem_toList_iff_getElem?_eq_some, getElem?_insert_ite, getElem?_erase_ite]
  by_cases h : k = a
  · subst h
    simp [eq_comm]
  · simp [h, Ne.symm h]

section Total

variable [AddCommMonoid M] (f : κ → β → M)

/-- The sum of `f key value` over the entries of a map. -/
def total (t : ExtTreeMap κ β cmp) : M :=
  (t.toList.map fun entry ↦ f entry.1 entry.2).sum

omit [LawfulEqCmp cmp] in
@[simp] theorem total_empty : total f (∅ : ExtTreeMap κ β cmp) = 0 := by
  have hnil : (∅ : ExtTreeMap κ β cmp).toList = [] :=
    ExtTreeMap.toList_eq_nil_iff.mpr rfl
  rw [total, hnil, List.map_nil, List.sum_nil]

/-- The total of an inserted entry and of the rest of the map. -/
theorem total_insert_eq_erase (t : ExtTreeMap κ β cmp) (k : κ) (v : β) :
    total f (t.insert k v) = f k v + total f (t.erase k) := by
  unfold total
  rw [((toList_insert_perm_erase t k v).map _).sum_eq, List.map_cons, List.sum_cons]

/-- Erasing a key takes its entry out of the total. -/
theorem total_erase_add {t : ExtTreeMap κ β cmp} {k : κ} {v : β} (h : t[k]? = some v) :
    total f (t.erase k) + f k v = total f t := by
  classical
  have hself : t.insert k v = t := by
    refine ExtTreeMap.ext_getElem? fun a ↦ ?_
    rw [getElem?_insert_ite]
    by_cases hka : k = a
    · subst hka
      simp [h]
    · simp [hka]
  have hsplit := total_insert_eq_erase f t k v
  rw [hself] at hsplit
  rw [hsplit, add_comm]

theorem erase_eq_self {t : ExtTreeMap κ β cmp} {k : κ} (h : t[k]? = none) : t.erase k = t := by
  classical
  refine ExtTreeMap.ext_getElem? fun a ↦ ?_
  rw [getElem?_erase_ite]
  by_cases hka : k = a
  · subst hka
    simp [h]
  · simp [hka]

/-- A fresh key adds its entry to the total. -/
theorem total_insert_of_none {t : ExtTreeMap κ β cmp} {k : κ} (v : β) (h : t[k]? = none) :
    total f (t.insert k v) = total f t + f k v := by
  rw [total_insert_eq_erase, erase_eq_self h, add_comm]

/-- Replacing the value of a present key exchanges its entry in the total. -/
theorem total_insert_of_some {t : ExtTreeMap κ β cmp} {k : κ} {old : β} (v : β)
    (h : t[k]? = some old) :
    total f (t.insert k v) + f k old = total f t + f k v := by
  rw [total_insert_eq_erase, ← total_erase_add f h, add_comm (f k v), add_right_comm]

theorem total_eq_zero {t : ExtTreeMap κ β cmp}
    (h : ∀ key value, t[key]? = some value → f key value = 0) : total f t = 0 := by
  refine List.sum_eq_zero fun value hvalue ↦ ?_
  obtain ⟨entry, hentry, rfl⟩ := List.mem_map.mp hvalue
  exact h _ _ (ExtTreeMap.mem_toList_iff_getElem?_eq_some.mp hentry)

end Total

/-- No entry exceeds the total. -/
theorem le_total (f : κ → β → ℕ) {t : ExtTreeMap κ β cmp} {k : κ} {v : β} (h : t[k]? = some v) :
    f k v ≤ total f t := by
  rw [← total_erase_add f h]
  exact Nat.le_add_left _ _

end Foundation.TreeMapTotals
