import Mathlib.Algebra.Order.Group.Nat
import Mathlib.Data.Nat.ModEq

/-!
# Unsigned integers of a fixed width

The operations of a `w`-bit unsigned type on naturals below `2 ^ w`: wrapping (unchecked operators
in a build without overflow checks), saturating and checked. Saturating subtraction is the
truncated subtraction of `ℕ` and needs no definition. The lemmas say when an operation agrees with
the unbounded one, and that none of them exceeds it.
-/

set_option autoImplicit false
set_option relaxedAutoImplicit false

namespace Foundation.MachineInteger

/-- The largest `w`-bit value. -/
def maxValue (w : ℕ) : ℕ := 2 ^ w - 1

def wrappingAdd (w a b : ℕ) : ℕ := (a + b) % 2 ^ w

/-- Subtraction modulo `2 ^ w`, for operands below `2 ^ w`. -/
def wrappingSub (w a b : ℕ) : ℕ := (a + (2 ^ w - b)) % 2 ^ w

-- in the products the second factor, often a large literal, stands first: multiplication recurses
-- on its second argument, and unfolding it must not run through the literal
def wrappingMul (w a b : ℕ) : ℕ := (b * a) % 2 ^ w

def wrappingPow (w a b : ℕ) : ℕ := (a ^ b) % 2 ^ w

/-- A narrowing cast. -/
def truncate (w a : ℕ) : ℕ := a % 2 ^ w

def saturatingAdd (w a b : ℕ) : ℕ := min (a + b) (maxValue w)

def saturatingMul (w a b : ℕ) : ℕ := min (b * a) (maxValue w)

def checkedMul (w a b : ℕ) : Option ℕ := if b * a < 2 ^ w then some (b * a) else none

def checkedDiv (a b : ℕ) : Option ℕ := if b = 0 then none else some (a / b)

/-- A checked narrowing conversion. -/
def checkedCast (w a : ℕ) : Option ℕ := if a < 2 ^ w then some a else none

variable {w a b : ℕ}

theorem lt_two_pow_iff : a < 2 ^ w ↔ a ≤ maxValue w := by
  have hpos : 0 < 2 ^ w := Nat.two_pow_pos w
  unfold maxValue
  omega

theorem maxValue_lt (w : ℕ) : maxValue w < 2 ^ w := lt_two_pow_iff.mpr le_rfl

theorem wrappingAdd_of_lt (h : a + b < 2 ^ w) : wrappingAdd w a b = a + b := Nat.mod_eq_of_lt h

theorem wrappingAdd_le : wrappingAdd w a b ≤ a + b := Nat.mod_le _ _

theorem wrappingMul_of_lt (h : a * b < 2 ^ w) : wrappingMul w a b = a * b := by
  rw [Nat.mul_comm a b] at h ⊢
  exact Nat.mod_eq_of_lt h

theorem wrappingMul_le : wrappingMul w a b ≤ a * b := by
  rw [Nat.mul_comm a b]
  exact Nat.mod_le _ _

theorem wrappingSub_of_le (hba : b ≤ a) (ha : a < 2 ^ w) : wrappingSub w a b = a - b := by
  have hsplit : a + (2 ^ w - b) = (a - b) + 2 ^ w := by omega
  rw [wrappingSub, hsplit, Nat.add_mod_right, Nat.mod_eq_of_lt (by omega)]

theorem truncate_of_lt (h : a < 2 ^ w) : truncate w a = a := Nat.mod_eq_of_lt h

theorem truncate_eq_iff : truncate w a = a ↔ a < 2 ^ w := Nat.mod_eq_iff_lt (Nat.two_pow_pos w).ne'

theorem truncate_lt : truncate w a < 2 ^ w := Nat.mod_lt _ (Nat.two_pow_pos w)

theorem saturatingAdd_of_lt (h : a + b < 2 ^ w) : saturatingAdd w a b = a + b :=
  min_eq_left (lt_two_pow_iff.mp h)

theorem saturatingAdd_le : saturatingAdd w a b ≤ a + b := min_le_left _ _

theorem saturatingAdd_lt : saturatingAdd w a b < 2 ^ w := lt_two_pow_iff.mpr (min_le_right _ _)

theorem le_saturatingAdd (h : a < 2 ^ w) : a ≤ saturatingAdd w a b :=
  le_min (Nat.le_add_right a b) (lt_two_pow_iff.mp h)

end Foundation.MachineInteger
