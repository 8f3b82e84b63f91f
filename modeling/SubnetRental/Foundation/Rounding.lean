import Mathlib.Algebra.Order.Group.Nat
import Mathlib.Data.Nat.ModEq

/-!
# Rounded quotients and quotes

`nearest` is the quotient of two naturals rounded to the nearest one, a half up. `quote` is how many
units of a currency buy a total at a rate, rounded down, and `bought` what units buy, rounded down.
A quote of which a fee is lost buys at most the total (`bought_quote_le`), and it misses at most a
slack that is worth the fee and one unit more (`le_bought_quote`). A total that is rounded down part
by part falls short of the rounded total by at most one for each part (`sum_div_le`, `div_sum_le`).
-/

set_option autoImplicit false
set_option relaxedAutoImplicit false

namespace Foundation.Rounding

/-! ### The nearest quotient -/

/-- The quotient rounded to the nearest natural, a half up. -/
def nearest (a b : ℕ) : ℕ := (2 * a + b) / (2 * b)

theorem nearest_eq_add_half (a b : ℕ) : nearest a b = (a + b / 2) / b := by
  have hhalf : (2 * a + b) / 2 = a + b / 2 := by omega
  rw [nearest, ← Nat.div_div_eq_div_mul, hhalf]

/-- A total that is missed by at most half the divisor is rounded to. -/
theorem nearest_of_close {a b n : ℕ} (hb : 0 < b) (hlow : b * n - b / 2 ≤ a) (hhigh : a ≤ b * n) :
    nearest a b = n := by
  rw [nearest_eq_add_half]
  refine Nat.div_eq_of_lt_le ?_ ?_
  · rw [Nat.mul_comm]
    omega
  · have hless : b / 2 < b := Nat.div_lt_self hb (by decide)
    have hnext : (n + 1) * b = b * n + b := by rw [Nat.mul_comm, Nat.mul_succ]
    omega

/-- A nearest quotient is below a bound exactly when the dividend is half the divisor below the
bound in multiples of it. -/
theorem nearest_lt_iff {a b n : ℕ} (hb : 0 < b) : nearest a b < n ↔ a < n * b - b / 2 := by
  rw [nearest_eq_add_half, Nat.div_lt_iff_lt_mul hb]
  omega

/-! ### Quotes -/

/-- The units that buy a total at a rate, when `unit` units buy `rate` of it. -/
def quote (total rate unit : ℕ) : ℕ := total * unit / rate

/-- What units buy at a rate. -/
def bought (units rate unit : ℕ) : ℕ := units * rate / unit

section Quotes

variable {total rate unit fee slack : ℕ}

theorem quote_mul_le (total rate unit : ℕ) : quote total rate unit * rate ≤ total * unit :=
  Nat.div_mul_le_self _ _

theorem lt_quote_mul (hrate : 0 < rate) : total * unit < quote total rate unit * rate + rate := by
  have hnext := Nat.lt_succ_self (quote total rate unit)
  rw [← Nat.succ_mul]
  exact (Nat.div_lt_iff_lt_mul hrate).mp hnext

/-- What is left of a quote buys at most the total. -/
theorem bought_quote_le (total rate unit fee : ℕ) :
    bought (quote total rate unit - fee) rate unit ≤ total := by
  refine Nat.div_le_of_le_mul ?_
  calc (quote total rate unit - fee) * rate
      ≤ quote total rate unit * rate := Nat.mul_le_mul_right rate (Nat.sub_le _ _)
    _ ≤ total * unit := quote_mul_le total rate unit
    _ = unit * total := Nat.mul_comm _ _

/-- What is left of a quote misses at most a slack that pays for the fee and one unit more. -/
theorem le_bought_quote (hrate : 0 < rate) (hunit : 0 < unit)
    (hslack : (fee + 1) * rate ≤ slack * unit) :
    total - slack ≤ bought (quote total rate unit - fee) rate unit := by
  rw [bought, Nat.le_div_iff_mul_le hunit, Nat.sub_mul, Nat.sub_mul]
  have hquote : total * unit < quote total rate unit * rate + rate := lt_quote_mul hrate
  rw [Nat.succ_mul] at hslack
  omega

/-- A quote for a total that is worth a number of units is at least that many. -/
theorem le_quote (hrate : 0 < rate) {units : ℕ} (h : units * rate ≤ total * unit) :
    units ≤ quote total rate unit :=
  (Nat.le_div_iff_mul_le hrate).mpr h

end Quotes

/-! ### Sums of quotients -/

/-- Rounding down part by part does not exceed rounding the total down. -/
theorem sum_div_le (start n : ℕ) (parts : List ℕ) :
    start / n + (parts.map (· / n)).sum ≤ (start + parts.sum) / n := by
  induction parts generalizing start with
  | nil => exact le_rfl
  | cons part rest ih =>
    rw [List.map_cons, List.sum_cons, List.sum_cons, ← Nat.add_assoc, ← Nat.add_assoc]
    exact (Nat.add_le_add_right Nat.div_add_div_le_add_div _).trans (ih (start + part))

/-- Each part that is rounded down on its own loses less than one. -/
theorem div_sum_le (start n : ℕ) (parts : List ℕ) :
    (start + parts.sum) / n ≤ start / n + (parts.map (· / n)).sum + parts.length := by
  induction parts generalizing start with
  | nil => exact le_rfl
  | cons part rest ih =>
    have hfirst : (start + part) / n ≤ start / n + part / n + 1 :=
      Nat.add_div_le_div_add_div_add_one start part n
    have hrest := ih (start + part)
    rw [List.map_cons, List.sum_cons, List.sum_cons, List.length_cons, ← Nat.add_assoc]
    omega

end Foundation.Rounding
