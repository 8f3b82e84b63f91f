import Mathlib.Algebra.Order.Floor.Div
import Mathlib.Algebra.Order.Ring.Cast
import Mathlib.Data.Nat.Cast.Order.Ring
import Mathlib.Data.Nat.ModEq
import Mathlib.Tactic.Linarith
import Mathlib.Tactic.Ring

/-!
# Stocks that fund a deadline

A prepaid account has a stock and a deadline. Time is counted in ticks, `unit` ticks are a period,
and `remaining` is the number of whole periods to the deadline. The stock is consumed period by
period: a consumption may take the share of `interval` periods at once, and then nothing until these
have passed, which the account remembers as its `horizon`. It may be extended, which buys periods at
a rate, and repriced, which sets the deadline to what the stock buys at a rate.

The stock `Funds` a price for a number of periods. `Funded.step` shows that an account that funds a
price up to its deadline goes on doing so whatever is done with it, as long as the rates are at
least the price: rounding never accumulates.

`granted` is the deadline that a stock buys from a start on, at most a cap. It grows with the stock
and shrinks with the rate, and buying in two parts loses at most one period.
-/

set_option autoImplicit false
set_option relaxedAutoImplicit false

namespace Foundation.FundedDeadline

/-! ### Remaining periods -/

/-- The whole periods from a time to a deadline, zero if it has passed. -/
def remaining (unit now deadline : ℕ) : ℕ := (deadline - now) / unit

theorem remaining_le_of_le {unit now later deadline : ℕ} (h : now ≤ later) :
    remaining unit later deadline ≤ remaining unit now deadline :=
  Nat.div_le_div_right (Nat.sub_le_sub_left h deadline)

theorem remaining_mono {unit now deadline deadline' : ℕ} (h : deadline ≤ deadline') :
    remaining unit now deadline ≤ remaining unit now deadline' :=
  Nat.div_le_div_right (Nat.sub_le_sub_right h now)

/-- A number of periods later, that many fewer remain. -/
theorem remaining_later (unit now deadline n : ℕ) :
    remaining unit (now + unit * n) deadline = remaining unit now deadline - n := by
  unfold remaining
  rw [← Nat.sub_sub, Nat.sub_mul_div]

/-- Extending the deadline by a number of periods adds at most that many. -/
theorem remaining_extend {unit : ℕ} (hunit : 0 < unit) (now deadline n : ℕ) :
    remaining unit now (deadline + unit * n) ≤ remaining unit now deadline + n := by
  unfold remaining
  rw [← Nat.add_mul_div_left _ _ hunit]
  refine Nat.div_le_div_right ?_
  omega

theorem remaining_of_le {unit now deadline : ℕ} (h : deadline ≤ now) :
    remaining unit now deadline = 0 := by
  rw [remaining, Nat.sub_eq_zero_of_le h, Nat.zero_div]

/-- A stock buys the time up to a deadline exactly when it pays for every period that starts
before it. -/
theorem le_add_mul_div_iff {unit rate : ℕ} (hunit : 0 < unit) (hrate : 0 < rate)
    (now deadline stock : ℕ) :
    deadline ≤ now + unit * (stock / rate) ↔ rate * ((deadline - now) ⌈/⌉ unit) ≤ stock := by
  rw [Nat.mul_comm rate, ← Nat.le_div_iff_mul_le hrate, ceilDiv_le_iff_le_mul hunit,
    Nat.sub_le_iff_le_add']

/-- At most one more period starts before a deadline than is whole. -/
theorem ceilDiv_le_remaining {unit : ℕ} (hunit : 0 < unit) (now deadline : ℕ) :
    (deadline - now) ⌈/⌉ unit ≤ remaining unit now deadline + 1 := by
  rw [ceilDiv_le_iff_le_mul hunit]
  exact (Nat.lt_mul_div_succ _ hunit).le

/-! ### Funding -/

variable {K : Type*} [CommRing K] [LinearOrder K] [IsStrictOrderedRing K]

/-- A stock covers a price per period for a number of periods. -/
def Funds (price : K) (stock periods : ℕ) : Prop := price * periods ≤ stock

section Funds

variable {price : K} {stock periods : ℕ}

theorem Funds.of_le (hprice : 0 ≤ price) {fewer : ℕ} (h : Funds price stock periods)
    (hle : fewer ≤ periods) : Funds price stock fewer :=
  (mul_le_mul_of_nonneg_left (Nat.cast_le.mpr hle) hprice).trans h

theorem funds_zero (price : K) (stock : ℕ) : Funds price stock 0 := by
  unfold Funds
  rw [Nat.cast_zero, mul_zero]
  exact Nat.cast_nonneg stock

/-- Taking the rounded share of some periods leaves enough for the others. -/
theorem Funds.consume {interval burned : ℕ} (h : Funds price stock periods)
    (hburned : burned ≤ stock / periods * interval) (hle : burned ≤ stock) :
    Funds price (stock - burned) (periods - interval) := by
  obtain hover | hunder := le_or_gt periods interval
  · rw [Nat.sub_eq_zero_of_le hover]
    exact funds_zero price _
  have hperiods : (0 : K) < periods := Nat.cast_pos.mpr (Nat.zero_lt_of_lt hunder)
  have hothers : (0 : K) ≤ periods - interval :=
    sub_nonneg.mpr (Nat.cast_le.mpr hunder.le)
  -- in multiples of the number of periods, so that the rounded share is exact
  have hshare : periods * burned ≤ stock * interval := by
    calc periods * burned ≤ periods * (stock / periods * interval) :=
          Nat.mul_le_mul_left periods hburned
      _ = periods * (stock / periods) * interval := (Nat.mul_assoc _ _ _).symm
      _ ≤ stock * interval := Nat.mul_le_mul_right interval (Nat.mul_div_le stock periods)
  have hcast : (periods : K) * burned ≤ stock * interval := by exact_mod_cast hshare
  unfold Funds at h ⊢
  rw [Nat.cast_sub hle, Nat.cast_sub hunder.le]
  refine le_of_mul_le_mul_left ?_ hperiods
  calc (periods : K) * (price * (periods - interval))
      = price * periods * (periods - interval) := by ring
    _ ≤ stock * (periods - interval) := mul_le_mul_of_nonneg_right h hothers
    _ = periods * stock - stock * interval := by ring
    _ ≤ periods * stock - periods * burned := by linarith
    _ = periods * (stock - burned) := by ring

/-- What is added pays for the periods it buys at a rate that is at least the price. -/
theorem Funds.extend {rate : ℕ} (hrate : price ≤ rate) (h : Funds price stock periods)
    (added : ℕ) : Funds price (stock + added) (periods + added / rate) := by
  have hbought : price * ((added / rate : ℕ) : K) ≤ added := by
    calc price * ((added / rate : ℕ) : K) ≤ rate * ((added / rate : ℕ) : K) :=
          mul_le_mul_of_nonneg_right hrate (Nat.cast_nonneg _)
      _ = ((rate * (added / rate) : ℕ) : K) := by rw [Nat.cast_mul]
      _ ≤ added := Nat.cast_le.mpr (Nat.mul_div_le added rate)
  unfold Funds at h ⊢
  rw [Nat.cast_add, Nat.cast_add, mul_add]
  exact add_le_add h hbought

/-- A stock pays for the periods it buys at a rate that is at least the price. -/
theorem funds_of_rate {rate : ℕ} (hrate : price ≤ rate) (stock : ℕ) :
    Funds price stock (stock / rate) := by
  have h := (funds_zero price 0).extend hrate stock
  rwa [Nat.zero_add, Nat.zero_add] at h

end Funds

/-! ### Prepaid accounts -/

structure Prepaid where
  stock : ℕ
  deadline : ℕ
  /-- The time up to which consumption has been taken out. -/
  horizon : ℕ

/-- What can be done with a prepaid account whose periods are bought at a rate. -/
inductive Step (unit interval rate : ℕ) (a : Prepaid) : Prepaid → Prop
  | wait {later : ℕ} (h : a.horizon ≤ later) : Step unit interval rate a { a with horizon := later }
  | consume {now burned : ℕ} (hdue : a.horizon ≤ now) (hle : burned ≤ a.stock)
      (hburned : now < a.deadline → burned ≤ a.stock / remaining unit now a.deadline * interval) :
      Step unit interval rate a
        { a with stock := a.stock - burned, horizon := now + unit * interval }
  | extend {added deadline : ℕ} (h : deadline ≤ a.deadline + unit * (added / rate)) :
      Step unit interval rate a { a with stock := a.stock + added, deadline }
  | reprice {deadline : ℕ} (h : deadline ≤ a.horizon + unit * (a.stock / rate)) :
      Step unit interval rate a { a with deadline }

/-- The stock funds a price from the horizon to the deadline. -/
def Funded (unit : ℕ) (price : K) (a : Prepaid) : Prop :=
  Funds price a.stock (remaining unit a.horizon a.deadline)

/-- Whatever is done at rates that are at least the price, the account stays funded. -/
theorem Funded.step {unit interval rate : ℕ} (hunit : 0 < unit) {price : K} (hprice : 0 ≤ price)
    (hrate : price ≤ rate) {a b : Prepaid} (h : Funded unit price a)
    (hstep : Step unit interval rate a b) : Funded unit price b := by
  unfold Funded at h ⊢
  cases hstep with
  | wait hlater => exact h.of_le hprice (remaining_le_of_le hlater)
  | @consume now burned hdue hle hburned =>
    have hnow : Funds price a.stock (remaining unit now a.deadline) :=
      h.of_le hprice (remaining_le_of_le hdue)
    dsimp only
    rw [remaining_later]
    obtain hpast | hahead := le_or_gt a.deadline now
    · rw [remaining_of_le hpast, Nat.zero_sub]
      exact funds_zero price _
    · exact hnow.consume (hburned hahead) hle
  | @extend added deadline hdeadline =>
    refine (h.extend hrate added).of_le hprice ?_
    exact (remaining_mono hdeadline).trans (remaining_extend hunit _ _ _)
  | @reprice deadline hdeadline =>
    refine (funds_of_rate hrate a.stock).of_le hprice ?_
    refine (remaining_mono hdeadline).trans ((remaining_extend hunit _ _ _).trans_eq ?_)
    rw [remaining_of_le le_rfl, Nat.zero_add]

/-- A funded account covers the price from any time on, up to what was taken out in advance. -/
theorem Funded.le {unit interval now : ℕ} {price : K} (hprice : 0 ≤ price) {a : Prepaid}
    (h : Funded unit price a) (hhorizon : a.horizon ≤ now + unit * interval) :
    price * ((remaining unit now a.deadline : K) - interval) ≤ a.stock := by
  have hlater := h.of_le hprice (remaining_le_of_le hhorizon)
  rw [remaining_later] at hlater
  refine le_trans (mul_le_mul_of_nonneg_left ?_ hprice) hlater
  have hle : remaining unit now a.deadline ≤
      remaining unit now a.deadline - interval + interval := by omega
  have hcast : (remaining unit now a.deadline : K) ≤
      ((remaining unit now a.deadline - interval : ℕ) : K) + interval := by exact_mod_cast hle
  linarith

/-! ### Granted time -/

/-- The deadline that a stock buys at a rate from a start on, at most a cap. -/
def granted (cap unit rate start stock : ℕ) : ℕ := min (start + unit * (stock / rate)) cap

section Granted

variable (cap unit rate start : ℕ)

theorem granted_mono {stock stock' : ℕ} (h : stock ≤ stock') :
    granted cap unit rate start stock ≤ granted cap unit rate start stock' := by
  have hperiods : stock / rate ≤ stock' / rate := Nat.div_le_div_right h
  exact min_le_min_right cap (Nat.add_le_add_left (Nat.mul_le_mul_left unit hperiods) start)

variable {rate} in
theorem granted_anti (stock : ℕ) {rate' : ℕ} (hrate : 0 < rate) (h : rate ≤ rate') :
    granted cap unit rate' start stock ≤ granted cap unit rate start stock := by
  have hperiods : stock / rate' ≤ stock / rate := Nat.div_le_div_left h hrate
  exact min_le_min_right cap (Nat.add_le_add_left (Nat.mul_le_mul_left unit hperiods) start)

/-- Two grants add up before they are capped. -/
theorem granted_granted (first second : ℕ) :
    granted cap unit rate (granted cap unit rate start first) second =
      min (start + unit * (first / rate + second / rate)) cap := by
  unfold granted
  rw [Nat.mul_add]
  omega

/-- Two grants never reach further than one for both stocks. -/
theorem granted_granted_le (first second : ℕ) :
    granted cap unit rate (granted cap unit rate start first) second ≤
      granted cap unit rate start (first + second) := by
  have hperiods : first / rate + second / rate ≤ (first + second) / rate :=
    Nat.div_add_div_le_add_div
  rw [granted_granted]
  exact min_le_min_right cap (Nat.add_le_add_left (Nat.mul_le_mul_left unit hperiods) start)

/-- One grant for both stocks reaches at most one period further than two. -/
theorem granted_add_le (first second : ℕ) :
    granted cap unit rate start (first + second) ≤
      granted cap unit rate (granted cap unit rate start first) second + unit := by
  have hperiods : (first + second) / rate ≤ first / rate + second / rate + 1 :=
    Nat.add_div_le_div_add_div_add_one first second rate
  have hnanos : unit * ((first + second) / rate) ≤ unit * (first / rate + second / rate) + unit :=
    (Nat.mul_le_mul_left unit hperiods).trans_eq (Nat.mul_succ unit _)
  rw [granted_granted]
  unfold granted
  omega

end Granted

end Foundation.FundedDeadline
