import SubnetRental.Canister.Pricing
import Mathlib.Algebra.Order.Ring.Nat
import Mathlib.Tactic.Ring

/-!
# The price of a subnet

`calculateSubnetPrice` multiplies and divides with checks, but it raises ten to the decimals without
a check and casts the price to 64 bits without one. `PriceExact` is what it should do, and
`price_exact_iff` says for which inputs it does: when one of its checks fails, and when neither the
unchecked power nor the cast loses anything (`Priceable`).
-/

set_option autoImplicit false
set_option relaxedAutoImplicit false

namespace SubnetRental.Rates

open Canister Foundation.MachineInteger

section Price

variable (dailyCostCycles initialRentalPeriodDays rate decimals : ℕ)

/-- The price in e8s over unbounded integers. -/
def exactPrice : ℕ :=
  dailyCostCycles * initialRentalPeriodDays * 10 ^ decimals / (rate * 10 ^ 4)

/-- A computed price is the exact one, and there is none when the rate is zero, the exact price does
not fit into 64 bits or a product does not fit into 128 bits. -/
structure PriceExact : Prop where
  exact : ∀ tokens, calculateSubnetPrice dailyCostCycles initialRentalPeriodDays rate decimals =
    .ok tokens →
      tokens.e8s = exactPrice dailyCostCycles initialRentalPeriodDays rate decimals
  fails : rate = 0 ∨ 2 ^ 64 ≤ exactPrice dailyCostCycles initialRentalPeriodDays rate decimals ∨
    2 ^ 128 ≤ dailyCostCycles * initialRentalPeriodDays ∨
      2 ^ 128 ≤ dailyCostCycles * initialRentalPeriodDays * 10 ^ decimals →
    ∃ data, calculateSubnetPrice dailyCostCycles initialRentalPeriodDays rate decimals =
      .error (.priceCalculationError data)

/-- One of the checks of the calculation fails. -/
def CheckFails : Prop :=
  rate = 0 ∨ 2 ^ 128 ≤ dailyCostCycles * initialRentalPeriodDays ∨
    2 ^ 128 ≤ dailyCostCycles * initialRentalPeriodDays * (10 ^ decimals % 2 ^ 128)

/-- One of the checks fails, or the products and the price fit into their types. -/
def Priceable : Prop :=
  CheckFails dailyCostCycles initialRentalPeriodDays rate decimals ∨
    (dailyCostCycles * initialRentalPeriodDays * 10 ^ decimals < 2 ^ 128 ∧
      exactPrice dailyCostCycles initialRentalPeriodDays rate decimals < 2 ^ 64)

instance : Decidable (CheckFails dailyCostCycles initialRentalPeriodDays rate decimals) :=
  inferInstanceAs (Decidable (_ ∨ _))

instance : Decidable (Priceable dailyCostCycles initialRentalPeriodDays rate decimals) :=
  inferInstanceAs (Decidable (_ ∨ _))

/-- The calculation as one division after one test. -/
theorem calculateSubnetPrice_eq :
    calculateSubnetPrice dailyCostCycles initialRentalPeriodDays rate decimals =
      if CheckFails dailyCostCycles initialRentalPeriodDays rate decimals then
        .error (.priceCalculationError
          { dailyCostCycles, initialRentalPeriodDays, scaledExchangeRateXdrPerIcp := rate,
            decimals })
      else
        .ok ⟨truncate 64 (dailyCostCycles * initialRentalPeriodDays *
          (10 ^ decimals % 2 ^ 128) / (rate * 10 ^ 4))⟩ := by
  unfold calculateSubnetPrice checkedMul checkedDiv wrappingPow
  rw [Nat.mul_comm initialRentalPeriodDays]
  dsimp only
  by_cases hneeded : dailyCostCycles * initialRentalPeriodDays < 2 ^ 128
  · rw [if_pos hneeded, Option.bind_some, Nat.mul_comm (10 ^ decimals % 2 ^ 128)]
    by_cases hscaled :
        dailyCostCycles * initialRentalPeriodDays * (10 ^ decimals % 2 ^ 128) < 2 ^ 128
    · rw [if_pos hscaled, Option.bind_some]
      by_cases hrate : rate = 0
      · rw [if_pos hrate, Option.bind_none, if_pos (.inl hrate)]
      · have hchecks : ¬ CheckFails dailyCostCycles initialRentalPeriodDays rate decimals := by
          unfold CheckFails
          omega
        have hten : (10_000 : ℕ) = 10 ^ 4 := by decide
        rw [if_neg hrate, Option.bind_some, if_neg (by decide), if_neg hchecks,
          Nat.div_div_eq_div_mul, hten]
    · rw [if_neg hscaled, Option.bind_none, Option.bind_none,
        if_pos (.inr (.inr (Nat.le_of_not_lt hscaled)))]
  · rw [if_neg hneeded, Option.bind_none, Option.bind_none, Option.bind_none,
      if_pos (.inr (.inl (Nat.le_of_not_lt hneeded)))]

/-- The calculation fails exactly when one of its checks does. -/
theorem calculateSubnetPrice_isError_iff :
    (∃ data, calculateSubnetPrice dailyCostCycles initialRentalPeriodDays rate decimals =
      .error (.priceCalculationError data)) ↔
        CheckFails dailyCostCycles initialRentalPeriodDays rate decimals := by
  rw [calculateSubnetPrice_eq]
  split_ifs with hchecks
  · exact iff_of_true ⟨_, rfl⟩ hchecks
  · refine iff_of_false ?_ hchecks
    rintro ⟨data, hdata⟩
    cases hdata

/-- The unchecked power loses nothing that the products keep. -/
theorem mul_wrapped_pow {needed : ℕ} (h : needed * 10 ^ decimals < 2 ^ 128) :
    needed * (10 ^ decimals % 2 ^ 128) = needed * 10 ^ decimals := by
  rcases Nat.eq_zero_or_pos needed with rfl | hpos
  · rw [Nat.zero_mul, Nat.zero_mul]
  · have hle : 10 ^ decimals ≤ needed * 10 ^ decimals := Nat.le_mul_of_pos_left _ hpos
    rw [Nat.mod_eq_of_lt (hle.trans_lt h)]

/-- What is calculated from inputs that fit is the exact price. -/
theorem exact_of_fits {tokens : Tokens}
    (hok : calculateSubnetPrice dailyCostCycles initialRentalPeriodDays rate decimals = .ok tokens)
    (hproduct : dailyCostCycles * initialRentalPeriodDays * 10 ^ decimals < 2 ^ 128)
    (hprice : exactPrice dailyCostCycles initialRentalPeriodDays rate decimals < 2 ^ 64) :
    tokens.e8s = exactPrice dailyCostCycles initialRentalPeriodDays rate decimals := by
  rw [calculateSubnetPrice_eq] at hok
  split_ifs at hok
  obtain rfl := Except.ok.inj hok
  rw [mul_wrapped_pow decimals hproduct]
  exact truncate_of_lt hprice

end Price

/-- The price is exact exactly for the inputs that are `Priceable`, and for these it does not
increase when the rate grows. -/
theorem price_exact_iff (dailyCostCycles initialRentalPeriodDays decimals : ℕ) :
    (∀ rate, PriceExact dailyCostCycles initialRentalPeriodDays rate decimals ↔
      Priceable dailyCostCycles initialRentalPeriodDays rate decimals) ∧
      ∀ rate rate' tokens tokens', rate ≤ rate' →
        Priceable dailyCostCycles initialRentalPeriodDays rate decimals →
        Priceable dailyCostCycles initialRentalPeriodDays rate' decimals →
        calculateSubnetPrice dailyCostCycles initialRentalPeriodDays rate decimals = .ok tokens →
        calculateSubnetPrice dailyCostCycles initialRentalPeriodDays rate' decimals =
          .ok tokens' →
          tokens' ≤ tokens := by
  have hfits {rate : ℕ} {tokens : Tokens}
      (hok : calculateSubnetPrice dailyCostCycles initialRentalPeriodDays rate decimals =
        .ok tokens) :
      ¬ CheckFails dailyCostCycles initialRentalPeriodDays rate decimals := by
    intro hchecks
    obtain ⟨data, hdata⟩ := (calculateSubnetPrice_isError_iff _ _ _ _).mpr hchecks
    exact absurd (hok.symm.trans hdata) (by simp)
  constructor
  · intro rate
    constructor
    · intro hexact
      by_cases hchecks : CheckFails dailyCostCycles initialRentalPeriodDays rate decimals
      · exact .inl hchecks
      · refine .inr ?_
        -- otherwise the calculation would have to fail although its checks pass
        have hnot : ¬ _ := fun hlarge ↦
          hchecks ((calculateSubnetPrice_isError_iff _ _ _ _).mp (hexact.fails hlarge))
        omega
    · rintro (hchecks | ⟨hproduct, hprice⟩)
      · exact ⟨fun tokens hok ↦ absurd hchecks (hfits hok), fun _ ↦
          (calculateSubnetPrice_isError_iff _ _ _ _).mpr hchecks⟩
      · refine ⟨fun tokens hok ↦ exact_of_fits _ _ _ _ hok hproduct hprice, fun hlarge ↦ ?_⟩
        rw [calculateSubnetPrice_isError_iff]
        have hneeded : dailyCostCycles * initialRentalPeriodDays ≤
            dailyCostCycles * initialRentalPeriodDays * 10 ^ decimals :=
          Nat.le_mul_of_pos_right _ (Nat.pow_pos (by decide))
        exact .inl (by omega)
  · intro rate rate' tokens tokens' hrate hpriceable hpriceable' hok hok'
    obtain ⟨hproduct, hprice⟩ := hpriceable.resolve_left (hfits hok)
    obtain ⟨hproduct', hprice'⟩ := hpriceable'.resolve_left (hfits hok')
    have hpos : 0 < rate := Nat.pos_of_ne_zero fun hzero ↦ hfits hok (.inl hzero)
    rw [Tokens.le_iff, exact_of_fits _ _ _ _ hok hproduct hprice,
      exact_of_fits _ _ _ _ hok' hproduct' hprice']
    exact Nat.div_le_div_left (Nat.mul_le_mul_right _ hrate)
      (Nat.mul_pos hpos (Nat.pow_pos (by decide)))

/-- The price of a subnet at two rates of 3 and 4 XDR per ICP. -/
theorem price_exact_threeAndFour :
    PriceExact (820 * trillion) 180 3_000_000_000 9 ∧
      ∃ tokens tokens',
        calculateSubnetPrice (820 * trillion) 180 3_000_000_000 9 = .ok tokens ∧
        calculateSubnetPrice (820 * trillion) 180 4_000_000_000 9 = .ok tokens' ∧
        tokens' ≤ tokens :=
  ⟨((price_exact_iff _ _ _).1 _).mpr (by decide +kernel), _, _, rfl, rfl,
    (price_exact_iff (820 * trillion) 180 9).2 3_000_000_000 4_000_000_000 _ _ (by decide)
      (by decide +kernel) (by decide +kernel) rfl rfl⟩

/-- At a rate of `10 ^ -9` XDR per ICP the cast to 64 bits gives a price that is too low, and at 128
decimals the power is zero and so is the price. -/
theorem price_not_exact :
    ¬ PriceExact (820 * trillion) 180 1 9 ∧ ¬ PriceExact (820 * trillion) 180 1 128 := by
  constructor
  · intro hexact
    have hprice := hexact.exact _ rfl
    exact absurd hprice (by decide +kernel)
  · intro hexact
    have hprice := hexact.exact _ rfl
    exact absurd hprice (by decide +kernel)

end SubnetRental.Rates
