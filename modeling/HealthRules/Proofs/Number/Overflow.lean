import HealthRules.Number.Numeral
import Mathlib.Algebra.Order.Field.Power
import Mathlib.Data.Rat.Cast.Order
import Mathlib.Tactic.NormNum
import Mathlib.Tactic.Ring

/-!
# Overflow — which decimals have a finite number

A decimal is rounded to the nearest number, and it is infinite if it is so large that the next power of two would be
nearest. Half a digit before that power is the limit, which belongs to the infinite numbers, because it is the power of
two that is even. Decimals with large exponents are decided before they are rounded, and the same way.

* `divNearest_lt_iff` and `roundQuot_lt_iff`: when rounding stays below a number and below a power of two;
* `Binary64.isFinite_ofQuot_iff`, for quotients;
* `Decimal.value` and `Decimal.isFinite_round_iff`: a decimal has a finite number just if it is below the limit.
-/

namespace HealthRules

/-! ## Rounding -/

namespace Rounding

variable {num den : Nat}

theorem le_divNearest (num den : Nat) : num / den ≤ divNearest num den := by
  unfold divNearest
  simp only
  split
  · exact Nat.le_refl _
  · split
    · exact Nat.le_succ _
    · split
      · exact Nat.le_refl _
      · exact Nat.le_succ _

/-- Rounding leads to a number `m` from half a unit below it on; at half a unit it does if `m` is even. -/
theorem divNearest_lt_iff (hden : 0 < den) (m : Nat) :
    divNearest num den < m ↔ 2 * num + den < 2 * m * den + m % 2 := by
  have hnum : den * (num / den) + num % den = num := Nat.div_add_mod _ _
  have hrest : num % den < den := Nat.mod_lt _ hden
  rcases Nat.lt_trichotomy (num / den + 1) m with hlt | heq | hgt
  · -- Even the next number is below `m`.
    have hle : divNearest num den ≤ num / den + 1 := divNearest_le num den
    have hmul : (num / den + 2) * den ≤ m * den := Nat.mul_le_mul_right den hlt
    have hsplit : (num / den + 2) * den = den * (num / den) + 2 * den := by ring
    have htwice : 2 * m * den = 2 * (m * den) := Nat.mul_assoc _ _ _
    omega
  · -- The next number is `m`, and what is left of the quotient decides.
    have hmul : 2 * m * den = 2 * (den * (num / den)) + 2 * den := by
      rw [← heq]
      ring
    rw [hmul]
    unfold divNearest
    simp only
    split
    · omega
    · split
      · omega
      · split <;> omega
  · -- The quotient has reached `m`, and rounding does not go below it.
    have hle : num / den ≤ divNearest num den := le_divNearest num den
    have hmul : m * den ≤ num / den * den := Nat.mul_le_mul_right den (Nat.le_of_lt_succ hgt)
    have hcomm : num / den * den = den * (num / den) := Nat.mul_comm _ _
    have htwice : 2 * m * den = 2 * (m * den) := Nat.mul_assoc _ _ _
    omega

/-! ## To 53 digits -/

/-- What has digits to lose has exactly 53 left without them. -/
theorem twoPow_le_of_excess {q : Nat} (h : 0 < excess q) : twoPow (52 + excess q) ≤ q := by
  have hpos : q ≠ 0 := by
    rintro rfl
    exact absurd h (by decide)
  have hlog : 52 + excess q = q.log2 := by
    unfold excess at *
    omega
  rw [hlog]
  exact Nat.log2_self_le hpos

theorem lt_twoPow_excess (q : Nat) : q < twoPow (53 + excess q) := by
  rw [twoPow_add]
  exact (Nat.div_lt_iff_lt_mul (twoPow_pos _)).1 (div_lt_of_excess q)

theorem div_excess (num den k : Nat) : num / (den * twoPow k) = num / den / twoPow k :=
  (Nat.div_div_eq_div_mul _ _ _).symm

theorem roundQuot_le (num den : Nat) : roundQuot num den ≤ twoPow (53 + excess (num / den)) := by
  have hle := divNearest_le num (den * twoPow (excess (num / den)))
  have hlt := div_lt_of_excess (num / den)
  rw [div_excess] at hle
  rw [twoPow_add]
  exact Nat.mul_le_mul_right _ (hle.trans hlt)

theorem le_roundQuot {num den : Nat} (h : 0 < excess (num / den)) :
    twoPow (52 + excess (num / den)) ≤ roundQuot num den := by
  have hquot : twoPow 52 ≤ num / den / twoPow (excess (num / den)) := by
    rw [Nat.le_div_iff_mul_le (twoPow_pos _), ← twoPow_add]
    exact twoPow_le_of_excess h
  rw [twoPow_add]
  refine Nat.mul_le_mul_right _ (hquot.trans ?_)
  rw [← div_excess]
  exact le_divNearest _ _

/-- Rounding leads to a power of two from half of the last digit before it on. -/
theorem roundQuot_lt_iff (hden : 0 < den) (k : Nat) :
    roundQuot num den < twoPow (54 + k) ↔ num < (twoPow 54 - 1) * twoPow k * den := by
  have hpos : 0 < twoPow k * den := Nat.mul_pos (twoPow_pos k) hden
  have hlimit : (twoPow 54 - 1) * twoPow k * den + twoPow k * den = twoPow (54 + k) * den := by
    rw [twoPow_add, Nat.mul_assoc, Nat.mul_assoc, ← Nat.succ_mul]
    rfl
  rcases Nat.lt_trichotomy (excess (num / den)) (k + 1) with hlt | heq | hgt
  · -- The power is out of reach.
    have hle : twoPow (53 + excess (num / den)) ≤ twoPow (53 + k) := twoPow_le_twoPow (by omega)
    have hround : roundQuot num den < twoPow (54 + k) := by
      have hpower : twoPow (54 + k) = twoPow (53 + k) * 2 := by rw [← twoPow_succ, Nat.add_right_comm]
      have hle' := roundQuot_le num den
      have hpos' := twoPow_pos (53 + k)
      omega
    have hnum : num < twoPow (53 + k) * den :=
      (Nat.div_lt_iff_lt_mul hden).1 ((lt_twoPow_excess _).trans_le hle)
    have hbound : twoPow (53 + k) * den ≤ (twoPow 54 - 1) * twoPow k * den := by
      rw [twoPow_add]
      exact Nat.mul_le_mul_right _ (Nat.mul_le_mul_right _ (by decide))
    exact iff_of_true hround (hnum.trans_le hbound)
  · -- The power follows the last number with one digit less.
    have hround : roundQuot num den = divNearest num (den * twoPow (k + 1)) * twoPow (k + 1) := by
      rw [← heq]
      rfl
    have hpower : twoPow (54 + k) = twoPow 53 * twoPow (k + 1) := by rw [← twoPow_add]; congr 1; omega
    rw [hround, hpower, Nat.mul_lt_mul_right (twoPow_pos _),
      divNearest_lt_iff (Nat.mul_pos hden (twoPow_pos _)) (twoPow 53)]
    have hstep : den * twoPow (k + 1) = 2 * (twoPow k * den) := by
      rw [twoPow_succ]
      ring
    have heven : twoPow 53 % 2 = 0 := by decide
    have hwhole : 2 * twoPow 53 * (2 * (twoPow k * den)) = 2 * (twoPow (54 + k) * den) := by
      rw [twoPow_add 54 k, show twoPow 54 = twoPow 53 * 2 from rfl]
      ring
    rw [hstep, hwhole, heven]
    omega
  · -- The power has been passed.
    have hle : twoPow (54 + k) ≤ twoPow (52 + excess (num / den)) := twoPow_le_twoPow (by omega)
    have hround := hle.trans (le_roundQuot (by omega))
    have hquot := hle.trans (twoPow_le_of_excess (by omega))
    have hnum : twoPow (54 + k) * den ≤ num := (Nat.le_div_iff_mul_le hden).1 hquot
    exact iff_of_false (Nat.not_lt.2 hround) (by omega)

end Rounding

/-! ## Finite numbers -/

open Rounding

namespace Binary64

theorem isFinite_ofUnits_iff (negative : Bool) {units : Nat} (short : ShortBinary units) :
    (ofUnits negative units short).isFinite = true ↔ units < unitsLimit := by
  unfold ofUnits
  split <;> simp [isFinite, *]

/-- A quotient is finite up to half of the last digit before `2 ^ 1024`. -/
theorem isFinite_ofQuot_iff (negative : Bool) (num : Nat) {den : Nat} (hden : 0 < den) :
    (ofQuot negative num den).isFinite = true ↔ num < (twoPow 54 - 1) * twoPow 970 * den := by
  have hunits : (twoPow 54 - 1) * twoPow 2044 * den = (twoPow 54 - 1) * twoPow 970 * den * unitsPerOne := by
    rw [unitsPerOne, twoPow_add 970 1074]
    ring
  have hlimit : unitsLimit = twoPow (54 + 2044) := rfl
  rw [ofQuot, isFinite_ofUnits_iff, hlimit, roundQuot_lt_iff hden, hunits]
  exact Nat.mul_lt_mul_right (twoPow_pos 1074)

end Binary64

namespace Decimal

/-- The number that a decimal stands for. -/
def value (d : Decimal) : ℚ := d.coefficient * 10 ^ d.exponent

/-- The limit of the numbers that are rounded to finite ones. -/
def limit : ℚ := 2 ^ 1024 - 2 ^ 970

theorem cast_twoPow (k : Nat) : ((twoPow k : Nat) : ℚ) = 2 ^ k := Nat.cast_pow 2 k

theorem limit_eq : limit = ((twoPow 54 - 1) * twoPow 970 : Nat) := by
  have hpower : (2 : ℚ) ^ 1024 = 2 ^ 54 * 2 ^ 970 := pow_add 2 54 970
  have hdigits : ((twoPow 54 - 1 : Nat) : ℚ) = 2 ^ 54 - 1 := by norm_num [twoPow]
  rw [limit, hpower, Nat.cast_mul, hdigits, cast_twoPow, sub_mul, one_mul]

theorem value_ofNat (coefficient n : Nat) :
    value ⟨coefficient, .ofNat n⟩ = (coefficient * tenPow n : Nat) := by
  simp [value, tenPow]

theorem value_negSucc (coefficient n : Nat) :
    value ⟨coefficient, .negSucc n⟩ = (coefficient : ℚ) / (tenPow (n + 1) : Nat) := by
  simp [value, tenPow, zpow_negSucc, div_eq_mul_inv]

theorem twoPow_mul (a b : Nat) : twoPow (a * b) = twoPow a ^ b := Nat.pow_mul 2 a b

theorem tenPow_mul (a b : Nat) : tenPow (a * b) = tenPow a ^ b := Nat.pow_mul 10 a b

theorem tenPow_le_tenPow {a b : Nat} (h : a ≤ b) : tenPow a ≤ tenPow b :=
  Nat.pow_le_pow_right (by decide) h

/-- From `10 ^ 310` on, decimals are beyond the limit. -/
theorem limit_le_tenPow {n : Nat} (h : 310 ≤ n) : (twoPow 54 - 1) * twoPow 970 ≤ tenPow n := by
  have hfifth : twoPow 205 ≤ tenPow 62 := by decide
  calc
    (twoPow 54 - 1) * twoPow 970 ≤ twoPow 54 * twoPow 970 := Nat.mul_le_mul_right _ (Nat.sub_le _ _)
    _ = twoPow (54 + 970) := (twoPow_add _ _).symm
    _ ≤ twoPow (205 * 5) := twoPow_le_twoPow (by decide)
    _ = twoPow 205 ^ 5 := twoPow_mul 205 5
    _ ≤ tenPow 62 ^ 5 := Nat.pow_le_pow_left hfifth 5
    _ = tenPow (62 * 5) := (tenPow_mul 62 5).symm
    _ ≤ tenPow n := tenPow_le_tenPow h

/-- Three binary digits make less than a decimal place. -/
theorem mul_twoPow_le_tenPow {coefficient k n : Nat} (h : coefficient.log2 + 1 + k ≤ 3 * n) :
    coefficient * twoPow k ≤ tenPow n := by
  calc
    coefficient * twoPow k ≤ twoPow (coefficient.log2 + 1) * twoPow k :=
      Nat.mul_le_mul_right _ (lt_twoPow_log2 coefficient).le
    _ = twoPow (coefficient.log2 + 1 + k) := (twoPow_add _ _).symm
    _ ≤ twoPow (3 * n) := twoPow_le_twoPow h
    _ = twoPow 3 ^ n := twoPow_mul 3 n
    _ ≤ tenPow n := Nat.pow_le_pow_left (by decide) n

/-- A coefficient with less than three binary digits for each decimal place makes less than one. -/
theorem lt_tenPow_of_log2 {coefficient n : Nat} (h : coefficient.log2 + 1077 < 3 * n) :
    coefficient < tenPow n := by
  have hhalf : coefficient * 2 ≤ tenPow n := mul_twoPow_le_tenPow (k := 1) (by omega)
  have hten := tenPow_pos n
  omega

/-- A decimal is rounded to a finite number just if it is below the limit. -/
theorem isFinite_round_iff (d : Decimal) (negative : Bool) :
    (d.round negative).isFinite = true ↔ d.value < limit := by
  have hlimit : 0 < (twoPow 54 - 1) * twoPow 970 := Nat.mul_pos (by decide) (twoPow_pos _)
  rcases d with ⟨coefficient, exponent⟩
  by_cases hzero : coefficient = 0
  · have hvalue : value ⟨coefficient, exponent⟩ = 0 := by simp [value, hzero]
    have hround : round negative ⟨coefficient, exponent⟩ = .zero negative := if_pos hzero
    rw [hround, hvalue, limit_eq, Nat.cast_pos]
    exact iff_of_true rfl hlimit
  · have hpos : 0 < coefficient := Nat.pos_of_ne_zero hzero
    cases exponent with
    | ofNat n =>
        rw [value_ofNat, limit_eq, Nat.cast_lt]
        simp only [round, if_neg hzero]
        by_cases hlarge : 310 ≤ n
        · -- The decimal is too large whatever its coefficient is.
          have hbeyond : (twoPow 54 - 1) * twoPow 970 ≤ coefficient * tenPow n :=
            (limit_le_tenPow hlarge).trans (Nat.le_mul_of_pos_left _ hpos)
          rw [if_pos hlarge]
          exact iff_of_false nofun (Nat.not_lt.2 hbeyond)
        · rw [if_neg hlarge, Binary64.isFinite_ofQuot_iff _ _ Nat.one_pos, Nat.mul_one]
    | negSucc n =>
        have hten : (0 : ℚ) < (tenPow (n + 1) : Nat) := Nat.cast_pos.2 (tenPow_pos _)
        rw [value_negSucc, limit_eq, div_lt_iff₀ hten, ← Nat.cast_mul, Nat.cast_lt]
        simp only [round, if_neg hzero]
        by_cases hsmall : coefficient.log2 + 1077 < 3 * (n + 1)
        · -- The decimal is less than one.
          have hbelow : coefficient < (twoPow 54 - 1) * twoPow 970 * tenPow (n + 1) :=
            (lt_tenPow_of_log2 hsmall).trans_le (Nat.le_mul_of_pos_left _ hlimit)
          rw [if_pos hsmall]
          exact iff_of_true rfl hbelow
        · rw [if_neg hsmall, Binary64.isFinite_ofQuot_iff _ _ (tenPow_pos _)]

end Decimal

end HealthRules
