import HealthRules.Proofs.Number.Overflow
import Mathlib.Data.Nat.Log
import Mathlib.Tactic.Linarith

/-!
# Nearest — rounding and the order of numbers

What a quotient is rounded to depends on its value alone, and of two quotients the smaller one is not rounded to
the larger number. A quotient that needs no more than 53 binary digits stays as it is. Decimals that are decided before
they are rounded are no exception. So whatever is rounded, integers and decimals alike, keeps its place in the order,
or comes to share it.

* `Rounding.roundQuot_mono` and `Rounding.roundQuot_of_short`, the laws of rounding;
* `Decimal.round_eq`: the nearest number of a decimal is that of any quotient with its value;
* `Binary64.Rounds`, numbers that are nearest to rational numbers, and `Binary64.Rounds.rank_le`;
* `Binary64.Rounds.rank_eq`: integers up to `2 ^ 53` are not changed.
-/

namespace HealthRules

/-! ## Quotients -/

namespace Rounding

variable {num den num' den' : Nat}

/-- The nearest integer of the smaller quotient is not the larger one. -/
theorem divNearest_mono (hden : 0 < den) (hden' : 0 < den') (h : num * den' ≤ num' * den) :
    divNearest num den ≤ divNearest num' den' := by
  -- Whatever the greater quotient stays below, the smaller one stays below as well.
  have hbelow := (divNearest_lt_iff hden' _).1 (Nat.lt_succ_self (divNearest num' den'))
  refine Nat.le_of_lt_succ ((divNearest_lt_iff hden _).2 ?_)
  generalize (divNearest num' den').succ = m at hbelow ⊢
  by_contra hnot
  have hsmaller : (2 * m * den + m % 2) * den' ≤ (2 * num + den) * den' :=
    Nat.mul_le_mul_right den' (Nat.le_of_not_lt hnot)
  have hgreater : (2 * num' + den' + 1) * den ≤ (2 * m * den' + m % 2) * den :=
    Nat.mul_le_mul_right den hbelow
  rcases Nat.mod_two_eq_zero_or_one m with heven | hodd
  · rw [heven] at hsmaller hgreater
    linarith
  · rw [hodd] at hsmaller hgreater
    linarith

theorem div_le_div_of_mul_le (hden : 0 < den) (hden' : 0 < den') (h : num * den' ≤ num' * den) :
    num / den ≤ num' / den' := by
  rw [Nat.le_div_iff_mul_le hden']
  have hmul : num / den * den' * den ≤ num' * den := by
    calc
      num / den * den' * den = num / den * den * den' := Nat.mul_right_comm _ _ _
      _ ≤ num * den' := Nat.mul_le_mul_right _ (Nat.div_mul_le_self num den)
      _ ≤ num' * den := h
  exact Nat.le_of_mul_le_mul_right hmul hden

theorem excess_mono {q q' : Nat} (h : q ≤ q') : excess q ≤ excess q' := by
  have hlog : q.log2 ≤ q'.log2 := by
    rw [Nat.log2_eq_log_two, Nat.log2_eq_log_two]
    exact Nat.log_mono_right h
  exact Nat.sub_le_sub_right hlog 52

theorem roundQuot_eq {k : Nat} (h : excess (num / den) = k) :
    roundQuot num den = divNearest num (den * twoPow k) * twoPow k := by
  rw [← h]
  rfl

/-- The smaller quotient is not rounded to the larger number. -/
theorem roundQuot_mono (hden : 0 < den) (hden' : 0 < den') (h : num * den' ≤ num' * den) :
    roundQuot num den ≤ roundQuot num' den' := by
  have hexcess := excess_mono (div_le_div_of_mul_le hden hden' h)
  rcases Nat.eq_or_lt_of_le hexcess with heq | hlt
  · -- Both lose as many digits, and what is left of them is rounded to integers.
    let scale := twoPow (excess (num / den))
    have hscale : 0 < scale := twoPow_pos _
    have hscaled : num * (den' * scale) ≤ num' * (den * scale) := by
      rw [← Nat.mul_assoc, ← Nat.mul_assoc]
      exact Nat.mul_le_mul_right _ h
    rw [roundQuot_eq rfl, roundQuot_eq heq.symm]
    exact Nat.mul_le_mul_right _
      (divNearest_mono (Nat.mul_pos hden hscale) (Nat.mul_pos hden' hscale) hscaled)
  · -- There is a power of two between them.
    calc
      roundQuot num den ≤ twoPow (53 + excess (num / den)) := roundQuot_le num den
      _ ≤ twoPow (52 + excess (num' / den')) := twoPow_le_twoPow (by omega)
      _ ≤ roundQuot num' den' := le_roundQuot (by omega)

theorem roundQuot_congr (hden : 0 < den) (hden' : 0 < den') (h : num * den' = num' * den) :
    roundQuot num den = roundQuot num' den' :=
  Nat.le_antisymm (roundQuot_mono hden hden' h.le) (roundQuot_mono hden' hden h.ge)

/-- What is at most one half is rounded to zero. -/
theorem roundQuot_eq_zero (hden : 0 < den) (h : 2 * num ≤ den) : roundQuot num den = 0 := by
  have hquot : num / den = 0 := Nat.div_eq_of_lt (by omega)
  have hexcess : excess (num / den) = 0 := by rw [hquot, excess, Nat.log2_zero]
  have hround : divNearest num (den * twoPow 0) < 1 := by
    rw [divNearest_lt_iff (Nat.mul_pos hden (twoPow_pos 0)), twoPow_zero, Nat.mul_one]
    omega
  rw [roundQuot_eq hexcess, Nat.lt_one_iff.1 hround, Nat.zero_mul]

/-- A short number consists of its digits and of the zeros behind them. -/
theorem ShortBinary.exists_digits {u : Nat} (h : ShortBinary u) :
    ∃ digits, u = digits * twoPow (excess u) ∧ digits < twoPow 53 ∧
      (excess u = 0 ∨ twoPow 52 ≤ digits) := by
  rcases h with ⟨m, k, hm, hu⟩
  -- What is dropped of the number are zeros.
  have hk : excess u ≤ k := by
    by_contra hnot
    have hlow : twoPow (52 + excess u) ≤ u := twoPow_le_of_excess (by omega)
    have hhigh : u < twoPow (53 + k) := by
      rw [hu, twoPow_add]
      exact Nat.mul_lt_mul_of_pos_right hm (twoPow_pos k)
    have hpowers : twoPow (53 + k) ≤ twoPow (52 + excess u) := twoPow_le_twoPow (by omega)
    omega
  have hdvd : twoPow (excess u) ∣ u := by
    refine ⟨m * twoPow (k - excess u), ?_⟩
    rw [Nat.mul_left_comm, ← twoPow_add, Nat.add_sub_cancel' hk]
    exact hu
  refine ⟨u / twoPow (excess u), (Nat.div_mul_cancel hdvd).symm, div_lt_of_excess u, ?_⟩
  refine (Nat.eq_zero_or_pos (excess u)).imp_right fun hpos => ?_
  rw [Nat.le_div_iff_mul_le (twoPow_pos _), ← twoPow_add]
  exact twoPow_le_of_excess hpos

/-- A quotient that needs no more than 53 digits stays as it is. -/
theorem roundQuot_of_short {u : Nat} (h : ShortBinary u) (hden : 0 < den) : roundQuot (u * den) den = u := by
  rcases h.exists_digits with ⟨digits, hdigits, -, -⟩
  have hquot : u * den / den = u := Nat.mul_div_cancel u hden
  have hpos : 0 < den * twoPow (excess u) := Nat.mul_pos hden (twoPow_pos _)
  have hnum : u * den = digits * (den * twoPow (excess u)) := by
    conv_lhs => rw [hdigits]
    ring
  have hround : divNearest (u * den) (den * twoPow (excess u)) = digits := by
    rw [hnum, divNearest, Nat.mul_div_cancel _ hpos, Nat.mul_mod_left]
    simp [hpos]
  rw [roundQuot_eq (congrArg excess hquot), hround, ← hdigits]

end Rounding

open Rounding

/-! ## Numbers -/

namespace Binary64

theorem ofUnits_congr (negative : Bool) {u u' : Nat} (short : ShortBinary u) (short' : ShortBinary u')
    (h : u = u') : ofUnits negative u short = ofUnits negative u' short' := by
  subst h
  rfl

theorem ofUnits_eq_zero (negative : Bool) {u : Nat} (short : ShortBinary u) (h : u = 0) :
    ofUnits negative u short = .zero negative := by
  subst h
  exact dif_pos unitsLimit_pos

theorem ofUnits_eq_finite (negative : Bool) (m : Magnitude) {u : Nat} (short : ShortBinary u) (h : u = m.units) :
    ofUnits negative u short = .finite negative m := by
  subst h
  exact dif_pos m.lt_limit

theorem ofUnits_of_not_isFinite {negative : Bool} {u : Nat} {short : ShortBinary u}
    (h : (ofUnits negative u short).isFinite = false) : ofUnits negative u short = .infinite negative := by
  unfold ofUnits at *
  split
  · next hlt => simp [hlt, isFinite] at h
  · rfl

theorem rank_ofUnits (negative : Bool) {u : Nat} (short : ShortBinary u) :
    (ofUnits negative u short).rank = some (signed negative (min u unitsLimit)) := by
  unfold ofUnits
  split
  · next hlt => rw [Nat.min_eq_left hlt.le, rank]
  · next hge => rw [Nat.min_eq_right (Nat.le_of_not_lt hge), rank]

/-- Only the value of a quotient matters for its nearest number. -/
theorem ofQuot_congr (negative : Bool) {num den num' den' : Nat} (hden : 0 < den) (hden' : 0 < den')
    (h : num * den' = num' * den) : ofQuot negative num den = ofQuot negative num' den' := by
  refine ofUnits_congr negative _ _ (roundQuot_congr hden hden' ?_)
  rw [Nat.mul_right_comm, h, Nat.mul_right_comm]

end Binary64

/-! ## Decimals -/

namespace Decimal

/-- A coefficient with so many places that it is less than half a unit. -/
theorem ofQuot_eq_zero {coefficient n : Nat} (h : coefficient.log2 + 1077 < 3 * n) (negative : Bool) :
    Binary64.ofQuot negative coefficient (tenPow n) = .zero negative := by
  have hunits : 2 * (coefficient * unitsPerOne) ≤ tenPow n := by
    have hle : coefficient * twoPow (1074 + 1) ≤ tenPow n := mul_twoPow_le_tenPow (by omega)
    rw [twoPow_succ, ← unitsPerOne] at hle
    linarith
  exact Binary64.ofUnits_eq_zero negative _ (roundQuot_eq_zero (tenPow_pos n) hunits)

/-- A coefficient with so many zeros behind it that it is beyond the limit. -/
theorem ofQuot_eq_infinite {coefficient n : Nat} (hpos : 0 < coefficient) (h : 310 ≤ n) (negative : Bool) :
    Binary64.ofQuot negative (coefficient * tenPow n) 1 = .infinite negative := by
  have hbeyond : (twoPow 54 - 1) * twoPow 970 ≤ coefficient * tenPow n :=
    (limit_le_tenPow h).trans (Nat.le_mul_of_pos_left _ hpos)
  apply Binary64.ofUnits_of_not_isFinite
  rw [← Bool.not_eq_true, ← Binary64.ofQuot, Binary64.isFinite_ofQuot_iff _ _ Nat.one_pos, Nat.mul_one]
  exact Nat.not_lt.2 hbeyond

/-- The nearest number of a decimal is that of any quotient with its value. -/
theorem round_eq (d : Decimal) (negative : Bool) {num den : Nat} (hden : 0 < den)
    (hvalue : d.value = num / den) : d.round negative = .ofQuot negative num den := by
  have hden' : (den : ℚ) ≠ 0 := Nat.cast_ne_zero.2 hden.ne'
  rcases d with ⟨coefficient, exponent⟩
  by_cases hzero : coefficient = 0
  · have hnum : num = 0 := by
      have hquot : (num : ℚ) / den = 0 := by rw [← hvalue, value, hzero, Nat.cast_zero, zero_mul]
      simpa [hden'] using hquot
    have hunits : roundQuot (num * unitsPerOne) den = 0 := by
      rw [hnum, Nat.zero_mul]
      exact roundQuot_eq_zero hden (Nat.zero_le _)
    exact (if_pos hzero).trans (Binary64.ofUnits_eq_zero negative _ hunits).symm
  · cases exponent with
    | ofNat n =>
        have hcross : coefficient * tenPow n * den = num * 1 := by
          rw [value_ofNat, eq_div_iff hden'] at hvalue
          rw [Nat.mul_one]
          exact_mod_cast hvalue
        rw [← Binary64.ofQuot_congr negative Nat.one_pos hden hcross]
        simp only [round, if_neg hzero]
        -- What is decided beforehand is what rounding comes to.
        split
        · next hlarge => exact (ofQuot_eq_infinite (Nat.pos_of_ne_zero hzero) hlarge negative).symm
        · rfl
    | negSucc n =>
        have hten : ((tenPow (n + 1) : Nat) : ℚ) ≠ 0 := Nat.cast_ne_zero.2 (tenPow_pos _).ne'
        have hcross : coefficient * den = num * tenPow (n + 1) := by
          rw [value_negSucc, div_eq_div_iff hten hden'] at hvalue
          exact_mod_cast hvalue
        rw [← Binary64.ofQuot_congr negative (tenPow_pos _) hden hcross]
        simp only [round, if_neg hzero]
        split
        · next hsmall => exact (ofQuot_eq_zero hsmall negative).symm
        · rfl

theorem exists_quotient (d : Decimal) : ∃ num den : Nat, 0 < den ∧ d.value = num / den := by
  rcases d with ⟨coefficient, exponent⟩
  cases exponent with
  | ofNat n => exact ⟨coefficient * tenPow n, 1, Nat.one_pos, by rw [value_ofNat, Nat.cast_one, div_one]⟩
  | negSucc n => exact ⟨coefficient, tenPow (n + 1), tenPow_pos _, value_negSucc coefficient n⟩

end Decimal

/-! ## Order -/

namespace Binary64

/-- A rational number with a sign. -/
def withSign (negative : Bool) (q : ℚ) : ℚ := if negative then -q else q

/-- A number is nearest to a rational number. -/
inductive Rounds (q : ℚ) : Binary64 → Prop where
  | ofQuot (negative : Bool) (num : Nat) {den : Nat} (hden : 0 < den)
      (hvalue : q = withSign negative (num / den)) : Rounds q (.ofQuot negative num den)

theorem rounds_ofInt (i : Int) : Rounds i (ofInt i) := by
  refine .ofQuot (decide (i < 0)) i.natAbs Nat.one_pos ?_
  rw [Nat.cast_one, div_one, Nat.cast_natAbs]
  rcases lt_or_ge i 0 with hneg | hpos
  · simp [withSign, hneg, abs_of_neg hneg]
  · simp [withSign, hpos, abs_of_nonneg hpos]

theorem rounds_round (d : Decimal) (negative : Bool) :
    Rounds (withSign negative d.value) (d.round negative) := by
  rcases d.exists_quotient with ⟨num, den, hden, hvalue⟩
  rw [d.round_eq negative hden hvalue]
  exact .ofQuot negative num hden (congrArg _ hvalue)

/-- The place in the order of a number that is nearest to a quotient. -/
theorem rank_ofQuot (negative : Bool) (num den : Nat) :
    (ofQuot negative num den).rank =
      some (signed negative (min (roundQuot (num * unitsPerOne) den) unitsLimit)) :=
  rank_ofUnits negative _

theorem abs_withSign (negative : Bool) {q : ℚ} (hq : 0 ≤ q) : |withSign negative q| = q := by
  cases negative with
  | false => exact abs_of_nonneg hq
  | true => exact (abs_neg q).trans (abs_of_nonneg hq)

theorem signed_mul (negative : Bool) (m n : Nat) : signed negative (m * n) = signed negative m * n := by
  cases negative with
  | false => exact Int.natCast_mul m n
  | true => simp [signed]

theorem signed_nonneg (n : Nat) : 0 ≤ signed false n := Int.natCast_nonneg n

theorem signed_nonpos (n : Nat) : signed true n ≤ 0 := Int.neg_nonpos_of_nonneg (Int.natCast_nonneg n)

theorem signed_mono {m n : Nat} (h : m ≤ n) : signed false m ≤ signed false n := Int.ofNat_le.2 h

theorem signed_anti {m n : Nat} (h : m ≤ n) : signed true n ≤ signed true m :=
  Int.neg_le_neg (Int.ofNat_le.2 h)

namespace Rounds

variable {q q' : ℚ} {x x' : Binary64}

/-- The units of the smaller quotient are not more. -/
theorem units_le {num den num' den' : Nat} (hden : 0 < den) (hden' : 0 < den')
    (h : (num : ℚ) / den ≤ num' / den') :
    min (roundQuot (num * unitsPerOne) den) unitsLimit ≤
      min (roundQuot (num' * unitsPerOne) den') unitsLimit := by
  have hcross : num * den' ≤ num' * den := by
    rw [div_le_div_iff₀ (Nat.cast_pos.2 hden) (Nat.cast_pos.2 hden')] at h
    exact_mod_cast h
  refine min_le_min_right _ (roundQuot_mono hden hden' ?_)
  rw [Nat.mul_right_comm, Nat.mul_right_comm num']
  exact Nat.mul_le_mul_right _ hcross

theorem units_eq_zero {num den : Nat} (hden : 0 < den) (h : (num : ℚ) / den = 0) :
    min (roundQuot (num * unitsPerOne) den) unitsLimit = 0 := by
  have hnum : num = 0 := by simpa [hden.ne'] using h
  rw [hnum, Nat.zero_mul, roundQuot_eq_zero hden (Nat.zero_le _), Nat.zero_min]

theorem exists_rank (h : Rounds q x) : ∃ r, x.rank = some r := by
  rcases h with @⟨negative, num, den, hden, rfl⟩
  exact ⟨_, rank_ofQuot negative num den⟩

/-- Nearest numbers are in the order of the rational numbers, or equal. -/
theorem rank_le {r r' : Int} (h : Rounds q x) (h' : Rounds q' x') (hr : x.rank = some r) (hr' : x'.rank = some r')
    (hle : q ≤ q') : r ≤ r' := by
  rcases h with @⟨negative, num, den, hden, rfl⟩
  rcases h' with @⟨negative', num', den', hden', rfl⟩
  rw [rank_ofQuot, Option.some_inj] at hr hr'
  rw [← hr, ← hr']
  have hpos : (0 : ℚ) ≤ num / den := div_nonneg (Nat.cast_nonneg _) (Nat.cast_nonneg _)
  have hpos' : (0 : ℚ) ≤ num' / den' := div_nonneg (Nat.cast_nonneg _) (Nat.cast_nonneg _)
  cases negative with
  | false =>
      cases negative' with
      | false => exact signed_mono (units_le hden hden' hle)
      | true =>
          -- The signs are the wrong way round, so that both numbers are zero.
          have hzero : (num : ℚ) / den = 0 := le_antisymm (hle.trans (neg_nonpos.2 hpos')) hpos
          have hzero' : (num' : ℚ) / den' = 0 := le_antisymm (neg_nonneg.1 (hpos.trans hle)) hpos'
          rw [units_eq_zero hden hzero, units_eq_zero hden' hzero']
          rfl
  | true =>
      cases negative' with
      | false => exact (signed_nonpos _).trans (signed_nonneg _)
      | true => exact signed_anti (units_le hden' hden (neg_le_neg_iff.1 hle))

/-- An integer of at most 53 binary digits is its own nearest number. -/
theorem rank_eq {i : Int} (h : Rounds i x) (hsmall : i.natAbs ≤ twoPow 53) :
    x.rank = some (i * unitsPerOne) := by
  rcases h with @⟨negative, num, den, hden, hvalue⟩
  have hpos : (0 : ℚ) ≤ num / den := div_nonneg (Nat.cast_nonneg _) (Nat.cast_nonneg _)
  have hden' : (den : ℚ) ≠ 0 := Nat.cast_ne_zero.2 hden.ne'
  have hnum : num = i.natAbs * den := by
    have habs : ((i.natAbs : Nat) : ℚ) = num / den := by
      rw [Nat.cast_natAbs, Int.cast_abs, hvalue, abs_withSign negative hpos]
    rw [eq_div_iff hden'] at habs
    exact_mod_cast habs.symm
  have hunits : roundQuot (num * unitsPerOne) den = i.natAbs * unitsPerOne := by
    rw [hnum, Nat.mul_right_comm]
    exact roundQuot_of_short (shortBinary_of_le hsmall 1074) hden
  -- The limit cuts off nothing.
  have hlimit : i.natAbs * unitsPerOne ≤ unitsLimit := by
    calc
      i.natAbs * unitsPerOne ≤ twoPow 1024 * unitsPerOne :=
        Nat.mul_le_mul_right _ (hsmall.trans (twoPow_le_twoPow (by decide)))
      _ = unitsLimit := by rw [unitsPerOne, ← twoPow_add, unitsLimit]
  have hsign : signed negative i.natAbs = i := by
    cases negative with
    | false =>
        have hnonneg : 0 ≤ i := by exact_mod_cast hvalue.ge.trans' hpos
        exact Int.natAbs_of_nonneg hnonneg
    | true =>
        have hnonpos : i ≤ 0 := by exact_mod_cast hvalue.le.trans (neg_nonpos.2 hpos)
        exact (congrArg (- ·) (Int.ofNat_natAbs_of_nonpos hnonpos)).trans (Int.neg_neg i)
  rw [rank_ofQuot, hunits, Nat.min_eq_left hlimit, signed_mul, hsign]

end Rounds

end Binary64

end HealthRules
