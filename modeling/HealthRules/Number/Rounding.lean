import HealthRules.Number.Powers

/-!
# Rounding — quotients rounded to 53 binary digits

A quotient of natural numbers is rounded to the nearest integer, or to the nearest integer with at most
53 significant binary digits. Of two equally near neighbours the one with an even last digit is taken.

This file defines:

* `divNearest`, the nearest integer of a quotient;
* `roundQuot`, the nearest number `m * 2 ^ k` with `m` of at most 53 digits;
* `ShortBinary`, the numbers that have such a form, with the lemma that `roundQuot` yields one.
-/

namespace HealthRules.Rounding

/-! ## To the nearest integer -/

/-- The integer nearest to `num / den`, the even one of two. -/
def divNearest (num den : Nat) : Nat :=
  let q := num / den
  let twice := 2 * (num % den)
  if twice < den then q
  else if den < twice then q + 1
  else if q % 2 = 0 then q
  else q + 1

theorem divNearest_le (num den : Nat) : divNearest num den ≤ num / den + 1 := by
  unfold divNearest
  simp only
  split
  · omega
  · split
    · omega
    · split <;> omega

/-! ## To 53 digits -/

/-- The number of binary digits by which the integer `q` exceeds 53. -/
def excess (q : Nat) : Nat := q.log2 - 52

/-- The numbers with at most 53 significant binary digits. -/
def ShortBinary (n : Nat) : Prop := ∃ m k, m < twoPow 53 ∧ n = m * twoPow k

/-- The number nearest to `num / den` among those with at most 53 significant binary digits. -/
def roundQuot (num den : Nat) : Nat :=
  let k := excess (num / den)
  divNearest num (den * twoPow k) * twoPow k

theorem div_lt_of_excess (q : Nat) : q / twoPow (excess q) < twoPow 53 := by
  rw [Nat.div_lt_iff_lt_mul (twoPow_pos _), ← twoPow_add]
  refine Nat.lt_of_lt_of_le (lt_twoPow_log2 q) (twoPow_le_twoPow ?_)
  unfold excess
  omega

theorem shortBinary_of_le {m : Nat} (h : m ≤ twoPow 53) (k : Nat) : ShortBinary (m * twoPow k) := by
  rcases Nat.lt_or_eq_of_le h with hlt | heq
  · exact ⟨m, k, hlt, rfl⟩
  · refine ⟨twoPow 52, k + 1, by decide, ?_⟩
    rw [heq, twoPow_succ k, twoPow_succ 52, Nat.mul_assoc, Nat.mul_comm 2]

theorem shortBinary_roundQuot (num den : Nat) : ShortBinary (roundQuot num den) := by
  unfold roundQuot
  simp only
  apply shortBinary_of_le
  have hle := divNearest_le num (den * twoPow (excess (num / den)))
  rw [← Nat.div_div_eq_div_mul] at hle
  have hlt := div_lt_of_excess (num / den)
  omega

end HealthRules.Rounding
