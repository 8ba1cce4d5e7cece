/-!
# Powers — the powers of two and of ten

The scales of binary and decimal numbers, with the order and product laws that rounding rests on.

* `twoPow` and `tenPow`, the powers;
* `twoPow_add`, `twoPow_le_twoPow` and `lt_twoPow_log2`, by which digits are counted.
-/

namespace HealthRules

/-- The number with a one followed by `k` binary zeros. -/
def twoPow (k : Nat) : Nat := Nat.pow 2 k

/-- The number with a one followed by `k` decimal zeros. -/
def tenPow (k : Nat) : Nat := Nat.pow 10 k

theorem twoPow_zero : twoPow 0 = 1 := rfl

theorem twoPow_succ (k : Nat) : twoPow (k + 1) = twoPow k * 2 := rfl

theorem twoPow_pos (k : Nat) : 0 < twoPow k := Nat.two_pow_pos k

theorem tenPow_pos (k : Nat) : 0 < tenPow k := Nat.pow_pos (by decide)

theorem twoPow_add (a b : Nat) : twoPow (a + b) = twoPow a * twoPow b := Nat.pow_add 2 a b

theorem twoPow_le_twoPow {a b : Nat} (h : a ≤ b) : twoPow a ≤ twoPow b :=
  Nat.pow_le_pow_right (by decide) h

theorem lt_twoPow_log2 (n : Nat) : n < twoPow (n.log2 + 1) := Nat.lt_log2_self

end HealthRules
