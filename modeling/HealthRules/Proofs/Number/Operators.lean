import HealthRules.Comparison
import Mathlib.Data.Int.Order.Basic
import Mathlib.Order.Lattice

/-!
# Operators — what the operators say in any order

The six operators make sense in every linear order. Each has a complement, which says the opposite, and three of them
hold between a thing and itself. Numbers are compared by their places in the order, so that all this carries over to
them. Only not-a-number has no place: it is unequal to everything, and nothing else holds of it.

* `Operator.Orders`, `Operator.complement` and `Operator.IsReflexive`;
* `Operator.orders_complement`, `Operator.orders_self` and `Operator.orders_mono`, in any order;
* `Operator.holds_eq` and `Comparison.holds_between`, for numbers in the order, and `Operator.holds_nan`.
-/

namespace HealthRules

/-- Every number but not-a-number has its place in the order. -/
theorem Binary64.exists_rank {x : Binary64} (hx : x ≠ .nan) : ∃ r, x.rank = some r := by
  cases x with
  | nan => exact absurd rfl hx
  | infinite negative => exact ⟨_, rfl⟩
  | finite negative m => exact ⟨_, rfl⟩

namespace Operator

/-! ## Orders -/

section Orders

variable {α β : Type} [LinearOrder α] [LinearOrder β] {x y : α} {x' y' : β}

/-- What an operator says of two things that are in order. -/
def Orders (op : Operator) (x y : α) : Prop :=
  match op with
  | greater => x > y
  | atLeast => x ≥ y
  | less => x < y
  | atMost => x ≤ y
  | equal => x = y
  | unequal => x ≠ y

instance (op : Operator) (x y : α) : Decidable (op.Orders x y) :=
  match op with
  | greater => inferInstanceAs (Decidable (x > y))
  | atLeast => inferInstanceAs (Decidable (x ≥ y))
  | less => inferInstanceAs (Decidable (x < y))
  | atMost => inferInstanceAs (Decidable (x ≤ y))
  | equal => inferInstanceAs (Decidable (x = y))
  | unequal => inferInstanceAs (Decidable (x ≠ y))

/-- The operator that says the opposite. -/
def complement : Operator → Operator
  | greater => atMost
  | atLeast => less
  | less => atLeast
  | atMost => greater
  | equal => unequal
  | unequal => equal

/-- The operators that hold between a thing and itself. -/
def IsReflexive (op : Operator) : Prop := op ∈ [equal, atLeast, atMost]

instance (op : Operator) : Decidable op.IsReflexive :=
  inferInstanceAs (Decidable (op ∈ [equal, atLeast, atMost]))

theorem orders_complement (op : Operator) (x y : α) : op.complement.Orders x y ↔ ¬ op.Orders x y := by
  cases op with
  | greater => exact not_lt.symm
  | atLeast => exact not_le.symm
  | less => exact not_lt.symm
  | atMost => exact not_le.symm
  | equal => exact Iff.rfl
  | unequal => exact Decidable.not_not.symm

theorem isReflexive_complement {op : Operator} (h : ¬ op.IsReflexive) : op.complement.IsReflexive := by
  revert h
  cases op <;> decide

theorem orders_self (op : Operator) (x : α) : op.Orders x x ↔ op.IsReflexive := by
  cases op with
  | greater => exact iff_of_false (lt_irrefl x) (by decide)
  | atLeast => exact iff_of_true (le_refl x) (by decide)
  | less => exact iff_of_false (lt_irrefl x) (by decide)
  | atMost => exact iff_of_true (le_refl x) (by decide)
  | equal => exact iff_of_true rfl (by decide)
  | unequal => exact iff_of_false (fun hne => hne rfl) (by decide)

/-- Where order is kept, though not strictly, so is what the reflexive operators say. -/
theorem orders_mono {op : Operator} (hop : op.IsReflexive) (hle : x ≤ y → x' ≤ y') (hge : y ≤ x → y' ≤ x')
    (h : op.Orders x y) : op.Orders x' y' := by
  cases op with
  | greater => exact absurd hop (by decide)
  | atLeast => exact hge h
  | less => exact absurd hop (by decide)
  | atMost => exact hle h
  | equal => exact le_antisymm (hle (le_of_eq h)) (hge (ge_of_eq h))
  | unequal => exact absurd hop (by decide)

/-- Where order is kept, though not strictly, the other operators lead back. -/
theorem orders_of_mono {op : Operator} (hop : ¬ op.IsReflexive) (hle : x ≤ y → x' ≤ y') (hge : y ≤ x → y' ≤ x')
    (h : op.Orders x' y') : op.Orders x y := by
  by_contra hnot
  have hcomplement := orders_mono (isReflexive_complement hop) hle hge ((op.orders_complement x y).2 hnot)
  exact (op.orders_complement x' y').1 hcomplement h

theorem orders_congr (op : Operator) (hle : x ≤ y ↔ x' ≤ y') (hge : y ≤ x ↔ y' ≤ x') :
    op.Orders x y ↔ op.Orders x' y' := by
  by_cases hop : op.IsReflexive
  · exact ⟨orders_mono hop hle.1 hge.1, orders_mono hop hle.2 hge.2⟩
  · exact ⟨orders_of_mono hop hle.2 hge.2, orders_of_mono hop hle.1 hge.1⟩

end Orders

/-! ## Numbers -/

variable {v n : Binary64} {x y : Int}

theorem compareBy_eq {holds : Int → Int → Bool} (hv : v.rank = some x) (hn : n.rank = some y) :
    Binary64.compareBy holds v n = holds x y := by
  rw [Binary64.compareBy, hv, hn]

/-- Numbers are compared by their places in the order. -/
theorem holds_eq (op : Operator) (hv : v.rank = some x) (hn : n.rank = some y) :
    op.holds v n = decide (op.Orders x y) := by
  cases op with
  | greater => exact compareBy_eq hn hv
  | atLeast => exact compareBy_eq hn hv
  | less => exact compareBy_eq hv hn
  | atMost => exact compareBy_eq hv hn
  | equal => exact compareBy_eq hv hn
  | unequal =>
      have hequal : v.eq n = decide (x = y) := compareBy_eq hv hn
      rw [holds, hequal]
      exact decide_not.symm

/-- Nothing holds of not-a-number but that it is unequal. -/
theorem holds_nan (op : Operator) (n : Binary64) : op.holds .nan n = decide (op = unequal) := by
  have hright : ∀ holds, Binary64.compareBy holds n .nan = false := by
    intro holds
    unfold Binary64.compareBy
    cases n.rank <;> rfl
  cases op with
  | greater => exact hright _
  | atLeast => exact hright _
  | less => rfl
  | atMost => rfl
  | equal => rfl
  | unequal => rfl

end Operator

namespace Comparison

variable {low high v : Binary64} {l r x : Int}

/-- A number is within bounds if its place is between theirs. -/
theorem holds_between (hlow : low.rank = some l) (hhigh : high.rank = some r) (hv : v.rank = some x) :
    (between low high).holds v = decide (l ≤ x ∧ x ≤ r) := by
  have hleft : low.le v = decide (l ≤ x) := Operator.compareBy_eq hlow hv
  have hright : v.le high = decide (x ≤ r) := Operator.compareBy_eq hv hhigh
  rw [holds, hleft, hright, Bool.decide_and]

theorem isReversed_between (hlow : low.rank = some l) (hhigh : high.rank = some r) :
    (between low high).isReversed = decide (r < l) :=
  Operator.compareBy_eq hhigh hlow

end Comparison

end HealthRules
