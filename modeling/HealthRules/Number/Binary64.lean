import HealthRules.Number.Rounding

/-!
# Binary64 — double precision numbers as exact integers

Every finite double precision number is a whole multiple of the least positive one, `2 ^ -1074`. A finite
number is therefore kept as a sign and a natural number of such units, and all comparisons and roundings
are exact integer arithmetic.

This file defines:

* `Magnitude`, the counts of units that are representable, and `Binary64`, the numbers;
* `rank`, the position in the order, which only not-a-number lacks, and the comparisons;
* `ofQuot`, correctly rounded quotients, and `ofInt`;
* `ofBits` and `bits`, the interchange form in 64 bits.
-/

namespace HealthRules

open Rounding

/-- One in units of the least positive number. -/
def unitsPerOne : Nat := twoPow 1074

/-- The first count of units beyond the finite numbers. -/
def unitsLimit : Nat := twoPow 2098

theorem unitsLimit_pos : 0 < unitsLimit := by
  delta unitsLimit
  apply twoPow_pos

/-- A count of units that a finite number can have. -/
structure Magnitude where
  units : Nat
  lt_limit : units < unitsLimit
  short : ShortBinary units

/-- A double precision number. -/
inductive Binary64 where
  | nan
  | infinite (negative : Bool)
  | finite (negative : Bool) (magnitude : Magnitude)

namespace Magnitude

theorem ext {a b : Magnitude} (h : a.units = b.units) : a = b := by
  cases a; cases b; cases h; rfl

instance : DecidableEq Magnitude := fun a b =>
  if h : a.units = b.units then isTrue (ext h) else isFalse fun he => h (he ▸ rfl)

def zero : Magnitude := ⟨0, unitsLimit_pos, 0, 0, by decide, by decide⟩

instance : Inhabited Magnitude := ⟨zero⟩

end Magnitude

namespace Binary64

deriving instance DecidableEq, Inhabited for Binary64

/-! ## Order -/

def signed (negative : Bool) (n : Nat) : Int := if negative then -(n : Int) else n

/-- The place in the order, in units; the infinities stand at the limit. -/
def rank : Binary64 → Option Int
  | nan => none
  | infinite negative => some (signed negative unitsLimit)
  | finite negative m => some (signed negative m.units)

/-- Compare by rank; whatever is asked of not-a-number is false. -/
def compareBy (holds : Int → Int → Bool) (a b : Binary64) : Bool :=
  match a.rank, b.rank with
  | some x, some y => holds x y
  | _, _ => false

def lt (a b : Binary64) : Bool := compareBy (fun x y => decide (x < y)) a b

def le (a b : Binary64) : Bool := compareBy (fun x y => decide (x ≤ y)) a b

/-- Numerical equality: the two zeros are equal, and not-a-number is equal to nothing. -/
def eq (a b : Binary64) : Bool := compareBy (fun x y => decide (x = y)) a b

def isFinite : Binary64 → Bool
  | finite _ _ => true
  | _ => false

/-! ## Rounding -/

/-- The number of the given sign and of `units` units, infinite at the limit and beyond. -/
def ofUnits (negative : Bool) (units : Nat) (short : ShortBinary units) : Binary64 :=
  if h : units < unitsLimit then finite negative ⟨units, h, short⟩ else infinite negative

/-- The number nearest to `num / den`. -/
def ofQuot (negative : Bool) (num den : Nat) : Binary64 :=
  ofUnits negative (roundQuot (num * unitsPerOne) den) (shortBinary_roundQuot _ _)

/-- The number nearest to an integer. -/
def ofInt (i : Int) : Binary64 := ofQuot (decide (i < 0)) i.natAbs 1

def zero (negative : Bool) : Binary64 := finite negative .zero

/-! ## Interchange form -/

/-- The number whose fields are a sign, an exponent below 2048 and a fraction below `2 ^ 52`. -/
def ofFields (negative : Bool) (exponent fraction : Nat) (h : fraction < twoPow 52) : Binary64 :=
  if exponent = 2047 then
    if fraction = 0 then infinite negative else nan
  else if exponent = 0 then
    ofUnits negative fraction ⟨fraction, 0, by rw [twoPow_succ 52]; omega, (Nat.mul_one _).symm⟩
  else
    ofUnits negative ((twoPow 52 + fraction) * twoPow (exponent - 1)) ⟨_, _, by rw [twoPow_succ 52]; omega, rfl⟩

/-- Read 64 bits: one for the sign, eleven for the exponent, 52 for the fraction. -/
def ofBits (w : Nat) : Binary64 :=
  ofFields (w / twoPow 63 % 2 == 1) (w / twoPow 52 % 2048) (w % twoPow 52)
    (Nat.mod_lt _ (twoPow_pos 52))

/-- The exponent and fraction fields of a magnitude, as one number. -/
def fieldsOf (m : Magnitude) : Nat :=
  let k := excess m.units
  let digits := m.units / twoPow k
  if digits < twoPow 52 then digits else (k + 1) * twoPow 52 + (digits - twoPow 52)

/-- The 64 bits of a number; all that is not a number shares one form. -/
def bits : Binary64 → Nat
  | nan => 0x7FF8 * twoPow 48
  | infinite negative => (if negative then twoPow 63 else 0) + 2047 * twoPow 52
  | finite negative m => (if negative then twoPow 63 else 0) + fieldsOf m

end Binary64

end HealthRules
