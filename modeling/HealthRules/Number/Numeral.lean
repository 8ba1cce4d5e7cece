import HealthRules.Number.Binary64

/-!
# Numeral — reading numbers from text

A numeral is an optional sign and then either digits with at most one point among or beside them and an
optional exponent, or one of the words for infinity and not-a-number in any letter case. The value is
the nearest double precision number.

* `Decimal` is a coefficient times a power of ten, and `Decimal.round` its nearest number;
* `Numeral.read?` reads a whole text as a numeral.
-/

namespace HealthRules

/-- The number `coefficient * 10 ^ exponent`. -/
structure Decimal where
  coefficient : Nat
  exponent : Int
  deriving DecidableEq, Repr, Inhabited

namespace Decimal

/-- The nearest number. From `10 ^ 310` on it is infinite, and below half a unit it is zero; both are
decided before a large power is formed. -/
def round (negative : Bool) (d : Decimal) : Binary64 :=
  if d.coefficient = 0 then .zero negative
  else match d.exponent with
    | .ofNat n =>
        if 310 ≤ n then .infinite negative
        else .ofQuot negative (d.coefficient * tenPow n) 1
    | .negSucc n =>
        if d.coefficient.log2 + 1077 < 3 * (n + 1) then .zero negative
        else .ofQuot negative d.coefficient (tenPow (n + 1))

end Decimal

namespace Numeral

/-! ## Digits -/

def digitValue (c : Char) : Nat := c.toNat - '0'.toNat

/-- The number that decimal digits denote. -/
def ofDigits (cs : List Char) : Nat := cs.foldl (fun n c => n * 10 + digitValue c) 0

/-- The digits at the beginning, and what follows them. -/
def spanDigits (cs : List Char) : List Char × List Char :=
  (cs.takeWhile Char.isDigit, cs.dropWhile Char.isDigit)

/-- The size of an exponent. Digits no longer count once it has reached `2 ^ 16`. -/
def exponentOfDigits (cs : List Char) : Nat :=
  cs.foldl (fun n c => if n < 0x10000 then n * 10 + digitValue c else n) 0

/-! ## Parts -/

/-- A sign, if there is one; the second part is what follows. -/
def takeSign : List Char → Bool × List Char
  | '-' :: cs => (true, cs)
  | '+' :: cs => (false, cs)
  | cs => (false, cs)

/-- Read an exponent to the end of the text: nothing, or the letter e, a sign and digits. -/
def exponent? : List Char → Option Int
  | [] => some 0
  | c :: cs =>
      if c = 'e' ∨ c = 'E' then
        let (negative, digits) := takeSign cs
        if digits.isEmpty ∨ !digits.all Char.isDigit then none
        else some (Binary64.signed negative (exponentOfDigits digits))
      else none

/-- The digits after a point, if the text begins with one. -/
def takeFraction : List Char → List Char × List Char
  | '.' :: cs => spanDigits cs
  | cs => ([], cs)

/-- Read digits with at most one point, and an exponent, to the end of the text. -/
def decimal? (cs : List Char) : Option Decimal :=
  let (whole, rest) := spanDigits cs
  let (fraction, rest) := takeFraction rest
  if whole.isEmpty ∧ fraction.isEmpty then none
  else (exponent? rest).map fun e =>
    { coefficient := ofDigits (whole ++ fraction), exponent := e - fraction.length }

/-- The words for infinity and not-a-number, in any letter case. -/
def word? (negative : Bool) (cs : List Char) : Option Binary64 :=
  let w := cs.map Char.toLower
  if w = "inf".toList ∨ w = "infinity".toList then some (.infinite negative)
  else if w = "nan".toList then some .nan
  else none

/-- Read a whole text as a numeral. -/
def read? (cs : List Char) : Option Binary64 :=
  let (negative, rest) := takeSign cs
  match decimal? rest with
  | some d => some (d.round negative)
  | none => word? negative rest

end Numeral

end HealthRules
