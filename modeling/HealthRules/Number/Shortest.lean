import HealthRules.Number.Numeral

/-!
# Shortest — the fewest decimal digits that read back

The decimal numbers that round to a given double precision number fill an interval around it. Its
shortest decimal is a multiple of the greatest power of ten that has a multiple in that interval, and of
the multiples there the one nearest to the number.

* `Interval` is that interval, in quarters of a unit, with the number itself;
* `multiple?` gives the multiple of one power of ten that lies in it;
* `shortest` searches the powers of ten from above.
-/

namespace HealthRules.Shortest

/-- Which of two equally near decimals is taken. -/
inductive Tie where
  | upward
  | toEven
  deriving DecidableEq, Repr

/-! ## The interval -/

/-- The interval of the reals that round to a number, all in quarters of a unit. -/
structure Interval where
  low : Nat
  value : Nat
  high : Nat
  closed : Bool
  deriving Repr

/-- The interval around `units`. Its ends lie halfway to the neighbours, of which the lower one is nearer
when `units` is a power of two above the least exponent; they belong to it if the last digit is even. -/
def Interval.around (units : Nat) : Interval :=
  let k := Rounding.excess units
  let digits := units / twoPow k
  let below := if digits = twoPow 52 ∧ k ≠ 0 then twoPow k else 2 * twoPow k
  { low := 4 * units - below
    value := 4 * units
    high := 4 * units + 2 * twoPow k
    closed := digits % 2 = 0 }

/-- The quotient `n / d` lies in the interval. -/
def Interval.contains (i : Interval) (n d : Nat) : Bool :=
  if i.closed then i.low * d ≤ n && n ≤ i.high * d else i.low * d < n && n < i.high * d

/-! ## Multiples of a power of ten -/

/-- The power `10 ^ e` in quarters of a unit, as a quotient. -/
def power (e : Int) : Nat × Nat :=
  match e with
  | .ofNat n => (tenPow n * (4 * unitsPerOne), 1)
  | .negSucc n => (4 * unitsPerOne, tenPow (n + 1))

/-- Of the multiples of `10 ^ e` beside the number, the nearest that lies in the interval. -/
def multiple? (tie : Tie) (i : Interval) (e : Int) : Option Nat :=
  let (num, den) := power e
  let target := i.value * den
  let lower := target / num
  let upper := lower + 1
  match i.contains (lower * num) den, i.contains (upper * num) den with
  | false, false => none
  | true, false => some lower
  | false, true => some upper
  | true, true =>
      let down := target - lower * num
      let up := upper * num - target
      if down < up then some lower
      else if up < down then some upper
      else match tie with
        | .upward => some upper
        | .toEven => some (if lower % 2 = 0 then lower else upper)

/-- Try powers of ten downwards from `10 ^ e`. -/
def search (tie : Tie) (i : Interval) : Nat → Int → Decimal
  | 0, e => ⟨0, e⟩
  | fuel + 1, e =>
      match multiple? tie i e with
      | some c => ⟨c, e⟩
      | none => search tie i fuel (e - 1)

/-- An exponent whose power of ten is above the number. -/
def startExponent (units : Nat) : Int := ((units.log2 : Int) - 1073) * 30103 / 100000 + 2

/-- The shortest decimal of a positive number of units. The search ends at the latest where the powers
of ten are smaller than the interval, which is within 800 steps. -/
def shortest (tie : Tie) (units : Nat) : Decimal :=
  search tie (.around units) 800 (startExponent units)

end HealthRules.Shortest
