import HealthRules.Number.Numeral
import HealthRules.Toml.Text
import HealthRules.Toml.Value

/-!
# TOML scalars — numbers, truth values, dates and times

Integers fit into 64 bits and may be written in base 16, 8 or 2; digits may be separated by single
underscores. Dates are days of the calendar. A float that is too great is refused, unless it is negative.

* `integer?`, `float?` and `moment?`;
* `scalar?`, any value that is not made of other values.
-/

namespace HealthRules.Toml

/-! ## Digits -/

/-- Digits of a kind, each of which may have an underscore before it except the first; the underscores
are left out. -/
def moreDigits (isDigit : Char → Bool) : List Char → List Char × List Char
  | '_' :: c :: cs =>
      if isDigit c then
        let (ds, rest) := moreDigits isDigit cs
        (c :: ds, rest)
      else ([], '_' :: c :: cs)
  | c :: cs =>
      if isDigit c then
        let (ds, rest) := moreDigits isDigit cs
        (c :: ds, rest)
      else ([], c :: cs)
  | [] => ([], [])

/-- One digit or more. -/
def digits? (isDigit : Char → Bool) : Reader (List Char)
  | c :: cs =>
      if isDigit c then
        let (ds, rest) := moreDigits isDigit cs
        some (c :: ds, rest)
      else none
  | [] => none

/-- A sign, if there is one. -/
def sign : List Char → List Char × List Char
  | '+' :: cs => (['+'], cs)
  | '-' :: cs => (['-'], cs)
  | cs => ([], cs)

/-- Decimal digits without a leading zero, and a sign if there is one. -/
def decimal? (cs : List Char) : Option (List Char × List Char) :=
  let (s, cs) := sign cs
  match cs with
  | '0' :: rest => some (s ++ ['0'], rest)
  | _ => (digits? Char.isDigit cs).map fun (ds, rest) => (s ++ ds, rest)

/-! ## Integers -/

def valueIn (base : Nat) (ds : List Char) : Nat :=
  ds.foldl (fun v c => v * base + (hexDigit? c).getD 0) 0

/-- The integer, if it fits into 64 bits. -/
def fitting? (n : Int) : Option Int :=
  if Int64.minValue.toInt ≤ n ∧ n ≤ Int64.maxValue.toInt then some n else none

def ofDecimal (ds : List Char) : Int :=
  match ds with
  | '-' :: ds => -(valueIn 10 ds : Int)
  | '+' :: ds => valueIn 10 ds
  | ds => valueIn 10 ds

def isDigitOf (base : Nat) (c : Char) : Bool := (hexDigit? c).any (· < base)

/-- An integer in another base, behind its mark. -/
def inBase? (base : Nat) (cs : List Char) : Option (Int × List Char) := do
  let (ds, rest) ← digits? (isDigitOf base) cs
  let n ← fitting? (valueIn base ds)
  return (n, rest)

def integer? : Reader Int
  | '0' :: 'x' :: cs => inBase? 16 cs
  | '0' :: 'o' :: cs => inBase? 8 cs
  | '0' :: 'b' :: cs => inBase? 2 cs
  | cs => do
      let (ds, rest) ← decimal? cs
      let n ← fitting? (ofDecimal ds)
      return (n, rest)

/-! ## Floats -/

/-- A decimal point and digits. -/
def fraction? : Reader (List Char)
  | '.' :: cs => (digits? Char.isDigit cs).map fun (ds, rest) => ('.' :: ds, rest)
  | _ => none

/-- The letter `e` and digits with or without a sign. -/
def exponent? : Reader (List Char)
  | c :: cs =>
      if c = 'e' ∨ c = 'E' then
        let (s, cs) := sign cs
        (digits? Char.isDigit cs).map fun (ds, rest) => ('e' :: s ++ ds, rest)
      else none
  | [] => none

/-- A numeral with a fraction, an exponent, or both, without its underscores. -/
def floatNumeral? (cs : List Char) : Option (List Char × List Char) := do
  let (whole, cs) ← decimal? cs
  match fraction? cs with
  | some (part, cs) =>
      let (power, cs) := (exponent? cs).getD ([], cs)
      return (whole ++ part ++ power, cs)
  | none =>
      let (power, cs) ← exponent? cs
      return (whole ++ power, cs)

/-- The words for infinity and for what is no number. -/
def specialFloat? (cs : List Char) : Option (Binary64 × List Char) :=
  let (s, cs) := sign cs
  match cs with
  | 'i' :: 'n' :: 'f' :: rest => some (.infinite (s == ['-']), rest)
  | 'n' :: 'a' :: 'n' :: rest => some (.nan, rest)
  | _ => none

def float? (cs : List Char) : Option (Binary64 × List Char) :=
  match floatNumeral? cs with
  | none => specialFloat? cs
  | some (numeral, rest) => do
      let x ← Numeral.read? numeral
      if x = .infinite false then none else return (x, rest)

/-! ## Dates and times -/

/-- The number of `n` decimal digits. -/
def fixed? (n : Nat) (cs : List Char) : Option (Nat × List Char) :=
  let ds := cs.take n
  if ds.length = n && ds.all Char.isDigit then some (valueIn 10 ds, cs.drop n) else none

def char? (c : Char) : List Char → Option (List Char)
  | d :: cs => if d = c then some cs else none
  | [] => none

def daysIn (year month : Nat) : Nat :=
  if month = 2 then
    if year % 4 = 0 ∧ (year % 100 ≠ 0 ∨ year % 400 = 0) then 29 else 28
  else if month = 4 ∨ month = 6 ∨ month = 9 ∨ month = 11 then 30
  else 31

/-- What follows a date. -/
def date? (cs : List Char) : Option (List Char) := do
  let (year, cs) ← fixed? 4 cs
  let cs ← char? '-' cs
  let (month, cs) ← fixed? 2 cs
  let cs ← char? '-' cs
  let (day, cs) ← fixed? 2 cs
  if 1 ≤ month ∧ month ≤ 12 ∧ 1 ≤ day ∧ day ≤ daysIn year month then return cs else none

/-- What follows hours and minutes. -/
def clock? (cs : List Char) : Option (List Char) := do
  let (hour, cs) ← fixed? 2 cs
  let cs ← char? ':' cs
  let (minute, cs) ← fixed? 2 cs
  if hour ≤ 23 ∧ minute ≤ 59 then return cs else none

/-- What follows digits behind a decimal point, if there are such. -/
def skipFraction : List Char → List Char
  | '.' :: c :: cs => if c.isDigit then cs.dropWhile Char.isDigit else '.' :: c :: cs
  | cs => cs

/-- What follows a time of day; a minute may have a leap second. -/
def time? (cs : List Char) : Option (List Char) := do
  let cs ← clock? cs
  let cs ← char? ':' cs
  let (second, cs) ← fixed? 2 cs
  if second ≤ 60 then return skipFraction cs else none

/-- Leave out the offset of a time zone, if there is one. -/
def skipOffset : List Char → List Char
  | 'Z' :: cs => cs
  | 'z' :: cs => cs
  | '+' :: cs => (clock? cs).getD ('+' :: cs)
  | '-' :: cs => (clock? cs).getD ('-' :: cs)
  | cs => cs

/-- Leave out the time of day after a date, if there is one. -/
def skipTime : List Char → List Char
  | c :: cs =>
      if c = 'T' ∨ c = 't' ∨ c = ' ' then
        match time? cs with
        | some rest => skipOffset rest
        | none => c :: cs
      else c :: cs
  | [] => []

/-- What follows a date with or without a time, or a time alone. -/
def moment? (cs : List Char) : Option (List Char) := ((date? cs).map skipTime).or (time? cs)

/-! ## Any scalar -/

def number? (cs : List Char) : Option (Value × List Char) :=
  match moment? cs, float? cs, integer? cs with
  | some rest, _, _ => some (.moment, rest)
  | none, some (x, rest), _ => some (.float x, rest)
  | none, none, some (n, rest) => some (.integer n, rest)
  | none, none, none => none

def scalar? : Reader Value
  | 't' :: 'r' :: 'u' :: 'e' :: rest => some (.boolean true, rest)
  | 'f' :: 'a' :: 'l' :: 's' :: 'e' :: rest => some (.boolean false, rest)
  | cs => ((string? cs).map fun (s, rest) => (Value.text s, rest)).or (number? cs)

end HealthRules.Toml
