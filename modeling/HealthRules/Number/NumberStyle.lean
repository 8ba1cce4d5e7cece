import HealthRules.Number.Shortest

/-!
# NumberStyle — how numbers are written

All notations write the shortest decimal that reads back. They differ in where positional notation ends,
in whether a whole number keeps a fraction, and in how an exponent is written.

* `NumberStyle` is the list of these decisions, and `NumberStyle.write` carries them out;
* `NumberStyle.plain`, `NumberStyle.inspected` and `NumberStyle.interchange` are the three in use.
-/

namespace HealthRules

/-- The decisions of a notation. Exponents are those of the first significant digit. -/
structure NumberStyle where
  tie : Shortest.Tie
  /-- Positional notation is used from the first to the second exponent, if there are limits. -/
  positional : Option (Int × Int)
  /-- A whole number in positional notation ends in `.0`. -/
  keepFraction : Bool
  /-- A positive exponent has a sign. -/
  plusSign : Bool
  deriving Repr

namespace NumberStyle

/-- Always positional, without an idle fraction. -/
def plain : NumberStyle := ⟨.upward, none, false, false⟩

/-- Positional from `10 ^ -4` to below `10 ^ 16`. -/
def inspected : NumberStyle := ⟨.upward, some (-4, 15), true, false⟩

/-- Positional from `10 ^ -5` to below `10 ^ 16`; larger exponents have a plus sign. -/
def interchange : NumberStyle := ⟨.toEven, some (-5, 15), true, true⟩

/-! ## Writing -/

def digits (n : Nat) : List Char := Nat.toDigits 10 n

/-- Write `coefficient * 10 ^ exponent` with a point where it belongs. -/
def positionalText (keepFraction : Bool) (cs : List Char) (exponent : Int) : List Char :=
  match exponent with
  | .ofNat n => cs ++ List.replicate n '0' ++ (if keepFraction then ['.', '0'] else [])
  | .negSucc n =>
      let places := n + 1
      if places < cs.length then
        cs.take (cs.length - places) ++ '.' :: cs.drop (cs.length - places)
      else '0' :: '.' :: (List.replicate (places - cs.length) '0' ++ cs)

/-- Write one digit before the point and an exponent after the letter e. -/
def scientificText (plusSign : Bool) (cs : List Char) (leading : Int) : List Char :=
  let mantissa := match cs with
    | [] => []
    | [c] => [c]
    | c :: rest => c :: '.' :: rest
  let sign := if leading < 0 then ['-'] else if plusSign then ['+'] else []
  mantissa ++ 'e' :: sign ++ digits leading.natAbs

/-- The text of a positive number of units. -/
def magnitudeText (style : NumberStyle) (units : Nat) : List Char :=
  let d := Shortest.shortest style.tie units
  let cs := digits d.coefficient
  let leading := d.exponent + cs.length - 1
  let positional := match style.positional with
    | none => true
    | some (least, greatest) => decide (least ≤ leading ∧ leading ≤ greatest)
  if positional then positionalText style.keepFraction cs d.exponent
  else scientificText style.plusSign cs leading

/-- The text of a number. -/
def write (style : NumberStyle) : Binary64 → String
  | .nan => "NaN"
  | .infinite negative => if negative then "-inf" else "inf"
  | .finite negative m =>
      let body := if m.units = 0 then (if style.keepFraction then ['0', '.', '0'] else ['0'])
        else magnitudeText style m.units
      String.ofList (if negative then '-' :: body else body)

end NumberStyle

end HealthRules
