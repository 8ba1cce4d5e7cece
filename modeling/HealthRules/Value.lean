import HealthRules.Number.NumberStyle
import HealthRules.Text.Blank
import HealthRules.Text.JsonText
import HealthRules.Text.Quoted

/-!
# Value — what an attribute can read

A reading is an integer of 64 bits, a double precision number, a truth value or a text. Each has one
canonical text, by which it is compared as text, and numbers and texts may have a numeric view.

* `Value`, with `Value.ofNat` for counts;
* `Value.render`, the canonical text, and `Value.number?`, the numeric view;
* `Value.inspect` and `Value.json`, the forms for inspection and for reports.
-/

namespace HealthRules

/-- A reading of an attribute. -/
inductive Value where
  | int (i : Int64)
  | float (x : Binary64)
  | bool (b : Bool)
  | text (s : String)
  deriving DecidableEq, Inhabited

namespace Value

/-- A count: an integer as long as it fits, and else the nearest number. -/
def ofNat (n : Nat) : Value :=
  if n < twoPow 63 then int (Int64.ofNat n) else float (.ofInt n)

/-- The canonical text. -/
def render : Value → String
  | int i => toString i.toInt
  | float x => NumberStyle.plain.write x
  | bool b => if b then "true" else "false"
  | text s => s

/-- The numeric view: a text has one if it is a numeral, a truth value has none. -/
def number? : Value → Option Binary64
  | int i => some (.ofInt i.toInt)
  | float x => some x
  | bool _ => none
  | text s => Numeral.read? (Blank.trim s.toList)

def inspect : Value → String
  | int i => "Int(" ++ toString i.toInt ++ ")"
  | float x => "Float(" ++ NumberStyle.inspected.write x ++ ")"
  | bool b => "Bool(" ++ (if b then "true" else "false") ++ ")"
  | text s => "Text(" ++ Quoted.quote s ++ ")"

/-- The form in JSON, which has no infinite numbers. -/
def json : Value → String
  | int i => toString i.toInt
  | float x => if x.isFinite then NumberStyle.interchange.write x else "null"
  | bool b => if b then "true" else "false"
  | text s => JsonText.quote s

end Value

end HealthRules
