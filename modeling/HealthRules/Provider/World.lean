import HealthRules.Evaluation
import HealthRules.Provider.Environment

/-!
# World — what attributes are read from

Attributes tell about a process, its machine, and about cells that their owners fill. All this lies outside
the registry, and no provider of the library changes it.

* `Facts`, with the number of processors as a reading;
* `World`, with its cells.
-/

namespace HealthRules

/-- Facts about a process and its machine. -/
structure Facts where
  os : String
  family : String
  arch : String
  /-- The number of processors, or the reason why it cannot be told. -/
  cpus : Except String Nat
  pid : Nat
  deriving Repr

/-- The number of processors as a reading. -/
def Facts.readCpus (f : Facts) : Reading :=
  match f.cpus with
  | .ok n => .ok (.ofNat n)
  | .error reason => .error ⟨"cpus", reason⟩

/-- Variables, facts and cells. -/
structure World where
  environment : Environment
  facts : Facts
  cells : List (String × Reading) := []

namespace World

/-- Fill a cell. -/
def fill (w : World) (cell : String) (content : Reading) : World :=
  { w with cells := (cell, content) :: w.cells.filter (·.1 ≠ cell) }

/-- The content of a cell, if it has been filled with a value. -/
def readCell (w : World) (cell : String) : Reading :=
  (w.cells.lookup cell).getD (.error ⟨cell, "cell not set"⟩)

/-- Give a variable a value, or remove it. -/
def setVariable (w : World) (name : String) (value : Option (List UInt8)) : World :=
  { w with environment := match value with
    | some bytes => w.environment.assign name bytes
    | none => w.environment.discard name }

end World

end HealthRules
