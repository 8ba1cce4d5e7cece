import HealthRules.Engine.Building
import HealthRules.Engine.Evaluating

/-!
# Engine — a growing list of rules

An engine keeps the rules of a session in the order in which they came. Building appends to the list, and
evaluating leaves it as it is, so that it can be repeated.

* `Engine`;
* `Engine.addRules`, `Engine.addRule` and `Engine.evaluate`.
-/

namespace HealthRules

/-- The rules of a session. -/
structure Engine (α : Type) where
  rules : List (Rule α) := []
  /-- An attribute that cannot be read makes an error, and not a warning. -/
  unreadableIsError : Bool := false

namespace Engine

variable {β ε α σ : Type}

def size (e : Engine α) : Nat := e.rules.length

def isEmpty (e : Engine α) : Bool := e.rules.isEmpty

/-- Append a rule that is already built. -/
def addRule (e : Engine α) (r : Rule α) : Engine α := { e with rules := e.rules ++ [r] }

/-- Append the rules of a batch of definitions, and report the definitions that gave none. -/
def addRules [Named β] (B : Behaviour β ε α σ) (e : Engine α) (ds : List Definition) :
    HostM β ε σ (Engine α × List BuildError) := do
  let outcomes ← B.buildAll ds
  return ({ e with rules := e.rules ++ BuildOutcome.rules outcomes }, BuildOutcome.failures outcomes)

/-- Evaluate every rule. -/
def evaluate [Named ε] [Named α] (B : Behaviour β ε α σ) (e : Engine α) :
    HostM β ε σ (List (Outcome α)) :=
  B.evaluateAll e.unreadableIsError e.rules

def inspect [Named α] (e : Engine α) : String :=
  Quoted.record "RulesEngine" [
    ("rules", Quoted.list (e.rules.map Rule.inspect)),
    ("unavailable_is_error", if e.unreadableIsError then "true" else "false")]

end Engine

end HealthRules
