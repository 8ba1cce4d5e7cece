import HealthRules.Status
import HealthRules.Value

/-!
# Evaluation — readings, decisions and why they fail

To evaluate an expression is to read an attribute and decide a status from the reading. Either step can
fail, and the failure concerns one rule only.

* `Unavailable` is a failed reading, `EvaluationError` a failed decision, both with their messages;
* `Reading` and `Decision` are the two kinds of outcome, and a `Judge` leads from a value to a decision;
* `decideBy` reads once, and only if there is a judge.
-/

namespace HealthRules

/-- An attribute, by its name, could not be read. -/
structure Unavailable where
  name : String
  reason : String
  deriving DecidableEq, Repr, Inhabited

namespace Unavailable

def message (e : Unavailable) : String := e.name ++ " is unavailable: " ++ e.reason

end Unavailable

/-- Why an expression was not decided. -/
inductive EvaluationError where
  | invalidExpression (expression reason : String)
  | notNumeric (subject value : String)
  | unreadable (e : Unavailable)
  deriving DecidableEq, Repr

namespace EvaluationError

def message : EvaluationError → String
  | invalidExpression expression reason => s!"invalid expression '{expression}': {reason}"
  | notNumeric subject value => s!"value '{value}' of {subject} is not numeric"
  | unreadable e => e.message

end EvaluationError

/-- What reading an attribute gives. -/
abbrev Reading := Except Unavailable Value

/-- What evaluating an expression gives. -/
abbrev Decision := Except EvaluationError Status

/-- A status from a truth value. -/
def Status.ofBool (holds : Bool) : Status := if holds then .ok else .error

/-- A way to decide from a value. -/
abbrev Judge := Value → Decision

/-- Decide from a reading, if there is one. -/
def Judge.onReading (judge : Judge) : Reading → Decision
  | .ok v => judge v
  | .error e => .error (.unreadable e)

/-- Read once and decide, if there is a way to decide; nothing is read otherwise. -/
def decideBy {σ : Type} (judge : Except EvaluationError Judge) (read : StateM σ Reading) :
    StateM σ Decision :=
  match judge with
  | .error e => pure (.error e)
  | .ok judge => do
      let reading ← read
      return judge.onReading reading

/-- The default rule: the expression is the canonical text of the value. -/
def textuallyEqual (expression : String) : Judge :=
  fun v => .ok (.ofBool (expression == v.render))

end HealthRules
