import HealthRules.Rule.Basic
import HealthRules.Evaluation
import HealthRules.Text.JsonText

/-!
# Outcome — what evaluating a rule gives

An outcome carries its rule, a status, and a message that says who decided or why nobody could.

* `Outcome` and `Outcome.ofDecision`;
* `Outcome.worst`, the status of several outcomes together;
* `Outcome.fields` and `Outcome.inspect`, for reports and for inspection.
-/

namespace HealthRules

structure Outcome (α : Type) where
  rule : Rule α
  status : Status
  message : String
  deriving DecidableEq, Repr

namespace Outcome

variable {α : Type}

/-- The status of a decision. What cannot be read is indeterminate, or an error if that is asked for. -/
def statusOf (unreadableIsError : Bool) : Decision → Status
  | .ok status => status
  | .error (.unreadable _) => if unreadableIsError then .error else .warn
  | .error _ => .error

/-- The message of a decision, made by the evaluator of that name. -/
def messageOf (evaluator : String) : Decision → String
  | .ok _ => s!"{evaluator} evaluator"
  | .error e => e.message

/-- The outcome of a decision about a rule. -/
def ofDecision (unreadableIsError : Bool) (evaluator : String) (r : Rule α) (d : Decision) :
    Outcome α :=
  ⟨r, statusOf unreadableIsError d, messageOf evaluator d⟩

def worst (outcomes : List (Outcome α)) : Status := Status.worst (outcomes.map status)

variable [Named α]

/-- The outcome as an object of a report. -/
def fields (o : Outcome α) : JsonText.Fields :=
  [("rule", o.rule.render), ("status", o.status.label), ("message", o.message)]

def inspect (o : Outcome α) : String :=
  Quoted.record "EvaluationResult" [
    ("rule", o.rule.inspect), ("status", o.status.caseName), ("message", Quoted.quote o.message)]

end Outcome

end HealthRules
