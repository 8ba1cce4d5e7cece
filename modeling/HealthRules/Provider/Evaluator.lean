import HealthRules.Comparison
import HealthRules.Pattern.Regex
import HealthRules.PatternTest
import HealthRules.Rule.Basic

/-!
# Evaluators — the kinds of evaluators

Three evaluators come with the library: comparisons of numbers, tests for patterns, and equality of
texts. Each works out from the expression alone how to decide. Other evaluators belong to the host: their
verdict is fixed, and the first time they are used they may change the registry.

* `StandardEvaluator` with `accepts` and `judgeFor`;
* `Acceptance` and `Verdict`, which describe an evaluator of the host;
* `Evaluator` and `Evaluator.accepts`.
-/

namespace HealthRules

/-! ## Evaluators of the library -/

inductive StandardEvaluator where
  | numeric
  | pattern
  | textual
  deriving DecidableEq, Repr, Inhabited

namespace StandardEvaluator

instance : Named StandardEvaluator where
  name
    | numeric => "numeric"
    | pattern => "regex"
    | textual => "default"

def accepts (expression : String) : StandardEvaluator → Bool
  | numeric => Comparison.accepts expression
  | pattern => PatternTest.accepts expression
  | textual => true

/-- How an expression is decided for the attribute `subject`, together with the cache of patterns
afterwards and how many patterns it dropped. -/
def judgeFor (cache : PatternCache Regex.language) (subject expression : String) :
    StandardEvaluator → Except EvaluationError Judge × PatternCache Regex.language × Option Nat
  | numeric => (Comparison.judgeFor expression subject, cache, none)
  | pattern => PatternTest.judgeFor cache expression
  | textual => (.ok (textuallyEqual expression), cache, none)

end StandardEvaluator

/-! ## Evaluators of the host -/

/-- Which expressions are accepted. -/
inductive Acceptance where
  | exactly (expression : String)
  | startingWith (start : String)
  | everything
  | nothing
  deriving DecidableEq, Repr

namespace Acceptance

def admits (expression : String) : Acceptance → Bool
  | exactly e => expression == e
  | startingWith start => start.toList.isPrefixOf expression.toList
  | everything => true
  | nothing => false

end Acceptance

/-- What an evaluator of the host decides. -/
inductive Verdict where
  | status (s : Status)
  | invalidExpression
  | notNumeric
  | unreadable
  deriving DecidableEq, Repr

/-- An evaluator. -/
inductive Evaluator where
  | standard (kind : StandardEvaluator)
  | scripted (label : String) (acceptance : Acceptance) (verdict : Verdict)
      (installs : Option Evaluator) (removes : Option Nat)
  deriving Inhabited

namespace Evaluator

instance : Named Evaluator where
  name
    | standard kind => name kind
    | scripted label .. => label

def accepts (expression : String) : Evaluator → Bool
  | standard kind => kind.accepts expression
  | scripted _ acceptance .. => acceptance.admits expression

end Evaluator

end HealthRules
