import HealthRules.Evaluation
import HealthRules.Pattern.Cache
import HealthRules.Text.Blank

/-!
# PatternTest — expressions that test for a pattern

`~` with a pattern after it demands that the canonical text of the value matches, `!~` that it does not.
The pattern may be of any language.

* `PatternTest` and `PatternTest.parse?`;
* `PatternTest.judgeFor`, which decides an expression by means of a cache.
-/

namespace HealthRules

structure PatternTest where
  negated : Bool
  pattern : String
  deriving DecidableEq, Repr

namespace PatternTest

/-- Read an expression. White space around the sign and around the pattern does not count. -/
def parse? (expression : String) : Option PatternTest :=
  match Blank.trimLeft expression.toList with
  | '!' :: '~' :: cs => some ⟨true, String.ofList (Blank.trim cs)⟩
  | '~' :: cs => some ⟨false, String.ofList (Blank.trim cs)⟩
  | _ => none

/-- An expression tests for a pattern by its sign; the pattern may still be refused. -/
def accepts (expression : String) : Bool := (parse? expression).isSome

variable (L : PatternLanguage)

def judge (t : PatternTest) (r : L.Compiled) : Judge :=
  fun v => .ok (.ofBool (L.isMatch r v.render != t.negated))

/-- Decide by a pattern that has been asked for. A refusal names the pattern alone. -/
def judgeBy (t : PatternTest) : Except L.Refusal L.Compiled → Except EvaluationError Judge
  | .ok r => .ok (t.judge L r)
  | .error e => .error (.invalidExpression t.pattern (L.message e))

/-- What is wrong with an expression that has neither sign. -/
def noSign (expression : String) : EvaluationError :=
  .invalidExpression expression "expected '~ PATTERN' or '!~ PATTERN'"

/-- How an expression is decided, the cache afterwards, and how many patterns it dropped. -/
def judgeFor {L : PatternLanguage} (cache : PatternCache L) (expression : String) :
    Except EvaluationError Judge × PatternCache L × Option Nat :=
  match parse? expression with
  | none => (.error (noSign expression), cache, none)
  | some t =>
      let fetched := cache.fetch t.pattern
      (t.judgeBy L fetched.compiled, fetched.cache, fetched.dropped)

end PatternTest

end HealthRules
