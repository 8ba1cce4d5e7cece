import HealthRules.Pattern.Cache
import HealthRules.Pattern.Depth
import HealthRules.Pattern.Footprint
import HealthRules.Pattern.Meaning
import HealthRules.Pattern.Parser
import HealthRules.Pattern.Walk
import HealthRules.Pattern.Words

/-!
# Regex — compiled patterns

A pattern is compiled in four steps: it is parsed, its nesting is checked, its meaning is worked out and,
unless it comes down to a few words, the room for its automata is checked. The first step that fails decides
the refusal.

* `Regex.compile`, and `Refusal` with its message;
* `Regex.isMatch`, and `Regex.language` with all of them.
-/

namespace HealthRules

/-- A compiled pattern. -/
structure Regex where
  expr : Pattern.Expr

namespace Regex

/-- Why a text is no usable pattern. -/
inductive Refusal where
  | malformed (fault : Pattern.Fault) (pattern : String)
  | tooLarge
  deriving DecidableEq, Repr

def Refusal.message : Refusal → String
  | malformed fault pattern => fault.report pattern
  | tooLarge => s!"Compiled regex exceeds size limit of {Pattern.Tally.limit} bytes."

/-- How deeply the parts of a pattern may be nested. -/
def depthLimit : Nat := 250

/-- What a pattern matches. -/
def exprOf (pattern : String) : Except Pattern.Fault Pattern.Expr := do
  let node ← Pattern.parse pattern
  match node.tooDeep? depthLimit with
  | some span => .error { kind := .nestedTooDeeply depthLimit, span }
  | none => return (← node.meaning {}).1

def compile (pattern : String) : Except Refusal Regex :=
  match exprOf pattern with
  | .error fault => .error (.malformed fault pattern)
  | .ok expr =>
      if expr.isWords || expr.footprint.fits then .ok ⟨expr⟩ else .error .tooLarge

/-- The pattern matches some part of the text. -/
def isMatch (r : Regex) (text : String) : Bool := r.expr.matchesIn text

/-- The language of patterns that the library's evaluators use. -/
abbrev language : PatternLanguage where
  Compiled := Regex
  Refusal := Refusal
  compile := compile
  isMatch := isMatch
  message := Refusal.message

end Regex

end HealthRules
