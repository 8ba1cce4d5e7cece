import HealthRules.Text.Quoted

/-!
# Rules — an attribute and what is expected of it

A rule binds an attribute to an expression. It keeps both for good: only what the attribute reads may
change. This module does not fix what attributes are, except that they have a name.

* `Named`, for whatever is shown by a name;
* `Rule` with `Rule.render` and `Rule.inspect`.
-/

namespace HealthRules

/-- Things that are shown by a name. -/
class Named (α : Type) where
  name : α → String

export Named (name)

/-- An attribute bound to an expression. -/
structure Rule (α : Type) where
  subject : α
  expression : String
  deriving DecidableEq, Repr

namespace Rule

variable {α : Type} [Named α]

def render (r : Rule α) : String := s!"Rule: {name r.subject} {r.expression}"

def inspect (r : Rule α) : String :=
  Quoted.record "Rule" [
    ("attribute", Quoted.quote (name r.subject)),
    ("expression", Quoted.quote r.expression)]

end Rule

end HealthRules
