import HealthRules.Text.Quoted

/-!
# Definition — one rule as its text names it

A rule is defined by a namespace, a name within it, perhaps a qualifier, and an expression. The text
form joins the parts with colons, in three fields or four.

* `Definition` holds the parts and the number of the line they came from;
* `Definition.render` is the text form;
* `Definition.inspect` shows every part.
-/

namespace HealthRules

/-- A rule definition. `scope` is the namespace; `line` counts from 1, and is 0 for a definition that
came from no text. -/
structure Definition where
  scope : String
  name : String
  qualifier : Option String
  expression : String
  line : Nat
  deriving DecidableEq, Repr, Inhabited

namespace Definition

/-- A definition that came from no text. -/
def unplaced (scope name expression : String) (qualifier : Option String) : Definition :=
  { scope, name, qualifier, expression, line := 0 }

/-- The parts joined by colons. -/
def render (d : Definition) : String :=
  match d.qualifier with
  | some q => d.scope ++ ":" ++ d.name ++ ":" ++ q ++ ":" ++ d.expression
  | none => d.scope ++ ":" ++ d.name ++ ":" ++ d.expression

def inspect (d : Definition) : String :=
  let qualifier := match d.qualifier with
    | some q => "Some(" ++ Quoted.quote q ++ ")"
    | none => "None"
  Quoted.record "RuleDefinition" [
    ("namespace", Quoted.quote d.scope),
    ("rule_name", Quoted.quote d.name),
    ("qualifier", qualifier),
    ("expression", Quoted.quote d.expression),
    ("line", toString d.line)]

end Definition

end HealthRules
