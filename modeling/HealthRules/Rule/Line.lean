import HealthRules.Rule.Definition
import HealthRules.Text.Blank

/-!
# Line — reading one line of rule text

A line holds one definition in three or four fields with colons between them, or nothing: blank lines
and lines that start with `#` are skipped. Only the first three colons separate fields, so the last
field may hold more of them. White space around the line and around each field does not count.

* `ParseError` is why a line, or a whole input, was refused;
* `Line.fields` cuts a text at its first colons;
* `Line.parse` reads one line.
-/

namespace HealthRules

/-! ## Errors -/

/-- A field that may not be empty. -/
inductive RequiredField where
  | scope
  | name
  deriving DecidableEq, Repr

namespace RequiredField

def label : RequiredField → String
  | .scope => "namespace"
  | .name => "rule name"

end RequiredField

/-- Why rule text was refused: one line of it, or all of it when it cannot be read. -/
inductive ParseError where
  | tooFewFields (line found : Nat)
  | emptyField (line : Nat) (field : RequiredField)
  | notUtf8 (line : Nat)
  | unreadable (reason : String)
  deriving DecidableEq, Repr

namespace ParseError

def message : ParseError → String
  | .tooFewFields line found =>
      s!"line {line}: expected at least 3 ':'-separated fields, found {found}"
  | .emptyField line field => s!"line {line}: {field.label} must not be empty"
  | .notUtf8 line => s!"line {line}: not valid UTF-8"
  | .unreadable reason => "failed to read rule text: " ++ reason

/-- The error ends the whole batch, and not one line of it. -/
def isFatal : ParseError → Bool
  | .unreadable _ => true
  | _ => false

end ParseError

/-! ## Fields -/

namespace Line

/-- The text before the first colon, and the text after it if there is one. -/
def cutAtColon : List Char → List Char × Option (List Char)
  | [] => ([], none)
  | c :: cs =>
      if c = ':' then ([], some cs)
      else
        let (before, after) := cutAtColon cs
        (c :: before, after)

/-- Cut a text at its first `cuts` colons. -/
def fields : Nat → List Char → List (List Char)
  | 0, cs => [cs]
  | cuts + 1, cs =>
      match cutAtColon cs with
      | (before, none) => [before]
      | (before, some after) => before :: fields cuts after

/-! ## Reading -/

/-- A line that holds no definition: nothing but white space, or a comment. -/
def isSkipped : List Char → Bool
  | [] => true
  | c :: _ => c == '#'

/-- The definition that three or four trimmed fields make. -/
def define (line : Nat) (scope name : List Char) (qualifier : Option (List Char))
    (expression : List Char) : Except ParseError Definition :=
  if scope.isEmpty then .error (.emptyField line .scope)
  else if name.isEmpty then .error (.emptyField line .name)
  else .ok {
    scope := String.ofList scope
    name := String.ofList name
    qualifier := qualifier.map String.ofList
    expression := String.ofList expression
    line }

/-- Read line number `line`; skipped lines give `none`. -/
def parse (line : Nat) (text : List Char) : Except ParseError (Option Definition) :=
  let trimmed := Blank.trim text
  if isSkipped trimmed then .ok none
  else match (fields 3 trimmed).map Blank.trim with
    | [scope, name, expression] => (define line scope name none expression).map some
    | [scope, name, qualifier, expression] =>
        (define line scope name (some qualifier) expression).map some
    | pieces => .error (.tooFewFields line pieces.length)

end Line

end HealthRules
