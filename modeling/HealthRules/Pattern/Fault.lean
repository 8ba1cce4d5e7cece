import HealthRules.Pattern.Syntax
import HealthRules.Text.Lines

/-!
# Fault — what is wrong with a pattern, and where

A fault has a kind, the place in the pattern that shows it, and sometimes a second place, the earlier one
with which it conflicts. Its report repeats the pattern with carets under these places: a pattern of one
line is indented, one of several lines has its lines numbered.

* `FaultKind` with the wording of each kind, and `Fault`;
* `Fault.report`, the whole text.
-/

namespace HealthRules.Pattern

inductive FaultKind where
  | classEscapeInvalid
  | classRangeInvalid
  | classRangeLiteral
  | classUnclosed
  | decimalEmpty
  | decimalInvalid
  | hexEmpty
  | hexInvalid
  | hexInvalidDigit
  | escapeUnexpectedEnd
  | escapeUnrecognized
  | flagDanglingNegation
  | flagDuplicate
  | flagRepeatedNegation
  | flagUnexpectedEnd
  | flagUnrecognized
  | groupNameDuplicate
  | groupNameEmpty
  | groupNameInvalid
  | groupNameUnexpectedEnd
  | groupUnclosed
  | groupUnopened
  | nestedTooDeeply (limit : Nat)
  | repetitionCountInvalid
  | repetitionCountEmpty
  | repetitionCountUnclosed
  | repetitionMissing
  | boundaryUnclosed
  | boundaryUnrecognized
  | boundaryOrRepetitionUnclosed
  | propertyInvalid
  | backreference
  | lookAround
  | unicodeNotAllowed
  | invalidUtf8
  | propertyNotFound
  | propertyValueNotFound
  deriving DecidableEq, Repr

namespace FaultKind

def message : FaultKind → String
  | classEscapeInvalid => "invalid escape sequence found in character class"
  | classRangeInvalid => "invalid character class range, the start must be <= the end"
  | classRangeLiteral => "invalid range boundary, must be a literal"
  | classUnclosed => "unclosed character class"
  | decimalEmpty => "decimal literal empty"
  | decimalInvalid => "decimal literal invalid"
  | hexEmpty => "hexadecimal literal empty"
  | hexInvalid => "hexadecimal literal is not a Unicode scalar value"
  | hexInvalidDigit => "invalid hexadecimal digit"
  | escapeUnexpectedEnd => "incomplete escape sequence, reached end of pattern prematurely"
  | escapeUnrecognized => "unrecognized escape sequence"
  | flagDanglingNegation => "dangling flag negation operator"
  | flagDuplicate => "duplicate flag"
  | flagRepeatedNegation => "flag negation operator repeated"
  | flagUnexpectedEnd => "expected flag but got end of regex"
  | flagUnrecognized => "unrecognized flag"
  | groupNameDuplicate => "duplicate capture group name"
  | groupNameEmpty => "empty capture group name"
  | groupNameInvalid => "invalid capture group character"
  | groupNameUnexpectedEnd => "unclosed capture group name"
  | groupUnclosed => "unclosed group"
  | groupUnopened => "unopened group"
  | nestedTooDeeply limit =>
      s!"exceed the maximum number of nested parentheses/brackets ({limit})"
  | repetitionCountInvalid => "invalid repetition count range, the start must be <= the end"
  | repetitionCountEmpty => "repetition quantifier expects a valid decimal"
  | repetitionCountUnclosed => "unclosed counted repetition"
  | repetitionMissing => "repetition operator missing expression"
  | boundaryUnclosed =>
      "special word boundary assertion is either unclosed or contains an invalid character"
  | boundaryUnrecognized =>
      "unrecognized special word boundary assertion, valid choices are: start, end, start-half " ++
        "or end-half"
  | boundaryOrRepetitionUnclosed =>
      "found either the beginning of a special word boundary or a bounded repetition on a \\b " ++
        "with an opening brace, but no closing brace"
  | propertyInvalid => "invalid Unicode character class"
  | backreference => "backreferences are not supported"
  | lookAround => "look-around, including look-ahead and look-behind, is not supported"
  | unicodeNotAllowed => "Unicode not allowed here"
  | invalidUtf8 => "pattern can match invalid UTF-8"
  | propertyNotFound => "Unicode property not found"
  | propertyValueNotFound => "Unicode property value not found"

end FaultKind

/-- A fault: its kind, its place, and the earlier place that it conflicts with. -/
structure Fault where
  kind : FaultKind
  span : Span
  earlier : Option Span := none
  deriving DecidableEq, Repr

namespace Fault

/-! ## Carets -/

/-- Carets under the spans of one line, which are in order; `column` is how many columns are written. -/
def carets : Nat → List Span → List Char
  | _, [] => []
  | column, s :: rest =>
      let indent := s.first.column - 1 - column
      let width := max 1 (s.last.column - s.first.column)
      List.replicate indent ' ' ++ List.replicate width '^' ++
        carets (column + indent + width) rest

/-- The spans in the order of the text. -/
def spans (f : Fault) : List Span :=
  match f.earlier with
  | none => [f.span]
  | some e =>
      if (e.first.offset, e.last.offset) = (f.span.first.offset, f.span.last.offset) ∨
          e.first.offset < f.span.first.offset ∨
          (e.first.offset = f.span.first.offset ∧ e.last.offset < f.span.last.offset) then
        [e, f.span]
      else [f.span, e]

/-- One line of the pattern behind `label`, and a line of carets if a span lies in it. -/
def notate (label : List Char) (spans : List Span) (line : List Char) : List Char :=
  let marks := if spans.isEmpty then []
    else List.replicate label.length ' ' ++ carets 0 spans ++ ['\n']
  label ++ line ++ '\n' :: marks

/-! ## Reports -/

/-- The number of a line, aligned to `width` digits, and a colon. -/
def lineLabel (width n : Nat) : List Char :=
  let cs := Nat.toDigits 10 n
  List.replicate (width - cs.length) ' ' ++ cs ++ [':', ' ']

def divider : List Char := List.replicate 79 '~' ++ ['\n']

/-- A span over several lines is described in words. -/
def spanNote (s : Span) : String :=
  s!"on line {s.first.line} (column {s.first.column}) through line {s.last.line} " ++
    s!"(column {s.last.column - 1})"

/-- The report of a fault in a pattern. -/
def report (f : Fault) (pattern : String) : String :=
  let text := pattern.toList
  let lines := Lines.ofText text
  let count := lines.length + (if text.getLast? = some '\n' then 1 else 0)
  let label := fun (n : Nat) =>
    if count ≤ 1 then [' ', ' ', ' ', ' '] else lineLabel (Nat.toDigits 10 count).length n
  let within := fun (n : Nat) => f.spans.filter fun s => s.isOneLine && s.first.line == n
  let notated := String.ofList <| (lines.zip (List.range lines.length)).flatMap fun (l, i) =>
    notate (label (i + 1)) (within (i + 1)) l
  if text.contains '\n' then
    let long := f.spans.filter fun s => !s.isOneLine
    let notes := if long.isEmpty then "" else "\n".intercalate (long.map spanNote) ++ "\n"
    "regex parse error:\n" ++ String.ofList divider ++ notated ++ String.ofList divider ++ notes ++
      "error: " ++ f.kind.message
  else "regex parse error:\n" ++ notated ++ "error: " ++ f.kind.message

end Fault

end HealthRules.Pattern
