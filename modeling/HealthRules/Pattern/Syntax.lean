import HealthRules.Unicode.Query

/-!
# Syntax — the syntax tree of a pattern

Patterns are regular expressions without back-references and look-around. Every part of the tree knows
where it stands in the pattern's text, because an error is reported by pointing at that place.

* `Position` and `Span`, places in a text by line and column;
* `ClassSet`, what stands in square brackets;
* `Node`, the tree.
-/

namespace HealthRules.Pattern

/-! ## Places -/

/-- A place between two characters. `offset` counts characters from 0; lines and columns count from 1. -/
structure Position where
  offset : Nat
  line : Nat
  column : Nat
  deriving DecidableEq, Repr, Inhabited

namespace Position

def start : Position := ⟨0, 1, 1⟩

/-- The place after a character. -/
def after (p : Position) (c : Char) : Position :=
  if c = '\n' then ⟨p.offset + 1, p.line + 1, 1⟩ else ⟨p.offset + 1, p.line, p.column + 1⟩

end Position

structure Span where
  first : Position
  last : Position
  deriving DecidableEq, Repr, Inhabited

namespace Span

def point (p : Position) : Span := ⟨p, p⟩

def isOneLine (s : Span) : Bool := s.first.line == s.last.line

end Span

/-! ## Leaves -/

/-- A character as it was written. `byte` marks the spelling `\xHH`, which can stand for a byte. -/
structure Literal where
  span : Span
  char : Char
  byte : Bool := false
  deriving Repr, Inhabited

inductive Flag where
  | caseInsensitive
  | multiLine
  | dotMatchesNewLine
  | swapGreed
  | unicode
  | crlf
  | ignoreWhitespace
  deriving DecidableEq, Repr

/-- One sign of a flag list: a flag, or the sign that turns the following ones off. -/
inductive FlagSign where
  | flag (f : Flag)
  | negation
  deriving DecidableEq, Repr

inductive Assertion where
  | startLine
  | endLine
  | startText
  | endText
  | wordBoundary
  | notWordBoundary
  | wordStart
  | wordEnd
  | wordStartHalf
  | wordEndHalf
  deriving DecidableEq, Repr

/-- The classes with a letter of their own. -/
inductive Shorthand where
  | digit
  | space
  | word
  deriving DecidableEq, Repr

/-- The classes that are named between `[:` and `:]`. -/
inductive AsciiClass where
  | alnum | alpha | ascii | blank | cntrl | digit | graph | lower | print | punct | space | upper
  | word | xdigit
  deriving DecidableEq, Repr

namespace AsciiClass

def ofName? : String → Option AsciiClass
  | "alnum" => some alnum
  | "alpha" => some alpha
  | "ascii" => some ascii
  | "blank" => some blank
  | "cntrl" => some cntrl
  | "digit" => some digit
  | "graph" => some graph
  | "lower" => some lower
  | "print" => some print
  | "punct" => some punct
  | "space" => some space
  | "upper" => some upper
  | "word" => some word
  | "xdigit" => some xdigit
  | _ => none

def runs : AsciiClass → List Run
  | alnum => [⟨0x30, 0x39⟩, ⟨0x41, 0x5A⟩, ⟨0x61, 0x7A⟩]
  | alpha => [⟨0x41, 0x5A⟩, ⟨0x61, 0x7A⟩]
  | ascii => [⟨0, 0x7F⟩]
  | blank => [⟨0x09, 0x09⟩, ⟨0x20, 0x20⟩]
  | cntrl => [⟨0, 0x1F⟩, ⟨0x7F, 0x7F⟩]
  | digit => [⟨0x30, 0x39⟩]
  | graph => [⟨0x21, 0x7E⟩]
  | lower => [⟨0x61, 0x7A⟩]
  | print => [⟨0x20, 0x7E⟩]
  | punct => [⟨0x21, 0x2F⟩, ⟨0x3A, 0x40⟩, ⟨0x5B, 0x60⟩, ⟨0x7B, 0x7E⟩]
  | space => [⟨0x09, 0x0D⟩, ⟨0x20, 0x20⟩]
  | upper => [⟨0x41, 0x5A⟩]
  | word => [⟨0x30, 0x39⟩, ⟨0x41, 0x5A⟩, ⟨0x5F, 0x5F⟩, ⟨0x61, 0x7A⟩]
  | xdigit => [⟨0x30, 0x39⟩, ⟨0x41, 0x46⟩, ⟨0x61, 0x66⟩]

end AsciiClass

/-! ## Bracketed classes -/

inductive SetOperator where
  | intersection
  | difference
  | symmetricDifference
  deriving DecidableEq, Repr

/-- What stands in square brackets: single items, their unions, and operators between them. -/
inductive ClassSet where
  | empty (span : Span)
  | literal (l : Literal)
  | range (first last : Literal)
  | ascii (span : Span) (kind : AsciiClass) (negated : Bool)
  | property (span : Span) (query : Unicode.Query) (negated : Bool)
  | shorthand (span : Span) (kind : Shorthand) (negated : Bool)
  | bracketed (span : Span) (negated : Bool) (body : ClassSet)
  | union (span : Span) (items : List ClassSet)
  | binary (span : Span) (op : SetOperator) (left right : ClassSet)
  deriving Inhabited

namespace ClassSet

def span : ClassSet → Span
  | empty s => s
  | literal l => l.span
  | range a b => ⟨a.span.first, b.span.last⟩
  | ascii s _ _ => s
  | property s _ _ => s
  | shorthand s _ _ => s
  | bracketed s _ _ => s
  | union s _ => s
  | binary s _ _ _ => s

end ClassSet

/-! ## The tree -/

/-- How often a part is repeated: at least `least` times, at most `most` times if there is a limit, and
rather more often than less if the count is `greedy`. -/
structure Count where
  least : Nat
  most : Option Nat
  greedy : Bool := true
  deriving DecidableEq, Repr, Inhabited

inductive GroupKind where
  | capturing
  | flagged (flags : List FlagSign)
  deriving Repr

inductive Node where
  | empty (span : Span)
  | flags (span : Span) (signs : List FlagSign)
  | literal (l : Literal)
  | dot (span : Span)
  | assertion (span : Span) (kind : Assertion)
  | property (span : Span) (query : Unicode.Query) (negated : Bool)
  | shorthand (span : Span) (kind : Shorthand) (negated : Bool)
  | bracketed (span : Span) (negated : Bool) (body : ClassSet)
  | repetition (span : Span) (count : Count) (body : Node)
  | group (span : Span) (kind : GroupKind) (body : Node)
  | alternation (span : Span) (branches : List Node)
  | concat (span : Span) (parts : List Node)
  deriving Inhabited

namespace Node

def span : Node → Span
  | empty s => s
  | flags s _ => s
  | literal l => l.span
  | dot s => s
  | assertion s _ => s
  | property s _ _ => s
  | shorthand s _ _ => s
  | bracketed s _ _ => s
  | repetition s _ _ => s
  | group s _ _ => s
  | alternation s _ => s
  | concat s _ => s

/-- A sequence of parts, given in reverse. -/
def ofParts (span : Span) : List Node → Node
  | [] => empty span
  | [n] => n
  | ns => concat span ns.reverse

end Node

end HealthRules.Pattern
