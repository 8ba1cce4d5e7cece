import HealthRules.Pattern.Expr
import HealthRules.Pattern.Fault
import HealthRules.Unicode.CaseFold

/-!
# Meaning — from syntax trees to expressions

Flags decide what the parts of a pattern stand for: whether letter case counts, whether classes and
boundaries know all characters or ASCII alone, what a dot and the line anchors take for a line. A flag
holds to the end of its group. A pattern that could match a part of a character is refused.

* `Mode`, the flags in force;
* `Meaning.classSet`, the set of a bracketed class;
* `Node.meaning`, the expression of a tree.
-/

namespace HealthRules.Pattern

/-- The flags in force, and the number of capturing groups so far. -/
structure Mode where
  caseInsensitive : Bool := false
  multiLine : Bool := false
  dotMatchesNewLine : Bool := false
  unicode : Bool := true
  crlf : Bool := false
  swapGreed : Bool := false
  captures : Nat := 0
  deriving Repr

namespace Mode

def set (m : Mode) (f : Flag) (on : Bool) : Mode :=
  match f with
  | .caseInsensitive => { m with caseInsensitive := on }
  | .multiLine => { m with multiLine := on }
  | .dotMatchesNewLine => { m with dotMatchesNewLine := on }
  | .unicode => { m with unicode := on }
  | .crlf => { m with crlf := on }
  | .swapGreed => { m with swapGreed := on }
  | .ignoreWhitespace => m

def applySigns (on : Bool) (m : Mode) : List FlagSign → Mode
  | [] => m
  | .negation :: rest => applySigns false m rest
  | .flag f :: rest => applySigns on (m.set f on) rest

/-- The flags after a list of signs. -/
def apply (m : Mode) (signs : List FlagSign) : Mode := applySigns true m signs

/-- The flags of `outer`, with the count of groups of `m`. -/
def restore (outer m : Mode) : Mode := { outer with captures := m.captures }

end Mode

namespace Meaning

abbrev Result := Except Fault

def fault {α : Type} (kind : FaultKind) (span : Span) : Result α := .error { kind, span }

/-! ## Sets -/

/-- The ASCII letters of a set in both cases. -/
def closeAscii (s : CharSet) : CharSet :=
  let upper := s.inter (.ofRange 0x41 0x5A)
  let lower := s.inter (.ofRange 0x61 0x7A)
  .ofRuns (s.runs ++ upper.runs.map (fun r => ⟨r.first + 32, r.last + 32⟩) ++
    lower.runs.map (fun r => ⟨r.first - 32, r.last - 32⟩))

/-- Close a set under letter case if case does not count. -/
def fold (m : Mode) (s : CharSet) : CharSet :=
  if !m.caseInsensitive then s else if m.unicode then CaseFold.close s else closeAscii s

/-- The complement among the characters, or among the bytes if classes know ASCII alone. -/
def complement (m : Mode) (s : CharSet) : CharSet :=
  if m.unicode then s.complement else s.complementUpTo 0xFF

/-- Complement a set if it is negated. A set of bytes may then hold ASCII only. -/
def negate (m : Mode) (span : Span) (negated : Bool) (s : CharSet) : Result CharSet :=
  let s := if negated then complement m s else s
  if m.unicode || s.allBelow 0x80 then .ok s else fault .invalidUtf8 span

/-- A set as an expression, of characters or, if classes know ASCII alone, of bytes. -/
def ofSet (m : Mode) (s : CharSet) : Expr := .ofSet (if m.unicode then .char else .byte) s

def foldAndNegate (m : Mode) (span : Span) (negated : Bool) (s : CharSet) : Result CharSet :=
  negate m span negated (fold m s)

/-- The set of a shorthand class. -/
def shorthandSet (unicode : Bool) : Shorthand → CharSet
  | .digit => if unicode then Unicode.decimalDigits else ⟨AsciiClass.digit.runs⟩
  | .space => if unicode then Unicode.whiteSpace else ⟨AsciiClass.space.runs⟩
  | .word => if unicode then Unicode.wordChars else ⟨AsciiClass.word.runs⟩

def property (m : Mode) (span : Span) (query : Unicode.Query) (negated : Bool) : Result CharSet :=
  if !m.unicode then fault .unicodeNotAllowed span
  else match query.resolve with
    | .ok s => foldAndNegate m span negated s
    | .error .unknownProperty => fault .propertyNotFound span
    | .error .unknownValue => fault .propertyValueNotFound span

/-- A literal as a character. Where classes know ASCII alone, a byte beyond ASCII is none. -/
def literalChar (m : Mode) (l : Literal) : Result Char :=
  if !m.unicode && l.byte && 0x80 ≤ l.char.toNat then fault .invalidUtf8 l.span else .ok l.char

/-- A literal in a bracketed class. -/
def memberChar (m : Mode) (l : Literal) : Result Nat := do
  let c ← literalChar m l
  if !m.unicode && 0x80 ≤ c.toNat then fault .unicodeNotAllowed l.span else .ok c.toNat

def applyOperator : SetOperator → CharSet → CharSet → CharSet
  | .intersection, s, t => s.inter t
  | .difference, s, t => s.diff t
  | .symmetricDifference, s, t => s.symmDiff t

mutual

/-- The set of what stands in square brackets. -/
def classSet (m : Mode) : ClassSet → Result CharSet
  | .empty _ => .ok .empty
  | .literal l => do return .single (← memberChar m l)
  | .range a b => do
      let lo ← memberChar m a
      let hi ← memberChar m b
      return .ofRange lo hi
  | .ascii span kind negated => foldAndNegate m span negated ⟨kind.runs⟩
  | .property span query negated => property m span query negated
  | .shorthand span kind negated => negate m span negated (shorthandSet m.unicode kind)
  | .bracketed span negated body => do foldAndNegate m span negated (← classSet m body)
  | .union _ items => do return .ofRuns (← classRuns m items)
  | .binary _ op left right => do
      let s ← classSet m left
      let t ← classSet m right
      return applyOperator op (fold m s) (fold m t)

/-- The runs of several items together. -/
def classRuns (m : Mode) : List ClassSet → Result (List Run)
  | [] => .ok []
  | item :: items => do
      let s ← classSet m item
      return s.runs ++ (← classRuns m items)

end

/-! ## Single parts -/

/-- A literal, as a set if letter case does not count and there are other cases. -/
def literal (m : Mode) (l : Literal) : Result Expr := do
  let c ← literalChar m l
  return ofSet m (fold m (.single c.toNat))

def dot (m : Mode) (span : Span) : Result Expr :=
  if !m.unicode then fault .invalidUtf8 span
  else if m.dotMatchesNewLine then .ok (.set .char (.ofRange 0 maxCodePoint))
  else if m.crlf then
    .ok (.set .char (CharSet.ofRuns [⟨0x0A, 0x0A⟩, ⟨0x0D, 0x0D⟩]).complement)
  else .ok (.set .char (CharSet.single 0x0A).complement)

def assertion (m : Mode) : Assertion → Look
  | .startLine => if m.multiLine then .lineStart m.crlf else .textStart
  | .endLine => if m.multiLine then .lineEnd m.crlf else .textEnd
  | .startText => .textStart
  | .endText => .textEnd
  | .wordBoundary => .word .boundary m.unicode
  | .notWordBoundary => .word .notBoundary m.unicode
  | .wordStart => .word .start m.unicode
  | .wordEnd => .word .stop m.unicode
  | .wordStartHalf => .word .startHalf m.unicode
  | .wordEndHalf => .word .stopHalf m.unicode

end Meaning

namespace Node

open Meaning

mutual

/-- The expression of a tree, and the mode after it. -/
def meaning (m : Mode) : Node → Result (Expr × Mode)
  | empty _ => .ok (.empty, m)
  | flags _ signs => .ok (.empty, m.apply signs)
  | literal l => do return (← Meaning.literal m l, m)
  | dot span => do return (← Meaning.dot m span, m)
  | assertion _ kind => .ok (.look (Meaning.assertion m kind), m)
  | property span query negated => do
      return (ofSet m (← Meaning.property m span query negated), m)
  | shorthand span kind negated => do
      return (ofSet m (← negate m span negated (shorthandSet m.unicode kind)), m)
  | bracketed span negated body => do
      return (ofSet m (← foldAndNegate m span negated (← classSet m body)), m)
  | repetition _ count body => do
      let (e, m) ← meaning m body
      return (.times count.least count.most (count.greedy != m.swapGreed) e, m)
  | group _ kind body => match kind with
    | .capturing => do
        let index := m.captures + 1
        let (e, inner) ← meaning { m with captures := index } body
        return (.capture index e, m.restore inner)
    | .flagged signs => do
        let (e, inner) ← meaning (m.apply signs) body
        return (e, m.restore inner)
  | alternation _ branches => do
      let (es, m) ← meanings m branches
      return (.choice es, m)
  | concat _ parts => do
      let (es, m) ← meanings m parts
      return (.sequence es, m)

def meanings (m : Mode) : List Node → Result (List Expr × Mode)
  | [] => .ok ([], m)
  | n :: ns => do
      let (e, m) ← meaning m n
      let (es, m) ← meanings m ns
      return (e :: es, m)

end

end Node

end HealthRules.Pattern
