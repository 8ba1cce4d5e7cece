import HealthRules.Pattern.Expr
import HealthRules.Pattern.WordTree

/-!
# Layout — how an automaton is laid out

An automaton for an expression is made part by part. Its layout says which states each part takes and in
which order, for an automaton that reads forward or for one that reads backward.

* `Layout` and `Layout.place`, which makes the states of a layout;
* `Direction` and `Expr.layout`, the layout of an expression;
* `Expr.startsText` and `Expr.endsText`, whether every match is bound to an end of the text.
-/

namespace HealthRules.Pattern

/-- States to be made: some at once, those that read a character of a set, several copies, or one part after
the other. -/
inductive Layout where
  | block (made : Tally)
  | forward (seqs : List ByteRuns)
  | backward (seqs : List ByteRuns)
  | copies (n : Nat) (body : Layout)
  | chain (parts : List Layout)
  deriving Inhabited

namespace Tally

/-- Make `n` copies, until there is no room left. -/
def repeatedly (make : Tally → Tally) : Nat → Tally → Tally
  | 0, t => t
  | n + 1, t => if t.fits then repeatedly make n (make t) else t

def append (t made : Tally) : Tally := ⟨t.states + made.states, t.room + made.room⟩

end Tally

namespace Layout

/-! ## Making states -/

mutual

/-- Make the states of a layout after those that there are, until there is no room left. -/
def place (t : Tally) : Layout → Tally
  | block made => t.append made
  | forward seqs => t.readForward seqs
  | backward seqs => t.readBackward seqs
  | copies n body => Tally.repeatedly (fun t => place t body) n t
  | chain parts => placeAll t parts

def placeAll (t : Tally) : List Layout → Tally
  | [] => t
  | part :: parts => if t.fits then placeAll (place t part) parts else t

end

/-! ## Blocks -/

/-- `n` states that take `extra` bytes besides their own. -/
def states (n : Nat) (extra : Nat := 0) : Layout := block (({} : Tally).add n extra)

/-- A state with `n` branches. -/
def fork (n : Nat) : Layout := states 1 (n * Tally.branchSize)

/-- `n` copies one after the other. -/
def exactly (n : Nat) (body : Layout) : Layout := if n = 0 then states 1 else copies n body

/-- A repetition; `consumes` tells that every match of its body has characters. -/
def repetition (least : Nat) (most : Option Nat) (consumes : Bool) (body : Layout) : Layout :=
  match most with
  | none =>
      if 0 < least then chain [copies least body, fork 2]
      else if consumes then chain [fork 2, body]
      else chain [body, fork 2, fork 2, states 1]
  | some most =>
      if least = 0 ∧ most = 1 then chain [fork 2, body, states 1]
      else if most = least then exactly least body
      else chain [exactly least body, states 1, copies (most - least) (chain [fork 2, body])]

/-- A choice. The states that join the branches are made after the first two of these. -/
def choice : List Layout → Layout
  | [] => states 1
  | [branch] => branch
  | first :: second :: rest =>
      chain (first :: second :: fork (rest.length + 2) :: states 1 :: rest)

end Layout

/-! ## Expressions -/

/-- Which way an automaton reads. -/
inductive Direction where
  | forward
  | backward
  deriving DecidableEq, Repr

namespace Direction

/-- Put what stands in the order of the text into the order in which it is read. -/
def order {α : Type} (d : Direction) (items : List α) : List α :=
  match d with
  | forward => items
  | backward => items.reverse

/-- One character of a set. -/
def set (d : Direction) (s : CharSet) : Layout :=
  if s.allBelow 0x80 then .states 2 (s.runs.length * Tally.rangeSize)
  else match d with
    | forward => .forward (ByteRuns.ofSet s)
    | backward => .backward (ByteRuns.ofSet s)

/-- A group. Only an automaton that reads forward notes where it begins and ends. -/
def group (d : Direction) (body : Layout) : Layout :=
  match d with
  | forward => .chain [.states 1, body, .states 1]
  | backward => body

end Direction

namespace Expr

/-- The bytes of a literal. -/
def word? : Expr → Option Word
  | literal cs => some (Utf8.encode cs)
  | _ => none

mutual

/-- The layout of an expression within an automaton. -/
def layout (d : Direction) : Expr → Layout
  | empty => .states 1
  | fail => .states 2
  | literal cs => .states (Utf8.encode cs).length
  | set _ s => d.set s
  | look _ => .states 1
  | repetition least most _ body =>
      .repetition least most (body.leastLength?.any (0 < ·)) (layout d body)
  | capture _ body => d.group (layout d body)
  | concat parts => .chain (d.order (layouts d parts))
  | alternation branches => match branches.mapM word? with
    | some words => .block (WordTree.tally (words.map d.order))
    | none => .choice (layouts d branches)

def layouts (d : Direction) : List Expr → List Layout
  | [] => []
  | e :: es => layout d e :: layouts d es

end

/-! ## Ends of the text -/

mutual

/-- Every match begins where the text begins, as far as the expression shows it. -/
def startsText : Expr → Bool
  | look l => l == .textStart
  | repetition least _ _ body => 0 < least && startsText body
  | capture _ body => startsText body
  | concat parts => firstStartsText parts
  | alternation branches => allStartText branches
  | _ => false

/-- One of the parts up to the first that takes characters starts the text. -/
def firstStartsText : List Expr → Bool
  | [] => false
  | e :: es => startsText e || (e.isWidthless && firstStartsText es)

def allStartText : List Expr → Bool
  | [] => true
  | e :: es => startsText e && allStartText es

end

mutual

/-- Every match ends where the text ends, as far as the expression shows it. -/
def endsText : Expr → Bool
  | look l => l == .textEnd
  | repetition least _ _ body => 0 < least && endsText body
  | capture _ body => endsText body
  | concat parts => lastEndsText parts
  | alternation branches => allEndText branches
  | _ => false

/-- One of the parts from the last that takes characters on ends the text. -/
def lastEndsText : List Expr → Bool
  | [] => false
  | e :: es => lastEndsText es || (allWidthless es && endsText e)

def allEndText : List Expr → Bool
  | [] => true
  | e :: es => endsText e && allEndText es

end

end Expr

end HealthRules.Pattern
