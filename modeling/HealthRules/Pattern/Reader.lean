import HealthRules.Pattern.Fault
import HealthRules.Text.Blank

/-!
# Reader — moving through the text of a pattern

A reader stands at a place in the pattern. In extended mode it skips white space and comments, which run
from `#` to the end of the line, wherever a construct allows it.

* `Reader` and the monad `Parse`, in which a fault ends everything;
* moves: `bump`, `bumpSpace`, `bumpThenSpace`, `bumpIf`;
* `scan`, which collects characters as long as they satisfy a condition.
-/

namespace HealthRules.Pattern

structure Reader where
  rest : List Char
  pos : Position := .start
  extended : Bool := false
  /-- The names of the groups opened so far. -/
  names : List (String × Span) := []

abbrev Parse := StateT Reader (Except Fault)

namespace Parse

/-! ## Faults and spans -/

def fail {α : Type} (kind : FaultKind) (span : Span) : Parse α := throw { kind, span }

def position : Parse Position := return (← get).pos

/-- The empty span where the reader stands. -/
def here : Parse Span := return .point (← get).pos

/-- The span of the next character, empty at the end. -/
def charSpan : Parse Span := do
  let r ← get
  match r.rest with
  | [] => return .point r.pos
  | c :: _ => return ⟨r.pos, r.pos.after c⟩

/-- The span from `first` to where the reader stands. -/
def spanFrom (first : Position) : Parse Span := return ⟨first, (← get).pos⟩

/-! ## Looking ahead -/

def char? : Parse (Option Char) := return (← get).rest.head?

def atEnd : Parse Bool := return (← get).rest.isEmpty

def nextIs (c : Char) : Parse Bool := return (← get).rest.head? == some c

/-- The character after the next one is `c`. -/
def secondIs (c : Char) : Parse Bool := return (← get).rest.tail.head? == some c

/-- The first character after the next one, past white space and the sign of a comment. -/
def secondPastSpace? : Parse (Option Char) := do
  let r ← get
  if !r.extended then return r.rest.tail.head?
  let after := r.rest.tail.dropWhile Blank.isBlank
  match after with
  | '#' :: more => return (more.dropWhile Blank.isBlank).head?
  | _ => return after.head?

/-! ## Moving -/

/-- Pass the next character; the answer is whether there is another one. -/
def bump : Parse Bool := do
  let r ← get
  match r.rest with
  | [] => return false
  | c :: cs =>
      set { r with rest := cs, pos := r.pos.after c }
      return !cs.isEmpty

/-- Skip white space and comments; `inComment` tells whether the place is inside a comment. -/
def skipSpace (inComment : Bool) (pos : Position) : List Char → Position × List Char
  | [] => (pos, [])
  | c :: cs =>
      if inComment then skipSpace (c != '\n') (pos.after c) cs
      else if Blank.isBlank c then skipSpace false (pos.after c) cs
      else if c = '#' then skipSpace true (pos.after c) cs
      else (pos, c :: cs)

/-- In extended mode, pass white space and comments. -/
def bumpSpace : Parse Unit := modify fun r =>
  if r.extended then
    let (pos, rest) := skipSpace false r.pos r.rest
    { r with pos, rest }
  else r

/-- Pass the next character and then space; the answer is whether there is another character. -/
def bumpThenSpace : Parse Bool := do
  if ← bump then
    bumpSpace
    return !(← atEnd)
  else return false

/-- Pass a word if the text goes on with it. -/
def bumpIf (word : String) : Parse Bool := do
  let r ← get
  if word.toList.isPrefixOf r.rest then
    set { r with
      rest := r.rest.drop word.length
      pos := word.toList.foldl Position.after r.pos }
    return true
  else return false

/-- Collect characters that satisfy `p`, moving on by `advance`, for at most `fuel` steps. -/
def scanFor (p : Char → Bool) (advance : Parse Bool) : Nat → List Char → Parse (List Char)
  | 0, acc => return acc.reverse
  | fuel + 1, acc => do
      match ← char? with
      | none => return acc.reverse
      | some c =>
          if p c then
            let _ ← advance
            scanFor p advance fuel (c :: acc)
          else return acc.reverse

/-- Collect the characters that satisfy `p`. -/
def scan (p : Char → Bool) (advance : Parse Bool) : Parse (List Char) := do
  scanFor p advance (← get).rest.length []

end Parse

end HealthRules.Pattern
