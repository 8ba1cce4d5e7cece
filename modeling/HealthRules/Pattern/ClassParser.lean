import HealthRules.Pattern.Escape

/-!
# ClassParser — reading a class in square brackets

Items stand side by side and form a union; the operators `&&`, `--` and `~~` join what stands left of
them with what stands right, and classes nest. A closing bracket right after the opening one, and hyphens
there, are items.

* `Gathered` is a union being read, `ClassFrame` what waits for it: an open bracket or an operator;
* `Parse.bracketedClass` reads a class.
-/

namespace HealthRules.Pattern

/-- A union being read: its place and its items in reverse. -/
structure Gathered where
  span : Span
  items : List ClassSet

namespace Gathered

def start (p : Position) : Gathered := ⟨.point p, []⟩

def push (g : Gathered) (item : ClassSet) : Gathered :=
  let first := if g.items.isEmpty then item.span.first else g.span.first
  ⟨⟨first, item.span.last⟩, item :: g.items⟩

/-- The items as one: a union only if there are several. -/
def close (g : Gathered) : ClassSet :=
  match g.items with
  | [] => .empty g.span
  | [item] => item
  | items => .union g.span items.reverse

end Gathered

/-- What waits while a class is being read. -/
inductive ClassFrame where
  | opened (outer : Gathered) (span : Span) (negated : Bool)
  | operator (op : SetOperator) (left : ClassSet)

namespace Parse

/-! ## Items -/

/-- A primitive as an item; an assertion is none. -/
def classItem : Primitive → Parse ClassSet
  | .literal l => return .literal l
  | .shorthand s k n => return .shorthand s k n
  | .property s q n => return .property s q n
  | p => fail .classEscapeInvalid p.span

/-- A primitive as the end of a range. -/
def rangeEnd : Primitive → Parse Literal
  | .literal l => return l
  | p => fail .classRangeLiteral p.span

/-- Read a smallest part of a class, given its first character. -/
def classPrimitive (c : Char) : Parse Primitive := if c = '\\' then escape else verbatim c

/-- The fault of a class without an end: it shows the innermost open bracket. -/
def unclosedClass {α : Type} (frames : List ClassFrame) : Parse α := do
  let opened := frames.findSome? fun
    | .opened _ span _ => some span
    | .operator _ _ => none
  fail .classUnclosed (opened.getD (← here))

/-- Read an item or a range, given its first character. -/
def classRange (frames : List ClassFrame) (c : Char) : Parse ClassSet := do
  let first ← classPrimitive c
  bumpSpace
  if ← atEnd then unclosedClass frames
  let second ← secondPastSpace?
  if !(← nextIs '-') || second == some ']' || second == some '-' then classItem first
  else if !(← bumpThenSpace) then unclosedClass frames
  else
    match ← char? with
    | none => unclosedClass frames
    | some d =>
        let last ← classPrimitive d
        let span : Span := ⟨first.span.first, last.span.last⟩
        let a ← rangeEnd first
        let b ← rangeEnd last
        if a.char ≤ b.char then return .range a b else fail .classRangeInvalid span

/-- Read a class such as `[:alpha:]`. If there is none here, nothing is read. -/
def asciiClass? : Parse (Option ClassSet) := do
  let saved ← get
  let giveUp : Parse (Option ClassSet) := do
    set saved
    return none
  if !(← bump) || !(← nextIs ':') then return ← giveUp
  if !(← bump) then return ← giveUp
  let negated ← nextIs '^'
  if negated then
    if !(← bump) then return ← giveUp
  let name ← scan (· != ':') bump
  if !(← bumpIf ":]") then return ← giveUp
  match AsciiClass.ofName? (String.ofList name) with
  | some kind => return some (.ascii (← spanFrom saved.pos) kind negated)
  | none => giveUp

/-! ## Brackets and operators -/

/-- Read hyphens at the beginning of a class as items, for at most `fuel` of them. -/
def leadingHyphens (first : Position) : Nat → Gathered → Parse Gathered
  | 0, g => return g
  | fuel + 1, g => do
      if ← nextIs '-' then
        let item := ClassSet.literal { span := ← charSpan, char := '-' }
        if !(← bumpThenSpace) then fail .classUnclosed (.point first)
        leadingHyphens first fuel (g.push item)
      else return g

/-- Read an opening bracket and what belongs to it. -/
def openClass : Parse (Span × Bool × Gathered) := do
  let first ← position
  if !(← bumpThenSpace) then fail .classUnclosed (← spanFrom first)
  let negated ← nextIs '^'
  if negated then
    if !(← bumpThenSpace) then fail .classUnclosed (← spanFrom first)
  let g ← leadingHyphens first (← get).rest.length (.start (← position))
  if g.items.isEmpty && (← nextIs ']') then
    let item := ClassSet.literal { span := ← charSpan, char := ']' }
    if !(← bumpThenSpace) then fail .classUnclosed (← spanFrom first)
    return (← spanFrom first, negated, g.push item)
  return (← spanFrom first, negated, g)

/-- Join an operand with the operator that waits for it. -/
def applyOperator (right : ClassSet) : List ClassFrame → ClassSet × List ClassFrame
  | .operator op left :: frames =>
      (.binary ⟨left.span.first, right.span.last⟩ op left right, frames)
  | frames => (right, frames)

/-- The operator that stands here, and its sign. -/
def operator? : Parse (Option (SetOperator × String)) := do
  if (← nextIs '&') && (← secondIs '&') then return some (.intersection, "&&")
  if (← nextIs '-') && (← secondIs '-') then return some (.difference, "--")
  if (← nextIs '~') && (← secondIs '~') then return some (.symmetricDifference, "~~")
  return none

/-- Read on in a class, of which `frames` wait, until the outermost bracket closes. -/
def classLoop : Nat → List ClassFrame → Gathered → Parse Node
  | 0, frames, _ => unclosedClass frames
  | fuel + 1, frames, g => do
      bumpSpace
      match ← char? with
      | none => unclosedClass frames
      | some c =>
          if c = '[' then
            if !frames.isEmpty then
              if let some item ← asciiClass? then
                return ← classLoop fuel frames (g.push item)
            let (span, negated, inner) ← openClass
            classLoop fuel (.opened g span negated :: frames) inner
          else if c = ']' then
            let (body, frames) := applyOperator g.close frames
            let _ ← bump
            let last ← position
            match frames with
            | .opened outer span negated :: rest =>
                let span : Span := ⟨span.first, last⟩
                if rest.isEmpty then return .bracketed span negated body
                else classLoop fuel rest (outer.push (.bracketed span negated body))
            | frames => unclosedClass frames
          else if let some (op, sign) ← operator? then
            let _ ← bumpIf sign
            let (left, frames) := applyOperator g.close frames
            classLoop fuel (.operator op left :: frames) (.start (← position))
          else
            let item ← classRange frames c
            classLoop fuel frames (g.push item)

/-- Read a class, whose opening bracket stands here. Every step passes a character. -/
def bracketedClass : Parse Node := do
  classLoop ((← get).rest.length + 1) [] (.start (← position))

end Parse

end HealthRules.Pattern
