import HealthRules.Pattern.ClassParser

/-!
# Parser — reading a pattern

A pattern is a sequence of parts, with alternatives separated by bars and groups in parentheses. Open
groups and alternatives wait on a stack while what follows them is read.

* `Sequence` is a sequence being read, `Frame` what waits for it;
* `Parse.pattern` reads a pattern, and `parse` starts it.
-/

namespace HealthRules.Pattern

/-- A sequence being read: where it begins, and its parts in reverse. -/
structure Sequence where
  first : Position
  parts : List Node

/-- What waits while a sequence is being read: alternatives in reverse, or an open group together with
the sequence that holds it and the mode outside it. -/
inductive Frame where
  | alternatives (first : Position) (branches : List Node)
  | group (outer : Sequence) (span : Span) (kind : GroupKind) (extended : Bool)

/-- What an opening parenthesis begins. -/
inductive Opening where
  | flags (n : Node) (signs : List FlagSign)
  | group (span : Span) (kind : GroupKind)

/-- The last setting of a flag in a list. -/
def flagState (f : Flag) : List FlagSign → Option Bool :=
  let rec go (on : Bool) (found : Option Bool) : List FlagSign → Option Bool
    | [] => found
    | .negation :: rest => go false found rest
    | .flag g :: rest => go on (if g = f then some on else found) rest
  go true none

namespace Parse

/-! ## Flags -/

def flag? : Char → Option Flag
  | 'i' => some .caseInsensitive
  | 'm' => some .multiLine
  | 's' => some .dotMatchesNewLine
  | 'U' => some .swapGreed
  | 'u' => some .unicode
  | 'R' => some .crlf
  | 'x' => some .ignoreWhitespace
  | _ => none

def repeatedSign : FlagSign → FaultKind
  | .negation => .flagRepeatedNegation
  | .flag _ => .flagDuplicate

/-- Read flags up to a colon or a closing parenthesis; the signs read so far are in reverse. -/
def flagSigns : Nat → List (FlagSign × Span) → Parse (List FlagSign)
  | 0, signs => return (signs.map Prod.fst).reverse
  | fuel + 1, signs => do
      match ← char? with
      | none => fail .flagUnexpectedEnd (← here)
      | some c =>
          if c = ':' ∨ c = ')' then
            match signs with
            | (.negation, span) :: _ => fail .flagDanglingNegation span
            | _ => return (signs.map Prod.fst).reverse
          else
            let span ← charSpan
            let sign ← if c = '-' then pure FlagSign.negation else match flag? c with
              | some f => pure (.flag f)
              | none => fail .flagUnrecognized span
            match signs.reverse.find? (·.1 == sign) with
            | some (_, earlier) =>
                throw { kind := repeatedSign sign, span, earlier := some earlier }
            | none =>
                if !(← bump) then fail .flagUnexpectedEnd (← here)
                flagSigns fuel ((sign, span) :: signs)

/-! ## Groups -/

/-- A character that a group name may have, at its beginning or after it. -/
def isNameChar (c : Char) (isFirst : Bool) : Bool :=
  c == '_' ||
    (if isFirst then Unicode.alphabetic.containsChar c
     else c == '.' || c == '[' || c == ']' || Unicode.alphanumeric.containsChar c)

/-- Read the characters of a name up to the closing angle bracket. -/
def nameChars : Nat → List Char → Parse (List Char)
  | 0, acc => return acc.reverse
  | fuel + 1, acc => do
      match ← char? with
      | none => return acc.reverse
      | some c =>
          if c = '>' then return acc.reverse
          else if isNameChar c acc.isEmpty then
            let _ ← bump
            nameChars fuel (c :: acc)
          else fail .groupNameInvalid (← charSpan)

/-- Read the name of a group, which no other group may have. -/
def groupName : Parse Unit := do
  if ← atEnd then fail .groupNameUnexpectedEnd (← here)
  let first ← position
  let name ← nameChars (← get).rest.length []
  if ← atEnd then fail .groupNameUnexpectedEnd (← here)
  let span ← spanFrom first
  let _ ← bump
  if name.isEmpty then fail .groupNameEmpty (.point first)
  let name := String.ofList name
  match (← get).names.find? (·.1 == name) with
  | some (_, earlier) => throw { kind := .groupNameDuplicate, span, earlier := some earlier }
  | none => modify fun r => { r with names := (name, span) :: r.names }

/-- The look-around that begins here, if any. -/
def lookAround? : Parse Bool := do
  if ← bumpIf "?=" then return true
  if ← bumpIf "?!" then return true
  if ← bumpIf "?<=" then return true
  bumpIf "?<!"

/-- Read what an opening parenthesis begins. -/
def opening : Parse Opening := do
  let span ← charSpan
  let _ ← bump
  bumpSpace
  if ← lookAround? then fail .lookAround ⟨span.first, ← position⟩
  let inner ← here
  if (← bumpIf "?P<") || (← bumpIf "?<") then
    groupName
    return .group span .capturing
  else if ← bumpIf "?" then
    if ← atEnd then fail .groupUnclosed span
    let signs ← flagSigns ((← get).rest.length + 1) []
    let closes ← nextIs ')'
    let _ ← bump
    if closes then
      if signs.isEmpty then fail .repetitionMissing inner
      return .flags (.flags ⟨span.first, ← position⟩ signs) signs
    return .group span (.flagged signs)
  else return .group span .capturing

/-! ## Repetitions -/

/-- Take the last part of a sequence as the operand of a repetition. -/
def operand (s : Sequence) : Parse (Node × Sequence) := do
  match s.parts with
  | [] => fail .repetitionMissing (← here)
  | .empty _ :: _ => fail .repetitionMissing (← here)
  | .flags _ _ :: _ => fail .repetitionMissing (← here)
  | n :: rest => return (n, { s with parts := rest })

def repeated (n : Node) (count : Count) (s : Sequence) : Parse Sequence := do
  let node := Node.repetition ⟨n.span.first, ← position⟩ count n
  return { s with parts := node :: s.parts }

/-- The count that a single character stands for. -/
def signCount? : Char → Option Count
  | '?' => some { least := 0, most := some 1 }
  | '*' => some { least := 0, most := none }
  | '+' => some { least := 1, most := none }
  | _ => none

/-- Read the sign of reluctance, if it follows; the answer is whether it is missing. -/
def isGreedy : Parse Bool := return !(← bumpIf "?")

/-- Read a repetition sign of one character, and the sign of reluctance after it. -/
def signRepetition (s : Sequence) (count : Count) : Parse Sequence := do
  let (n, s) ← operand s
  let _ ← bump
  let greedy ← isGreedy
  repeated n { count with greedy } s

/-- Read a count in braces. -/
def bracedCount (first : Position) : Parse Count := do
  if !(← bumpThenSpace) then fail .repetitionCountUnclosed (← spanFrom first)
  let least ← decimal .repetitionCountEmpty
  if ← atEnd then fail .repetitionCountUnclosed (← spanFrom first)
  if ← nextIs ',' then
    if !(← bumpThenSpace) then fail .repetitionCountUnclosed (← spanFrom first)
    let least : Parse Nat := ofExcept least
    if ← nextIs '\x7d' then return { least := ← least, most := none }
    let least ← least
    let most ← ofExcept (← decimal .repetitionCountEmpty)
    return { least, most := some most }
  else
    let n ← ofExcept least
    return { least := n, most := some n }

/-- Read a repetition with a count in braces. -/
def countRepetition (s : Sequence) : Parse Sequence := do
  let first ← position
  let (n, s) ← operand s
  let count ← bracedCount first
  if !(← nextIs '\x7d') then fail .repetitionCountUnclosed (← spanFrom first)
  let _ ← bumpThenSpace
  let greedy ← isGreedy
  if count.most.any (· < count.least) then fail .repetitionCountInvalid (← spanFrom first)
  repeated n { count with greedy } s

/-! ## Sequences -/

/-- A finished sequence as a node that ends here. -/
def closeSequence (s : Sequence) : Parse Node := return Node.ofParts (← spanFrom s.first) s.parts

/-- Put a finished sequence among the alternatives that wait, or make it the first of them. -/
def addAlternative (n : Node) (first : Position) : List Frame → List Frame
  | .alternatives p branches :: frames => .alternatives p (n :: branches) :: frames
  | frames => .alternatives first [n] :: frames

/-- The alternatives that wait and the last one as one node that ends at `last`. -/
def joinAlternatives (n : Node) (last : Position) : List Frame → Node × List Frame
  | .alternatives p branches :: frames =>
      (.alternation ⟨p, last⟩ (n :: branches).reverse, frames)
  | frames => (n, frames)

/-- Open a group, or set flags. -/
def openGroup (s : Sequence) (frames : List Frame) : Parse (Sequence × List Frame) := do
  match ← opening with
  | .flags n signs =>
      if let some on := flagState .ignoreWhitespace signs then
        modify fun r => { r with extended := on }
      return ({ s with parts := n :: s.parts }, frames)
  | .group span kind =>
      let outside := (← get).extended
      let inside := match kind with
        | .flagged signs => (flagState .ignoreWhitespace signs).getD outside
        | .capturing => outside
      modify fun r => { r with extended := inside }
      return (⟨← position, []⟩, .group s span kind outside :: frames)

/-- Close the innermost group. -/
def closeGroup (s : Sequence) (frames : List Frame) : Parse (Sequence × List Frame) := do
  let parenthesis ← charSpan
  let last ← position
  let n ← closeSequence s
  match joinAlternatives n last frames with
  | (body, .group outer span kind outside :: frames) =>
      modify fun r => { r with extended := outside }
      let _ ← bump
      let node := Node.group ⟨span.first, ← position⟩ kind body
      return ({ outer with parts := node :: outer.parts }, frames)
  | _ => fail .groupUnopened parenthesis

/-- End the pattern. -/
def finish (s : Sequence) (frames : List Frame) : Parse Node := do
  let n ← closeSequence s
  match joinAlternatives n (← position) frames with
  | (body, []) => return body
  | (_, .group _ span _ _ :: _) => fail .groupUnclosed span
  | (body, _) => return body

/-- Read on from a sequence, while `frames` wait. -/
def sequenceLoop : Nat → Sequence → List Frame → Parse Node
  | 0, s, frames => finish s frames
  | fuel + 1, s, frames => do
      bumpSpace
      match ← char? with
      | none => finish s frames
      | some c =>
          if c = '(' then
            let (s, frames) ← openGroup s frames
            sequenceLoop fuel s frames
          else if c = ')' then
            let (s, frames) ← closeGroup s frames
            sequenceLoop fuel s frames
          else if c = '|' then
            let n ← closeSequence s
            let frames := addAlternative n s.first frames
            let _ ← bump
            sequenceLoop fuel ⟨← position, []⟩ frames
          else if c = '\x7b' then sequenceLoop fuel (← countRepetition s) frames
          else if let some count := signCount? c then
            sequenceLoop fuel (← signRepetition s count) frames
          else
            let n ← if c = '[' then bracketedClass else Primitive.toNode <$> primitive c
            sequenceLoop fuel { s with parts := n :: s.parts } frames

/-- Read a whole pattern. Every step passes a character. -/
def pattern : Parse Node := do
  sequenceLoop ((← get).rest.length + 1) ⟨← position, []⟩ []

end Parse

/-- The syntax tree of a pattern. -/
def parse (text : String) : Except Fault Node :=
  match Parse.pattern.run { rest := text.toList } with
  | .ok (n, _) => .ok n
  | .error f => .error f

end HealthRules.Pattern
