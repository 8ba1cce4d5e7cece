import HealthRules.Pattern.Reader

/-!
# Escape — what a backslash begins

A backslash begins a literal spelled by its code, a class, an assertion, or a character that would
otherwise have a meaning of its own.

* `Primitive`, what a single character or an escape stands for;
* `Parse.escape`, `Parse.primitive`, and `Parse.decimal`, which repetition counts use too.
-/

namespace HealthRules.Pattern

/-- A smallest part of a pattern. -/
inductive Primitive where
  | literal (l : Literal)
  | assertion (span : Span) (kind : Assertion)
  | dot (span : Span)
  | shorthand (span : Span) (kind : Shorthand) (negated : Bool)
  | property (span : Span) (query : Unicode.Query) (negated : Bool)

namespace Primitive

def span : Primitive → Span
  | literal l => l.span
  | assertion s _ => s
  | dot s => s
  | shorthand s _ _ => s
  | property s _ _ => s

def toNode : Primitive → Node
  | literal l => .literal l
  | assertion s k => .assertion s k
  | dot s => .dot s
  | shorthand s k n => .shorthand s k n
  | property s q n => .property s q n

end Primitive

namespace Parse

/-! ## Decimal numbers -/

/-- Read a decimal number below `2 ^ 32`, with white space around it. -/
def decimal (whenEmpty : FaultKind) : Parse (Except Fault Nat) := do
  let _ ← scan Blank.isBlank bump
  let first ← position
  let digits ← scan Char.isDigit bumpThenSpace
  let span ← spanFrom first
  let _ ← scan Blank.isBlank bumpThenSpace
  if digits.isEmpty then return .error { kind := whenEmpty, span }
  let n := digits.foldl (fun n c => n * 10 + (c.toNat - '0'.toNat)) 0
  if n < 0x100000000 then return .ok n else return .error { kind := .decimalInvalid, span }

/-! ## Hexadecimal literals -/

def isHexDigit (c : Char) : Bool :=
  c.isDigit || ('a' ≤ c && c ≤ 'f') || ('A' ≤ c && c ≤ 'F')

def hexDigitValue (c : Char) : Nat :=
  if c.isDigit then c.toNat - '0'.toNat
  else if 'a' ≤ c then c.toNat - 'a'.toNat + 10
  else c.toNat - 'A'.toNat + 10

/-- The character with a code in base 16, if there is one. -/
def charOfHex? (digits : List Char) : Option Char :=
  let n := digits.foldl (fun n c => if n < 0x100000000 then n * 16 + hexDigitValue c else n) 0
  if h : n.isValidChar then some (Char.ofNatAux n h) else none

/-- Read exactly `count` digits. -/
def hexFixed : Nat → List Char → Parse (List Char)
  | 0, acc => return acc.reverse
  | count + 1, acc => do
      match ← char? with
      | none => fail .escapeUnexpectedEnd (← here)
      | some c =>
          if isHexDigit c then
            let _ ← bumpThenSpace
            hexFixed count (c :: acc)
          else fail .hexInvalidDigit (← charSpan)

/-- Read digits up to a closing brace, standing before it at the end. -/
def hexUntilBrace : Nat → List Char → Parse (List Char)
  | 0, acc => return acc.reverse
  | fuel + 1, acc => do
      match ← char? with
      | none => return acc.reverse
      | some c =>
          if c = '\x7d' then return acc.reverse
          else if isHexDigit c then
            let _ ← bumpThenSpace
            hexUntilBrace fuel (c :: acc)
          else fail .hexInvalidDigit (← charSpan)

/-- Read a literal given by its code, from the letter after the backslash at `first`. The letter tells
the number of digits, unless they stand in braces. -/
def hexLiteral (first : Position) (letter : Char) : Parse Literal := do
  if !(← bumpThenSpace) then fail .escapeUnexpectedEnd (← here)
  if ← nextIs '\x7b' then
    let brace ← position
    let inner := (← charSpan).last
    let _ ← bumpThenSpace
    let digits ← hexUntilBrace (← get).rest.length []
    if ← atEnd then fail .escapeUnexpectedEnd (← spanFrom brace)
    let last ← position
    let _ ← bumpThenSpace
    if digits.isEmpty then fail .hexEmpty (← spanFrom brace)
    match charOfHex? digits with
    | none => fail .hexInvalid ⟨inner, last⟩
    | some c => return { span := ← spanFrom first, char := c }
  else
    let start ← position
    let digits ← hexFixed (if letter = 'x' then 2 else if letter = 'u' then 4 else 8) []
    match charOfHex? digits with
    | none => fail .hexInvalid (← spanFrom start)
    | some c => return { span := ← spanFrom first, char := c, byte := letter = 'x' }

/-! ## Properties -/

/-- Split a text at the first occurrence of a separator. -/
def splitAt? (separator : List Char) : List Char → Option (List Char × List Char)
  | [] => none
  | c :: cs =>
      if separator.isPrefixOf (c :: cs) then some ([], (c :: cs).drop separator.length)
      else (splitAt? separator cs).map fun (a, b) => (c :: a, b)

/-- What is asked for between the braces: a name, or a property and its value with one of three signs
between them; whether the sign excludes the value. -/
def queryOf (name : List Char) : Unicode.Query × Bool :=
  let valued (p v : List Char) : Unicode.Query := .valued (String.ofList p) (String.ofList v)
  match splitAt? ['!', '='] name, (splitAt? [':'] name).or (splitAt? ['='] name) with
  | some (p, v), _ => (valued p v, true)
  | none, some (p, v) => (valued p v, false)
  | none, none => (.named (String.ofList name), false)

/-- Read a property, from the letter after the backslash at `first`. A sign that excludes the value turns
the meaning of the letter round. -/
def propertyClass (first : Position) (negated : Bool) : Parse Primitive := do
  if !(← bumpThenSpace) then fail .escapeUnexpectedEnd (← here)
  if ← nextIs '\x7b' then
    let _ ← bumpThenSpace
    let name ← scan (· != '\x7d') bumpThenSpace
    if ← atEnd then fail .escapeUnexpectedEnd (← here)
    let _ ← bump
    let (query, excludes) := queryOf name
    return .property (← spanFrom first) query (negated != excludes)
  else
    match ← char? with
    | none => fail .escapeUnexpectedEnd (← here)
    | some c =>
        if c = '\\' then fail .propertyInvalid (← charSpan)
        let _ ← bumpThenSpace
        return .property (← spanFrom first) (.named (String.ofList [c])) negated

/-! ## Word boundaries -/

def isBoundaryChar (c : Char) : Bool := c.isAlpha || c == '-'

def boundary? : String → Option Assertion
  | "start" => some .wordStart
  | "end" => some .wordEnd
  | "start-half" => some .wordStartHalf
  | "end-half" => some .wordEndHalf
  | _ => none

/-- After `\b`, read the name of a special boundary in braces. If no name can stand there, the reader
goes back, and the brace begins a repetition count. -/
def specialBoundary (first : Position) : Parse (Option Assertion) := do
  let saved ← get
  if !(← bumpThenSpace) then fail .boundaryOrRepetitionUnclosed (← spanFrom first)
  let inner ← position
  match ← char? with
  | none => return none
  | some c =>
      if !isBoundaryChar c then
        set saved
        return none
      let name ← scan isBoundaryChar bumpThenSpace
      if !(← nextIs '\x7d') then fail .boundaryUnclosed (← spanFrom saved.pos)
      let last ← position
      let _ ← bump
      match boundary? (String.ofList name) with
      | some kind => return some kind
      | none => fail .boundaryUnrecognized ⟨inner, last⟩

/-! ## Escapes -/

/-- Any ASCII character but a letter, a digit or an angle bracket stands for itself after a
backslash. -/
def standsForItself (c : Char) : Bool :=
  c.toNat < 0x80 && !c.isAlphanum && c != '<' && c != '>'

/-- The controls with a letter of their own. -/
def controlLetter? : Char → Option Char
  | 'a' => some '\x07'
  | 'f' => some '\x0c'
  | 't' => some '\t'
  | 'n' => some '\n'
  | 'r' => some '\r'
  | 'v' => some '\x0b'
  | _ => none

def assertionLetter? : Char → Option Assertion
  | 'A' => some .startText
  | 'z' => some .endText
  | 'b' => some .wordBoundary
  | 'B' => some .notWordBoundary
  | '<' => some .wordStart
  | '>' => some .wordEnd
  | _ => none

def shorthandLetter? : Char → Option (Shorthand × Bool)
  | 'd' => some (.digit, false)
  | 's' => some (.space, false)
  | 'w' => some (.word, false)
  | 'D' => some (.digit, true)
  | 'S' => some (.space, true)
  | 'W' => some (.word, true)
  | _ => none

/-- Read what a single letter after the backslash at `first` stands for. -/
def letterEscape (first : Position) (c : Char) : Parse Primitive := do
  let _ ← bump
  let span ← spanFrom first
  if standsForItself c then return .literal { span, char := c }
  match controlLetter? c, assertionLetter? c with
  | some control, _ => return .literal { span, char := control }
  | none, some kind =>
      if c = 'b' ∧ (← nextIs '\x7b') then
        match ← specialBoundary first with
        | some special => return .assertion (← spanFrom first) special
        | none => return .assertion span kind
      return .assertion span kind
  | none, none => fail .escapeUnrecognized span

/-- Read an escape. -/
def escape : Parse Primitive := do
  let first ← position
  let _ ← bump
  match ← char? with
  | none => fail .escapeUnexpectedEnd (← spanFrom first)
  | some c =>
      if c.isDigit then fail .backreference ⟨first, (← charSpan).last⟩
      if c = 'x' ∨ c = 'u' ∨ c = 'U' then return .literal (← hexLiteral first c)
      if c = 'p' ∨ c = 'P' then propertyClass first (c = 'P')
      else match shorthandLetter? c with
        | some (kind, negated) =>
            let _ ← bump
            return .shorthand (← spanFrom first) kind negated
        | none => letterEscape first c

/-- The next character as a literal. -/
def verbatim (c : Char) : Parse Primitive := do
  let span ← charSpan
  let _ ← bump
  return .literal { span, char := c }

/-- Read a smallest part, given its first character. -/
def primitive (c : Char) : Parse Primitive := do
  let span ← charSpan
  if c = '\\' then escape
  else if c = '.' then
    let _ ← bump
    return .dot span
  else if c = '^' then
    let _ ← bump
    return .assertion span .startLine
  else if c = '$' then
    let _ ← bump
    return .assertion span .endLine
  else verbatim c

end Parse

end HealthRules.Pattern
