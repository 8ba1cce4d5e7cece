/-!
# TOML text — spaces, comments and strings

A reader takes something off the front of a text, or finds that it is not there. Strings are written in
double quotes with escapes, or in single quotes without any, and either kind may extend over lines when
its quotes are tripled.

* `Reader`;
* `skipBlanks`, `skipLines`, `lineEnd?` for what separates things;
* `string?` for values, `quotedKey?` for keys.
-/

namespace HealthRules.Toml

/-- What was read, and what follows it. -/
abbrev Reader (α : Type) := List Char → Option (α × List Char)

/-! ## Characters -/

def isBlank (c : Char) : Bool := c == ' ' || c == '\t'

/-- A character that comments and strings may hold: no control but the tab. -/
def isText (c : Char) : Bool := c == '\t' || (0x20 ≤ c.toNat && c.toNat ≠ 0x7F)

def hexDigit? (c : Char) : Option Nat :=
  if c.isDigit then some (c.toNat - '0'.toNat)
  else if 'a' ≤ c && c ≤ 'f' then some (c.toNat - 'a'.toNat + 10)
  else if 'A' ≤ c && c ≤ 'F' then some (c.toNat - 'A'.toNat + 10)
  else none

/-! ## Between things -/

def skipBlanks (cs : List Char) : List Char := cs.dropWhile isBlank

/-- What follows a line break. -/
def newline? : List Char → Option (List Char)
  | '\n' :: cs => some cs
  | '\r' :: '\n' :: cs => some cs
  | _ => none

/-- Leave out a comment, if there is one. -/
def skipComment : List Char → List Char
  | '#' :: cs => cs.dropWhile isText
  | cs => cs

/-- What follows the end of a line, before which there may be blanks and a comment. -/
def lineEnd? (cs : List Char) : Option (List Char) :=
  match skipComment (skipBlanks cs) with
  | [] => some []
  | cs => newline? cs

/-- Leave out blanks, comments and line breaks; `fuel` bounds the number of lines. -/
def skipLinesUpTo : Nat → List Char → List Char
  | 0, cs => cs
  | fuel + 1, cs =>
      let cs := skipBlanks cs
      match newline? (skipComment cs) with
      | some rest => skipLinesUpTo fuel rest
      | none => cs

/-- Leave out blanks, comments and line breaks. -/
def skipLines (cs : List Char) : List Char := skipLinesUpTo cs.length cs

/-! ## Escapes -/

/-- The character of `n` digits in base 16. -/
def codePoint? (n : Nat) (cs : List Char) : Option (Char × List Char) := do
  let digits ← (cs.take n).mapM hexDigit?
  let value := digits.foldl (fun v d => v * 16 + d) 0
  if digits.length = n ∧ value.isValidChar then return (Char.ofNat value, cs.drop n) else none

/-- The character of an escape, whose backslash has been read. -/
def escape? : Reader Char
  | 'b' :: cs => some ('\x08', cs)
  | 't' :: cs => some ('\t', cs)
  | 'n' :: cs => some ('\n', cs)
  | 'f' :: cs => some ('\x0c', cs)
  | 'r' :: cs => some ('\r', cs)
  | '"' :: cs => some ('"', cs)
  | '\\' :: cs => some ('\\', cs)
  | 'u' :: cs => codePoint? 4 cs
  | 'U' :: cs => codePoint? 8 cs
  | _ => none

/-! ## Strings on one line -/

/-- The rest of a string in double quotes; `fuel` bounds its length. -/
def basicUpTo : Nat → Reader (List Char)
  | 0, _ => none
  | fuel + 1, cs => match cs with
    | '"' :: rest => some ([], rest)
    | '\\' :: rest => do
        let (c, rest) ← escape? rest
        let (cs, rest) ← basicUpTo fuel rest
        return (c :: cs, rest)
    | c :: rest =>
        if isText c then do
          let (cs, rest) ← basicUpTo fuel rest
          return (c :: cs, rest)
        else none
    | [] => none

def basic? (cs : List Char) : Option (List Char × List Char) := basicUpTo (cs.length + 1) cs

/-- The rest of a string in single quotes. -/
def literal? : Reader (List Char)
  | [] => none
  | '\'' :: rest => some ([], rest)
  | c :: rest =>
      if isText c then do
        let (cs, rest) ← literal? rest
        return (c :: cs, rest)
      else none

/-! ## Strings over several lines -/

/-- How many of the first five characters are the quote `q`. -/
def quoteRun (q : Char) (cs : List Char) : Nat := ((cs.take 5).takeWhile (· == q)).length

/-- Where a string over several lines goes on at a quote: up to two quotes belong to the string, and three
end it, up to two more before them belonging to it still. The result is how many quotes belong to the
string, and whether it ends. -/
def atQuotes (q : Char) (cs : List Char) : Nat × Bool :=
  let n := quoteRun q cs
  if n < 3 then (n, false) else (n - 3, true)

/-- A backslash that ends a line leaves out all white space up to the next character. -/
def foldedLine? (cs : List Char) : Option (List Char) :=
  (newline? (skipBlanks cs)).map skipWhite
where
  skipWhite : List Char → List Char
    | [] => []
    | c :: rest =>
        if isBlank c || c == '\n' then skipWhite rest
        else match c, rest with
          | '\r', '\n' :: rest => skipWhite rest
          | _, _ => c :: rest

/-- The rest of a string over several lines in quotes `q`, with escapes or without; `fuel` bounds its
length. A line break counts as a line feed. -/
def multilineUpTo (q : Char) (escapes : Bool) : Nat → Reader (List Char)
  | 0, _ => none
  | fuel + 1, cs => match cs with
    | [] => none
    | c :: rest =>
        if c = q then
          let (n, ends) := atQuotes q cs
          if ends then some (List.replicate n q, cs.drop (n + 3))
          else do
            let (tail, rest) ← multilineUpTo q escapes fuel (cs.drop n)
            return (List.replicate n q ++ tail, rest)
        else if escapes ∧ c = '\\' then
          match foldedLine? rest with
          | some rest => multilineUpTo q escapes fuel rest
          | none => do
              let (c, rest) ← escape? rest
              let (tail, rest) ← multilineUpTo q escapes fuel rest
              return (c :: tail, rest)
        else match newline? cs with
          | some rest => do
              let (tail, rest) ← multilineUpTo q escapes fuel rest
              return ('\n' :: tail, rest)
          | none =>
              if isText c then do
                let (tail, rest) ← multilineUpTo q escapes fuel rest
                return (c :: tail, rest)
              else none

/-- The rest of a string over several lines; a line break right after the opening quotes does not count. -/
def multiline? (q : Char) (escapes : Bool) (cs : List Char) : Option (List Char × List Char) :=
  multilineUpTo q escapes (cs.length + 1) ((newline? cs).getD cs)

/-! ## Strings and keys -/

def string? : Reader String
  | '"' :: '"' :: '"' :: cs => asText (multiline? '"' true cs)
  | '"' :: cs => asText (basic? cs)
  | '\'' :: '\'' :: '\'' :: cs => asText (multiline? '\'' false cs)
  | '\'' :: cs => asText (literal? cs)
  | _ => none
where
  asText (r : Option (List Char × List Char)) : Option (String × List Char) :=
    r.map fun (cs, rest) => (String.ofList cs, rest)

/-- A key in quotes, which stays on one line. -/
def quotedKey? : Reader (List Char)
  | '"' :: cs => basic? cs
  | '\'' :: cs => literal? cs
  | _ => none

end HealthRules.Toml
