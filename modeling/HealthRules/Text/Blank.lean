/-!
# Blank — white space, trimming and words

White space is the Unicode property White_Space: the five controls from tab to carriage return, the
space, and the wide, thin and no-break spaces and separators. The same class decides where a line, a
field, an operand or a pattern begins and ends.

This file defines:

* `isBlank`, the class;
* `trimLeft`, `trimRight`, `trim` on character lists, and `String` forms of them;
* `words`, the maximal blank-free pieces.
-/

namespace HealthRules.Blank

/-- The Unicode property White_Space. -/
def isBlank (c : Char) : Bool :=
  let n := c.toNat
  (0x9 ≤ n && n ≤ 0xD) || n == 0x20 || n == 0x85 || n == 0xA0 || n == 0x1680 ||
    (0x2000 ≤ n && n ≤ 0x200A) || n == 0x2028 || n == 0x2029 || n == 0x202F || n == 0x205F ||
    n == 0x3000

/-! ## Trimming -/

def trimLeft (cs : List Char) : List Char := cs.dropWhile isBlank

def trimRight (cs : List Char) : List Char := (cs.reverse.dropWhile isBlank).reverse

/-- Remove the white space at both ends. -/
def trim (cs : List Char) : List Char := trimRight (trimLeft cs)

/-- The text without the white space at its ends. -/
def trimmed (s : String) : String := String.ofList (trim s.toList)

/-! ## Words -/

/-- The blank-free pieces, of which `current` (reversed) is the one being read. -/
def wordsFrom (current : List Char) : List Char → List (List Char)
  | [] => if current.isEmpty then [] else [current.reverse]
  | c :: cs =>
      if isBlank c then
        if current.isEmpty then wordsFrom [] cs else current.reverse :: wordsFrom [] cs
      else wordsFrom (c :: current) cs

/-- The maximal pieces without white space, in order. -/
def words (cs : List Char) : List (List Char) := wordsFrom [] cs

end HealthRules.Blank
