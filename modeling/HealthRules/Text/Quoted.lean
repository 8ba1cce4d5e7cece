import HealthRules.Text.Utf8
import HealthRules.Unicode.Additions
import HealthRules.Unicode.Category
import HealthRules.Unicode.Property

/-!
# Quoted — texts and records shown for inspection

An inspected text stands in double quotes, and every character that would not be seen as itself is
written as an escape: control, format, unassigned and private-use characters, all spaces but the plain
one, marks that would join the character before them, and characters that are not shown at all.

* `quote` shows a text, `quoteBytes` shows bytes that may be no text;
* `record` and `list` show named fields and sequences around such texts.
-/

namespace HealthRules.Quoted

/-! ## Characters -/

/-- Code points that have no visible form of their own: controls, formats, private use, unassigned
ones, and separators. -/
def invisible : CharSet :=
  (Category.unionOf ["Cc", "Cf", "Co", "Cn", "Zl", "Zp", "Zs"]).diff Additions.assigned

/-- Marks that join the code point before them. The letters that do so are visible. -/
def joining : CharSet :=
  ((CharSet.unpack Property.propertyGraphemeExtend.packed).union Additions.joining).diff
    (Category.setOf "Lm")

/-- Code points that are not shown where they are not supported, letters among them. -/
def ignorable : CharSet := CharSet.unpack Property.propertyDefaultIgnorableCodePoint.packed

/-- The code points that are written as escapes, the plain space and ASCII's signs aside. -/
def hidden : CharSet := (invisible.union joining).union ignorable

/-- The character is shown as itself. -/
def isPlain (c : Char) : Bool :=
  if c.toNat < 0x7F then 0x20 ≤ c.toNat else !hidden.containsChar c

/-- The digits of `n` in base 16, lower case, without leading zeros. -/
def hex (n : Nat) : List Char := Nat.toDigits 16 n

/-- A digit in base 16, upper case. -/
def upperDigit (n : Nat) : Char := (Nat.digitChar n).toUpper

/-- One character as it stands between the quotes. -/
def escape (c : Char) : List Char :=
  if c = '"' then ['\\', '"']
  else if c = '\\' then ['\\', '\\']
  else if c = '\n' then ['\\', 'n']
  else if c = '\r' then ['\\', 'r']
  else if c = '\t' then ['\\', 't']
  else if c = '\x00' then ['\\', '0']
  else if isPlain c then [c]
  else ['\\', 'u', '\x7b'] ++ hex c.toNat ++ ['\x7d']

/-! ## Texts and records -/

/-- A text in double quotes with its escapes. -/
def quote (s : String) : String :=
  String.ofList ('"' :: s.toList.flatMap escape ++ ['"'])

/-- Bytes as far as they are a text; any other byte is written in base 16. -/
def quoteBytes (bytes : List UInt8) : String :=
  let shown := (Utf8.pieces bytes).flatMap fun
    | .inl c => escape c
    | .inr b => ['\\', 'x', upperDigit (b.toNat / 16), upperDigit (b.toNat % 16)]
  String.ofList ('"' :: shown ++ ['"'])

/-- A record: its name, then its fields in braces. -/
def record (name : String) (fields : List (String × String)) : String :=
  name ++ " \x7b " ++ ", ".intercalate (fields.map fun f => f.1 ++ ": " ++ f.2) ++ " \x7d"

/-- A sequence in square brackets. -/
def list (items : List String) : String := "[" ++ ", ".intercalate items ++ "]"

end HealthRules.Quoted
