/-!
# JsonText — texts, objects and arrays in JSON

Results are reported as JSON, on one line or indented by two spaces a level.

* `quote` writes a text: controls below the space are escaped, all else stands for itself;
* `compact` and `pretty` write an array of objects whose fields are texts.
-/

namespace HealthRules.JsonText

/-! ## Texts -/

def hexDigit (n : Nat) : Char := Nat.digitChar n

/-- One character as it stands between the quotes. -/
def escape (c : Char) : List Char :=
  if c = '"' then ['\\', '"']
  else if c = '\\' then ['\\', '\\']
  else if c = '\n' then ['\\', 'n']
  else if c = '\r' then ['\\', 'r']
  else if c = '\t' then ['\\', 't']
  else if c = '\x08' then ['\\', 'b']
  else if c = '\x0c' then ['\\', 'f']
  else if c.toNat < 0x20 then
    ['\\', 'u', '0', '0', hexDigit (c.toNat / 16), hexDigit (c.toNat % 16)]
  else [c]

def quote (s : String) : String := String.ofList ('"' :: s.toList.flatMap escape ++ ['"'])

/-! ## Arrays of objects -/

/-- An object as its fields in order. -/
abbrev Fields := List (String × String)

def compactObject (fields : Fields) : String :=
  "\x7b" ++ ",".intercalate (fields.map fun f => quote f.1 ++ ":" ++ quote f.2) ++ "\x7d"

def compact (objects : List Fields) : String :=
  "[" ++ ",".intercalate (objects.map compactObject) ++ "]"

def prettyObject (fields : Fields) : String :=
  "  \x7b\n" ++ ",\n".intercalate (fields.map fun f => "    " ++ quote f.1 ++ ": " ++ quote f.2) ++
    "\n  \x7d"

def pretty (objects : List Fields) : String :=
  match objects with
  | [] => "[]"
  | _ => "[\n" ++ ",\n".intercalate (objects.map prettyObject) ++ "\n]"

end HealthRules.JsonText
