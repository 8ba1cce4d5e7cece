import HealthRules.Toml.Scalar

/-!
# TOML reader — keys, arrays and tables in braces

Keys are bare words or quoted, and dots join them to paths. Arrays extend over lines and may end in a
comma; tables in braces stay on one line and may not. Both nest to a limit, and paths are limited in the
same way.

* `path?`;
* `Entries.insertInline?`, which adds to a table in braces;
* `value?`.
-/

namespace HealthRules.Toml

/-- How deeply arrays and tables in braces nest, and how many keys a path has, both at most. -/
def depthLimit : Nat := 79

/-! ## Keys -/

def isBare (c : Char) : Bool := c.isAlphanum || c == '-' || c == '_'

def key? (cs : List Char) : Option (String × List Char) :=
  match quotedKey? cs with
  | some (k, rest) => some (String.ofList k, rest)
  | none =>
      let k := cs.takeWhile isBare
      if k.isEmpty then none else some (String.ofList k, cs.drop k.length)

/-- Keys with dots between them, and blanks around each; `fuel` bounds their number. -/
def pathUpTo : Nat → Reader (List String)
  | 0, _ => none
  | fuel + 1, cs => do
      let (k, cs) ← key? (skipBlanks cs)
      match skipBlanks cs with
      | '.' :: rest => do
          let (ks, rest) ← pathUpTo fuel rest
          return (k :: ks, rest)
      | rest => return ([k], rest)

/-- A path, the blanks around it included. -/
def path? (cs : List Char) : Option (List String × List Char) := pathUpTo depthLimit cs

/-! ## Tables in braces -/

/-- Add a value to a table in braces. A table on the way has to have come about by a dotted key too, and a
key has at most one value. -/
def Entries.insertInline? (e : Entries) (v : Value) : List String → Option Entries
  | [] => none
  | [k] => if (e.get? k).isSome then none else some (e.put k v)
  | k :: ks => match e.get? k with
    | none => (insertInline? [] v ks).map fun sub => e.put k (.table .inlineDotted sub)
    | some (.table .inlineDotted sub) =>
        (insertInline? sub v ks).map fun sub => e.put k (.table .inlineDotted sub)
    | some _ => none

/-- A path and its value, given how to read values; the blanks after the value are read too. -/
def pair? (value : Reader Value) (cs : List Char) : Option ((List String × Value) × List Char) := do
  let (path, cs) ← path? cs
  let cs ← char? '=' cs
  let (v, cs) ← value (skipBlanks cs)
  return ((path, v), skipBlanks cs)

/-- One pair or more with commas between them, and the brace at the end. -/
def pairsUpTo (value : Reader Value) : Nat → Reader (List (List String × Value))
  | 0, _ => none
  | fuel + 1, cs => do
      let (p, cs) ← pair? value cs
      match cs with
      | ',' :: rest => do
          let (ps, rest) ← pairsUpTo value fuel rest
          return (p :: ps, rest)
      | '\x7d' :: rest => return ([p], rest)
      | _ => none

/-- The rest of a table in braces. -/
def inlineTable? (value : Reader Value) (cs : List Char) : Option (Value × List Char) := do
  let (pairs, rest) ← match skipBlanks cs with
    | '\x7d' :: rest => some ([], rest)
    | cs => pairsUpTo value (cs.length + 1) cs
  let entries ← pairs.foldlM (fun (e : Entries) (path, v) => e.insertInline? v path) []
  return (.table .inline entries, rest)

/-! ## Arrays -/

/-- The rest of an array after its bracket or a comma; `fuel` bounds the number of items. -/
def itemsUpTo (value : Reader Value) : Nat → Reader (List Value)
  | 0, _ => none
  | fuel + 1, cs => match skipLines cs with
    | ']' :: rest => some ([], rest)
    | cs => do
        let (v, cs) ← value cs
        match skipLines cs with
        | ',' :: rest => do
            let (vs, rest) ← itemsUpTo value fuel rest
            return (v :: vs, rest)
        | ']' :: rest => return ([v], rest)
        | _ => none

/-- The rest of an array. -/
def array? (value : Reader Value) (cs : List Char) : Option (Value × List Char) :=
  (itemsUpTo value (cs.length + 1) cs).map fun (vs, rest) => (.array vs, rest)

/-! ## Values -/

/-- A value whose arrays and tables nest at most as deeply as there is room. -/
def valueWithin : Nat → Reader Value
  | 0, cs => scalar? cs
  | room + 1, cs => match cs with
    | '[' :: rest => array? (valueWithin room) rest
    | '\x7b' :: rest => inlineTable? (valueWithin room) rest
    | cs => scalar? cs

def value? (cs : List Char) : Option (Value × List Char) := valueWithin depthLimit cs

end HealthRules.Toml
