import HealthRules.Number.Binary64

/-!
# TOML values — what a configuration file holds

A document is a table, and a table gives values to keys, each of them once. Every table remembers how it
came about, because that decides whether a later line may still add to it.

* `Value` and `Origin`;
* `Entries`, the keys of a table with their values, with `Entries.get?` and `Entries.put`.
-/

namespace HealthRules.Toml

/-- How a table came about: by a header, as part of a longer header, by a dotted key, or in braces; in
braces too a dotted key can make tables. -/
inductive Origin where
  | header
  | implied
  | dotted
  | inline
  | inlineDotted
  deriving DecidableEq, Repr

inductive Value where
  | text (s : String)
  | integer (n : Int)
  | float (x : Binary64)
  | boolean (b : Bool)
  /-- A date, a time, or both. -/
  | moment
  | array (items : List Value)
  /-- Tables under headers in double brackets. -/
  | tables (items : List (List (String × Value)))
  | table (origin : Origin) (entries : List (String × Value))
  deriving Inhabited

/-- The keys of a table with their values. -/
abbrev Entries := List (String × Value)

namespace Entries

def get? (e : Entries) (key : String) : Option Value := e.lookup key

/-- Give a key a value, in place of the value that it had. -/
def put (e : Entries) (key : String) (v : Value) : Entries :=
  if e.any (·.1 == key) then e.map fun x => if x.1 == key then (key, v) else x
  else e ++ [(key, v)]

def erase (e : Entries) (key : String) : Entries := e.filter (·.1 != key)

end Entries

end HealthRules.Toml
