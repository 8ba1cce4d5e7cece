import HealthRules.Evaluation
import HealthRules.Text.Lines
import HealthRules.Text.Quoted
import HealthRules.Text.Utf8

/-!
# Environment — the variables of a process

Variables have names and values, and a value is any sequence of bytes. A variable can be read only if its
value is a text.

* `Environment` with `assign` and `discard`;
* `Environment.value?` and `Environment.read`;
* `Environment.home?` and `Environment.configPath?`.
-/

namespace HealthRules

structure Environment where
  entries : List (String × List UInt8) := []
  deriving DecidableEq, Repr

namespace Environment

/-- Give a variable a value. -/
def assign (e : Environment) (name : String) (value : List UInt8) : Environment :=
  if e.entries.any (·.1 = name) then
    ⟨e.entries.map fun v => if v.1 = name then (name, value) else v⟩
  else ⟨e.entries ++ [(name, value)]⟩

/-- Remove a variable, if it is there. -/
def discard (e : Environment) (name : String) : Environment :=
  ⟨e.entries.filter (·.1 ≠ name)⟩

/-- A variable as it is stored: its name, an equals sign and its value. -/
def stored (v : String × List UInt8) : List UInt8 := Utf8.encode v.1.toList ++ 0x3D :: v.2

/-- Read a variable as it is stored. One whose name is no text is left out. -/
def ofStored? (bytes : List UInt8) : Option (String × List UInt8) :=
  (Utf8.text? (bytes.takeWhile (· ≠ 0x3D))).map fun name =>
    (name, (bytes.dropWhile (· ≠ 0x3D)).drop 1)

/-- The variables of a block in which each is stored with a zero behind it. -/
def ofBlock (bytes : List UInt8) : Environment :=
  ⟨(Lines.cut (· == 0) bytes).1.filterMap ofStored?⟩

/-- What follows a beginning. -/
def after? : List UInt8 → List UInt8 → Option (List UInt8)
  | [], bytes => some bytes
  | b :: bs, c :: cs => if b = c then after? bs cs else none
  | _ :: _, [] => none

/-- The value of a name: what follows the name and an equals sign in the first variable that is stored so.
The empty name has none. -/
def value? (e : Environment) (name : String) : Option (List UInt8) :=
  if name.isEmpty then none
  else e.entries.findSome? fun v => after? (Utf8.encode name.toList ++ [0x3D]) (stored v)

/-- Read a variable. -/
def read (e : Environment) (name : String) : Reading :=
  match e.value? name with
  | none => .error ⟨name, "environment variable not found"⟩
  | some bytes => match Utf8.text? bytes with
    | some s => .ok (.text s)
    | none =>
        .error ⟨name, s!"environment variable was not valid unicode: {Quoted.quoteBytes bytes}"⟩

/-! ## The home directory -/

/-- The home directory as a text: that of the variable or, if it is missing or empty, that of the account. -/
def home? (e : Environment) (account? : Option (List UInt8)) : Option String :=
  let home := match e.value? "HOME" with
    | none | some [] => account?
    | some bytes => some bytes
  home.bind Utf8.text?

/-- The path of the user's configuration file, if the variable for the home directory is set. -/
def configPath? (e : Environment) : Option (List UInt8) := (e.value? "HOME").map fun home =>
  let below := Utf8.encode ".config/muppet/config.toml".toList
  if home.isEmpty || home.getLast? = some 0x2F then home ++ below else home ++ 0x2F :: below

end Environment

end HealthRules
