import HealthRules.Config.Decode
import HealthRules.Rule.Line
import HealthRules.Storage
import HealthRules.Text.Utf8

/-!
# Loading — configurations from files

What a file says is laid over the standard configuration. A file that is asked for by its path has to be
there and has to be right; the file of the user may be missing, and does not count if it is broken.

* `LoadError` and `Config.ofFile`;
* `Config.ofUserFile`;
* `Config.ofDocument?`, a configuration with nothing below it.
-/

namespace HealthRules

/-- Why a configuration could not be loaded. -/
inductive LoadError where
  | unreadable (e : ParseError)
  | broken
  deriving DecidableEq, Repr

namespace LoadError

/-- What is said about a file that could not be read. -/
def message? : LoadError → Option String
  | unreadable e => some ("parse error: " ++ e.message)
  | broken => none

end LoadError

namespace Config

/-- The text of a file, which has to be UTF-8. -/
def textOf : Except StorageError (List UInt8) → Except LoadError String
  | .error e => .error (.unreadable (.unreadable e.message))
  | .ok bytes => match Utf8.text? bytes with
    | some text => .ok text
    | none => .error (.unreadable (.unreadable "stream did not contain valid UTF-8"))

/-- The overlay that a text describes. -/
def overlay? (text : String) : Option Overlay := (Toml.parse? text).bind Overlay.decode?

/-- The standard configuration with an overlay from a text. -/
def overlaid (text : String) : Except LoadError Config :=
  match overlay? text with
  | some o => .ok (o.apply standard)
  | none => .error .broken

/-- The configuration of a file. -/
def ofFile (file : Except StorageError (List UInt8)) : Except LoadError Config := do
  overlaid (← textOf file)

/-- The configuration with the file of the user, as far as that is of use. -/
def ofUserFile (file : Except StorageError (List UInt8)) : Config :=
  match ofFile file with
  | .ok c => c
  | .error _ => standard

/-- The configuration that a text describes, without anything below it. -/
def ofDocument? (text : String) : Option Config := (Toml.parse? text).bind decode?

end Config

end HealthRules
