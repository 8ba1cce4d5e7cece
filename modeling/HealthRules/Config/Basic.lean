import HealthRules.Event
import HealthRules.Text.Blank

/-!
# Config — which providers there are, and what is done with outcomes

A configuration names the builders and evaluators of the library that are registered at the start, in
order, and the variables that rules may read. It also tells how much is told, and where the history of
outcomes is kept.

* `Config` and its parts, and `Config.standard`;
* `Config.verbosity` and `Config.historyPath?`.
-/

namespace HealthRules

structure Settings where
  logLevel : String := ""
  /-- The file with the history of outcomes; none is kept if this is blank. -/
  resultsLog : String := ""
  /-- An attribute that cannot be read makes an error, and not a warning. -/
  unreadableIsError : Bool := false
  deriving DecidableEq, Repr

/-- The names of providers that are registered at the start. -/
structure Builtins where
  builders : List String := []
  evaluators : List String := []
  deriving DecidableEq, Repr

structure Config where
  settings : Settings := {}
  builtins : Builtins := {}
  /-- The variables that rules may read; any, if there are none here. -/
  allow : List String := []
  deriving DecidableEq, Repr

namespace Config

/-- The configuration of a user who has configured nothing. -/
def standard : Config where
  settings := { logLevel := "warn", resultsLog := "~/.local/share/muppet/evaluations.log" }
  builtins := { builders := ["muppet", "env", "sys"], evaluators := ["numeric", "regex"] }

/-- How much is told; what names no verbosity counts as `warn`. -/
def verbosity (c : Config) : Verbosity :=
  (Verbosity.ofLabel? c.settings.logLevel).getD (.upTo .warn)

/-- A path with the home directory for a tilde that is its first component. -/
def expandTilde (home? : Option String) (path : String) : String :=
  match home?, path.toList with
  | some home, ['~'] => home
  | some home, '~' :: '/' :: rest => home ++ String.ofList ('/' :: rest)
  | _, _ => path

/-- The file with the history of outcomes, if one is kept. -/
def historyPath? (c : Config) (home? : Option String) : Option String :=
  let path := Blank.trimmed c.settings.resultsLog
  if path.isEmpty then none else some (expandTilde home? path)

end Config

end HealthRules
