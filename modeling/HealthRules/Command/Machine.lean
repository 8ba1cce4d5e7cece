import HealthRules.Command.Report
import HealthRules.Config.Loading
import HealthRules.History.Keeping

/-!
# Machine — the command and what is around it

A run of the command depends on its arguments, on variables and facts, on the files there are, on its
standard input and on the time. It gives a report and perhaps writes at the end of the history file. Of its
arguments the first two have to be texts; otherwise the command panics.

* `RuleInput.ofArguments`, where rule text comes from;
* `Machine`, with `Machine.runOn` and `Machine.run`.
-/

namespace HealthRules

/-- Where rule text comes from. -/
inductive RuleInput where
  | standard
  | file (path : Path)
  deriving DecidableEq, Repr

namespace RuleInput

/-- An argument as a text; one that is no text is the reason to panic. -/
def textOf (argument : List UInt8) : Except (List UInt8) String :=
  match Utf8.text? argument with
  | some text => .ok text
  | none => .error argument

/-- The first argument is the name of the program. The one after it is a path, unless it is a dash; others do
not count, and need not be texts. -/
def ofArguments : List (List UInt8) → Except (List UInt8) RuleInput
  | [] => return standard
  | [program] => do
      let _ ← textOf program
      return standard
  | program :: path :: _ => do
      let _ ← textOf program
      let path ← textOf path
      return if path = "-" then standard else file (.ofText path)

/-- A file as a source. One that cannot be read fails at once. -/
def sourceOf : Except StorageError (List UInt8) → Source
  | .ok bytes => .ofBytes bytes
  | .error e => { chunks := [], failure := some e.message }

end RuleInput

structure Machine where
  arguments : List (List UInt8)
  environment : Environment
  facts : Facts
  storage : Storage
  /-- The folder that paths start from. -/
  here : Place
  /-- The home directory of the account, as the database of accounts has it. -/
  account? : Option (List UInt8)
  standardInput : Source
  /-- The time in seconds since the epoch. -/
  seconds : Nat

namespace Machine

/-- The configuration of the user. -/
def config (m : Machine) : Config :=
  match m.environment.configPath? with
  | some path => .ofUserFile (m.storage.read m.here path)
  | none => .standard

/-- The rule text of an input. -/
def source (m : Machine) : RuleInput → Source
  | .standard => m.standardInput
  | .file path => RuleInput.sourceOf (m.storage.read m.here path)

/-- The surroundings in which rules are built and evaluated. -/
def surroundings (m : Machine) : Surroundings := { environment := m.environment, facts := m.facts }

/-- Report about a rule text with a configuration, and keep the history. -/
def runOn (m : Machine) (c : Config) (source : Source) : Report × Storage :=
  let r := ((c.report source).run (Host.start m.surroundings)).1
  match r.history? c (m.environment.home? m.account?) m.seconds with
  | some (path, text) => (r, History.keepText m.storage m.here (.ofText path) text)
  | none => (r, m.storage)

/-- Run the command: its report, and the files afterwards. -/
def run (m : Machine) : Report × Storage :=
  match RuleInput.ofArguments m.arguments with
  | .error argument => (.panicked argument, m.storage)
  | .ok input => m.runOn m.config (m.source input)

end Machine

end HealthRules
