import HealthRules.History.Record
import HealthRules.Setup

/-!
# Report — what a run of the command says

The command reads rule text, builds and evaluates it, and reports the outcomes as JSON. Beside the report
go messages: what is told at the verbosity of the configuration, and complaints about lines that are no
rules, all in the order in which they come up. The exit code is the worst status, or a code of its own if
the rule text could not be read, or if an argument is no text.

* `Report`;
* `Config.report`, the report about a source of rule text;
* `Report.history?`, what goes to the history file.
-/

namespace HealthRules

structure Report where
  exitCode : Nat
  output : String
  /-- The lines of the messages. -/
  messages : List String
  /-- The outcomes, unless the rule text could not be read. -/
  outcomes? : Option (List (Outcome Attribute))

namespace Report

/-- The exit code when the rule text cannot be read. -/
def unreadableCode : Nat := 3

/-- The exit code of a panic. -/
def panicCode : Nat := 101

def codeOf : Status → Nat
  | .ok => 0
  | .warn => 1
  | .error => 2

/-- A complaint, which is made at any verbosity. -/
def complaint (message : String) : String := "muppet: " ++ message

/-- An event as a line. Less important events name the thread they come from, of which there is one. -/
def eventLine (e : Event) : String :=
  let thread := match e.level with
    | .debug => "(1) "
    | .trace => "(1) "
    | _ => ""
  s!"[{e.level.label}] {thread}{e.message}"

/-- The events that a verbosity admits, as lines. -/
def eventLines (v : Verbosity) (es : List Event) : List String :=
  (es.filter fun e => v.admits e.level).map eventLine

/-- The lines for what has happened since the last call. -/
def newLines (v : Verbosity) : ProviderM (List String) := do
  let host ← get
  set { host with past := [] }
  return eventLines v host.events

/-- The report about an argument that is no text. -/
def panicked (argument : List UInt8) : Report where
  exitCode := panicCode
  output := ""
  messages := ["called `Result::unwrap()` on an `Err` value: " ++ Quoted.quoteBytes argument]
  outcomes? := none

/-- The report about a text that could not be read. -/
def unreadable (messages : List String) (e : ParseError) : Report where
  exitCode := unreadableCode
  output := ""
  messages := messages ++ [complaint e.message]
  outcomes? := none

/-- The report about outcomes. -/
def ofOutcomes (messages : List String) (outcomes : List (Outcome Attribute)) : Report where
  exitCode := codeOf (Outcome.worst outcomes)
  output := JsonText.pretty (outcomes.map Outcome.fields) ++ "\n"
  messages
  outcomes? := some outcomes

/-- The history file and the text that is written at its end, if a history is kept. -/
def history? (r : Report) (c : Config) (home? : Option String) (seconds : Nat) :
    Option (String × String) :=
  match c.historyPath? home?, r.outcomes? with
  | some path, some outcomes => some (path, Record.text seconds outcomes)
  | _, _ => none

end Report

/-- Read, build and evaluate rule text, and report. -/
def Config.report (c : Config) (source : Source) : ProviderM Report := do
  let batch ← Host.readSource source
  let reading ← Report.newLines c.verbosity
  match batch with
  | .error e => return .unreadable reading e
  | .ok batch =>
      c.register
      let (engine, failures) ← c.newEngine.addRules providers batch.definitions
      let building ← Report.newLines c.verbosity
      let outcomes ← engine.evaluate providers
      let evaluating ← Report.newLines c.verbosity
      return .ofOutcomes
        (reading ++ batch.errors.map (Report.complaint ·.message) ++
          building ++ failures.map (Report.complaint ·.message) ++ evaluating)
        outcomes

end HealthRules
