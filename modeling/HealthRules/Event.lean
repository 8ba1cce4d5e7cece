import HealthRules.Registry
import HealthRules.Rule.Line
import HealthRules.Status

/-!
# Event — what is worth telling

Reading, registering, building and evaluating tell what they do, at five levels of importance. Nothing
depends on whether anyone listens.

* `Level`, and `Verbosity`, which level is important enough;
* `Event` with its level and its text.
-/

namespace HealthRules

inductive Level where
  | error
  | warn
  | info
  | debug
  | trace
  deriving DecidableEq, Repr

namespace Level

def label : Level → String
  | error => "ERROR"
  | warn => "WARN"
  | info => "INFO"
  | debug => "DEBUG"
  | trace => "TRACE"

/-- The rank of a level; the most important has the least. -/
def rank : Level → Nat
  | error => 1
  | warn => 2
  | info => 3
  | debug => 4
  | trace => 5

end Level

/-- What is told: nothing, or everything that is at least as important as a level. -/
inductive Verbosity where
  | off
  | upTo (level : Level)
  deriving DecidableEq, Repr

namespace Verbosity

def label : Verbosity → String
  | off => "OFF"
  | upTo level => level.label

def all : List Verbosity :=
  [off, upTo .error, upTo .warn, upTo .info, upTo .debug, upTo .trace]

/-- Read a label; letter case does not count. -/
def ofLabel? (s : String) : Option Verbosity := all.find? fun v => v.label == s.map Char.toUpper

def admits (v : Verbosity) (level : Level) : Bool :=
  match v with
  | off => false
  | upTo least => level.rank ≤ least.rank

end Verbosity

/-- Something that happened. Rules are given by their texts, providers by their names. -/
inductive Event where
  | lineSkipped (e : ParseError)
  | textRead (definitions errors : Nat)
  | builderRegistered (name : String) (id : ProviderId)
  | evaluatorRegistered (name : String) (id : ProviderId)
  | deregistered (id : ProviderId)
  | builderUnknown (name : String)
  | evaluatorUnknown (name : String)
  | ruleBuilt (definition : Definition) (builder : String)
  | ruleDeclined (definition : Definition)
  | batchBuilt (rules builders failures : Nat)
  | dispatched (rule evaluator : String)
  | rulesEvaluated (count : Nat) (worst : Status)
  | patternsDropped (count : Nat)
  deriving DecidableEq, Repr

namespace Event

def level : Event → Level
  | lineSkipped _ => .warn
  | builderUnknown _ => .warn
  | evaluatorUnknown _ => .warn
  | ruleDeclined _ => .warn
  | rulesEvaluated .. => .info
  | textRead .. => .debug
  | builderRegistered .. => .debug
  | evaluatorRegistered .. => .debug
  | deregistered _ => .debug
  | ruleBuilt .. => .debug
  | batchBuilt .. => .debug
  | dispatched .. => .debug
  | patternsDropped _ => .debug

def message : Event → String
  | lineSkipped e => s!"skipping rule line: {e.message}"
  | textRead definitions errors =>
      s!"parsed {definitions} rule definition(s), {errors} rejected line(s)"
  | builderRegistered name id => s!"registering rule builder '{name}' as {id.render}"
  | evaluatorRegistered name id => s!"registering evaluator '{name}' as {id.render}"
  | deregistered id => s!"deregistered {id.render}"
  | builderUnknown name => s!"unknown builtin rule builder '{name}' ignored"
  | evaluatorUnknown name => s!"unknown builtin evaluator '{name}' ignored"
  | ruleBuilt definition builder => s!"'{definition.render}' built by '{builder}'"
  | ruleDeclined definition => s!"no rule builder accepts '{definition.render}'"
  | batchBuilt rules builders failures =>
      s!"built {rules} rule(s) with {builders} builder(s), {failures} failure(s)"
  | dispatched rule evaluator => s!"{rule}: dispatched to evaluator '{evaluator}'"
  | rulesEvaluated count worst => s!"evaluated {count} rule(s): worst status {worst.label}"
  | patternsDropped count => s!"regex cache full ({count} patterns), clearing"

/-- The level and the text. -/
def render (e : Event) : String := e.level.label ++ " " ++ e.message

end Event

end HealthRules
