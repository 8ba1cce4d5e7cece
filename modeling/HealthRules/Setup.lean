import HealthRules.Config.Basic
import HealthRules.Engine.Reading
import HealthRules.Provider.Basic

/-!
# Setup — hosts as a configuration wants them

A configuration names providers. Those that the library knows are registered in the order of the names,
builders before evaluators, once for each time they are named; other names are told and skipped.

* `Builder.ofName?` and `StandardEvaluator.ofName?`;
* `Config.register`, which fills a registry;
* `Config.newEngine` and `Config.evaluateText`.
-/

namespace HealthRules

/-- The builder of a name. -/
def Builder.ofName? (serial : Nat) (allow : List String) : String → Option Builder
  | "muppet" => some (introspection serial)
  | "env" => some (environment allow)
  | "sys" => some system
  | _ => none

/-- The evaluator of a name. The one that compares texts is not among them: it is always there. -/
def StandardEvaluator.ofName? : String → Option StandardEvaluator
  | "numeric" => some numeric
  | "regex" => some pattern
  | _ => none

namespace Config

/-- Register the builder of a name. -/
def registerBuilder (c : Config) (name : String) : ProviderM Unit := do
  match Builder.ofName? (← get).registry.serial c.allow name with
  | some b => let _ ← Host.registerBuilder b
  | none => Host.tell (.builderUnknown name)

/-- Register the evaluator of a name. -/
def registerEvaluator (name : String) : ProviderM Unit := do
  match StandardEvaluator.ofName? name with
  | some e => let _ ← Host.registerEvaluator (Evaluator.standard e)
  | none => Host.tell (.evaluatorUnknown name)

def registerBuilders (c : Config) : List String → ProviderM Unit
  | [] => return
  | name :: names => do
      c.registerBuilder name
      c.registerBuilders names

def registerEvaluators : List String → ProviderM Unit
  | [] => return
  | name :: names => do
      registerEvaluator name
      registerEvaluators names

/-- Register all providers that a configuration names. -/
def register (c : Config) : ProviderM Unit := do
  c.registerBuilders c.builtins.builders
  registerEvaluators c.builtins.evaluators

/-- An engine without rules. -/
def newEngine (c : Config) : Engine Attribute :=
  { unreadableIsError := c.settings.unreadableIsError }

/-- Build definitions and evaluate the rules, on a new engine. -/
def evaluateDefinitions (c : Config) (ds : List Definition) :
    ProviderM (List BuildError × List (Outcome Attribute)) := do
  let (engine, failures) ← c.newEngine.addRules providers ds
  return (failures, ← engine.evaluate providers)

/-- Read a rule text, build and evaluate it, with a registry of its own. -/
def evaluateText (c : Config) (text : String) : ProviderM (List (Outcome Attribute)) := do
  c.register
  let batch ← Host.readText text
  return (← c.evaluateDefinitions batch.definitions).2

end Config

namespace Host

/-- A host with an empty registry. -/
def start (surroundings : Surroundings) : ProviderHost :=
  { registry := .empty 0, surroundings }

end Host

end HealthRules
