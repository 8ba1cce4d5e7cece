import HealthRules.Engine.Basic
import HealthRules.Provider.Surroundings

/-!
# Providers — what the providers of a host do

The builders, evaluators and attributes of this library at work. A builder looks at the definition and
sometimes at facts. An evaluator works out from the expression how to decide, and only then reads the
attribute; whether it accepts an expression depends on the expression alone, so that nothing is read to
find an evaluator.

* `Builder.build` and `Evaluator.evaluate`;
* `ProviderHost` and `ProviderM`;
* `providers`, what all of them do together.
-/

namespace HealthRules

/-! ## Building -/

/-- Make a rule of a definition, or decline. -/
def Builder.build {ε : Type} (b : Builder) (d : Definition) :
    HostM Builder ε Surroundings (Option (Rule Attribute)) := do
  match b with
  | introspection registry => return (introspectionSource registry d).map (bind d d.name)
  | environment allow => return (environmentSource allow d).map (bind d d.name)
  | system => return (systemSource (← get).surroundings.facts d).map (bind d d.name)
  | declining _ => return none
  | giving _ claim subject source =>
      if claim.admits d then return some (bind d (subject.getD (subjectName d)) source)
      else return none
  | installing _ claim builder =>
      if claim.admits d then
        let _ ← Host.registerBuilder builder
        let count := (← get).registry.builderCount
        return some (bind d "builders" (.fixed (.ok (.ofNat count))))
      else return none
  | removing _ claim number =>
      if claim.admits d then
        let removed ← Host.deregisterNumber number
        return some (bind d "removed" (.fixed (.ok (.bool removed))))
      else return none

/-! ## Evaluating -/

namespace Evaluator

/-- Evaluate with an evaluator of the library, which remembers patterns under its identity. -/
def evaluateStandard {β ε : Type} (id : ProviderId) (kind : StandardEvaluator) (a : Attribute)
    (expression : String) : HostM β ε Surroundings Decision := do
  let cache := (← get).surroundings.cacheOf id
  let (judge, cache, dropped) := kind.judgeFor cache (name a) expression
  modify fun h => { h with surroundings := h.surroundings.setCache id cache }
  Host.tellAll (dropped.toList.map .patternsDropped)
  decideBy judge a.read

/-- Change the registry at the first use. -/
def firstUse {β : Type} (id : ProviderId) (installs : Option Evaluator)
    (removes : Option Nat) : HostM β Evaluator Surroundings Unit := do
  if (← get).surroundings.used.contains id then return
  modify fun h =>
    { h with surroundings := { h.surroundings with used := id :: h.surroundings.used } }
  match installs with
  | some e => let _ ← Host.registerEvaluator e
  | none => pure ()
  match removes with
  | some number => let _ ← Host.deregisterNumber number
  | none => pure ()

/-- A verdict about an attribute; the attribute is read only where its value is named. -/
def pronounce {β ε : Type} (a : Attribute) (expression : String) :
    Verdict → HostM β ε Surroundings Decision
  | .status s => return .ok s
  | .invalidExpression => return .error (.invalidExpression expression "scripted")
  | .unreadable => return .error (.unreadable ⟨name a, "scripted"⟩)
  | .notNumeric => decideBy (.ok fun v => .error (.notNumeric (name a) v.render)) a.read

/-- Evaluate an expression for an attribute, whether or not it is accepted. -/
def evaluate {β : Type} (e : Entry Evaluator) (a : Attribute) (expression : String) :
    HostM β Evaluator Surroundings Decision := do
  match e.provider with
  | standard kind => evaluateStandard e.id kind a expression
  | scripted _ _ verdict installs removes =>
      firstUse e.id installs removes
      pronounce a expression verdict

end Evaluator

/-! ## All of them -/

/-- A host with the providers of this library. -/
abbrev ProviderHost := Host Builder Evaluator Surroundings

abbrev ProviderM := HostM Builder Evaluator Surroundings

/-- What builders, evaluators and attributes do. -/
def providers : Behaviour Builder Evaluator Attribute Surroundings where
  build b d := b.provider.build d
  accepts e _ expression := return e.provider.accepts expression
  evaluate := Evaluator.evaluate
  read := Attribute.read

end HealthRules
