import HealthRules.Engine.Host

/-!
# Building — from definitions to rules

Every definition of a batch is given to the builders that were registered when the batch began, in order,
until one makes a rule of it. A definition that all of them decline is reported, and the others go on.

* `BuildError`;
* `Behaviour.firstRule`, for one definition;
* `Behaviour.buildAll`, for a batch.
-/

namespace HealthRules

/-- No builder made a rule of a definition. -/
structure BuildError where
  line : Nat
  definition : String
  deriving DecidableEq, Repr

namespace BuildError

def ofDefinition (d : Definition) : BuildError := ⟨d.line, d.render⟩

def message (e : BuildError) : String :=
  s!"line {e.line}: no rule builder accepts '{e.definition}'"

end BuildError

/-- What becomes of a definition. -/
abbrev BuildOutcome (α : Type) := Except BuildError (Rule α)

namespace BuildOutcome

variable {α : Type}

/-- The rules among the outcomes. -/
def rules (outcomes : List (BuildOutcome α)) : List (Rule α) := outcomes.filterMap fun
  | .ok r => some r
  | .error _ => none

/-- The failures among the outcomes. -/
def failures (outcomes : List (BuildOutcome α)) : List BuildError := outcomes.filterMap fun
  | .ok _ => none
  | .error e => some e

end BuildOutcome

namespace Behaviour

variable {β ε α σ : Type}

/-- Try builders in order until one makes a rule. -/
def firstRule (B : Behaviour β ε α σ) (d : Definition) :
    List (Entry β) → HostM β ε σ (Option (Entry β × Rule α))
  | [] => return none
  | b :: rest => do
      match ← B.build b d with
      | some r => return some (b, r)
      | none => B.firstRule d rest

variable [Named β]

/-- Build one definition, and tell how that went. -/
def buildOne (B : Behaviour β ε α σ) (builders : List (Entry β)) (d : Definition) :
    HostM β ε σ (BuildOutcome α) := do
  match ← B.firstRule d builders with
  | some (b, r) =>
      Host.tell (.ruleBuilt d (name b.provider))
      return .ok r
  | none =>
      Host.tell (.ruleDeclined d)
      return .error (.ofDefinition d)

/-- Build definitions one after the other. -/
def buildEach (B : Behaviour β ε α σ) (builders : List (Entry β)) :
    List Definition → HostM β ε σ (List (BuildOutcome α))
  | [] => return []
  | d :: ds => do
      let outcome ← B.buildOne builders d
      return outcome :: (← B.buildEach builders ds)

/-- Build a batch with the builders that are registered now. -/
def buildAll (B : Behaviour β ε α σ) (ds : List Definition) :
    HostM β ε σ (List (BuildOutcome α)) := do
  let builders := (← get).registry.builders
  let outcomes ← B.buildEach builders ds
  Host.tell (.batchBuilt (BuildOutcome.rules outcomes).length builders.length
    (BuildOutcome.failures outcomes).length)
  return outcomes

end Behaviour

end HealthRules
