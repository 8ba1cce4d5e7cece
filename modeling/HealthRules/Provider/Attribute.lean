import HealthRules.Provider.World
import HealthRules.Registry

/-!
# Attributes — what can be read

An attribute has a name, and a source that is read anew each time: a fixed value, a cell that its owner
fills, an environment variable, a fact about the machine, or a count of the providers in a registry. A
count refers to its registry without owning it, so that the registry may be gone when it is read.

* `Counter`, what is counted;
* `AttributeSource` and `Attribute`;
* `Attribute.readAt`, where it is known which registries are there.
-/

namespace HealthRules

/-- A count of providers. -/
inductive Counter where
  | builders
  | evaluators
  deriving DecidableEq, Repr

namespace Counter

def label : Counter → String
  | builders => "RuleBuilderCount"
  | evaluators => "EvaluatorCount"

def ofLabel? (s : String) : Option Counter := [builders, evaluators].find? (·.label = s)

def count {β ε : Type} (r : Registry β ε) : Counter → Nat
  | builders => r.builderCount
  | evaluators => r.evaluatorCount

/-- What reading a count comes to when its registry is gone. -/
def dropped (c : Counter) : Reading := .error ⟨c.label, "provider registry has been dropped"⟩

end Counter

/-- Where an attribute gets its value from. A registry is known by its serial number. -/
inductive AttributeSource where
  | fixed (reading : Reading)
  | cell (cell : String)
  | environment
  | cpus
  | counter (counter : Counter) (registry : Nat)

/-- An attribute, known by its name. -/
structure Attribute where
  label : String
  source : AttributeSource

namespace Attribute

instance : Named Attribute := ⟨label⟩

/-- An attribute with a fixed value. -/
def constant (label : String) (v : Value) : Attribute := ⟨label, .fixed (.ok v)⟩

/-- Read an attribute, where `count?` counts the providers of those registries that are there. -/
def readAt (w : World) (count? : Counter → Nat → Option Nat) (a : Attribute) : Reading :=
  match a.source with
  | .fixed reading => reading
  | .cell cell => w.readCell cell
  | .environment => w.environment.read a.label
  | .cpus => w.facts.readCpus
  | .counter c serial => match count? c serial with
    | some n => .ok (.ofNat n)
    | none => c.dropped

end Attribute

end HealthRules
