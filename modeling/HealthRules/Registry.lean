import HealthRules.Rule.Basic

/-!
# Registry — the providers of the moment

Builders turn definitions into rules, and evaluators decide rules. Both are registered and deregistered at
any time, and each registration gets an identity that is never given again. Order of registration is the
order in which providers are tried. One evaluator, the fallback, is not registered: it stands after all
others and cannot be removed.

* `ProviderId`, `Entry` and `Registry`;
* `Registry.addBuilder`, `Registry.addEvaluator` and `Registry.remove`;
* `Registry.candidates`, the evaluators in the order in which they are tried.
-/

namespace HealthRules

/-- The identity of one registration. The number stands for a counter of 64 bits that begins again at zero, and agrees
with it for fewer than `2 ^ 64` registrations. -/
structure ProviderId where
  number : Nat
  deriving DecidableEq, Repr, Inhabited

namespace ProviderId

def render (id : ProviderId) : String := s!"provider#{id.number}"

end ProviderId

/-- A registered provider. -/
structure Entry (α : Type) where
  id : ProviderId
  provider : α
  deriving DecidableEq, Repr

/-- An evaluator that may be tried: a registered one, or the fallback. -/
inductive Candidate (ε : Type) where
  | registered (entry : Entry ε)
  | fallback
  deriving DecidableEq, Repr

/-- The name of the fallback. -/
def fallbackName : String := "default"

namespace Candidate

variable {ε : Type} [Named ε]

instance : Named (Candidate ε) where
  name
    | registered entry => name entry.provider
    | fallback => fallbackName

end Candidate

/-- The registered providers of both kinds, in the order of their registration. `serial` tells one
registry from another, and `issued` counts the identities given so far. -/
structure Registry (β ε : Type) where
  serial : Nat
  issued : Nat := 0
  builders : List (Entry β) := []
  evaluators : List (Entry ε) := []

namespace Registry

variable {β ε : Type}

def empty (serial : Nat) : Registry β ε := { serial }

/-! ## Registration -/

/-- The identity that the next registration gets. -/
def nextId (r : Registry β ε) : ProviderId := ⟨r.issued + 1⟩

def addBuilder (r : Registry β ε) (b : β) : Registry β ε :=
  { r with issued := r.issued + 1, builders := r.builders ++ [⟨r.nextId, b⟩] }

def addEvaluator (r : Registry β ε) (e : ε) : Registry β ε :=
  { r with issued := r.issued + 1, evaluators := r.evaluators ++ [⟨r.nextId, e⟩] }

/-- The entries without the one of that identity, if there is one. -/
def without? {α : Type} (id : ProviderId) (entries : List (Entry α)) : Option (List (Entry α)) :=
  if entries.any (·.id = id) then some (entries.filter (·.id ≠ id)) else none

/-- The registry without a provider, if it is registered. -/
def remove? (r : Registry β ε) (id : ProviderId) : Option (Registry β ε) :=
  match without? id r.builders with
  | some builders => some { r with builders }
  | none => (without? id r.evaluators).map fun evaluators => { r with evaluators }

/-! ## Views -/

/-- The evaluators in the order in which they are tried. -/
def candidates (r : Registry β ε) : List (Candidate ε) :=
  r.evaluators.map .registered ++ [.fallback]

def builderCount (r : Registry β ε) : Nat := r.builders.length

/-- The number of evaluators, the fallback included. -/
def evaluatorCount (r : Registry β ε) : Nat := r.evaluators.length + 1

variable [Named β] [Named ε]

def builderNames (r : Registry β ε) : List String := r.builders.map (name ·.provider)

def evaluatorNames (r : Registry β ε) : List String := r.candidates.map name

def inspect (r : Registry β ε) : String :=
  Quoted.record "ProviderRegistry" [
    ("builders", Quoted.list (r.builderNames.map Quoted.quote)),
    ("evaluators", Quoted.list (r.evaluatorNames.map Quoted.quote))]

end Registry

end HealthRules
