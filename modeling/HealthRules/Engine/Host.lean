import HealthRules.Evaluation
import HealthRules.Event

/-!
# Host — a registry among its surroundings

Providers may do what they like when they are called: they may read and change their surroundings, and
they may register and deregister providers in the registry they belong to. So whatever calls a provider
runs on a whole host. What the surroundings are and what providers do is left open here.

* `Host` and `HostM`, the computations that run on it;
* `Behaviour`, what providers and attributes do when they are called;
* `Host.registerBuilder`, `Host.registerEvaluator` and `Host.deregister`;
* `Host.deregisterNumber`, for those who know an identity by its number only.
-/

namespace HealthRules

/-- A registry, its surroundings, and what has happened so far, the latest first. -/
structure Host (β ε σ : Type) where
  registry : Registry β ε
  surroundings : σ
  past : List Event := []

/-- Computations on a host. -/
abbrev HostM (β ε σ : Type) := StateM (Host β ε σ)

/-- What builders, evaluators and attributes do. A builder gives a rule or declines; an evaluator accepts
an expression or not; an attribute is read. -/
structure Behaviour (β ε α σ : Type) where
  build : Entry β → Definition → HostM β ε σ (Option (Rule α))
  accepts : Entry ε → α → String → HostM β ε σ Bool
  evaluate : Entry ε → α → String → HostM β ε σ Decision
  read : α → HostM β ε σ Reading

namespace Host

variable {β ε σ : Type}

/-- What has happened, in order. -/
def events (h : Host β ε σ) : List Event := h.past.reverse

/-- Tell what has happened. -/
def tell (e : Event) : HostM β ε σ Unit := modify fun h => { h with past := e :: h.past }

def tellAll (es : List Event) : HostM β ε σ Unit :=
  modify fun h => { h with past := es.reverse ++ h.past }

/-! ## Registration -/

/-- Register a builder after all others. -/
def registerBuilder [Named β] (b : β) : HostM β ε σ ProviderId := do
  let id := (← get).registry.nextId
  tell (.builderRegistered (name b) id)
  modify fun h => { h with registry := h.registry.addBuilder b }
  return id

/-- Register an evaluator after all others; the fallback stays behind it. -/
def registerEvaluator [Named ε] (e : ε) : HostM β ε σ ProviderId := do
  let id := (← get).registry.nextId
  tell (.evaluatorRegistered (name e) id)
  modify fun h => { h with registry := h.registry.addEvaluator e }
  return id

/-- Deregister a provider, and tell whether it was registered. -/
def deregister (id : ProviderId) : HostM β ε σ Bool := do
  match (← get).registry.remove? id with
  | none => return false
  | some registry =>
      modify fun h => { h with registry }
      tell (.deregistered id)
      return true

/-- The identity with a number. Identities are only ever issued: a spare registry issues them from the first
on, and tells so, until it comes to the number. -/
def identify (number : Nat) : HostM β ε σ ProviderId := do
  let told := (List.range number).map fun i =>
    Event.evaluatorRegistered fallbackName ⟨i + 1⟩
  tellAll told
  return ⟨number⟩

/-- Deregister the provider whose identity has a number. -/
def deregisterNumber (number : Nat) : HostM β ε σ Bool := do
  deregister (← identify number)

end Host

end HealthRules
