import HealthRules.Engine.Host
import HealthRules.Provider.Builder
import HealthRules.Provider.Evaluator

/-!
# Surroundings — all that providers see beside their registry

Beside the world there are the patterns that evaluators have compiled, and other registries. A registry is
there as long as it has owners; attributes that count its providers do not own it.

* `Surroundings`, with the patterns of each evaluator;
* `Surroundings.count?` and `Attribute.read`.
-/

namespace HealthRules

/-- What providers see beside their registry: the world, the patterns that each evaluator has compiled and
which evaluators have been used before, and the other registries that are there, by serial number. -/
structure Surroundings extends World where
  caches : List (ProviderId × PatternCache Regex.language) := []
  used : List ProviderId := []
  elsewhere : List (Nat × Registry Builder Evaluator) := []

namespace Surroundings

/-- The patterns that an evaluator has compiled. -/
def cacheOf (s : Surroundings) (id : ProviderId) : PatternCache Regex.language :=
  (s.caches.lookup id).getD {}

def setCache (s : Surroundings) (id : ProviderId) (cache : PatternCache Regex.language) : Surroundings :=
  { s with caches := (id, cache) :: s.caches.filter (·.1 ≠ id) }

/-- The number of providers in the registry with a serial number, if it is there: it may be the registry of
the host, or another one. -/
def count? {β ε : Type} (s : Surroundings) (registry : Registry β ε) (c : Counter) (serial : Nat) : Option Nat :=
  if registry.serial = serial then some (c.count registry)
  else (s.elsewhere.lookup serial).map (c.count ·)

end Surroundings

/-- Read an attribute on a host. -/
def Attribute.read {β ε : Type} (a : Attribute) : HostM β ε Surroundings Reading := do
  let host ← get
  return a.readAt host.surroundings.toWorld (host.surroundings.count? host.registry)

end HealthRules
