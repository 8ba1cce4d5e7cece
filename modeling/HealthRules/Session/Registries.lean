import HealthRules.Provider.Surroundings

/-!
# Registries — registries and the references to them

Owners share registries by references to them. A registry is there as long as there is a reference to it;
with the last one it is gone, together with what its evaluators remember. Serial numbers are not used
again. What only counts the providers of a registry has no reference to it.

* `SharedRegistry` and `Registries`;
* `Registries.create`, `Registries.retain` and `Registries.release`.
-/

namespace HealthRules

/-- A registry, what its evaluators remember, and the number of references to it. -/
structure SharedRegistry where
  registry : Registry Builder Evaluator
  caches : List (ProviderId × PatternCache Regex.language) := []
  used : List ProviderId := []
  references : Nat

/-- The registries that are there, by serial number, and how many have been made. -/
structure Registries where
  entries : List (Nat × SharedRegistry) := []
  made : Nat := 0

namespace Registries

def find? (rs : Registries) (serial : Nat) : Option SharedRegistry := rs.entries.lookup serial

/-- Put something in the place of a registry, or nothing. -/
def set (rs : Registries) (serial : Nat) (x? : Option SharedRegistry) : Registries :=
  { rs with entries := x?.toList.map (serial, ·) ++ rs.entries.filter (·.1 ≠ serial) }

/-- Make an empty registry, with one reference to it. -/
def create (rs : Registries) : Registries :=
  { rs.set rs.made (some { registry := .empty rs.made, references := 1 }) with made := rs.made + 1 }

/-- Add a reference. -/
def retain (rs : Registries) (serial : Nat) : Registries :=
  rs.set serial ((rs.find? serial).map fun x => { x with references := x.references + 1 })

/-- Give a reference up; the last one takes the registry with it. -/
def release (rs : Registries) (serial : Nat) : Registries :=
  rs.set serial ((rs.find? serial).bind fun x =>
    if x.references ≤ 1 then none else some { x with references := x.references - 1 })

/-- All registries but one. -/
def others (rs : Registries) (serial : Nat) : List (Nat × Registry Builder Evaluator) :=
  (rs.entries.filter (·.1 ≠ serial)).map fun entry => (entry.1, entry.2.registry)

end Registries

end HealthRules
