import HealthRules.Provider.Attribute
import HealthRules.Rule.Definition

/-!
# Builders — the kinds of rule builders

Three builders come with the library. Each owns a namespace and takes only definitions without a
qualifier: `muppet` counts providers, `env` reads variables, `sys` tells facts. Other builders belong to
the host: they claim definitions by namespace, name and qualifier, give a constant or a cell, and may
change the registry while they build.

* `Claim`, which definitions a builder of the host takes;
* `Builder`, and the sources from which the library's builders make attributes.
-/

namespace HealthRules

/-! ## Claims of the host's builders -/

/-- Whether a definition should have a qualifier. -/
inductive QualifierDemand where
  | any
  | present
  | absent
  deriving DecidableEq, Repr

/-- Which definitions are taken. What is not given does not matter. -/
structure Claim where
  scope : Option String := none
  name : Option String := none
  qualifier : QualifierDemand := .any
  deriving DecidableEq, Repr

namespace Claim

def admits (c : Claim) (d : Definition) : Bool :=
  c.scope.all (· == d.scope) && c.name.all (· == d.name) &&
    match c.qualifier with
    | .any => true
    | .present => d.qualifier.isSome
    | .absent => d.qualifier.isNone

end Claim

/-! ## Builders -/

/-- A rule builder. -/
inductive Builder where
  /-- Counts the providers of the registry with that serial number. -/
  | introspection (registry : Nat)
  /-- Reads variables: those of the list, or any if the list is empty. -/
  | environment (allow : List String)
  | system
  | declining (label : String)
  | giving (label : String) (claim : Claim) (subject : Option String) (source : AttributeSource)
  | installing (label : String) (claim : Claim) (builder : Builder)
  | removing (label : String) (claim : Claim) (number : Nat)
  deriving Inhabited

namespace Builder

instance : Named Builder where
  name
    | introspection _ => "muppet"
    | environment _ => "env"
    | system => "sys"
    | declining label => label
    | giving label .. => label
    | installing label .. => label
    | removing label .. => label

/-! ## Sources -/

/-- The definition is one of a namespace, and has no qualifier. -/
def owns (scope : String) (d : Definition) : Bool := d.scope == scope && d.qualifier.isNone

/-- The count that a definition asks for. -/
def introspectionSource (registry : Nat) (d : Definition) : Option AttributeSource :=
  if owns "muppet" d then (Counter.ofLabel? d.name).map (.counter · registry) else none

/-- The variable that a definition asks for, if it is allowed. -/
def environmentSource (allow : List String) (d : Definition) : Option AttributeSource :=
  if owns "env" d && (allow.isEmpty || allow.contains d.name) then some .environment else none

/-- The fact that a definition asks for. -/
def systemSource (facts : Facts) (d : Definition) : Option AttributeSource :=
  let fact (v : Value) := some (AttributeSource.fixed (.ok v))
  if owns "sys" d then
    match d.name with
    | "cpus" => some .cpus
    | "os" => fact (.text facts.os)
    | "arch" => fact (.text facts.arch)
    | "family" => fact (.text facts.family)
    | "pid" => fact (.ofNat facts.pid)
    | _ => none
  else none

/-- The name for the attribute of a definition, when nothing else names it. -/
def subjectName (d : Definition) : String :=
  match d.qualifier with
  | some q => d.name ++ "." ++ q
  | none => d.name

/-- A rule for a definition, which keeps its expression. -/
def bind (d : Definition) (subject : String) (source : AttributeSource) : Rule Attribute :=
  ⟨⟨subject, source⟩, d.expression⟩

end Builder

end HealthRules
