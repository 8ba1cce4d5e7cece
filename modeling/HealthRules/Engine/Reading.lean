import HealthRules.Engine.Host
import HealthRules.Rule.Batch

/-!
# Reading — rule text on a host

A host tells which lines of a rule text it skips. Of an input that breaks off it tells about the lines
before the break as well.

* `Host.readText` and `Host.readSource`.
-/

namespace HealthRules.Host

variable {β ε σ : Type}

/-- Tell about the lines that were refused. -/
def tellErrors (b : Batch) : HostM β ε σ Unit := tellAll (b.errors.map .lineSkipped)

def readText (text : String) : HostM β ε σ Batch := do
  let b := Batch.ofText text
  tellErrors b
  return b

def readSource (s : Source) : HostM β ε σ (Except ParseError Batch) := do
  tellErrors (Batch.ofCompleteLines s)
  match Batch.ofSource s with
  | .error e => return .error e
  | .ok b =>
      tell (.textRead b.size b.errors.length)
      return .ok b

end HealthRules.Host
