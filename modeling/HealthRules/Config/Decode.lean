import HealthRules.Config.Overlay
import HealthRules.Toml.Document

/-!
# Decoding — configurations from documents

A section of a configuration is a table with known keys, of which any may be missing and others do not
count. A section may also be a list of its values in order, which may break off; what follows the last
known value does not count. A value of the wrong kind makes the whole document useless.

* `Section`, the values of a section, by key or in order;
* `Overlay.decode?` and `Config.decode?`.
-/

namespace HealthRules

open Toml (Entries)

/-! ## Single values -/

namespace Decode

def text? : Toml.Value → Option String
  | .text s => some s
  | _ => none

def boolean? : Toml.Value → Option Bool
  | .boolean b => some b
  | _ => none

def texts? : Toml.Value → Option (List String)
  | .array items => items.mapM text?
  | _ => none

end Decode

/-! ## Sections -/

/-- The values of a section: those of a table by their keys, or those of a list. -/
inductive Section where
  | named (entries : Entries)
  | listed (items : List Toml.Value)

namespace Section

/-- The section that a value makes. A date or a time has no values. -/
def ofValue? : Toml.Value → Option Section
  | .table _ entries => some (.named entries)
  | .moment => some (.named [])
  | .array items => some (.listed items)
  | .tables items => some (.listed (items.map (.table .header)))
  | _ => none

/-- The value of a key, which stands at `index` in a list. -/
def value? (s : Section) (index : Nat) (key : String) : Option Toml.Value :=
  match s with
  | named entries => entries.get? key
  | listed items => items[index]?

variable {α : Type} (decode : Toml.Value → Option α)

/-- The value of a key, or `default` if it is missing. -/
def orElse (default : α) (s : Section) (index : Nat) (key : String) : Option α :=
  match s.value? index key with
  | none => some default
  | some v => decode v

/-- The value of a key if it is there. In a list it has to be there. -/
def ifGiven (s : Section) (index : Nat) (key : String) : Option (Option α) :=
  match s, s.value? index key with
  | _, some v => (decode v).map some
  | named _, none => some none
  | listed _, none => none

end Section

open Decode

/-! ## Overlays -/

def SettingsOverlay.decode? (v : Toml.Value) : Option SettingsOverlay := do
  let s ← Section.ofValue? v
  return {
    logLevel := ← s.ifGiven text? 0 "log_level"
    resultsLog := ← s.ifGiven text? 1 "results_log"
    unreadableIsError := ← s.ifGiven boolean? 2 "unavailable_is_error" }

def BuiltinsOverlay.decode? (v : Toml.Value) : Option BuiltinsOverlay := do
  let s ← Section.ofValue? v
  return {
    replace := ← s.orElse boolean? false 0 "replace"
    builders := ← s.orElse texts? [] 1 "builders"
    evaluators := ← s.orElse texts? [] 2 "evaluators"
    removeBuilders := ← s.orElse texts? [] 3 "remove_builders"
    removeEvaluators := ← s.orElse texts? [] 4 "remove_evaluators" }

/-- The change to the variables that may be read. -/
def ListChange.decodeAllow? (v : Toml.Value) : Option ListChange := do
  let s ← Section.ofValue? v
  return {
    replace := ← s.orElse boolean? false 0 "replace"
    add := ← s.orElse texts? [] 1 "allow"
    remove := ← s.orElse texts? [] 2 "remove_allow" }

def Overlay.decode? (document : Entries) : Option Overlay := do
  let s := Section.named document
  return {
    settings := ← s.orElse SettingsOverlay.decode? {} 0 "settings"
    builtins := ← s.orElse BuiltinsOverlay.decode? {} 1 "builtins"
    allow := ← s.orElse ListChange.decodeAllow? {} 2 "env" }

/-! ## Whole configurations -/

def Settings.decode? (v : Toml.Value) : Option Settings := do
  let s ← Section.ofValue? v
  return {
    logLevel := ← s.orElse text? "" 0 "log_level"
    resultsLog := ← s.orElse text? "" 1 "results_log"
    unreadableIsError := ← s.orElse boolean? false 2 "unavailable_is_error" }

def Builtins.decode? (v : Toml.Value) : Option Builtins := do
  let s ← Section.ofValue? v
  return {
    builders := ← s.orElse texts? [] 0 "builders"
    evaluators := ← s.orElse texts? [] 1 "evaluators" }

/-- The variables that may be read. -/
def Config.decodeAllow? (v : Toml.Value) : Option (List String) := do
  (← Section.ofValue? v).orElse texts? [] 0 "allow"

def Config.decode? (document : Entries) : Option Config := do
  let s := Section.named document
  return {
    settings := ← s.orElse Settings.decode? {} 0 "settings"
    builtins := ← s.orElse Builtins.decode? {} 1 "builtins"
    allow := ← s.orElse Config.decodeAllow? [] 2 "env" }

end HealthRules
