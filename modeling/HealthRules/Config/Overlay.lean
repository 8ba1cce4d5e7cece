import HealthRules.Config.Basic

/-!
# Overlay — changes to a configuration

A user writes only what differs from the standard configuration. A setting that is given replaces the
one below. A list is either replaced, or some of its items are removed and others added at its end, each
of them once.

* `ListChange` and `ListChange.apply`;
* `Overlay` and `Overlay.apply`.
-/

namespace HealthRules

/-- A change to a list of names. -/
structure ListChange where
  replace : Bool := false
  add : List String := []
  remove : List String := []
  deriving DecidableEq, Repr

namespace ListChange

/-- Append an item unless it is there. -/
def addOne (items : List String) (item : String) : List String :=
  if items.contains item then items else items ++ [item]

def apply (c : ListChange) (base : List String) : List String :=
  if c.replace then c.add
  else c.add.foldl addOne (base.filter fun item => !c.remove.contains item)

end ListChange

structure SettingsOverlay where
  logLevel : Option String := none
  resultsLog : Option String := none
  unreadableIsError : Option Bool := none
  deriving DecidableEq, Repr

namespace SettingsOverlay

def apply (o : SettingsOverlay) (base : Settings) : Settings where
  logLevel := o.logLevel.getD base.logLevel
  resultsLog := o.resultsLog.getD base.resultsLog
  unreadableIsError := o.unreadableIsError.getD base.unreadableIsError

end SettingsOverlay

/-- Changes to both lists of providers; they are replaced together or not at all. -/
structure BuiltinsOverlay where
  replace : Bool := false
  builders : List String := []
  evaluators : List String := []
  removeBuilders : List String := []
  removeEvaluators : List String := []
  deriving DecidableEq, Repr

namespace BuiltinsOverlay

def builderChange (o : BuiltinsOverlay) : ListChange := ⟨o.replace, o.builders, o.removeBuilders⟩

def evaluatorChange (o : BuiltinsOverlay) : ListChange :=
  ⟨o.replace, o.evaluators, o.removeEvaluators⟩

def apply (o : BuiltinsOverlay) (base : Builtins) : Builtins where
  builders := o.builderChange.apply base.builders
  evaluators := o.evaluatorChange.apply base.evaluators

end BuiltinsOverlay

/-- Changes to a configuration. -/
structure Overlay where
  settings : SettingsOverlay := {}
  builtins : BuiltinsOverlay := {}
  allow : ListChange := {}
  deriving DecidableEq, Repr

namespace Overlay

def apply (o : Overlay) (base : Config) : Config where
  settings := o.settings.apply base.settings
  builtins := o.builtins.apply base.builtins
  allow := o.allow.apply base.allow

end Overlay

end HealthRules
