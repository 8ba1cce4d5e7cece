/-!
# Status — outcomes ordered by severity

A rule holds, cannot be decided, or fails. The worst of several outcomes is the most severe one, and
nothing at all counts as holding.

* `Status` with `label` and `severity`;
* `Status.worst` of a list.
-/

namespace HealthRules

/-- The outcome of a rule. `warn` is for an attribute that could not be read. -/
inductive Status where
  | ok
  | warn
  | error
  deriving DecidableEq, Repr, Inhabited

namespace Status

def label : Status → String
  | ok => "OK"
  | warn => "WARN"
  | error => "ERROR"

/-- The name by which an outcome is shown for inspection. -/
def caseName : Status → String
  | ok => "Ok"
  | warn => "Warn"
  | error => "Error"

def severity : Status → Nat
  | ok => 0
  | warn => 1
  | error => 2

/-- The more severe of two outcomes. -/
def max (a b : Status) : Status := if a.severity < b.severity then b else a

def worst (statuses : List Status) : Status := statuses.foldl max ok

end Status

end HealthRules
