import HealthRules.Engine.Outcome
import HealthRules.History.Calendar

/-!
# Records — the history of outcomes

The history has one record a line: the time, the status, the rule and the message, with tabs between
them. A line feed in the message is written as `; `.

* `Record.message` and `Record.line`;
* `Record.text`, the records of several outcomes.
-/

namespace HealthRules.Record

/-- A message on one line. -/
def message (cs : List Char) : List Char := cs.flatMap fun c =>
  if c = '\n' then [';', ' '] else [c]

variable {α : Type} [Named α]

/-- The record of one outcome, with the time as a text. -/
def line (time : String) (o : Outcome α) : List Char :=
  time.toList ++ '\t' :: o.status.label.toList ++ '\t' :: o.rule.render.toList ++
    '\t' :: message o.message.toList ++ ['\n']

/-- The records of outcomes at a time in seconds since the epoch. -/
def text (seconds : Nat) (outcomes : List (Outcome α)) : String :=
  String.ofList (outcomes.flatMap (line (Calendar.timestamp seconds)))

end HealthRules.Record
