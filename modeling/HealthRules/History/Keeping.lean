import HealthRules.History.Record
import HealthRules.Storage

/-!
# Keeping — where records go

Records are written at the end of the history file. Its folders are made if they are missing. Where the
file cannot be written nothing happens: keeping the history never fails.

* `History.keep`.
-/

namespace HealthRules.History

/-- Write a text at the end of the history file, if that is possible. -/
def keepText (s : Storage) (here : Place) (path : Path) (text : String) : Storage :=
  let s := s.createParents here path
  match s.append here path (Utf8.encode text.toList) with
  | .ok s => s
  | .error _ => s

/-- Keep the records of outcomes. -/
def keep {α : Type} [Named α] (s : Storage) (here : Place) (path : Path) (seconds : Nat)
    (outcomes : List (Outcome α)) : Storage :=
  keepText s here path (Record.text seconds outcomes)

end HealthRules.History
