/-!
# Lines — cutting at line feeds

A line ends at a line feed. What follows the last line feed is a line too unless it is empty, and a
carriage return just before a line feed belongs to the end of the line.

* `Lines.cut` separates the ended lines from the unfinished rest, for characters and bytes alike;
* `Lines.ofText` gives the lines of a text.
-/

namespace HealthRules.Lines

/-- The pieces that end in a line feed, and what follows the last one. -/
def cut {α : Type} (isBreak : α → Bool) : List α → List (List α) × List α
  | [] => ([], [])
  | x :: xs =>
      let (done, rest) := cut isBreak xs
      if isBreak x then ([] :: done, rest)
      else match done with
        | [] => ([], x :: rest)
        | d :: ds => ((x :: d) :: ds, rest)

/-- Remove one last element if it is `mark`. -/
def dropFinal {α : Type} [BEq α] (mark : α) (xs : List α) : List α :=
  match xs.getLast? with
  | some x => if x == mark then xs.dropLast else xs
  | none => xs

/-- The lines of a text. A line feed ends a line, with the carriage return before it if there is one;
a carriage return at the very end of an unfinished line stays. -/
def ofText (text : List Char) : List (List Char) :=
  let (done, rest) := cut (· == '\n') text
  let ended := done.map (dropFinal '\r')
  if rest.isEmpty then ended else ended ++ [rest]

end HealthRules.Lines
