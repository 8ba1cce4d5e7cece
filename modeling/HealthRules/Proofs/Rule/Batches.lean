import HealthRules.Rule.Batch
import Mathlib.Data.List.Forall2

/-!
# Batches — what each line contributes

A batch is put together line by line: each line gives a definition, an error or nothing, and its number
shows only as the number that the definition or the error carries.

* `Batch.definition?` and `Batch.error?`, the two kinds of contribution;
* `Batch.ofLines_eq`, a batch as its contributions;
* `Batch.ofLines_congr`, lines that contribute the same;
* `Line.parse_renumber`, reading a line under another number;
* `Line.parse_numbered` and `Line.parse_eq_none_iff`, which numbers show and when nothing is contributed.
-/

namespace HealthRules

/-! ## Contributions -/

namespace Batch

/-- The definition that a line contributes. -/
def definition? : Except ParseError (Option Definition) → Option Definition
  | .ok d => d
  | .error _ => none

/-- The error that a line contributes. -/
def error? : Except ParseError (Option Definition) → Option ParseError
  | .ok _ => none
  | .error e => some e

theorem definition?_eq_some_iff {r : Except ParseError (Option Definition)} {d : Definition} :
    definition? r = some d ↔ r = .ok (some d) := by
  cases r with
  | error e => simp [definition?]
  | ok found => simp [definition?]

theorem error?_eq_some_iff {r : Except ParseError (Option Definition)} {e : ParseError} :
    error? r = some e ↔ r = .error e := by
  cases r with
  | error e' => simp [error?]
  | ok found => simp [error?]

variable {α : Type} (read : Nat → α → Except ParseError (Option Definition))

theorem ofLines_eq (first : Nat) (ls : List α) :
    ofLines read first ls =
      ⟨(ls.zipIdx first).filterMap fun l => definition? (read l.2 l.1),
        (ls.zipIdx first).filterMap fun l => error? (read l.2 l.1)⟩ := by
  induction ls generalizing first with
  | nil => rfl
  | cons l ls ih =>
      rw [ofLines, List.zipIdx_cons, List.filterMap_cons, List.filterMap_cons, ih]
      cases hread : read first l with
      | error e => simp [addLine, definition?, error?]
      | ok d =>
          cases d with
          | none => simp [addLine, definition?, error?]
          | some d => simp [addLine, definition?, error?]

/-- Lines that contribute the same make the same batch, however they are read. -/
theorem ofLines_congr {β : Type} {read : Nat → α → Except ParseError (Option Definition)}
    {read' : Nat → β → Except ParseError (Option Definition)} {ls : List α} {ls' : List β}
    (h : List.Forall₂ (fun l l' => ∀ n, read n l = read' n l') ls ls') (first : Nat) :
    ofLines read first ls = ofLines read' first ls' := by
  induction h generalizing first with
  | nil => rfl
  | @cons l l' ls ls' hline _ ih => rw [ofLines, ofLines, hline first, ih (first + 1)]

end Batch

/-! ## Numbers of lines -/

/-- The same definition on another line. -/
def Definition.atLine (n : Nat) (d : Definition) : Definition := { d with line := n }

/-- The same error on another line. -/
def ParseError.atLine (n : Nat) : ParseError → ParseError
  | .tooFewFields _ found => .tooFewFields n found
  | .emptyField _ field => .emptyField n field
  | .notUtf8 _ => .notUtf8 n
  | .unreadable reason => .unreadable reason

namespace Line

/-- What a line contributes under another number. -/
def renumber (n : Nat) :
    Except ParseError (Option Definition) → Except ParseError (Option Definition)
  | .ok d => .ok (d.map (.atLine n))
  | .error e => .error (e.atLine n)

theorem define_renumber (m n : Nat) (scope name : List Char) (qualifier : Option (List Char))
    (expression : List Char) :
    renumber n ((define m scope name qualifier expression).map some) =
      (define n scope name qualifier expression).map some := by
  unfold define
  split
  · rfl
  · split <;> rfl

theorem parse_renumber (m n : Nat) (text : List Char) :
    renumber n (parse m text) = parse n text := by
  simp only [parse]
  split
  · rfl
  · split
    · exact define_renumber m n _ _ _ _
    · exact define_renumber m n _ _ _ _
    · rfl

end Line

/-- The line that an error is about, unless it is about the whole input. -/
def ParseError.line? : ParseError → Option Nat
  | .tooFewFields line _ => some line
  | .emptyField line _ => some line
  | .notUtf8 line => some line
  | .unreadable _ => none

/-- A contribution carries the number of its line. -/
def Batch.Numbered (n : Nat) : Except ParseError (Option Definition) → Prop
  | .ok none => True
  | .ok (some d) => d.line = n
  | .error e => e.line? = some n

namespace Line

/-- Fields contribute something, with the number of their line. -/
theorem define_cases (n : Nat) (scope name : List Char) (qualifier : Option (List Char))
    (expression : List Char) :
    let contribution := (define n scope name qualifier expression).map some
    contribution ≠ .ok none ∧ Batch.Numbered n contribution := by
  unfold define
  split
  · exact ⟨nofun, rfl⟩
  · split
    · exact ⟨nofun, rfl⟩
    · exact ⟨nofun, rfl⟩

theorem parse_numbered (n : Nat) (text : List Char) : Batch.Numbered n (parse n text) := by
  simp only [parse]
  split
  · trivial
  · split
    · exact (define_cases n _ _ _ _).2
    · exact (define_cases n _ _ _ _).2
    · rfl

/-- A line contributes nothing if it is skipped, and only then. -/
theorem parse_eq_none_iff {n : Nat} {text : List Char} :
    parse n text = .ok none ↔ isSkipped (Blank.trim text) = true := by
  simp only [parse]
  split
  · next hs => simp [hs]
  · next hs =>
      -- Whatever the number of fields is, something is contributed.
      refine iff_of_false ?_ hs
      split
      · exact (define_cases n _ _ _ _).1
      · exact (define_cases n _ _ _ _).1
      · nofun

end Line

end HealthRules
