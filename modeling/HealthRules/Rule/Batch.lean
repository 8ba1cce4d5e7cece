import HealthRules.Rule.Line
import HealthRules.Text.Lines
import HealthRules.Text.Utf8

/-!
# Batch — reading a whole rule text

A batch is the outcome of reading many lines: the definitions in order, and beside them the errors of
the lines that were refused. No line affects another. Rule text comes either as a text in memory or as
bytes from a source that hands them out in chunks and may fail at its end.

* `Batch.ofText` reads a text;
* `Source` is a supply of bytes, and `Batch.ofSource` reads it.
-/

namespace HealthRules

/-! ## Sources of bytes -/

/-- A supply of bytes in chunks. After the last chunk comes the end of the input, or a failure. -/
structure Source where
  chunks : List (List UInt8)
  failure : Option String := none
  deriving Repr

/-- Lines of bytes read so far: those that are complete, and the beginning of the next one. -/
structure Intake where
  complete : List (List UInt8)
  pending : List UInt8
  deriving Repr

namespace Intake

def start : Intake := ⟨[], []⟩

/-- Take in one more chunk, which may end anywhere in a line. -/
def feed (r : Intake) (chunk : List UInt8) : Intake :=
  let (done, rest) := Lines.cut (· == 0x0A) (r.pending ++ chunk)
  ⟨r.complete ++ done, rest⟩

/-- The lines when the input has ended: what is pending is a line unless it is empty. -/
def finish (r : Intake) : List (List UInt8) :=
  if r.pending.isEmpty then r.complete else r.complete ++ [r.pending]

end Intake

namespace Source

def ofBytes (bytes : List UInt8) : Source := { chunks := [bytes] }

/-- Take in all chunks, one after another. -/
def intake (s : Source) : Intake := s.chunks.foldl Intake.feed Intake.start

/-- The lines that the source completes: after a failure, a line that has no end is lost. -/
def lines (s : Source) : List (List UInt8) :=
  match s.failure with
  | none => s.intake.finish
  | some _ => s.intake.complete

end Source

/-! ## Batches -/

/-- The definitions and the errors of a rule text, each in the order of the lines. -/
structure Batch where
  definitions : List Definition
  errors : List ParseError
  deriving Repr

namespace Batch

def empty : Batch := ⟨[], []⟩

def size (b : Batch) : Nat := b.definitions.length

def isEmpty (b : Batch) : Bool := b.definitions.isEmpty

/-- Put the outcome of one line in front. -/
def addLine (outcome : Except ParseError (Option Definition)) (b : Batch) : Batch :=
  match outcome with
  | .ok none => b
  | .ok (some d) => { b with definitions := d :: b.definitions }
  | .error e => { b with errors := e :: b.errors }

/-- Read lines with `read`, numbering them from `first`. -/
def ofLines {α : Type} (read : Nat → α → Except ParseError (Option Definition)) :
    Nat → List α → Batch
  | _, [] => empty
  | first, l :: ls => addLine (read first l) (ofLines read (first + 1) ls)

/-- Read a text in memory. -/
def ofText (text : String) : Batch := ofLines Line.parse 1 (Lines.ofText text.toList)

/-- Read a line of bytes: one carriage return at its end does not count, and what remains has to be
UTF-8, in comments too. -/
def parseBytes (line : Nat) (bytes : List UInt8) : Except ParseError (Option Definition) :=
  match Utf8.decode? (Lines.dropFinal 0x0D bytes) with
  | some text => Line.parse line text
  | none => .error (.notUtf8 line)

/-- The batch of the lines that a source completes. -/
def ofCompleteLines (s : Source) : Batch := ofLines parseBytes 1 s.lines

/-- Read a source to its end. A failure ends the whole batch. -/
def ofSource (s : Source) : Except ParseError Batch :=
  match s.failure with
  | some reason => .error (.unreadable reason)
  | none => .ok (ofCompleteLines s)

end Batch

end HealthRules
