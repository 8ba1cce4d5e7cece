import HealthRules.Pattern.ByteRuns
import HealthRules.Pattern.SlotTable

/-!
# Tally — the states of an automaton, counted as they are made

The states of an automaton are numbered in the order in which they are made, and each takes room. The states
that read one character of a set are made one by one, because states that read the same bytes are shared as
far as a bounded memory still knows them, and what it forgets depends on the numbers of the states.

* `Tally`, how many states there are and how much room they take;
* `Tally.readForward`, the states that read a character of a set from its first byte on;
* `Tally.readBackward`, the states that read it from its last byte on.
-/

namespace HealthRules.Pattern

/-- The states made so far, and the room that they take in bytes. -/
structure Tally where
  states : Nat := 0
  room : Nat := 0
  deriving DecidableEq, Repr, Inhabited

namespace Tally

/-! ## Room -/

/-- The room of a state. -/
def stateSize : Nat := 32

/-- The room of a byte range in a state. -/
def rangeSize : Nat := 8

/-- The room of a branch in a state. -/
def branchSize : Nat := 4

/-- Make `n` states that take `extra` bytes besides their own. -/
def add (t : Tally) (n extra : Nat) : Tally := ⟨t.states + n, t.room + n * stateSize + extra⟩

/-- The greatest room that an automaton may take, in bytes. -/
def limit : Nat := 10 * 1024 * 1024

def fits (t : Tally) : Bool := t.room ≤ limit

/-! ## Characters from their first byte on -/

/-- What a state reads: each range of bytes, with the number of the state after it. -/
abbrev Moves := List (Run × Nat)

namespace Moves

/-- Moves as a key. -/
def key (moves : Moves) : List Nat := moves.flatMap fun (r, next) => [r.first, r.last, next]

end Moves

/-- States being made together with the memory of those that can be shared. -/
abbrev Sharing := Tally × SlotTable

/-- How many states are remembered. -/
def forwardSlots : Nat := 10000

/-- The number of a state with some moves: of a remembered one, or else of a new one. -/
def share (moves : Moves) : Sharing → Nat × Sharing
  | (t, known) => match known.find? moves.key with
    | some n => (n, t, known)
    | none => (t.states, t.add 1 (moves.length * rangeSize), known.insert moves.key t.states)

/-- The number of a state that reads one of some sequences, of at most `depth` ranges, and goes on to the
state `target`. The states after it are made first. -/
def readAny (target : Nat) : Nat → List ByteRuns → Sharing → Nat × Sharing
  | 0, _, made => (target, made)
  | depth + 1, seqs, made => match ByteRuns.byFirst seqs with
    | [] => (target, made)
    | groups =>
        let (moves, made) := groups.foldl (fun (moves, made) (r, tails) =>
          let (next, made) := readAny target depth tails made
          ((r, next) :: moves, made)) (([] : Moves), made)
        share moves.reverse made

/-- The most bytes that a character has. -/
def longestChar : Nat := 4

/-- Read a character that is covered by sequences of byte ranges. -/
def readForward (seqs : List ByteRuns) (t : Tally) : Tally :=
  (readAny t.states longestChar seqs (t.add 1 0, { size := forwardSlots })).2.1

/-! ## Characters from their last byte on -/

/-- How many states are remembered. -/
def backwardSlots : Nat := 1000

/-- Make the state that reads a range before the state `next`, unless there is one. -/
def readBefore : Nat × Sharing → Run → Nat × Sharing
  | (next, t, known), r =>
      let key := [next, r.first, r.last]
      match known.find? key with
      | some n => (n, t, known)
      | none => (t.states, t.add 1 0, known.insert key t.states)

/-- Read a character that is covered by sequences of byte ranges: a state that branches to the last range
of each sequence, and one at which their first ranges end. -/
def readBackward (seqs : List ByteRuns) (t : Tally) : Tally :=
  let start : Sharing := (t.add 2 (seqs.length * branchSize), { size := backwardSlots })
  (seqs.foldl (fun made seq => (seq.foldl readBefore (t.states + 1, made)).2) start).1

end Tally

end HealthRules.Pattern
