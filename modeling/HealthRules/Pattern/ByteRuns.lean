import HealthRules.Text.Utf8
import HealthRules.Unicode.CharSet

/-!
# ByteRuns — characters as sequences of byte ranges

An automaton reads bytes. A set of characters is for it a number of sequences of byte ranges, each of which
covers characters that are encoded in equally many bytes and differ in any way their bytes can.

* `ByteRuns.ofRun`, which covers a run of characters;
* `ByteRuns.ofSet`, which covers a set.
-/

namespace HealthRules.Pattern

/-- One range for each byte of some characters that are encoded in equally many bytes. -/
abbrev ByteRuns := List Run

namespace ByteRuns

/-- Where a run of characters has to be cut at the latest before its last element: between encodings of
different length, between the surrogates' neighbours, and where only some values of a later byte occur. -/
def cut? (a b : Nat) : Option Nat :=
  let lengths := [0x7F, 0x7FF, 0xD7FF, 0xFFFF].filter fun top => a ≤ top && top < b
  let blocks := [0x40, 0x1000, 0x40000].filterMap fun size =>
    if b < 0x80 || a / size == b / size then none
    else if a % size ≠ 0 then some (a / size * size + (size - 1))
    else if b % size ≠ size - 1 then some (b / size * size - 1)
    else none
  (lengths ++ blocks).head?

def encodeNat (n : Nat) : List Nat := (Utf8.encodeChar (Char.ofNat n)).map UInt8.toNat

/-- Cover the characters from `a` to `b` by sequences of byte ranges, in ascending order. -/
def ofRun (a b : Nat) : List ByteRuns :=
  match cut? a b with
  | none => [List.zipWith Run.mk (encodeNat a) (encodeNat b)]
  | some c =>
      if _ : a ≤ c ∧ c < b then ofRun a c ++ ofRun (c + 1) b
      else [List.zipWith Run.mk (encodeNat a) (encodeNat b)]
termination_by b - a

/-- Cover a set; surrogates are left out. -/
def ofSet (s : CharSet) : List ByteRuns :=
  (s.diff (.ofRange 0xD800 0xDFFF)).runs.flatMap fun r => ofRun r.first r.last

/-- Divide neighbouring sequences by their first range. Sequences without one are left out. -/
def byFirst : List ByteRuns → List (Run × List ByteRuns)
  | [] => []
  | [] :: rest => byFirst rest
  | (r :: rs) :: rest => match byFirst rest with
    | (r', tails) :: more =>
        if r = r' then (r, rs :: tails) :: more else (r, [rs]) :: (r', tails) :: more
    | [] => [(r, [rs])]

end ByteRuns

end HealthRules.Pattern
