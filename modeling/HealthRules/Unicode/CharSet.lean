/-!
# CharSet — sets of code points as sorted runs

Character classes and the tables of the Unicode character database are sets of code points with few
gaps. A set is kept as its maximal runs in ascending order, so that two equal sets have equal runs.

This file defines:

* `Run` and `CharSet`, with membership, union, intersection, complement and differences;
* `CharSet.ofRuns`, which brings any list of runs into the normal form;
* `CharSet.unpack`, which reads the compact text in which the tables are written.
-/

namespace HealthRules

/-- The code points from `first` to `last`, both included. -/
structure Run where
  first : Nat
  last : Nat
  deriving DecidableEq, Repr, Inhabited, Hashable

/-- The greatest code point. -/
def maxCodePoint : Nat := 0x10FFFF

namespace Run

def contains (r : Run) (n : Nat) : Bool := r.first ≤ n && n ≤ r.last

/-- A run from either end. -/
def between (a b : Nat) : Run := if a ≤ b then ⟨a, b⟩ else ⟨b, a⟩

def size (r : Run) : Nat := r.last + 1 - r.first

end Run

/-- A set of code points: ascending runs that neither overlap nor touch. -/
structure CharSet where
  runs : List Run
  deriving DecidableEq, Repr, Inhabited

namespace CharSet

/-! ## Normal form -/

/-- Join runs that are ordered by their first element. -/
def joinRuns : List Run → List Run
  | [] => []
  | [r] => [r]
  | r :: s :: rest =>
      if s.first ≤ r.last + 1 then joinRuns (⟨r.first, max r.last s.last⟩ :: rest)
      else r :: joinRuns (s :: rest)
termination_by rs => rs.length

def ofRuns (rs : List Run) : CharSet :=
  ⟨joinRuns (rs.mergeSort fun a b => a.first ≤ b.first)⟩

def empty : CharSet := ⟨[]⟩

def single (n : Nat) : CharSet := ⟨[⟨n, n⟩]⟩

def ofRange (a b : Nat) : CharSet := ⟨[⟨a, b⟩]⟩

def isEmpty (s : CharSet) : Bool := s.runs.isEmpty

/-! ## Membership -/

/-- Look `n` up in ascending runs, stopping at the first run beyond it. -/
def memRuns (n : Nat) : List Run → Bool
  | [] => false
  | r :: rest => if n < r.first then false else if n ≤ r.last then true else memRuns n rest

def contains (s : CharSet) (n : Nat) : Bool := memRuns n s.runs

def containsChar (s : CharSet) (c : Char) : Bool := s.contains c.toNat

/-- The only member, if there is exactly one. -/
def only? (s : CharSet) : Option Nat :=
  match s.runs with
  | [r] => if r.first = r.last then some r.first else none
  | _ => none

/-- Every member is below `n`. -/
def allBelow (s : CharSet) (n : Nat) : Bool := s.runs.all fun r => r.last < n

/-! ## Algebra -/

def union (s t : CharSet) : CharSet := ofRuns (s.runs ++ t.runs)

/-- Common runs of two ascending lists. -/
def interRuns : List Run → List Run → List Run
  | [], _ => []
  | _, [] => []
  | r :: rs, t :: ts =>
      let lo := max r.first t.first
      let hi := min r.last t.last
      let rest := if r.last < t.last then interRuns rs (t :: ts) else interRuns (r :: rs) ts
      if lo ≤ hi then ⟨lo, hi⟩ :: rest else rest
termination_by rs ts => rs.length + ts.length

def inter (s t : CharSet) : CharSet := ⟨interRuns s.runs t.runs⟩

/-- The scalar value after `n`; the surrogates are skipped. -/
def nextScalar (n : Nat) : Nat := if n = 0xD7FF then 0xE000 else n + 1

/-- The scalar value before `n`; the surrogates are skipped. -/
def prevScalar (n : Nat) : Nat := if n = 0xE000 then 0xD7FF else n - 1

/-- The runs between and after `runs`, of which `prev` is the last element before them; `between` makes a
run of the first and the last value of a gap. -/
def gaps (between : Nat → Nat → List Run) (top : Nat) (prev : Nat) : List Run → List Run
  | [] => if prev < top then [⟨nextScalar prev, top⟩] else []
  | r :: rest =>
      between (nextScalar prev) (prevScalar r.first) ++ gaps between top r.last rest

/-- What lies before, between and after the runs of a set. -/
def outside (between : Nat → Nat → List Run) (top : Nat) (s : CharSet) : CharSet :=
  match s.runs with
  | [] => ⟨[⟨0, top⟩]⟩
  | r :: rest =>
      let tail := gaps between top r.last rest
      ⟨if r.first = 0 then tail else ⟨0, prevScalar r.first⟩ :: tail⟩

/-- All values up to `top` that are not in the set. Where only the surrogates lie between two runs, the gap
is the two values beside it. -/
def complementUpTo (top : Nat) (s : CharSet) : CharSet :=
  outside (fun a b => [Run.between a b]) top s

def complement (s : CharSet) : CharSet := complementUpTo maxCodePoint s

/-- The members of `s` that are not in `t`. A gap of surrogates alone has no members. -/
def diff (s t : CharSet) : CharSet :=
  s.inter (outside (fun a b => if a ≤ b then [⟨a, b⟩] else []) maxCodePoint t)

def symmDiff (s t : CharSet) : CharSet := (s.union t).diff (s.inter t)

/-! ## Packed text -/

/-- The value of a digit in base 36. -/
def digit36 (c : Char) : Nat :=
  if c.isDigit then c.toNat - '0'.toNat else c.toNat - 'a'.toNat + 10

/-- Reader state for packed runs: the next code point not yet accounted for, the gap and the length of
the word being read as far as they have begun, and the runs in reverse. -/
structure Unpacking where
  base : Nat := 0
  gap : Option Nat := none
  extra : Option Nat := none
  runs : List Run := []

namespace Unpacking

/-- End the word being read, if any. -/
def close (u : Unpacking) : Unpacking :=
  match u.gap with
  | none => u
  | some gap =>
      let first := u.base + gap
      let last := first + u.extra.getD 0
      { base := last + 1, runs := ⟨first, last⟩ :: u.runs }

def step (u : Unpacking) (c : Char) : Unpacking :=
  if c = ' ' || c = '\n' then u.close
  else if c = '.' then { u with extra := some 0 }
  else match u.extra with
    | none => { u with gap := some (u.gap.getD 0 * 36 + digit36 c) }
    | some n => { u with extra := some (n * 36 + digit36 c) }

end Unpacking

/-- Read runs written as words `gap` or `gap.more` in base 36: `gap` code points are left out, then
one and `more` further ones are in the set. -/
def unpack (text : String) : CharSet :=
  ⟨((text.toList.foldl Unpacking.step {}).close).runs.reverse⟩

end CharSet

end HealthRules
