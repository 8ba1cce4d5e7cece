import HealthRules.Pattern.Expr
import HealthRules.Unicode.Query

/-!
# Walk — matching by sets of places

The places of a text are the gaps around its characters, numbered from 0. A set of places is a natural
number whose bits tell which places are in it. An expression takes the set of places where a match may
begin to the set of places where it may end, so that time grows with the text and never with the number
of ways to match.

* `Look.holds`, a condition between two characters;
* `Walk`, an expression laid over a text, and `Walk.ends`;
* `Expr.matchesIn`, whether an expression matches somewhere in a text.
-/

namespace HealthRules.Pattern

/-! ## Conditions on a place -/

def isAsciiWordChar (c : Char) : Bool := c.isAlphanum || c == '_'

def isWordChar (unicode : Bool) (c : Char) : Bool :=
  if unicode then isAsciiWordChar c || (0x80 ≤ c.toNat && Unicode.wordChars.containsChar c)
  else isAsciiWordChar c

def WordEdge.holds (before after : Bool) : WordEdge → Bool
  | boundary => before != after
  | notBoundary => before == after
  | start => !before && after
  | stop => before && !after
  | startHalf => !before
  | stopHalf => !after

/-- A condition holds between two characters, either of which may be missing at an end of the text. A
line ends at a line feed or, with `crlf`, also at a carriage return and never between the two. -/
def Look.holds (before after : Option Char) : Look → Bool
  | textStart => before.isNone
  | textEnd => after.isNone
  | lineStart crlf =>
      before.isNone || before == some '\n' || (crlf && before == some '\r' && after != some '\n')
  | lineEnd crlf =>
      if crlf then
        after.isNone || after == some '\r' || (after == some '\n' && before != some '\r')
      else after.isNone || after == some '\n'
  | word edge unicode =>
      edge.holds (before.any (isWordChar unicode)) (after.any (isWordChar unicode))

/-! ## Sets of places -/

namespace Places

/-- The set with the places where the list is true. -/
def ofBools : List Bool → Nat
  | [] => 0
  | b :: bs => 2 * ofBools bs + b.toNat

/-- The places 0 to `n`. -/
def upTo (n : Nat) : Nat := 1 <<< (n + 1) - 1

/-- The places of `s` that are not in `t`. -/
def diff (s t : Nat) : Nat := s ^^^ (s &&& t)

/-- Apply `f` to a set `n` times, or until nothing changes. -/
def iterate (f : Nat → Nat) : Nat → Nat → Nat
  | 0, s => s
  | n + 1, s =>
      let t := f s
      if t = s then s else iterate f n t

/-- All places that `f`, applied up to `n` times, reaches from `fresh`, together with `known`. -/
def spread (f : Nat → Nat) : Nat → Nat → Nat → Nat
  | 0, _, known => known
  | n + 1, fresh, known =>
      let new := diff (f fresh) known
      if new = 0 then known else spread f n new (known ||| new)

end Places

/-! ## Expressions over a text -/

/-- An expression laid over a text: sets and conditions have become sets of places. -/
inductive Walk where
  | stay
  | halt
  | keep (places : Nat)
  | step (places : Nat)
  | loop (least most : Nat) (body : Walk)
  | chain (parts : List Walk)
  | fork (branches : List Walk)
  deriving Inhabited

namespace Walk

mutual

/-- The places where a match may end that begins in `s`. -/
def ends (s : Nat) : Walk → Nat
  | stay => s
  | halt => 0
  | keep places => s &&& places
  | step places => (s &&& places) <<< 1
  | loop least most body =>
      let s := Places.iterate (fun t => ends t body) least s
      Places.spread (fun t => ends t body) (most - least) s s
  | chain parts => chainEnds s parts
  | fork branches => forkEnds s branches

def chainEnds (s : Nat) : List Walk → Nat
  | [] => s
  | w :: ws => chainEnds (ends s w) ws

def forkEnds (s : Nat) : List Walk → Nat
  | [] => 0
  | w :: ws => ends s w ||| forkEnds s ws

end

end Walk

/-! ## Matching -/

/-- A text with its gaps: for each place the characters before and after it. -/
structure Haystack where
  chars : List Char
  gaps : List (Option Char × Option Char)

namespace Haystack

def ofChars (cs : List Char) : Haystack :=
  ⟨cs, List.zip (none :: cs.map some) (cs.map some ++ [none])⟩

/-- The places before a character that satisfies `p`. -/
def before (h : Haystack) (p : Char → Bool) : Nat := Places.ofBools (h.chars.map p)

/-- The places where a condition holds. -/
def holding (h : Haystack) (l : Look) : Nat :=
  Places.ofBools (h.gaps.map fun (before, after) => l.holds before after)

end Haystack

namespace Expr

mutual

/-- Lay an expression over a text. A repetition without limit needs no more rounds than the text has
places. -/
def laidOver (h : Haystack) : Expr → Walk
  | empty => .stay
  | fail => .halt
  | literal cs => .chain (cs.map fun c => .step (h.before (· == c)))
  | set _ s => .step (h.before s.containsChar)
  | look l => .keep (h.holding l)
  | repetition least most _ body =>
      .loop least (most.getD (least + h.gaps.length)) (laidOver h body)
  | capture _ body => laidOver h body
  | concat parts => .chain (allLaidOver h parts)
  | alternation branches => .fork (allLaidOver h branches)

def allLaidOver (h : Haystack) : List Expr → List Walk
  | [] => []
  | e :: es => laidOver h e :: allLaidOver h es

end

/-- The expression matches some part of the text. -/
def matchesIn (e : Expr) (text : String) : Bool :=
  let h := Haystack.ofChars text.toList
  (e.laidOver h).ends (Places.upTo h.chars.length) != 0

end Expr

end HealthRules.Pattern
