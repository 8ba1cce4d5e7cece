import HealthRules.Unicode.CharSet

/-!
# Expr — what a pattern matches, without its spelling

An expression is what remains of a pattern when flags, classes and escapes have been worked out. It is
built by functions that keep it small: they merge neighbouring literals, flatten sequences and
alternatives, and turn alternatives of single characters, or of sets, into one set.

* `Look`, `SetUnit` and `Expr`;
* the constructors `Expr.ofSet`, `Expr.times`, `Expr.sequence` and `Expr.choice`;
* `Expr.leastLength?` and `Expr.isWidthless`, what is known of the length of a match.
-/

namespace HealthRules.Pattern

/-- Where a word may begin or end. -/
inductive WordEdge where
  | boundary
  | notBoundary
  | start
  | stop
  | startHalf
  | stopHalf
  deriving DecidableEq, Repr

/-- A condition on a place in the text. -/
inductive Look where
  | textStart
  | textEnd
  | lineStart (crlf : Bool)
  | lineEnd (crlf : Bool)
  | word (edge : WordEdge) (unicode : Bool)
  deriving DecidableEq, Repr

/-- What the members of a set are. A set of bytes has ASCII only, and so matches the same characters. -/
inductive SetUnit where
  | char
  | byte
  deriving DecidableEq, Repr

/-- An expression. A literal is not empty, a set has at least two members, sequences and choices have at
least two parts. A repetition that is not `greedy` prefers fewer rounds. -/
inductive Expr where
  | empty
  | fail
  | literal (cs : List Char)
  | set (unit : SetUnit) (s : CharSet)
  | look (l : Look)
  | repetition (least : Nat) (most : Option Nat) (greedy : Bool) (body : Expr)
  | capture (index : Nat) (body : Expr)
  | concat (parts : List Expr)
  | alternation (branches : List Expr)
  deriving Inhabited

namespace Expr

/-! ## Equality -/

mutual

def same : Expr → Expr → Bool
  | empty, empty => true
  | fail, fail => true
  | literal a, literal b => a == b
  | set u a, set v b => u == v && a == b
  | look a, look b => a == b
  | repetition l m g a, repetition l' m' g' b => l == l' && m == m' && g == g' && same a b
  | capture i a, capture j b => i == j && same a b
  | concat a, concat b => sameAll a b
  | alternation a, alternation b => sameAll a b
  | _, _ => false

def sameAll : List Expr → List Expr → Bool
  | [], [] => true
  | a :: as, b :: bs => same a b && sameAll as bs
  | _, _ => false

end

/-! ## Length of a match -/

mutual

/-- A lower bound for the length of a match, unless nothing matches. -/
def leastLength? : Expr → Option Nat
  | empty => some 0
  | fail => none
  | literal cs => some cs.length
  | set _ _ => some 1
  | look _ => some 0
  | repetition least _ _ body => (leastLength? body).map (least * ·)
  | capture _ body => leastLength? body
  | concat parts => leastSum? parts
  | alternation branches => leastOf? branches

def leastSum? : List Expr → Option Nat
  | [] => some 0
  | e :: es => match leastLength? e, leastSum? es with
    | some a, some b => some (a + b)
    | _, _ => none

def leastOf? : List Expr → Option Nat
  | [] => none
  | [e] => leastLength? e
  | e :: es => match leastLength? e, leastOf? es with
    | some a, some b => some (min a b)
    | _, _ => none

end

mutual

/-- Every match is empty. -/
def isWidthless : Expr → Bool
  | empty => true
  | look _ => true
  | repetition _ most _ body => isWidthless body || most == some 0
  | capture _ body => isWidthless body
  | concat parts => allWidthless parts
  | alternation branches => allWidthless branches
  | _ => false

def allWidthless : List Expr → Bool
  | [] => true
  | e :: es => isWidthless e && allWidthless es

end

/-! ## Constructors -/

/-- One character of a set. -/
def ofSet (unit : SetUnit) (s : CharSet) : Expr :=
  if s.isEmpty then fail
  else match s.only? with
    | some n => literal [Char.ofNat n]
    | none => set unit s

/-- Repetition. What is always empty is repeated at most once. -/
def times (least : Nat) (most : Option Nat) (greedy : Bool) (body : Expr) : Expr :=
  let (least, most) :=
    if body.isWidthless then (min least 1, some (min (most.getD 1) 1)) else (least, most)
  if least = 0 ∧ most = some 0 then empty
  else if least = 1 ∧ most = some 1 then body
  else repetition least most greedy body

/-- Put a part in front of parts that are already merged. -/
def consPart : Expr → List Expr → List Expr
  | empty, rest => rest
  | literal a, literal b :: rest => literal (a ++ b) :: rest
  | e, rest => e :: rest

/-- One sequence from parts: sequences among them are flattened and literals merged. -/
def sequence (parts : List Expr) : Expr :=
  let flat := parts.flatMap fun
    | concat es => es
    | e => [e]
  match flat.foldr consPart [] with
  | [] => empty
  | [e] => e
  | es => concat es

/-- The members of a branch that is a single character. -/
def singleRuns? : Expr → Option (List Run)
  | literal [c] => some [⟨c.toNat, c.toNat⟩]
  | _ => none

/-- The members of a branch that is a set, be it an empty one. -/
def setRuns? : Expr → Option (List Run)
  | set _ s => some s.runs
  | fail => some []
  | _ => none

/-- The members of all branches, if these are all single characters or all sets. -/
def mergedRuns? (branches : List Expr) : Option (List Run) :=
  ((branches.mapM singleRuns?).or (branches.mapM setRuns?)).map List.flatten

/-- The length of the common beginning of two lists of parts. -/
def commonLength : List Expr → List Expr → Nat
  | a :: as, b :: bs => if same a b then commonLength as bs + 1 else 0
  | _, _ => 0

/-- How many parts all branches begin with, each of which is a sequence of several parts. -/
def sharedLength? : List Expr → Option Nat
  | [] => none
  | e :: es => match e with
    | concat first => es.foldl (fun shared e => match shared, e with
        | some n, concat parts => some (min n (commonLength first parts))
        | _, _ => none) (some first.length)
    | _ => none

/-- Flatten alternatives among alternatives. -/
def flatBranches (branches : List Expr) : List Expr := branches.flatMap fun
  | alternation es => es
  | e => [e]

/-- One choice between branches, without looking at what they begin with. -/
def plainChoice (branches : List Expr) : Expr :=
  match flatBranches branches with
  | [] => fail
  | [e] => e
  | es => match mergedRuns? es with
    | some runs => ofSet .char (.ofRuns runs)
    | none => alternation es

/-- The parts of a branch after the first `n`, as one expression. -/
def remainder (n : Nat) : Expr → Expr
  | concat parts => sequence (parts.drop n)
  | e => e

/-- One choice between branches: characters become one set, as do sets, and a common beginning is taken
out, as often as the remainders have one again. -/
def choiceUpTo : Nat → List Expr → Expr
  | 0, branches => plainChoice branches
  | fuel + 1, branches =>
      match plainChoice branches with
      | alternation es => match sharedLength? es, es with
        | some (n + 1), concat parts :: _ =>
            sequence (parts.take (n + 1) ++ [choiceUpTo fuel (es.map (remainder (n + 1)))])
        | _, _ => alternation es
      | e => e

mutual

/-- The number of nodes of an expression. -/
def size : Expr → Nat
  | repetition _ _ _ body => size body + 1
  | capture _ body => size body + 1
  | concat parts => sizeAll parts + 1
  | alternation branches => sizeAll branches + 1
  | _ => 1

def sizeAll : List Expr → Nat
  | [] => 0
  | e :: es => size e + sizeAll es

end

/-- One choice between branches. -/
def choice (branches : List Expr) : Expr := choiceUpTo (sizeAll branches) branches

end Expr

end HealthRules.Pattern
