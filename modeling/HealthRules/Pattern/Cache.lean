/-!
# Cache — compiled patterns kept for later use

Compiling a pattern takes time, so that the compiled patterns are kept. When there are too many of them
all are dropped, and the newest is the first to be kept again. It does not matter here in which language
the patterns are written.

* `PatternLanguage`;
* `PatternCache` and its `capacity`;
* `PatternCache.fetch`, which compiles a pattern unless it is kept.
-/

namespace HealthRules

/-- A language of patterns: how a text is compiled, what it matches then, and what is said if it is refused. -/
structure PatternLanguage where
  Compiled : Type
  Refusal : Type
  compile : String → Except Refusal Compiled
  isMatch : Compiled → String → Bool
  message : Refusal → String

/-- Compiled patterns by their text, the newest first. -/
structure PatternCache (L : PatternLanguage) where
  entries : List (String × L.Compiled) := []

namespace PatternCache

variable {L : PatternLanguage}

/-- How many patterns are kept at most. -/
def capacity : Nat := 256

def size (c : PatternCache L) : Nat := c.entries.length

def find? (c : PatternCache L) (pattern : String) : Option L.Compiled := c.entries.lookup pattern

def isFull (c : PatternCache L) : Bool := capacity ≤ c.size

/-- Keep a pattern; a full cache drops all others. -/
def insert (c : PatternCache L) (pattern : String) (r : L.Compiled) : PatternCache L :=
  ⟨(pattern, r) :: if c.isFull then [] else c.entries⟩

/-- What comes of asking for a pattern. -/
structure Fetched (L : PatternLanguage) where
  compiled : Except L.Refusal L.Compiled
  /-- The cache afterwards. -/
  cache : PatternCache L
  /-- How many patterns were dropped, if any were. -/
  dropped : Option Nat := none

/-- Look a pattern up, or compile it and keep it. A refused pattern leaves the cache as it is. -/
def fetch (c : PatternCache L) (pattern : String) : Fetched L :=
  match c.find? pattern with
  | some r => { compiled := .ok r, cache := c }
  | none => match L.compile pattern with
    | .error e => { compiled := .error e, cache := c }
    | .ok r => {
        compiled := .ok r
        cache := c.insert pattern r
        dropped := if c.isFull then some c.size else none }

end PatternCache

end HealthRules
