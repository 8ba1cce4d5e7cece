import HealthRules.Pattern.Layout

/-!
# Footprint — how much room the automata of an expression take

An expression is matched by a forward automaton over bytes, and a backward one finds where a match
begins. Counted repetitions multiply their states, so that a short pattern can ask for very much room. The
footprint of an expression is counted without building an automaton, and a pattern that needs too much room
is refused.

* `Expr.forwardLayout` and `Expr.backwardLayout`, both automata as a whole;
* `Footprint`, `Expr.footprint` and `Footprint.fits`.
-/

namespace HealthRules.Pattern

/-- The states of the forward and of the backward automaton. Where there is no room for all states, it is
enough to know that. -/
structure Footprint where
  forward : Tally
  backward : Tally
  deriving DecidableEq, Repr, Inhabited

namespace Footprint

/-- The states before an expression. Unless it is bound to an end of the text, they pass over what stands
before a match. -/
def lead (bound : Bool) : Layout :=
  if bound then .states 1 else .chain [.fork 2, .states 2 Tally.rangeSize]

def fits (f : Footprint) : Bool := f.forward.fits && f.backward.fits

end Footprint

namespace Expr

/-- The forward automaton: the expression as a group of its own, and a state for a match. -/
def forwardLayout (e : Expr) : Layout :=
  .chain [Footprint.lead e.startsText, Direction.forward.group (e.layout .forward), .states 1]

/-- The backward automaton: the expression, and a state for a match. -/
def backwardLayout (e : Expr) : Layout :=
  .chain [Footprint.lead e.endsText, e.layout .backward, .states 1]

def footprint (e : Expr) : Footprint :=
  { forward := e.forwardLayout.place {}, backward := e.backwardLayout.place {} }

end Expr

end HealthRules.Pattern
