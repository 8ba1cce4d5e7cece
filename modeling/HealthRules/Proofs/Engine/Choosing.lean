import HealthRules.Engine.Evaluating
import HealthRules.Proofs.Engine.Calls

/-!
# Choosing — every rule of a pass finds an evaluator

Candidates need not accept a rule, and then its outcome says that no evaluator does. A registry puts the
fallback behind all others, so that this never happens with its candidates: some evaluator is chosen.

* `Behaviour.choose`, the choice among registered evaluators and the fallback;
* `dispatch_candidates` and `evaluateOne_candidates`: the candidates of a registry come to such a choice.
-/

namespace HealthRules

variable {β ε α σ : Type}

/-- The first of some evaluators that accepts a rule's expression, or else the fallback. -/
def Behaviour.choose (B : Behaviour β ε α σ) (r : Rule α) :
    List (Entry ε) → HostM β ε σ (Candidate ε)
  | [] => return .fallback
  | e :: rest => do
      if ← B.accepts e r.subject r.expression then return .registered e
      else B.choose r rest

/-- The candidates of a registry are never at a loss. -/
theorem dispatch_candidates (B : Behaviour β ε α σ) (registry : Registry β ε) (r : Rule α) :
    B.dispatch r registry.candidates = some <$> B.choose r registry.evaluators := by
  unfold Registry.candidates
  induction registry.evaluators with
  | nil => rfl
  | cons e rest ih =>
      rw [List.map_cons, List.cons_append, Behaviour.dispatch, Behaviour.choose, map_bind, ih]
      refine bind_congr fun accepted => ?_
      cases accepted with
      | true => rfl
      | false => rfl

/-- So a rule is given to the evaluator that is chosen. -/
theorem evaluateOne_candidates [Named ε] [Named α] (B : Behaviour β ε α σ) (unreadableIsError : Bool)
    (registry : Registry β ε) (r : Rule α) :
    B.evaluateOne unreadableIsError registry.candidates r = do
      let chosen ← B.choose r registry.evaluators
      Host.tell (.dispatched r.render (name chosen))
      let decision ← B.decide r chosen
      return .ofDecision unreadableIsError (name chosen) r decision := by
  rw [Behaviour.evaluateOne, dispatch_candidates, bind_map_left]

end HealthRules
