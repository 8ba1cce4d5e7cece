import HealthRules.Engine.Host
import HealthRules.Engine.Outcome

/-!
# Evaluating — from rules to outcomes

Every rule of a pass is dispatched to the first evaluator that accepts its expression, among those that
were registered when the pass began; the fallback accepts all. Each rule has exactly one outcome.

* `Behaviour.dispatch` and `Behaviour.decide`, for one rule;
* `Behaviour.evaluateAll`, for a pass.
-/

namespace HealthRules.Behaviour

variable {β ε α σ : Type}

/-- The first candidate that accepts an expression, if there is one. -/
def dispatch (B : Behaviour β ε α σ) (r : Rule α) :
    List (Candidate ε) → HostM β ε σ (Option (Candidate ε))
  | [] => return none
  | .fallback :: _ => return some .fallback
  | .registered e :: rest => do
      if ← B.accepts e r.subject r.expression then return some (.registered e)
      else B.dispatch r rest

/-- Let a candidate decide a rule. The fallback compares texts. -/
def decide (B : Behaviour β ε α σ) (r : Rule α) : Candidate ε → HostM β ε σ Decision
  | .registered e => B.evaluate e r.subject r.expression
  | .fallback => decideBy (.ok (textuallyEqual r.expression)) (B.read r.subject)

variable [Named ε] [Named α]

/-- Evaluate one rule. -/
def evaluateOne (B : Behaviour β ε α σ) (unreadableIsError : Bool) (candidates : List (Candidate ε))
    (r : Rule α) : HostM β ε σ (Outcome α) := do
  match ← B.dispatch r candidates with
  | none => return ⟨r, .error, "no evaluator accepts the expression"⟩
  | some chosen =>
      Host.tell (.dispatched r.render (name chosen))
      let decision ← B.decide r chosen
      return .ofDecision unreadableIsError (name chosen) r decision

/-- Evaluate rules one after the other. -/
def evaluateEach (B : Behaviour β ε α σ) (unreadableIsError : Bool)
    (candidates : List (Candidate ε)) : List (Rule α) → HostM β ε σ (List (Outcome α))
  | [] => return []
  | r :: rs => do
      let outcome ← B.evaluateOne unreadableIsError candidates r
      return outcome :: (← B.evaluateEach unreadableIsError candidates rs)

/-- Evaluate rules with the evaluators that are registered now. -/
def evaluateAll (B : Behaviour β ε α σ) (unreadableIsError : Bool) (rs : List (Rule α)) :
    HostM β ε σ (List (Outcome α)) := do
  let candidates := (← get).registry.candidates
  let outcomes ← B.evaluateEach unreadableIsError candidates rs
  Host.tell (.rulesEvaluated outcomes.length (Outcome.worst outcomes))
  return outcomes

end HealthRules.Behaviour
