import HealthRules.Engine.Basic
import HealthRules.Proofs.Engine.Choosing

/-!
# Judging — who decides about a rule, and what

An outcome is made from a decision, and only there does it matter whether what cannot be read counts as an
error. All before that, dispatching rules and deciding them, is the same in both modes: this module does it
on its own, and compares the outcomes that both modes make of it.

* `Judgement`, with `Behaviour.judgeOne` and `Behaviour.judgeEach`;
* `evaluate_judged`: a pass of evaluating makes outcomes of judgements;
* `Judgement.Shown`: what shows of a judgement in either mode.
-/

namespace HealthRules

variable {β ε α σ : Type}

/-- Who decided about a rule, and what. -/
structure Judgement (ε α : Type) where
  rule : Rule α
  evaluator : Candidate ε
  decision : Decision

namespace Judgement

/-- The evaluator could not read the attribute. -/
def IsUnreadable (j : Judgement ε α) : Prop := ∃ e, j.decision = .error (.unreadable e)

/-- The outcome of a judgement. -/
def outcome [Named ε] (unreadableIsError : Bool) (j : Judgement ε α) : Outcome α :=
  .ofDecision unreadableIsError (name j.evaluator) j.rule j.decision

/-- The outcomes that both modes make of a judgement. -/
structure Shown (j : Judgement ε α) (lax strict : Outcome α) : Prop where
  lax_rule : lax.rule = j.rule
  strict_rule : strict.rule = j.rule
  message : strict.message = lax.message
  status_ne_iff : strict.status ≠ lax.status ↔ j.IsUnreadable
  statuses : j.IsUnreadable → lax.status = .warn ∧ strict.status = .error

theorem shown [Named ε] (j : Judgement ε α) : j.Shown (j.outcome false) (j.outcome true) := by
  -- The mode is looked at for one decision alone.
  rcases j with ⟨r, evaluator, decision⟩
  refine ⟨rfl, rfl, rfl, ?_, ?_⟩
  · cases decision with
    | ok status => simp [outcome, Outcome.ofDecision, Outcome.statusOf, IsUnreadable]
    | error e => cases e <;> simp [outcome, Outcome.ofDecision, Outcome.statusOf, IsUnreadable]
  · rintro ⟨e, rfl⟩
    exact ⟨rfl, rfl⟩

end Judgement

/-! ## Passes -/

namespace Behaviour

variable [Named ε] [Named α]

/-- Choose an evaluator for a rule, and let it decide. -/
def judgeOne (B : Behaviour β ε α σ) (evaluators : List (Entry ε)) (r : Rule α) :
    HostM β ε σ (Judgement ε α) := do
  let chosen ← B.choose r evaluators
  Host.tell (.dispatched r.render (name chosen))
  return ⟨r, chosen, ← B.decide r chosen⟩

/-- Judge rules one after the other. -/
def judgeEach (B : Behaviour β ε α σ) (evaluators : List (Entry ε)) :
    List (Rule α) → HostM β ε σ (List (Judgement ε α))
  | [] => return []
  | r :: rs => do
      let judgement ← B.judgeOne evaluators r
      return judgement :: (← B.judgeEach evaluators rs)

end Behaviour

variable [Named ε] [Named α]

theorem judgeEach_rules (B : Behaviour β ε α σ) (evaluators : List (Entry ε))
    (rs : List (Rule α)) (h : Host β ε σ) :
    ((B.judgeEach evaluators rs).run h).1.map (·.rule) = rs := by
  induction rs generalizing h with
  | nil => rfl
  | cons r rs ih =>
      have hrest := ih ((B.judgeOne evaluators r).run h).2
      rw [Behaviour.judgeEach, HostM.run_bind, HostM.run_bind, HostM.run_pure, List.map_cons, hrest]
      rfl

theorem evaluateOne_judged (B : Behaviour β ε α σ) (unreadableIsError : Bool)
    (registry : Registry β ε) (r : Rule α) (h : Host β ε σ) :
    let judging := (B.judgeOne registry.evaluators r).run h
    (B.evaluateOne unreadableIsError registry.candidates r).run h =
      (judging.1.outcome unreadableIsError, judging.2) := by
  rw [evaluateOne_candidates]
  rfl

/-- The mode has no part in what happens to the host. -/
theorem evaluateEach_judged (B : Behaviour β ε α σ) (unreadableIsError : Bool)
    (registry : Registry β ε) (rs : List (Rule α)) (h : Host β ε σ) :
    let judging := (B.judgeEach registry.evaluators rs).run h
    (B.evaluateEach unreadableIsError registry.candidates rs).run h =
      (judging.1.map (·.outcome unreadableIsError), judging.2) := by
  induction rs generalizing h with
  | nil => rfl
  | cons r rs ih =>
      have hrest := ih ((B.judgeOne registry.evaluators r).run h).2
      rw [Behaviour.evaluateEach, HostM.run_bind, evaluateOne_judged, HostM.run_bind, HostM.run_pure, hrest]
      rfl

/-- A pass of evaluating makes outcomes of judgements, and only tells something beside that. -/
theorem evaluate_judged (B : Behaviour β ε α σ) (e : Engine α) (h : Host β ε σ) :
    let judging := (B.judgeEach h.registry.evaluators e.rules).run h
    ((e.evaluate B).run h).1 = judging.1.map (·.outcome e.unreadableIsError) ∧
      Alike judging.2 ((e.evaluate B).run h).2 := by
  have heach := evaluateEach_judged B e.unreadableIsError h.registry e.rules h
  rw [Engine.evaluate, Behaviour.evaluateAll, HostM.run_bind, HostM.run_get, HostM.run_bind, heach]
  exact ⟨rfl, Alike.tell _ _⟩

/-- A pass of evaluating gives one outcome for each rule, in order. -/
theorem evaluate_rules (B : Behaviour β ε α σ) (e : Engine α) (h : Host β ε σ) :
    ((e.evaluate B).run h).1.map (·.rule) = e.rules := by
  rw [(evaluate_judged B e h).1, List.map_map]
  exact judgeEach_rules B h.registry.evaluators e.rules h

end HealthRules
