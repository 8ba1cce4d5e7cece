import HealthRules.Proofs.Engine.Isolation
import HealthRules.Proofs.Provider.Answers

/-!
# Memory — what calls leave of the surroundings

Providers do little to their surroundings. Builders and attributes leave them as they are; evaluators remember
patterns, and which of them have been used. So whatever is done with an engine and its registry, environment,
facts and cells stay, and patterns are remembered right.

* `call_recalls`, for one call of any provider;
* `performAll_recalls`, for whole runs.
-/

namespace HealthRules

variable {s : Surroundings}

theorem evaluateStandard_recalls (id : ProviderId) (kind : StandardEvaluator) (a : Attribute)
    (expression : String) {h : ProviderHost} (hs : s.Recalls h.surroundings) :
    s.Recalls ((Evaluator.evaluateStandard id kind a expression).run h).2.surroundings := by
  have hsettled : Settled h.registry s.Recalls h := ⟨rfl, hs⟩
  exact (evaluateStandard_settles id kind a expression h hsettled).2.known

/-- Whoever is called: the surroundings are as before but for what evaluators remember. -/
theorem call_recalls (c : Call Builder Evaluator Attribute Surroundings)
    (hs : s.Recalls c.host.surroundings) : s.Recalls (c.after providers).surroundings := by
  rcases c with ⟨ask, h⟩
  cases ask with
  | build b d =>
      have hsame := (build_host b.provider d h).2
      exact hsame.symm ▸ hs
  | accepts e r => exact hs
  | evaluate e r =>
      cases he : e.provider with
      | standard kind =>
          have hevaluate := evaluateStandard_recalls e.id kind r.subject r.expression hs
          simpa only [Call.after, providers, Evaluator.evaluate, he] using hevaluate
      | scripted label acceptance verdict installs removes =>
          -- What has been used is no part of what is recalled.
          rcases (firstUse_host e he h).2 with ⟨used, hused⟩
          have hnoted : s.Recalls { h.surroundings with used } :=
            ⟨hs.environment, hs.facts, hs.cells, hs.elsewhere, hs.caches⟩
          simp only [Call.after, providers, Evaluator.evaluate, he, HostM.run_bind]
          rw [pronounce_host, hused]
          exact hnoted
  | read r => exact hs

/-- In every run of an engine the world stays as it is, and no evaluator remembers a pattern wrong. -/
theorem performAll_recalls (e : Engine Attribute) {h : ProviderHost} (hs : s.Recalls h.surroundings)
    (os : List (Operation Builder Evaluator Attribute)) :
    s.Recalls ((e.performAll providers os).run h).2.surroundings :=
  performAll_keeps call_recalls e hs os

end HealthRules
