import HealthRules.Proofs.Engine.Calls
import HealthRules.Provider.Basic

/-!
# Effects — what the library's providers do to the registry

Most providers leave the registry alone. The host's own builders and evaluators may register or deregister
providers when they are called, and they do nothing else to it.

* `Builder.changes` and `Evaluator.changes`, by kind of provider;
* `providers_effects`: these are all the changes that calls make;
* `call_elsewhere`: other registries are left alone.
-/

namespace HealthRules

/-- What a builder does to the registry when it is asked about a definition. -/
def Builder.changes (d : Definition) : Builder → List (Change Builder Evaluator)
  | .installing _ claim b => if claim.admits d then [.addBuilder b] else []
  | .removing _ claim number => if claim.admits d then [.remove ⟨number⟩] else []
  | _ => []

/-- What an evaluator does to the registry when it is used, `used` being the evaluators that have been used
before. -/
def Evaluator.changes (used : List ProviderId) (e : Entry Evaluator) :
    List (Change Builder Evaluator) :=
  match e.provider with
  | .standard _ => []
  | .scripted _ _ _ installs removes =>
      if used.contains e.id then []
      else installs.toList.map .addEvaluator ++ removes.toList.map fun number => .remove ⟨number⟩

/-- What a call does to the registry. -/
def providerEffects (c : Call Builder Evaluator Attribute Surroundings) :
    List (Change Builder Evaluator) :=
  match c.ask with
  | .build b d => b.provider.changes d
  | .evaluate e _ => Evaluator.changes c.host.surroundings.used e
  | .accepts .. => []
  | .read _ => []

/-- A builder may change the registry, and leaves the surroundings as they are. -/
theorem build_host (b : Builder) (d : Definition) (h : ProviderHost) :
    ((b.build d).run h).2.registry = h.registry.changeAll (b.changes d) ∧
      ((b.build d).run h).2.surroundings = h.surroundings := by
  cases b with
  | introspection serial => exact ⟨rfl, rfl⟩
  | environment allow => exact ⟨rfl, rfl⟩
  | system => exact ⟨rfl, rfl⟩
  | declining label => exact ⟨rfl, rfl⟩
  | giving label claim subject source =>
      simp only [Builder.build, Builder.changes]
      split <;> exact ⟨rfl, rfl⟩
  -- The two that change the registry do so only for definitions that they claim.
  | installing label claim builder =>
      simp only [Builder.build, Builder.changes]
      split <;> exact ⟨rfl, rfl⟩
  | removing label claim number =>
      simp only [Builder.build, Builder.changes]
      split
      · rw [HostM.run_bind]
        exact Host.deregister_host ⟨number⟩ _
      · exact ⟨rfl, rfl⟩

theorem decideBy_host {β ε σ : Type} (judge : Except EvaluationError Judge)
    (read : HostM β ε σ Reading) (hread : ∀ h, (read.run h).2 = h) (h : Host β ε σ) :
    ((decideBy judge read).run h).2 = h := by
  cases judge with
  | error e => rfl
  | ok judge => exact hread h

theorem read_host {β ε : Type} (a : Attribute) (h : Host β ε Surroundings) :
    (a.read.run h).2 = h := rfl

/-- An evaluator of the library remembers patterns, and that is all. -/
theorem evaluateStandard_host {β ε : Type} (id : ProviderId) (kind : StandardEvaluator)
    (a : Attribute) (expression : String) (h : Host β ε Surroundings) :
    let h' := ((Evaluator.evaluateStandard id kind a expression).run h).2
    h'.registry = h.registry ∧ ∃ caches, h'.surroundings = { h.surroundings with caches } := by
  simp only [Evaluator.evaluateStandard, HostM.run_bind]
  rw [decideBy_host _ _ (read_host a)]
  exact ⟨rfl, _, rfl⟩

theorem pronounce_host {β ε : Type} (a : Attribute) (expression : String) (v : Verdict)
    (h : Host β ε Surroundings) : ((Evaluator.pronounce a expression v).run h).2 = h := by
  cases v with
  | status s => rfl
  | invalidExpression => rfl
  | notNumeric => exact decideBy_host _ _ (read_host a) h
  | unreadable => rfl

/-- At its first use an evaluator may change the registry, and that it has been used is noted. -/
theorem firstUse_host (e : Entry Evaluator) {label : String} {acceptance : Acceptance}
    {verdict : Verdict} {installs : Option Evaluator} {removes : Option Nat}
    (he : e.provider = .scripted label acceptance verdict installs removes) (h : ProviderHost) :
    let h' := ((Evaluator.firstUse e.id installs removes).run h).2
    h'.registry = h.registry.changeAll (Evaluator.changes h.surroundings.used e) ∧
      ∃ used, h'.surroundings = { h.surroundings with used } := by
  cases hused : h.surroundings.used.contains e.id with
  | true =>
      simp only [Evaluator.firstUse, Evaluator.changes, he, HostM.run_bind, HostM.run_get, hused]
      exact ⟨rfl, h.surroundings.used, rfl⟩
  | false =>
      simp only [Evaluator.firstUse, Evaluator.changes, he, HostM.run_bind, HostM.run_get, hused]
      cases removes with
      | none => cases installs <;> exact ⟨rfl, e.id :: h.surroundings.used, rfl⟩
      | some number =>
          have hremove := fun h' : ProviderHost => Host.deregister_host ⟨number⟩ h'
          cases installs <;> exact ⟨(hremove _).1, e.id :: h.surroundings.used, (hremove _).2⟩

theorem evaluate_registry (e : Entry Evaluator) (a : Attribute) (expression : String)
    (h : ProviderHost) : ((Evaluator.evaluate e a expression).run h).2.registry =
      h.registry.changeAll (Evaluator.changes h.surroundings.used e) := by
  cases he : e.provider with
  | standard kind =>
      simp only [Evaluator.evaluate, he, Evaluator.changes]
      exact (evaluateStandard_host e.id kind a expression h).1
  | scripted label acceptance verdict installs removes =>
      simp only [Evaluator.evaluate, he, HostM.run_bind]
      rw [pronounce_host]
      exact (firstUse_host e he h).1

/-- The providers of the library do nothing else to the registry than is described. -/
theorem providers_effects : Effects providers providerEffects := by
  intro c
  cases c with
  | mk ask h =>
      cases ask with
      | build b d => exact (build_host b.provider d h).1
      | accepts e r => rfl
      | evaluate e r => exact evaluate_registry e r.subject r.expression h
      | read r => rfl

/-- No call of the library's providers does anything to other registries. -/
theorem call_elsewhere (c : Call Builder Evaluator Attribute Surroundings) :
    (c.after providers).surroundings.elsewhere = c.host.surroundings.elsewhere := by
  rcases c with ⟨ask, h⟩
  cases ask with
  | build b d => exact congrArg (·.elsewhere) (build_host b.provider d h).2
  | accepts e r => rfl
  | evaluate e r =>
      cases he : e.provider with
      | standard kind =>
          rcases (evaluateStandard_host e.id kind r.subject r.expression h).2 with ⟨caches, hcaches⟩
          simp only [Call.after, providers, Evaluator.evaluate, he]
          rw [hcaches]
      | scripted label acceptance verdict installs removes =>
          rcases (firstUse_host e he h).2 with ⟨used, hused⟩
          simp only [Call.after, providers, Evaluator.evaluate, he, HostM.run_bind]
          rw [pronounce_host, hused]
  | read r => rfl

end HealthRules
