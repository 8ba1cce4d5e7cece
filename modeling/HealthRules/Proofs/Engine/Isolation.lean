import HealthRules.Proofs.Engine.Passes
import HealthRules.Proofs.Provider.Effects

/-!
# Isolation — passes among changes of the registry

An engine is used again and again, while providers come and go: between its passes, and in the middle of
them when providers register and deregister others. This module follows whole runs. In each pass only
those providers are tried that were registered when it began, and the next pass begins with all that has
been changed meanwhile.

* `Operation` and `Engine.performAll`, which make up a run;
* `Performed` and `Steps`, what a run does call by call;
* `performAll_run`: every run is such a run, and leaves all changes behind;
* `performAll_keeps`: what calls keep of the surroundings is kept.
-/

namespace HealthRules

variable {β ε α σ : Type}

/-! ## Operations -/

/-- What is done with an engine or with the registry that it uses. -/
inductive Operation (β ε α : Type) where
  | addRules (ds : List Definition)
  | addRule (r : Rule α)
  | evaluate
  | setUnreadableIsError (on : Bool)
  | change (c : Change β ε)

/-- What an operation gives back. -/
inductive Answer (α : Type) where
  | failures (es : List BuildError)
  | outcomes (os : List (Outcome α))
  | registered (id : ProviderId)
  | deregistered (found : Bool)
  | done

/-- Do something to the registry of a host. -/
def Host.change [Named β] [Named ε] : Change β ε → HostM β ε σ (Answer α)
  | .addBuilder b => do return .registered (← Host.registerBuilder b)
  | .addEvaluator e => do return .registered (← Host.registerEvaluator e)
  | .remove id => do return .deregistered (← Host.deregister id)

theorem Host.change_host [Named β] [Named ε] (c : Change β ε) (h : Host β ε σ) :
    ((Host.change (α := α) c).run h).2.registry = h.registry.change c ∧
      ((Host.change (α := α) c).run h).2.surroundings = h.surroundings := by
  cases c with
  | addBuilder b => exact ⟨rfl, rfl⟩
  | addEvaluator e => exact ⟨rfl, rfl⟩
  | remove id => exact Host.deregister_host id h

namespace Engine

variable [Named β] [Named ε] [Named α]

/-- Carry out one operation. -/
def perform (B : Behaviour β ε α σ) (e : Engine α) :
    Operation β ε α → HostM β ε σ (Engine α × Answer α)
  | .addRules ds => do
      let (e', failures) ← e.addRules B ds
      return (e', .failures failures)
  | .addRule r => return (e.addRule r, .done)
  | .evaluate => do return (e, .outcomes (← e.evaluate B))
  | .setUnreadableIsError on => return ({ e with unreadableIsError := on }, .done)
  | .change c => do return (e, ← Host.change c)

/-- Carry out operations one after another. -/
def performAll (B : Behaviour β ε α σ) (e : Engine α) :
    List (Operation β ε α) → HostM β ε σ (Engine α × List (Answer α))
  | [] => return (e, [])
  | o :: os => do
      let (e', answer) ← e.perform B o
      let (e'', answers) ← e'.performAll B os
      return (e'', answer :: answers)

end Engine

/-! ## Runs -/

/-- What happened in one operation: the calls that were made, and what was given back. -/
structure Step (β ε α σ : Type) where
  operation : Operation β ε α
  calls : List (Call β ε α σ)
  answer : Answer α

/-- What a step did to the registry: its own change, or the changes that its calls made. -/
def Step.changes (effects : Call β ε α σ → List (Change β ε)) (s : Step β ε α σ) :
    List (Change β ε) :=
  match s.operation with
  | .change c => [c]
  | _ => s.calls.flatMap effects

/-- A step from an engine and a host to an engine and a host. A pass uses the providers of the host on which
it begins, for all of its items. -/
inductive Performed [Named ε] (B : Behaviour β ε α σ) (e : Engine α) (h : Host β ε σ) :
    Step β ε α σ → Engine α → Host β ε σ → Prop where
  | addRules {ds : List Definition} {items : List (Item β ε α σ (BuildOutcome α))} {h' : Host β ε σ}
      (hitems : BuiltItems B h.registry.builders ds items)
      (hchain : Chain B h (items.flatMap (·.calls)) h') :
      Performed B e h
        ⟨.addRules ds, items.flatMap (·.calls), .failures (BuildOutcome.failures (items.map (·.outcome)))⟩
        { e with rules := e.rules ++ BuildOutcome.rules (items.map (·.outcome)) } h'
  | addRule {r : Rule α} : Performed B e h ⟨.addRule r, [], .done⟩ (e.addRule r) h
  | evaluate {items : List (Item β ε α σ (Outcome α))} {h' : Host β ε σ}
      (hitems : EvaluatedItems B e.unreadableIsError h.registry.evaluators e.rules items)
      (hchain : Chain B h (items.flatMap (·.calls)) h') :
      Performed B e h
        ⟨.evaluate, items.flatMap (·.calls), .outcomes (items.map (·.outcome))⟩ e h'
  | setUnreadableIsError {on : Bool} :
      Performed B e h ⟨.setUnreadableIsError on, [], .done⟩ { e with unreadableIsError := on } h
  | change {c : Change β ε} {answer : Answer α} {h' : Host β ε σ}
      (hregistry : h'.registry = h.registry.change c)
      (hsurroundings : h'.surroundings = h.surroundings) :
      Performed B e h ⟨.change c, [], answer⟩ e h'

/-- Steps one after another: each begins with the engine and the host that the one before it left. -/
inductive Steps [Named ε] (B : Behaviour β ε α σ) :
    Engine α → Host β ε σ → List (Step β ε α σ) → Engine α → Host β ε σ → Prop where
  | nil {e : Engine α} {h : Host β ε σ} : Steps B e h [] e h
  | cons {e e' e'' : Engine α} {h h' h'' : Host β ε σ} {s : Step β ε α σ}
      {steps : List (Step β ε α σ)} (hstep : Performed B e h s e' h')
      (hrest : Steps B e' h' steps e'' h'') : Steps B e h (s :: steps) e'' h''

theorem Performed.registry_eq [Named ε] {B : Behaviour β ε α σ} {e e' : Engine α}
    {h h' : Host β ε σ} {s : Step β ε α σ} {effects : Call β ε α σ → List (Change β ε)}
    (hs : Performed B e h s e' h') (heffects : Effects B effects) :
    h'.registry = h.registry.changeAll (s.changes effects) := by
  cases hs with
  | addRules _ hchain => exact hchain.registry_eq heffects
  | addRule => rfl
  | evaluate _ hchain => exact hchain.registry_eq heffects
  | setUnreadableIsError => rfl
  | change hregistry _ => exact hregistry

theorem Performed.keeps [Named ε] {B : Behaviour β ε α σ} {e e' : Engine α} {h h' : Host β ε σ}
    {s : Step β ε α σ} {Known : σ → Prop}
    (hcalls : ∀ c : Call β ε α σ, Known c.host.surroundings → Known (c.after B).surroundings)
    (hs : Performed B e h s e' h') (hknown : Known h.surroundings) : Known h'.surroundings := by
  cases hs with
  | addRules _ hchain => exact hchain.keeps hcalls hknown
  | addRule => exact hknown
  | evaluate _ hchain => exact hchain.keeps hcalls hknown
  | setUnreadableIsError => exact hknown
  | change _ hsurroundings => exact hsurroundings ▸ hknown

theorem Steps.registry_eq [Named ε] {B : Behaviour β ε α σ} {e e' : Engine α} {h h' : Host β ε σ}
    {steps : List (Step β ε α σ)} {effects : Call β ε α σ → List (Change β ε)}
    (hrun : Steps B e h steps e' h') (heffects : Effects B effects) :
    h'.registry = h.registry.changeAll (steps.flatMap (·.changes effects)) := by
  induction hrun with
  | nil => rfl
  | cons hstep _ ih => rw [ih, hstep.registry_eq heffects, List.flatMap_cons, Registry.changeAll_append]

section Runs

variable [Named β] [Named ε] [Named α]

/-- Every operation is a step. -/
theorem perform_step (B : Behaviour β ε α σ) (e : Engine α) (h : Host β ε σ)
    (o : Operation β ε α) :
    ∃ calls, Performed B e h ⟨o, calls, ((e.perform B o).run h).1.2⟩
      ((e.perform B o).run h).1.1 ((e.perform B o).run h).2 := by
  cases o with
  | addRules ds =>
      rcases addRules_pass B e ds h with ⟨items, hitems, hresult, hchain⟩
      refine ⟨items.flatMap (·.calls), ?_⟩
      simp only [Engine.perform, HostM.run_bind, HostM.run_pure, hresult]
      exact .addRules hitems hchain
  | addRule r => exact ⟨[], .addRule⟩
  | evaluate =>
      rcases evaluate_pass B e h with ⟨items, hitems, hresult, hchain⟩
      refine ⟨items.flatMap (·.calls), ?_⟩
      simp only [Engine.perform, HostM.run_bind, HostM.run_pure, hresult]
      exact .evaluate hitems hchain
  | setUnreadableIsError on => exact ⟨[], .setUnreadableIsError⟩
  | change c =>
      rcases Host.change_host (α := α) c h with ⟨hregistry, hsurroundings⟩
      exact ⟨[], .change hregistry hsurroundings⟩

/-- What every call keeps of the surroundings is kept in a whole run, since nothing else changes them. -/
theorem performAll_keeps {B : Behaviour β ε α σ} {Known : σ → Prop}
    (hcalls : ∀ c : Call β ε α σ, Known c.host.surroundings → Known (c.after B).surroundings)
    (e : Engine α) {h : Host β ε σ} (hknown : Known h.surroundings) (os : List (Operation β ε α)) :
    Known ((e.performAll B os).run h).2.surroundings := by
  induction os generalizing e h with
  | nil => exact hknown
  | cons o os ih =>
      rcases perform_step B e h o with ⟨calls, hstep⟩
      exact ih _ (hstep.keeps hcalls hknown)

/-- Whatever providers do when they are called, a pass tries for every item those that were registered when it began, in
their order and up to the first that takes it. -/
theorem performAll_run (B : Behaviour β ε α σ) (e : Engine α) (h : Host β ε σ)
    (os : List (Operation β ε α)) :
    ∃ steps, Steps B e h steps ((e.performAll B os).run h).1.1 ((e.performAll B os).run h).2 ∧
      steps.map (·.operation) = os ∧
      steps.map (·.answer) = ((e.performAll B os).run h).1.2 ∧
      ∀ effects, Effects B effects →
        ((e.performAll B os).run h).2.registry =
          h.registry.changeAll (steps.flatMap (·.changes effects)) := by
  induction os generalizing e h with
  | nil => exact ⟨[], .nil, rfl, rfl, fun _ _ => rfl⟩
  | cons o os ih =>
      -- The induction hypothesis speaks of the engine and the host that the first operation leaves.
      rcases perform_step B e h o with ⟨calls, hstep⟩
      rcases ih ((e.perform B o).run h).1.1 ((e.perform B o).run h).2 with
        ⟨steps, hrun, hos, hanswers, _⟩
      have hall : Steps B e h (⟨o, calls, ((e.perform B o).run h).1.2⟩ :: steps)
          ((e.performAll B (o :: os)).run h).1.1 ((e.performAll B (o :: os)).run h).2 :=
        .cons hstep hrun
      refine ⟨_, hall, ?_, ?_, fun effects heffects => hall.registry_eq heffects⟩
      · rw [List.map_cons, hos]
      · rw [List.map_cons, hanswers]
        rfl

end Runs

/-- A host without any provider. -/
def bareHost : ProviderHost :=
  ⟨.empty 0, { environment := {}, facts := ⟨"", "", "", .ok 1, 1⟩ }, []⟩

/-- A builder that removes itself, and one that installs another each time: two passes for the same four
definitions, and then a pass of evaluating. -/
def comingsAndGoings : List (Operation Builder Evaluator Attribute) :=
  let given : Builder := .giving "given" { scope := some "test" } none (.fixed (.ok (.bool true)))
  let ds : List Definition := ["leave", "leave", "open", "test"].map (.unplaced · "x" "true" none)
  [.change (.addBuilder (.removing "leaving" { scope := some "leave" } 1)),
    .change (.addBuilder (.installing "opening" { scope := some "open" } given)),
    .addRules ds, .addRules ds, .evaluate]

/-- In the first pass the leaving builder builds twice, and the installed one is not tried. -/
theorem performAll_run_comingsAndGoings :
    let run := (Engine.performAll providers {} comingsAndGoings).run bareHost
    Effects providers providerEffects ∧
      (∃ steps, Steps providers {} bareHost steps run.1.1 run.2 ∧
        steps.map (·.operation) = comingsAndGoings ∧
        run.2.registry = bareHost.registry.changeAll (steps.flatMap (·.changes providerEffects))) ∧
      run.1.1.rules.map (·.subject.label) = ["removed", "removed", "builders", "builders", "x"] ∧
      run.2.registry.builderNames = ["opening", "given", "given"] := by
  refine ⟨providers_effects, ?_, by decide +kernel, by decide +kernel⟩
  rcases performAll_run providers {} bareHost comingsAndGoings with
    ⟨steps, hsteps, hos, _, hregistry⟩
  exact ⟨steps, hsteps, hos, hregistry providerEffects providers_effects⟩

end HealthRules
