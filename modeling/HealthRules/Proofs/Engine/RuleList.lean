import HealthRules.Proofs.Engine.Steady
import HealthRules.Proofs.Provider.Memory

/-!
# RuleList — the rules of an engine through whole runs

An engine is used in any order: batches and single rules are added, rules are evaluated, the mode is switched,
and providers come and go. Rules only ever come behind those that are there. What has been built is kept, also
when its builder is gone, and evaluating takes one rule after another as if it were alone.

* `Operation.brings` and `Engine.brought`, the rules that operations bring;
* `perform_rules`, one operation, and `performAll_rules`, a run of them;
* `SteadyBuilders.addRules_append` and `SteadyJudges.evaluate_alone`, for providers without side effects;
* `performAll_ruleList`: the list of rules after a run, and what passes do from there.
-/

namespace HealthRules

variable {β ε α σ : Type} [Named β] [Named ε] [Named α]

/-! ## What operations bring -/

/-- The rules that an operation brings: the one that is given, or those that are built. -/
def Operation.brings (B : Behaviour β ε α σ) (h : Host β ε σ) : Operation β ε α → List (Rule α)
  | addRules ds => BuildOutcome.rules ((B.buildAll ds).run h).1
  | addRule r => [r]
  | evaluate => []
  | setUnreadableIsError _ => []
  | change _ => []

/-- The rules that each operation of a run brings, on the host that the one before it leaves. -/
def Engine.brought (B : Behaviour β ε α σ) (e : Engine α) :
    List (Operation β ε α) → Host β ε σ → List (List (Rule α))
  | [], _ => []
  | o :: os, h =>
      let run := (e.perform B o).run h
      o.brings B h :: run.1.1.brought B os run.2

variable (B : Behaviour β ε α σ) (e : Engine α) (h : Host β ε σ)

/-- What an operation brings comes behind all rules. -/
theorem perform_rules (o : Operation β ε α) :
    ((e.perform B o).run h).1.1.rules = e.rules ++ o.brings B h := by
  cases o with
  | addRules ds => rfl
  | addRule r => rfl
  -- The other operations bring nothing.
  | evaluate => exact (List.append_nil e.rules).symm
  | setUnreadableIsError on => exact (List.append_nil e.rules).symm
  | change c => exact (List.append_nil e.rules).symm

theorem performAll_rules (os : List (Operation β ε α)) :
    ((e.performAll B os).run h).1.1.rules = e.rules ++ (e.brought B os h).flatten := by
  induction os generalizing e h with
  | nil => exact (List.append_nil e.rules).symm
  | cons o os ih =>
      let run := (e.perform B o).run h
      calc
        ((e.performAll B (o :: os)).run h).1.1.rules
            = ((run.1.1.performAll B os).run run.2).1.1.rules := rfl
        _ = run.1.1.rules ++ (run.1.1.brought B os run.2).flatten := ih run.1.1 run.2
        _ = (e.rules ++ o.brings B h) ++ (run.1.1.brought B os run.2).flatten := by
              rw [perform_rules B e h o]
        _ = e.rules ++ (e.brought B (o :: os) h).flatten := List.append_assoc _ _ _

/-- A run can be interrupted anywhere. -/
theorem performAll_append (os os' : List (Operation β ε α)) :
    ((e.performAll B (os ++ os')).run h).1.1 =
      let run := (e.performAll B os).run h
      ((run.1.1.performAll B os').run run.2).1.1 := by
  induction os generalizing e h with
  | nil => rfl
  | cons o os ih => exact ih ((e.perform B o).run h).1.1 ((e.perform B o).run h).2

/-! ## Passes without side effects -/

section Steady

variable {B} {registry : Registry β ε} {Known : σ → Prop} {A : Answers β ε α} {h}

omit [Named ε] [Named α] in
/-- A batch may be split. -/
theorem SteadyBuilders.addRules_append (hB : SteadyBuilders B registry Known A)
    (hs : Settled registry Known h) (ds ds' : List Definition) :
    let whole := (e.addRules B (ds ++ ds')).run h
    let first := (e.addRules B ds).run h
    let second := (first.1.1.addRules B ds').run first.2
    whole.1 = (second.1.1, first.1.2 ++ second.1.2) := by
  intro whole first second
  -- The second part is built on the host that the first part leaves, which is settled as well.
  rcases hB.addRules_run e ds h hs with ⟨hfirst, hs'⟩
  have hwhole := (hB.addRules_run e (ds ++ ds') h hs).1
  have hsecond := (hB.addRules_run first.1.1 ds' first.2 hs').1
  rw [hwhole, hsecond, hfirst]
  simp only [List.map_append, BuildOutcome.rules, BuildOutcome.failures, List.filterMap_append,
    List.append_assoc]

omit [Named β] in
/-- No rule shows in what becomes of another. -/
theorem SteadyJudges.evaluate_alone (hB : SteadyJudges B registry Known A)
    (hs : Settled registry Known h) :
    ((e.evaluate B).run h).1.map ([·]) =
      e.rules.map fun r => ((({ e with rules := [r] } : Engine α).evaluate B).run h).1 := by
  -- The whole pass is a map over the rules, and so is each pass over a single one.
  rw [(hB.evaluate_run e h hs).1, List.map_map]
  apply List.map_congr_left
  intro r _
  have halone := (hB.evaluate_run { e with rules := [r] } h hs).1
  exact halone.symm

end Steady

/-! ## The list of rules -/

/-- The rules of an engine are those that have been brought, in order, with one outcome each. Without side effects each
is on its own, and batches may be split. -/
theorem performAll_ruleList (B : Behaviour β ε α σ) (e : Engine α) (h : Host β ε σ)
    (os : List (Operation β ε α)) :
    let run := (e.performAll B os).run h
    let rules := run.1.1.rules
    let outcomes := ((run.1.1.evaluate B).run run.2).1
    rules = e.rules ++ (e.brought B os h).flatten ∧
      (∀ os', rules <+: ((e.performAll B (os ++ os')).run h).1.1.rules) ∧
      (((run.1.1.perform B .evaluate).run run.2).1 = (run.1.1, .outcomes outcomes) ∧
        outcomes.map (·.rule) = rules ∧
        ∀ Known A, SteadyJudges B run.2.registry Known A → Known run.2.surroundings →
          outcomes.map ([·]) = rules.map fun r =>
            ((({ run.1.1 with rules := [r] } : Engine α).evaluate B).run run.2).1) ∧
      ∀ Known A, SteadyBuilders B run.2.registry Known A → Known run.2.surroundings →
        ∀ ds ds',
          let whole := (run.1.1.addRules B (ds ++ ds')).run run.2
          let first := (run.1.1.addRules B ds).run run.2
          let second := (first.1.1.addRules B ds').run first.2
          whole.1 = (second.1.1, first.1.2 ++ second.1.2) := by
  intro run rules outcomes
  refine ⟨performAll_rules B e h os, ?_, ?_, ?_⟩
  · intro os'
    rw [performAll_append, performAll_rules B run.1.1 run.2 os']
    exact List.prefix_append rules _
  · refine ⟨rfl, evaluate_rules B run.1.1 run.2, ?_⟩
    intro Known A hsteady hknown
    exact hsteady.evaluate_alone run.1.1 ⟨rfl, hknown⟩
  · intro Known A hsteady hknown ds ds'
    exact hsteady.addRules_append run.1.1 ⟨rfl, hknown⟩ ds ds'

/-- A rule stays when its builder goes, and the provider registered last builds alike under a new identity. -/
theorem performAll_ruleList_rebuilt :
    let given : Builder := .giving "given" { scope := some "test" } none (.fixed (.ok (.bool true)))
    let ds : List Definition := ["test", "else"].map (.unplaced · "x" "true" none)
    let own : Rule Attribute := ⟨⟨"own", .fixed (.ok (.ofNat 2))⟩, "> 1"⟩
    let os : List (Operation Builder Evaluator Attribute) :=
      [.change (.addBuilder given), .change (.addEvaluator (.standard .numeric)), .addRules ds,
        .change (.remove ⟨1⟩), .addRules ds, .addRule own, .evaluate, .setUnreadableIsError true,
        .change (.addBuilder given)]
    let run := (Engine.performAll providers {} os).run bareHost
    let A := quietAnswers run.2.registry bareHost.surroundings
    let split := (run.1.1.addRules providers ds).run run.2
    SteadyJudges providers run.2.registry bareHost.surroundings.Recalls A ∧
      SteadyBuilders providers run.2.registry bareHost.surroundings.Recalls A ∧
      bareHost.surroundings.Recalls run.2.surroundings ∧
      run.1.1.rules.map (·.subject.label) = ["x", "own"] ∧
      ((run.1.1.evaluate providers).run run.2).1.map ([·]) = (run.1.1.rules.map fun r =>
        ((({ run.1.1 with rules := [r] } : Engine Attribute).evaluate providers).run run.2).1) ∧
      ((run.1.1.addRules providers (ds ++ ds)).run run.2).1 =
        let again := (split.1.1.addRules providers ds).run split.2
        (again.1.1, split.1.2 ++ again.1.2) := by
  intro given ds own os
  have hquiet : ((Engine.performAll providers {} os).run bareHost).2.registry.IsQuiet :=
    ⟨by decide +kernel, by decide +kernel⟩
  have hjudges := evaluators_steady (s := bareHost.surroundings) hquiet.evaluators
  have hbuilders := builders_steady (s := bareHost.surroundings) hquiet.builders
  have hrecalls := performAll_recalls {} (.refl bareHost.surroundings rfl) os
  rcases performAll_ruleList providers {} bareHost os with ⟨-, -, ⟨-, -, halone⟩, hsplit⟩
  exact ⟨hjudges, hbuilders, hrecalls, by decide +kernel, halone _ _ hjudges hrecalls,
    hsplit _ _ hbuilders hrecalls ds ds⟩

end HealthRules
