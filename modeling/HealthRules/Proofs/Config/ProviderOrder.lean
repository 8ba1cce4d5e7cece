import HealthRules.Proofs.Config.Confinement
import HealthRules.Proofs.Provider.Disjointness

/-!
# ProviderOrder — the order in which a configuration names providers

The first provider that takes an item has it, so that order matters where several take the same. The providers
that a configuration names do not contend: those that take an item are the same provider, named more than once.
So their order does not show, and neither do names that mean nothing.

* `findSome?_of_perm`, the first of results that agree;
* `built_eq` and `outcome_eq`, in which providers count and their identities do not;
* `Config.Reorders`, and `Config.outcomesIn_reorders`: what comes of definitions is the same.
-/

namespace HealthRules

/-! ## The first result -/

/-- Where all results agree it does not matter which comes first. -/
theorem findSome?_of_perm {α γ : Type} {f : α → Option γ} {l l' : List α} (hperm : l'.Perm l)
    (hagree : ∀ a ∈ l, ∀ b ∈ l, ∀ x ∈ f a, ∀ y ∈ f b, x = y) : l'.findSome? f = l.findSome? f := by
  cases hx : l.findSome? f with
  | none =>
      rw [List.findSome?_eq_none_iff] at hx ⊢
      intro a ha
      exact hx a (hperm.subset ha)
  | some x =>
      rcases List.exists_of_findSome?_eq_some hx with ⟨a, ha, hfa⟩
      cases hy : l'.findSome? f with
      | none =>
          have hnone := List.findSome?_eq_none_iff.1 hy a (hperm.symm.subset ha)
          rw [hfa] at hnone
          cases hnone
      | some y =>
          rcases List.exists_of_findSome?_eq_some hy with ⟨b, hb, hfb⟩
          rw [hagree a ha b (hperm.subset hb) x hfa y hfb]

/-- The same for the first element that satisfies a predicate. -/
theorem find?_of_perm {α : Type} {p : α → Bool} {l l' : List α} (hperm : l'.Perm l)
    (hagree : ∀ a ∈ l, ∀ b ∈ l, p a = true → p b = true → a = b) : l'.find? p = l.find? p := by
  rw [List.find?_eq_findSome?_guard, List.find?_eq_findSome?_guard]
  apply findSome?_of_perm hperm
  intro a ha b hb x hx y hy
  rcases Option.guard_eq_some_iff.1 hx with ⟨rfl, hpa⟩
  rcases Option.guard_eq_some_iff.1 hy with ⟨rfl, hpb⟩
  exact hagree _ ha _ hb hpa hpb

/-! ## What providers make of an item -/

section Providers

variable (registry : Registry Builder Evaluator) (s : Surroundings)

/-- What becomes of a definition, by the builders alone. -/
theorem built_eq (d : Definition) :
    (quietAnswers registry s).built registry.builders d =
      match (registry.builders.map (·.provider)).findSome? (·.rule? s.facts d) with
      | some r => .ok r
      | none => .error (.ofDefinition d) := by
  have hrules : (registry.builders.map (·.provider)).findSome? (·.rule? s.facts d) =
      ((quietAnswers registry s).firstRule? registry.builders d).map (·.2) := by
    rw [Answers.firstRule?, List.map_findSome?, List.findSome?_map]
    congr 1
    funext b
    simp [quietAnswers, Function.comp_def]
  rw [hrules, Answers.built]
  cases (quietAnswers registry s).firstRule? registry.builders d with
  | none => rfl
  | some made => rfl

/-- What becomes of a rule, by the evaluators alone and the reading of its attribute. -/
theorem outcome_eq (strict : Bool) (r : Rule Attribute) :
    (quietAnswers registry s).outcome strict registry.evaluators r =
      let reading := r.subject.reading registry s
      match (registry.evaluators.map (·.provider)).find? (·.accepts r.expression) with
      | some e => .ofDecision strict (name e) r (e.decision r.subject r.expression reading)
      | none => .ofDecision strict fallbackName r ((textuallyEqual r.expression).onReading reading) := by
  have hfound : (registry.evaluators.map (·.provider)).find? (·.accepts r.expression) =
      (registry.evaluators.find? fun e =>
        (quietAnswers registry s).accepts e r.subject r.expression).map (·.provider) :=
    List.find?_map
  rw [hfound, Answers.outcome, Answers.chosen]
  cases registry.evaluators.find? fun e =>
      (quietAnswers registry s).accepts e r.subject r.expression with
  | none => rfl
  | some e => rfl

/-- Of the registry an attribute shows how many providers there are, and that it is still the same one. -/
theorem Attribute.reading_of_counts {registry registry' : Registry Builder Evaluator}
    (hserial : registry'.serial = registry.serial)
    (hbuilders : registry'.builderCount = registry.builderCount)
    (hevaluators : registry'.evaluatorCount = registry.evaluatorCount) (a : Attribute) :
    a.reading registry' s = a.reading registry s := by
  have hcount : ∀ c : Counter, c.count registry' = c.count registry := by
    intro c
    cases c with
    | builders => exact hbuilders
    | evaluators => exact hevaluators
  have hcounts : s.count? registry' = s.count? registry := by
    funext c serial
    rw [Surroundings.count?, Surroundings.count?, hserial, hcount]
  rw [Attribute.reading, Attribute.reading, hcounts]

end Providers

/-! ## Reordered configurations -/

/-- The configurations name the same providers, in whatever order, and are the same otherwise. -/
structure Config.Reorders (c c' : Config) : Prop where
  settings : c'.settings = c.settings
  builders : c'.builtins.builders.Perm c.builtins.builders
  evaluators : c'.builtins.evaluators.Perm c.builtins.evaluators
  allow : c'.allow = c.allow

namespace Config

variable {c c' : Config}

/-- Builders of a configuration that make rules of the same definition are the same. -/
theorem namedBuilders_agree {serial : Nat} {b b' : Builder} (hb : b ∈ c.namedBuilders serial)
    (hb' : b' ∈ c.namedBuilders serial) {facts : Facts} {d : Definition} {r r' : Rule Attribute}
    (hr : b.rule? facts d = some r) (hr' : b'.rule? facts d = some r') : r = r' := by
  rcases List.mem_filterMap.1 hb with ⟨name, -, hname⟩
  rcases List.mem_filterMap.1 hb' with ⟨name', -, hname'⟩
  have hsame : name = name' := (scope_of_rule? hname hr).symm.trans (scope_of_rule? hname' hr')
  subst hsame
  cases hname.symm.trans hname'
  exact Option.some.inj (hr.symm.trans hr')

/-- Evaluators of a configuration that accept the same expression are the same. -/
theorem namedEvaluators_agree {e e' : Evaluator} (he : e ∈ c.namedEvaluators)
    (he' : e' ∈ c.namedEvaluators) {expression : String} (h : e.accepts expression = true)
    (h' : e'.accepts expression = true) : e = e' := by
  have hkinds : ∀ e ∈ c.namedEvaluators, e = .standard .numeric ∨ e = .standard .pattern := by
    intro e he
    rcases List.mem_filterMap.1 he with ⟨name, -, hname⟩
    unfold StandardEvaluator.ofName? at hname
    split at hname
    · cases hname
      exact .inl rfl
    · cases hname
      exact .inr rfl
    · cases hname
  -- The mixed cases are those of an expression that both kinds accept.
  rcases hkinds e he with rfl | rfl <;> rcases hkinds e' he' with rfl | rfl
  · rfl
  · exact absurd ((accepts_disjoint h').symm.trans h) Bool.false_ne_true
  · exact absurd ((accepts_disjoint h).symm.trans h') Bool.false_ne_true
  · rfl

namespace Reorders

theorem namedBuilders (h : c.Reorders c') (serial : Nat) :
    (c'.namedBuilders serial).Perm (c.namedBuilders serial) := by
  unfold Config.namedBuilders
  rw [h.allow]
  exact h.builders.filterMap _

theorem namedEvaluators (h : c.Reorders c') : c'.namedEvaluators.Perm c.namedEvaluators :=
  h.evaluators.filterMap _

theorem reading (h : c.Reorders c') (s : Surroundings) (a : Attribute) :
    a.reading (c'.registry 0) s = a.reading (c.registry 0) s := by
  have hbuilders := (h.namedBuilders 0).length_eq
  have hevaluators := h.namedEvaluators.length_eq
  rw [← registry_builders, ← registry_builders, List.length_map, List.length_map] at hbuilders
  rw [← registry_evaluators c' 0, ← registry_evaluators c 0, List.length_map,
    List.length_map] at hevaluators
  refine Attribute.reading_of_counts s ?_ hbuilders (congrArg (· + 1) hevaluators) a
  rw [registry_serial, registry_serial]

theorem built (h : c.Reorders c') (s : Surroundings) (d : Definition) :
    (quietAnswers (c'.registry 0) s).built (c'.registry 0).builders d =
      (quietAnswers (c.registry 0) s).built (c.registry 0).builders d := by
  rw [built_eq, built_eq, registry_builders, registry_builders,
    findSome?_of_perm (h.namedBuilders 0)]
  intro b hb b' hb' r hr r' hr'
  exact namedBuilders_agree hb hb' hr hr'

theorem outcome (h : c.Reorders c') (s : Surroundings) (strict : Bool) (r : Rule Attribute) :
    (quietAnswers (c'.registry 0) s).outcome strict (c'.registry 0).evaluators r =
      (quietAnswers (c.registry 0) s).outcome strict (c.registry 0).evaluators r := by
  rw [outcome_eq, outcome_eq, registry_evaluators, registry_evaluators, h.reading,
    find?_of_perm h.namedEvaluators]
  intro e he e' he' haccepts haccepts'
  exact namedEvaluators_agree he he' haccepts haccepts'

end Reorders

/-- Providers may be named in any order, any number of times and with unknown names between them: builders take
different definitions, and evaluators different expressions. -/
theorem outcomesIn_reorders :
    (∀ expression, ¬ (StandardEvaluator.numeric.accepts expression = true ∧
      StandardEvaluator.pattern.accepts expression = true)) ∧
    (∀ serial allow name b, Builder.ofName? serial allow name = some b →
      ∀ serial' allow' name' b', Builder.ofName? serial' allow' name' = some b' →
        ∀ (d : Definition) (h h' : ProviderHost), ((b.build d).run h).1.isSome = true →
          ((b'.build d).run h').1.isSome = true → name = name') ∧
    ∀ c c' : Config, c.Reorders c' → ∀ (ds : List Definition) (s : Surroundings), s.caches = [] →
      c'.outcomesIn ds s = c.outcomesIn ds s := by
  refine ⟨?_, ?_, ?_⟩
  · rintro expression ⟨hnumeric, hpattern⟩
    have hrefused : StandardEvaluator.numeric.accepts expression = false := accepts_disjoint hpattern
    rw [hnumeric] at hrefused
    cases hrefused
  · intro serial allow name b hb serial' allow' name' b' hb' d h h' hbuilds hbuilds'
    exact (scope_of_build hb hbuilds).symm.trans (scope_of_build hb' hbuilds')
  · intro c c' h ds s hs
    rw [c.outcomesIn_eq ds hs, c'.outcomesIn_eq ds hs, h.settings]
    have hbuilt := funext (h.built s)
    have houtcome := funext (h.outcome s c.settings.unreadableIsError)
    simp only [hbuilt, houtcome]

/-- Providers named in another order, some of them twice, and names that mean nothing. -/
theorem outcomesIn_reorders_repeated :
    let c : Config := { standard with builtins :=
      ⟨["muppet", "env", "sys", "env", "disk"], ["numeric", "regex", "regex", "fuzzy"]⟩ }
    let c' : Config := { standard with builtins :=
      ⟨["disk", "env", "sys", "env", "muppet"], ["regex", "fuzzy", "regex", "numeric"]⟩ }
    let facts : Facts := { os := "linux", family := "unix", arch := "x86_64", cpus := .ok 4, pid := 1 }
    let s : Surroundings := { environment := ⟨[("HOME", Utf8.encode "/root".toList)]⟩, facts }
    let ds : List Definition := [.unplaced "muppet" "RuleBuilderCount" "== 4" none,
      .unplaced "env" "HOME" "~ ^/root" none, .unplaced "env" "HOME" "!~ [" none,
      .unplaced "sys" "disks" "> 1" none, .unplaced "sys" "os" "!= 1" none]
    c.Reorders c' ∧ s.caches = [] ∧ c'.outcomesIn ds s = c.outcomesIn ds s ∧
      (c.outcomesIn ds s).1.map (·.definition) = ["sys:disks:> 1"] ∧
      (c.outcomesIn ds s).2.map (·.status) = [.ok, .ok, .error, .error] := by
  intro c c' facts s ds
  have hreorders : c.Reorders c' := ⟨rfl, by decide, by decide, rfl⟩
  refine ⟨hreorders, rfl, outcomesIn_reorders.2.2 c c' hreorders ds s rfl, ?_, ?_⟩
  all_goals decide +kernel

end Config

end HealthRules
