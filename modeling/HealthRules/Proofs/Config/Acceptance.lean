import HealthRules.Proofs.Config.ProviderOrder
import HealthRules.Proofs.Rule.Grammar

/-!
# Acceptance — which definitions a configuration takes

Whether a definition makes a rule can be told from the definition and the configuration alone: it may not have a
qualifier, the builder of its namespace has to be named in the configuration, and that builder has to know its name. In
which order builders are named, how often, and what else is named with them does not matter. All other definitions are
reported, one by one.

* `Config.Takes`, the definitions that a configuration takes;
* `Builder.isSome_introspection_iff` and its relatives, what each builder takes;
* `Config.findSome?_named`: the builder of its namespace is the only one that counts for a definition;
* `Config.isSome_ruleOf?_iff`, what becomes of one definition, and `BuildOutcome.rules_and_failures`, of a batch;
* `Config.addRules_takes`, for engines and all definitions.
-/

namespace HealthRules

/-- The configuration names a builder for the namespace, and that takes definitions of this name without a
qualifier. -/
def Config.Takes (c : Config) (d : Definition) : Prop :=
  d.qualifier = none ∧
    (d.scope = "muppet" ∧ "muppet" ∈ c.builtins.builders ∧ d.name ∈ ["RuleBuilderCount", "EvaluatorCount"] ∨
      d.scope = "env" ∧ "env" ∈ c.builtins.builders ∧ (c.allow = [] ∨ d.name ∈ c.allow) ∨
      d.scope = "sys" ∧ "sys" ∈ c.builtins.builders ∧ d.name ∈ ["cpus", "os", "arch", "family", "pid"])

instance (c : Config) (d : Definition) : Decidable (c.Takes d) :=
  inferInstanceAs (Decidable (_ ∧ (_ ∧ _ ∧ _ ∨ _ ∧ _ ∧ (_ ∨ _) ∨ _ ∧ _ ∧ _)))

/-! ## One builder -/

namespace Builder

variable {d : Definition}

theorem owns_iff {scope : String} : owns scope d = true ↔ d.scope = scope ∧ d.qualifier = none := by
  rw [owns, Bool.and_eq_true, beq_iff_eq, Option.isNone_iff_eq_none]

theorem isSome_ofLabel?_iff {name : String} :
    (Counter.ofLabel? name).isSome = true ↔ name ∈ ["RuleBuilderCount", "EvaluatorCount"] := by
  rw [Counter.ofLabel?, List.find?_isSome]
  simp [Counter.label, eq_comm]

theorem isSome_introspection_iff (serial : Nat) (facts : Facts) :
    ((introspection serial).rule? facts d).isSome = true ↔
      d.qualifier = none ∧ d.scope = "muppet" ∧ d.name ∈ ["RuleBuilderCount", "EvaluatorCount"] := by
  rw [rule?, Option.isSome_map, introspectionSource]
  split
  · next howns =>
      rcases owns_iff.1 howns with ⟨hscope, hqualifier⟩
      rw [Option.isSome_map, isSome_ofLabel?_iff]
      exact ⟨fun hname => ⟨hqualifier, hscope, hname⟩, fun h => h.2.2⟩
  · next hnot => exact iff_of_false Bool.false_ne_true fun h => hnot (owns_iff.2 ⟨h.2.1, h.1⟩)

theorem isSome_environment_iff (allow : List String) (facts : Facts) :
    ((environment allow).rule? facts d).isSome = true ↔
      d.qualifier = none ∧ d.scope = "env" ∧ (allow = [] ∨ d.name ∈ allow) := by
  have hallowed : (owns "env" d && (allow.isEmpty || allow.contains d.name)) = true ↔
      d.qualifier = none ∧ d.scope = "env" ∧ (allow = [] ∨ d.name ∈ allow) := by
    rw [Bool.and_eq_true, owns_iff, Bool.or_eq_true, List.isEmpty_iff, List.contains_iff_mem, and_assoc,
      and_left_comm]
  rw [← hallowed, rule?, Option.isSome_map, environmentSource]
  split
  · next htakes => exact iff_of_true rfl htakes
  · next hnot => exact iff_of_false Bool.false_ne_true hnot

theorem isSome_system_iff (facts : Facts) :
    (system.rule? facts d).isSome = true ↔
      d.qualifier = none ∧ d.scope = "sys" ∧ d.name ∈ ["cpus", "os", "arch", "family", "pid"] := by
  rw [rule?, Option.isSome_map, systemSource]
  simp only
  split
  · next howns =>
      rcases owns_iff.1 howns with ⟨hscope, hqualifier⟩
      split
      · simp [*]
      · simp [*]
      · simp [*]
      · simp [*]
      · simp [*]
      · next hcpus hos harch hfamily hpid => simpa using fun _ _ => ⟨hcpus, hos, harch, hfamily, hpid⟩
  · next hnot => exact iff_of_false Bool.false_ne_true fun h => hnot (owns_iff.2 ⟨h.2.1, h.1⟩)

end Builder

/-! ## One definition -/

namespace Config

variable (c : Config) (facts : Facts) (d : Definition)

/-- The rule that the builder of its namespace makes of a definition. -/
def ruleOf? (serial : Nat) : Option (Rule Attribute) :=
  if d.scope ∈ c.builtins.builders then
    (Builder.ofName? serial c.allow d.scope).bind (·.rule? facts d)
  else none

/-- Among named builders, none but that of its namespace counts for a definition. -/
theorem findSome?_named (serial : Nat) (allow : List String) (names : List String) :
    (names.filterMap (Builder.ofName? serial allow)).findSome? (·.rule? facts d) =
      if d.scope ∈ names then (Builder.ofName? serial allow d.scope).bind (·.rule? facts d) else none := by
  induction names with
  | nil => rfl
  | cons name names ih =>
      have hcons : ((name :: names).filterMap (Builder.ofName? serial allow)).findSome? (·.rule? facts d) =
          ((Builder.ofName? serial allow name).bind (·.rule? facts d)).or
            ((names.filterMap (Builder.ofName? serial allow)).findSome? (·.rule? facts d)) := by
        rw [List.filterMap_cons]
        cases Builder.ofName? serial allow name with
        | none => rfl
        | some b =>
            rw [List.findSome?_cons]
            cases hrule : b.rule? facts d with
            | none => simp [hrule]
            | some r => simp [hrule]
      rw [hcons, ih]
      by_cases hname : d.scope = name
      · -- What the builder declines here, it declines wherever else it is named.
        rw [← hname, if_pos List.mem_cons_self]
        cases (Builder.ofName? serial allow d.scope).bind (·.rule? facts d) with
        | none => rw [Option.none_or, ite_self]
        | some r => rfl
      · have hnone : (Builder.ofName? serial allow name).bind (·.rule? facts d) = none := by
          rw [Option.eq_none_iff_forall_ne_some]
          intro r hr
          rcases Option.bind_eq_some_iff.1 hr with ⟨b, hb, hrule⟩
          exact hname (scope_of_rule? hb hrule)
        simp [hnone, hname]

theorem ruleOf?_of_scope {d : Definition} {name : String} (hscope : d.scope = name)
    (hmem : name ∈ c.builtins.builders) (serial : Nat) :
    c.ruleOf? facts d serial = (Builder.ofName? serial c.allow name).bind (·.rule? facts d) := by
  rw [ruleOf?, hscope, if_pos hmem]

/-- A configuration has a rule for just the definitions that it takes. -/
theorem isSome_ruleOf?_iff (serial : Nat) : (c.ruleOf? facts d serial).isSome = true ↔ c.Takes d := by
  constructor
  · intro h
    rcases Option.isSome_iff_exists.1 h with ⟨r, hr⟩
    unfold ruleOf? at hr
    split at hr
    · next hmem =>
        rcases Option.bind_eq_some_iff.1 hr with ⟨b, hb, hrule⟩
        have hsome : (b.rule? facts d).isSome = true := Option.isSome_of_eq_some hrule
        unfold Builder.ofName? at hb
        -- One case for each name that a builder has.
        split at hb
        · next hscope =>
            cases hb
            rcases (Builder.isSome_introspection_iff serial facts).1 hsome with ⟨hqualifier, -, hname⟩
            exact ⟨hqualifier, .inl ⟨hscope, hscope ▸ hmem, hname⟩⟩
        · next hscope =>
            cases hb
            rcases (Builder.isSome_environment_iff c.allow facts).1 hsome with ⟨hqualifier, -, hname⟩
            exact ⟨hqualifier, .inr (.inl ⟨hscope, hscope ▸ hmem, hname⟩)⟩
        · next hscope =>
            cases hb
            rcases (Builder.isSome_system_iff facts).1 hsome with ⟨hqualifier, -, hname⟩
            exact ⟨hqualifier, .inr (.inr ⟨hscope, hscope ▸ hmem, hname⟩)⟩
        · cases hb
    · cases hr
  · rintro ⟨hqualifier, ⟨hscope, hmem, hname⟩ | ⟨hscope, hmem, hname⟩ | ⟨hscope, hmem, hname⟩⟩
    · rw [c.ruleOf?_of_scope facts hscope hmem]
      exact (Builder.isSome_introspection_iff serial facts).2 ⟨hqualifier, hscope, hname⟩
    · rw [c.ruleOf?_of_scope facts hscope hmem]
      exact (Builder.isSome_environment_iff c.allow facts).2 ⟨hqualifier, hscope, hname⟩
    · rw [c.ruleOf?_of_scope facts hscope hmem]
      exact (Builder.isSome_system_iff facts).2 ⟨hqualifier, hscope, hname⟩

/-- Only the names of builders that there are matter, and only whether they are among the names. -/
theorem ruleOf?_congr {c c' : Config} (hallow : c'.allow = c.allow)
    (hnames : ∀ name ∈ ["muppet", "env", "sys"], name ∈ c'.builtins.builders ↔ name ∈ c.builtins.builders)
    (serial : Nat) : c'.ruleOf? facts d serial = c.ruleOf? facts d serial := by
  unfold ruleOf?
  rw [hallow]
  cases hb : Builder.ofName? serial c.allow d.scope with
  | none => simp
  | some b =>
      have hknown : d.scope ∈ ["muppet", "env", "sys"] := by
        unfold Builder.ofName? at hb
        split at hb
        · next hscope => simp [hscope]
        · next hscope => simp [hscope]
        · next hscope => simp [hscope]
        · cases hb
      simp only [hnames d.scope hknown]

/-- A rule that a configuration has is bound to the name of its definition. -/
theorem exists_source {serial : Nat} {r : Rule Attribute} (hr : c.ruleOf? facts d serial = some r) :
    ∃ source, Builder.bind d d.name source = r := by
  unfold ruleOf? at hr
  split at hr
  · rcases Option.bind_eq_some_iff.1 hr with ⟨b, hb, hrule⟩
    rcases source_of_rule? hb hrule with ⟨source, hbind, -⟩
    exact ⟨source, hbind⟩
  · cases hr

end Config

/-! ## Batches -/

/-- The rule shows the name and the expression of the definition, and keeps the expression. -/
structure Rule.Displays (d : Definition) (r : Rule Attribute) : Prop where
  render : r.render = "Rule: " ++ d.name ++ " " ++ d.expression
  expression : r.expression = d.expression

theorem Builder.displays_bind (d : Definition) (source : AttributeSource) :
    Rule.Displays d (bind d d.name source) where
  render := rfl
  expression := rfl

/-- A batch in which some definitions make rules and all others are reported. -/
theorem BuildOutcome.rules_and_failures {p : Definition → Prop} [DecidablePred p]
    {built : Definition → BuildOutcome Attribute} {R : Definition → Rule Attribute → Prop}
    (hmade : ∀ d, p d → ∃ r, built d = .ok r ∧ R d r)
    (hdeclined : ∀ d, ¬ p d → built d = .error (.ofDefinition d)) (ds : List Definition) :
    List.Forall₂ R (ds.filter p) (rules (ds.map built)) ∧
      failures (ds.map built) = (ds.filter (¬ p ·)).map .ofDefinition := by
  induction ds with
  | nil => exact ⟨.nil, rfl⟩
  | cons d ds ih =>
      rcases ih with ⟨hrules, hfailures⟩
      -- Just one of the two filters keeps the definition.
      by_cases hd : p d
      · rcases hmade d hd with ⟨r, hr, hR⟩
        have hrules' : rules ((d :: ds).map built) = r :: rules (ds.map built) := by
          rw [rules, List.map_cons, hr]
          rfl
        have hfailures' : failures ((d :: ds).map built) = failures (ds.map built) := by
          rw [failures, List.map_cons, hr]
          rfl
        rw [hrules', hfailures', List.filter_cons_of_pos (by simpa using hd),
          List.filter_cons_of_neg (by simpa using hd)]
        exact ⟨.cons hR hrules, hfailures⟩
      · have herror := hdeclined d hd
        have hrules' : rules ((d :: ds).map built) = rules (ds.map built) := by
          rw [rules, List.map_cons, herror]
          rfl
        have hfailures' : failures ((d :: ds).map built) = .ofDefinition d :: failures (ds.map built) := by
          rw [failures, List.map_cons, herror]
          rfl
        rw [hrules', hfailures', List.filter_cons_of_neg (by simpa using hd),
          List.filter_cons_of_pos (by simpa using hd), List.map_cons, hfailures]
        exact ⟨hrules, rfl⟩

namespace Config

variable (c : Config)

/-- What becomes of a definition in the registry of the configuration. -/
theorem built_eq_ruleOf? (s : Surroundings) (d : Definition) :
    (quietAnswers (c.registry 0) s).built (c.registry 0).builders d =
      ((c.ruleOf? s.facts d 0).map .ok).getD (.error (.ofDefinition d)) := by
  have hfirst : (c.namedBuilders 0).findSome? (·.rule? s.facts d) = c.ruleOf? s.facts d 0 :=
    findSome?_named s.facts d 0 c.allow c.builtins.builders
  rw [built_eq, registry_builders]
  cases hrule : c.ruleOf? s.facts d 0 with
  | none => rw [hfirst.trans hrule, Option.map_none, Option.getD_none]
  | some r => rw [hfirst.trans hrule, Option.map_some, Option.getD_some]

theorem built_of_takes (s : Surroundings) {d : Definition} (h : c.Takes d) :
    ∃ r, (quietAnswers (c.registry 0) s).built (c.registry 0).builders d = .ok r ∧ Rule.Displays d r := by
  rcases Option.isSome_iff_exists.1 ((c.isSome_ruleOf?_iff s.facts d 0).2 h) with ⟨r, hr⟩
  rcases c.exists_source s.facts d hr with ⟨source, rfl⟩
  refine ⟨_, ?_, Builder.displays_bind d source⟩
  rw [built_eq_ruleOf?, hr, Option.map_some, Option.getD_some]

theorem built_of_not_takes (s : Surroundings) {d : Definition} (h : ¬ c.Takes d) :
    (quietAnswers (c.registry 0) s).built (c.registry 0).builders d = .error (.ofDefinition d) := by
  have hnone : c.ruleOf? s.facts d 0 = none := by
    rw [← Option.not_isSome_iff_eq_none]
    exact mt (c.isSome_ruleOf?_iff s.facts d 0).1 h
  rw [built_eq_ruleOf?, hnone, Option.map_none, Option.getD_none]

/-- Building is a map over the definitions. -/
theorem addRules_built (environment : Environment) (facts : Facts) (e : Engine Attribute) (ds : List Definition) :
    let s : Surroundings := { environment, facts }
    let outcomes := ds.map ((quietAnswers (c.registry 0) s).built (c.registry 0).builders)
    ((e.addRules providers ds).run (c.register.run (Host.start s)).2).1 =
      ({ e with rules := e.rules ++ BuildOutcome.rules outcomes }, BuildOutcome.failures outcomes) := by
  intro s outcomes
  rcases c.register_run (h := Host.start s) rfl with ⟨hregistry, hsurroundings⟩
  have hrecalls : s.Recalls (c.register.run (Host.start s)).2.surroundings := by
    rw [hsurroundings]
    exact Surroundings.Recalls.refl s rfl
  have hsteady := builders_steady (s := s) (c.registry_isQuiet 0).builders
  exact (hsteady.addRules_run e ds _ ⟨hregistry, hrecalls⟩).1

end Config

/-! ## Lines -/

/-- A line holds a definition without a qualifier only if there are two colons in it. -/
theorem Line.count_of_parse {n : Nat} {line : List Char} {d : Definition} (h : parse n line = .ok (some d))
    (hqualifier : d.qualifier = none) : line.count ':' = 2 := by
  have htrim : line.count ':' = (Blank.trim line).count ':' := by
    rcases Blank.exists_gaps line with ⟨left, right, hleft, hright, hline⟩
    have hnoLeft : left.count ':' = 0 := List.count_eq_zero.2 (colon_not_mem_gap hleft)
    have hnoRight : right.count ':' = 0 := List.count_eq_zero.2 (colon_not_mem_gap hright)
    conv_lhs => rw [hline, List.count_append, List.count_append, hnoLeft, hnoRight]
    omega
  rw [htrim]
  by_cases hskip : isSkipped (Blank.trim line) = true
  · rw [parse_of_skipped n hskip] at h
    cases h
  have hs := Bool.eq_false_iff.2 hskip
  by_cases hfew : (Blank.trim line).count ':' < 2
  · rw [parse_of_few n hs hfew] at h
    cases h
  have hmany := Nat.le_of_not_lt hfew
  by_cases hfirst : (Blank.trim line).head? = some ':'
  · rcases exists_parts hmany with ⟨a, b, r, hparts⟩
    rw [parse_of_noScope n hs hparts hfirst] at h
    cases h
  rcases (parse_named_iff n hs hmany hfirst d).1 h with ⟨a, b, r, q, e, -, -, -, -, hcolons⟩
  exact hcolons.1 hqualifier

/-! ## Engines -/

/-- Definitions that a configuration takes become rules that show their name and expression; the others are reported
once. -/
theorem Config.addRules_takes (c : Config) (environment : Environment) (facts : Facts) (e : Engine Attribute)
    (ds : List Definition) :
    let building (c : Config) :=
      ((e.addRules providers ds).run (c.register.run (Host.start { environment, facts })).2).1
    (∃ rules, (building c).1 = { e with rules := e.rules ++ rules } ∧
      List.Forall₂ Rule.Displays (ds.filter c.Takes) rules) ∧
      (building c).2 = (ds.filter (¬ c.Takes ·)).map (fun d => ⟨d.line, d.render⟩) ∧
      (∀ c' : Config, c'.allow = c.allow →
        (∀ name ∈ ["muppet", "env", "sys"], name ∈ c'.builtins.builders ↔ name ∈ c.builtins.builders) →
          building c' = building c) ∧
      ∀ n line d, Line.parse n line = .ok (some d) → c.Takes d → line.count ':' = 2 := by
  intro building
  -- Every configuration comes to a map over the definitions, so that only what it makes of one of them counts.
  have hbuilding : ∀ c, building c = _ := fun c => c.addRules_built environment facts e ds
  rcases BuildOutcome.rules_and_failures (fun d => c.built_of_takes { environment, facts })
    (fun d => c.built_of_not_takes { environment, facts }) ds with ⟨hrules, hfailures⟩
  refine ⟨⟨_, congrArg Prod.fst (hbuilding c), hrules⟩, (congrArg Prod.snd (hbuilding c)).trans hfailures, ?_, ?_⟩
  · intro c' hallow hnames
    have hbuilt : (quietAnswers (c'.registry 0) { environment, facts }).built (c'.registry 0).builders =
        (quietAnswers (c.registry 0) { environment, facts }).built (c.registry 0).builders := by
      funext d
      rw [built_eq_ruleOf?, built_eq_ruleOf?, ruleOf?_congr facts d hallow hnames]
    rw [hbuilding, hbuilding, hbuilt]
  · intro n line d hline htakes
    exact Line.count_of_parse hline htakes.1

/-- A variable that is not in the list, a namespace without a builder, and a qualifier that is empty. -/
theorem Config.addRules_takes_some :
    let c : Config := { Config.standard with builtins := ⟨["sys", "disk", "env", "sys"], []⟩, allow := ["HOME"] }
    let facts : Facts := { os := "linux", family := "unix", arch := "x86_64", cpus := .ok 4, pid := 1 }
    let home := Definition.unplaced "env" "HOME" "~ ^/" none
    let path := Definition.unplaced "env" "PATH" "~ ." none
    let count := Definition.unplaced "muppet" "EvaluatorCount" "> 0" none
    let os := Definition.unplaced "sys" "os" "linux" none
    let qualified := Definition.unplaced "sys" "os" "linux" (some "")
    let building := ((c.newEngine.addRules providers [home, path, count, os, qualified]).run
      (c.register.run (Host.start { environment := {}, facts })).2).1
    (∃ rules, building.1 = { c.newEngine with rules } ∧ List.Forall₂ Rule.Displays [home, os] rules) ∧
      building.2 = [⟨0, "env:PATH:~ ."⟩, ⟨0, "muppet:EvaluatorCount:> 0"⟩, ⟨0, "sys:os::linux"⟩] := by
  intro c facts home path count os qualified building
  rcases addRules_takes c {} facts c.newEngine [home, path, count, os, qualified] with
    ⟨⟨rules, hengine, hrules⟩, hfailures, -, -⟩
  have htaken : [home, path, count, os, qualified].filter c.Takes = [home, os] := by decide
  rw [htaken] at hrules
  exact ⟨⟨rules, hengine, hrules⟩, hfailures.trans (by decide)⟩

end HealthRules
