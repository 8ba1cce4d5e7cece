import HealthRules.Proofs.Config.LineIndependence
import HealthRules.Proofs.Provider.Variables

/-!
# Confinement — which variables can show in outcomes

A configuration may keep rules from reading variables: altogether, or all but some. Definitions are checked when
they are built, and variables are read when rules are evaluated. In between a rule has an attribute with the
name of a variable, and for that name the check has been made.

* `Attribute.Confined`, attributes that read no other variables than a configuration allows;
* `confined_of_rule?` and `confined_of_built`: all rules have such attributes;
* `Surroundings.Indistinct` and `Config.outcomesIn_indistinct`: what is not read does not show;
* `Config.outcomesIn_confined`, for environments with the same allowed variables.
-/

namespace HealthRules

/-! ## Confined attributes -/

/-- A configuration lets rules look this name up. -/
def Config.Permits (c : Config) (name : String) : Prop :=
  "env" ∈ c.builtins.builders ∧ (c.allow = [] ∨ name ∈ c.allow)

/-- An attribute that reads a variable has a name that may be looked up. -/
def Attribute.Confined (c : Config) (a : Attribute) : Prop :=
  match a.source with
  | .environment => c.Permits a.label
  | _ => True

theorem confined_of_ne {c : Config} {a : Attribute} (h : a.source ≠ .environment) : a.Confined c := by
  unfold Attribute.Confined
  split
  · next heq => exact absurd heq h
  · trivial

theorem introspectionSource_ne {registry : Nat} {d : Definition} {source : AttributeSource}
    (h : Builder.introspectionSource registry d = some source) : source ≠ .environment := by
  unfold Builder.introspectionSource at h
  split at h
  · rcases Option.map_eq_some_iff.1 h with ⟨counter, -, rfl⟩
    nofun
  · cases h

theorem systemSource_ne {facts : Facts} {d : Definition} {source : AttributeSource}
    (h : Builder.systemSource facts d = some source) : source ≠ .environment := by
  unfold Builder.systemSource at h
  simp only at h
  split at h
  · split at h <;> cases h <;> nofun
  · cases h

theorem environmentSource_eq_some {allow : List String} {d : Definition} {source : AttributeSource}
    (h : Builder.environmentSource allow d = some source) :
    source = .environment ∧ (allow = [] ∨ d.name ∈ allow) := by
  unfold Builder.environmentSource at h
  split at h
  · next hallowed =>
      cases h
      have hlist : allow.isEmpty = true ∨ allow.contains d.name = true := by
        simpa using (Bool.and_eq_true_iff.1 hallowed).2
      exact ⟨rfl, hlist.imp List.isEmpty_iff.1 List.contains_iff_mem.1⟩
  · cases h

/-- Of the builders that can be named one makes rules that read variables, and it looks at the list. -/
theorem confined_of_rule? {c : Config} {serial : Nat} {b : Builder} (hb : b ∈ c.namedBuilders serial)
    {facts : Facts} {d : Definition} {r : Rule Attribute} (hr : b.rule? facts d = some r) :
    r.subject.Confined c := by
  rcases List.mem_filterMap.1 hb with ⟨name, hname, hof⟩
  unfold Builder.ofName? at hof
  split at hof
  · cases hof
    rcases Option.map_eq_some_iff.1 hr with ⟨source, hsource, rfl⟩
    exact confined_of_ne (introspectionSource_ne hsource)
  · cases hof
    rcases Option.map_eq_some_iff.1 hr with ⟨source, hsource, rfl⟩
    rcases environmentSource_eq_some hsource with ⟨rfl, hallowed⟩
    exact ⟨hname, hallowed⟩
  · cases hof
    rcases Option.map_eq_some_iff.1 hr with ⟨source, hsource, rfl⟩
    exact confined_of_ne (systemSource_ne hsource)
  · cases hof

/-- So all rules of a batch are confined. -/
theorem confined_of_built {c : Config} {s : Surroundings} {ds : List Definition} {r : Rule Attribute}
    (hr : r ∈ BuildOutcome.rules
      (ds.map ((quietAnswers (c.registry 0) s).built (c.registry 0).builders))) :
    r.subject.Confined c := by
  rcases List.mem_filterMap.1 hr with ⟨outcome, houtcome, hrule⟩
  rcases List.mem_map.1 houtcome with ⟨d, -, rfl⟩
  unfold Answers.built at hrule
  cases hfirst : (quietAnswers (c.registry 0) s).firstRule? (c.registry 0).builders d with
  | none => simp [hfirst] at hrule
  | some made =>
      have hmade : made.2 = r := by simpa [hfirst] using hrule
      rcases List.exists_of_findSome?_eq_some hfirst with ⟨b, hb, hbuild⟩
      rcases Option.map_eq_some_iff.1 hbuild with ⟨r', hr', rfl⟩
      have hnamed : b.provider ∈ c.namedBuilders 0 := by
        rw [← Config.registry_builders]
        exact List.mem_map_of_mem hb
      exact hmade ▸ confined_of_rule? hnamed hr'

/-! ## What is not read does not show -/

/-- The surroundings differ at most in variables that no rule may look up. -/
structure Surroundings.Indistinct (c : Config) (s s' : Surroundings) : Prop where
  facts : s'.facts = s.facts
  cells : s'.cells = s.cells
  elsewhere : s'.elsewhere = s.elsewhere
  environment : ∀ name, c.Permits name → s'.environment.read name = s.environment.read name

namespace Surroundings.Indistinct

variable {c : Config} {s s' : Surroundings}

theorem reading (h : Indistinct c s s') (registry : Registry Builder Evaluator) {a : Attribute}
    (ha : a.Confined c) : a.reading registry s' = a.reading registry s := by
  have hcount : s'.count? registry = s.count? registry := by
    funext c serial
    rw [Surroundings.count?, Surroundings.count?, h.elsewhere]
  unfold Attribute.Confined at ha
  unfold Attribute.reading Attribute.readAt World.readCell
  cases hsource : a.source with
  | environment =>
      rw [hsource] at ha
      exact h.environment a.label ha
  | _ => simp [h.cells, h.facts, hcount]

/-- Builders look at facts alone. -/
theorem built (h : Indistinct c s s') (registry : Registry Builder Evaluator) :
    (quietAnswers registry s').built registry.builders =
      (quietAnswers registry s).built registry.builders := by
  have hbuild : (quietAnswers registry s').build = (quietAnswers registry s).build := by
    simp [quietAnswers, h.facts]
  funext d
  unfold Answers.built Answers.firstRule?
  rw [hbuild]

theorem outcome (h : Indistinct c s s') (registry : Registry Builder Evaluator) (strict : Bool)
    {r : Rule Attribute} (hr : r.subject.Confined c) :
    (quietAnswers registry s').outcome strict registry.evaluators r =
      (quietAnswers registry s).outcome strict registry.evaluators r := by
  have hreading := h.reading registry hr
  -- Who decides depends on the expression alone.
  have hchosen : (quietAnswers registry s').chosen registry.evaluators r =
      (quietAnswers registry s).chosen registry.evaluators r := by
    simp only [Answers.chosen, quietAnswers]
  have hdecision : ∀ candidate : Candidate Evaluator,
      (quietAnswers registry s').decision r candidate = (quietAnswers registry s).decision r candidate := by
    intro candidate
    cases candidate with
    | registered e => simp only [Answers.decision, quietAnswers, hreading]
    | fallback => simp only [Answers.decision, quietAnswers, hreading]
  simp only [Answers.outcome, hchosen, hdecision]

end Surroundings.Indistinct

namespace Config

/-- Build definitions and evaluate the rules in some surroundings, with a registry as configured. -/
def outcomesIn (c : Config) (ds : List Definition) (s : Surroundings) :
    List BuildError × List (Outcome Attribute) :=
  ((do c.register; c.evaluateDefinitions ds : ProviderM _).run (Host.start s)).1

theorem outcomesIn_eq (c : Config) (ds : List Definition) {s : Surroundings} (hs : s.caches = []) :
    let A := quietAnswers (c.registry 0) s
    let outcomes := ds.map (A.built (c.registry 0).builders)
    c.outcomesIn ds s = (BuildOutcome.failures outcomes, (BuildOutcome.rules outcomes).map
      (A.outcome c.settings.unreadableIsError (c.registry 0).evaluators)) := by
  rcases c.register_run (h := Host.start s) rfl with ⟨hregistry, hsurroundings⟩
  have hrecalls : s.Recalls ((c.register).run (Host.start s)).2.surroundings := by
    rw [hsurroundings]
    exact Surroundings.Recalls.refl s hs
  exact (c.evaluateDefinitions_settles s ds _ ⟨hregistry, hrecalls⟩).1

theorem outcomesIn_indistinct (c : Config) (ds : List Definition) {s s' : Surroundings}
    (hs : s.caches = []) (hs' : s'.caches = []) (h : s.Indistinct c s') :
    c.outcomesIn ds s' = c.outcomesIn ds s := by
  rw [c.outcomesIn_eq ds hs, c.outcomesIn_eq ds hs', h.built]
  refine congrArg (Prod.mk _) (List.map_congr_left ?_)
  intro r hr
  exact h.outcome (c.registry 0) _ (confined_of_built hr)

/-- Nothing shows of environments that agree on the names that rules may look up. -/
theorem outcomesIn_agreeing (c : Config) (ds : List Definition) (facts : Facts) {e e' : Environment}
    (h : "env" ∉ c.builtins.builders ∨ c.allow ≠ [] ∧ ∀ name ∈ c.allow, e'.value? name = e.value? name) :
    c.outcomesIn ds { environment := e', facts } = c.outcomesIn ds { environment := e, facts } := by
  refine c.outcomesIn_indistinct ds rfl rfl ⟨rfl, rfl, rfl, ?_⟩
  rintro name ⟨hbuilder, hallowed⟩
  have hvalue : e'.value? name = e.value? name := by
    rcases h with hnone | ⟨hlist, hagree⟩
    · exact absurd hbuilder hnone
    · exact hagree name (hallowed.resolve_left hlist)
  simp only [Environment.read, hvalue]

/-- What rules come to depends on no variable if no builder reads variables, and else on those of the list alone, if
none of its names holds an equals sign. -/
theorem outcomesIn_confined (c : Config) (ds : List Definition) (facts : Facts)
    {e e' : Environment} (he : e.WellNamed) (he' : e'.WellNamed)
    (h : "env" ∉ c.builtins.builders ∨
      c.allow ≠ [] ∧ ∀ name ∈ c.allow, '=' ∉ name.toList ∧ e'.assigned? name = e.assigned? name) :
    c.outcomesIn ds { environment := e', facts } = c.outcomesIn ds { environment := e, facts } := by
  apply c.outcomesIn_agreeing ds facts
  rcases h with hnone | ⟨hlist, hagree⟩
  · exact Or.inl hnone
  · refine Or.inr ⟨hlist, ?_⟩
    intro name hname
    rcases hagree name hname with ⟨hmark, hvariable⟩
    calc e'.value? name = e'.assigned? name := Environment.value?_eq_assigned? he' hmark
      _ = e.assigned? name := hvariable
      _ = e.value? name := (Environment.value?_eq_assigned? he hmark).symm

/-- Rules may read `HOME`, and what they may not read is kept from them. -/
theorem outcomesIn_confined_home :
    let c : Config := { standard with allow := ["HOME"] }
    let facts : Facts := { os := "linux", family := "unix", arch := "x86_64", cpus := .ok 4, pid := 1 }
    let ds : List Definition := ["HOME", "SECRET"].map (.unplaced "env" · "/root" none)
    let e : Environment := ⟨[("HOME", Utf8.encode "/root".toList), ("SECRET", Utf8.encode "/root".toList)]⟩
    let e' : Environment := ⟨[("HOME", Utf8.encode "/root".toList)]⟩
    c.outcomesIn ds { environment := e', facts } = c.outcomesIn ds { environment := e, facts } ∧
      (c.outcomesIn ds { environment := e, facts }).1.map (·.definition) = ["env:SECRET:/root"] ∧
      (c.outcomesIn ds { environment := e, facts }).2.map (·.status) = [.ok] := by
  intro c facts ds e e'
  refine ⟨outcomesIn_confined c ds facts ?_ ?_ (Or.inr ⟨?_, ?_⟩), ?_, ?_⟩
  all_goals decide +kernel

/-- A name with an equals sign is looked up in the value of a variable that is not on the list. -/
theorem outcomesIn_listed_equals_sign :
    let c : Config := { standard with allow := ["A=b"] }
    let facts : Facts := { os := "linux", family := "unix", arch := "x86_64", cpus := .ok 4, pid := 1 }
    let ds : List Definition := [.unplaced "env" "A=b" "c" none]
    let e : Environment := ⟨[("A", Utf8.encode "x".toList)]⟩
    let e' : Environment := ⟨[("A", Utf8.encode "b=c".toList)]⟩
    e.WellNamed ∧ e'.WellNamed ∧ c.allow ≠ [] ∧
      (∀ name ∈ c.allow, e'.assigned? name = e.assigned? name) ∧
      c.outcomesIn ds { environment := e', facts } ≠ c.outcomesIn ds { environment := e, facts } := by
  intro c facts ds e e'
  refine ⟨by decide +kernel, by decide +kernel, by decide, by decide +kernel, ?_⟩
  intro heq
  have hstatus : (c.outcomesIn ds { environment := e', facts }).2.map (·.status) =
      (c.outcomesIn ds { environment := e, facts }).2.map (·.status) := by rw [heq]
  revert hstatus
  decide +kernel

end Config

end HealthRules
