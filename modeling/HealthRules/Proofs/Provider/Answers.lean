import HealthRules.Proofs.Engine.Steady
import HealthRules.Proofs.Pattern.Caching
import HealthRules.Provider.Basic

/-!
# Answers — what quiet providers answer

Providers that leave the registry alone are quiet; all that a configuration can name are. Their answers
depend on the registry, the environment, the facts and the cells only. What an evaluator remembers are
compiled patterns, and these do not show.

* `Surroundings.Recalls`, surroundings in which nothing has changed but what evaluators remember;
* `Attribute.reading`, `Builder.rule?` and `Evaluator.decision`, the answers as functions;
* `Registry.IsQuiet`, with `builders_steady` and `evaluators_steady`: providers that leave the registry alone
  are steady.
-/

namespace HealthRules

/-! ## Surroundings -/

/-- The surroundings `s'` are `s` but for what evaluators remember, and patterns are remembered right. -/
structure Surroundings.Recalls (s s' : Surroundings) : Prop where
  environment : s'.environment = s.environment
  facts : s'.facts = s.facts
  cells : s'.cells = s.cells
  elsewhere : s'.elsewhere = s.elsewhere
  caches : ∀ id, (s'.cacheOf id).Sound

namespace Surroundings

theorem lookup_filter_ne {κ γ : Type} [BEq κ] [LawfulBEq κ] [DecidableEq κ] {k k' : κ} (h : k' ≠ k)
    (entries : List (κ × γ)) : (entries.filter (·.1 ≠ k)).lookup k' = entries.lookup k' := by
  induction entries with
  | nil => rfl
  | cons entry rest ih =>
      rw [List.filter_cons, List.lookup_cons]
      by_cases hentry : entry.1 = k
      · have hskip : (k' == entry.1) = false := by
          rw [hentry]
          simpa using h
        rw [hskip]
        simpa [hentry] using ih
      · have hkeep : decide (entry.1 ≠ k) = true := by simpa using hentry
        rw [if_pos hkeep, List.lookup_cons, ih]

theorem cacheOf_setCache (s : Surroundings) (id id' : ProviderId) (cache : PatternCache Regex.language) :
    (s.setCache id cache).cacheOf id' = if id' = id then cache else s.cacheOf id' := by
  by_cases heq : id' = id
  · simp [cacheOf, setCache, heq]
  · have hbeq : (id' == id) = false := by simpa using heq
    rw [cacheOf, setCache, List.lookup_cons, hbeq, if_neg heq]
    exact congrArg (·.getD {}) (lookup_filter_ne heq s.caches)

namespace Recalls

variable {s s' : Surroundings}

theorem refl (s : Surroundings) (hs : s.caches = []) : Recalls s s := by
  refine ⟨rfl, rfl, rfl, rfl, ?_⟩
  intro id
  rw [cacheOf, hs]
  exact PatternCache.sound_empty

theorem setCache (hs : Recalls s s') (id : ProviderId) {cache : PatternCache Regex.language} (hc : cache.Sound) :
    Recalls s (s'.setCache id cache) := by
  refine ⟨hs.environment, hs.facts, hs.cells, hs.elsewhere, ?_⟩
  intro id'
  rw [cacheOf_setCache]
  split
  · exact hc
  · exact hs.caches id'

end Recalls

end Surroundings

/-! ## Answers as functions -/

/-- What reading an attribute gives. -/
def Attribute.reading {β ε : Type} (registry : Registry β ε) (s : Surroundings) (a : Attribute) :
    Reading :=
  a.readAt s.toWorld (s.count? registry)

theorem read_run {β ε : Type} (a : Attribute) (h : Host β ε Surroundings) :
    a.read.run h = (a.reading h.registry h.surroundings, h) := rfl

theorem Attribute.reading_of_recalls {β ε : Type} {s s' : Surroundings}
    (hs : s.Recalls s') (registry : Registry β ε) (a : Attribute) :
    a.reading registry s' = a.reading registry s := by
  have hworld : s'.toWorld = s.toWorld := by
    rw [World.mk.injEq]
    exact ⟨hs.environment, hs.facts, hs.cells⟩
  have hcount : s'.count? registry = s.count? registry := by
    funext c serial
    rw [Surroundings.count?, Surroundings.count?, hs.elsewhere]
  rw [Attribute.reading, Attribute.reading, hworld, hcount]

/-- The rule that a builder makes of a definition. -/
def Builder.rule? (facts : Facts) (d : Definition) : Builder → Option (Rule Attribute)
  | introspection registry => (introspectionSource registry d).map (bind d d.name)
  | environment allow => (environmentSource allow d).map (bind d d.name)
  | system => (systemSource facts d).map (bind d d.name)
  | giving _ claim subject source =>
      if claim.admits d then some (bind d (subject.getD (subjectName d)) source) else none
  | _ => none

/-- How an expression is decided by an evaluator of the library, with no patterns kept. -/
def StandardEvaluator.judge (subject expression : String) (kind : StandardEvaluator) :
    Except EvaluationError Judge :=
  (kind.judgeFor {} subject expression).1

/-- A sound cache does not show in how an expression is decided, and it stays sound. -/
theorem StandardEvaluator.judgeFor_of_sound {cache : PatternCache Regex.language} (hcache : cache.Sound)
    (subject expression : String) (kind : StandardEvaluator) :
    (kind.judgeFor cache subject expression).1 = kind.judge subject expression ∧
      (kind.judgeFor cache subject expression).2.1.Sound := by
  cases kind with
  | numeric => exact ⟨rfl, hcache⟩
  | pattern =>
      exact ⟨PatternTest.judgeFor_of_sound hcache expression,
        PatternTest.sound_judgeFor hcache expression⟩
  | textual => exact ⟨rfl, hcache⟩

/-- What is decided about an expression from the reading of an attribute. -/
def Evaluator.decision (a : Attribute) (expression : String) (reading : Reading) :
    Evaluator → Decision
  | standard kind => (kind.judge (name a) expression).bind (·.onReading reading)
  | scripted _ _ verdict _ _ => match verdict with
    | .status s => .ok s
    | .invalidExpression => .error (.invalidExpression expression "scripted")
    | .unreadable => .error (.unreadable ⟨name a, "scripted"⟩)
    | .notNumeric => Judge.onReading (fun v => .error (.notNumeric (name a) v.render)) reading

/-! ## Providers that leave the registry alone -/

def Builder.IsQuiet : Builder → Prop
  | installing .. => False
  | removing .. => False
  | _ => True

def Evaluator.IsQuiet : Evaluator → Prop
  | standard _ => True
  | scripted _ _ _ installs removes => installs = none ∧ removes = none

instance (b : Builder) : Decidable b.IsQuiet :=
  match b with
  | .installing .. => .isFalse id
  | .removing .. => .isFalse id
  | .introspection _ | .environment _ | .system | .declining _ | .giving .. => .isTrue trivial

instance (e : Evaluator) : Decidable e.IsQuiet :=
  match e with
  | .standard _ => .isTrue trivial
  | .scripted _ _ _ installs removes => inferInstanceAs (Decidable (installs = none ∧ removes = none))

/-- No provider registers or deregisters providers. -/
structure Registry.IsQuiet (registry : Registry Builder Evaluator) : Prop where
  builders : ∀ b ∈ registry.builders, b.provider.IsQuiet
  evaluators : ∀ e ∈ registry.evaluators, e.provider.IsQuiet

/-- The answers of providers and attributes in surroundings that do not change. -/
def quietAnswers (registry : Registry Builder Evaluator) (s : Surroundings) :
    Answers Builder Evaluator Attribute where
  build b d := b.provider.rule? s.facts d
  accepts e _ expression := e.provider.accepts expression
  evaluate e a expression := e.provider.decision a expression (a.reading registry s)
  read a := a.reading registry s

section Quiet

variable {registry : Registry Builder Evaluator} {s : Surroundings}

theorem build_settles {b : Builder} (hb : b.IsQuiet) (d : Definition) :
    Settles (ε := Evaluator) registry s.Recalls (b.build d) (b.rule? s.facts d) := by
  intro h hs
  cases b with
  | introspection serial => exact ⟨rfl, hs⟩
  | environment allow => exact ⟨rfl, hs⟩
  | system =>
      -- The only builder that looks at its surroundings.
      refine ⟨?_, hs⟩
      rw [Builder.rule?, ← hs.known.facts]
      rfl
  | declining label => exact ⟨rfl, hs⟩
  | giving label claim subject source =>
      simp only [Builder.build, Builder.rule?]
      split <;> exact ⟨rfl, hs⟩
  | installing label claim builder => exact hb.elim
  | removing label claim number => exact hb.elim

theorem read_settles (a : Attribute) :
    Settles registry s.Recalls a.read (a.reading registry s) := by
  intro h hs
  refine ⟨?_, hs⟩
  rw [read_run, hs.registry_eq]
  exact a.reading_of_recalls hs.known registry

/-- An attribute is read if there is a way to decide. -/
theorem decideBy_settles (a : Attribute) (judge : Except EvaluationError Judge) :
    Settles registry s.Recalls (decideBy judge a.read)
      (judge.bind (·.onReading (a.reading registry s))) := by
  cases judge with
  | error e => exact Settles.pure _
  | ok judge => exact (read_settles a).bind (Settles.pure _)

theorem evaluateStandard_settles (id : ProviderId) (kind : StandardEvaluator) (a : Attribute)
    (expression : String) :
    Settles registry s.Recalls (Evaluator.evaluateStandard id kind a expression)
      ((kind.judge (name a) expression).bind (·.onReading (a.reading registry s))) := by
  intro h hs
  have hsound := StandardEvaluator.judgeFor_of_sound (hs.known.caches id) (name a) expression kind
  rw [← hsound.1]
  -- The host on which the attribute is read has the new cache, and the dropped patterns have been told.
  exact decideBy_settles a _ _ ⟨hs.registry_eq, hs.known.setCache id hsound.2⟩

theorem firstUse_settles (id : ProviderId) :
    Settles registry s.Recalls (Evaluator.firstUse id none none) () := by
  intro h hs
  have hknown := hs.known
  cases hused : h.surroundings.used.contains id with
  | true =>
      simp only [Evaluator.firstUse, HostM.run_bind, HostM.run_get, hused]
      exact ⟨trivial, hs⟩
  | false =>
      -- The use is noted, which is no part of what is known of the surroundings.
      simp only [Evaluator.firstUse, HostM.run_bind, HostM.run_get, hused]
      exact ⟨trivial, hs.registry_eq, hknown.environment, hknown.facts, hknown.cells,
        hknown.elsewhere, hknown.caches⟩

theorem evaluate_settles {e : Entry Evaluator} (he : e.provider.IsQuiet) (a : Attribute)
    (expression : String) :
    Settles registry s.Recalls (Evaluator.evaluate e a expression)
      (e.provider.decision a expression (a.reading registry s)) := by
  cases e with
  | mk id provider =>
      -- Evaluators of the library may remember patterns, those of the host that they have been used.
      cases provider with
      | standard kind => exact evaluateStandard_settles id kind a expression
      | scripted label acceptance verdict installs removes =>
          rcases he with ⟨rfl, rfl⟩
          refine (firstUse_settles id).bind ?_
          cases verdict with
          | status status => exact Settles.pure _
          | invalidExpression => exact Settles.pure _
          | notNumeric => exact decideBy_settles a (.ok _)
          | unreadable => exact Settles.pure _

/-- Builders that leave the registry alone answer alike, whatever evaluators remember. -/
theorem builders_steady (hquiet : ∀ b ∈ registry.builders, b.provider.IsQuiet) :
    SteadyBuilders providers registry s.Recalls (quietAnswers registry s) where
  build := fun b hb d => build_settles (hquiet b hb) d

/-- Where evaluators leave the registry alone, what they remember does not show. -/
theorem evaluators_steady (hquiet : ∀ e ∈ registry.evaluators, e.provider.IsQuiet) :
    SteadyJudges providers registry s.Recalls (quietAnswers registry s) where
  accepts := fun _ _ _ _ => Settles.pure _
  evaluate := fun e he a expression => evaluate_settles (hquiet e he) a expression
  read := read_settles

end Quiet

end HealthRules
