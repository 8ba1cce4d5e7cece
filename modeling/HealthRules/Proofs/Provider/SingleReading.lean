import HealthRules.Proofs.Provider.Strictness

/-!
# SingleReading — how often an attribute is read

Reading an attribute may do anything: it may change what other attributes read, and it may answer differently the
next time. So it matters when evaluators read, and how often. Those of the library look at nothing but the name of
an attribute until they know how to decide an expression; then they read once, and everything that is said about
the rule comes from that reading. An expression that cannot be decided is refused without a reading.

* `Evaluator.evaluateReading` and `Behaviour.HasLibraryEvaluators`: the evaluators of the library, for attributes
  that are read in any way;
* `Candidate.GivesUp`, the expressions that cannot be decided, with the error, and `judge_eq_error_iff`;
* `ReadInTurn`, rules that are evaluated with one reading each at most, and `evaluateOne_run`, one of them;
* `evaluate_readInTurn`, a whole pass.
-/

namespace HealthRules

variable {β α : Type}

/-! ## Attributes of any kind -/

/-- Evaluate with an evaluator of the library an expression for the attribute `subject`, which is read by `read`. -/
def Evaluator.evaluateReading {ε : Type} (id : ProviderId) (kind : StandardEvaluator)
    (subject expression : String) (read : HostM β ε Surroundings Reading) :
    HostM β ε Surroundings Decision := do
  let cache := (← get).surroundings.cacheOf id
  let (judge, cache, dropped) := kind.judgeFor cache subject expression
  modify fun h => { h with surroundings := h.surroundings.setCache id cache }
  Host.tellAll (dropped.toList.map .patternsDropped)
  decideBy judge read

/-- The attributes of the library are read in their own way. -/
theorem evaluateStandard_eq {ε : Type} (id : ProviderId) (kind : StandardEvaluator) (a : Attribute)
    (expression : String) :
    (Evaluator.evaluateStandard id kind a expression : HostM β ε Surroundings Decision) =
      Evaluator.evaluateReading id kind (name a) expression a.read := rfl

/-- The evaluators of the library accept and evaluate for all attributes as they do for those of the library,
however these are read. -/
structure Behaviour.HasLibraryEvaluators [Named α] (B : Behaviour β Evaluator α Surroundings) :
    Prop where
  accepts : ∀ id kind a expression,
    B.accepts ⟨id, .standard kind⟩ a expression = pure (kind.accepts expression)
  evaluate : ∀ id kind a expression, B.evaluate ⟨id, .standard kind⟩ a expression =
    Evaluator.evaluateReading id kind (name a) expression (B.read a)

/-- The providers of the library with another way to read attributes. -/
def providersReading (read : Attribute → ProviderM Reading) :
    Behaviour Builder Evaluator Attribute Surroundings where
  build := providers.build
  accepts := providers.accepts
  evaluate e a expression := match e.provider with
    | .standard kind => Evaluator.evaluateReading e.id kind (name a) expression (read a)
    | .scripted .. => Evaluator.evaluate e a expression
  read := read

theorem hasLibraryEvaluators_reading (read : Attribute → ProviderM Reading) :
    (providersReading read).HasLibraryEvaluators := ⟨fun _ _ _ _ => rfl, fun _ _ _ _ => rfl⟩

theorem hasLibraryEvaluators_providers : providers.HasLibraryEvaluators :=
  ⟨fun _ _ _ _ => rfl, evaluateStandard_eq⟩

/-! ## Who decides, and how -/

namespace Candidate

/-- How an evaluator of the library, or the fallback, decides an expression for the attribute `subject`. -/
def judge (subject expression : String) : Candidate Evaluator → Except EvaluationError Judge
  | .registered ⟨_, .standard kind⟩ => kind.judge subject expression
  | _ => .ok (textuallyEqual expression)

/-- The expression cannot be decided, and the error says why. Attributes have no part in this. -/
inductive GivesUp : Candidate Evaluator → String → EvaluationError → Prop where
  | reversedBounds {id : ProviderId} {expression : String} {low high : Binary64}
      (hparse : Comparison.parse expression.toList = .ok (.between low high))
      (hreversed : high.lt low = true) :
      GivesUp (.registered ⟨id, .standard .numeric⟩) expression
        (.invalidExpression expression Comparison.Defect.reversedBounds.message)
  | refusedPattern {id : ProviderId} {expression : String} {t : PatternTest} {refusal : Regex.Refusal}
      (hparse : PatternTest.parse? expression = some t)
      (hrefused : Regex.compile t.pattern = .error refusal) :
      GivesUp (.registered ⟨id, .standard .pattern⟩) expression
        (.invalidExpression t.pattern refusal.message)

/-- The host once an evaluator knows how to decide: the choice has been told, and patterns have been remembered. -/
def ready [Named α] (c : Candidate Evaluator) (r : Rule α) (h : Host β Evaluator Surroundings) :
    Host β Evaluator Surroundings :=
  let told := Event.dispatched r.render (name c) :: h.past
  match c with
  | .registered ⟨id, .standard kind⟩ =>
      let remembered := (kind.judgeFor (h.surroundings.cacheOf id) (name r.subject) r.expression).2
      { h with
        surroundings := h.surroundings.setCache id remembered.1
        past := (remembered.2.toList.map Event.patternsDropped).reverse ++ told }
  | _ => { h with past := told }

/-- What is said about a rule from one reading: a status and a message. -/
def verdict (strict : Bool) (c : Candidate Evaluator) (subject expression : String)
    (reading : Reading) : Status × String :=
  let decision := (c.judge subject expression).bind (·.onReading reading)
  (Outcome.statusOf strict decision, Outcome.messageOf (name c) decision)

/-- There is one error at most. -/
theorem GivesUp.unique {c : Candidate Evaluator} {expression : String} {error error' : EvaluationError}
    (h : c.GivesUp expression error) (h' : c.GivesUp expression error') : error = error' := by
  cases h with
  | reversedBounds hparse hreversed =>
      cases h' with
      | reversedBounds hparse' hreversed' => rfl
  | refusedPattern hparse hrefused =>
      cases h' with
      | refusedPattern hparse' hrefused' =>
          cases hparse.symm.trans hparse'
          cases hrefused.symm.trans hrefused'
          rfl

/-- The error of an expression that cannot be decided is no failure to read. -/
theorem GivesUp.status_eq {c : Candidate Evaluator} {expression : String}
    {error : EvaluationError} (h : c.GivesUp expression error) (strict : Bool) :
    Outcome.statusOf strict (.error error) = .error := by
  cases h with
  | reversedBounds hparse hreversed => rfl
  | refusedPattern hparse hrefused => rfl

end Candidate

theorem Comparison.judgeFor_eq_error_iff {expression : String} (haccepts : accepts expression = true)
    (subject : String) (error : EvaluationError) (id : ProviderId) :
    judgeFor expression subject = .error error ↔
      Candidate.GivesUp (.registered ⟨id, .standard .numeric⟩) expression error := by
  cases hparse : parse expression.toList with
  | error d => simp [accepts, hparse, Except.toBool] at haccepts
  | ok c =>
      constructor
      · intro herror
        by_cases hc : c.isReversed = true
        · rcases c.isReversed_iff.1 hc with ⟨low, high, rfl, hlt⟩
          simp [judgeFor, resolve, hparse, hc, Except.map] at herror
          subst herror
          exact .reversedBounds hparse hlt
        · simp [judgeFor, resolve, hparse, hc, Except.map] at herror
      · rintro (⟨hparse', hlt⟩ | -)
        have hc : c.isReversed = true := by
          cases hparse.symm.trans hparse'
          exact hlt
        simp [judgeFor, resolve, hparse, hc, Except.map]

theorem PatternTest.judgeFor_eq_error_iff {expression : String} (haccepts : accepts expression = true)
    (error : EvaluationError) (id : ProviderId) :
    (judgeFor ({} : PatternCache Regex.language) expression).1 = .error error ↔
      Candidate.GivesUp (.registered ⟨id, .standard .pattern⟩) expression error := by
  rcases Option.isSome_iff_exists.1 haccepts with ⟨t, ht⟩
  rw [judgeFor_eq ht]
  constructor
  · intro herror
    cases hr : Regex.compile t.pattern with
    | ok r => simp [judgeBy, hr] at herror
    | error refusal =>
        simp only [judgeBy, hr, Except.error.injEq] at herror
        subst herror
        exact .refusedPattern ht hr
  · rintro (- | ⟨ht', hrefused⟩)
    cases ht.symm.trans ht'
    exact congrArg (t.judgeBy Regex.language) hrefused

theorem Evaluator.firstFor_cons (e : Entry Evaluator) (rest : List (Entry Evaluator))
    (expression : String) :
    firstFor (e :: rest) expression =
      if e.provider.accepts expression = true then .registered e else firstFor rest expression := by
  rw [firstFor, List.find?_cons]
  cases e.provider.accepts expression with
  | true => rfl
  | false => rfl

/-- Whoever decides an expression can do so unless it is one of those that cannot be decided. -/
theorem judge_eq_error_iff {evaluators : List (Entry Evaluator)}
    (hstandard : ∀ e ∈ evaluators, ∃ kind, e.provider = .standard kind) (subject expression : String)
    (error : EvaluationError) :
    (Evaluator.firstFor evaluators expression).judge subject expression = .error error ↔
      (Evaluator.firstFor evaluators expression).GivesUp expression error := by
  rcases Evaluator.firstFor_cases hstandard expression with hfirst | ⟨id, kind, hfirst, haccepts⟩
  · rw [hfirst]
    exact ⟨nofun, nofun⟩
  · rw [hfirst]
    cases kind with
    | numeric => exact Comparison.judgeFor_eq_error_iff haccepts subject error id
    | pattern => exact PatternTest.judgeFor_eq_error_iff haccepts error id
    | textual => exact ⟨nofun, nofun⟩

/-! ## One rule -/

section Reading

variable [Named α] {B : Behaviour β Evaluator α Surroundings}

/-- To find out who decides an expression nothing is done at all. -/
theorem choose_eq (hB : B.HasLibraryEvaluators) {evaluators : List (Entry Evaluator)}
    (hstandard : ∀ e ∈ evaluators, ∃ kind, e.provider = .standard kind) (r : Rule α) :
    B.choose r evaluators = pure (Evaluator.firstFor evaluators r.expression) := by
  induction evaluators with
  | nil => rfl
  | cons e rest ih =>
      have hrest := ih fun e' he' => hstandard e' (List.mem_cons_of_mem e he')
      rcases hstandard e List.mem_cons_self with ⟨kind, hkind⟩
      rcases e with ⟨id, provider⟩
      cases hkind
      rw [Behaviour.choose, hB.accepts, pure_bind, hrest, Evaluator.firstFor_cons]
      exact (apply_ite pure _ _ _).symm

/-- What the evaluators of a host remember of patterns is right. -/
def Host.Sound (h : Host β Evaluator Surroundings) : Prop := ∀ id, (h.surroundings.cacheOf id).Sound

/-- What evaluators remember is out of the reach of attributes. -/
def Behaviour.SparesPatterns (B : Behaviour β Evaluator α Surroundings) : Prop :=
  ∀ a (h : Host β Evaluator Surroundings), h.Sound → ((B.read a).run h).2.Sound

theorem Host.Sound.ready {h : Host β Evaluator Surroundings} (hsound : h.Sound)
    (c : Candidate Evaluator) (r : Rule α) : (c.ready r h).Sound := by
  intro id'
  unfold Candidate.ready
  split
  · next id kind =>
      have hremembered := (StandardEvaluator.judgeFor_of_sound (hsound id) (name r.subject) r.expression
        kind).2
      simp only [Surroundings.cacheOf_setCache]
      split
      · exact hremembered
      · exact hsound id'
  · exact hsound id'

/-- Deciding is reading on a host that is ready, if there is a way to decide. -/
theorem decide_run (hB : B.HasLibraryEvaluators) {evaluators : List (Entry Evaluator)}
    (hstandard : ∀ e ∈ evaluators, ∃ kind, e.provider = .standard kind) (r : Rule α)
    {h : Host β Evaluator Surroundings} (hsound : h.Sound) :
    let c := Evaluator.firstFor evaluators r.expression
    (do Host.tell (.dispatched r.render (name c))
        B.decide r c : HostM β Evaluator Surroundings Decision).run h =
      (decideBy (c.judge (name r.subject) r.expression) (B.read r.subject)).run (c.ready r h) := by
  intro c
  rcases Evaluator.firstFor_cases hstandard r.expression with hfirst | ⟨id, kind, hfirst, -⟩
  · rw [show c = .fallback from hfirst]
    rfl
  · have hjudge := (StandardEvaluator.judgeFor_of_sound (hsound id) (name r.subject) r.expression kind).1
    rw [show c = .registered ⟨id, .standard kind⟩ from hfirst, HostM.run_bind, Behaviour.decide, hB.evaluate,
      Candidate.judge, ← hjudge]
    rfl

/-- A rule is evaluated by deciding it on a host that is ready. -/
theorem evaluateOne_run (hB : B.HasLibraryEvaluators) {registry : Registry β Evaluator}
    (hstandard : registry.HasStandardEvaluators) (strict : Bool) (r : Rule α)
    {h : Host β Evaluator Surroundings} (hsound : h.Sound) :
    let c := Evaluator.firstFor registry.evaluators r.expression
    let decided := (decideBy (c.judge (name r.subject) r.expression) (B.read r.subject)).run (c.ready r h)
    (B.evaluateOne strict registry.candidates r).run h =
      (.ofDecision strict (name c) r decided.1, decided.2) := by
  intro c decided
  have hdecide : decided = _ := (decide_run hB hstandard r hsound).symm
  rw [hdecide, evaluateOne_candidates, choose_eq hB hstandard r]
  rfl

/-- Where an expression cannot be decided, the attribute shows by its name in what is told, and in nothing else. -/
theorem evaluateOne_unread (hB : B.HasLibraryEvaluators) {registry : Registry β Evaluator}
    (hstandard : registry.HasStandardEvaluators) (strict : Bool) {r : Rule α}
    {h : Host β Evaluator Surroundings} (hsound : h.Sound) {error : EvaluationError}
    (hgives : (Evaluator.firstFor registry.evaluators r.expression).GivesUp r.expression error) :
    (B.evaluateOne strict registry.candidates r).run h =
      (⟨r, .error, error.message⟩, (Evaluator.firstFor registry.evaluators r.expression).ready r h) := by
  have hjudge := (judge_eq_error_iff hstandard (name r.subject) r.expression error).2 hgives
  have hstatus := hgives.status_eq strict
  have hrun := evaluateOne_run hB hstandard strict r hsound
  simp only [hjudge] at hrun
  rw [hrun, ← hstatus]
  rfl

/-- Where it can be decided, all comes of one reading. -/
theorem evaluateOne_read (hB : B.HasLibraryEvaluators) {registry : Registry β Evaluator}
    (hstandard : registry.HasStandardEvaluators) (strict : Bool) {r : Rule α}
    {h : Host β Evaluator Surroundings} (hsound : h.Sound)
    (hdecides : ∀ error, ¬ (Evaluator.firstFor registry.evaluators r.expression).GivesUp r.expression error) :
    let c := Evaluator.firstFor registry.evaluators r.expression
    let read := (B.read r.subject).run (c.ready r h)
    let said := c.verdict strict (name r.subject) r.expression read.1
    (B.evaluateOne strict registry.candidates r).run h =
      (⟨r, said.1, said.2⟩, read.2) := by
  have hrun := evaluateOne_run hB hstandard strict r hsound
  cases hjudge : (Evaluator.firstFor registry.evaluators r.expression).judge (name r.subject) r.expression with
  | error error =>
      exact absurd ((judge_eq_error_iff hstandard (name r.subject) r.expression error).1 hjudge)
        (hdecides error)
  | ok judge =>
      simp only [hjudge] at hrun
      simp only [Candidate.verdict, hjudge]
      exact hrun

/-! ## Rules in turn -/

/-- Rules are evaluated one after another. If nobody can decide an expression nothing is read for its rule; otherwise
one reading of its attribute settles the outcome. -/
inductive ReadInTurn (B : Behaviour β Evaluator α Surroundings) (strict : Bool)
    (evaluators : List (Entry Evaluator)) :
    Host β Evaluator Surroundings → List (Rule α) → List (Option Reading) → List (Outcome α) →
      Host β Evaluator Surroundings → Prop where
  | nil (h : Host β Evaluator Surroundings) : ReadInTurn B strict evaluators h [] [] [] h
  | unread {h h' : Host β Evaluator Surroundings} {r : Rule α} {rs : List (Rule α)}
      {readings : List (Option Reading)} {outcomes : List (Outcome α)} {error : EvaluationError}
      (hgives : (Evaluator.firstFor evaluators r.expression).GivesUp r.expression error)
      (hrest : ReadInTurn B strict evaluators
        ((Evaluator.firstFor evaluators r.expression).ready r h) rs readings outcomes h') :
      ReadInTurn B strict evaluators h (r :: rs) (none :: readings)
        (⟨r, .error, error.message⟩ :: outcomes) h'
  | read {h h₁ h' : Host β Evaluator Surroundings} {r : Rule α} {rs : List (Rule α)} {reading : Reading}
      {readings : List (Option Reading)} {outcomes : List (Outcome α)} {said : Status × String}
      (hdecides : ∀ error, ¬ (Evaluator.firstFor evaluators r.expression).GivesUp r.expression error)
      (hread : (B.read r.subject).run ((Evaluator.firstFor evaluators r.expression).ready r h) =
        (reading, h₁))
      (hsaid : said = (Evaluator.firstFor evaluators r.expression).verdict strict (name r.subject)
        r.expression reading)
      (hrest : ReadInTurn B strict evaluators h₁ rs readings outcomes h') :
      ReadInTurn B strict evaluators h (r :: rs) (some reading :: readings)
        (⟨r, said.1, said.2⟩ :: outcomes) h'

/-- The rules of a pass are evaluated in turn: each finds the host as the reading for the one before it has left it. -/
theorem evaluateEach_readInTurn (hB : B.HasLibraryEvaluators) (hspares : B.SparesPatterns)
    {registry : Registry β Evaluator}
    (hstandard : registry.HasStandardEvaluators) (strict : Bool)
    (rs : List (Rule α)) {h : Host β Evaluator Surroundings} (hsound : h.Sound) :
    let run := (B.evaluateEach strict registry.candidates rs).run h
    ∃ readings, ReadInTurn B strict registry.evaluators h rs readings run.1 run.2 := by
  induction rs generalizing h with
  | nil => exact ⟨[], .nil h⟩
  | cons r rs ih =>
      have hready := hsound.ready (Evaluator.firstFor registry.evaluators r.expression) r
      simp only [Behaviour.evaluateEach, HostM.run_bind, HostM.run_pure]
      by_cases hgives : ∃ error, (Evaluator.firstFor registry.evaluators r.expression).GivesUp r.expression error
      · rcases hgives with ⟨error, hgives⟩
        rw [evaluateOne_unread hB hstandard strict hsound hgives]
        rcases ih hready with ⟨readings, hrest⟩
        exact ⟨none :: readings, .unread hgives hrest⟩
      · have hdecides := not_exists.1 hgives
        rw [evaluateOne_read hB hstandard strict hsound hdecides]
        -- The reading may have done anything but to touch what evaluators remember.
        rcases ih (hspares r.subject _ hready) with ⟨readings, hrest⟩
        exact ⟨some _ :: readings, .read hdecides rfl rfl hrest⟩

end Reading

/-- Whatever readings do, finding out who decides a rule reads nothing, and a rule is decided by one reading of its
attribute, or by none if its expression cannot be decided. -/
theorem evaluate_readInTurn [Named α] :
    (providers.HasLibraryEvaluators ∧ providers.SparesPatterns) ∧
    (∀ (c : Candidate Evaluator) expression error error', c.GivesUp expression error →
      c.GivesUp expression error' → error = error') ∧
    ∀ B : Behaviour β Evaluator α Surroundings, B.HasLibraryEvaluators → B.SparesPatterns →
      ∀ (e : Engine α) (h : Host β Evaluator Surroundings), h.registry.HasStandardEvaluators → h.Sound →
        (∀ r, B.dispatch r h.registry.candidates =
          pure (some (Evaluator.firstFor h.registry.evaluators r.expression))) ∧
        ∃ readings h', ReadInTurn B e.unreadableIsError h.registry.evaluators h e.rules readings
          ((e.evaluate B).run h).1 h' ∧ Alike h' ((e.evaluate B).run h).2 := by
  refine ⟨⟨hasLibraryEvaluators_providers, fun _ _ hsound => hsound⟩,
    fun _ _ _ _ => Candidate.GivesUp.unique, ?_⟩
  intro B hB hspares e h hstandard hsound
  rcases evaluateEach_readInTurn hB hspares hstandard e.unreadableIsError e.rules hsound with
    ⟨readings, hturn⟩
  have hdispatch : ∀ r, B.dispatch r h.registry.candidates =
      pure (some (Evaluator.firstFor h.registry.evaluators r.expression)) := by
    intro r
    rw [dispatch_candidates, choose_eq hB hstandard, map_pure]
  -- After the last rule the pass tells how many there were, and that is all.
  exact ⟨hdispatch, readings, _, hturn, Alike.tell _ _⟩

/-- Processors that get one more with each reading. Of five rules three read them, and each finds another number. -/
theorem evaluate_readInTurn_growing :
    let read : Attribute → ProviderM Reading := fun a => do
      let reading ← a.read
      modify fun h => { h with surroundings.facts.cpus := h.surroundings.facts.cpus.map (· + 1) }
      return reading
    let e : Engine Attribute := { rules := ["> 1", "between 5 1", "~ (", "~ ^2$", "3"].map fun expression =>
      ⟨⟨"cpus", .cpus⟩, expression⟩ }
    let h : ProviderHost :=
      { registry := ((Registry.empty 0).addEvaluator (.standard .numeric)).addEvaluator (.standard .pattern)
        surroundings := { environment := {}, facts := ⟨"", "", "", .ok 1, 1⟩ } }
    let run := (e.evaluate (providersReading read)).run h
    (providersReading read).HasLibraryEvaluators ∧ (providersReading read).SparesPatterns ∧
      h.registry.HasStandardEvaluators ∧ h.Sound ∧
      (∃ readings h', ReadInTurn (providersReading read) false h.registry.evaluators h e.rules readings
        run.1 h' ∧ Alike h' run.2) ∧
      run.1.map (·.status) = [.error, .error, .error, .ok, .ok] ∧ run.2.surroundings.facts.cpus = .ok 4 := by
  intro read e h run
  have hB : (providersReading read).HasLibraryEvaluators := hasLibraryEvaluators_reading read
  have hspares : (providersReading read).SparesPatterns := fun _ _ hsound => hsound
  have hstandard : h.registry.HasStandardEvaluators := by
    intro entry hentry
    rcases List.mem_cons.1 hentry with rfl | hentry
    · exact ⟨.numeric, rfl⟩
    · rcases List.mem_singleton.1 hentry with rfl
      exact ⟨.pattern, rfl⟩
  have hsound : h.Sound := fun _ => PatternCache.sound_empty
  have hturn := (evaluate_readInTurn.2.2 (providersReading read) hB hspares e h hstandard hsound).2
  exact ⟨hB, hspares, hstandard, hsound, hturn, by decide +kernel, by decide +kernel⟩

end HealthRules
