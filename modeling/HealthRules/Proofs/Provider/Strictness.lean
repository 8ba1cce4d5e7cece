import HealthRules.Proofs.Provider.Answers

/-!
# Strictness — what cannot be read, as a warning or as an error

An engine takes an attribute that cannot be read for a warning, or for an error if that is asked for. This is
all that the mode changes, whatever evaluators there are. Those of the library warn for no other reason, and
they do not even try to read where an expression cannot be decided anyway.

* `Decision.IsConclusive`, decisions that never warn, and `statusOf_eq_warn_iff`;
* `Judgement.HasReversedBounds` and `Judgement.HasRefusedPattern`, what cannot be decided;
* `status_eq_warn_iff`, when an evaluator of the library warns;
* `evaluate_strict_lax`: both modes, outcome by outcome.
-/

namespace HealthRules

/-! ## Conclusive decisions -/

/-- The decision is no warning in either mode. -/
def Decision.IsConclusive (d : Decision) : Prop := d ≠ .ok .warn ∧ ∀ e, d ≠ .error (.unreadable e)

/-- What is decided is conclusive, whatever the value is. -/
def Judge.IsConclusive (judge : Judge) : Prop := ∀ v, (judge v).IsConclusive

/-- There is a conclusive way to decide, or there is none and that is conclusive. -/
def ConclusiveWay : Except EvaluationError Judge → Prop
  | .ok judge => judge.IsConclusive
  | .error e => Decision.IsConclusive (.error e)

theorem isConclusive_ofBool (holds : Bool) : Decision.IsConclusive (.ok (.ofBool holds)) := by
  cases holds <;> exact ⟨nofun, nofun⟩

theorem isConclusive_textuallyEqual (expression : String) :
    (textuallyEqual expression).IsConclusive :=
  fun _ => isConclusive_ofBool _

theorem Decision.IsConclusive.status_ne_warn {d : Decision} (hd : d.IsConclusive) (strict : Bool) :
    Outcome.statusOf strict d ≠ .warn := by
  cases d with
  | ok status =>
      intro hwarn
      exact hd.1 (congrArg Except.ok hwarn)
  | error e =>
      cases e with
      | unreadable u => exact absurd rfl (hd.2 u)
      | invalidExpression expression reason => nofun
      | notNumeric subject value => nofun

/-- A conclusive way to decide leads to a warning just if there is nothing to decide from. -/
theorem statusOf_eq_warn_iff {judge : Except EvaluationError Judge} (hjudge : ConclusiveWay judge)
    (strict : Bool) (reading : Reading) :
    Outcome.statusOf strict (judge.bind (·.onReading reading)) = .warn ↔
      strict = false ∧ (∃ u, reading = .error u) ∧ ∃ j, judge = .ok j := by
  cases judge with
  | error e =>
      have hne := hjudge.status_ne_warn strict
      constructor
      · intro hwarn
        exact absurd hwarn hne
      · rintro ⟨-, -, j, hj⟩
        cases hj
  | ok j =>
      cases reading with
      | ok v =>
          have hne := (hjudge v).status_ne_warn strict
          constructor
          · intro hwarn
            exact absurd hwarn hne
          · rintro ⟨-, ⟨u, hu⟩, -⟩
            cases hu
      | error u =>
          -- The reading has failed, and what that counts for is left to the mode.
          cases strict <;> simp [Except.bind, Judge.onReading, Outcome.statusOf]

/-! ## Evaluators of the library -/

namespace Comparison

theorem isReversed_iff (c : Comparison) :
    c.isReversed = true ↔ ∃ low high, c = .between low high ∧ high.lt low = true := by
  cases c with
  | against op operand => simp [isReversed]
  | between low high => simp [isReversed]

theorem isConclusive_judge (c : Comparison) (subject : String) : (c.judge subject).IsConclusive := by
  intro v
  cases hnumber : v.number? with
  | none =>
      simp only [judge, hnumber]
      exact ⟨nofun, nofun⟩
  | some n =>
      simp only [judge, hnumber]
      exact isConclusive_ofBool _

theorem resolve_cases (expression : String) :
    (∃ c, resolve expression = .ok c) ∨ ∃ reason, resolve expression =
      .error (.invalidExpression expression reason) := by
  unfold resolve
  split
  · exact .inr ⟨_, rfl⟩
  · split
    · exact .inr ⟨_, rfl⟩
    · exact .inl ⟨_, rfl⟩

theorem conclusiveWay_judgeFor (expression subject : String) :
    ConclusiveWay (judgeFor expression subject) := by
  rcases resolve_cases expression with ⟨c, hc⟩ | ⟨reason, hreason⟩
  · rw [judgeFor, hc]
    exact c.isConclusive_judge subject
  · rw [judgeFor, hreason]
    exact ⟨nofun, nofun⟩

/-- An expression that is accepted can be decided unless its bounds are reversed. -/
theorem exists_judgeFor_iff {expression : String} (haccepts : accepts expression = true)
    (subject : String) :
    (∃ j, judgeFor expression subject = .ok j) ↔
      ¬ ∃ low high, parse expression.toList = .ok (.between low high) ∧ high.lt low = true := by
  -- What cannot be parsed has not been accepted.
  cases hparse : parse expression.toList with
  | error d => simp [accepts, hparse, Except.toBool] at haccepts
  | ok c =>
      have hreversed := c.isReversed_iff
      by_cases hc : c.isReversed = true
      · simpa [judgeFor, resolve, hparse, hc, Except.map] using hreversed.1 hc
      · simpa [judgeFor, resolve, hparse, hc, Except.map] using mt hreversed.2 hc

end Comparison

namespace PatternTest

variable {L : PatternLanguage}

/-- With no patterns kept, a test is decided by compiling its pattern. -/
theorem judgeFor_eq {expression : String} {t : PatternTest} (h : parse? expression = some t) :
    (judgeFor ({} : PatternCache L) expression).1 = t.judgeBy L (L.compile t.pattern) := by
  have hfetch := PatternCache.fetch_compiled (L := L) PatternCache.sound_empty t.pattern
  simp only [judgeFor, h, hfetch]

theorem conclusiveWay_judgeFor (expression : String) :
    ConclusiveWay (judgeFor ({} : PatternCache L) expression).1 := by
  cases ht : parse? expression with
  | none =>
      simp only [judgeFor, ht]
      exact ⟨nofun, nofun⟩
  | some t =>
      rw [judgeFor_eq ht]
      cases L.compile t.pattern with
      | ok r => exact fun _ => isConclusive_ofBool _
      | error refusal => exact ⟨nofun, nofun⟩

/-- An expression that is accepted can be decided unless its pattern is refused. -/
theorem exists_judgeFor_iff {expression : String} (haccepts : accepts expression = true) :
    (∃ j, (judgeFor ({} : PatternCache L) expression).1 = .ok j) ↔
      ¬ ∃ t refusal, parse? expression = some t ∧ L.compile t.pattern = .error refusal := by
  rcases Option.isSome_iff_exists.1 haccepts with ⟨t, ht⟩
  rw [judgeFor_eq ht]
  cases hr : L.compile t.pattern with
  | ok r => simp [ht, hr, judgeBy]
  | error refusal => simp [ht, hr, judgeBy]

end PatternTest

namespace StandardEvaluator

theorem conclusiveWay_judge (subject expression : String) (kind : StandardEvaluator) :
    ConclusiveWay (kind.judge subject expression) := by
  cases kind with
  | numeric => exact Comparison.conclusiveWay_judgeFor expression subject
  | pattern => exact PatternTest.conclusiveWay_judgeFor expression
  | textual => exact isConclusive_textuallyEqual expression

end StandardEvaluator

/-! ## Warnings -/

namespace Judgement

/-- The rule went to an evaluator for comparisons, with two bounds in the wrong order. -/
def HasReversedBounds (j : Judgement Evaluator Attribute) : Prop :=
  ∃ id low high, j.evaluator = .registered ⟨id, .standard .numeric⟩ ∧
    Comparison.parse j.rule.expression.toList = .ok (.between low high) ∧ high.lt low = true

/-- The rule went to an evaluator for patterns, with a pattern that is refused. -/
def HasRefusedPattern (j : Judgement Evaluator Attribute) : Prop :=
  ∃ id t refusal, j.evaluator = .registered ⟨id, .standard .pattern⟩ ∧
    PatternTest.parse? j.rule.expression = some t ∧ Regex.compile t.pattern = .error refusal

end Judgement

/-- All evaluators that are registered are evaluators of the library. -/
def Registry.HasStandardEvaluators {β : Type} (registry : Registry β Evaluator) : Prop :=
  ∀ e ∈ registry.evaluators, ∃ kind, e.provider = .standard kind

/-- The first evaluator that accepts an expression, or else the fallback. -/
def Evaluator.firstFor (evaluators : List (Entry Evaluator)) (expression : String) :
    Candidate Evaluator :=
  match evaluators.find? (·.provider.accepts expression) with
  | some e => .registered e
  | none => .fallback

/-- Either the fallback decides, or an evaluator of the library that accepts the expression. -/
theorem Evaluator.firstFor_cases {evaluators : List (Entry Evaluator)}
    (hstandard : ∀ e ∈ evaluators, ∃ kind, e.provider = .standard kind) (expression : String) :
    firstFor evaluators expression = .fallback ∨ ∃ id kind,
      firstFor evaluators expression = .registered ⟨id, .standard kind⟩ ∧
        kind.accepts expression = true := by
  rw [firstFor]
  cases hfound : evaluators.find? (·.provider.accepts expression) with
  | none => exact .inl rfl
  | some e =>
      rcases hstandard e (List.mem_of_find?_eq_some hfound) with ⟨kind, hkind⟩
      have haccepts := List.find?_some hfound
      rcases e with ⟨id, provider⟩
      cases hkind
      exact .inr ⟨id, kind, rfl, haccepts⟩

section Warnings

variable {registry : Registry Builder Evaluator} {s : Surroundings}

theorem chosen_eq (r : Rule Attribute) :
    (quietAnswers registry s).chosen registry.evaluators r =
      Evaluator.firstFor registry.evaluators r.expression := by
  have haccepts : (fun e => (quietAnswers registry s).accepts e r.subject r.expression) =
      fun e => e.provider.accepts r.expression := rfl
  rw [Answers.chosen, Evaluator.firstFor, haccepts]
  cases registry.evaluators.find? fun e => e.provider.accepts r.expression <;> rfl

/-- An evaluator of the library can decide what it accepts unless bounds are reversed or a pattern is refused. -/
theorem exists_judge_iff {j : Judgement Evaluator Attribute} {id : ProviderId}
    {kind : StandardEvaluator} (hkind : j.evaluator = .registered ⟨id, .standard kind⟩)
    (haccepts : kind.accepts j.rule.expression = true) (subject : String) :
    (∃ judge, kind.judge subject j.rule.expression = .ok judge) ↔
      ¬ j.HasReversedBounds ∧ ¬ j.HasRefusedPattern := by
  cases kind with
  | numeric =>
      have hnoPattern : ¬ j.HasRefusedPattern := by
        rintro ⟨id', t, refusal, hevaluator, -⟩
        simp [hkind] at hevaluator
      have hbounds : j.HasReversedBounds ↔ ∃ low high,
          Comparison.parse j.rule.expression.toList = .ok (.between low high) ∧
            high.lt low = true := by
        simp [Judgement.HasReversedBounds, hkind]
      rw [hbounds]
      exact (Comparison.exists_judgeFor_iff haccepts subject).trans (and_iff_left hnoPattern).symm
  | pattern =>
      have hnoBounds : ¬ j.HasReversedBounds := by
        rintro ⟨id', low, high, hevaluator, -⟩
        simp [hkind] at hevaluator
      have hpattern : j.HasRefusedPattern ↔ ∃ t refusal,
          PatternTest.parse? j.rule.expression = some t ∧
            Regex.compile t.pattern = .error refusal := by
        simp [Judgement.HasRefusedPattern, hkind]
      rw [hpattern]
      exact (PatternTest.exists_judgeFor_iff haccepts).trans (and_iff_right hnoBounds).symm
  | textual =>
      -- Texts can always be compared.
      have hok : ∃ judge, StandardEvaluator.textual.judge subject j.rule.expression = .ok judge :=
        ⟨_, rfl⟩
      simpa [Judgement.HasReversedBounds, Judgement.HasRefusedPattern, hkind] using hok

/-- An evaluator of the library warns just if it can decide the expression and cannot read the attribute. -/
theorem status_eq_warn_iff (hstandard : registry.HasStandardEvaluators) (r : Rule Attribute)
    (strict : Bool) :
    let j := (quietAnswers registry s).judgement registry.evaluators r
    (j.outcome strict).status = .warn ↔
      strict = false ∧ (∃ u, r.subject.reading registry s = .error u) ∧
        ¬ j.HasReversedBounds ∧ ¬ j.HasRefusedPattern := by
  intro j
  have hstatus : (j.outcome strict).status = Outcome.statusOf strict
      ((quietAnswers registry s).decision r j.evaluator) := rfl
  rcases Evaluator.firstFor_cases hstandard r.expression with
    hchosen | ⟨id, kind, hchosen, haccepts⟩
  · -- The fallback can compare any texts.
    have hevaluator : j.evaluator = .fallback := (chosen_eq r).trans hchosen
    have hnone : ¬ j.HasReversedBounds ∧ ¬ j.HasRefusedPattern := by
      simp [Judgement.HasReversedBounds, Judgement.HasRefusedPattern, hevaluator]
    have hway : ConclusiveWay (.ok (textuallyEqual r.expression)) :=
      isConclusive_textuallyEqual r.expression
    have hwarn := statusOf_eq_warn_iff hway strict (r.subject.reading registry s)
    rw [hstatus, hevaluator]
    refine hwarn.trans ?_
    simp [hnone]
  · -- An evaluator of the library can decide unless the expression is one of those two kinds.
    have hevaluator : j.evaluator = .registered ⟨id, .standard kind⟩ := (chosen_eq r).trans hchosen
    have hway := kind.conclusiveWay_judge (name r.subject) r.expression
    have hwarn := statusOf_eq_warn_iff hway strict (r.subject.reading registry s)
    have hdecided := exists_judge_iff hevaluator haccepts (name r.subject)
    rw [hstatus, hevaluator, ← hdecided]
    exact hwarn

end Warnings

/-! ## Both modes -/

/-- The outcome with an error in place of a warning. -/
def Outcome.hardened {α : Type} (o : Outcome α) : Outcome α :=
  if o.status = .warn then { o with status := .error } else o

theorem Judgement.outcome_true {ε α : Type} [Named ε] (j : Judgement ε α)
    (hj : (j.outcome true).status ≠ .warn) : j.outcome true = (j.outcome false).hardened := by
  have hshown := j.shown
  by_cases hunreadable : j.IsUnreadable
  · rcases hshown.statuses hunreadable with ⟨hwarn, herror⟩
    rw [Outcome.hardened, if_pos hwarn]
    rcases hunreadable with ⟨e, he⟩
    simp [outcome, Outcome.ofDecision, Outcome.statusOf, he]
  · have hsame : (j.outcome true).status = (j.outcome false).status :=
      not_not.1 (mt hshown.status_ne_iff.1 hunreadable)
    have hne : (j.outcome false).status ≠ .warn := hsame ▸ hj
    rw [Outcome.hardened, if_neg hne]
    -- The rest of an outcome is the same in both modes.
    simp only [outcome, Outcome.ofDecision] at hsame ⊢
    rw [hsame]

variable {β ε α σ : Type} [Named ε] [Named α]

/-- The strict outcomes are the lax ones with errors for those rules of which an evaluator has found the attribute
unreadable. -/
theorem evaluate_strict_lax :
    (∀ (B : Behaviour β ε α σ) (e : Engine α) (h : Host β ε σ),
      let judged := ((B.judgeEach h.registry.evaluators e.rules).run h).1
      let outcomes (strict : Bool) :=
        ((({ e with unreadableIsError := strict } : Engine α).evaluate B).run h).1
      judged.map (·.rule) = e.rules ∧ (∀ strict, (outcomes strict).map (·.rule) = e.rules) ∧
        List.Forall₂ (fun j o => j.Shown o.1 o.2) judged ((outcomes false).zip (outcomes true))) ∧
    ∀ (e : Engine Attribute) (h : ProviderHost), h.registry.HasStandardEvaluators →
      (∀ id, (h.surroundings.cacheOf id).Sound) →
      let judged := ((providers.judgeEach h.registry.evaluators e.rules).run h).1
      let outcomes (strict : Bool) :=
        ((({ e with unreadableIsError := strict } : Engine Attribute).evaluate providers).run h).1
      (∀ strict, List.Forall₂ (fun j o => o.status = .warn ↔
          strict = false ∧ (∃ u, ((providers.read j.rule.subject).run h).1 = .error u) ∧
            ¬ j.HasReversedBounds ∧ ¬ j.HasRefusedPattern) judged (outcomes strict)) ∧
        outcomes true = (outcomes false).map (·.hardened) ∧
        ∀ o ∈ outcomes true, o.status ≠ .warn := by
  constructor
  · intro B e h judged outcomes
    have houtcomes : ∀ strict, outcomes strict = judged.map (·.outcome strict) := fun strict =>
      (evaluate_judged B { e with unreadableIsError := strict } h).1
    refine ⟨judgeEach_rules B _ e.rules h, fun strict => evaluate_rules B _ h, ?_⟩
    rw [houtcomes, houtcomes, List.zip_map', List.forall₂_map_right_iff, List.forall₂_same]
    exact fun j _ => j.shown
  · intro e h hstandard hsound judged outcomes
    have hquiet : ∀ entry ∈ h.registry.evaluators, entry.provider.IsQuiet := by
      intro entry hentry
      rcases hstandard entry hentry with ⟨kind, hkind⟩
      rw [hkind]
      trivial
    have hsettled : Settled h.registry h.surroundings.Recalls h := ⟨rfl, rfl, rfl, rfl, rfl, hsound⟩
    -- Every rule is judged as it would be on the host on which the pass begins.
    have hjudged : judged = e.rules.map
        ((quietAnswers h.registry h.surroundings).judgement h.registry.evaluators) :=
      ((evaluators_steady hquiet).judgeEach e.rules h hsettled).1
    have houtcomes : ∀ strict, outcomes strict = judged.map (·.outcome strict) := fun strict =>
      (evaluate_judged providers { e with unreadableIsError := strict } h).1
    have hwarns : ∀ strict, List.Forall₂ (fun j o => o.status = .warn ↔
        strict = false ∧ (∃ u, ((providers.read j.rule.subject).run h).1 = .error u) ∧
          ¬ j.HasReversedBounds ∧ ¬ j.HasRefusedPattern) judged (outcomes strict) := by
      intro strict
      rw [houtcomes, hjudged, List.forall₂_map_right_iff, List.forall₂_map_left_iff,
        List.forall₂_map_right_iff, List.forall₂_same]
      exact fun r _ => status_eq_warn_iff hstandard r strict
    have hnever : ∀ j ∈ judged, (j.outcome true).status ≠ .warn := by
      intro j hj hwarn
      rw [hjudged] at hj
      rcases List.mem_map.1 hj with ⟨r, -, rfl⟩
      exact absurd ((status_eq_warn_iff hstandard r true).1 hwarn).1 nofun
    refine ⟨hwarns, ?_, ?_⟩
    · rw [houtcomes, houtcomes, List.map_map]
      exact List.map_congr_left fun j hj => j.outcome_true (hnever j hj)
    · intro o ho
      rw [houtcomes] at ho
      rcases List.mem_map.1 ho with ⟨j, hj, rfl⟩
      exact hnever j hj

/-- An attribute that cannot be read, with three expressions that can be decided and two that cannot. -/
theorem evaluate_strict_lax_offline :
    let gone : Attribute := ⟨"gone", .fixed (.error ⟨"gone", "sensor offline"⟩)⟩
    let e : Engine Attribute :=
      { rules := ["> 1", "between 5 1", "~ up", "~ (", "up"].map fun expression => ⟨gone, expression⟩ }
    let h : ProviderHost :=
      { registry := ((Registry.empty 0).addEvaluator (.standard .numeric)).addEvaluator (.standard .pattern)
        surroundings := { environment := {}, facts := ⟨"", "", "", .ok 1, 1⟩ } }
    let outcomes (strict : Bool) :=
      ((({ e with unreadableIsError := strict } : Engine Attribute).evaluate providers).run h).1
    h.registry.HasStandardEvaluators ∧ (∀ id, (h.surroundings.cacheOf id).Sound) ∧
      (outcomes false).map (·.status) = [.warn, .error, .warn, .error, .warn] ∧
      outcomes true = (outcomes false).map (·.hardened) := by
  intro gone e h outcomes
  have hstandard : h.registry.HasStandardEvaluators := by
    intro entry hentry
    rcases List.mem_cons.1 hentry with rfl | hentry
    · exact ⟨.numeric, rfl⟩
    · rcases List.mem_singleton.1 hentry with rfl
      exact ⟨.pattern, rfl⟩
  have hsound : ∀ id, (h.surroundings.cacheOf id).Sound := fun _ => PatternCache.sound_empty
  have hmodes := evaluate_strict_lax (β := Builder) (ε := Evaluator) (α := Attribute)
    (σ := Surroundings)
  exact ⟨hstandard, hsound, by decide +kernel, (hmodes.2 e h hstandard hsound).2.1⟩

end HealthRules
