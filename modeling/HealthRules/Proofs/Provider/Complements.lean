import HealthRules.Proofs.Number.Operators
import HealthRules.Proofs.Provider.Comparisons

/-!
# Complements — expressions that say the opposite of each other

Each operator has a complement. Of two complementary comparisons one is found to hold and the other not, unless the
value is not a number: that is unequal to everything and nothing else. Where there is no numeric view to compare, all
comparisons fail alike. A test for a pattern and the test against it ask the same of the cache, whichever comes first,
so that they fail alike or are opposed.

* `Decision.Opposed`, opposite statuses, and `Decision.Complementary`, these or the same error;
* `Operator.holds_complement` and `Operator.holds_atLeast`, of numbers that have a place in the order;
* `PatternCache.fetch_again` and `PatternTest.opposed`, tests for and against a pattern;
* `evaluate_complements`, for all comparisons and all patterns.
-/

namespace HealthRules

open Blank

/-! ## Opposed decisions -/

/-- One of two decisions is OK and the other an error status. -/
inductive Decision.Opposed : Decision → Decision → Prop where
  | holds : Opposed (.ok .ok) (.ok .error)
  | violated : Opposed (.ok .error) (.ok .ok)

theorem Decision.ofBool_eq_error_iff {holds : Bool} :
    (.ok (.ofBool holds) : Decision) = .ok .error ↔ ¬ holds = true := by
  cases holds <;> decide

theorem Decision.opposed_ofBool (holds : Bool) : Opposed (.ok (.ofBool holds)) (.ok (.ofBool !holds)) := by
  cases holds with
  | false => exact .violated
  | true => exact .holds

/-- Two decisions are the same error, or they are opposed. -/
inductive Decision.Complementary : Decision → Decision → Prop where
  | failed (e : EvaluationError) : Complementary (.error e) (.error e)
  | opposed {d d' : Decision} (h : Opposed d d') : Complementary d d'

/-- Judges that are opposed on every value are opposed on every reading, or fail with it. -/
theorem Judge.complementary_onReading {judge judge' : Judge} (h : ∀ v, Decision.Opposed (judge v) (judge' v))
    (reading : Reading) : Decision.Complementary (judge.onReading reading) (judge'.onReading reading) := by
  cases reading with
  | ok v => exact .opposed (h v)
  | error e => exact .failed (.unreadable e)

/-! ## Numbers in the order -/

namespace Operator

variable {v n : Binary64} {x y : Int}

theorem holds_complement (op : Operator) (hv : v.rank = some x) (hn : n.rank = some y) :
    op.complement.holds v n = !op.holds v n := by
  rw [op.holds_eq hv hn, op.complement.holds_eq hv hn, ← decide_not]
  exact decide_eq_decide.2 (op.orders_complement x y)

theorem holds_atLeast (hv : v.rank = some x) (hn : n.rank = some y) :
    atLeast.holds v n = (greater.holds v n || equal.holds v n) := by
  rw [atLeast.holds_eq hv hn, greater.holds_eq hv hn, equal.holds_eq hv hn, ← Bool.decide_or]
  exact decide_eq_decide.2 (le_iff_lt_or_eq.trans (or_congr_right eq_comm))

end Operator

/-! ## Patterns -/

section Patterns

variable {L : PatternLanguage}

namespace PatternCache

/-- A pattern that has been asked for is answered the same way when it is asked for again. -/
theorem fetch_again (c : PatternCache L) (pattern : String) :
    ((c.fetch pattern).cache.fetch pattern).compiled = (c.fetch pattern).compiled := by
  unfold fetch
  cases hfind : c.find? pattern with
  | some r => simp only [hfind]
  | none =>
      -- What is refused is not kept, and is refused again.
      cases hcompile : L.compile pattern with
      | error e => simp only [hfind]
      | ok r =>
          have hkept : (c.insert pattern r).find? pattern = some r := List.lookup_cons_self
          simp only [hkept]

end PatternCache

namespace PatternTest

/-- The text of a pattern that is demanded or forbidden. -/
def textOf (negated : Bool) (pattern : String) : String := if negated then "!~" ++ pattern else "~" ++ pattern

theorem parse?_textOf (negated : Bool) (pattern : String) :
    parse? (textOf negated pattern) = some ⟨negated, String.ofList (trim pattern.toList)⟩ := by
  cases negated with
  | false =>
      have htext : (textOf false pattern).toList = '~' :: pattern.toList := String.toList_append
      rw [parse?, htext]
      rfl
  | true =>
      have htext : (textOf true pattern).toList = '!' :: '~' :: pattern.toList := String.toList_append
      rw [parse?, htext]
      rfl

/-- Whatever comes of asking for a pattern, a test for it and a test against it are complementary. -/
theorem complementary_judgeBy (pattern : String) (fetched : Except L.Refusal L.Compiled) (reading : Reading) :
    Decision.Complementary ((judgeBy L ⟨false, pattern⟩ fetched).bind (·.onReading reading))
      ((judgeBy L ⟨true, pattern⟩ fetched).bind (·.onReading reading)) := by
  cases fetched with
  | error e => exact .failed _
  | ok r =>
      refine Judge.complementary_onReading (fun v => ?_) reading
      have hmatches : (L.isMatch r v.render != false) = L.isMatch r v.render := Bool.bne_false _
      have hfails : (L.isMatch r v.render != true) = !L.isMatch r v.render := Bool.bne_true _
      rw [judge, judge, hmatches, hfails]
      exact Decision.opposed_ofBool _

end PatternTest

end Patterns

section Evaluations

variable (h : ProviderHost) (id : ProviderId) (a : Attribute) {expression expression' : String} {t t' : PatternTest}

/-- A test is decided by what comes of asking for its pattern. -/
theorem evaluate_pattern (ht : PatternTest.parse? expression = some t) :
    ((Evaluator.evaluate ⟨id, .standard .pattern⟩ a expression).run h).1 =
      (t.judgeBy Regex.language ((h.surroundings.cacheOf id).fetch t.pattern).compiled).bind
        (·.onReading ((a.read.run h).1 : Reading)) := by
  have hrun := (evaluateStandard_pattern id a expression h).1
  simp only [PatternTest.judgeFor, ht] at hrun
  exact hrun

/-- A test before it with the same pattern makes no difference to a test. -/
theorem evaluate_pattern_after (ht : PatternTest.parse? expression = some t)
    (ht' : PatternTest.parse? expression' = some t') (hpattern : t.pattern = t'.pattern) :
    ((Evaluator.evaluate ⟨id, .standard .pattern⟩ a expression').run
        ((Evaluator.evaluate ⟨id, .standard .pattern⟩ a expression).run h).2).1 =
      ((Evaluator.evaluate ⟨id, .standard .pattern⟩ a expression').run h).1 := by
  rcases evaluateStandard_pattern id a expression h with ⟨-, hregistry, hsurroundings⟩
  simp only [PatternTest.judgeFor, ht] at hsurroundings
  change ((Evaluator.evaluate ⟨id, .standard .pattern⟩ a expression').run
    ((Evaluator.evaluateStandard id .pattern a expression).run h).2).1 = _
  generalize ((Evaluator.evaluateStandard id .pattern a expression).run h).2 = after at hregistry hsurroundings ⊢
  -- The cache is all that the first test has changed.
  have hcache : after.surroundings.cacheOf id = ((h.surroundings.cacheOf id).fetch t.pattern).cache := by
    rw [hsurroundings, Surroundings.cacheOf_setCache, if_pos rfl]
  have hreading : (a.read.run after).1 = (a.read.run h).1 := by
    rw [read_run, read_run, hregistry, hsurroundings, a.reading_setCache]
  rw [evaluate_pattern after id a ht', evaluate_pattern h id a ht', hcache, hreading, hpattern,
    PatternCache.fetch_again]

end Evaluations

/-! ## Complementary expressions -/

/-- The text of a comparison that can be decided, with or without white space around it. -/
structure Comparison.SpelledBy (c : Comparison) (expression : String) : Prop where
  spells : c.Spells (trim expression.toList)
  ordered : ¬ c.Reversed

namespace Comparison

/-- Not-a-number is unequal to every operand, and nothing else holds of it. -/
theorem holds_nan (c : Comparison) : c.holds .nan = true ↔ ∃ n, c = .against .unequal n := by
  cases c with
  | against op n =>
      rw [holds, op.holds_nan, decide_eq_true_iff]
      constructor
      · rintro rfl
        exact ⟨n, rfl⟩
      · rintro ⟨m, hm⟩
        cases hm
        rfl
  | between low high =>
      have hle : Binary64.le .nan high = false := rfl
      rw [holds, hle, Bool.and_false]
      refine iff_of_false Bool.false_ne_true ?_
      rintro ⟨n, hn⟩
      cases hn

namespace SpelledBy

variable {op : Operator} {n low high : Binary64} {expression : String}

theorem isReversed_eq {c : Comparison} (h : SpelledBy c expression) : c.isReversed = false :=
  Bool.eq_false_iff.2 (mt c.isReversed_eq_true_iff.1 h.ordered)

theorem exists_rank (h : SpelledBy (.against op n) expression) : ∃ r, n.rank = some r := by
  rcases h with ⟨hspells, -⟩
  generalize trim expression.toList = text at hspells
  cases hspells with
  | against _ hgap hnumeral => exact Binary64.exists_rank hnumeral.ne_nan

end SpelledBy

end Comparison

/-- Complementary expressions are opposed unless the value is not a number or has no numeric view. Tests for a pattern
and against it are opposed or the same error. -/
theorem evaluate_complements (h : ProviderHost) (id : ProviderId) (a : Attribute) :
    let reading : Reading := (a.read.run h).1
    let decision (expression : String) := ((Evaluator.evaluate ⟨id, .standard .numeric⟩ a expression).run h).1
    let test (expression : String) := (Evaluator.evaluate ⟨id, .standard .pattern⟩ a expression).run
    (∀ v x, reading = .ok v → v.number? = some x →
      (∀ n e e', Comparison.SpelledBy (.against .equal n) e → Comparison.SpelledBy (.against .unequal n) e' →
        Decision.Opposed (decision e) (decision e')) ∧
      (x ≠ .nan →
        (∀ op n e e', Comparison.SpelledBy (.against op n) e → Comparison.SpelledBy (.against op.complement n) e' →
          Decision.Opposed (decision e) (decision e')) ∧
        (∀ n e₁ e₂ e₃, Comparison.SpelledBy (.against .atLeast n) e₁ →
          Comparison.SpelledBy (.against .greater n) e₂ → Comparison.SpelledBy (.against .equal n) e₃ →
            (decision e₁ = .ok .ok ↔ decision e₂ = .ok .ok ∨ decision e₃ = .ok .ok)) ∧
        ∀ low high e₁ e₂ e₃, Comparison.SpelledBy (.between low high) e₁ →
          Comparison.SpelledBy (.against .atLeast low) e₂ → Comparison.SpelledBy (.against .atMost high) e₃ →
            (decision e₁ = .ok .ok ↔ decision e₂ = .ok .ok ∧ decision e₃ = .ok .ok)) ∧
      (x = .nan → ∀ c e, Comparison.SpelledBy c e →
        (decision e = .ok .ok ↔ ∃ n, c = .against .unequal n) ∧
          (decision e = .ok .error ↔ ¬ ∃ n, c = .against .unequal n))) ∧
      ((∀ v, reading = .ok v → v.number? = none) →
        ∃ error, ∀ c e, Comparison.SpelledBy c e → decision e = .error error) ∧
      ∀ pattern,
        Decision.Complementary (test ("~" ++ pattern) h).1 (test ("!~" ++ pattern) h).1 ∧
          (test ("!~" ++ pattern) (test ("~" ++ pattern) h).2).1 = (test ("!~" ++ pattern) h).1 ∧
          (test ("~" ++ pattern) (test ("!~" ++ pattern) h).2).1 = (test ("~" ++ pattern) h).1 := by
  intro reading decision test
  have hjudged : ∀ c e, Comparison.SpelledBy c e → decision e = (c.judge (name a)).onReading reading := by
    intro c e he
    exact evaluate_spells he.spells he.isReversed_eq h id a
  refine ⟨?_, ?_, ?_⟩
  · intro v x hv hx
    have hview : ∀ c e, Comparison.SpelledBy c e → decision e = .ok (.ofBool (c.holds x)) :=
      fun c e he => evaluate_viewed he.spells he.isReversed_eq h id a hv hx
    refine ⟨?_, ?_, ?_⟩
    · intro n e e' he he'
      rw [hview _ _ he, hview _ _ he']
      exact Decision.opposed_ofBool (x.eq n)
    · intro hne
      -- All numbers but this one have ranks, and compare as these do.
      rcases Binary64.exists_rank hne with ⟨r, hr⟩
      refine ⟨?_, ?_, ?_⟩
      · intro op n e e' he he'
        rcases he.exists_rank with ⟨r', hr'⟩
        have hnot := op.holds_complement hr hr'
        rw [hview _ _ he, hview _ _ he', Comparison.holds, Comparison.holds, hnot]
        exact Decision.opposed_ofBool _
      · intro n e₁ e₂ e₃ he₁ he₂ he₃
        rcases he₁.exists_rank with ⟨r', hr'⟩
        have hor := Operator.holds_atLeast hr hr'
        rw [hview _ _ he₁, hview _ _ he₂, hview _ _ he₃]
        simp only [Decision.ofBool_eq_ok_iff, Comparison.holds, hor, Bool.or_eq_true]
      · intro low high e₁ e₂ e₃ he₁ he₂ he₃
        have hand : (Comparison.between low high).holds x =
            (Operator.atLeast.holds x low && Operator.atMost.holds x high) := rfl
        rw [hview _ _ he₁, hview _ _ he₂, hview _ _ he₃, hand]
        simp only [Decision.ofBool_eq_ok_iff, Comparison.holds, Bool.and_eq_true]
    · rintro rfl c e he
      rw [hview c e he]
      exact ⟨Decision.ofBool_eq_ok_iff.trans c.holds_nan,
        Decision.ofBool_eq_error_iff.trans (not_congr c.holds_nan)⟩
  · intro hnone
    -- The error comes from the reading or from its value, before any comparison is made.
    cases hreading : reading with
    | error u =>
        refine ⟨.unreadable u, fun c e he => ?_⟩
        rw [hjudged c e he, hreading]
        rfl
    | ok v =>
        refine ⟨.notNumeric (name a) v.render, fun c e he => ?_⟩
        rw [hjudged c e he, hreading]
        exact Comparison.onReading_judge_of_none (hnone v hreading) c (name a)
  · intro pattern
    have hfor := PatternTest.parse?_textOf false pattern
    have hagainst := PatternTest.parse?_textOf true pattern
    refine ⟨?_, evaluate_pattern_after h id a hfor hagainst rfl, evaluate_pattern_after h id a hagainst hfor rfl⟩
    -- Both tests come to what the pattern compiles to, one of them turned round.
    have hfor' : (test ("~" ++ pattern) h).1 = _ := evaluate_pattern h id a hfor
    have hagainst' : (test ("!~" ++ pattern) h).1 = _ := evaluate_pattern h id a hagainst
    rw [hfor', hagainst']
    exact PatternTest.complementary_judgeBy _ _ _

/-- A number, a text that is read as not-a-number, one that is no number, and a pattern that cannot be compiled. -/
theorem evaluate_complements_readings :
    let load (v : Value) := Attribute.constant "load" v
    let h : ProviderHost :=
      { registry := Registry.empty 0, surroundings := { environment := {}, facts := ⟨"", "", "", .ok 1, 1⟩ } }
    let decision (v : Value) (expression : String) :=
      ((Evaluator.evaluate ⟨⟨0⟩, .standard .numeric⟩ (load v) expression).run h).1
    let test (expression : String) :=
      ((Evaluator.evaluate ⟨⟨0⟩, .standard .pattern⟩ (load (.int 5)) expression).run h).1
    Decision.Opposed (decision (.int 5) "< 1") (decision (.int 5) ">= 1") ∧
      (decision (.int 5) "between 1 9" = .ok .ok ↔
        decision (.int 5) ">= 1" = .ok .ok ∧ decision (.int 5) "<= 9" = .ok .ok) ∧
      decision (.text " NaN ") "!= 1" = .ok .ok ∧ decision (.text " NaN ") "< 1" = .ok .error ∧
      (∃ error, decision (.text "idle") "!= 1" = .error error ∧ decision (.text "idle") "< 1" = .error error) ∧
      Decision.Complementary (test "~[") (test "!~[") := by
  intro load h decision test
  have hunequal : Comparison.SpelledBy (.against .unequal (.ofInt 1)) "!= 1" :=
    ⟨Comparison.parse_eq_ok_iff.1 (by decide +kernel), id⟩
  have hless : Comparison.SpelledBy (.against .less (.ofInt 1)) "< 1" :=
    ⟨Comparison.parse_eq_ok_iff.1 (by decide +kernel), id⟩
  have hatLeast : Comparison.SpelledBy (.against .atLeast (.ofInt 1)) ">= 1" :=
    ⟨Comparison.parse_eq_ok_iff.1 (by decide +kernel), id⟩
  have hatMost : Comparison.SpelledBy (.against .atMost (.ofInt 9)) "<= 9" :=
    ⟨Comparison.parse_eq_ok_iff.1 (by decide +kernel), id⟩
  have hbetween : Comparison.SpelledBy (.between (.ofInt 1) (.ofInt 9)) "between 1 9" :=
    ⟨Comparison.parse_eq_ok_iff.1 (by decide +kernel),
      mt (Comparison.isReversed_eq_true_iff _).2 (by decide +kernel)⟩
  rcases evaluate_complements h ⟨0⟩ (load (.int 5)) with ⟨hnumber, -, hpatterns⟩
  rcases (hnumber _ _ rfl rfl).2.1 (by decide +kernel) with ⟨hopposed, -, hwithin⟩
  have hview : (Value.text " NaN ").number? = some .nan := by decide +kernel
  have hnan := ((evaluate_complements h ⟨0⟩ (load (.text " NaN "))).1 _ _ rfl hview).2.2 rfl
  have hother : ¬ ∃ n, Comparison.against .less (.ofInt 1) = .against .unequal n := by
    rintro ⟨n, hn⟩
    cases (Comparison.against.inj hn).1
  have hnoView : ∀ v, (.ok (.text "idle") : Reading) = .ok v → v.number? = none := by
    intro v hv
    rw [← Except.ok.inj hv]
    decide +kernel
  rcases (evaluate_complements h ⟨0⟩ (load (.text "idle"))).2.1 hnoView with ⟨error, herror⟩
  exact ⟨hopposed .less _ _ _ hless hatLeast, hwithin _ _ _ _ _ hbetween hatLeast hatMost,
    (hnan _ _ hunequal).1.2 ⟨_, rfl⟩, (hnan _ _ hless).2.2 hother,
    ⟨error, herror _ _ hunequal, herror _ _ hless⟩, (hpatterns "[").1⟩

end HealthRules
