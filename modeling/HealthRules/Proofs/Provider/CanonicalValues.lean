import HealthRules.Proofs.Number.CanonicalTexts
import HealthRules.Proofs.Number.Operators
import HealthRules.Proofs.Provider.Comparisons

/-!
# CanonicalValues — numbers and their canonical texts give the same answers

A number and its canonical text are the same to every comparison, because the text is read as the number. A number is
equal to what its text says, and neither greater nor less. The words for infinity and not-a-number are read as well, but
they are no operands, so that this is for integers and finite numbers only.

* `Operator.holds_self` and `Comparison.between_self`, a number compared with itself;
* `Comparison.spells_operator` and `Comparison.spells_bounds`, expressions put together from numerals;
* `evaluate_canonical`, for the default rule and all comparisons.
-/

namespace HealthRules

open Blank Numeral

/-! ## Numbers and themselves -/

theorem Operator.holds_self {x : Binary64} {r : Int} (hx : x.rank = some r) (op : Operator) :
    op.holds x x = decide op.IsReflexive := by
  rw [op.holds_eq hx hx]
  exact decide_eq_decide.2 (op.orders_self r)

theorem Comparison.between_self {x : Binary64} {r : Int} (hx : x.rank = some r) :
    (between x x).holds x = true ∧ (between x x).isReversed = false := by
  rw [holds_between hx hx hx, isReversed_between hx hx]
  exact ⟨decide_eq_true ⟨le_refl r, le_refl r⟩, decide_eq_false (lt_irrefl r)⟩

/-! ## Expressions -/

namespace Comparison

theorem spells_operator (op : Operator) {n : Binary64} {gap numeral : String} (hgap : Gap gap.toList)
    (hnumeral : SpellsFinite n numeral.toList) :
    Spells (.against op n) (trim (op.symbol ++ gap ++ numeral).toList) := by
  have hspells : Spells (.against op n) (op.symbol ++ gap ++ numeral).toList := by
    rw [String.toList_append, String.toList_append, List.append_assoc]
    exact .against op hgap hnumeral
  rw [trim_eq_self_iff.2 hspells.tight]
  exact hspells

theorem spells_bounds {low high : Binary64} {before first middle last : String} (hbefore : Gap before.toList)
    (hbefore_ne : before ≠ "") (hfirst : SpellsFinite low first.toList) (hmiddle : Gap middle.toList)
    (hmiddle_ne : middle ≠ "") (hlast : SpellsFinite high last.toList) :
    Spells (.between low high) (trim ("between" ++ before ++ first ++ middle ++ last).toList) := by
  have hspells : Spells (.between low high) ("between" ++ before ++ first ++ middle ++ last).toList := by
    simp only [String.toList_append, List.append_assoc]
    exact .between hbefore (mt String.toList_eq_nil_iff.1 hbefore_ne) hfirst hmiddle
      (mt String.toList_eq_nil_iff.1 hmiddle_ne) hlast
  rw [trim_eq_self_iff.2 hspells.tight]
  exact hspells

/-- Only the numeric view of a value matters for comparisons. -/
theorem judgeFor_onReading {v : Value} {x : Binary64} (hv : v.number? = some x) (expression subject : String) :
    (judgeFor expression subject).bind (·.onReading (.ok v)) =
      (resolve expression).map fun c => .ofBool (c.holds x) := by
  rw [judgeFor]
  cases resolve expression with
  | error e => rfl
  | ok c => exact onReading_judge hv c subject

end Comparison

/-! ## Evaluating -/

theorem textuallyEqual_render (v : Value) : textuallyEqual v.render v = .ok .ok := by
  rw [textuallyEqual, beq_self_eq_true]
  rfl

theorem evaluate_textual (h : ProviderHost) (id : ProviderId) (a : Attribute) (expression : String) :
    ((Evaluator.evaluate ⟨id, .standard .textual⟩ a expression).run h).1 =
      (textuallyEqual expression).onReading (a.read.run h).1 := rfl

theorem decide_fallback (h : ProviderHost) (r : Rule Attribute) :
    ((providers.decide r .fallback).run h).1 =
      (textuallyEqual r.expression).onReading (r.subject.read.run h).1 := rfl

/-- A number and its canonical text stand for each other: in the default rule, in comparisons with that text, and as the
values that are compared. -/
theorem evaluate_canonical (h : ProviderHost) (id : ProviderId) (a : Attribute) {v : Value} (hv : v.IsFinite)
    (hread : (a.read.run h).1 = (.ok v : Reading)) :
    let decision (kind : StandardEvaluator) (expression : String) :=
      ((Evaluator.evaluate ⟨id, .standard kind⟩ a expression).run h).1
    decision .textual v.render = .ok .ok ∧
      ((providers.decide ⟨a, v.render⟩ .fallback).run h).1 = .ok .ok ∧
      (∀ (op : Operator) (gap : String), Gap gap.toList →
        decision .numeric (op.symbol ++ gap ++ v.render) = .ok (.ofBool (decide op.IsReflexive))) ∧
      (∀ before middle : String, Gap before.toList → before ≠ "" → Gap middle.toList → middle ≠ "" →
        decision .numeric ("between" ++ before ++ v.render ++ middle ++ v.render) = .ok .ok) ∧
      (Value.text v.render).number? = v.number? ∧
      ∀ (h' : ProviderHost) (id' : ProviderId) (a' : Attribute),
        (a'.read.run h').1 = (.ok (.text v.render) : Reading) → ∀ expression,
          ((Evaluator.evaluate ⟨id', .standard .numeric⟩ a' expression).run h').1 = decision .numeric expression := by
  intro decision
  rcases hv.spells_render with ⟨x, hx, hspells⟩
  rcases Binary64.exists_rank hspells.ne_nan with ⟨r, hr⟩
  have hview : (Value.text v.render).number? = v.number? := by
    rw [Value.number?, trim_eq_self_iff.2 hspells.word.tight, (read?_finite_iff.2 hspells).1, hx]
  have htextual : (textuallyEqual v.render).onReading (a.read.run h).1 = .ok .ok := by
    rw [hread]
    exact textuallyEqual_render v
  refine ⟨(evaluate_textual h id a _).trans htextual, (decide_fallback h ⟨a, v.render⟩).trans htextual, ?_, ?_,
    hview, ?_⟩
  · intro op gap hgap
    -- The number is what is compared, and the operand too.
    calc
      decision .numeric (op.symbol ++ gap ++ v.render) = .ok (.ofBool (op.holds x x)) :=
        evaluate_viewed (Comparison.spells_operator op hgap hspells) rfl h id a hread hx
      _ = .ok (.ofBool (decide op.IsReflexive)) := by rw [op.holds_self hr]
  · intro before middle hbefore hbefore_ne hmiddle hmiddle_ne
    have hrange := Comparison.spells_bounds hbefore hbefore_ne hspells hmiddle hmiddle_ne hspells
    rcases Comparison.between_self hr with ⟨hholds, hordered⟩
    calc
      decision .numeric ("between" ++ before ++ v.render ++ middle ++ v.render) =
          .ok (.ofBool ((Comparison.between x x).holds x)) := evaluate_viewed hrange hordered h id a hread hx
      _ = .ok .ok := by rw [hholds]; rfl
  · intro h' id' a' hread' expression
    have hrun : decision .numeric expression = _ := evaluate_run h id a expression
    rw [hrun, evaluate_run, hread, hread', Comparison.judgeFor_onReading hx,
      Comparison.judgeFor_onReading (hview.trans hx)]

/-- The first integer without a number of its own is equal to its text, and its text is equal to the same number. -/
theorem evaluate_canonical_odd :
    let ticks := Value.int 9007199254740993
    let h : ProviderHost :=
      { registry := Registry.empty 0, surroundings := { environment := {}, facts := ⟨"", "", "", .ok 1, 1⟩ } }
    let decision (v : Value) (expression : String) :=
      ((Evaluator.evaluate ⟨⟨0⟩, .standard .numeric⟩ (.constant "ticks" v) expression).run h).1
    ticks.IsFinite ∧ decision ticks "== 9007199254740993" = .ok .ok ∧
      decision ticks "> 9007199254740993" = .ok .error ∧
      decision (.text "9007199254740993") "== 9007199254740992" = decision ticks "== 9007199254740992" := by
  intro ticks h decision
  have hfinite : ticks.IsFinite := trivial
  have hrender : ticks.render = "9007199254740993" := by decide +kernel
  rcases evaluate_canonical h ⟨0⟩ (.constant "ticks" ticks) hfinite rfl with ⟨-, -, hoperators, -, -, hsame⟩
  rw [hrender] at hoperators hsame
  exact ⟨hfinite, hoperators .equal " " gap_space, hoperators .greater " " gap_space, hsame h ⟨0⟩ _ rfl _⟩

end HealthRules
