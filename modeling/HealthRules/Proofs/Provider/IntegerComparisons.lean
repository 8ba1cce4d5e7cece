import HealthRules.Proofs.Number.Nearest
import HealthRules.Proofs.Number.Operators
import HealthRules.Proofs.Provider.Comparisons

/-!
# IntegerComparisons — how far comparisons of integers can be trusted

An integer and the operand that it is compared with are both rounded to the nearest numbers before they are compared.
Rounding keeps their order, but it may make them equal. So a reflexive operator that holds of them is not lost, and any
other operator that is found to hold does hold. Integers of at most 53 binary digits are not rounded at all.

* `Numeral.Denotes`, plain decimal numerals and what they denote;
* `Comparison.Operand`, `Comparison.AsksAgainst` and `Comparison.AsksBetween`, expressions with such numerals in them;
* `Binary64.Rounds.holds_of_orders` and its relatives, rounded numbers compared;
* `evaluate_integer`, for all seven comparisons.
-/

namespace HealthRules

open Blank Numeral Binary64

/-! ## Plain numerals -/

namespace Numeral

/-- Digits with at most one point and perhaps a sign, but without an exponent, denote a rational number. -/
inductive Denotes : ℚ → List Char → Prop where
  | mk {negative : Bool} {sign whole fraction mantissa : List Char} (hsign : SpellsSign negative sign)
      (hwhole : Digits whole) (hfraction : Digits fraction) (hmantissa : SpellsMantissa whole fraction mantissa) :
      Denotes (withSign negative (ofDigits (whole ++ fraction) / 10 ^ fraction.length)) (sign ++ mantissa)

theorem Denotes.exists_decimal {q : ℚ} {cs : List Char} (h : Denotes q cs) :
    ∃ negative d, Spells negative d cs ∧ q = withSign negative d.value := by
  rcases h with @⟨negative, sign, whole, fraction, mantissa, hsign, hwhole, hfraction, hmantissa⟩
  have hspells := Spells.mk hsign (.mk hwhole hfraction hmantissa .none)
  rw [List.append_nil] at hspells
  refine ⟨negative, _, hspells, congrArg _ ?_⟩
  rw [Decimal.value, Int.zero_sub, zpow_neg, zpow_natCast]
  exact div_eq_mul_inv _ _

end Numeral

namespace Comparison

/-- A plain numeral that is accepted as an operand. -/
structure Operand (q : ℚ) (numeral : List Char) : Prop where
  denotes : Denotes q numeral
  accepted : ∃ n, operand numeral = .ok n

/-- An operand is the number nearest to what its numeral denotes. -/
theorem Operand.exists_rounds {q : ℚ} {numeral : List Char} (h : Operand q numeral) :
    ∃ n, SpellsFinite n numeral ∧ Rounds q n := by
  rcases h.denotes.exists_decimal with ⟨negative, d, hspells, rfl⟩
  rcases h.accepted with ⟨n, hn⟩
  rw [operand_eq_ok_iff, trim_eq_self_iff.2 hspells.word.tight] at hn
  have hread := (read?_finite_iff.2 hn).1
  rw [hspells.read?_eq] at hread
  cases hread
  exact ⟨_, hn, rounds_round d negative⟩

/-- An operator with an operand behind it. -/
inductive AsksAgainst (op : Operator) (q : ℚ) : List Char → Prop where
  | mk {gap numeral : List Char} (hgap : Gap gap) (hnumeral : Operand q numeral) :
      AsksAgainst op q (op.symbol.toList ++ (gap ++ numeral))

/-- The word `between` with two operands behind it. -/
inductive AsksBetween (lo hi : ℚ) : List Char → Prop where
  | mk {before middle first last : List Char} (hbefore : Gap before) (hbefore_ne : before ≠ [])
      (hfirst : Operand lo first) (hmiddle : Gap middle) (hmiddle_ne : middle ≠ []) (hlast : Operand hi last) :
      AsksBetween lo hi ("between".toList ++ (before ++ (first ++ (middle ++ last))))

theorem AsksAgainst.exists_spells {op : Operator} {q : ℚ} {text : List Char} (h : AsksAgainst op q text) :
    ∃ n, Spells (.against op n) text ∧ Rounds q n := by
  rcases h with ⟨hgap, hnumeral⟩
  rcases hnumeral.exists_rounds with ⟨n, hn, hrounds⟩
  exact ⟨n, .against op hgap hn, hrounds⟩

theorem AsksBetween.exists_spells {lo hi : ℚ} {text : List Char} (h : AsksBetween lo hi text) :
    ∃ low high, Spells (.between low high) text ∧ Rounds lo low ∧ Rounds hi high := by
  rcases h with ⟨hbefore, hbefore_ne, hfirst, hmiddle, hmiddle_ne, hlast⟩
  rcases hfirst.exists_rounds with ⟨low, hlow, hrounds⟩
  rcases hlast.exists_rounds with ⟨high, hhigh, hrounds'⟩
  exact ⟨low, high, .between hbefore hbefore_ne hlow hmiddle hmiddle_ne hhigh, hrounds, hrounds'⟩

end Comparison

/-! ## Rounded numbers -/

namespace Binary64.Rounds

variable {p q : ℚ} {v n : Binary64}

/-- A reflexive operator still holds after rounding. -/
theorem holds_of_orders (hv : Rounds p v) (hn : Rounds q n) {op : Operator} (hop : op.IsReflexive)
    (h : op.Orders p q) : op.holds v n = true := by
  rcases hv.exists_rank with ⟨r, hr⟩
  rcases hn.exists_rank with ⟨r', hr'⟩
  rw [op.holds_eq hr hr', decide_eq_true_iff]
  exact Operator.orders_mono hop (rank_le hv hn hr hr') (rank_le hn hv hr' hr) h

/-- An operator that is not reflexive held before rounding if it holds after it. -/
theorem orders_of_holds (hv : Rounds p v) (hn : Rounds q n) {op : Operator} (hop : ¬ op.IsReflexive)
    (h : op.holds v n = true) : op.Orders p q := by
  rcases hv.exists_rank with ⟨r, hr⟩
  rcases hn.exists_rank with ⟨r', hr'⟩
  rw [op.holds_eq hr hr', decide_eq_true_iff] at h
  exact Operator.orders_of_mono hop (rank_le hv hn hr hr') (rank_le hn hv hr' hr) h

theorem mul_unitsPerOne_le_iff (i j : Int) : i ≤ j ↔ i * unitsPerOne ≤ j * unitsPerOne := by
  have hpos : (0 : Int) < unitsPerOne := Int.natCast_pos.2 (twoPow_pos 1074)
  exact (mul_le_mul_iff_left₀ hpos).symm

/-- Integers of at most 53 binary digits are compared exactly. -/
theorem holds_eq_of_small {i j : Int} (hv : Rounds i v) (hn : Rounds j n) (hi : i.natAbs ≤ twoPow 53)
    (hj : j.natAbs ≤ twoPow 53) (op : Operator) : op.holds v n = decide (op.Orders i j) := by
  rw [op.holds_eq (hv.rank_eq hi) (hn.rank_eq hj)]
  exact decide_eq_decide.2 (op.orders_congr (mul_unitsPerOne_le_iff i j) (mul_unitsPerOne_le_iff j i)).symm

/-- Bounds of at most 53 binary digits are reversed just if they are reversed as integers. -/
theorem isReversed_eq_of_small {m n : Int} {low high : Binary64} (hlow : Rounds m low) (hhigh : Rounds n high)
    (hm : m.natAbs ≤ twoPow 53) (hn : n.natAbs ≤ twoPow 53) :
    (Comparison.between low high).isReversed = decide (n < m) :=
  hhigh.holds_eq_of_small hlow hn hm .less

theorem between_eq_of_small {m i n : Int} {low high : Binary64} (hlow : Rounds m low) (hv : Rounds i v)
    (hhigh : Rounds n high) (hm : m.natAbs ≤ twoPow 53) (hi : i.natAbs ≤ twoPow 53) (hn : n.natAbs ≤ twoPow 53) :
    (Comparison.between low high).holds v = decide (m ≤ i ∧ i ≤ n) := by
  have hleft : low.le v = decide (m ≤ i) := hlow.holds_eq_of_small hv hm hi .atMost
  have hright : v.le high = decide (i ≤ n) := hv.holds_eq_of_small hhigh hi hn .atMost
  rw [Comparison.holds, hleft, hright, Bool.decide_and]

end Binary64.Rounds

/-! ## Evaluating -/

/-- Strict comparisons of an integer never find what is not so, the others find all that is so, and none errs where 53
binary digits are enough. -/
theorem evaluate_integer (h : ProviderHost) (id : ProviderId) (a : Attribute) {i : Int64}
    (hread : (a.read.run h).1 = (.ok (.int i) : Reading)) :
    let numeric : Evaluator := .standard .numeric
    let decision (expression : String) := ((Evaluator.evaluate ⟨id, numeric⟩ a expression).run h).1
    (∀ (op : Operator) (q : ℚ) (expression : String), Comparison.AsksAgainst op q (trim expression.toList) →
      numeric.accepts expression = true ∧
        (¬ op.IsReflexive → decision expression = .ok .ok → op.Orders (i.toInt : ℚ) q) ∧
        (op.IsReflexive → op.Orders (i.toInt : ℚ) q → decision expression = .ok .ok) ∧
        ∀ n : Int, q = n → n.natAbs ≤ 2 ^ 53 → i.toInt.natAbs ≤ 2 ^ 53 →
          decision expression = .ok (.ofBool (decide (op.Orders i.toInt n)))) ∧
      ∀ (lo hi : ℚ) (expression : String), Comparison.AsksBetween lo hi (trim expression.toList) →
        numeric.accepts expression = true ∧
          (lo ≤ i.toInt → i.toInt ≤ hi → decision expression = .ok .ok) ∧
          ∀ m n : Int, lo = m → hi = n → m.natAbs ≤ 2 ^ 53 → n.natAbs ≤ 2 ^ 53 → i.toInt.natAbs ≤ 2 ^ 53 →
            decision expression =
              if n < m then .error (.invalidExpression expression Comparison.Defect.reversedBounds.message)
              else .ok (.ofBool (decide (m ≤ i.toInt ∧ i.toInt ≤ n))) := by
  intro numeric decision
  -- Both sides are rounded, so that two of them may become equal but never change places.
  have hinteger : Rounds (i.toInt : ℚ) (.ofInt i.toInt) := rounds_ofInt i.toInt
  have hjudged : ∀ (c : Comparison) (expression : String), c.Spells (trim expression.toList) →
      c.isReversed = false → decision expression = .ok (.ofBool (c.holds (.ofInt i.toInt))) := by
    intro c expression hc hordered
    exact evaluate_viewed hc hordered h id a hread rfl
  constructor
  · intro op q expression hasks
    rcases hasks.exists_spells with ⟨n, hspells, hn⟩
    have hrun := hjudged _ expression hspells rfl
    refine ⟨Comparison.accepts_iff.2 ⟨_, hspells⟩, ?_, ?_, ?_⟩
    · intro hop hok
      rw [hrun, Decision.ofBool_eq_ok_iff] at hok
      exact hinteger.orders_of_holds hn hop hok
    · intro hop horders
      rw [hrun, Decision.ofBool_eq_ok_iff]
      exact hinteger.holds_of_orders hn hop horders
    · rintro j rfl hj hi
      rw [hrun, Comparison.holds, hinteger.holds_eq_of_small hn hi hj]
  · intro lo hi expression hasks
    rcases hasks.exists_spells with ⟨low, high, hspells, hlow, hhigh⟩
    rcases hlow.exists_rank with ⟨l, hl⟩
    rcases hhigh.exists_rank with ⟨r, hr⟩
    rcases hinteger.exists_rank with ⟨x, hx⟩
    refine ⟨Comparison.accepts_iff.2 ⟨_, hspells⟩, ?_, ?_⟩
    · -- With the value between them after rounding, the bounds cannot be reversed.
      intro hleast hgreatest
      have hleft : l ≤ x := hlow.rank_le hinteger hl hx hleast
      have hright : x ≤ r := hinteger.rank_le hhigh hx hr hgreatest
      have hordered : (Comparison.between low high).isReversed = false := by
        rw [Comparison.isReversed_between hl hr]
        exact decide_eq_false (not_lt.2 (hleft.trans hright))
      rw [hjudged _ expression hspells hordered, Decision.ofBool_eq_ok_iff, Comparison.holds_between hl hr hx]
      exact decide_eq_true ⟨hleft, hright⟩
    · rintro m n rfl rfl hm hn hi
      have hreversed := hlow.isReversed_eq_of_small hhigh hm hn
      split
      · next hless =>
          rw [decide_eq_true hless] at hreversed
          exact evaluate_reversed hspells hreversed h id a
      · next hnot =>
          rw [decide_eq_false hnot] at hreversed
          rw [hjudged _ expression hspells hreversed, hlow.between_eq_of_small hinteger hhigh hm hi hn]

/-- An integer and an operand half of one below it, which are rounded to the same number. -/
theorem evaluate_integer_halfway :
    let ticks : Int64 := 9007199254740993
    let half : ℚ := 9007199254740992.5
    let expression := ">= 9007199254740992.5"
    let h : ProviderHost :=
      { registry := Registry.empty 0, surroundings := { environment := {}, facts := ⟨"", "", "", .ok 1, 1⟩ } }
    Comparison.AsksAgainst .atLeast half (trim expression.toList) ∧ Operator.atLeast.IsReflexive ∧
      Operator.atLeast.Orders (ticks.toInt : ℚ) half ∧
      ((Evaluator.evaluate ⟨⟨0⟩, .standard .numeric⟩ (.constant "ticks" (.int ticks)) expression).run h).1 =
        .ok .ok := by
  intro ticks half expression h
  let whole := "9007199254740992".toList
  have hdenotes : Denotes half (whole ++ '.' :: ['5']) := by
    have hwhole : Digits whole := List.all_eq_true.1 (by decide : whole.all Char.isDigit = true)
    have hfraction : Digits ['5'] := List.all_eq_true.1 (by decide : ['5'].all Char.isDigit = true)
    have hdigits : ofDigits (whole ++ ['5']) = 90071992547409925 := by decide
    have hvalue : withSign false ((ofDigits (whole ++ ['5']) : ℚ) / 10 ^ 1) = half := by
      rw [hdigits]
      norm_num [withSign, half]
    have hplain := Denotes.mk .none hwhole hfraction (.pointed (List.cons_ne_nil _ _))
    exact hvalue ▸ hplain
  have haccepted : Comparison.operand (whole ++ '.' :: ['5']) = .ok (.ofInt 9007199254740992) := by
    decide +kernel
  have hasks : Comparison.AsksAgainst .atLeast half (trim expression.toList) := by
    have htrim : trim expression.toList =
        Operator.atLeast.symbol.toList ++ ([' '] ++ (whole ++ '.' :: ['5'])) := by decide +kernel
    rw [htrim]
    exact .mk gap_space ⟨hdenotes, _, haccepted⟩
  have horders : Operator.atLeast.Orders (ticks.toInt : ℚ) half := by
    have hticks : ticks.toInt = 9007199254740993 := by decide
    have hle : half ≤ ((9007199254740993 : Int) : ℚ) := by norm_num [half]
    rw [hticks]
    exact hle
  have hok := (evaluate_integer h ⟨0⟩ (.constant "ticks" (.int ticks)) rfl).1 .atLeast half expression hasks
  exact ⟨hasks, by decide, horders, hok.2.2.1 (by decide) horders⟩

end HealthRules
