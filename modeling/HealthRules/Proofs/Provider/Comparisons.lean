import HealthRules.Proofs.Number.Numerals
import HealthRules.Proofs.Provider.PatternUses
import HealthRules.Proofs.Provider.Strictness

/-!
# Comparisons — the language of comparisons and their verdicts

A comparison is an operator and a numeral, with white space between them or none, or the word `between` and two
numerals, with white space before each. Its numerals are those of finite numbers. An expression is accepted if it is a
comparison, and evaluating it reads the same comparison; only the order of bounds is looked at later.

* `Operator.Relates` and `Comparison.Satisfied`, what a comparison says of a number, with `holds_iff`;
* `Comparison.Spells`, the texts of comparisons;
* `Operator.IsLongest` and `Operator.take?_eq_some_iff`: of two operators the longer one is read;
* `Comparison.parse_eq_ok_iff`: what is read are the texts of comparisons;
* `evaluate_comparison`, all that evaluating an expression can come to.
-/

namespace HealthRules

open Blank Numeral

/-! ## What comparisons say -/

namespace Binary64

/-- Both are numbers, and their places in the order are related. -/
def Compared (r : Int → Int → Prop) (a b : Binary64) : Prop := ∃ x ∈ a.rank, ∃ y ∈ b.rank, r x y

theorem compareBy_iff {holds : Int → Int → Bool} {r : Int → Int → Prop}
    (h : ∀ x y, holds x y = true ↔ r x y) (a b : Binary64) :
    compareBy holds a b = true ↔ a.Compared r b := by
  unfold compareBy Compared
  cases a.rank with
  | none => simp
  | some x => cases b.rank with
    | none => simp
    | some y => simp [h]

theorem lt_iff (a b : Binary64) : a.lt b = true ↔ a.Compared (· < ·) b :=
  compareBy_iff (fun _ _ => decide_eq_true_iff) a b

theorem le_iff (a b : Binary64) : a.le b = true ↔ a.Compared (· ≤ ·) b :=
  compareBy_iff (fun _ _ => decide_eq_true_iff) a b

theorem eq_iff (a b : Binary64) : a.eq b = true ↔ a.Compared (· = ·) b :=
  compareBy_iff (fun _ _ => decide_eq_true_iff) a b

theorem compared_swap (r : Int → Int → Prop) (a b : Binary64) :
    a.Compared r b ↔ b.Compared (fun x y => r y x) a := by
  constructor
  · rintro ⟨x, hx, y, hy, h⟩
    exact ⟨y, hy, x, hx, h⟩
  · rintro ⟨y, hy, x, hx, h⟩
    exact ⟨x, hx, y, hy, h⟩

end Binary64

namespace Operator

/-- What an operator says of a number and its operand. -/
def Relates (op : Operator) (v n : Binary64) : Prop :=
  match op with
  | greater => v.Compared (· > ·) n
  | atLeast => v.Compared (· ≥ ·) n
  | less => v.Compared (· < ·) n
  | atMost => v.Compared (· ≤ ·) n
  | equal => v.Compared (· = ·) n
  | unequal => ¬ v.Compared (· = ·) n

theorem holds_iff (op : Operator) (v n : Binary64) : op.holds v n = true ↔ op.Relates v n := by
  cases op with
  | greater => exact (Binary64.lt_iff n v).trans (Binary64.compared_swap _ n v)
  | atLeast => exact (Binary64.le_iff n v).trans (Binary64.compared_swap _ n v)
  | less => exact Binary64.lt_iff v n
  | atMost => exact Binary64.le_iff v n
  | equal => exact Binary64.eq_iff v n
  | unequal =>
      rw [holds, Bool.not_eq_true', ← Bool.not_eq_true, Binary64.eq_iff]
      rfl

end Operator

namespace Comparison

/-- What a comparison says of a number. -/
def Satisfied (v : Binary64) : Comparison → Prop
  | against op n => op.Relates v n
  | between low high => low.Compared (· ≤ ·) v ∧ v.Compared (· ≤ ·) high

theorem holds_iff (c : Comparison) (v : Binary64) : c.holds v = true ↔ c.Satisfied v := by
  cases c with
  | against op n => exact op.holds_iff v n
  | between low high => rw [holds, Bool.and_eq_true, Binary64.le_iff, Binary64.le_iff, Satisfied]

/-- The first bound exceeds the second. -/
def Reversed : Comparison → Prop
  | against _ _ => False
  | between low high => low.Compared (· > ·) high

theorem isReversed_eq_true_iff (c : Comparison) : c.isReversed = true ↔ c.Reversed := by
  cases c with
  | against op n => exact iff_of_false nofun id
  | between low high => exact (Binary64.lt_iff high low).trans (Binary64.compared_swap _ high low)

/-! ## The language -/

/-- The texts of a comparison, without white space around them. -/
inductive Spells : Comparison → List Char → Prop where
  | against (op : Operator) {n : Binary64} {gap numeral : List Char} (hgap : Gap gap)
      (hnumeral : SpellsFinite n numeral) : Spells (.against op n) (op.symbol.toList ++ (gap ++ numeral))
  | between {low high : Binary64} {before middle first last : List Char} (hbefore : Gap before)
      (hbefore_ne : before ≠ []) (hfirst : SpellsFinite low first) (hmiddle : Gap middle)
      (hmiddle_ne : middle ≠ []) (hlast : SpellsFinite high last) :
      Spells (.between low high) ("between".toList ++ (before ++ (first ++ (middle ++ last))))

end Comparison

/-! ## Operators -/

namespace Operator

/-- There is no longer operator at the front of the text. -/
def IsLongest (op : Operator) (cs : List Char) : Prop :=
  ∀ op' : Operator, op'.symbol.toList <+: cs → op'.symbol.length ≤ op.symbol.length

/-- An operator is one character, or one and an equals sign. -/
theorem symbol_cases (op : Operator) :
    (∃ c, op.symbol.toList = [c]) ∨ ∃ c, op.symbol.toList = [c, '='] := by
  cases op with
  | greater => exact .inl ⟨'>', rfl⟩
  | less => exact .inl ⟨'<', rfl⟩
  | atLeast => exact .inr ⟨'>', rfl⟩
  | atMost => exact .inr ⟨'<', rfl⟩
  | equal => exact .inr ⟨'=', rfl⟩
  | unequal => exact .inr ⟨'!', rfl⟩

theorem isLongest_of_two {op : Operator} {c : Char} (h : op.symbol.toList = [c, '=']) (cs : List Char) :
    op.IsLongest cs := by
  intro op' _
  rw [← String.length_toList, ← String.length_toList, h]
  rcases op'.symbol_cases with ⟨c', hc'⟩ | ⟨c', hc'⟩
  · rw [hc']
    exact Nat.le_succ 1
  · rw [hc']
    exact Nat.le_refl 2

/-- An operator is the longest one if no equals sign follows. -/
theorem isLongest_append (op : Operator) {rest : List Char} (hrest : rest.head? ≠ some '=') :
    op.IsLongest (op.symbol.toList ++ rest) := by
  rcases op.symbol_cases with ⟨c, hc⟩ | ⟨c, hc⟩
  · intro op' hprefix
    rw [← String.length_toList, ← String.length_toList, hc]
    rcases op'.symbol_cases with ⟨c', hc'⟩ | ⟨c', hc'⟩
    · rw [hc']
      exact Nat.le_refl 1
    · -- The equals sign of the other operator would follow.
      rw [hc, hc'] at hprefix
      rcases hprefix with ⟨t, ht⟩
      cases ht
      exact absurd rfl hrest
  · exact isLongest_of_two hc _

theorem IsLongest.head?_ne {op longer : Operator} {rest : List Char}
    (h : op.IsLongest (op.symbol.toList ++ rest)) (hlonger : longer.symbol.toList = op.symbol.toList ++ ['=']) :
    rest.head? ≠ some '=' := by
  intro hhead
  rcases List.head?_eq_some_iff.1 hhead with ⟨after, rfl⟩
  have hprefix : longer.symbol.toList <+: op.symbol.toList ++ '=' :: after :=
    ⟨after, by rw [hlonger, List.append_assoc, List.singleton_append]⟩
  have hle := h longer hprefix
  rw [← String.length_toList, ← String.length_toList, hlonger, List.length_append] at hle
  exact absurd hle (Nat.not_succ_le_self _)

theorem not_equals_cons {rest : List Char} (h : ∀ after, rest = '=' :: after → False) :
    rest.head? ≠ some '=' := by
  intro hhead
  rcases List.head?_eq_some_iff.1 hhead with ⟨after, hafter⟩
  exact h after hafter

theorem take?_of_head?_ne {op : Operator} {mark : Char} {rest : List Char}
    (hop : op = greater ∧ mark = '>' ∨ op = less ∧ mark = '<') (h : rest.head? ≠ some '=') :
    take? (mark :: rest) = some (op, rest) := by
  cases rest with
  | nil => rcases hop with ⟨rfl, rfl⟩ | ⟨rfl, rfl⟩ <;> rfl
  | cons c rest =>
      have hc : c ≠ '=' := fun heq => h (congrArg some heq)
      rcases hop with ⟨rfl, rfl⟩ | ⟨rfl, rfl⟩
      · simp [take?, hc]
      · simp [take?, hc]

/-- The longest operator is taken off the front. -/
theorem take?_eq_some_iff {cs rest : List Char} {op : Operator} :
    take? cs = some (op, rest) ↔ cs = op.symbol.toList ++ rest ∧ op.IsLongest cs := by
  constructor
  · intro h
    unfold take? at h
    -- The first four operators are two characters; behind the other two no equals sign is left.
    split at h <;> cases h
    · exact ⟨rfl, isLongest_of_two rfl _⟩
    · exact ⟨rfl, isLongest_of_two rfl _⟩
    · exact ⟨rfl, isLongest_of_two rfl _⟩
    · exact ⟨rfl, isLongest_of_two rfl _⟩
    · next hrest => exact ⟨rfl, greater.isLongest_append (not_equals_cons hrest)⟩
    · next hrest => exact ⟨rfl, less.isLongest_append (not_equals_cons hrest)⟩
  · rintro ⟨rfl, hlongest⟩
    cases op with
    | greater =>
        have hlonger : atLeast.symbol.toList = greater.symbol.toList ++ ['='] := rfl
        exact take?_of_head?_ne (.inl ⟨rfl, rfl⟩) (hlongest.head?_ne hlonger)
    | less =>
        have hlonger : atMost.symbol.toList = less.symbol.toList ++ ['='] := rfl
        exact take?_of_head?_ne (.inr ⟨rfl, rfl⟩) (hlongest.head?_ne hlonger)
    | atLeast => rfl
    | atMost => rfl
    | equal => rfl
    | unequal => rfl

end Operator

/-! ## Reading -/

namespace Comparison

theorem map_eq_ok_iff {ε α β : Type} {x : Except ε α} {f : α → β} {b : β} :
    x.map f = .ok b ↔ ∃ a, x = .ok a ∧ f a = b := by
  cases x with
  | ok a => simp [Except.map]
  | error e => simp [Except.map]

theorem bind_eq_ok_iff {ε α β : Type} {x : Except ε α} {f : α → Except ε β} {b : β} :
    x >>= f = .ok b ↔ ∃ a, x = .ok a ∧ f a = .ok b := by
  cases x with
  | ok a => simp [bind, Except.bind]
  | error e => simp [bind, Except.bind]

/-- What reads an operand reads just the numerals of finite numbers. -/
theorem operand_eq_ok_iff {cs : List Char} {n : Binary64} : operand cs = .ok n ↔ SpellsFinite n (trim cs) := by
  rw [← read?_finite_iff]
  unfold operand
  cases hread : read? (trim cs) with
  | none => simp [hread]
  | some m =>
      simp only [hread, Option.some.injEq]
      constructor
      · intro h
        split at h
        · next hfinite =>
            cases h
            exact ⟨rfl, hfinite⟩
        · cases h
      · rintro ⟨rfl, hfinite⟩
        exact if_pos hfinite

theorem operand_of_gap {gap numeral : List Char} {n : Binary64} (hgap : Gap gap)
    (hnumeral : SpellsFinite n numeral) : operand (gap ++ numeral) = .ok n := by
  rw [operand_eq_ok_iff, trim_gap_append hgap, trim_eq_self_iff.2 hnumeral.word.tight]
  exact hnumeral

/-- What follows the word `between` begins with white space. -/
theorem afterBetween?_eq_some_iff {cs rest : List Char} :
    afterBetween? cs = some rest ↔ cs = "between".toList ++ rest ∧ ∃ c ∈ rest.head?, isBlank c = true := by
  constructor
  · intro h
    unfold afterBetween? at h
    split at h
    · next c cs =>
        split at h
        · next hblank =>
            cases h
            exact ⟨rfl, c, rfl, hblank⟩
        · cases h
    · cases h
  · rintro ⟨rfl, c, hc, hblank⟩
    rcases List.head?_eq_some_iff.1 hc with ⟨after, rfl⟩
    exact if_pos hblank

/-- Bounds are two words, each an operand. -/
theorem parseBounds_eq_ok_iff {cs : List Char} {c : Comparison} :
    parseBounds cs = .ok c ↔ ∃ low high first last, words cs = [first, last] ∧
      operand first = .ok low ∧ operand last = .ok high ∧ c = .between low high := by
  constructor
  · intro h
    unfold parseBounds at h
    split at h
    · next first last hwords =>
        rcases bind_eq_ok_iff.1 h with ⟨low, hlow, h⟩
        rcases bind_eq_ok_iff.1 h with ⟨high, hhigh, h⟩
        cases h
        exact ⟨low, high, first, last, hwords, hlow, hhigh, rfl⟩
    · cases h
  · rintro ⟨low, high, first, last, hwords, hfirst, hlast, rfl⟩
    simp only [parseBounds, hwords]
    exact bind_eq_ok_iff.2 ⟨low, hfirst, bind_eq_ok_iff.2 ⟨high, hlast, rfl⟩⟩

theorem operand_word_iff {w : List Char} (hw : Word w) {n : Binary64} :
    operand w = .ok n ↔ SpellsFinite n w := by
  rw [operand_eq_ok_iff, trim_eq_self_iff.2 hw.tight]

/-- No operator begins like the word `between`. -/
theorem afterBetween?_symbol (op : Operator) (rest : List Char) :
    afterBetween? (op.symbol.toList ++ rest) = none := by
  cases op <;> rfl

/-- No equals sign follows an operator with its operand. -/
theorem head?_ne_equals {gap numeral : List Char} {n : Binary64} (hgap : Gap gap)
    (hnumeral : SpellsFinite n numeral) : (gap ++ numeral).head? ≠ some '=' := by
  intro hhead
  have hmem : '=' ∈ gap ++ numeral := List.mem_of_head? hhead
  rcases List.mem_append.1 hmem with hin | hin
  · have hblank := hgap '=' hin
    cases hblank
  · have hpart := hnumeral.isPart '=' hin
    revert hpart
    simp [IsPart]

/-- A text of a comparison is read as that comparison. -/
theorem Spells.parse_eq {c : Comparison} {expression : List Char} (h : Spells c (trim expression)) :
    parse expression = .ok c := by
  unfold parse
  generalize trim expression = text at h
  cases h with
  | @against op n gap numeral hgap hnumeral =>
      -- Neither white space nor a numeral begins with an equals sign, so the operator is not cut short.
      have hlongest := op.isLongest_append (head?_ne_equals hgap hnumeral)
      have htake := Operator.take?_eq_some_iff.2 ⟨rfl, hlongest⟩
      simp only [afterBetween?_symbol, htake, operand_of_gap hgap hnumeral]
      rfl
  | @between low high before middle first last hbefore hbefore_ne hfirst hmiddle hmiddle_ne hlast =>
      have hafter := afterBetween?_eq_some_iff.2
        ⟨rfl, hbefore.head_append hbefore_ne (first ++ (middle ++ last))⟩
      have hwords : words (before ++ (first ++ (middle ++ last))) = [first, last] := by
        refine words_eq_pair_iff.2 ⟨before, middle, [], ?_, hbefore, hfirst.word, hmiddle, hmiddle_ne,
          hlast.word, gap_nil⟩
        rw [List.append_nil]
      have hlow := (operand_word_iff hfirst.word).2 hfirst
      have hhigh := (operand_word_iff hlast.word).2 hlast
      simp only [hafter]
      exact parseBounds_eq_ok_iff.2 ⟨low, high, first, last, hwords, hlow, hhigh, rfl⟩

/-- What is read behind an operator, in a text without white space at its end. -/
theorem spells_against {op : Operator} {rest : List Char} {n : Binary64}
    (htight : Tight (op.symbol.toList ++ rest)) (h : operand rest = .ok n) :
    Spells (.against op n) (op.symbol.toList ++ rest) := by
  rcases exists_gaps rest with ⟨gap, after, hgap, hafter, hrest⟩
  have hend : after = [] := by
    rw [hrest, ← List.append_assoc, ← List.append_assoc] at htight
    exact htight.gap_eq_nil hafter
  rw [hrest, hend, List.append_nil]
  exact .against op hgap (operand_eq_ok_iff.1 h)

/-- What is read behind the word `between` and white space, in a text without white space at its end. -/
theorem spells_between {rest : List Char} {c : Comparison} (htight : Tight ("between".toList ++ rest))
    (hhead : ∃ x ∈ rest.head?, isBlank x = true) (h : parseBounds rest = .ok c) :
    Spells c ("between".toList ++ rest) := by
  rcases parseBounds_eq_ok_iff.1 h with ⟨low, high, first, last, hwords, hlow, hhigh, rfl⟩
  rcases words_eq_pair_iff.1 hwords with
    ⟨before, middle, after, rfl, hbefore, hfirst, hmiddle, hmiddle_ne, hlast, hafter⟩
  rcases hhead with ⟨x, hx, hblank⟩
  -- Were there no white space in front of the first bound, its first character would be the blank.
  have hbefore_ne : before ≠ [] := by
    rintro rfl
    rcases hfirst.head_append (middle ++ (last ++ after)) with ⟨y, hy, hword⟩
    rw [Option.mem_unique hy hx, hblank] at hword
    cases hword
  have hend : after = [] := by
    simp only [← List.append_assoc] at htight
    exact htight.gap_eq_nil hafter
  rw [hend, List.append_nil]
  exact .between hbefore hbefore_ne ((operand_word_iff hfirst).1 hlow) hmiddle hmiddle_ne
    ((operand_word_iff hlast).1 hhigh)

/-- What is read are the texts of comparisons. -/
theorem parse_eq_ok_iff {expression : List Char} {c : Comparison} :
    parse expression = .ok c ↔ Spells c (trim expression) := by
  refine ⟨?_, Spells.parse_eq⟩
  intro h
  have htight := tight_trim expression
  unfold parse at h
  -- From here on only the trimmed text matters, and that it has no blanks at its ends.
  generalize trim expression = text at h htight
  cases hafter : afterBetween? text with
  | some rest =>
      simp only [hafter] at h
      rcases afterBetween?_eq_some_iff.1 hafter with ⟨rfl, hhead⟩
      exact spells_between htight hhead h
  | none =>
      simp only [hafter] at h
      cases htake : Operator.take? text with
      | none =>
          simp only [htake] at h
          cases h
      | some taken =>
          rcases taken with ⟨op, rest⟩
          rcases Operator.take?_eq_some_iff.1 htake with ⟨rfl, -⟩
          simp only [htake] at h
          rcases map_eq_ok_iff.1 h with ⟨n, hn, rfl⟩
          exact spells_against htight hn

theorem accepts_iff {expression : String} :
    accepts expression = true ↔ ∃ c, Spells c (trim expression.toList) := by
  unfold accepts
  cases hparse : parse expression.toList with
  | ok c => exact iff_of_true rfl ⟨c, parse_eq_ok_iff.1 hparse⟩
  | error d =>
      refine iff_of_false nofun ?_
      rintro ⟨c, hc⟩
      rw [hc.parse_eq] at hparse
      cases hparse

theorem word_symbol (op : Operator) : Word op.symbol.toList := by
  cases op <;> exact word_of_all rfl rfl

/-- There is no white space around the text of a comparison. -/
theorem Spells.tight {c : Comparison} {text : List Char} (h : Spells c text) : Tight text := by
  cases h with
  | against op hgap hnumeral => exact tight_words (word_symbol op) _ hnumeral.word
  | @between low high before middle first last hbefore hbefore_ne hfirst hmiddle hmiddle_ne hlast =>
      have hword : Word "between".toList := word_of_all rfl rfl
      have hassoc : before ++ (first ++ (middle ++ last)) = before ++ (first ++ middle) ++ last := by
        simp only [List.append_assoc]
      rw [hassoc]
      exact tight_words hword _ hlast.word

/-- A text is that of one comparison at most. -/
theorem Spells.unique {c c' : Comparison} {expression : List Char} (h : Spells c (trim expression))
    (h' : Spells c' (trim expression)) : c = c' := by
  have hparse := h.parse_eq
  rw [h'.parse_eq] at hparse
  cases hparse
  rfl

/-- The operator of a comparison is the longest at the front of its text. -/
theorem Spells.isLongest {op : Operator} {n : Binary64} {text : List Char} (h : Spells (.against op n) text) :
    op.IsLongest text := by
  cases h with
  | against _ hgap hnumeral => exact op.isLongest_append (head?_ne_equals hgap hnumeral)

end Comparison

/-! ## Evaluating -/

theorem Decision.ofBool_eq_ok_iff {holds : Bool} : (.ok (.ofBool holds) : Decision) = .ok .ok ↔ holds = true := by
  cases holds <;> decide

namespace Comparison

/-- What a comparison comes to for the attribute `subject`, from what is read. -/
inductive Decides (c : Comparison) (subject : String) : Reading → Decision → Prop where
  | unreadable (e : Unavailable) : Decides c subject (.error e) (.error (.unreadable e))
  | notNumeric {v : Value} (hv : v.number? = none) :
      Decides c subject (.ok v) (.error (.notNumeric subject v.render))
  | satisfied {v : Value} {x : Binary64} (hv : v.number? = some x) (hx : c.Satisfied x) :
      Decides c subject (.ok v) (.ok .ok)
  | violated {v : Value} {x : Binary64} (hv : v.number? = some x) (hx : ¬ c.Satisfied x) :
      Decides c subject (.ok v) (.ok .error)

theorem onReading_judge {v : Value} {x : Binary64} (hv : v.number? = some x) (c : Comparison) (subject : String) :
    (c.judge subject).onReading (.ok v) = .ok (.ofBool (c.holds x)) := by
  rw [Judge.onReading, judge, hv]

theorem onReading_judge_of_none {v : Value} (hv : v.number? = none) (c : Comparison) (subject : String) :
    (c.judge subject).onReading (.ok v) = .error (.notNumeric subject v.render) := by
  rw [Judge.onReading, judge, hv]

theorem decides_judge (c : Comparison) (subject : String) (reading : Reading) :
    c.Decides subject reading ((c.judge subject).onReading reading) := by
  cases reading with
  | error e => exact .unreadable e
  | ok v =>
      rw [Judge.onReading, judge]
      cases hv : v.number? with
      | none => exact .notNumeric hv
      | some x =>
          by_cases hx : c.Satisfied x
          · simp only [(c.holds_iff x).2 hx]
            exact .satisfied hv hx
          · simp only [Bool.eq_false_iff.2 (mt (c.holds_iff x).1 hx)]
            exact .violated hv hx

theorem Decides.ne_invalid {c : Comparison} {subject : String} {reading : Reading} {decision : Decision}
    (h : c.Decides subject reading decision) (expression reason : String) :
    decision ≠ .error (.invalidExpression expression reason) := by
  cases h <;> nofun

/-- A comparison is decided by what is read, unless its bounds are reversed. -/
theorem Spells.judgeFor_eq {c : Comparison} {expression : String} (h : Spells c (trim expression.toList))
    (subject : String) :
    judgeFor expression subject =
      if c.isReversed then .error (.invalidExpression expression Defect.reversedBounds.message)
      else .ok (c.judge subject) := by
  rw [judgeFor, resolve, h.parse_eq]
  simp only
  split <;> rfl

/-- What is not accepted is not decided. -/
theorem judgeFor_of_not_accepts {expression : String} (h : accepts expression = false) (subject : String) :
    ∃ reason, judgeFor expression subject = .error (.invalidExpression expression reason) := by
  unfold accepts at h
  cases hparse : parse expression.toList with
  | ok c =>
      rw [hparse] at h
      cases h
  | error d =>
      rw [judgeFor, resolve, hparse]
      exact ⟨d.message, rfl⟩

end Comparison

/-- An evaluation decides as the expression says from what is read. -/
theorem evaluate_run (h : ProviderHost) (id : ProviderId) (a : Attribute) (expression : String) :
    ((Evaluator.evaluate ⟨id, .standard .numeric⟩ a expression).run h).1 =
      (Comparison.judgeFor expression (name a)).bind (·.onReading ((a.read.run h).1 : Reading)) := by
  have hrun : (Evaluator.evaluate ⟨id, .standard .numeric⟩ a expression).run h =
      (decideBy (Comparison.judgeFor expression (name a)) a.read).run
        { h with surroundings := h.surroundings.setCache id (h.surroundings.cacheOf id) } := rfl
  rw [hrun, decideBy_read, Attribute.reading_setCache]
  rfl

/-- The text of a comparison in order is decided by that comparison. -/
theorem evaluate_spells {c : Comparison} {expression : String} (hc : c.Spells (trim expression.toList))
    (hordered : c.isReversed = false) (h : ProviderHost) (id : ProviderId) (a : Attribute) :
    ((Evaluator.evaluate ⟨id, .standard .numeric⟩ a expression).run h).1 =
      (c.judge (name a)).onReading (a.read.run h).1 := by
  rw [evaluate_run, hc.judgeFor_eq, if_neg (Bool.eq_false_iff.1 hordered)]
  rfl

/-- The text of a comparison in order, for an attribute that is read to have a numeric view. -/
theorem evaluate_viewed {c : Comparison} {expression : String} {v : Value} {x : Binary64}
    (hc : c.Spells (trim expression.toList)) (hordered : c.isReversed = false) (h : ProviderHost) (id : ProviderId)
    (a : Attribute) (hread : (a.read.run h).1 = (.ok v : Reading)) (hx : v.number? = some x) :
    ((Evaluator.evaluate ⟨id, .standard .numeric⟩ a expression).run h).1 = .ok (.ofBool (c.holds x)) := by
  rw [evaluate_spells hc hordered, hread]
  exact Comparison.onReading_judge hx c (name a)

theorem evaluate_reversed {c : Comparison} {expression : String} (hc : c.Spells (trim expression.toList))
    (hreversed : c.isReversed = true) (h : ProviderHost) (id : ProviderId) (a : Attribute) :
    ((Evaluator.evaluate ⟨id, .standard .numeric⟩ a expression).run h).1 =
      .error (.invalidExpression expression Comparison.Defect.reversedBounds.message) := by
  rw [evaluate_run, hc.judgeFor_eq, if_pos hreversed]
  rfl

/-- An expression is accepted just if it spells a comparison, and then evaluates to an error of its own, of the
attribute or of the value, or to what the comparison says of the number. -/
theorem evaluate_comparison (h : ProviderHost) (id : ProviderId) (a : Attribute) (expression : String) :
    let numeric : Evaluator := .standard .numeric
    let text := trim expression.toList
    let decision := ((Evaluator.evaluate ⟨id, numeric⟩ a expression).run h).1
    (numeric.accepts expression = true ↔ ∃ c, Comparison.Spells c text) ∧
      (∀ c, Comparison.Spells c text → (∀ c', Comparison.Spells c' text → c' = c) ∧
        ∀ op n, c = .against op n → op.IsLongest text) ∧
      ((∃ reason, decision = .error (.invalidExpression expression reason)) ↔
        numeric.accepts expression = false ∨ ∃ c, Comparison.Spells c text ∧ c.Reversed) ∧
      ∀ c, Comparison.Spells c text → ¬ c.Reversed → c.Decides (name a) (a.read.run h).1 decision := by
  intro numeric text decision
  have haccepts : numeric.accepts expression = true ↔ ∃ c, Comparison.Spells c text :=
    Comparison.accepts_iff
  have hrun : decision = _ := evaluate_run h id a expression
  have hdecides : ∀ c, Comparison.Spells c text → ¬ c.Reversed →
      c.Decides (name a) (a.read.run h).1 decision := by
    intro c hc hnot
    rw [hrun, hc.judgeFor_eq, if_neg (mt c.isReversed_eq_true_iff.1 hnot)]
    exact c.decides_judge (name a) _
  refine ⟨haccepts, ?_, ?_, hdecides⟩
  · intro c hc
    refine ⟨fun c' hc' => hc'.unique hc, ?_⟩
    rintro op n rfl
    exact hc.isLongest
  · constructor
    · rintro ⟨reason, hreason⟩
      -- A comparison in order comes to something else.
      by_cases hsome : numeric.accepts expression = true
      · rcases haccepts.1 hsome with ⟨c, hc⟩
        refine .inr ⟨c, hc, ?_⟩
        by_contra hnot
        exact (hdecides c hc hnot).ne_invalid expression reason hreason
      · exact .inl (Bool.eq_false_iff.2 hsome)
    · rintro (hnone | ⟨c, hc, hreversed⟩)
      · rcases Comparison.judgeFor_of_not_accepts hnone (name a) with ⟨reason, hreason⟩
        refine ⟨reason, ?_⟩
        rw [hrun, hreason]
        rfl
      · refine ⟨Comparison.Defect.reversedBounds.message, ?_⟩
        rw [hrun, hc.judgeFor_eq, if_pos (c.isReversed_eq_true_iff.2 hreversed)]
        rfl

/-- Bounds with white space of several kinds around them, and an operand that is too large. -/
theorem evaluate_comparison_spaced :
    let load := Attribute.constant "load" (.text " 1.5e3 ")
    let range := "\u00a0between\t1e3  2e3 "
    let bounds := Comparison.between (.ofInt 1000) (.ofInt 2000)
    let h : ProviderHost :=
      { registry := Registry.empty 0, surroundings := { environment := {}, facts := ⟨"", "", "", .ok 1, 1⟩ } }
    let decision (expression : String) :=
      ((Evaluator.evaluate ⟨⟨0⟩, .standard .numeric⟩ load expression).run h).1
    bounds.Spells (trim range.toList) ∧ ¬ bounds.Reversed ∧ decision range = .ok .ok ∧
      ∃ reason, decision "> 1e999" = .error (.invalidExpression "> 1e999" reason) := by
  intro load range bounds h decision
  have hspells : bounds.Spells (trim range.toList) := Comparison.parse_eq_ok_iff.1 (by decide +kernel)
  have hordered : ¬ bounds.Reversed := mt bounds.isReversed_eq_true_iff.2 (by decide +kernel)
  obtain ⟨x, hnumber, hwithin⟩ : ∃ x, (Value.text " 1.5e3 ").number? = some x ∧ bounds.Satisfied x :=
    ⟨.ofInt 1500, by decide +kernel, (bounds.holds_iff _).1 (by decide +kernel)⟩
  have hdecides : bounds.Decides "load" (.ok (.text " 1.5e3 ")) (decision range) :=
    (evaluate_comparison h ⟨0⟩ load range).2.2.2 bounds hspells hordered
  have hlarge := (evaluate_comparison h ⟨0⟩ load "> 1e999").2.2.1
  refine ⟨hspells, hordered, ?_, hlarge.2 (.inl (by decide +kernel))⟩
  generalize decision range = decided at hdecides ⊢
  cases hdecides with
  | notNumeric hv =>
      rw [hnumber] at hv
      cases hv
  | satisfied hv hx => rfl
  | violated hv hx =>
      rw [hnumber] at hv
      cases hv
      exact absurd hwithin hx

end HealthRules
