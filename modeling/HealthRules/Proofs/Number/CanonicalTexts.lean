import HealthRules.Proofs.Number.Numerals
import HealthRules.Proofs.Number.ReadBack
import HealthRules.Value

/-!
# CanonicalTexts — numbers read back from their canonical texts

The canonical text of an integer is its sign and its digits. That of a finite number is its shortest decimal in
positional notation: zeros or a point stand where the exponent says, and no exponent is written. All these texts are
numerals, of decimals that are rounded to the number written.

* `Numeral.ofDigits_digits`, digits written and read;
* `Numeral.spells_positionalText`: positional notation keeps the value of a decimal;
* `read?_write` and `read?_toString`, finite numbers and integers;
* `Value.spells_render`: the canonical text of a value is a numeral of its numeric view.
-/

namespace HealthRules

open Numeral NumberStyle

/-! ## Digits -/

namespace Numeral

theorem ofDigits_digits (n : Nat) : ofDigits (digits n) = n := by
  have hread : Nat.ofDigitChars 10 (digits n) 0 = n := Nat.ofDigitChars_ten_toDigits
  rw [Nat.ofDigitChars_eq_foldl] at hread
  simp only [Nat.mul_comm 10] at hread
  exact hread

theorem digits_digits (n : Nat) : Digits (digits n) :=
  fun _ hc => Nat.isDigit_of_mem_toDigits (by decide) (by decide) hc

theorem digits_ne_nil (n : Nat) : digits n ≠ [] := Nat.toDigits_ne_nil

theorem digits_append {cs cs' : List Char} (h : Digits cs) (h' : Digits cs') : Digits (cs ++ cs') := by
  intro c hc
  rcases List.mem_append.1 hc with hin | hin
  · exact h c hin
  · exact h' c hin

theorem digits_zeros (n : Nat) : Digits (List.replicate n '0') := by
  intro c hc
  rw [List.eq_of_mem_replicate hc]
  rfl

/-- Zeros in front of digits do not count. -/
theorem ofDigits_zeros_append (n : Nat) (cs : List Char) : ofDigits (List.replicate n '0' ++ cs) = ofDigits cs := by
  induction n with
  | zero => rfl
  | succ n ih => exact ih

/-- Each zero behind digits makes the number ten times as large. -/
theorem ofDigits_append_zeros (cs : List Char) (n : Nat) :
    ofDigits (cs ++ List.replicate n '0') = ofDigits cs * tenPow n := by
  induction n with
  | zero =>
      rw [List.replicate_zero, List.append_nil]
      exact (Nat.mul_one _).symm
  | succ n ih =>
      have hten : tenPow (n + 1) = tenPow n * 10 := rfl
      have hlast : ofDigits (cs ++ List.replicate n '0' ++ ['0']) = ofDigits (cs ++ List.replicate n '0') * 10 :=
        List.foldl_append
      rw [List.replicate_succ', ← List.append_assoc, hlast, ih, hten, Nat.mul_assoc]

/-! ## Positional notation -/

theorem spells_plain {whole : List Char} (hwhole : Digits whole) (hne : whole ≠ []) :
    SpellsDecimal ⟨ofDigits whole, 0⟩ whole := by
  have hspells := SpellsDecimal.mk hwhole digits_nil (.plain hne) .none
  rw [List.append_nil] at hspells
  exact hspells

theorem spells_pointed {whole fraction : List Char} {n : Nat} (hwhole : Digits whole) (hfraction : Digits fraction)
    (hlength : fraction.length = n + 1) :
    SpellsDecimal ⟨ofDigits (whole ++ fraction), .negSucc n⟩ (whole ++ '.' :: fraction) := by
  have hne : whole ++ fraction ≠ [] := by
    intro hnil
    rw [(List.append_eq_nil_iff.1 hnil).2] at hlength
    cases hlength
  have hspells := SpellsDecimal.mk hwhole hfraction (.pointed hne) .none
  rw [List.append_nil, hlength, Int.zero_sub] at hspells
  exact hspells

/-- The digits of a coefficient, with zeros or a point where they belong, spell a decimal of the same value. -/
theorem spells_positionalText {cs : List Char} (hcs : Digits cs) (hne : cs ≠ []) (e : Int) :
    ∃ d, SpellsDecimal d (positionalText false cs e) ∧ d.value = Decimal.value ⟨ofDigits cs, e⟩ := by
  cases e with
  | ofNat n =>
      have htext : positionalText false cs (.ofNat n) = cs ++ List.replicate n '0' := List.append_nil _
      have hne' : cs ++ List.replicate n '0' ≠ [] := fun hnil => hne (List.append_eq_nil_iff.1 hnil).1
      rw [htext]
      refine ⟨_, spells_plain (digits_append hcs (digits_zeros n)) hne', ?_⟩
      have hzero : (0 : Int) = .ofNat 0 := rfl
      rw [hzero, Decimal.value_ofNat, Decimal.value_ofNat, ofDigits_append_zeros]
      exact congrArg _ (Nat.mul_one _)
  | negSucc n =>
      by_cases hlong : n + 1 < cs.length
      · -- The point is among the digits.
        have htext : positionalText false cs (.negSucc n) =
            cs.take (cs.length - (n + 1)) ++ '.' :: cs.drop (cs.length - (n + 1)) := if_pos hlong
        have hlength : (cs.drop (cs.length - (n + 1))).length = n + 1 := by
          rw [List.length_drop]
          omega
        have hwhole : Digits (cs.take (cs.length - (n + 1))) := fun c hc => hcs c (List.mem_of_mem_take hc)
        have hfraction : Digits (cs.drop (cs.length - (n + 1))) := fun c hc => hcs c (List.mem_of_mem_drop hc)
        have hspells := spells_pointed hwhole hfraction hlength
        rw [List.take_append_drop] at hspells
        rw [htext]
        exact ⟨_, hspells, rfl⟩
      · -- The point is in front of all digits, with zeros around it.
        let zeros := List.replicate (n + 1 - cs.length) '0'
        have htext : positionalText false cs (.negSucc n) = ['0'] ++ '.' :: (zeros ++ cs) := if_neg hlong
        have hlength : (zeros ++ cs).length = n + 1 := by
          rw [List.length_append, List.length_replicate]
          omega
        have hspells := spells_pointed (digits_zeros 1) (digits_append (digits_zeros _) hcs) hlength
        rw [ofDigits_zeros_append 1, ofDigits_zeros_append] at hspells
        rw [htext]
        exact ⟨_, hspells, rfl⟩

end Numeral

/-! ## Reading what is written -/

theorem Decimal.round_congr {d d' : Decimal} (h : d.value = d'.value) (negative : Bool) :
    d.round negative = d'.round negative := by
  rcases d'.exists_quotient with ⟨num, den, hden, hvalue⟩
  rw [d.round_eq negative hden (h.trans hvalue), d'.round_eq negative hden hvalue]

/-- The sign that is written in front of a number. -/
def signText (negative : Bool) : List Char := if negative then ['-'] else []

theorem spells_signText (negative : Bool) : SpellsSign negative (signText negative) := by
  cases negative with
  | false => exact .none
  | true => exact .minus

theorem write_finite (style : NumberStyle) (negative : Bool) (m : Magnitude) :
    (style.write (.finite negative m)).toList =
      signText negative ++ if m.units = 0 then (if style.keepFraction then ['0', '.', '0'] else ['0'])
        else style.magnitudeText m.units := by
  cases negative with
  | false => exact String.toList_ofList
  | true => exact String.toList_ofList

/-- The text of a finite number is read as that number. -/
theorem read?_write {x : Binary64} (hx : x.isFinite = true) : read? (plain.write x).toList = some x := by
  cases x with
  | nan => cases hx
  | infinite negative => cases hx
  | finite negative m =>
      rw [write_finite]
      by_cases hzero : m.units = 0
      · -- Zero has no shortest decimal; it keeps its sign.
        have hspells : Spells negative ⟨ofDigits ['0'], 0⟩ (signText negative ++ ['0']) :=
          .mk (spells_signText negative) (spells_plain (digits_zeros 1) (List.cons_ne_nil _ _))
        have hm : m = .zero := Magnitude.ext hzero
        rw [if_pos hzero, hm]
        exact hspells.read?_eq
      · rw [if_neg hzero]
        let d := Shortest.shortest plain.tie m.units
        have htext : plain.magnitudeText m.units = positionalText false (digits d.coefficient) d.exponent := rfl
        rcases spells_positionalText (digits_digits d.coefficient) (digits_ne_nil _) d.exponent with
          ⟨d', hspells, hvalue⟩
        rw [ofDigits_digits] at hvalue
        rw [htext, (Spells.mk (spells_signText negative) hspells).read?_eq, Decimal.round_congr hvalue]
        exact congrArg some (Shortest.round_shortest _ negative m (Nat.pos_of_ne_zero hzero))

theorem toList_toString (i : Int) : (toString i).toList = signText (decide (i < 0)) ++ digits i.natAbs := by
  rw [Int.toString_eq_repr, Int.repr_eq_if, Nat.repr_eq_ofList_toDigits, Nat.repr_eq_ofList_toDigits]
  rcases Int.lt_or_le i 0 with hneg | hpos
  · have habs : (-i).toNat = i.natAbs := by omega
    rw [if_neg (Int.not_le.2 hneg), habs, decide_eq_true hneg, String.toList_append, String.toList_ofList,
      String.toList_ofList]
    rfl
  · have habs : i.toNat = i.natAbs := by omega
    rw [if_pos hpos, habs, decide_eq_false (Int.not_lt.2 hpos), String.toList_ofList]
    rfl

/-- The text of an integer is read as the number nearest to it. -/
theorem read?_toString (i : Int) : read? (toString i).toList = some (.ofInt i) := by
  have hspells : Spells (decide (i < 0)) ⟨ofDigits (digits i.natAbs), 0⟩ (toString i).toList := by
    rw [toList_toString]
    exact .mk (spells_signText _) (spells_plain (digits_digits _) (digits_ne_nil _))
  have hvalue : Decimal.value ⟨i.natAbs, .ofNat 0⟩ = (i.natAbs : Nat) / (1 : Nat) := by
    rw [Decimal.value_ofNat, Nat.cast_one, div_one]
    exact congrArg _ (Nat.mul_one _)
  rw [hspells.read?_eq, ofDigits_digits]
  exact congrArg some (Decimal.round_eq _ _ Nat.one_pos hvalue)

/-! ## Canonical texts -/

/-- An integer of 64 bits has a finite nearest number. -/
theorem isFinite_ofInt (i : Int64) : (Binary64.ofInt i.toInt).isFinite = true := by
  have hleast := i.le_toInt
  have hgreatest := i.toInt_lt
  have hsmall : i.toInt.natAbs < twoPow 64 := by
    rw [twoPow, Nat.pow_eq]
    omega
  rw [Binary64.ofInt, Binary64.isFinite_ofQuot_iff _ _ Nat.one_pos, Nat.mul_one]
  calc
    i.toInt.natAbs < twoPow 64 := hsmall
    _ ≤ twoPow 970 := twoPow_le_twoPow (by decide)
    _ ≤ (twoPow 54 - 1) * twoPow 970 := Nat.le_mul_of_pos_left _ (by decide)

namespace Value

/-- Integers and finite numbers. -/
def IsFinite : Value → Prop
  | int _ => True
  | float x => x.isFinite = true
  | bool _ => False
  | text _ => False

/-- The canonical text of a value is a numeral of its numeric view. -/
theorem IsFinite.spells_render {v : Value} (hv : v.IsFinite) :
    ∃ x, v.number? = some x ∧ SpellsFinite x v.render.toList := by
  cases v with
  | int i => exact ⟨_, rfl, read?_finite_iff.1 ⟨read?_toString i.toInt, isFinite_ofInt i⟩⟩
  | float x => exact ⟨x, rfl, read?_finite_iff.1 ⟨read?_write hv, hv⟩⟩
  | bool b => exact hv.elim
  | text s => exact hv.elim

end Value

end HealthRules
