import HealthRules.Proofs.Number.Overflow
import HealthRules.Proofs.Text.Words

/-!
# Numerals — the texts of finite numbers

A numeral has a sign, a mantissa and an exponent. The sign and the exponent may be missing, and so may the point of the
mantissa and the digits on one of its sides. The words for infinity and not-a-number can be read as well, but none is
finite.

* `SpellsSign`, `SpellsMantissa` and `SpellsExponent`, the grammar of the parts, and `Spells`, that of numerals;
* `takeSign_append`, `exponent?_eq_some_iff` and `decimal?_eq_some_iff`: what reads a part reads just its grammar;
* `SpellsFinite` and `read?_finite_iff`: the texts of finite numbers are the numerals of decimals below the limit;
* `SpellsFinite.word`: a numeral is one word.
-/

namespace HealthRules.Numeral

/-! ## The grammar -/

/-- There are decimal digits only, or nothing. -/
def Digits (cs : List Char) : Prop := ∀ c ∈ cs, c.isDigit = true

/-- A sign, which may be missing. -/
inductive SpellsSign : Bool → List Char → Prop where
  | none : SpellsSign false []
  | plus : SpellsSign false ['+']
  | minus : SpellsSign true ['-']

/-- The letter e with a sign and digits, which may be missing. -/
inductive SpellsExponent : Int → List Char → Prop where
  | none : SpellsExponent 0 []
  | marked {mark : Char} {negative : Bool} {sign digits : List Char} (hmark : mark = 'e' ∨ mark = 'E')
      (hsign : SpellsSign negative sign) (hdigits : Digits digits) (hne : digits ≠ []) :
      SpellsExponent (Binary64.signed negative (exponentOfDigits digits)) (mark :: (sign ++ digits))

/-- Digits with at most one point among or beside them. -/
inductive SpellsMantissa (whole : List Char) : List Char → List Char → Prop where
  | plain (hne : whole ≠ []) : SpellsMantissa whole [] whole
  | pointed {fraction : List Char} (hne : whole ++ fraction ≠ []) :
      SpellsMantissa whole fraction (whole ++ '.' :: fraction)

/-- A mantissa and an exponent. Each digit behind the point makes the exponent less by one. -/
inductive SpellsDecimal : Decimal → List Char → Prop where
  | mk {whole fraction mantissa exponent : List Char} {e : Int} (hwhole : Digits whole)
      (hfraction : Digits fraction) (hmantissa : SpellsMantissa whole fraction mantissa)
      (hexponent : SpellsExponent e exponent) :
      SpellsDecimal ⟨ofDigits (whole ++ fraction), e - fraction.length⟩ (mantissa ++ exponent)

/-- A sign and a decimal. -/
inductive Spells (negative : Bool) (d : Decimal) : List Char → Prop where
  | mk {sign decimal : List Char} (hsign : SpellsSign negative sign) (hdecimal : SpellsDecimal d decimal) :
      Spells negative d (sign ++ decimal)

/-- The numeral of a decimal below the limit, and the finite number it is rounded to. -/
inductive SpellsFinite : Binary64 → List Char → Prop where
  | mk {negative : Bool} {d : Decimal} {cs : List Char} (hspells : Spells negative d cs)
      (hlimit : d.value < Decimal.limit) : SpellsFinite (d.round negative) cs

/-! ## Digits -/

theorem digits_nil : Digits [] := by
  intro c hc
  cases hc

theorem isDigit_ne {c mark : Char} (hc : c.isDigit = true) (hmark : mark.isDigit = false) : c ≠ mark := by
  rintro rfl
  rw [hc] at hmark
  cases hmark

theorem spanDigits_append {digits rest : List Char} (hdigits : Digits digits)
    (hrest : ∀ c ∈ rest.head?, c.isDigit = false) : spanDigits (digits ++ rest) = (digits, rest) := by
  have htake : rest.takeWhile Char.isDigit = [] := by
    cases rest with
    | nil => rfl
    | cons c rest => exact List.takeWhile_cons_of_neg (by simp [hrest c rfl])
  have hdrop : rest.dropWhile Char.isDigit = rest := by
    cases rest with
    | nil => rfl
    | cons c rest => exact List.dropWhile_cons_of_neg (by simp [hrest c rfl])
  rw [spanDigits, List.takeWhile_append_of_pos hdigits, List.dropWhile_append_of_pos hdigits, htake, hdrop,
    List.append_nil]

/-- A text begins with digits, and what follows begins with none. -/
theorem exists_spanDigits (cs : List Char) :
    ∃ digits rest, spanDigits cs = (digits, rest) ∧ cs = digits ++ rest ∧ Digits digits ∧
      ∀ c ∈ rest.head?, c.isDigit = false := by
  refine ⟨_, _, rfl, List.takeWhile_append_dropWhile.symm, ?_, ?_⟩
  · intro c hc
    exact List.mem_takeWhile_imp hc
  · intro c hc
    have hnot := List.head?_dropWhile_not Char.isDigit cs
    rw [Option.mem_def.1 hc] at hnot
    simpa using hnot

/-! ## Parts -/

theorem takeSign_append {negative : Bool} {sign rest : List Char} (hsign : SpellsSign negative sign)
    (hrest : ∀ c ∈ rest.head?, c ≠ '+' ∧ c ≠ '-') : takeSign (sign ++ rest) = (negative, rest) := by
  cases hsign with
  | none =>
      cases rest with
      | nil => rfl
      | cons c rest =>
          have hc := hrest c rfl
          simp [takeSign, hc]
  | plus => rfl
  | minus => rfl

theorem exists_takeSign (cs : List Char) :
    ∃ negative sign rest, takeSign cs = (negative, rest) ∧ cs = sign ++ rest ∧ SpellsSign negative sign := by
  unfold takeSign
  split
  · exact ⟨_, ['-'], _, rfl, rfl, .minus⟩
  · exact ⟨_, ['+'], _, rfl, rfl, .plus⟩
  · exact ⟨_, [], _, rfl, rfl, .none⟩

theorem exponent?_eq_some_iff {cs : List Char} {e : Int} : exponent? cs = some e ↔ SpellsExponent e cs := by
  constructor
  · intro h
    cases cs with
    | nil =>
        cases h
        exact .none
    | cons mark cs =>
        rcases exists_takeSign cs with ⟨negative, sign, digits, htake, rfl, hsign⟩
        simp only [exponent?, htake] at h
        split at h
        · next hmark =>
            split at h
            · cases h
            · next hdigits =>
                simp only [List.isEmpty_iff, Bool.not_eq_true', List.all_eq_false, not_or, not_exists, not_and,
                  not_not] at hdigits
                cases h
                exact .marked hmark hsign hdigits.2 hdigits.1
        · cases h
  · intro h
    cases h with
    | none => rfl
    | @marked mark negative sign digits hmark hsign hdigits hne =>
        -- The first digit is not taken for another sign.
        have hhead : ∀ c ∈ digits.head?, c ≠ '+' ∧ c ≠ '-' := by
          intro c hc
          have hdigit := hdigits c (List.mem_of_head? hc)
          exact ⟨isDigit_ne hdigit rfl, isDigit_ne hdigit rfl⟩
        have hall : digits.all Char.isDigit = true := List.all_eq_true.2 hdigits
        simp [exponent?, takeSign_append hsign hhead, hmark, hne, hall]

/-- An exponent begins with neither a digit nor a point. -/
theorem SpellsExponent.head {e : Int} {exponent : List Char} (h : SpellsExponent e exponent) :
    ∀ c ∈ exponent.head?, c.isDigit = false ∧ c ≠ '.' := by
  intro c hc
  cases h with
  | none => cases hc
  | marked hmark hsign hdigits hne =>
      cases hc
      rcases hmark with rfl | rfl <;> decide

/-- No fraction is taken from a text that does not begin with a point. -/
theorem takeFraction_of_head {cs : List Char} (h : ∀ c ∈ cs.head?, c ≠ '.') : takeFraction cs = ([], cs) := by
  cases cs with
  | nil => rfl
  | cons c cs =>
      have hc := h c rfl
      simp [takeFraction, hc]

/-- What is taken off the front of a text is a mantissa, unless there are no digits. -/
theorem exists_mantissa (cs : List Char) :
    ∃ whole fraction rest, (spanDigits cs).1 = whole ∧ takeFraction (spanDigits cs).2 = (fraction, rest) ∧
      Digits whole ∧ Digits fraction ∧
      (whole ++ fraction ≠ [] → ∃ mantissa, SpellsMantissa whole fraction mantissa ∧ cs = mantissa ++ rest) := by
  rcases exists_spanDigits cs with ⟨whole, after, hspan, rfl, hwhole, -⟩
  rw [hspan]
  by_cases hpoint : after.head? = some '.'
  · rcases List.head?_eq_some_iff.1 hpoint with ⟨behind, rfl⟩
    rcases exists_spanDigits behind with ⟨fraction, rest, hfraction, rfl, hdigits, -⟩
    refine ⟨whole, fraction, rest, rfl, hfraction, hwhole, hdigits, fun hne => ?_⟩
    exact ⟨_, .pointed hne, by rw [List.append_assoc, List.cons_append]⟩
  · have hhead : ∀ c ∈ after.head?, c ≠ '.' := by
      rintro c hc rfl
      exact hpoint hc
    refine ⟨whole, [], after, rfl, takeFraction_of_head hhead, hwhole, digits_nil, fun hne => ?_⟩
    rw [List.append_nil] at hne
    exact ⟨whole, .plain hne, rfl⟩

theorem SpellsMantissa.digits_ne_nil {whole fraction mantissa : List Char}
    (h : SpellsMantissa whole fraction mantissa) : whole ++ fraction ≠ [] := by
  cases h with
  | plain hne =>
      rw [List.append_nil]
      exact hne
  | pointed hne => exact hne

/-- A mantissa is taken off the front if neither a digit nor a point follows. -/
theorem SpellsMantissa.taken {whole fraction mantissa rest : List Char}
    (h : SpellsMantissa whole fraction mantissa) (hwhole : Digits whole) (hfraction : Digits fraction)
    (hrest : ∀ c ∈ rest.head?, c.isDigit = false ∧ c ≠ '.') :
    (spanDigits (mantissa ++ rest)).1 = whole ∧
      takeFraction (spanDigits (mantissa ++ rest)).2 = (fraction, rest) := by
  have hnoDigit : ∀ c ∈ rest.head?, c.isDigit = false := fun c hc => (hrest c hc).1
  cases h with
  | plain hne =>
      rw [spanDigits_append hwhole hnoDigit]
      exact ⟨rfl, takeFraction_of_head fun c hc => (hrest c hc).2⟩
  | pointed hne =>
      have hpoint : ∀ c ∈ ('.' :: (fraction ++ rest)).head?, c.isDigit = false := by
        intro c hc
        cases hc
        rfl
      rw [List.append_assoc, List.cons_append, spanDigits_append hwhole hpoint]
      exact ⟨rfl, spanDigits_append hfraction hnoDigit⟩

/-- What reads a decimal reads just the grammar of decimals. -/
theorem decimal?_eq_some_iff {cs : List Char} {d : Decimal} : decimal? cs = some d ↔ SpellsDecimal d cs := by
  constructor
  · intro h
    rcases exists_mantissa cs with ⟨whole, fraction, rest, hspan, htake, hwhole, hfraction, hmantissa⟩
    simp only [decimal?, hspan, htake, List.isEmpty_iff, ← List.append_eq_nil_iff] at h
    split at h
    · cases h
    · next hne =>
        rcases hmantissa hne with ⟨mantissa, hspells, rfl⟩
        rcases Option.map_eq_some_iff.1 h with ⟨e, he, rfl⟩
        exact .mk hwhole hfraction hspells (exponent?_eq_some_iff.1 he)
  · rintro ⟨hwhole, hfraction, hmantissa, hexponent⟩
    -- Nothing of an exponent is taken for a part of the mantissa.
    rcases hmantissa.taken hwhole hfraction hexponent.head with ⟨hspan, htake⟩
    have hread := exponent?_eq_some_iff.2 hexponent
    have hne := hmantissa.digits_ne_nil
    simp only [decimal?, hspan, htake, List.isEmpty_iff, ← List.append_eq_nil_iff, if_neg hne, hread,
      Option.map_some]

/-! ## Numerals -/

theorem isFinite_of_word? {negative : Bool} {cs : List Char} {n : Binary64} (h : word? negative cs = some n) :
    n.isFinite = false := by
  simp only [word?] at h
  split at h
  · cases h
    rfl
  · split at h
    · cases h
      rfl
    · cases h

/-- A mantissa begins with a digit or with its point. -/
theorem SpellsMantissa.exists_head {whole fraction mantissa : List Char} (hwhole : Digits whole)
    (h : SpellsMantissa whole fraction mantissa) :
    ∃ c rest, mantissa = c :: rest ∧ (c.isDigit = true ∨ c = '.') := by
  cases whole with
  | nil =>
      cases h with
      | plain hne => exact absurd rfl hne
      | pointed hne => exact ⟨'.', _, rfl, .inr rfl⟩
  | cons c whole =>
      have hc : c.isDigit = true := hwhole c List.mem_cons_self
      cases h with
      | plain hne => exact ⟨c, whole, rfl, .inl hc⟩
      | pointed hne => exact ⟨c, _, rfl, .inl hc⟩

/-- A decimal does not begin with a sign. -/
theorem SpellsDecimal.head {d : Decimal} {cs : List Char} (h : SpellsDecimal d cs) :
    ∀ c ∈ cs.head?, c ≠ '+' ∧ c ≠ '-' := by
  rcases h with ⟨hwhole, hfraction, hmantissa, hexponent⟩
  rcases hmantissa.exists_head hwhole with ⟨first, rest, rfl, hfirst⟩
  intro c hc
  cases hc
  rcases hfirst with hdigit | rfl
  · exact ⟨isDigit_ne hdigit rfl, isDigit_ne hdigit rfl⟩
  · decide

/-- A numeral is read as the number that its decimal is rounded to. -/
theorem Spells.read?_eq {negative : Bool} {d : Decimal} {cs : List Char} (h : Spells negative d cs) :
    read? cs = some (d.round negative) := by
  rcases h with ⟨hsign, hdecimal⟩
  simp only [read?, takeSign_append hsign hdecimal.head, decimal?_eq_some_iff.2 hdecimal]

/-- The texts of finite numbers are the numerals of decimals below the limit. -/
theorem read?_finite_iff {cs : List Char} {n : Binary64} :
    read? cs = some n ∧ n.isFinite = true ↔ SpellsFinite n cs := by
  constructor
  · rintro ⟨hread, hfinite⟩
    rcases exists_takeSign cs with ⟨negative, sign, rest, htake, rfl, hsign⟩
    simp only [read?, htake] at hread
    cases hdecimal : decimal? rest with
    | none =>
        -- What is left is a word, of which none is finite.
        rw [hdecimal] at hread
        rw [isFinite_of_word? hread] at hfinite
        cases hfinite
    | some d =>
        rw [hdecimal] at hread
        cases hread
        have hspells : Spells negative d (sign ++ rest) := .mk hsign (decimal?_eq_some_iff.1 hdecimal)
        exact .mk hspells ((d.isFinite_round_iff negative).1 hfinite)
  · rintro ⟨hspells, hlimit⟩
    exact ⟨hspells.read?_eq, (Decimal.isFinite_round_iff _ _).2 hlimit⟩

/-! ## Characters -/

/-- The characters of numerals. -/
def IsPart (c : Char) : Prop := c.isDigit = true ∨ c ∈ ['+', '-', '.', 'e', 'E']

theorem IsPart.not_blank {c : Char} (h : IsPart c) : Blank.isBlank c = false := by
  rcases h with hdigit | hmark
  · have hrange : 48 ≤ c.toNat ∧ c.toNat ≤ 57 := by
      simpa [Char.isDigit, UInt32.le_iff_toNat_le] using hdigit
    simp only [Blank.isBlank, Bool.or_eq_false_iff, Bool.and_eq_false_iff, decide_eq_false_iff_not,
      beq_eq_false_iff_ne]
    omega
  · simp only [List.mem_cons, List.not_mem_nil, or_false] at hmark
    rcases hmark with rfl | rfl | rfl | rfl | rfl <;> rfl

theorem SpellsSign.isPart {negative : Bool} {sign : List Char} (h : SpellsSign negative sign) :
    ∀ c ∈ sign, IsPart c := by
  cases h with
  | none =>
      intro c hc
      cases hc
  | plus => simp [IsPart]
  | minus => simp [IsPart]

theorem SpellsMantissa.isPart {whole fraction mantissa : List Char} (hwhole : Digits whole)
    (hfraction : Digits fraction) (h : SpellsMantissa whole fraction mantissa) : ∀ c ∈ mantissa, IsPart c := by
  intro c hc
  cases h with
  | plain hne => exact .inl (hwhole c hc)
  | pointed hne =>
      rcases List.mem_append.1 hc with hin | hin
      · exact .inl (hwhole c hin)
      · rcases List.mem_cons.1 hin with rfl | hin
        · simp [IsPart]
        · exact .inl (hfraction c hin)

theorem SpellsExponent.isPart {e : Int} {exponent : List Char} (h : SpellsExponent e exponent) :
    ∀ c ∈ exponent, IsPart c := by
  intro c hc
  cases h with
  | none => cases hc
  | marked hmark hsign hdigits hne =>
      rcases List.mem_cons.1 hc with rfl | hin
      · rcases hmark with rfl | rfl <;> simp [IsPart]
      · rcases List.mem_append.1 hin with hin | hin
        · exact hsign.isPart c hin
        · exact .inl (hdigits c hin)

theorem Spells.isPart {negative : Bool} {d : Decimal} {cs : List Char} (h : Spells negative d cs) :
    ∀ c ∈ cs, IsPart c := by
  rcases h with ⟨hsign, ⟨hwhole, hfraction, hmantissa, hexponent⟩⟩
  intro c hc
  rcases List.mem_append.1 hc with hin | hin
  · exact hsign.isPart c hin
  · rcases List.mem_append.1 hin with hin | hin
    · exact hmantissa.isPart hwhole hfraction c hin
    · exact hexponent.isPart c hin

theorem Spells.word {negative : Bool} {d : Decimal} {cs : List Char} (h : Spells negative d cs) : Blank.Word cs := by
  refine ⟨?_, fun c hc => (h.isPart c hc).not_blank⟩
  rcases h with ⟨hsign, ⟨hwhole, hfraction, hmantissa, hexponent⟩⟩
  rcases hmantissa.exists_head hwhole with ⟨first, rest, rfl, -⟩
  simp

namespace SpellsFinite

variable {n : Binary64} {cs : List Char}

theorem isPart (h : SpellsFinite n cs) : ∀ c ∈ cs, IsPart c := by
  rcases h with ⟨hspells, -⟩
  exact hspells.isPart

theorem ne_nan (h : SpellsFinite n cs) : n ≠ .nan := by
  rintro rfl
  have hfinite := (read?_finite_iff.2 h).2
  cases hfinite

/-- A numeral is one word. -/
theorem word (h : SpellsFinite n cs) : Blank.Word cs := by
  rcases h with ⟨hspells, -⟩
  exact hspells.word

end SpellsFinite

end HealthRules.Numeral
