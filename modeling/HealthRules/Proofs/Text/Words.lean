import HealthRules.Proofs.Text.Trimming

/-!
# Words — gaps and what stands between them

A gap is a text of white space only, and a word one without any. Gaps before and behind a text do not show
after trimming, and a text is cut into its words at its gaps.

* `Gap` and `Word`;
* `trim_gap_append`, `trim_append_gap` and `exists_gaps`: trimming removes gaps and nothing else;
* `words_append`: a word that nothing but a gap can follow;
* `words_eq_nil_iff`, `words_eq_cons_iff` and `words_eq_pair_iff`: the texts with given words.
-/

namespace HealthRules.Blank

/-- There is nothing but white space. -/
def Gap (cs : List Char) : Prop := ∀ c ∈ cs, isBlank c = true

/-- There is something, and no white space. -/
def Word (cs : List Char) : Prop := cs ≠ [] ∧ ∀ c ∈ cs, isBlank c = false

/-! ## Gaps -/

theorem gap_space : Gap [' '] := by
  intro c hc
  rw [List.mem_singleton.1 hc]
  rfl

theorem gap_nil : Gap [] := by
  intro c hc
  cases hc

theorem trim_append_gap {gap : List Char} (h : Gap gap) (cs : List Char) :
    trim (cs ++ gap) = trim cs :=
  trim_append_blank h

theorem trim_gap_append {gap : List Char} (h : Gap gap) (cs : List Char) :
    trim (gap ++ cs) = trim cs := by
  rw [trim, trim, trimLeft, trimLeft, List.dropWhile_append_of_pos h]

/-- What trimming removes are gaps. -/
theorem exists_gaps (cs : List Char) :
    ∃ left right, Gap left ∧ Gap right ∧ cs = left ++ (trim cs ++ right) := by
  let mirrored := (trimLeft cs).reverse
  have hright : mirrored.takeWhile isBlank ++ mirrored.dropWhile isBlank = mirrored :=
    List.takeWhile_append_dropWhile
  refine ⟨cs.takeWhile isBlank, (mirrored.takeWhile isBlank).reverse, ?_, ?_, ?_⟩
  · intro c hc
    exact List.mem_takeWhile_imp hc
  · intro c hc
    exact List.mem_takeWhile_imp (List.mem_reverse.1 hc)
  · calc
      cs = cs.takeWhile isBlank ++ trimLeft cs := List.takeWhile_append_dropWhile.symm
      _ = cs.takeWhile isBlank ++ mirrored.reverse := by rw [List.reverse_reverse]
      _ = cs.takeWhile isBlank ++ (trim cs ++ (mirrored.takeWhile isBlank).reverse) := by
        rw [← hright, List.reverse_append, hright]
        rfl

/-- The first character that is not blank comes to the front. -/
theorem head?_trim (cs : List Char) : (trim cs).head? = cs.find? fun c => !isBlank c := by
  have hfirst : (trimLeft cs).head? = cs.find? fun c => !isBlank c := by
    simp [List.find?_eq_head?_dropWhile_not, trimLeft]
  rw [← hfirst, trim]
  cases hleft : trimLeft cs with
  | nil => rfl
  | cons c rest =>
      have hc : isBlank c = false := head?_trimLeft cs (by rw [hleft]; rfl)
      rw [trimRight_cons hc]
      rfl

theorem word_of_all {w : List Char} (hne : w.isEmpty = false) (h : w.all (fun c => !isBlank c) = true) : Word w := by
  refine ⟨List.isEmpty_eq_false_iff.1 hne, fun c hc => ?_⟩
  simpa using List.all_eq_true.1 h c hc

theorem Word.tight {w : List Char} (h : Word w) : Tight w := by
  constructor
  · intro c hc
    exact h.2 c (List.mem_of_head? hc)
  · intro c hc
    exact h.2 c (List.mem_of_getLast? hc)

/-- There is no white space around a text that begins and ends with words. -/
theorem tight_words {first last : List Char} (hfirst : Word first) (middle : List Char) (hlast : Word last) :
    Tight (first ++ (middle ++ last)) := by
  constructor
  · intro c hc
    rw [List.head?_append_of_ne_nil _ hfirst.1] at hc
    exact hfirst.tight.1 c hc
  · intro c hc
    rw [← List.append_assoc, List.getLast?_append_of_ne_nil _ hlast.1] at hc
    exact hlast.tight.2 c hc

/-! ## Words -/

theorem words_gap_append {gap : List Char} (h : Gap gap) (cs : List Char) :
    words (gap ++ cs) = words cs := by
  induction gap with
  | nil => rfl
  | cons c gap ih =>
      have hc : isBlank c = true := h c List.mem_cons_self
      have hgap : Gap gap := fun x hx => h x (List.mem_cons_of_mem c hx)
      simpa [words, wordsFrom, hc] using ih hgap

/-- The characters of a word are collected, the last of them in front. -/
theorem wordsFrom_append {w : List Char} (h : ∀ c ∈ w, isBlank c = false) (current rest : List Char) :
    wordsFrom current (w ++ rest) = wordsFrom (w.reverse ++ current) rest := by
  induction w generalizing current with
  | nil => rfl
  | cons c w ih =>
      have hc : isBlank c = false := h c List.mem_cons_self
      have hw : ∀ x ∈ w, isBlank x = false := fun x hx => h x (List.mem_cons_of_mem c hx)
      simp [wordsFrom, hc, ih hw]

/-- A word that nothing but a gap can follow. -/
theorem words_append {w rest : List Char} (hw : Word w)
    (hrest : ∀ c ∈ rest.head?, isBlank c = true) : words (w ++ rest) = w :: words rest := by
  rw [words, wordsFrom_append hw.2]
  cases rest with
  | nil => simp [words, wordsFrom, hw.1]
  | cons c rest =>
      have hc : isBlank c = true := hrest c rfl
      simp [words, wordsFrom, hc, hw.1]

/-- A text is a gap, or it has a first word with a gap in front of it. -/
theorem gap_or_first_word (cs : List Char) :
    Gap cs ∨ ∃ gap w rest, cs = gap ++ (w ++ rest) ∧ Gap gap ∧ Word w ∧
      ∀ c ∈ rest.head?, isBlank c = true := by
  have hsplit : cs.takeWhile isBlank ++ trimLeft cs = cs := List.takeWhile_append_dropWhile
  cases hleft : trimLeft cs with
  | nil => exact .inl (List.dropWhile_eq_nil_iff.1 hleft)
  | cons c after =>
      -- What is left begins with a character that is not blank: the word goes on up to the next blank.
      have hc : isBlank c = false := head?_trimLeft cs (by rw [hleft]; rfl)
      refine .inr ⟨cs.takeWhile isBlank, (c :: after).takeWhile (!isBlank ·),
        (c :: after).dropWhile (!isBlank ·), ?_, ?_, ⟨?_, ?_⟩, ?_⟩
      · rw [List.takeWhile_append_dropWhile, ← hleft, hsplit]
      · intro x hx
        exact List.mem_takeWhile_imp hx
      · simp [hc]
      · intro x hx
        simpa using List.mem_takeWhile_imp hx
      · intro x hx
        have hnot := List.head?_dropWhile_not (!isBlank ·) (c :: after)
        rw [Option.mem_def.1 hx] at hnot
        simpa using hnot

theorem words_eq_nil_iff {cs : List Char} : words cs = [] ↔ Gap cs := by
  constructor
  · intro h
    rcases gap_or_first_word cs with hgap | ⟨gap, w, rest, rfl, hgap, hw, hrest⟩
    · exact hgap
    · rw [words_gap_append hgap, words_append hw hrest] at h
      cases h
  · intro h
    have hwords := words_gap_append h []
    rw [List.append_nil] at hwords
    exact hwords

theorem words_eq_cons_iff {cs w : List Char} {ws : List (List Char)} :
    words cs = w :: ws ↔ ∃ gap rest, cs = gap ++ (w ++ rest) ∧ Gap gap ∧ Word w ∧
      (∀ c ∈ rest.head?, isBlank c = true) ∧ words rest = ws := by
  constructor
  · intro h
    rcases gap_or_first_word cs with hgap | ⟨gap, w', rest, rfl, hgap, hw, hrest⟩
    · rw [words_eq_nil_iff.2 hgap] at h
      cases h
    · rw [words_gap_append hgap, words_append hw hrest] at h
      cases h
      exact ⟨gap, rest, rfl, hgap, hw, hrest, rfl⟩
  · rintro ⟨gap, rest, rfl, hgap, hw, hrest, rfl⟩
    rw [words_gap_append hgap, words_append hw hrest]

/-- A gap begins with a blank if it is not empty, and so does what it is put in front of. -/
theorem Gap.head_append {gap : List Char} (h : Gap gap) (hne : gap ≠ []) (rest : List Char) :
    ∃ c ∈ (gap ++ rest).head?, isBlank c = true := by
  cases gap with
  | nil => exact absurd rfl hne
  | cons c gap => exact ⟨c, rfl, h c List.mem_cons_self⟩

theorem Word.head_append {w : List Char} (h : Word w) (rest : List Char) :
    ∃ c ∈ (w ++ rest).head?, isBlank c = false := by
  cases w with
  | nil => exact absurd rfl h.1
  | cons c w => exact ⟨c, rfl, h.2 c List.mem_cons_self⟩

/-- A gap goes between two words, and there may be others around them. -/
theorem words_eq_pair_iff {cs first last : List Char} :
    words cs = [first, last] ↔ ∃ before middle after, cs = before ++ (first ++ (middle ++ (last ++ after))) ∧
      Gap before ∧ Word first ∧ Gap middle ∧ middle ≠ [] ∧ Word last ∧ Gap after := by
  constructor
  · intro h
    rcases words_eq_cons_iff.1 h with ⟨before, rest, rfl, hbefore, hfirst, hhead, hrest⟩
    rcases words_eq_cons_iff.1 hrest with ⟨middle, after, rfl, hmiddle, hlast, -, hafter⟩
    refine ⟨before, middle, after, rfl, hbefore, hfirst, hmiddle, ?_, hlast, words_eq_nil_iff.1 hafter⟩
    rintro rfl
    rcases hlast.head_append after with ⟨c, hc, hword⟩
    rw [hhead c hc] at hword
    cases hword
  · rintro ⟨before, middle, after, rfl, hbefore, hfirst, hmiddle, hne, hlast, hafter⟩
    have hgap : ∀ c ∈ (middle ++ (last ++ after)).head?, isBlank c = true := by
      rcases hmiddle.head_append hne (last ++ after) with ⟨c, hc, hblank⟩
      intro x hx
      rw [Option.mem_unique hx hc]
      exact hblank
    have hend : ∀ c ∈ after.head?, isBlank c = true := fun c hc => hafter c (List.mem_of_head? hc)
    rw [words_gap_append hbefore, words_append hfirst hgap, words_gap_append hmiddle, words_append hlast hend,
      words_eq_nil_iff.2 hafter]

/-- A text without white space at its end has no gap there. -/
theorem Tight.gap_eq_nil {cs gap : List Char} (h : Tight (cs ++ gap)) (hgap : Gap gap) : gap = [] := by
  by_contra hne
  have hlast : (cs ++ gap).getLast? = some (gap.getLast hne) := by
    rw [List.getLast?_append_of_ne_nil _ hne, List.getLast?_eq_some_getLast hne]
  have hword := h.2 _ hlast
  rw [hgap _ (List.getLast_mem hne)] at hword
  cases hword

end HealthRules.Blank
