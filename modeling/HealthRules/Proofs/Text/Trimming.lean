import HealthRules.Text.Blank
import HealthRules.Text.Lines
import Mathlib.Data.List.DropRight

/-!
# Trimming — texts without white space at their ends

Trimming is the only layout rule of rule text: lines and fields are compared after it. This module says
which texts trimming leaves alone, and that white space put at an end never shows afterwards.

* `Tight`, a text with no white space at either end;
* `trim_eq_self_iff` and `tight_trim`, the texts that trimming gives;
* `trim_append_blank` and `trim_dropFinal`, what trimming absorbs.
-/

namespace HealthRules.Blank

/-! ## Tight texts -/

/-- There is no white space at either end. -/
def Tight (cs : List Char) : Prop :=
  (∀ c ∈ cs.head?, isBlank c = false) ∧ ∀ c ∈ cs.getLast?, isBlank c = false

theorem trim_eq_rdropWhile (cs : List Char) :
    trim cs = (cs.dropWhile isBlank).rdropWhile isBlank := rfl

theorem head?_trimLeft (cs : List Char) {c : Char} (h : (trimLeft cs).head? = some c) :
    isBlank c = false := by
  have hnot := List.head?_dropWhile_not isBlank cs
  rw [show (cs.dropWhile isBlank).head? = some c from h] at hnot
  simpa using hnot

/-- What trimming gives is tight: the right end is cut last, and that keeps the left end. -/
theorem tight_trim (cs : List Char) : Tight (trim cs) := by
  constructor
  · intro c hc
    have hprefix : trim cs <+: trimLeft cs := List.rdropWhile_prefix isBlank (trimLeft cs)
    rcases hprefix with ⟨rest, hrest⟩
    apply head?_trimLeft cs
    rw [← hrest, List.head?_append]
    simp [Option.mem_def.1 hc]
  · intro c hc
    have hne : (trimLeft cs).rdropWhile isBlank ≠ [] := by
      intro hnil
      rw [trim_eq_rdropWhile, show cs.dropWhile isBlank = trimLeft cs from rfl, hnil] at hc
      simp at hc
    have hlast := List.rdropWhile_last_not isBlank (trimLeft cs) hne
    have hc' : ((trimLeft cs).rdropWhile isBlank).getLast hne = c := by
      have := List.getLast?_eq_some_getLast hne
      rw [Option.mem_def, trim_eq_rdropWhile] at hc
      exact Option.some.inj (this.symm.trans hc)
    simpa [hc'] using hlast

theorem trimLeft_of_tight {cs : List Char} (h : Tight cs) : trimLeft cs = cs := by
  cases cs with
  | nil => rfl
  | cons c cs =>
      have hc : isBlank c = false := h.1 c rfl
      simp [trimLeft, hc]

theorem trimRight_of_tight {cs : List Char} (h : Tight cs) : trimRight cs = cs := by
  -- The library cuts on the right only if the last element satisfies the predicate.
  apply List.rdropWhile_eq_self_iff.2
  intro hne
  have hlast : isBlank (cs.getLast hne) = false := h.2 _ (List.getLast?_eq_some_getLast hne)
  simp [hlast]

theorem trim_eq_self_iff {cs : List Char} : trim cs = cs ↔ Tight cs := by
  constructor
  · intro h
    rw [← h]
    exact tight_trim cs
  · intro h
    rw [trim, trimLeft_of_tight h, trimRight_of_tight h]

/-- Cutting on the right stops at a character that is not blank. -/
theorem trimRight_cons {c : Char} (hc : isBlank c = false) (cs : List Char) :
    trimRight (c :: cs) = c :: trimRight cs := by
  have hkept : [c].dropWhile isBlank = [c] := by simp [hc]
  rw [trimRight, trimRight, List.reverse_cons, List.dropWhile_append, hkept]
  split
  · next hnone => simp [List.isEmpty_iff.1 hnone]
  · simp

theorem trim_isInfix (cs : List Char) : trim cs <:+: cs :=
  (List.rdropWhile_prefix isBlank (trimLeft cs)).isInfix.trans
    (List.dropWhile_suffix isBlank).isInfix

theorem mem_of_mem_trim {cs : List Char} {c : Char} (h : c ∈ trim cs) : c ∈ cs :=
  (trim_isInfix cs).subset h

/-! ## What trimming absorbs -/

theorem trim_eq_nil_iff {cs : List Char} : trim cs = [] ↔ ∀ c ∈ cs, isBlank c = true := by
  constructor
  · intro h
    have hleft : trimLeft cs = [] := by
      -- A trimmed left part that is not empty begins with a character that no cut removes.
      cases hl : trimLeft cs with
      | nil => rfl
      | cons c rest =>
          have hall : ∀ x ∈ c :: rest, isBlank x = true := by
            rw [trim, hl] at h
            exact List.rdropWhile_eq_nil_iff.1 h
          have hc : isBlank c = false := head?_trimLeft cs (by rw [hl]; rfl)
          rw [hall c (by simp)] at hc
          cases hc
    exact List.dropWhile_eq_nil_iff.1 hleft
  · intro h
    have hleft : trimLeft cs = [] := List.dropWhile_eq_nil_iff.2 h
    rw [trim, hleft]
    rfl

theorem trim_append_blank {cs blanks : List Char} (h : ∀ c ∈ blanks, isBlank c = true) :
    trim (cs ++ blanks) = trim cs := by
  have hrev : ∀ c ∈ blanks.reverse, isBlank c = true := by simpa using h
  by_cases hnil : trimLeft cs = []
  · have hall : ∀ c ∈ cs ++ blanks, isBlank c = true := by
      intro c hc
      rcases List.mem_append.1 hc with hcs | hbl
      · exact List.dropWhile_eq_nil_iff.1 hnil c hcs
      · exact h c hbl
    rw [trim_eq_nil_iff.2 hall, trim, hnil]
    rfl
  · -- Cutting on the left stops within `cs`, and then cutting on the right passes over the blanks.
    have hleft : trimLeft (cs ++ blanks) = trimLeft cs ++ blanks := by
      have hne : ¬ (cs.dropWhile isBlank).isEmpty = true := by
        intro hempty
        exact hnil (List.isEmpty_iff.1 hempty)
      rw [trimLeft, trimLeft, List.dropWhile_append, if_neg hne]
    rw [trim, trim, hleft, trimRight, trimRight, List.reverse_append,
      List.dropWhile_append_of_pos hrev]

/-- A carriage return at the end of a line does not show after trimming. -/
theorem trim_dropFinal (cs : List Char) : trim (Lines.dropFinal '\r' cs) = trim cs := by
  unfold Lines.dropFinal
  cases hlast : cs.getLast? with
  | none => rfl
  | some c =>
      by_cases hc : c = '\r'
      · subst hc
        have hcs : cs = cs.dropLast ++ ['\r'] := (List.dropLast_append_getLast? '\r' hlast).symm
        have hblank : ∀ c ∈ ['\r'], isBlank c = true := by
          intro c hc
          rw [List.mem_singleton.1 hc]
          rfl
        simp only [BEq.rfl, if_true]
        conv_rhs => rw [hcs]
        exact (trim_append_blank hblank).symm
      · simp [hc]

end HealthRules.Blank
