import HealthRules.Text.Lines

/-!
# LineBreaks — cutting is splitting

Cutting keeps the unfinished rest apart, so that more can be put behind it later. Otherwise it splits at
every break, and the last piece is the rest.

* `splitOnP_eq_cut`, the pieces that cutting gives, and `not_mem_of_mem_splitOn`: they have no breaks;
* `splitOn_append_cons` and `length_splitOn`, pieces and marks;
* `cut_append`, for an input that comes in parts;
* `filterMap_ofText`, what is found in the lines of a text if the ends of lines do not matter.
-/

namespace HealthRules.Lines

variable {α γ : Type}

theorem splitOnP_eq_cut (isBreak : α → Bool) (xs : List α) :
    xs.splitOnP isBreak = (cut isBreak xs).1 ++ [(cut isBreak xs).2] := by
  induction xs with
  | nil => rfl
  | cons x xs ih =>
      rw [List.splitOnP_cons_eq_if_modifyHead, ih]
      by_cases hx : isBreak x = true
      · simp [cut, hx]
      · -- `x` goes in front of the first ended piece, or of the rest if no piece has ended.
        cases hdone : (cut isBreak xs).1 with
        | nil => simp [cut, hx, hdone]
        | cons d ds => simp [cut, hx, hdone]

/-- The pieces have no breaks. -/
theorem not_mem_of_mem_splitOn [BEq α] [LawfulBEq α] {mark : α} {xs piece : List α}
    (h : piece ∈ xs.splitOn mark) : mark ∉ piece := by
  rw [List.splitOn_eq_splitOnP] at h
  induction xs generalizing piece with
  | nil =>
      rw [List.splitOnP_nil, List.mem_singleton] at h
      simp [h]
  | cons x xs ih =>
      rw [List.splitOnP_cons_eq_if_modifyHead] at h
      split at h
      · rcases List.mem_cons.1 h with rfl | hlater
        · exact List.not_mem_nil
        · exact ih hlater
      · next hx =>
          -- The first piece has `x` in front, which is no break; the others are as they were.
          cases hpieces : xs.splitOnP (· == mark) with
          | nil => simp [hpieces] at h
          | cons first others =>
              rw [hpieces, List.modifyHead_cons] at h
              rcases List.mem_cons.1 h with rfl | hlater
              · have hfirst : mark ∉ first := ih (by simp [hpieces])
                simp only [List.mem_cons, not_or]
                exact ⟨fun heq => hx (by simp [heq]), hfirst⟩
              · exact ih (by simp [hpieces, hlater])

theorem splitOn_append_cons [BEq α] [LawfulBEq α] (mark : α) (xs ys : List α) :
    (xs ++ mark :: ys).splitOn mark = xs.splitOn mark ++ ys.splitOn mark := by
  simp only [List.splitOn_eq_splitOnP]
  exact List.splitOnP_append_cons xs ys (beq_self_eq_true mark)

/-- There is one piece more than there are marks. -/
theorem length_splitOn [BEq α] (mark : α) (xs : List α) :
    (xs.splitOn mark).length = xs.count mark + 1 := by
  rw [List.splitOn_eq_splitOnP]
  induction xs with
  | nil => rfl
  | cons x xs ih =>
      rw [List.splitOnP_cons_eq_if_modifyHead, List.count_cons]
      split
      · rw [List.length_cons, ih]
      · rw [List.length_modifyHead, ih, Nat.add_zero]

/-- What comes later is cut together with the unfinished rest. -/
theorem cut_append (isBreak : α → Bool) (xs ys : List α) :
    cut isBreak (xs ++ ys) =
      ((cut isBreak xs).1 ++ (cut isBreak ((cut isBreak xs).2 ++ ys)).1,
        (cut isBreak ((cut isBreak xs).2 ++ ys)).2) := by
  induction xs with
  | nil => rfl
  | cons x xs ih =>
      by_cases hx : isBreak x = true
      · simp [cut, hx, ih]
      · -- Without an ended piece the rest is `x` and what was the rest before, and `ys` comes behind it.
        cases hdone : (cut isBreak xs).1 with
        | nil => simp [cut, hx, hdone, ih]
        | cons d ds => simp [cut, hx, hdone, ih]

/-! ## Lines of a text -/

/-- Neither an empty last piece nor a carriage return shows in what is found in the lines. -/
theorem filterMap_ofText {find : List Char → Option γ}
    (hreturn : ∀ line, find (dropFinal '\r' line) = find line) (hempty : find [] = none)
    (text : List Char) : (ofText text).filterMap find = (text.splitOn '\n').filterMap find := by
  have hended : ∀ ls : List (List Char),
      (ls.map (dropFinal '\r')).filterMap find = ls.filterMap find := by
    intro ls
    rw [List.filterMap_map]
    exact congrArg (List.filterMap · ls) (funext hreturn)
  rw [List.splitOn_eq_splitOnP, splitOnP_eq_cut, List.filterMap_append, ofText]
  rcases cut (· == '\n') text with ⟨done, rest⟩
  cases rest with
  | nil => simp [hended, hempty]
  | cons c rest => simp [hended]

end HealthRules.Lines
