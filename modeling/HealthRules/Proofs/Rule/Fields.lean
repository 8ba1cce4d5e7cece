import HealthRules.Proofs.Text.Trimming
import HealthRules.Rule.Line

/-!
# Fields — where a line is cut

Only the first three colons of a line separate fields, so a line has one of four shapes. Every question
about reading a line is settled shape by shape.

* `Shape`, and `Shape.of`: every text has a shape;
* `fields_append` and `fields_of_not_mem`, which give the fields of a shape;
* `parse_of_three` and its companions, what reading gives for each shape.
-/

namespace HealthRules.Line

open Blank

/-! ## Cutting at colons -/

theorem cutAtColon_of_not_mem {cs : List Char} (h : ':' ∉ cs) : cutAtColon cs = (cs, none) := by
  induction cs with
  | nil => rfl
  | cons c cs ih =>
      have hc : c ≠ ':' := by
        intro heq
        exact h (by simp [heq])
      have hcs : ':' ∉ cs := fun hmem => h (List.mem_cons_of_mem _ hmem)
      simp [cutAtColon, hc, ih hcs]

theorem cutAtColon_append {before : List Char} (h : ':' ∉ before) (after : List Char) :
    cutAtColon (before ++ ':' :: after) = (before, some after) := by
  induction before with
  | nil => rfl
  | cons c cs ih =>
      have hc : c ≠ ':' := by
        intro heq
        exact h (by simp [heq])
      have hcs : ':' ∉ cs := fun hmem => h (List.mem_cons_of_mem _ hmem)
      simp [cutAtColon, hc, ih hcs]

theorem fields_of_not_mem {cs : List Char} (h : ':' ∉ cs) (cuts : Nat) : fields cuts cs = [cs] := by
  cases cuts with
  | zero => rfl
  | succ cuts => simp [fields, cutAtColon_of_not_mem h]

theorem fields_append {field : List Char} (h : ':' ∉ field) (cuts : Nat) (rest : List Char) :
    fields (cuts + 1) (field ++ ':' :: rest) = field :: fields cuts rest := by
  simp [fields, cutAtColon_append h]

/-! ## Shapes -/

/-- The four ways in which at most three colons cut a text. -/
inductive Shape : List Char → Prop where
  | one {a : List Char} (ha : ':' ∉ a) : Shape a
  | two {a b : List Char} (ha : ':' ∉ a) (hb : ':' ∉ b) : Shape (a ++ ':' :: b)
  | three {a b c : List Char} (ha : ':' ∉ a) (hb : ':' ∉ b) (hc : ':' ∉ c) :
      Shape (a ++ ':' :: (b ++ ':' :: c))
  | four {a b c : List Char} (ha : ':' ∉ a) (hb : ':' ∉ b) (hc : ':' ∉ c) (d : List Char) :
      Shape (a ++ ':' :: (b ++ ':' :: (c ++ ':' :: d)))

theorem Shape.of (cs : List Char) : Shape cs := by
  -- Take off one field after another, each up to the first colon that is left.
  by_cases h₁ : ':' ∈ cs
  · rcases List.eq_append_cons_of_mem h₁ with ⟨a, as, rfl, ha⟩
    by_cases h₂ : ':' ∈ as
    · rcases List.eq_append_cons_of_mem h₂ with ⟨b, bs, rfl, hb⟩
      by_cases h₃ : ':' ∈ bs
      · rcases List.eq_append_cons_of_mem h₃ with ⟨c, d, rfl, hc⟩
        exact .four ha hb hc d
      · exact .three ha hb h₃
    · exact .two ha h₂
  · exact .one h₁

theorem fields_three {a b c : List Char} (ha : ':' ∉ a) (hb : ':' ∉ b) (hc : ':' ∉ c) :
    fields 3 (a ++ ':' :: (b ++ ':' :: c)) = [a, b, c] := by
  rw [fields_append ha, fields_append hb, fields_of_not_mem hc]

theorem fields_four {a b c : List Char} (ha : ':' ∉ a) (hb : ':' ∉ b) (hc : ':' ∉ c)
    (d : List Char) : fields 3 (a ++ ':' :: (b ++ ':' :: (c ++ ':' :: d))) = [a, b, c, d] := by
  rw [fields_append ha, fields_append hb, fields_append hc]
  rfl

/-! ## Reading by shape -/

theorem parse_of_skipped {text : List Char} (n : Nat) (h : isSkipped (trim text) = true) :
    parse n text = .ok none := by
  simp [parse, h]

section Shapes

variable {text a b c : List Char} (n : Nat) (hs : isSkipped (trim text) = false)

include hs

theorem parse_of_one (ht : trim text = a) (ha : ':' ∉ a) :
    parse n text = .error (.tooFewFields n 1) := by
  subst ht
  simp [parse, hs, fields_of_not_mem ha]

theorem parse_of_two (ht : trim text = a ++ ':' :: b) (ha : ':' ∉ a) (hb : ':' ∉ b) :
    parse n text = .error (.tooFewFields n 2) := by
  have hfields : fields 3 (trim text) = [a, b] := by
    rw [ht, fields_append ha, fields_of_not_mem hb]
  simp [parse, hs, hfields]

theorem parse_of_three (ht : trim text = a ++ ':' :: (b ++ ':' :: c)) (ha : ':' ∉ a) (hb : ':' ∉ b)
    (hc : ':' ∉ c) :
    parse n text = (define n (trim a) (trim b) none (trim c)).map some := by
  have hfields : fields 3 (trim text) = [a, b, c] := by rw [ht, fields_three ha hb hc]
  simp [parse, hs, hfields]

theorem parse_of_four {d : List Char} (ht : trim text = a ++ ':' :: (b ++ ':' :: (c ++ ':' :: d)))
    (ha : ':' ∉ a) (hb : ':' ∉ b) (hc : ':' ∉ c) :
    parse n text = (define n (trim a) (trim b) (some (trim c)) (trim d)).map some := by
  have hfields : fields 3 (trim text) = [a, b, c, d] := by rw [ht, fields_four ha hb hc d]
  simp [parse, hs, hfields]

end Shapes

/-- The definition that fields make, if the first two of them are not empty. -/
theorem define_eq_some_iff {n : Nat} {a b e : List Char} {q : Option (List Char)} {d : Definition} :
    (define n a b q e).map some = .ok (some d) ↔ a ≠ [] ∧ b ≠ [] ∧
      d = ⟨String.ofList a, String.ofList b, q.map String.ofList, String.ofList e, n⟩ := by
  cases a with
  | nil => simp [define, Except.map]
  | cons x a =>
      cases b with
      | nil => simp [define, Except.map]
      | cons y b => simp [define, Except.map, eq_comm]

/-- Reading depends on the trimmed text alone. -/
theorem parse_congr {text text' : List Char} (h : trim text = trim text') (n : Nat) :
    parse n text = parse n text' := by
  simp only [parse, h]

end HealthRules.Line
