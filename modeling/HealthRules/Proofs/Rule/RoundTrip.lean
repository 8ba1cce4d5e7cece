import HealthRules.Engine.Building
import HealthRules.Proofs.Rule.Fields

/-!
# RoundTrip — definitions as text and back

The text of a definition joins its parts without any quoting, and reading trims and cuts. So not every
definition can be read back from its text, and this module says which can: those that reading gives.

* `Definition.WellFormed`, the definitions that reading gives;
* `wellFormed_of_parse`, what reading gives is well formed;
* `parse_render`, the text of a well formed definition is read as that definition.
-/

namespace HealthRules

open Blank

/-! ## Well formed definitions -/

/-- The text can be a field of a line that has more fields after it. -/
structure IsField (s : String) : Prop where
  trimmed : Blank.trimmed s = s
  no_colon : ':' ∉ s.toList

/-- The parts can be joined to a line that is cut into the same parts again. -/
structure Definition.WellFormed (d : Definition) : Prop where
  scope_field : IsField d.scope
  scope_ne_empty : d.scope ≠ ""
  scope_not_comment : d.scope.toList.head? ≠ some '#'
  name_field : IsField d.name
  name_ne_empty : d.name ≠ ""
  qualifier_field : ∀ q ∈ d.qualifier, IsField q
  expression_trimmed : Blank.trimmed d.expression = d.expression
  expression_last : d.qualifier = none → ':' ∉ d.expression.toList

theorem trimmed_eq_self_iff {s : String} : Blank.trimmed s = s ↔ Tight s.toList := by
  rw [← trim_eq_self_iff, Blank.trimmed, ← String.toList_inj, String.toList_ofList]

theorem trimmed_ofList_trim (cs : List Char) :
    Blank.trimmed (String.ofList (trim cs)) = String.ofList (trim cs) := by
  rw [trimmed_eq_self_iff, String.toList_ofList]
  exact tight_trim cs

theorem isField_ofList_trim {cs : List Char} (h : ':' ∉ cs) : IsField (String.ofList (trim cs)) where
  trimmed := trimmed_ofList_trim cs
  no_colon := by
    rw [String.toList_ofList]
    exact fun hmem => h (mem_of_mem_trim hmem)

namespace Line

/-! ## What reading gives -/

theorem ofList_ne_empty {cs : List Char} (h : cs ≠ []) : String.ofList cs ≠ "" := by
  intro hempty
  apply h
  rw [← String.toList_ofList (l := cs), hempty]
  rfl

/-- The first field of a tight line begins as the line does, even after it has been trimmed. -/
theorem head?_trim_field {a rest : List Char} (htight : Tight (a ++ rest)) (ha : trim a ≠ []) :
    (trim a).head? = (a ++ rest).head? := by
  cases a with
  | nil => exact absurd rfl ha
  | cons c cs =>
      -- The line begins with `c`, which is not blank, so that the field is cut on the right only.
      have hc : isBlank c = false := htight.1 c rfl
      have hleft : trimLeft (c :: cs) = c :: cs := by simp [trimLeft, hc]
      have hprefix : trim (c :: cs) <+: c :: cs := by
        rw [trim, hleft]
        exact List.rdropWhile_prefix isBlank (c :: cs)
      rcases hprefix with ⟨rest', hrest'⟩
      cases htrim : trim (c :: cs) with
      | nil => exact absurd htrim ha
      | cons x xs =>
          rw [htrim, List.cons_append, List.cons.injEq] at hrest'
          simp [hrest'.1]

theorem scope_not_comment_of_field {a rest text : List Char} (ht : trim text = a ++ rest)
    (hs : isSkipped (trim text) = false) (ha : trim a ≠ []) : (trim a).head? ≠ some '#' := by
  have htight : Tight (a ++ rest) := by
    rw [← ht]
    exact tight_trim text
  rw [head?_trim_field htight ha, ← ht]
  intro hhead
  cases hcs : trim text with
  | nil => simp [hcs] at hhead
  | cons c cs =>
      rw [hcs, List.head?_cons, Option.some.injEq] at hhead
      simp [isSkipped, hcs, hhead] at hs

/-- The definition that the fields of a line make is well formed. -/
theorem wellFormed_of_define {n : Nat} {text a b e rest : List Char} {q : Option (List Char)}
    {d : Definition} (ht : trim text = a ++ rest) (hs : isSkipped (trim text) = false)
    (ha : ':' ∉ a) (hb : ':' ∉ b) (hq : ∀ c ∈ q, ':' ∉ c) (he : q = none → ':' ∉ e)
    (h : (define n (trim a) (trim b) (q.map trim) (trim e)).map some = .ok (some d)) :
    d.line = n ∧ d.WellFormed := by
  rcases define_eq_some_iff.1 h with ⟨hane, hbne, rfl⟩
  refine ⟨rfl, ?_⟩
  exact
    { scope_field := isField_ofList_trim ha
      scope_ne_empty := ofList_ne_empty hane
      scope_not_comment := by simpa using scope_not_comment_of_field ht hs hane
      name_field := isField_ofList_trim hb
      name_ne_empty := ofList_ne_empty hbne
      qualifier_field := by
        intro s hmem
        cases q with
        | none => cases hmem
        | some c =>
            cases hmem
            exact isField_ofList_trim (hq c rfl)
      expression_trimmed := trimmed_ofList_trim e
      expression_last := by
        intro hnone
        have hqnone : q = none := by simpa using hnone
        exact (isField_ofList_trim (he hqnone)).no_colon }

/-- What reading gives is well formed, and has the number of the line. -/
theorem wellFormed_of_parse {n : Nat} {text : List Char} {d : Definition}
    (h : parse n text = .ok (some d)) : d.line = n ∧ d.WellFormed := by
  cases hs : isSkipped (trim text) with
  | true =>
      rw [parse_of_skipped n hs] at h
      cases h
  | false =>
      -- One case for each number of fields; the shape knows the fields before they are trimmed.
      have hshape := Shape.of (trim text)
      generalize ht : trim text = t at hshape
      cases hshape with
      | one ha =>
          rw [parse_of_one n hs ht ha] at h
          cases h
      | two ha hb =>
          rw [parse_of_two n hs ht ha hb] at h
          cases h
      | three ha hb hc =>
          rw [parse_of_three n hs ht ha hb hc] at h
          exact wellFormed_of_define (q := none) ht hs ha hb (by simp) (fun _ => hc) h
      | @four a b c ha hb hc e =>
          rw [parse_of_four n hs ht ha hb hc] at h
          exact wellFormed_of_define (q := some c) ht hs ha hb (by simpa using hc) (by simp) h

/-! ## What is written -/

theorem getLast?_colon_append {a b : List Char} (hb : ∀ c ∈ b.getLast?, isBlank c = false) :
    ∀ c ∈ (a ++ ':' :: b).getLast?, isBlank c = false := by
  intro c hc
  rw [Option.mem_def, List.getLast?_append, List.getLast?_cons] at hc
  cases hlast : b.getLast? with
  | none =>
      have hcolon : c = ':' := by simpa [hlast, eq_comm] using hc
      rw [hcolon]
      decide
  | some x =>
      have hx : c = x := by simpa [hlast, eq_comm] using hc
      exact hb c (by rw [hlast, hx]; rfl)

/-- A line that begins with a field and ends tightly is tight, and it is no comment unless the field is. -/
theorem trim_field_append {a b : List Char} (ha : Tight a) (hne : a ≠ [])
    (hb : ∀ c ∈ b.getLast?, isBlank c = false) : trim (a ++ ':' :: b) = a ++ ':' :: b := by
  apply trim_eq_self_iff.2
  refine ⟨?_, getLast?_colon_append hb⟩
  intro c hc
  cases a with
  | nil => exact absurd rfl hne
  | cons x a => exact ha.1 c (by simpa using hc)

theorem isSkipped_field_append {a rest : List Char} (hne : a ≠ []) (h : a.head? ≠ some '#') :
    isSkipped (a ++ rest) = false := by
  cases a with
  | nil => exact absurd rfl hne
  | cons x a =>
      have hx : x ≠ '#' := by simpa using h
      simpa [isSkipped] using hx

/-- The text of a well formed definition is read as that definition. -/
theorem parse_render {d : Definition} (h : d.WellFormed) :
    parse d.line d.render.toList = .ok (some d) := by
  have hscope : Tight d.scope.toList := trimmed_eq_self_iff.1 h.scope_field.trimmed
  have hname : Tight d.name.toList := trimmed_eq_self_iff.1 h.name_field.trimmed
  have hexpr : Tight d.expression.toList := trimmed_eq_self_iff.1 h.expression_trimmed
  have hscope_ne : d.scope.toList ≠ [] := fun hnil => h.scope_ne_empty (String.toList_eq_nil_iff.1 hnil)
  have hname_ne : d.name.toList ≠ [] := fun hnil => h.name_ne_empty (String.toList_eq_nil_iff.1 hnil)
  -- Three fields or four: the text is tight as a whole, it is no comment, and it is cut where it was joined.
  cases hq : d.qualifier with
  | none =>
      have hrender : d.render.toList =
          d.scope.toList ++ ':' :: (d.name.toList ++ ':' :: d.expression.toList) := by
        simp [Definition.render, hq]
      have htrim := trim_field_append hscope hscope_ne
        (getLast?_colon_append (a := d.name.toList) hexpr.2)
      have hskip : isSkipped (trim d.render.toList) = false := by
        rw [hrender, htrim]
        exact isSkipped_field_append hscope_ne h.scope_not_comment
      have hread := parse_of_three d.line hskip (by rw [hrender, htrim]) h.scope_field.no_colon
        h.name_field.no_colon (h.expression_last hq)
      rw [hread, trim_eq_self_iff.2 hscope, trim_eq_self_iff.2 hname, trim_eq_self_iff.2 hexpr]
      apply define_eq_some_iff.2
      refine ⟨hscope_ne, hname_ne, ?_⟩
      cases d
      simp_all
  | some q =>
      have hfield : IsField q := h.qualifier_field q hq
      have hqual : Tight q.toList := trimmed_eq_self_iff.1 hfield.trimmed
      have hrender : d.render.toList = d.scope.toList ++
          ':' :: (d.name.toList ++ ':' :: (q.toList ++ ':' :: d.expression.toList)) := by
        simp [Definition.render, hq]
      have htrim := trim_field_append hscope hscope_ne
        (getLast?_colon_append (a := d.name.toList)
          (getLast?_colon_append (a := q.toList) hexpr.2))
      have hskip : isSkipped (trim d.render.toList) = false := by
        rw [hrender, htrim]
        exact isSkipped_field_append hscope_ne h.scope_not_comment
      have hread := parse_of_four d.line hskip (by rw [hrender, htrim]) h.scope_field.no_colon
        h.name_field.no_colon hfield.no_colon
      rw [hread, trim_eq_self_iff.2 hscope, trim_eq_self_iff.2 hname, trim_eq_self_iff.2 hqual,
        trim_eq_self_iff.2 hexpr]
      apply define_eq_some_iff.2
      refine ⟨hscope_ne, hname_ne, ?_⟩
      cases d
      simp_all

/-! ## The round trip -/

/-- The definitions that are read back from their texts are the well formed ones, and reading gives no others. -/
theorem parse_render_iff_wellFormed :
    (∀ (n : Nat) (d : Definition),
      parse n d.render.toList = .ok (some d) ↔ d.line = n ∧ d.WellFormed) ∧
    ∀ (n : Nat) (text : String) (d : Definition), parse n text.toList = .ok (some d) →
      d.line = n ∧ d.WellFormed ∧
        parse n (BuildError.ofDefinition d).definition.toList = .ok (some d) := by
  constructor
  · intro n d
    constructor
    · intro h
      exact wellFormed_of_parse h
    · rintro ⟨rfl, h⟩
      exact parse_render h
  · intro n text d h
    rcases wellFormed_of_parse h with ⟨rfl, hwell⟩
    exact ⟨rfl, hwell, parse_render hwell⟩

/-- A line with an empty qualifier, a colon in its expression and white space around its fields. -/
theorem parse_render_spaced_line :
    let d : Definition := ⟨"env", "START", some "", "12:30", 7⟩
    parse 7 "  env :START: : 12:30\t".toList = .ok (some d) ∧ d.line = 7 ∧ d.WellFormed ∧
      parse 7 (BuildError.ofDefinition d).definition.toList = .ok (some d) :=
  have h : parse 7 "  env :START: : 12:30\t".toList =
      .ok (some ⟨"env", "START", some "", "12:30", 7⟩) := by rfl
  ⟨h, parse_render_iff_wellFormed.2 7 _ _ h⟩

end Line

end HealthRules
