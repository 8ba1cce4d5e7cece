import HealthRules.Proofs.Rule.Fields
import HealthRules.Proofs.Text.Words

/-!
# Grammar — what a line is read as

What becomes of a line depends on its trimmed text and on the colons in it: the line is skipped, or it has too few
fields, or its namespace or its name is empty, or it holds a definition. Of several reasons to refuse a line the
first in this order counts. White space at the ends of fields decides nothing.

* `Parts` and `Ending`, what the first three colons of a text separate;
* `parse_of_few` and `parse_of_parts`, reading by the number of colons;
* `parse_noName_iff` and `parse_named_iff`, when a line lacks a name only, and what definition it holds otherwise;
* `Pieces` and `Respaced`, fields and the white space at their ends, with `parse_congr_fields`;
* `parse_grammar`: when a line is read as what.
-/

namespace HealthRules.Line

open Blank

/-! ## The parts of a line -/

/-- A line that holds no definition, by its trimmed text. -/
def Skippable (t : List Char) : Prop := t = [] ∨ t.head? = some '#'

/-- The first two colons of a text, with what stands before, between and after them. -/
structure Parts (t scope name rest : List Char) : Prop where
  joined : t = scope ++ ':' :: (name ++ ':' :: rest)
  scope_whole : ':' ∉ scope
  name_whole : ':' ∉ name

/-- What stands after the second colon: an expression, or a qualifier, the third colon and an expression, which
may hold more of them. -/
inductive Ending : List Char → Option (List Char) → List Char → Prop where
  | plain {expression : List Char} (h : ':' ∉ expression) : Ending expression none expression
  | qualified {qualifier : List Char} (h : ':' ∉ qualifier) (expression : List Char) :
      Ending (qualifier ++ ':' :: expression) (some qualifier) expression

theorem isSkipped_eq_true_iff {t : List Char} : isSkipped t = true ↔ Skippable t := by
  cases t with
  | nil => simp [isSkipped, Skippable]
  | cons c cs => simp [isSkipped, Skippable]

theorem not_skippable {t : List Char} (h : ¬ Skippable t) : isSkipped t = false :=
  Bool.eq_false_iff.2 (mt isSkipped_eq_true_iff.1 h)

namespace Parts

variable {t a b r : List Char}

theorem count_eq (h : Parts t a b r) : t.count ':' = r.count ':' + 2 := by
  have ha : a.count ':' = 0 := List.count_eq_zero.2 h.scope_whole
  have hb : b.count ':' = 0 := List.count_eq_zero.2 h.name_whole
  rw [h.joined]
  simp [ha, hb]

/-- The field in front is blank just if the text begins with a colon, for the text is trimmed. -/
theorem trim_scope_eq_nil_iff (h : Parts t a b r) (htight : Tight t) :
    trim a = [] ↔ t.head? = some ':' := by
  rw [trim_eq_nil_iff]
  cases a with
  | nil => simp [h.joined]
  | cons c cs =>
      have hhead : t.head? = some c := by simp [h.joined]
      have hc : isBlank c = false := htight.1 c hhead
      have hcolon : c ≠ ':' := fun heq => h.scope_whole (by simp [heq])
      constructor
      · intro hall
        rw [hall c List.mem_cons_self] at hc
        cases hc
      · intro hfirst
        rw [hhead, Option.some.injEq] at hfirst
        exact absurd hfirst hcolon

end Parts

theorem exists_parts {t : List Char} (h : 2 ≤ t.count ':') : ∃ a b r, Parts t a b r := by
  cases Shape.of t with
  | one ha =>
      have hnone := List.count_eq_zero.2 ha
      omega
  | @two a b ha hb =>
      have hone : (a ++ ':' :: b).count ':' = 1 := by
        simp [List.count_eq_zero.2 ha, List.count_eq_zero.2 hb]
      omega
  | three ha hb hc => exact ⟨_, _, _, rfl, ha, hb⟩
  | four ha hb hc d => exact ⟨_, _, _, rfl, ha, hb⟩

theorem exists_ending (r : List Char) : ∃ q e, Ending r q e := by
  by_cases h : ':' ∈ r
  · rcases List.eq_append_cons_of_mem h with ⟨q, e, rfl, hq⟩
    exact ⟨some q, e, .qualified hq e⟩
  · exact ⟨none, r, .plain h⟩

/-- There is no qualifier just if there is no third colon. -/
theorem Ending.count_eq_zero_iff {r e : List Char} {q : Option (List Char)} (h : Ending r q e) :
    r.count ':' = 0 ↔ q = none := by
  cases h with
  | plain he => simp [List.count_eq_zero.2 he]
  | qualified hq e => simp

/-! ## Reading by the number of colons -/

section Reading

variable {text a b r e : List Char} {q : Option (List Char)} (n : Nat)
  (hs : isSkipped (trim text) = false)

include hs

theorem parse_of_few (hfew : (trim text).count ':' < 2) :
    parse n text = .error (.tooFewFields n ((trim text).count ':' + 1)) := by
  have hshape := Shape.of (trim text)
  generalize ht : trim text = t at hshape hfew
  cases hshape with
  | one ha => rw [parse_of_one n hs ht ha, List.count_eq_zero.2 ha]
  | two ha hb =>
      rw [parse_of_two n hs ht ha hb]
      simp [List.count_eq_zero.2 ha, List.count_eq_zero.2 hb]
  | three ha hb hc =>
      simp only [List.count_append, List.count_cons_self] at hfew
      omega
  | four ha hb hc d =>
      simp only [List.count_append, List.count_cons_self] at hfew
      omega

theorem parse_of_parts (hparts : Parts (trim text) a b r) (hending : Ending r q e) :
    parse n text = (define n (trim a) (trim b) (q.map trim) (trim e)).map some := by
  cases hending with
  | plain he => exact parse_of_three n hs hparts.joined hparts.scope_whole hparts.name_whole he
  | qualified hq e => exact parse_of_four n hs hparts.joined hparts.scope_whole hparts.name_whole hq

theorem parse_of_noScope (hparts : Parts (trim text) a b r) (hfirst : (trim text).head? = some ':') :
    parse n text = .error (.emptyField n .scope) := by
  rcases exists_ending r with ⟨q, e, hending⟩
  have ha : trim a = [] := (hparts.trim_scope_eq_nil_iff (tight_trim text)).2 hfirst
  rw [parse_of_parts n hs hparts hending, ha]
  rfl

theorem parse_of_noName (hparts : Parts (trim text) a b r) (hfirst : (trim text).head? ≠ some ':')
    (hgap : Gap b) : parse n text = .error (.emptyField n .name) := by
  rcases exists_ending r with ⟨q, e, hending⟩
  have ha : trim a ≠ [] := mt (hparts.trim_scope_eq_nil_iff (tight_trim text)).1 hfirst
  have hb : trim b = [] := trim_eq_nil_iff.2 hgap
  rw [parse_of_parts n hs hparts hending, hb]
  simp [define, ha, Except.map]

theorem parse_of_named (hparts : Parts (trim text) a b r) (hfirst : (trim text).head? ≠ some ':')
    (hname : ¬ Gap b) (hending : Ending r q e) :
    parse n text = .ok (some ⟨String.ofList (trim a), String.ofList (trim b),
      q.map (String.ofList ∘ trim), String.ofList (trim e), n⟩) := by
  have ha : trim a ≠ [] := mt (hparts.trim_scope_eq_nil_iff (tight_trim text)).1 hfirst
  have hb : trim b ≠ [] := mt trim_eq_nil_iff.1 hname
  rw [parse_of_parts n hs hparts hending, define_eq_some_iff]
  exact ⟨ha, hb, by rw [Option.map_map]⟩

/-- With enough fields and a namespace, a line has no name or it holds a definition. -/
theorem parse_named_cases (hmany : 2 ≤ (trim text).count ':') (hfirst : (trim text).head? ≠ some ':') :
    parse n text = .error (.emptyField n .name) ∨ ∃ d, parse n text = .ok (some d) := by
  rcases exists_parts hmany with ⟨a, b, r, hparts⟩
  by_cases hgap : Gap b
  · exact .inl (parse_of_noName n hs hparts hfirst hgap)
  · rcases exists_ending r with ⟨q, e, hending⟩
    exact .inr ⟨_, parse_of_named n hs hparts hfirst hgap hending⟩

theorem parse_noName_iff (hmany : 2 ≤ (trim text).count ':') (hfirst : (trim text).head? ≠ some ':') (m : Nat) :
    parse n text = .error (.emptyField m .name) ↔ m = n ∧ ∃ a b r, Parts (trim text) a b r ∧ Gap b := by
  constructor
  · intro h
    rcases exists_parts hmany with ⟨a, b, r, hparts⟩
    by_cases hgap : Gap b
    · cases (parse_of_noName n hs hparts hfirst hgap).symm.trans h
      exact ⟨rfl, a, b, r, hparts, hgap⟩
    · rcases exists_ending r with ⟨q, e, hending⟩
      cases (parse_of_named n hs hparts hfirst hgap hending).symm.trans h
  · rintro ⟨rfl, a, b, r, hparts, hgap⟩
    exact parse_of_noName m hs hparts hfirst hgap

/-- The definition that a line holds. There is a qualifier unless the line has no third colon. -/
theorem parse_named_iff (hmany : 2 ≤ (trim text).count ':') (hfirst : (trim text).head? ≠ some ':')
    (d : Definition) :
    parse n text = .ok (some d) ↔
      ∃ a b r q e, Parts (trim text) a b r ∧ Ending r q e ∧ ¬ Gap b ∧
        d = ⟨String.ofList (trim a), String.ofList (trim b), q.map (String.ofList ∘ trim),
          String.ofList (trim e), n⟩ ∧
        (d.qualifier = none ↔ (trim text).count ':' = 2) := by
  constructor
  · intro h
    rcases exists_parts hmany with ⟨a, b, r, hparts⟩
    by_cases hgap : Gap b
    · cases (parse_of_noName n hs hparts hfirst hgap).symm.trans h
    · rcases exists_ending r with ⟨q, e, hending⟩
      cases (parse_of_named n hs hparts hfirst hgap hending).symm.trans h
      have hcolons := hparts.count_eq
      have hthird := hending.count_eq_zero_iff
      refine ⟨a, b, r, q, e, hparts, hending, hgap, rfl, ?_⟩
      rw [Option.map_eq_none_iff, ← hthird]
      omega
  · rintro ⟨a, b, r, q, e, hparts, hending, hname, rfl, -⟩
    exact parse_of_named n hs hparts hfirst hname hending

end Reading

/-! ## Fields and white space -/

/-- Fields that at most `cuts` colons separate. Only behind all of them may a field hold colons of its own. -/
inductive Pieces : Nat → List (List Char) → Prop where
  | rest (f : List Char) : Pieces 0 [f]
  | last {cuts : Nat} {f : List Char} (h : ':' ∉ f) : Pieces (cuts + 1) [f]
  | cons {cuts : Nat} {f : List Char} {fs : List (List Char)} (h : ':' ∉ f) (hs : Pieces cuts fs) :
      Pieces (cuts + 1) (f :: fs)

/-- The two texts differ in white space at their ends only. -/
def Respaced (f g : List Char) : Prop :=
  ∃ core left right left' right', Gap left ∧ Gap right ∧ Gap left' ∧ Gap right' ∧
    f = left ++ (core ++ right) ∧ g = left' ++ (core ++ right')

theorem fields_ne_nil (cuts : Nat) (cs : List Char) : fields cuts cs ≠ [] := by
  cases cuts with
  | zero => exact List.cons_ne_nil _ _
  | succ cuts =>
      by_cases h : ':' ∈ cs
      · rcases List.eq_append_cons_of_mem h with ⟨f, rest, rfl, hf⟩
        rw [fields_append hf]
        exact List.cons_ne_nil _ _
      · rw [fields_of_not_mem h]
        exact List.cons_ne_nil _ _

theorem pieces_fields (cuts : Nat) (cs : List Char) : Pieces cuts (fields cuts cs) := by
  induction cuts generalizing cs with
  | zero => exact .rest cs
  | succ cuts ih =>
      by_cases h : ':' ∈ cs
      · rcases List.eq_append_cons_of_mem h with ⟨f, rest, rfl, hf⟩
        rw [fields_append hf]
        exact .cons hf (ih rest)
      · rw [fields_of_not_mem h]
        exact .last h

theorem Pieces.ne_nil {cuts : Nat} {fs : List (List Char)} (h : Pieces cuts fs) : fs ≠ [] := by
  cases h <;> exact List.cons_ne_nil _ _

theorem intercalate_cons {fs : List (List Char)} (hfs : fs ≠ []) (f : List Char) :
    [':'].intercalate (f :: fs) = f ++ ':' :: [':'].intercalate fs := by
  cases fs with
  | nil => exact absurd rfl hfs
  | cons g gs => simp [List.intercalate_cons_cons]

/-- Joined again, the fields of a text are the text. -/
theorem intercalate_fields (cuts : Nat) (cs : List Char) :
    [':'].intercalate (fields cuts cs) = cs := by
  induction cuts generalizing cs with
  | zero => simp [fields]
  | succ cuts ih =>
      by_cases h : ':' ∈ cs
      · rcases List.eq_append_cons_of_mem h with ⟨f, rest, rfl, hf⟩
        rw [fields_append hf, intercalate_cons (fields_ne_nil cuts rest), ih]
      · rw [fields_of_not_mem h]
        simp

/-- A text that is joined from fields has these fields. -/
theorem Pieces.fields_intercalate {cuts : Nat} {fs : List (List Char)} (h : Pieces cuts fs) :
    fields cuts ([':'].intercalate fs) = fs := by
  induction h with
  | rest f => simp [fields]
  | last hf =>
      rw [List.intercalate_singleton]
      exact fields_of_not_mem hf _
  | cons hf hs ih => rw [intercalate_cons hs.ne_nil, fields_append hf, ih]

theorem colon_not_mem_gap {gap : List Char} (h : Gap gap) : ':' ∉ gap := by
  intro hmem
  have hcolon := h ':' hmem
  revert hcolon
  decide

namespace Respaced

theorem iff_trim_eq {f g : List Char} : Respaced f g ↔ trim f = trim g := by
  constructor
  · rintro ⟨core, left, right, left', right', hleft, hright, hleft', hright', rfl, rfl⟩
    rw [trim_gap_append hleft, trim_append_gap hright, trim_gap_append hleft',
      trim_append_gap hright']
  · intro h
    rcases exists_gaps f with ⟨left, right, hleft, hright, hf⟩
    rcases exists_gaps g with ⟨left', right', hleft', hright', hg⟩
    rw [← h] at hg
    exact ⟨trim f, left, right, left', right', hleft, hright, hleft', hright', hf, hg⟩

theorem not_mem_colon {f g : List Char} (h : Respaced f g) (hf : ':' ∉ f) : ':' ∉ g := by
  rcases h with ⟨core, left, right, left', right', -, -, hleft', hright', rfl, rfl⟩
  intro hmem
  rcases List.mem_append.1 hmem with hl | hmem
  · exact colon_not_mem_gap hleft' hl
  · rcases List.mem_append.1 hmem with hc | hr
    · exact hf (by simp [hc])
    · exact colon_not_mem_gap hright' hr

end Respaced

theorem Pieces.respaced {cuts : Nat} {fs gs : List (List Char)} (h : Pieces cuts fs)
    (hgs : List.Forall₂ Respaced fs gs) : Pieces cuts gs := by
  induction h generalizing gs with
  | rest f =>
      rcases hgs with _ | ⟨-, ⟨⟩⟩
      exact .rest _
  | last hf =>
      rcases hgs with _ | ⟨hg, ⟨⟩⟩
      exact .last (hg.not_mem_colon hf)
  | cons hf hs ih =>
      rcases hgs with _ | ⟨hg, hrest⟩
      exact .cons (hg.not_mem_colon hf) (ih hrest)

theorem map_trim_of_respaced {fs gs : List (List Char)} (h : List.Forall₂ Respaced fs gs) :
    fs.map trim = gs.map trim := by
  induction h with
  | nil => rfl
  | cons hfg _ ih => rw [List.map_cons, List.map_cons, Respaced.iff_trim_eq.1 hfg, ih]

/-- Trimming a text leaves its fields alone but for white space at their ends. -/
theorem map_trim_fields_gap_append {gap : List Char} (h : Gap gap) (cuts : Nat) (cs : List Char) :
    (fields cuts (gap ++ cs)).map trim = (fields cuts cs).map trim := by
  cases cuts with
  | zero => simp [fields, trim_gap_append h]
  | succ cuts =>
      have hgap := colon_not_mem_gap h
      by_cases hmem : ':' ∈ cs
      · rcases List.eq_append_cons_of_mem hmem with ⟨f, rest, rfl, hf⟩
        have hfield : ':' ∉ gap ++ f := by simp [hgap, hf]
        rw [← List.append_assoc, fields_append hfield, fields_append hf, List.map_cons, List.map_cons,
          trim_gap_append h]
      · have hall : ':' ∉ gap ++ cs := by simp [hgap, hmem]
        rw [fields_of_not_mem hall, fields_of_not_mem hmem, List.map_singleton, List.map_singleton,
          trim_gap_append h]

theorem map_trim_fields_append_gap {gap : List Char} (h : Gap gap) (cuts : Nat) (cs : List Char) :
    (fields cuts (cs ++ gap)).map trim = (fields cuts cs).map trim := by
  induction cuts generalizing cs with
  | zero => simp [fields, trim_append_gap h]
  | succ cuts ih =>
      have hgap := colon_not_mem_gap h
      by_cases hmem : ':' ∈ cs
      · rcases List.eq_append_cons_of_mem hmem with ⟨f, rest, rfl, hf⟩
        rw [List.append_assoc, List.cons_append, fields_append hf, fields_append hf, List.map_cons,
          List.map_cons, ih]
      · have hall : ':' ∉ cs ++ gap := by simp [hgap, hmem]
        rw [fields_of_not_mem hall, fields_of_not_mem hmem, List.map_singleton, List.map_singleton,
          trim_append_gap h]

theorem map_trim_fields_trim (cuts : Nat) (cs : List Char) :
    (fields cuts (trim cs)).map trim = (fields cuts cs).map trim := by
  rcases exists_gaps cs with ⟨left, right, hleft, hright, hcs⟩
  conv_rhs => rw [hcs, map_trim_fields_gap_append hleft, map_trim_fields_append_gap hright]

/-- A line with a colon begins with its first field, or with the colon if that is blank. -/
theorem head?_trim_append_cons (f rest : List Char) :
    (trim (f ++ ':' :: rest)).head? = (trim f).head?.or (some ':') := by
  have hcolon : isBlank ':' = false := by decide
  rw [head?_trim, head?_trim, List.find?_append, List.find?_cons_of_pos (by simp [hcolon])]

/-- Whether a line is skipped is decided by its fields, without the white space around them. -/
theorem head?_trim_congr {text text' : List Char}
    (h : (fields 3 text).map trim = (fields 3 text').map trim) :
    (trim text).head? = (trim text').head? := by
  by_cases hmem : ':' ∈ text
  · rcases List.eq_append_cons_of_mem hmem with ⟨f, rest, rfl, hf⟩
    by_cases hmem' : ':' ∈ text'
    · rcases List.eq_append_cons_of_mem hmem' with ⟨f', rest', rfl, hf'⟩
      rw [fields_append hf, fields_append hf', List.map_cons, List.map_cons, List.cons.injEq] at h
      rw [head?_trim_append_cons, head?_trim_append_cons, h.1]
    · -- One of the two lines has a single field, and the other has more.
      have hlength := congrArg List.length h
      rw [fields_append hf, fields_of_not_mem hmem'] at hlength
      simp [fields_ne_nil] at hlength
  · by_cases hmem' : ':' ∈ text'
    · rcases List.eq_append_cons_of_mem hmem' with ⟨f', rest', rfl, hf'⟩
      have hlength := congrArg List.length h.symm
      rw [fields_of_not_mem hmem, fields_append hf'] at hlength
      simp [fields_ne_nil] at hlength
    · rw [fields_of_not_mem hmem, fields_of_not_mem hmem', List.map_singleton, List.map_singleton,
        List.cons.injEq] at h
      rw [h.1]

/-- Lines with the same fields, but for white space around them, are read alike. -/
theorem parse_congr_fields {text text' : List Char}
    (h : (fields 3 text).map trim = (fields 3 text').map trim) (n : Nat) :
    parse n text = parse n text' := by
  have hskipped : isSkipped (trim text) = isSkipped (trim text') := by
    have hhead := head?_trim_congr h
    cases htext : trim text with
    | nil =>
        rw [htext, List.head?_nil, eq_comm, List.head?_eq_none_iff] at hhead
        rw [hhead]
    | cons c cs =>
        rw [htext, List.head?_cons, eq_comm, List.head?_eq_some_iff] at hhead
        rcases hhead with ⟨cs', htext'⟩
        rw [htext']
        rfl
  simp only [parse, hskipped, map_trim_fields_trim, h]

/-! ## The grammar -/

/-- What a line is read as, by the colons in its trimmed text and the fields between them. White space at the ends of a
field does not matter. -/
theorem parse_grammar (n : Nat) (text : List Char) :
    let t := trim text
    let colons := t.count ':'
    (parse n text = .ok none ↔ Skippable t) ∧
    (∀ m found, parse n text = .error (.tooFewFields m found) ↔
      ¬ Skippable t ∧ colons < 2 ∧ m = n ∧ found = colons + 1) ∧
    (∀ m, parse n text = .error (.emptyField m .scope) ↔
      ¬ Skippable t ∧ 2 ≤ colons ∧ t.head? = some ':' ∧ m = n) ∧
    (∀ m, parse n text = .error (.emptyField m .name) ↔
      ¬ Skippable t ∧ 2 ≤ colons ∧ t.head? ≠ some ':' ∧ m = n ∧
        ∃ a b r, Parts t a b r ∧ Gap b) ∧
    (∀ d, parse n text = .ok (some d) ↔
      ¬ Skippable t ∧ 2 ≤ colons ∧ t.head? ≠ some ':' ∧
        ∃ a b r q e, Parts t a b r ∧ Ending r q e ∧ ¬ Gap b ∧
          d = ⟨String.ofList (trim a), String.ofList (trim b), q.map (String.ofList ∘ trim),
            String.ofList (trim e), n⟩ ∧
          (d.qualifier = none ↔ colons = 2)) ∧
    Pieces 3 (fields 3 text) ∧ [':'].intercalate (fields 3 text) = text ∧
      ∀ fs, List.Forall₂ Respaced (fields 3 text) fs →
        parse n ([':'].intercalate fs) = parse n text := by
  intro t colons
  have hrespaced : ∀ fs, List.Forall₂ Respaced (fields 3 text) fs →
      parse n ([':'].intercalate fs) = parse n text := by
    intro fs hfs
    apply parse_congr_fields
    rw [((pieces_fields 3 text).respaced hfs).fields_intercalate, map_trim_of_respaced hfs]
  -- In each case reading gives one thing, and what the other lines say is excluded by the case.
  by_cases hskip : Skippable t
  · have hparse : parse n text = .ok none := parse_of_skipped n (isSkipped_eq_true_iff.2 hskip)
    refine ⟨?_, ?_, ?_, ?_, ?_, pieces_fields 3 text, intercalate_fields 3 text, hrespaced⟩
    all_goals simp [hparse, hskip]
  have hs : isSkipped t = false := not_skippable hskip
  by_cases hfew : colons < 2
  · have hparse := parse_of_few n hs hfew
    have hnot : ¬ 2 ≤ colons := Nat.not_le.2 hfew
    refine ⟨?_, ?_, ?_, ?_, ?_, pieces_fields 3 text, intercalate_fields 3 text, hrespaced⟩
    all_goals simp [hparse, hskip, hfew, hnot, colons, t, eq_comm]
  have hmany : 2 ≤ colons := Nat.le_of_not_lt hfew
  by_cases hfirst : t.head? = some ':'
  · rcases exists_parts hmany with ⟨a, b, r, hparts⟩
    have hparse := parse_of_noScope n hs hparts hfirst
    refine ⟨?_, ?_, ?_, ?_, ?_, pieces_fields 3 text, intercalate_fields 3 text, hrespaced⟩
    all_goals simp [hparse, hskip, hfew, hmany, hfirst, eq_comm]
  have hcases := parse_named_cases n hs hmany hfirst
  refine ⟨?_, ?_, ?_, ?_, ?_, pieces_fields 3 text, intercalate_fields 3 text, hrespaced⟩
  · rcases hcases with hparse | ⟨d, hparse⟩ <;> simp [hparse, hskip]
  · rcases hcases with hparse | ⟨d, hparse⟩ <;> simp [hparse, hfew]
  · rcases hcases with hparse | ⟨d, hparse⟩ <;> simp [hparse, hfirst]
  · intro m
    rw [parse_noName_iff n hs hmany hfirst]
    simp only [hskip, hmany, hfirst, not_false_eq_true, ne_eq, true_and]
    rfl
  · intro d
    rw [parse_named_iff n hs hmany hfirst]
    simp only [hskip, hmany, hfirst, not_false_eq_true, ne_eq, true_and]
    rfl

/-- White space put into a line and taken out of it, at the ends of all four fields. -/
theorem parse_grammar_respaced :
    let text := " env :START:\t:12:30".toList
    let fs := ["env\t".toList, " START  ".toList, [], "12:30 ".toList]
    List.Forall₂ Respaced (fields 3 text) fs ∧ parse 7 ([':'].intercalate fs) = parse 7 text ∧
      parse 7 text = .ok (some ⟨"env", "START", some "", "12:30", 7⟩) := by
  intro text fs
  have hrespaced : List.Forall₂ Respaced (fields 3 text) fs :=
    .cons (Respaced.iff_trim_eq.2 (by decide)) <| .cons (Respaced.iff_trim_eq.2 (by decide)) <|
      .cons (Respaced.iff_trim_eq.2 (by decide)) <| .cons (Respaced.iff_trim_eq.2 (by decide)) .nil
  exact ⟨hrespaced, (parse_grammar 7 text).2.2.2.2.2.2.2 fs hrespaced, by rfl⟩

end HealthRules.Line
