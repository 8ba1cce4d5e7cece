import HealthRules.Proofs.Rule.ByteLines
import HealthRules.Proofs.Rule.RoundTrip
import HealthRules.Proofs.Text.EncodedText

/-!
# Rendering — definitions as a text of their own

The definitions that reading gives can be written again, each on a line. A line has no line feed in it, so that
none of its fields has one, and what is written is cut where it was joined. The new text has no blank lines, no
comments and no errors, and its lines are numbered without gaps.

* `Definition.IsLine`, what can be written on a line, and `Batch.isLine_of_read`: reading gives nothing else;
* `Batch.ofText_eq_splitOn`, a text as the pieces between its line feeds;
* `Definition.renderAll`, and `Batch.ofText_renderAll`: what is read back.
-/

namespace HealthRules

/-! ## What a line is made of -/

namespace Line

theorem mem_of_mem_cutAtColon (cs : List Char) :
    (∀ c ∈ (cutAtColon cs).1, c ∈ cs) ∧ ∀ after ∈ (cutAtColon cs).2, ∀ c ∈ after, c ∈ cs := by
  induction cs with
  | nil => exact ⟨nofun, nofun⟩
  | cons x xs ih =>
      by_cases hx : x = ':'
      · simp only [cutAtColon, if_pos hx]
        refine ⟨List.forall_mem_nil _, ?_⟩
        rintro after ⟨⟩ c hc
        exact List.mem_cons_of_mem x hc
      · simp only [cutAtColon, if_neg hx]
        refine ⟨?_, ?_⟩
        · intro c hc
          rcases List.mem_cons.1 hc with rfl | hc
          · exact List.mem_cons_self
          · exact List.mem_cons_of_mem x (ih.1 c hc)
        · intro after hafter c hc
          exact List.mem_cons_of_mem x (ih.2 after hafter c hc)

/-- Fields have nothing that is not in the text. -/
theorem mem_of_mem_fields {cuts : Nat} {cs field : List Char} (hfield : field ∈ fields cuts cs)
    {c : Char} (hc : c ∈ field) : c ∈ cs := by
  induction cuts generalizing cs with
  | zero =>
      rw [fields, List.mem_singleton] at hfield
      exact hfield ▸ hc
  | succ cuts ih =>
      have hcut := mem_of_mem_cutAtColon cs
      rw [fields] at hfield
      rcases hparts : cutAtColon cs with ⟨before, rest⟩
      rw [hparts] at hfield hcut
      cases rest with
      | none =>
          rw [List.mem_singleton] at hfield
          exact hcut.1 c (hfield ▸ hc)
      | some after =>
          rcases List.mem_cons.1 hfield with rfl | hlater
          · exact hcut.1 c hc
          · exact hcut.2 after rfl c (ih hlater)

theorem mem_of_mem_render_define {n : Nat} {a b e : List Char} {q : Option (List Char)}
    {d : Definition} (h : (define n a b q e).map some = .ok (some d)) {c : Char}
    (hc : c ∈ d.render.toList) : c = ':' ∨ c ∈ a ∨ c ∈ b ∨ c ∈ q.getD [] ∨ c ∈ e := by
  rcases define_eq_some_iff.1 h with ⟨-, -, rfl⟩
  have hcolon : ":".toList = [':'] := rfl
  cases q with
  | none =>
      simp only [Definition.render, Option.map_none, String.toList_append, String.toList_ofList,
        List.mem_append, hcolon, List.mem_singleton] at hc
      tauto
  | some f =>
      simp only [Definition.render, Option.map_some, String.toList_append, String.toList_ofList,
        List.mem_append, hcolon, List.mem_singleton] at hc
      rw [Option.getD_some]
      tauto

/-- The text of a definition has colons, and beside them only what is in the line. -/
theorem mem_of_mem_render {n : Nat} {text : List Char} {d : Definition}
    (h : parse n text = .ok (some d)) {c : Char} (hc : c ∈ d.render.toList) : c = ':' ∨ c ∈ text := by
  have hpiece : ∀ piece ∈ (fields 3 (Blank.trim text)).map Blank.trim, c ∈ piece → c ∈ text := by
    intro piece hpiece hc
    rcases List.mem_map.1 hpiece with ⟨field, hfield, rfl⟩
    exact Blank.mem_of_mem_trim (mem_of_mem_fields hfield (Blank.mem_of_mem_trim hc))
  simp only [parse] at h
  -- Only three and four fields make a definition, and what is shown are colons and those fields.
  split at h
  · cases h
  · split at h
    · next scope name expression hfields =>
        rw [hfields] at hpiece
        rcases mem_of_mem_render_define h hc with hc | hc | hc | hc | hc
        · exact .inl hc
        · exact .inr (hpiece scope (by simp) hc)
        · exact .inr (hpiece name (by simp) hc)
        · cases hc
        · exact .inr (hpiece expression (by simp) hc)
    · next scope name qualifier expression hfields =>
        rw [hfields] at hpiece
        rcases mem_of_mem_render_define h hc with hc | hc | hc | hc | hc
        · exact .inl hc
        · exact .inr (hpiece scope (by simp) hc)
        · exact .inr (hpiece name (by simp) hc)
        · exact .inr (hpiece qualifier (by simp) hc)
        · exact .inr (hpiece expression (by simp) hc)
    · cases h

end Line

/-- The definition can be written on a line of its own, and is read back from it. -/
structure Definition.IsLine (d : Definition) : Prop where
  wellFormed : d.WellFormed
  unbroken : '\n' ∉ d.render.toList

/-- What is read from a line is a line. -/
theorem isLine_of_parse {n : Nat} {text : List Char} {d : Definition} (htext : '\n' ∉ text)
    (h : Line.parse n text = .ok (some d)) : d.IsLine := by
  refine ⟨(Line.wellFormed_of_parse h).2, ?_⟩
  intro hmem
  rcases Line.mem_of_mem_render h hmem with hcolon | hbreak
  · exact absurd hcolon (by decide)
  · exact htext hbreak

namespace Batch

/-! ## Texts as pieces -/

/-- A text may as well be cut at its line feeds only. -/
theorem ofText_eq_splitOn (text : String) :
    ofText text = ofLines Line.parse 1 (text.toList.splitOn '\n') := by
  have hended : ∀ (first : Nat) (done rest : List (List Char)),
      ofLines Line.parse first (done.map (Lines.dropFinal '\r') ++ rest) =
        ofLines Line.parse first (done ++ rest) := by
    intro first done rest
    induction done generalizing first with
    | nil => rfl
    | cons line done ih =>
        have hline := Line.parse_congr (Blank.trim_dropFinal line) first
        simp only [List.map_cons, List.cons_append, ofLines, hline, ih]
  have hempty : ∀ (first : Nat) (done : List (List Char)),
      ofLines Line.parse first (done ++ [[]]) = ofLines Line.parse first done := by
    intro first done
    induction done generalizing first with
    | nil => rfl
    | cons line done ih => simp only [List.cons_append, ofLines, ih]
  rw [ofText, Lines.ofText, List.splitOn_eq_splitOnP, Lines.splitOnP_eq_cut]
  rcases Lines.cut (· == '\n') text.toList with ⟨done, rest⟩
  cases rest with
  | nil => simpa [hempty] using hended 1 done []
  | cons c rest => simpa using hended 1 done [c :: rest]

/-! ## What reading gives -/

theorem isLine_of_ofText {text : String} {d : Definition} (hd : d ∈ (ofText text).definitions) :
    d.IsLine := by
  rw [ofText_eq_splitOn, ofLines_eq] at hd
  rcases List.mem_filterMap.1 hd with ⟨⟨line, n⟩, hline, hparse⟩
  have hpiece : line ∈ text.toList.splitOn '\n' := List.fst_mem_of_mem_zipIdx hline
  exact isLine_of_parse (Lines.not_mem_of_mem_splitOn hpiece) (definition?_eq_some_iff.1 hparse)

/-- Bytes are cut at line feeds before it is seen whether they are a text. -/
theorem isLine_of_parseBytes {n : Nat} {bytes : List UInt8} {d : Definition} (hbytes : 0x0A ∉ bytes)
    (h : parseBytes n bytes = .ok (some d)) : d.IsLine := by
  rw [parseBytes_eq] at h
  split at h
  · next text htext =>
      have hencoded : Utf8.encode text = bytes := Utf8.decode?_eq_some_iff.1 htext
      refine isLine_of_parse ?_ h
      intro hmem
      apply hbytes
      rw [← hencoded]
      exact (Utf8.mem_encode_iff (by decide) rfl text).2 hmem
  · cases h

theorem isLine_of_ofSource {s : Source} {b : Batch} (h : ofSource s = .ok b) {d : Definition}
    (hd : d ∈ b.definitions) : d.IsLine := by
  rcases s with ⟨chunks, failure⟩
  cases failure with
  | some reason => cases h
  | none =>
      cases h
      rw [ofCompleteLines_eq] at hd
      rcases List.mem_filterMap.1 hd with ⟨⟨line, n⟩, hline, hparse⟩
      have hpiece : line ∈ chunks.flatten.splitOn 0x0A := List.fst_mem_of_mem_zipIdx hline
      exact isLine_of_parseBytes (Lines.not_mem_of_mem_splitOn hpiece)
        (definition?_eq_some_iff.1 hparse)

/-- Whatever has been read, from bytes or from a text, has definitions that are lines. -/
theorem isLine_of_read {b : Batch} (hb : (∃ s, ofSource s = .ok b) ∨ ∃ text, b = ofText text) :
    ∀ d ∈ b.definitions, d.IsLine := by
  intro d hd
  rcases hb with ⟨s, hs⟩ | ⟨text, rfl⟩
  · exact isLine_of_ofSource hs hd
  · exact isLine_of_ofText hd

end Batch

/-! ## Writing definitions -/

/-- The texts of definitions, each on a line. -/
def Definition.renderAll (ds : List Definition) : String := "\n".intercalate (ds.map render)

/-- The definitions with new numbers, from `first` on. -/
def Definition.renumberAll (first : Nat) (ds : List Definition) : List Definition :=
  (ds.zipIdx first).map fun d => d.1.atLine d.2

/-- The text of a definition does not tell its line. -/
theorem Line.parse_render_atLine {d : Definition} (h : d.WellFormed) (n : Nat) :
    parse n d.render.toList = .ok (some (d.atLine n)) := by
  have hwell : (d.atLine n).WellFormed :=
    ⟨h.scope_field, h.scope_ne_empty, h.scope_not_comment, h.name_field, h.name_ne_empty,
      h.qualifier_field, h.expression_trimmed, h.expression_last⟩
  exact parse_render hwell

namespace Batch

theorem ofLines_render {ds : List Definition} (h : ∀ d ∈ ds, d.WellFormed) (first : Nat) :
    ofLines Line.parse first (ds.map (·.render.toList)) = ⟨Definition.renumberAll first ds, []⟩ := by
  induction ds generalizing first with
  | nil => rfl
  | cons d ds ih =>
      have hline := Line.parse_render_atLine (h d List.mem_cons_self) first
      have hrest := ih (fun d' hd' => h d' (List.mem_cons_of_mem d hd')) (first + 1)
      rw [List.map_cons, ofLines, hline, hrest]
      rfl

/-- Definitions that are lines are read back from their texts, with the numbers of the new lines. -/
theorem ofText_renderAll {ds : List Definition} (h : ∀ d ∈ ds, d.IsLine) :
    ofText (Definition.renderAll ds) = ⟨Definition.renumberAll 1 ds, []⟩ := by
  have htext : (Definition.renderAll ds).toList = ['\n'].intercalate (ds.map (·.render.toList)) := by
    rw [Definition.renderAll, String.toList_intercalate, List.map_map]
    rfl
  rw [ofText_eq_splitOn, htext]
  cases ds with
  | nil => rfl
  | cons d ds =>
      have hunbroken : ∀ line ∈ (d :: ds).map (·.render.toList), '\n' ∉ line := by
        intro line hline
        rcases List.mem_map.1 hline with ⟨d', hd', rfl⟩
        exact (h d' hd').unbroken
      rw [List.splitOn_intercalate '\n' hunbroken (by simp)]
      exact ofLines_render (fun d' hd' => (h d' hd').wellFormed) 1

end Batch

theorem Definition.renderAll_renumberAll (first : Nat) (ds : List Definition) :
    renderAll (renumberAll first ds) = renderAll ds := by
  have hrenders : (renumberAll first ds).map render = ds.map render := by
    rw [renumberAll, List.map_map]
    conv_rhs => rw [← List.zipIdx_map_fst first ds, List.map_map]
    rfl
  rw [renderAll, renderAll, hrenders]

end HealthRules
