import HealthRules.Proofs.Rule.Batches
import HealthRules.Proofs.Rule.Fields
import HealthRules.Proofs.Text.LineBreaks
import HealthRules.Proofs.Text.Utf8Coding

/-!
# ByteLines — rule text from a source of bytes

A source hands out its bytes in chunks that end anywhere. What counts are the bytes, cut at line feeds: every
piece between them is read as a line, under its number.

* `Source.intake_eq`: the chunks do not show;
* `Batch.ofCompleteLines_eq`, the batch of a source that does not fail;
* `Batch.Skipped` and `Batch.parseBytes_eq_none_iff`, the lines that contribute nothing;
* `Batch.ofNumbered_perm`: every other line contributes once, and shows by its number.
-/

namespace HealthRules

/-! ## Chunks -/

theorem Intake.foldl_feed (chunks : List (List UInt8)) (bytes : List UInt8) :
    let r := Lines.cut (· == 0x0A) bytes
    let r' := Lines.cut (· == 0x0A) (bytes ++ chunks.flatten)
    chunks.foldl feed ⟨r.1, r.2⟩ = ⟨r'.1, r'.2⟩ := by
  induction chunks generalizing bytes with
  | nil => simp
  | cons chunk chunks ih =>
      -- The intake after `bytes` and one chunk is the cut of both together.
      have hfeed := Lines.cut_append (· == (0x0A : UInt8)) bytes chunk
      have hrest := ih (bytes ++ chunk)
      rw [hfeed] at hrest
      simp only [List.foldl_cons, List.flatten_cons, ← List.append_assoc]
      exact hrest

theorem Source.intake_eq (s : Source) :
    let r := Lines.cut (· == 0x0A) s.chunks.flatten
    s.intake = ⟨r.1, r.2⟩ := by
  exact Intake.foldl_feed s.chunks []

/-- An unfinished line is a line unless it is empty. -/
theorem Source.lines_eq (chunks : List (List UInt8)) :
    ({ chunks } : Source).lines = Lines.dropFinal [] (chunks.flatten.splitOn 0x0A) := by
  rw [List.splitOn_eq_splitOnP, Lines.splitOnP_eq_cut]
  simp only [lines, intake_eq, Intake.finish]
  cases (Lines.cut (· == 0x0A) chunks.flatten).2 with
  | nil => simp [Lines.dropFinal]
  | cons b rest => simp [Lines.dropFinal]

namespace Batch

/-! ## Numbered lines -/

/-- Nothing changes if an empty line at the end counts as well. -/
theorem ofLines_dropFinal (first : Nat) (ls : List (List UInt8)) :
    ofLines parseBytes first (Lines.dropFinal [] ls) = ofLines parseBytes first ls := by
  rcases List.eq_nil_or_concat ls with rfl | ⟨init, last, rfl⟩
  · rfl
  · rw [List.concat_eq_append]
    cases last with
    | cons b rest => simp [Lines.dropFinal]
    | nil =>
        -- The line that is left out would contribute nothing, whatever its number.
        have hempty : ∀ n, parseBytes n [] = .ok none := fun _ => rfl
        simp [Lines.dropFinal, ofLines_eq, List.zipIdx_append, hempty, definition?, error?]

/-- The pieces of some bytes between line feeds, numbered from 1. -/
def numberedLines (bytes : List UInt8) : List (List UInt8 × Nat) := (bytes.splitOn 0x0A).zipIdx 1

/-- What numbered lines contribute. -/
def ofNumbered (ls : List (List UInt8 × Nat)) : Batch :=
  ⟨ls.filterMap fun l => definition? (parseBytes l.2 l.1),
    ls.filterMap fun l => error? (parseBytes l.2 l.1)⟩

theorem ofCompleteLines_eq (chunks : List (List UInt8)) :
    ofCompleteLines { chunks } = ofNumbered (numberedLines chunks.flatten) := by
  rw [ofCompleteLines, Source.lines_eq, ofLines_dropFinal, ofLines_eq]
  rfl

/-! ## Skipped lines -/

/-- The bytes are a text that is blank or a comment. -/
def Skipped (bytes : List UInt8) : Prop :=
  ∃ text, Utf8.encode text = bytes ∧
    (Blank.trim text = [] ∨ (Blank.trim text).head? = some '#')

theorem isSkipped_iff {trimmed : List Char} :
    Line.isSkipped trimmed = true ↔ trimmed = [] ∨ trimmed.head? = some '#' := by
  cases trimmed with
  | nil => simp [Line.isSkipped]
  | cons c cs => simp [Line.isSkipped]

theorem parseBytes_numbered (n : Nat) (bytes : List UInt8) : Numbered n (parseBytes n bytes) := by
  unfold parseBytes
  split
  · exact Line.parse_numbered n _
  · rfl

/-- A carriage return at the end of a line does not matter. -/
theorem parseBytes_eq (n : Nat) (bytes : List UInt8) :
    parseBytes n bytes = match Utf8.decode? bytes with
      | some text => Line.parse n text
      | none => .error (.notUtf8 n) := by
  unfold parseBytes
  rw [Utf8.decode?_dropFinal]
  cases Utf8.decode? bytes with
  | none => rfl
  | some text => exact Line.parse_congr (Blank.trim_dropFinal text) n

theorem parseBytes_eq_none_iff {n : Nat} {bytes : List UInt8} :
    parseBytes n bytes = .ok none ↔ Skipped bytes := by
  rw [parseBytes_eq]
  constructor
  · intro h
    split at h
    · next text hbytes =>
        exact ⟨text, Utf8.decode?_eq_some_iff.1 hbytes, isSkipped_iff.1 (Line.parse_eq_none_iff.1 h)⟩
    · cases h
  · rintro ⟨text, htext, hskipped⟩
    rw [Utf8.decode?_eq_some_iff.2 htext]
    exact Line.parse_eq_none_iff.2 (isSkipped_iff.2 hskipped)

instance (bytes : List UInt8) : Decidable (Skipped bytes) :=
  decidable_of_iff (parseBytes 0 bytes = .ok none) parseBytes_eq_none_iff

/-- A comment with a carriage return behind it is skipped, and bytes that are no text are not. -/
example : Skipped [0x20, 0x23, 0x0D] ∧ ¬ Skipped [0x23, 0xFF] := by decide

/-! ## Contributions by their numbers -/

theorem numbers_filterMap {κ γ : Type} {f : κ × Nat → Option γ} {number : γ → Option Nat}
    (hf : ∀ l y, f l = some y → number y = some l.2) (ls : List (κ × Nat)) :
    (ls.filterMap f).filterMap number = (ls.filter fun l => (f l).isSome).map (·.2) := by
  induction ls with
  | nil => rfl
  | cons l ls ih =>
      cases hl : f l with
      | none => simpa [hl] using ih
      | some y => simp [hl, hf l y hl, ih]

theorem line_of_definition? {n : Nat} {r : Except ParseError (Option Definition)} {d : Definition}
    (hr : Numbered n r) (hd : definition? r = some d) : d.line = n := by
  rw [definition?_eq_some_iff.1 hd] at hr
  exact hr

theorem line?_of_error? {n : Nat} {r : Except ParseError (Option Definition)} {e : ParseError}
    (hr : Numbered n r) (he : error? r = some e) : e.line? = some n := by
  rw [error?_eq_some_iff.1 he] at hr
  exact hr

theorem exists_line_of_definition {ls : List (List UInt8 × Nat)} {d : Definition}
    (hd : d ∈ (ofNumbered ls).definitions) :
    ∃ line ∈ ls, parseBytes line.2 line.1 = .ok (some d) := by
  rcases List.mem_filterMap.1 hd with ⟨line, hline, hfound⟩
  exact ⟨line, hline, definition?_eq_some_iff.1 hfound⟩

theorem exists_line_of_error {ls : List (List UInt8 × Nat)} {e : ParseError}
    (he : e ∈ (ofNumbered ls).errors) : ∃ line ∈ ls, parseBytes line.2 line.1 = .error e := by
  rcases List.mem_filterMap.1 he with ⟨line, hline, hfound⟩
  exact ⟨line, hline, error?_eq_some_iff.1 hfound⟩

theorem numberedLines_increasing (bytes : List UInt8) :
    ((numberedLines bytes).map (·.2)).Pairwise (· < ·) := by
  rw [numberedLines, List.zipIdx_map_snd]
  exact List.pairwise_lt_range'

/-- A line that is not skipped contributes either an error or a definition. -/
theorem contributes_iff (n : Nat) (bytes : List UInt8) :
    (decide (¬ Skipped bytes) && (error? (parseBytes n bytes)).isSome) =
        (error? (parseBytes n bytes)).isSome ∧
      (decide (¬ Skipped bytes) && !(error? (parseBytes n bytes)).isSome) =
        (definition? (parseBytes n bytes)).isSome := by
  have hskipped : parseBytes n bytes = .ok none ↔ Skipped bytes := parseBytes_eq_none_iff
  cases hr : parseBytes n bytes with
  | error e =>
      have hnot : ¬ Skipped bytes := by simp [← hskipped, hr]
      simp [error?, definition?, hnot]
  | ok found =>
      cases found with
      | none =>
          have hs : Skipped bytes := hskipped.1 hr
          simp [error?, definition?, hs]
      | some d =>
          have hnot : ¬ Skipped bytes := by simp [← hskipped, hr]
          simp [error?, definition?, hnot]

variable (ls : List (List UInt8 × Nat))

theorem ofNumbered_errors :
    (ofNumbered ls).errors.filterMap (·.line?) =
      (ls.filter fun l => (error? (parseBytes l.2 l.1)).isSome).map (·.2) :=
  numbers_filterMap (fun l _ he => line?_of_error? (parseBytes_numbered l.2 l.1) he) ls

theorem ofNumbered_definitions :
    (ofNumbered ls).definitions.map (·.line) =
      (ls.filter fun l => (definition? (parseBytes l.2 l.1)).isSome).map (·.2) := by
  rw [← List.filterMap_eq_map]
  apply numbers_filterMap
  intro l d hd
  exact congrArg some (line_of_definition? (parseBytes_numbered l.2 l.1) hd)

/-- No error is about the whole input. -/
theorem length_errors :
    ((ofNumbered ls).errors.filterMap (·.line?)).length = (ofNumbered ls).errors.length := by
  apply List.filterMap_length_eq_length.2
  intro e he
  rcases List.mem_filterMap.1 he with ⟨l, -, hl⟩
  rw [line?_of_error? (parseBytes_numbered l.2 l.1) hl]
  rfl

/-- Every line that is not skipped contributes one error or one definition. -/
theorem ofNumbered_perm :
    ((ofNumbered ls).errors.filterMap (·.line?) ++ (ofNumbered ls).definitions.map (·.line)).Perm
      ((ls.filter fun l => ¬ Skipped l.1).map (·.2)) := by
  -- Split the lines that are not skipped by whether they are refused: the others are definitions.
  let refused (l : List UInt8 × Nat) : Bool := (error? (parseBytes l.2 l.1)).isSome
  have herrors : (ls.filter fun l => ¬ Skipped l.1).filter refused = ls.filter refused := by
    rw [List.filter_filter]
    apply List.filter_congr
    intro l _
    rw [Bool.and_comm]
    exact (contributes_iff l.2 l.1).1
  have hdefinitions : (ls.filter fun l => ¬ Skipped l.1).filter (!refused ·) =
      ls.filter fun l => (definition? (parseBytes l.2 l.1)).isSome := by
    rw [List.filter_filter]
    apply List.filter_congr
    intro l _
    rw [Bool.and_comm]
    exact (contributes_iff l.2 l.1).2
  rw [ofNumbered_errors, ofNumbered_definitions, ← herrors, ← hdefinitions, ← List.map_append]
  exact (List.filter_append_perm refused _).map _

end Batch

end HealthRules
