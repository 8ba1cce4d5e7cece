import HealthRules.Proofs.Rule.Rendering

/-!
# LineEndings — lines that end in a carriage return and a line feed

Rule text may be written with a carriage return before every line feed. A line is then one carriage return
longer, at its end, where reading takes one away or trims it. What matters is that no line gets longer
anywhere else: carriage returns that were there before stay in their places.

* `Lines.withReturns` puts the carriage returns in, in bytes or in characters;
* `Lines.cut_withReturns`: the lines that have an end get one more, the unfinished one does not;
* `Batch.parseBytes_append_return` and `Line.parse_append_return`, for one line;
* `Batch.read_withReturns`, for whole inputs.
-/

namespace HealthRules

namespace Lines

variable {α : Type} [BEq α] {ret mark : α}

/-- The elements with `ret` in front of every `mark`. -/
def withReturns (ret mark : α) (xs : List α) : List α :=
  xs.flatMap fun x => if x == mark then [ret, x] else [x]

theorem cut_withReturns (hret : (ret == mark) = false) (xs : List α) :
    cut (· == mark) (withReturns ret mark xs) =
      ((cut (· == mark) xs).1.map (· ++ [ret]), (cut (· == mark) xs).2) := by
  induction xs with
  | nil => rfl
  | cons x xs ih =>
      rw [withReturns] at ih
      by_cases hx : (x == mark) = true
      · simp [withReturns, cut, hx, hret, ih]
      · -- `x` goes in front of the first ended line, or of the unfinished one if no line has ended.
        cases hdone : (cut (· == mark) xs).1 with
        | nil => simp [withReturns, cut, hx, hdone, ih]
        | cons d ds => simp [withReturns, cut, hx, hdone, ih]

end Lines

/-! ## One line -/

theorem Line.parse_append_return (n : Nat) (text : List Char) :
    parse n (text ++ ['\r']) = parse n text := by
  have hblank : ∀ c ∈ ['\r'], Blank.isBlank c = true := by
    intro c hc
    rw [List.mem_singleton.1 hc]
    rfl
  exact Line.parse_congr (Blank.trim_append_blank hblank) n

namespace Batch

/-- Of the carriage returns at the end of a line one is taken away, and trimming does not see the others. -/
theorem parseBytes_append_return (n : Nat) (bytes : List UInt8) :
    parseBytes n (bytes ++ [0x0D]) = parseBytes n bytes := by
  have hdrop : Lines.dropFinal 0x0D (bytes ++ [0x0D]) = bytes := by simp [Lines.dropFinal]
  rw [parseBytes, hdrop]
  exact (parseBytes_eq n bytes).symm

/-! ## Whole inputs -/

/-- The pieces of some bytes, or of a text, make the same batch with the carriage returns and without them. -/
theorem ofLines_withReturns {α : Type} [BEq α] {ret mark : α} (hret : (ret == mark) = false)
    {read : Nat → List α → Except ParseError (Option Definition)}
    (hread : ∀ n line, read n (line ++ [ret]) = read n line) (xs : List α) :
    ofLines read 1 ((Lines.withReturns ret mark xs).splitOn mark) =
      ofLines read 1 (xs.splitOn mark) := by
  simp only [List.splitOn_eq_splitOnP, Lines.splitOnP_eq_cut, Lines.cut_withReturns hret]
  apply ofLines_congr
  refine List.rel_append ?ended ?unfinished
  case ended =>
    rw [List.forall₂_map_left_iff, List.forall₂_same]
    intro line _ n
    exact hread n line
  case unfinished =>
    rw [List.forall₂_same]
    intro line _ n
    rfl

/-- The pieces of some bytes, read in turn. -/
theorem ofSource_eq_splitOn (chunks : List (List UInt8)) :
    ofSource { chunks } = .ok (ofLines parseBytes 1 (chunks.flatten.splitOn 0x0A)) := by
  rw [ofSource, ofCompleteLines_eq, ofLines_eq]
  rfl

/-- Carriage returns in front of line feeds change nothing, in bytes and in texts, also if a source fails. -/
theorem read_withReturns :
    (∀ (chunks chunks' : List (List UInt8)) (failure : Option String),
      chunks'.flatten = Lines.withReturns 0x0D 0x0A chunks.flatten →
      ofSource { chunks := chunks', failure } = ofSource { chunks, failure }) ∧
    ∀ text : String,
      ofText (String.ofList (Lines.withReturns '\r' '\n' text.toList)) = ofText text := by
  constructor
  · intro chunks chunks' failure hbytes
    cases failure with
    | some reason => rfl
    | none =>
        rw [ofSource_eq_splitOn, ofSource_eq_splitOn, hbytes,
          ofLines_withReturns rfl parseBytes_append_return]
  · intro text
    rw [ofText_eq_splitOn, ofText_eq_splitOn, String.toList_ofList,
      ofLines_withReturns (by decide) Line.parse_append_return]

/-- Carriage returns inside and behind a field, before a line feed and at the end of the input. -/
theorem read_withReturns_strays :
    let chunks : List (List UInt8) :=
      [[0x61, 0x3A, 0x62, 0x0D, 0x3A, 0x63, 0x0D, 0x64, 0x0D], [0x0A, 0x0A, 0xFF, 0x0A, 0x78, 0x0D]]
    let chunks' : List (List UInt8) :=
      [[0x61, 0x3A, 0x62, 0x0D, 0x3A, 0x63, 0x0D, 0x64, 0x0D, 0x0D], [0x0A, 0x0D, 0x0A, 0xFF, 0x0D],
        [0x0A, 0x78, 0x0D]]
    chunks'.flatten = Lines.withReturns 0x0D 0x0A chunks.flatten ∧
      ofSource { chunks := chunks' } = ofSource { chunks } ∧
      (ofCompleteLines { chunks }).definitions = [⟨"a", "b", none, "c\rd", 1⟩] ∧
      (ofCompleteLines { chunks }).errors = [.notUtf8 3, .tooFewFields 4 1] := by
  intro chunks chunks'
  have hbytes : chunks'.flatten = Lines.withReturns 0x0D 0x0A chunks.flatten := by decide
  exact ⟨hbytes, read_withReturns.1 chunks chunks' none hbytes, by decide +kernel, by decide +kernel⟩

end Batch

end HealthRules
