import HealthRules.Proofs.Rule.ByteLines
import HealthRules.Proofs.Text.EncodedText

/-!
# SourceText — a text read from a source

A rule text may be at hand, or a source may hand out its bytes piece by piece. Both give the same batch. The
ways to it differ: a source cuts bytes and takes one carriage return from every line, the last one too, and
only then the line has to be a text; a text keeps the carriage return at the end of an unfinished line.

* `Batch.ReadAlike`, lines that contribute the same on both ways;
* `Source.lines_alike`: line by line they are such lines;
* `Batch.ofSource_eq_ofText`, for whole texts.
-/

namespace HealthRules

/-! ## Lines read alike -/

namespace Batch

/-- The bytes contribute what the text contributes, whatever the number of the line is. -/
def ReadAlike (bytes : List UInt8) (text : List Char) : Prop :=
  ∀ n, parseBytes n bytes = Line.parse n text

theorem readAlike_encode (text : List Char) : ReadAlike (Utf8.encode text) text := by
  intro n
  rw [parseBytes_eq, Utf8.decode?_encode]

/-- The carriage return of a text does not matter, as the line is trimmed before anything else. -/
theorem ReadAlike.dropFinal {bytes : List UInt8} {text : List Char} (h : ReadAlike bytes text) :
    ReadAlike bytes (Lines.dropFinal '\r' text) := by
  intro n
  have htrim : Line.parse n (Lines.dropFinal '\r' text) = Line.parse n text :=
    Line.parse_congr (Blank.trim_dropFinal text) n
  exact (h n).trans htrim.symm

end Batch

/-! ## Whole texts -/

/-- The chunks may end anywhere, within a character as well: only their bytes count. -/
theorem Source.lines_alike {text : List Char} {chunks : List (List UInt8)}
    (h : chunks.flatten = Utf8.encode text) :
    List.Forall₂ Batch.ReadAlike ({ chunks } : Source).lines (Lines.ofText text) := by
  -- Cut at line feeds, the bytes are the encoded pieces of the text.
  have hcut : Lines.cut (· == 0x0A) (Utf8.encode text) =
      ((Lines.cut (· == '\n') text).1.map Utf8.encode,
        Utf8.encode (Lines.cut (· == '\n') text).2) :=
    Utf8.cut_encode (by decide) rfl text
  have hintake : ({ chunks } : Source).intake =
      ⟨(Lines.cut (· == '\n') text).1.map Utf8.encode, Utf8.encode (Lines.cut (· == '\n') text).2⟩ := by
    have hbytes := Source.intake_eq { chunks }
    simpa [h, hcut] using hbytes
  have hended : ∀ done : List (List Char), List.Forall₂ Batch.ReadAlike (done.map Utf8.encode)
      (done.map (Lines.dropFinal '\r')) := by
    intro done
    rw [List.forall₂_map_left_iff, List.forall₂_map_right_iff, List.forall₂_same]
    intro line _
    exact (Batch.readAlike_encode line).dropFinal
  simp only [lines, hintake, Intake.finish, Lines.ofText]
  rcases Lines.cut (· == '\n') text with ⟨done, rest⟩
  cases rest with
  | nil => simpa [Utf8.encode] using hended done
  | cons c rest =>
      -- The unfinished line has its carriage return still, in bytes and in characters.
      have hbytes : (Utf8.encode (c :: rest)).isEmpty = false := by
        rcases Utf8.encodeChar_concat c with ⟨init, last, hlast, -⟩
        simp [Utf8.encode_cons, hlast]
      have hlast : List.Forall₂ Batch.ReadAlike [Utf8.encode (c :: rest)] [c :: rest] :=
        .cons (Batch.readAlike_encode _) .nil
      simpa [hbytes] using List.rel_append (hended done) hlast

/-- A text is read alike from memory and from a source, however its bytes are shared out among chunks. -/
theorem Batch.ofSource_eq_ofText (text : String) (chunks : List (List UInt8))
    (hbytes : chunks.flatten = text.toUTF8.data.toList) :
    Batch.ofSource { chunks } = .ok (Batch.ofText text) := by
  have hencoded : chunks.flatten = Utf8.encode text.toList := by
    rw [hbytes, Utf8.encode_toList]
  have hlines : ofCompleteLines { chunks } = ofText text :=
    ofLines_congr (Source.lines_alike hencoded) 1
  simp [ofSource, hlines]

/-- A character in two chunks, a blank line, a bad line, and a carriage return that no line feed follows. -/
theorem Batch.ofSource_eq_ofText_brokenOff :
    let text := "sys:os:\u00E9\r\n\r\nbad\nenv:A:b\r"
    let chunks : List (List UInt8) :=
      [[0x73, 0x79, 0x73, 0x3A, 0x6F, 0x73, 0x3A, 0xC3], [0xA9, 0x0D],
        [0x0A, 0x0D, 0x0A, 0x62, 0x61, 0x64, 0x0A, 0x65, 0x6E, 0x76, 0x3A, 0x41, 0x3A, 0x62, 0x0D]]
    chunks.flatten = text.toUTF8.data.toList ∧
      Batch.ofSource { chunks } = .ok (Batch.ofText text) ∧
      (Batch.ofText text).definitions.map (·.line) = [1, 4] ∧
      (Batch.ofText text).errors = [.tooFewFields 3 1] := by
  intro text chunks
  have hbytes : chunks.flatten = text.toUTF8.data.toList := by decide
  exact ⟨hbytes, Batch.ofSource_eq_ofText text chunks hbytes, by decide +kernel, by decide +kernel⟩

end HealthRules
