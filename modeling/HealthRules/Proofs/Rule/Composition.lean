import HealthRules.Proofs.Rule.ByteLines

/-!
# Composition — rule texts put together

Two inputs with a line feed between them are read as each of them alone, except that the lines of the second
one come after those of the first. A line that is no text is an error of its own, and takes its place like
any other line. Only a failure of the source reaches beyond its line: it takes everything with it.

* `Batch.shift`, a batch some lines later, and `++`, a batch after a batch;
* `Batch.ofNumbered_shift` and `Batch.numberedLines_joined`, for the lines of two inputs;
* `Batch.ofNumbered_notUtf8` and `Batch.mem_numbers`, for one line and its neighbours;
* `Batch.ofReads`, reading in turn until the source ends or fails, and `Batch.ofReads_reads`: it is the batch
  of the source;
* `Batch.ofSource_composes`, all of it for any bytes.
-/

namespace HealthRules

/-! ## Batches some lines later -/

/-- The same definition `k` lines later. -/
def Definition.shift (k : Nat) (d : Definition) : Definition := d.atLine (d.line + k)

/-- The same error `k` lines later, unless it is about the whole input. -/
def ParseError.shift (k : Nat) (e : ParseError) : ParseError :=
  match e.line? with
  | some n => e.atLine (n + k)
  | none => e

namespace Batch

/-- The same batch `k` lines later. -/
def shift (k : Nat) (b : Batch) : Batch :=
  ⟨b.definitions.map (.shift k), b.errors.map (.shift k)⟩

/-- One batch after another. -/
instance : Append Batch := ⟨fun b b' => ⟨b.definitions ++ b'.definitions, b.errors ++ b'.errors⟩⟩

theorem append_def (b b' : Batch) :
    b ++ b' = ⟨b.definitions ++ b'.definitions, b.errors ++ b'.errors⟩ := rfl

theorem empty_append (b : Batch) : empty ++ b = b := rfl

theorem append_empty (b : Batch) : b ++ empty = b := by
  simp [append_def, empty]

theorem append_assoc (a b c : Batch) : a ++ b ++ c = a ++ (b ++ c) := by
  simp [append_def]

/-- The lines that a batch is about. -/
def numbers (b : Batch) : List Nat := b.definitions.map (·.line) ++ b.errors.filterMap (·.line?)

variable {m k : Nat} {r : Except ParseError (Option Definition)}

theorem definition?_renumber (hr : Numbered m r) :
    definition? (Line.renumber (m + k) r) = (definition? r).map (.shift k) := by
  cases r with
  | error e => rfl
  | ok found =>
      cases found with
      | none => rfl
      | some d =>
          have hline : d.line = m := hr
          simp [Line.renumber, definition?, Definition.shift, hline]

theorem error?_renumber (hr : Numbered m r) :
    error? (Line.renumber (m + k) r) = (error? r).map (.shift k) := by
  cases r with
  | ok found => rfl
  | error e =>
      have hline : e.line? = some m := hr
      simp [Line.renumber, error?, ParseError.shift, hline]

/-- Reading a line of bytes under another number. -/
theorem parseBytes_renumber (m n : Nat) (bytes : List UInt8) :
    Line.renumber n (parseBytes m bytes) = parseBytes n bytes := by
  rw [parseBytes_eq, parseBytes_eq]
  cases Utf8.decode? bytes with
  | none => rfl
  | some text => exact Line.parse_renumber m n text

/-! ## Lines of two inputs -/

theorem ofNumbered_append (ls ls' : List (List UInt8 × Nat)) :
    ofNumbered (ls ++ ls') = ofNumbered ls ++ ofNumbered ls' := by
  simp [ofNumbered, append_def]

/-- Lines with greater numbers make the same batch later. -/
theorem ofNumbered_shift (k : Nat) (ls : List (List UInt8 × Nat)) :
    ofNumbered (ls.map (Prod.map id (· + k))) = (ofNumbered ls).shift k := by
  have hnumbered (l : List UInt8 × Nat) : Numbered l.2 (parseBytes l.2 l.1) :=
    parseBytes_numbered l.2 l.1
  have hdefinition (l : List UInt8 × Nat) : definition? (parseBytes (l.2 + k) l.1) =
      (definition? (parseBytes l.2 l.1)).map (.shift k) := by
    rw [← parseBytes_renumber l.2, definition?_renumber (hnumbered l)]
  have herror (l : List UInt8 × Nat) : error? (parseBytes (l.2 + k) l.1) =
      (error? (parseBytes l.2 l.1)).map (.shift k) := by
    rw [← parseBytes_renumber l.2, error?_renumber (hnumbered l)]
  simp [ofNumbered, shift, List.filterMap_map, List.map_filterMap, hdefinition, herror]

/-- The second input starts on the line after the last line of the first one. -/
theorem numberedLines_joined (bytes bytes' : List UInt8) :
    numberedLines (bytes ++ 0x0A :: bytes') =
      numberedLines bytes ++
        (numberedLines bytes').map (Prod.map id (· + (bytes.count 0x0A + 1))) := by
  rw [numberedLines, Lines.splitOn_append_cons, List.zipIdx_append, Lines.length_splitOn,
    numberedLines, numberedLines, List.map_snd_add_zipIdx_eq_zipIdx, Nat.add_comm 1]

/-! ## One line and its neighbours -/

theorem ofNumbered_notUtf8 {line : List UInt8} (h : ¬ ∃ text, Utf8.encode text = line) (n : Nat) :
    ofNumbered [(line, n)] = ⟨[], [.notUtf8 n]⟩ := by
  have hdecode : Utf8.decode? line = none := by
    apply Option.eq_none_iff_forall_ne_some.2
    intro text htext
    exact h ⟨text, Utf8.decode?_eq_some_iff.1 htext⟩
  have hline : parseBytes n line = .error (.notUtf8 n) := by rw [parseBytes_eq, hdecode]
  simp [ofNumbered, hline, definition?, error?]

/-- An empty line contributes nothing. -/
theorem ofNumbered_blank (n : Nat) : ofNumbered [([], n)] = empty := rfl

theorem ofNumbered_zipIdx (before after : List (List UInt8)) (line : List UInt8) :
    ofNumbered ((before ++ line :: after).zipIdx 1) =
      ofNumbered (before.zipIdx 1) ++ ofNumbered [(line, before.length + 1)] ++
        ofNumbered (after.zipIdx (before.length + 2)) := by
  rw [List.zipIdx_append, List.zipIdx_cons, ← List.singleton_append, ofNumbered_append,
    ofNumbered_append, ← append_assoc, Nat.add_comm 1]

/-- A batch is about lines that were read. -/
theorem mem_numbers {ls : List (List UInt8 × Nat)} {n : Nat} (h : n ∈ (ofNumbered ls).numbers) :
    ∃ l ∈ ls, l.2 = n := by
  rw [numbers, ofNumbered_errors, ofNumbered_definitions, List.mem_append] at h
  rcases h with h | h
  · rcases List.mem_map.1 h with ⟨l, hl, hn⟩
    exact ⟨l, List.mem_of_mem_filter hl, hn⟩
  · rcases List.mem_map.1 h with ⟨l, hl, hn⟩
    exact ⟨l, List.mem_of_mem_filter hl, hn⟩

theorem mem_numbers_zipIdx {ls : List (List UInt8)} {first n : Nat}
    (h : n ∈ (ofNumbered (ls.zipIdx first)).numbers) : first ≤ n ∧ n < first + ls.length := by
  rcases mem_numbers h with ⟨l, hl, rfl⟩
  exact ⟨List.le_snd_of_mem_zipIdx hl, List.snd_lt_add_of_mem_zipIdx hl⟩

theorem not_isFatal {ls : List (List UInt8 × Nat)} {e : ParseError}
    (he : e ∈ (ofNumbered ls).errors) : e.isFatal = false := by
  rcases exists_line_of_error he with ⟨l, -, hl⟩
  have hnumbered : Numbered l.2 (parseBytes l.2 l.1) := parseBytes_numbered l.2 l.1
  rw [hl] at hnumbered
  cases e with
  | unreadable reason => cases hnumbered
  | _ => rfl

end Batch

/-! ## Reading in turn -/

/-- What a source hands over: the lines that it completes, and then its failure if it fails. -/
def Source.reads (s : Source) : List (Except String (List UInt8)) :=
  s.lines.map .ok ++ (s.failure.map .error).toList

namespace Batch

/-- Add one line after another to what was read before line `first`, until the source ends or fails. -/
def ofReads (first : Nat) (b : Batch) : List (Except String (List UInt8)) → Except ParseError Batch
  | [] => .ok b
  | .ok line :: reads => ofReads (first + 1) (b ++ ofNumbered [(line, first)]) reads
  | .error reason :: _ => .error (.unreadable reason)

theorem ofReads_append (lines : List (List UInt8)) (reads : List (Except String (List UInt8)))
    (first : Nat) (b : Batch) :
    ofReads first b (lines.map .ok ++ reads) =
      ofReads (first + lines.length) (b ++ ofNumbered (lines.zipIdx first)) reads := by
  induction lines generalizing first b with
  | nil =>
      have hnone : ofNumbered [] = empty := rfl
      rw [List.zipIdx_nil, hnone, append_empty]
      rfl
  | cons line lines ih =>
      have hline : ofNumbered ((line, first) :: lines.zipIdx (first + 1)) =
          ofNumbered [(line, first)] ++ ofNumbered (lines.zipIdx (first + 1)) :=
        ofNumbered_append [(line, first)] _
      rw [List.map_cons, List.cons_append, ofReads, ih, List.zipIdx_cons, hline, append_assoc,
        List.length_cons, Nat.add_assoc, Nat.add_comm 1]

/-- Reading in turn gives the batch of the source: when it fails, what the lines before gave is dropped. -/
theorem ofReads_reads (s : Source) : ofReads 1 empty s.reads = ofSource s := by
  rcases s with ⟨chunks, failure⟩
  rw [Source.reads, ofReads_append, empty_append]
  cases failure with
  | some reason => rfl
  | none =>
      rw [ofSource, ofCompleteLines, ofLines_eq]
      rfl

/-! ## Any bytes -/

theorem ofSource_eq (chunks : List (List UInt8)) :
    ofSource { chunks } = .ok (ofNumbered (numberedLines chunks.flatten)) := by
  rw [ofSource, ofCompleteLines_eq]

/-- Both sides of a line feed are read by themselves. A line that is no text costs itself alone, and a source that fails
gives nothing but a fatal error. -/
theorem ofSource_composes (chunks : List (List UInt8)) :
    (∀ before after : List (List UInt8), chunks.flatten = before.flatten ++ 0x0A :: after.flatten →
      ∃ a b, ofSource { chunks := before } = .ok a ∧ ofSource { chunks := after } = .ok b ∧
        ofSource { chunks } = .ok (a ++ b.shift (before.flatten.count 0x0A + 1))) ∧
    (∀ (before after : List (List UInt8)) (line : List UInt8),
      chunks.flatten.splitOn 0x0A = before ++ line :: after →
      (¬ ∃ text, Utf8.encode text = line) →
      ∃ earlier later : Batch,
        (∀ n ∈ earlier.numbers, n ≤ before.length) ∧
        (∀ n ∈ later.numbers, before.length + 1 < n) ∧
        ofSource { chunks } = .ok (earlier ++ ⟨[], [.notUtf8 (before.length + 1)]⟩ ++ later) ∧
        ofSource (.ofBytes ([0x0A].intercalate (before ++ [] :: after))) = .ok (earlier ++ later)) ∧
    (∃ b, ofSource { chunks } = .ok b ∧ ∀ e ∈ b.errors, e.isFatal = false) ∧
    ∀ reason, ofSource { chunks, failure := some reason } = .error (.unreadable reason) ∧
      ofReads 1 empty (Source.reads { chunks, failure := some reason }) =
        .error (.unreadable reason) ∧
      (ParseError.unreadable reason).isFatal = true := by
  refine ⟨?joined, ?line, ?whole, ?failed⟩
  case joined =>
    intro before after hbytes
    refine ⟨_, _, ofSource_eq before, ofSource_eq after, ?_⟩
    rw [ofSource_eq, hbytes, numberedLines_joined, ofNumbered_append, ofNumbered_shift]
  case line =>
    intro before after line hlines hline
    refine ⟨ofNumbered (before.zipIdx 1), ofNumbered (after.zipIdx (before.length + 2)), ?_, ?_, ?_, ?_⟩
    · intro n hn
      have hbounds := mem_numbers_zipIdx hn
      omega
    · intro n hn
      have hbounds := mem_numbers_zipIdx hn
      omega
    · rw [ofSource_eq, numberedLines, hlines, ofNumbered_zipIdx, ofNumbered_notUtf8 hline]
    · -- The other lines have no line feeds, so that the bytes are cut where they were joined.
      have hpieces : ∀ piece ∈ before ++ [] :: after, (0x0A : UInt8) ∉ piece := by
        intro piece hpiece
        have hmem : piece = [] ∨ piece ∈ chunks.flatten.splitOn 0x0A := by
          rw [hlines]
          simp only [List.mem_append, List.mem_cons] at hpiece ⊢
          tauto
        rcases hmem with rfl | hmem
        · exact List.not_mem_nil
        · exact Lines.not_mem_of_mem_splitOn hmem
      have hcut : ([0x0A].intercalate (before ++ [] :: after)).splitOn (0x0A : UInt8) =
          before ++ [] :: after := List.splitOn_intercalate 0x0A hpieces (by simp)
      rw [Source.ofBytes, ofSource_eq, List.flatten_singleton, numberedLines, hcut, ofNumbered_zipIdx,
        ofNumbered_blank, append_empty]
  case whole =>
    exact ⟨_, ofSource_eq chunks, fun e he => not_isFatal he⟩
  case failed =>
    intro reason
    exact ⟨rfl, ofReads_reads _, rfl⟩

/-- A definition before a carriage return, a comment that is no text, and a line of too few fields. -/
theorem ofSource_composes_comment :
    let first : List UInt8 := [0x61, 0x3A, 0x62, 0x3A, 0x63, 0x0D]
    let second : List UInt8 := [0x23, 0xFF]
    let third : List UInt8 := [0x78]
    let chunks : List (List UInt8) := [first, 0x0A :: second, 0x0A :: third]
    chunks.flatten = [first].flatten ++ 0x0A :: [second ++ 0x0A :: third].flatten ∧
      chunks.flatten.splitOn 0x0A = [first] ++ second :: [third] ∧
      (¬ ∃ text, Utf8.encode text = second) ∧
      (∃ a b, ofSource { chunks := [first] } = .ok a ∧
        ofSource { chunks := [second ++ 0x0A :: third] } = .ok b ∧
        ofSource { chunks } = .ok (a ++ b.shift 1)) ∧
      (∃ earlier later : Batch, (∀ n ∈ earlier.numbers, n ≤ 1) ∧ (∀ n ∈ later.numbers, 2 < n) ∧
        ofSource { chunks } = .ok (earlier ++ ⟨[], [.notUtf8 2]⟩ ++ later) ∧
        ofSource (.ofBytes (first ++ [0x0A, 0x0A] ++ third)) = .ok (earlier ++ later)) ∧
      (ofCompleteLines { chunks }).definitions.map (·.line) = [1] ∧
      (ofCompleteLines { chunks }).errors = [.notUtf8 2, .tooFewFields 3 1] := by
  intro first second third chunks
  have hbytes : chunks.flatten = [first].flatten ++ 0x0A :: [second ++ 0x0A :: third].flatten := rfl
  have hlines : chunks.flatten.splitOn 0x0A = [first] ++ second :: [third] := by decide
  have hsecond : ¬ ∃ text, Utf8.encode text = second := by
    rintro ⟨text, htext⟩
    cases Utf8.decode?_eq_some_iff.2 htext
  have hall := ofSource_composes chunks
  exact ⟨hbytes, hlines, hsecond, hall.1 _ _ hbytes, hall.2.1 _ _ _ hlines hsecond, by decide, by decide⟩

end Batch

end HealthRules
