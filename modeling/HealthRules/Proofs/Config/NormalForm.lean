import HealthRules.Proofs.Config.Confinement
import HealthRules.Proofs.Rule.Rendering

/-!
# NormalForm — the definitions of a rule text, written again

What a rule text comes to are its definitions. Written again, one a line, they make a text that has nothing else
in it: it is read without errors, it is not changed by writing it once more, and evaluating it gives what
evaluating the definitions gives.

* `evaluateText_definitions` and `outcomesIn_definitions`: both ways of evaluating, definition by definition;
* `Config.evaluateText_renderAll`: the normal form of whatever has been read.
-/

namespace HealthRules.Config

variable (c : Config) {s : Surroundings}

/-- A text is evaluated by its definitions. -/
theorem evaluateText_definitions (hs : s.caches = []) (text : String) :
    ((c.evaluateText text).run (Host.start s)).1 =
      (Batch.ofText text).definitions.filterMap (c.definitionOutcome? s) := by
  rw [c.definitions_outcomes s text, c.evaluateText_eq s hs text]
  exact (Lines.filterMap_ofText (c.lineOutcome?_dropFinal s) rfl text.toList).symm

/-- Definitions are evaluated one by one. -/
theorem outcomesIn_definitions (hs : s.caches = []) (ds : List Definition) :
    (c.outcomesIn ds s).2 = ds.filterMap (c.definitionOutcome? s) := by
  rw [c.outcomesIn_eq ds hs, ← definitionOutcome?_eq]

/-- Numbers of lines do not show in outcomes. -/
theorem filterMap_renumberAll (first : Nat) (ds : List Definition) :
    (Definition.renumberAll first ds).filterMap (c.definitionOutcome? s) =
      ds.filterMap (c.definitionOutcome? s) := by
  rw [Definition.renumberAll, List.filterMap_map]
  conv_rhs => rw [← List.zipIdx_map_fst first ds, List.filterMap_map]
  apply List.filterMap_congr
  intro d _
  exact c.definitionOutcome?_atLine s d.2 d.1

/-- Definitions that have been read can be written one a line: they are read again as they are, and have their outcomes.
-/
theorem evaluateText_renderAll {b : Batch}
    (hb : (∃ s, Batch.ofSource s = .ok b) ∨ ∃ text, b = Batch.ofText text) :
    let normal := Definition.renderAll b.definitions
    Batch.ofText normal = ⟨Definition.renumberAll 1 b.definitions, []⟩ ∧
      Definition.renderAll (Batch.ofText normal).definitions = normal ∧
      ∀ (c : Config) (environment : Environment) (facts : Facts),
        ((c.evaluateText normal).run (Host.start { environment, facts })).1 =
          (c.outcomesIn b.definitions { environment, facts }).2 := by
  intro normal
  have hread := Batch.ofText_renderAll (Batch.isLine_of_read hb)
  refine ⟨hread, ?_, ?_⟩
  · rw [hread]
    exact Definition.renderAll_renumberAll 1 b.definitions
  · intro c environment facts
    calc
      ((c.evaluateText normal).run (Host.start { environment, facts })).1
          = (Batch.ofText normal).definitions.filterMap
              (c.definitionOutcome? { environment, facts }) :=
            c.evaluateText_definitions rfl normal
      _ = b.definitions.filterMap (c.definitionOutcome? { environment, facts }) := by
            rw [hread, filterMap_renumberAll]
      _ = (c.outcomesIn b.definitions { environment, facts }).2 :=
            (c.outcomesIn_definitions rfl b.definitions).symm

/-- A comment, a line that is no text, carriage returns within a field and at ends, a line separator, an empty
qualifier and empty expressions. -/
theorem evaluateText_renderAll_mixed :
    let bytes := Utf8.encode "# os\r\n env:HOME:\u2028: a\rb \r\n\nbad\n".toList ++ [0x61, 0xFF, 0x0A] ++
      Utf8.encode "sys:os:\nsys : arch : == \u2028 1\r".toList
    let b := Batch.ofCompleteLines (.ofBytes bytes)
    let normal := "env:HOME::a\rb\nsys:os:\nsys:arch:== \u2028 1"
    let facts : Facts := { os := "linux", family := "unix", arch := "x86_64", cpus := .ok 4, pid := 1 }
    Batch.ofSource (.ofBytes bytes) = .ok b ∧ Definition.renderAll b.definitions = normal ∧
      b.definitions.map (·.line) = [2, 6, 7] ∧
      (Batch.ofText normal).definitions = Definition.renumberAll 1 b.definitions ∧
      ((standard.evaluateText normal).run (Host.start { environment := {}, facts })).1 =
        (standard.outcomesIn b.definitions { environment := {}, facts }).2 := by
  intro bytes b normal facts
  have hsource : Batch.ofSource (.ofBytes bytes) = .ok b := rfl
  have hnormal : Definition.renderAll b.definitions = normal := by decide +kernel
  have hall := evaluateText_renderAll (b := b) (.inl ⟨.ofBytes bytes, hsource⟩)
  rw [hnormal] at hall
  rcases hall with ⟨hread, -, houtcomes⟩
  have hdefinitions : (Batch.ofText normal).definitions = Definition.renumberAll 1 b.definitions := by
    rw [hread]
  exact ⟨hsource, hnormal, by decide +kernel, hdefinitions, houtcomes standard {} facts⟩

end HealthRules.Config
