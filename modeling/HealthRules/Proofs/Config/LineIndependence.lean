import HealthRules.Proofs.Config.Registration
import HealthRules.Proofs.Rule.Batches
import HealthRules.Proofs.Rule.Fields
import HealthRules.Proofs.Text.LineBreaks

/-!
# LineIndependence — each line of a rule text is on its own

The lines of a rule text share an engine, a registry and the patterns that evaluators remember, and still
every line comes out as it would alone: a line that is malformed, that no builder takes or that cannot be
decided changes nothing for the others.

* `evaluateDefinitions_settles`, building and evaluating as maps;
* `Config.lineOutcome?`, what becomes of a single line, by its text alone;
* `Config.evaluateText_eq` and `Config.evaluateText_lines`: evaluating joined texts joins the outcomes.
-/

namespace HealthRules

/-! ## Definitions one by one -/

/-- A builder that leaves the registry alone does not look at line numbers. -/
theorem Builder.rule?_atLine (facts : Facts) (n : Nat) (d : Definition) (b : Builder) :
    b.rule? facts (d.atLine n) = b.rule? facts d := by
  cases b <;> rfl

namespace Config

variable (c : Config) (s : Surroundings)

/-- The outcome of the rule that a definition makes, if it makes one. -/
def definitionOutcome? (d : Definition) : Option (Outcome Attribute) :=
  let A := quietAnswers (c.registry 0) s
  (A.firstRule? (c.registry 0).builders d).map fun made =>
    A.outcome c.settings.unreadableIsError (c.registry 0).evaluators made.2

theorem definitionOutcome?_atLine (n : Nat) (d : Definition) :
    c.definitionOutcome? s (d.atLine n) = c.definitionOutcome? s d := by
  unfold definitionOutcome? Answers.firstRule? quietAnswers
  simp only [Builder.rule?_atLine]

theorem evaluateDefinitions_settles (ds : List Definition) :
    let A := quietAnswers (c.registry 0) s
    let outcomes := ds.map (A.built (c.registry 0).builders)
    Settles (c.registry 0) s.Recalls (c.evaluateDefinitions ds)
      (BuildOutcome.failures outcomes, (BuildOutcome.rules outcomes).map
        (A.outcome c.settings.unreadableIsError (c.registry 0).evaluators)) := by
  have hquiet := c.registry_isQuiet 0
  intro A outcomes
  have hbuild := (builders_steady (s := s) hquiet.builders).addRules_run c.newEngine ds
  have hevaluate := (evaluators_steady (s := s) hquiet.evaluators).evaluate_run
    { c.newEngine with rules := c.newEngine.rules ++ BuildOutcome.rules outcomes }
  refine Settles.bind hbuild ?_
  exact hevaluate.bind (Settles.pure _)

/-- The two maps over a batch, of building and of evaluating, are one. -/
theorem definitionOutcome?_eq (ds : List Definition) :
    let A := quietAnswers (c.registry 0) s
    (BuildOutcome.rules (ds.map (A.built (c.registry 0).builders))).map
        (A.outcome c.settings.unreadableIsError (c.registry 0).evaluators) =
      ds.filterMap (c.definitionOutcome? s) := by
  intro A
  rw [BuildOutcome.rules, List.filterMap_map, List.map_filterMap]
  apply List.filterMap_congr
  intro d _
  simp only [Function.comp, Answers.built, definitionOutcome?]
  cases A.firstRule? (c.registry 0).builders d with
  | none => rfl
  | some made => rfl

/-! ## Lines one by one -/

/-- What becomes of a line. -/
def lineOutcome? (line : List Char) : Option (Outcome Attribute) :=
  (Batch.definition? (Line.parse 0 line)).bind (c.definitionOutcome? s)

/-- Its number does not matter for what becomes of a line. -/
theorem lineOutcome?_eq (n : Nat) (line : List Char) :
    (Batch.definition? (Line.parse n line)).bind (c.definitionOutcome? s) =
      c.lineOutcome? s line := by
  -- Another number changes the definition in its line alone, and no builder looks at that.
  rw [lineOutcome?, ← Line.parse_renumber 0 n]
  cases Line.parse 0 line with
  | error e => rfl
  | ok d =>
      cases d with
      | none => rfl
      | some d => exact c.definitionOutcome?_atLine s n d

theorem lineOutcome?_dropFinal (line : List Char) :
    c.lineOutcome? s (Lines.dropFinal '\r' line) = c.lineOutcome? s line := by
  unfold lineOutcome?
  rw [Line.parse_congr (Blank.trim_dropFinal line)]

theorem definitions_outcomes (text : String) :
    (Batch.ofText text).definitions.filterMap (c.definitionOutcome? s) =
      (Lines.ofText text.toList).filterMap (c.lineOutcome? s) := by
  rw [Batch.ofText, Batch.ofLines_eq, List.filterMap_filterMap]
  simp only [lineOutcome?_eq]
  conv_rhs => rw [← List.zipIdx_map_fst 1 (Lines.ofText text.toList), List.filterMap_map]
  rfl

/-- Reading, building and evaluating, once the providers are registered. -/
theorem evaluateRead_settles (text : String) :
    Settles (c.registry 0) s.Recalls (do
      let batch ← Host.readText text
      return (← c.evaluateDefinitions batch.definitions).2)
      ((Batch.ofText text).definitions.filterMap (c.definitionOutcome? s)) := by
  -- What reading tells changes neither the registry nor the surroundings.
  have hread : Settles (c.registry 0) s.Recalls (Host.readText text) (Batch.ofText text) :=
    fun _ hs => ⟨rfl, hs.of_alike ⟨rfl, rfl⟩⟩
  have hevaluate := c.evaluateDefinitions_settles s (Batch.ofText text).definitions
  rw [← definitionOutcome?_eq]
  refine Settles.bind hread ?_
  exact hevaluate.bind (Settles.pure _)

/-- The outcomes of a text are those of its lines. -/
theorem evaluateText_eq (hs : s.caches = []) (text : String) :
    ((c.evaluateText text).run (Host.start s)).1 =
      (text.toList.splitOn '\n').filterMap (c.lineOutcome? s) := by
  rcases c.register_run (h := Host.start s) rfl with ⟨hregistry, hsurroundings⟩
  have hrecalls : s.Recalls ((c.register).run (Host.start s)).2.surroundings := by
    rw [hsurroundings]
    exact Surroundings.Recalls.refl s hs
  have hrest := c.evaluateRead_settles s text _ ⟨hregistry, hrecalls⟩
  rw [evaluateText, HostM.run_bind, hrest.1]
  calc
    (Batch.ofText text).definitions.filterMap (c.definitionOutcome? s)
        = (Lines.ofText text.toList).filterMap (c.lineOutcome? s) := c.definitions_outcomes s text
    _ = (text.toList.splitOn '\n').filterMap (c.lineOutcome? s) :=
          Lines.filterMap_ofText (c.lineOutcome?_dropFinal s) rfl text.toList

/-- Evaluating texts with line feeds between them joins their outcomes: every line has an outcome or none, whatever
the others are. -/
theorem evaluateText_lines (environment : Environment) (facts : Facts) :
    let evaluate (text : String) :=
      ((c.evaluateText text).run (Host.start { environment, facts })).1
    (∀ a b, evaluate (a ++ "\n" ++ b) = evaluate a ++ evaluate b) ∧
      (∀ texts, evaluate ("\n".intercalate texts) = texts.flatMap evaluate) ∧
      ∀ text, evaluate text =
        (text.toList.splitOn '\n').filterMap (c.lineOutcome? { environment, facts }) := by
  intro evaluate
  have hlines : ∀ text, evaluate text =
      (text.toList.splitOn '\n').filterMap (c.lineOutcome? { environment, facts }) :=
    c.evaluateText_eq { environment, facts } rfl
  have happend : ∀ a b, evaluate (a ++ "\n" ++ b) = evaluate a ++ evaluate b := by
    intro a b
    have htext : (a ++ "\n" ++ b).toList = a.toList ++ '\n' :: b.toList := by simp
    rw [hlines, hlines, hlines, htext, List.splitOn_append_cons_self, List.filterMap_append]
  refine ⟨happend, ?_, hlines⟩
  intro texts
  induction texts with
  | nil =>
      rw [String.intercalate_nil, hlines]
      rfl
  | cons text rest ih =>
      cases rest with
      | nil => simp
      | cons next rest =>
          rw [String.intercalate_cons_cons, happend, ih]
          rfl

end Config

end HealthRules
