import HealthRules.Engine.Reading
import HealthRules.Proofs.Engine.Judging
import HealthRules.Proofs.Engine.Passes
import HealthRules.Proofs.Rule.ByteLines

/-!
# Accounting — where each line of a rule text goes

Between a line and the outcome of its rule stand reading, building and evaluating, and each of the first two
may reject it. Every line that is not skipped leaves exactly one trace: an error, a build failure or an
outcome, and traces of each kind come in the order of the lines.

* `split_outcomes`, how a pass of building shares out its definitions;
* `Account` and `readSource_accounts`, for bytes that are read, built and evaluated.
-/

namespace HealthRules

variable {β ε α σ : Type}

/-! ## Definitions and their outcomes -/

/-- A pass of building shares out its definitions between rules and failures, and keeps their order. -/
theorem split_outcomes {Becomes : Definition → BuildOutcome α → Prop}
    {ds : List Definition} {outcomes : List (BuildOutcome α)} (h : List.Forall₂ Becomes ds outcomes) :
    ∃ built declined, built.Sublist ds ∧ declined.Sublist ds ∧ (declined ++ built).Perm ds ∧
      List.Forall₂ (fun d r => Becomes d (.ok r)) built (BuildOutcome.rules outcomes) ∧
      List.Forall₂ (fun d e => Becomes d (.error e)) declined (BuildOutcome.failures outcomes) := by
  induction h with
  | nil => exact ⟨[], [], .refl _, .refl _, .refl _, .nil, .nil⟩
  | @cons d outcome ds outcomes hd _ ih =>
      rcases ih with ⟨built, declined, hbuilt, hdeclined, hperm, hrules, hfailures⟩
      -- The new definition goes to the front of one of the two lists, and the other stays.
      cases outcome with
      | ok r =>
          exact ⟨d :: built, declined, hbuilt.cons_cons d, hdeclined.cons d,
            List.perm_middle.trans (hperm.cons d), .cons hd hrules, hfailures⟩
      | error e =>
          exact ⟨built, d :: declined, hbuilt.cons d, hdeclined.cons_cons d, hperm.cons d, hrules,
            .cons hd hfailures⟩

/-! ## The account -/

/-- Where the lines of a rule text have gone, when the definitions among them have been given to builders and
their rules have been evaluated. `built` are the definitions that became rules. -/
structure Account (B : Behaviour β ε α σ) (builders : List (Entry β)) (bytes : List UInt8)
    (errors : List ParseError) (failures : List BuildError) (built : List Definition)
    (rules : List (Rule α)) (results : List (Outcome α)) : Prop where
  /-- An error is the error of a line. -/
  refused : ∀ e ∈ errors, ∃ line ∈ Batch.numberedLines bytes,
    Batch.parseBytes line.2 line.1 = .error e
  /-- A failure is about the definition of a line, and the builders made no rule of it. -/
  declined : ∀ e ∈ failures, ∃ line ∈ Batch.numberedLines bytes, ∃ d calls,
    Batch.parseBytes line.2 line.1 = .ok (some d) ∧ e = .ofDefinition d ∧
      Resolved B builders d calls (.error e)
  /-- The rules are those that the builders made of the definitions, one each and in order. -/
  made : List.Forall₂ (fun d r =>
    (∃ line ∈ Batch.numberedLines bytes, Batch.parseBytes line.2 line.1 = .ok (some d)) ∧
      ∃ calls, Resolved B builders d calls (.ok r)) built rules
  /-- The results are those of the rules, one each and in order. -/
  evaluated : results.map (·.rule) = rules
  errors_increasing : (errors.filterMap (·.line?)).Pairwise (· < ·)
  failures_increasing : (failures.map (·.line)).Pairwise (· < ·)
  built_increasing : (built.map (·.line)).Pairwise (· < ·)
  /-- The numbers of the lines that are not skipped, each of them once. -/
  once : (errors.filterMap (·.line?) ++ failures.map (·.line) ++ built.map (·.line)).Perm
    (((Batch.numberedLines bytes).filter fun l => ¬ Batch.Skipped l.1).map (·.2))
  total : errors.length + failures.length + results.length =
    ((Batch.numberedLines bytes).filter fun l => ¬ Batch.Skipped l.1).length

theorem exists_of_mem_right {γ δ : Type} {R : γ → δ → Prop} {cs : List γ} {ds : List δ}
    (h : List.Forall₂ R cs ds) {d : δ} (hd : d ∈ ds) : ∃ c ∈ cs, R c d := by
  induction h with
  | nil => cases hd
  | @cons c d' cs ds hc _ ih =>
      rcases List.mem_cons.1 hd with rfl | hd
      · exact ⟨c, List.mem_cons_self, hc⟩
      · rcases ih hd with ⟨c', hc', hr⟩
        exact ⟨c', List.mem_cons_of_mem c hc', hr⟩

/-- The outcomes of a pass of building and the results of the rules that it made settle an account. -/
theorem account_of_outcomes (B : Behaviour β ε α σ) (builders : List (Entry β)) (bytes : List UInt8)
    {outcomes : List (BuildOutcome α)} {results : List (Outcome α)}
    (houtcomes : List.Forall₂ (fun d o => ∃ calls, Resolved B builders d calls o)
      (Batch.ofNumbered (Batch.numberedLines bytes)).definitions outcomes)
    (hresults : results.map (·.rule) = BuildOutcome.rules outcomes) :
    ∃ built, Account B builders bytes (Batch.ofNumbered (Batch.numberedLines bytes)).errors
      (BuildOutcome.failures outcomes) built (BuildOutcome.rules outcomes) results := by
  rcases split_outcomes houtcomes with ⟨built, declined, hbuilt, hdeclined, hperm, hrules, hfailures⟩
  have hfailed : ∀ d e, (∃ calls, Resolved B builders d calls (.error e)) → e = .ofDefinition d := by
    rintro d e ⟨calls, hresolved⟩
    cases hresolved
    rfl
  -- A failure has the line of the definition that it is about.
  have hlines : (BuildOutcome.failures outcomes).map (·.line) = declined.map (·.line) := by
    have hlines' : List.Forall₂ (· = ·) (declined.map (·.line))
        ((BuildOutcome.failures outcomes).map (·.line)) := by
      rw [List.forall₂_map_left_iff, List.forall₂_map_right_iff]
      exact hfailures.imp fun d e he => by rw [hfailed d e he, BuildError.ofDefinition]
    rw [List.forall₂_eq_eq_eq] at hlines'
    exact hlines'.symm
  have hincreasing := Batch.numberedLines_increasing bytes
  have hdefinitions : ((Batch.ofNumbered (Batch.numberedLines bytes)).definitions.map
      (·.line)).Pairwise (· < ·) := by
    rw [Batch.ofNumbered_definitions]
    exact hincreasing.sublist (List.filter_sublist.map _)
  have honce : ((Batch.ofNumbered (Batch.numberedLines bytes)).errors.filterMap (·.line?) ++
      (BuildOutcome.failures outcomes).map (·.line) ++ built.map (·.line)).Perm
        (((Batch.numberedLines bytes).filter fun l => ¬ Batch.Skipped l.1).map (·.2)) := by
    rw [hlines, List.append_assoc, ← List.map_append]
    exact ((hperm.map (·.line)).append_left _).trans (Batch.ofNumbered_perm _)
  refine ⟨built, {
    refused := fun e he => Batch.exists_line_of_error he
    declined := ?declined
    made := ?made
    evaluated := hresults
    errors_increasing := ?errors_increasing
    failures_increasing := ?failures_increasing
    built_increasing := hdefinitions.sublist (hbuilt.map _)
    once := honce
    total := ?total }⟩
  case declined =>
      intro e he
      rcases exists_of_mem_right hfailures he with ⟨d, hd, calls, hresolved⟩
      rcases Batch.exists_line_of_definition (hdeclined.subset hd) with ⟨line, hline, hparse⟩
      exact ⟨line, hline, d, calls, hparse, hfailed d e ⟨calls, hresolved⟩, hresolved⟩
  case made =>
      refine (List.forall₂_and_left _ _).2 ⟨?_, hrules⟩
      intro d hd
      exact Batch.exists_line_of_definition (hbuilt.subset hd)
  case errors_increasing =>
      rw [Batch.ofNumbered_errors]
      exact hincreasing.sublist (List.filter_sublist.map _)
  case failures_increasing =>
      rw [hlines]
      exact hdefinitions.sublist (hdeclined.map _)
  case total =>
      -- Count both sides of the permutation; rules and results are as many as the built definitions.
      have hlength := honce.length_eq
      have herrors := Batch.length_errors (Batch.numberedLines bytes)
      have hbuiltLength := hrules.length_eq
      have hresultsLength := congrArg List.length hresults
      simp only [List.length_append, List.length_map] at hlength hresultsLength
      omega

variable [Named β] [Named ε] [Named α]

/-- Bytes that are read, built and evaluated are accounted for line by line, whatever the providers do. -/
theorem readSource_accounts (B : Behaviour β ε α σ) (unreadableIsError : Bool)
    (chunks : List (List UInt8)) (h : Host β ε σ) :
    ∃ batch h', (Host.readSource { chunks }).run h = (.ok batch, h') ∧
      let building := (({ unreadableIsError } : Engine α).addRules B batch.definitions).run h'
      let results := ((building.1.1.evaluate B).run building.2).1
      ∃ built, Account B h.registry.builders chunks.flatten batch.errors building.1.2 built
        building.1.1.rules results := by
  have hread : ((Host.readSource { chunks }).run h).1 = .ok (Batch.ofCompleteLines { chunks }) := rfl
  refine ⟨_, ((Host.readSource { chunks }).run h).2, Prod.ext hread rfl, ?_⟩
  rw [Batch.ofCompleteLines_eq]
  intro building results
  -- Reading only tells, so that the builders of the pass are those of the host at the start.
  have hbuilders : ((Host.readSource { chunks }).run h).2.registry = h.registry := rfl
  rcases addRules_pass B ({ unreadableIsError } : Engine α)
      (Batch.ofNumbered (Batch.numberedLines chunks.flatten)).definitions
      ((Host.readSource { chunks }).run h).2 with ⟨items, hitems, hbuilding, -⟩
  rw [hbuilders] at hitems
  have houtcomes : List.Forall₂ (fun d o => ∃ calls, Resolved B h.registry.builders d calls o)
      (Batch.ofNumbered (Batch.numberedLines chunks.flatten)).definitions
      (items.map (·.outcome)) :=
    List.forall₂_map_right_iff.2 (hitems.imp fun _ i hi => ⟨i.calls, hi⟩)
  have hresults : results.map (·.rule) = BuildOutcome.rules (items.map (·.outcome)) := by
    rw [evaluate_rules, hbuilding]
    rfl
  rw [hbuilding]
  exact account_of_outcomes B h.registry.builders chunks.flatten houtcomes hresults

end HealthRules
