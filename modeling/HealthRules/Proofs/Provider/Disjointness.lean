import HealthRules.Proofs.Provider.Answers
import HealthRules.Proofs.Text.Trimming
import HealthRules.Setup

/-!
# Disjointness — what only one provider of the library takes

Among the providers that a configuration can name, no two kinds contend for anything. A builder owns the
namespace that has its name, and a definition is in one namespace. A test for a pattern begins with a sign
that begins no comparison, however the two trim their expressions.

* `source_of_rule?` and `scope_of_build`: builders, their sources and their namespaces;
* `parse_eq_noOperator`: a sign of a pattern test is no operator;
* `accepts_disjoint`: comparisons and tests for patterns.
-/

namespace HealthRules

/-! ## Builders -/

/-- A builder that can be named only looks at facts. -/
theorem build_named {serial : Nat} {allow : List String} {name : String} {b : Builder}
    (hb : Builder.ofName? serial allow name = some b) (d : Definition) (h : ProviderHost) :
    ((b.build d).run h).1 = b.rule? h.surroundings.facts d := by
  unfold Builder.ofName? at hb
  split at hb <;> cases hb <;> rfl

/-- Builders that can be named bind a definition to a source under its own name, each to a source of its own kind. -/
theorem source_of_rule? {serial : Nat} {allow : List String} {name : String} {b : Builder}
    (hb : Builder.ofName? serial allow name = some b) {facts : Facts} {d : Definition}
    {r : Rule Attribute} (hr : b.rule? facts d = some r) :
    ∃ source, Builder.bind d d.name source = r ∧
      (name = "muppet" ∧ Builder.introspectionSource serial d = some source ∨
        name = "env" ∧ Builder.environmentSource allow d = some source ∨
        name = "sys" ∧ Builder.systemSource facts d = some source) := by
  unfold Builder.ofName? at hb
  split at hb
  · cases hb
    rcases Option.map_eq_some_iff.1 hr with ⟨source, hsource, hbind⟩
    exact ⟨source, hbind, .inl ⟨rfl, hsource⟩⟩
  · cases hb
    rcases Option.map_eq_some_iff.1 hr with ⟨source, hsource, hbind⟩
    exact ⟨source, hbind, .inr (.inl ⟨rfl, hsource⟩)⟩
  · cases hb
    rcases Option.map_eq_some_iff.1 hr with ⟨source, hsource, hbind⟩
    exact ⟨source, hbind, .inr (.inr ⟨rfl, hsource⟩)⟩
  · cases hb

theorem scope_of_owns {scope : String} {d : Definition} (h : Builder.owns scope d = true) :
    d.scope = scope := by
  unfold Builder.owns at h
  exact beq_iff_eq.1 (Bool.and_eq_true_iff.1 h).1

/-- The name of a builder is the namespace that it takes definitions from. -/
theorem scope_of_rule? {serial : Nat} {allow : List String} {name : String} {b : Builder}
    (hb : Builder.ofName? serial allow name = some b) {facts : Facts} {d : Definition}
    {r : Rule Attribute} (hr : b.rule? facts d = some r) : d.scope = name := by
  -- Whichever builder it is, there is a source only for what it owns.
  rcases source_of_rule? hb hr with ⟨source, -, ⟨rfl, hsource⟩ | ⟨rfl, hsource⟩ | ⟨rfl, hsource⟩⟩
  · unfold Builder.introspectionSource at hsource
    split at hsource
    · next howns => exact scope_of_owns howns
    · cases hsource
  · unfold Builder.environmentSource at hsource
    split at hsource
    · next hallowed => exact scope_of_owns (Bool.and_eq_true_iff.1 hallowed).1
    · cases hsource
  · unfold Builder.systemSource at hsource
    simp only at hsource
    split at hsource
    · next howns => exact scope_of_owns howns
    · cases hsource

theorem scope_of_build {serial : Nat} {allow : List String} {name : String} {b : Builder}
    (hb : Builder.ofName? serial allow name = some b) {d : Definition} {h : ProviderHost}
    (hr : ((b.build d).run h).1.isSome = true) : d.scope = name := by
  rw [build_named hb] at hr
  rcases Option.isSome_iff_exists.1 hr with ⟨r, hrule⟩
  exact scope_of_rule? hb hrule

/-! ## Evaluators -/

/-- What begins with the sign of a pattern test, after white space, begins with no operator of a comparison. -/
theorem Comparison.parse_eq_noOperator {cs rest : List Char}
    (h : Blank.trimLeft cs = '~' :: rest ∨ Blank.trimLeft cs = '!' :: '~' :: rest) :
    parse cs = .error .noOperator := by
  have htilde : Blank.isBlank '~' = false := by decide
  have hmark : Blank.isBlank '!' = false := by decide
  -- Comparisons are trimmed at both ends, but the sign stays in front of what remains.
  rcases h with hcs | hcs
  · have htrim : Blank.trim cs = '~' :: Blank.trimRight rest := by
      rw [Blank.trim, hcs, Blank.trimRight_cons htilde]
    rw [parse, htrim]
    rfl
  · have htrim : Blank.trim cs = '!' :: '~' :: Blank.trimRight rest := by
      rw [Blank.trim, hcs, Blank.trimRight_cons hmark, Blank.trimRight_cons htilde]
    rw [parse, htrim]
    rfl

theorem PatternTest.sign_of_accepts {expression : String} (h : accepts expression = true) :
    ∃ rest, Blank.trimLeft expression.toList = '~' :: rest ∨
      Blank.trimLeft expression.toList = '!' :: '~' :: rest := by
  unfold accepts parse? at h
  split at h
  · next cs hcs => exact ⟨cs, .inr hcs⟩
  · next cs hcs => exact ⟨cs, .inl hcs⟩
  · cases h

/-- No expression is a comparison and a test for a pattern. -/
theorem accepts_disjoint {expression : String} (h : PatternTest.accepts expression = true) :
    Comparison.accepts expression = false := by
  rcases PatternTest.sign_of_accepts h with ⟨rest, hsign⟩
  rw [Comparison.accepts, Comparison.parse_eq_noOperator hsign]
  rfl

end HealthRules
