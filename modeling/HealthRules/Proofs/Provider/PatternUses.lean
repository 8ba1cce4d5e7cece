import HealthRules.Proofs.Pattern.Keeping
import HealthRules.Proofs.Provider.Answers

/-!
# PatternUses — an evaluator for patterns in use

All rules that test for patterns share one evaluator and the patterns that it keeps. None of that shows in its
answers, however often it has been used and for what: each is the answer of an evaluator that has just been
made.

* `PatternUse` and `Evaluator.usePatterns`, which note what happens use by use;
* `evaluateStandard_pattern`, one use;
* `usePatterns_run`, for uses in a row.
-/

namespace HealthRules

variable {β ε : Type}

/-! ## Uses -/

/-- A use of an evaluator for patterns: what was asked, the answer, and the patterns that were kept before it
and after it. -/
structure PatternUse where
  subject : Attribute
  expression : String
  decision : Decision
  before : PatternCache Regex.language
  after : PatternCache Regex.language

/-- Evaluate with the same evaluator for patterns again and again. -/
def Evaluator.usePatterns (id : ProviderId) :
    List (Attribute × String) → HostM β ε Surroundings (List PatternUse)
  | [] => return []
  | (subject, expression) :: rest => do
      let before := (← get).surroundings.cacheOf id
      let decision ← evaluateStandard id .pattern subject expression
      let after := (← get).surroundings.cacheOf id
      return ⟨subject, expression, decision, before, after⟩ :: (← usePatterns id rest)

/-- The host with an evaluator of that identity that has not been used yet. -/
def Host.renew (h : Host β ε Surroundings) (id : ProviderId) : Host β ε Surroundings :=
  { h with surroundings := h.surroundings.setCache id {} }

namespace PatternUse

/-- Uses in a row: each finds the patterns that the one before it left. -/
def Linked : PatternCache Regex.language → List PatternUse → Prop
  | _, [] => True
  | kept, u :: us => u.before = kept ∧ Linked u.after us

/-- A use has the answer of an unused evaluator, and leaves the cache in order: with what was kept before, and
with its own pattern if that is new and usable. -/
structure Proper (u : PatternUse) (unused : Decision) : Prop where
  answer : u.decision = unused
  wellKept : u.after.WellKept
  asked : match PatternTest.parse? u.expression with
    | none => u.after = u.before
    | some t => u.before.Asked t.pattern u.after

end PatternUse

/-! ## One use -/

theorem Surroundings.setCache_setCache (s : Surroundings) (id : ProviderId)
    (cache cache' : PatternCache Regex.language) : (s.setCache id cache).setCache id cache' = s.setCache id cache' := by
  simp [setCache, List.filter_filter]

/-- What is kept makes no difference for the reading of an attribute. -/
theorem Attribute.reading_setCache (registry : Registry β ε) (s : Surroundings) (id : ProviderId)
    (cache : PatternCache Regex.language) (a : Attribute) :
    a.reading registry (s.setCache id cache) = a.reading registry s := rfl

theorem decideBy_read (judge : Except EvaluationError Judge) (a : Attribute)
    (h : Host β ε Surroundings) :
    (decideBy judge a.read).run h =
      (judge.bind (·.onReading (a.reading h.registry h.surroundings)), h) := by
  cases judge with
  | error e => rfl
  | ok judge => rfl

/-- A use decides with the patterns that are kept, and replaces them. -/
theorem evaluateStandard_pattern (id : ProviderId) (a : Attribute) (expression : String)
    (h : Host β ε Surroundings) :
    let judged := PatternTest.judgeFor (h.surroundings.cacheOf id) expression
    let run := (Evaluator.evaluateStandard id .pattern a expression).run h
    run.1 = judged.1.bind (·.onReading (a.reading h.registry h.surroundings)) ∧
      run.2.registry = h.registry ∧ run.2.surroundings = h.surroundings.setCache id judged.2.1 := by
  intro judged run
  have hrun : run = (decideBy judged.1 a.read).run
      ⟨h.registry, h.surroundings.setCache id judged.2.1,
        (judged.2.2.toList.map Event.patternsDropped).reverse ++ h.past⟩ := rfl
  rw [hrun, decideBy_read]
  exact ⟨rfl, rfl, rfl⟩

section Uses

variable {h h' : Host β ε Surroundings} {id : ProviderId} {cache : PatternCache Regex.language}

/-- The answer does not depend on the patterns that are kept. -/
theorem evaluateStandard_unused (hcache : cache.WellKept) (hregistry : h'.registry = h.registry)
    (hsurroundings : h'.surroundings = h.surroundings.setCache id cache) (a : Attribute)
    (expression : String) :
    ((Evaluator.evaluateStandard id .pattern a expression).run h').1 =
      ((Evaluator.evaluateStandard id .pattern a expression).run (h.renew id)).1 := by
  have hjudge : (PatternTest.judgeFor cache expression).1 =
      (PatternTest.judgeFor ({} : PatternCache Regex.language) expression).1 :=
    PatternTest.judgeFor_of_sound hcache.sound expression
  rw [(evaluateStandard_pattern id a expression h').1,
    (evaluateStandard_pattern id a expression (h.renew id)).1]
  simp [Host.renew, hregistry, hsurroundings, Surroundings.cacheOf_setCache, hjudge,
    Attribute.reading_setCache]

/-- The induction is on the uses that are left, with whatever the uses before have made of the cache. -/
theorem usePatterns_from (hcache : cache.WellKept) (hregistry : h'.registry = h.registry)
    (hsurroundings : h'.surroundings = h.surroundings.setCache id cache)
    (calls : List (Attribute × String)) :
    let uses := ((Evaluator.usePatterns id calls).run h').1
    uses.map (fun u => (u.subject, u.expression)) = calls ∧ PatternUse.Linked cache uses ∧
      ∀ u ∈ uses, u.Proper
        ((Evaluator.evaluateStandard id .pattern u.subject u.expression).run (h.renew id)).1 := by
  induction calls generalizing h' cache with
  | nil => exact ⟨rfl, trivial, fun _ hu => absurd hu List.not_mem_nil⟩
  | cons call rest ih =>
      rcases call with ⟨a, expression⟩
      have hbefore : h'.surroundings.cacheOf id = cache := by
        simp [hsurroundings, Surroundings.cacheOf_setCache]
      rcases evaluateStandard_pattern id a expression h' with ⟨-, hregistry', hsurroundings'⟩
      rw [hbefore, hsurroundings, Surroundings.setCache_setCache] at hsurroundings'
      -- The cache after this use is well kept again, which is all that the uses after it ask for.
      rcases PatternTest.judgeFor_keeps hcache expression with ⟨hkept, hasked⟩
      have hanswer := evaluateStandard_unused hcache hregistry hsurroundings a expression
      have hafter : ((Evaluator.evaluateStandard id .pattern a expression).run
          h').2.surroundings.cacheOf id = (PatternTest.judgeFor cache expression).2.1 := by
        simp [hsurroundings', Surroundings.cacheOf_setCache]
      rcases ih hkept (hregistry'.trans hregistry) hsurroundings' with ⟨hcalls, hlinked, hproper⟩
      simp only [Evaluator.usePatterns, HostM.run_bind, HostM.run_get, HostM.run_pure, hbefore, hafter]
      refine ⟨?_, ⟨rfl, hlinked⟩, ?_⟩
      · rw [List.map_cons, hcalls]
      · intro u hu
        rcases List.mem_cons.1 hu with rfl | hu
        · exact ⟨hanswer, hkept, hasked⟩
        · exact hproper u hu

end Uses

/-- However often an evaluator is used, it answers as one that is new, and keeps no more patterns than its cache has
room for, each with what it compiles to. -/
theorem usePatterns_run (h : Host β ε Surroundings) (id : ProviderId)
    (calls : List (Attribute × String)) :
    let uses := ((Evaluator.usePatterns id calls).run (h.renew id)).1
    uses.map (fun u => (u.subject, u.expression)) = calls ∧ PatternUse.Linked {} uses ∧
      ∀ u ∈ uses, u.Proper
        ((Evaluator.evaluateStandard id .pattern u.subject u.expression).run (h.renew id)).1 := by
  have hregistry : (h.renew id).registry = h.registry := rfl
  have hsurroundings : (h.renew id).surroundings = h.surroundings.setCache id {} := rfl
  exact usePatterns_from PatternCache.wellKept_empty hregistry hsurroundings calls

end HealthRules
