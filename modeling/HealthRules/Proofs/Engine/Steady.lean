import HealthRules.Proofs.Engine.Judging

/-!
# Steady — passes that come out as if nothing were remembered

Providers may change their surroundings when they are called, and still give answers that do not depend on
what has been asked before: such answers can be written down as functions. Then a pass is a map over its
items, and no item shows in what becomes of another.

* `Answers`, and what becomes of one definition and of one rule by them;
* `Settled` hosts, with `SteadyBuilders` and `SteadyJudges`, providers that answer alike on them;
* `SteadyBuilders.addRules_run` and `SteadyJudges.evaluate_run`, both passes as maps.
-/

namespace HealthRules

variable {β ε α σ : Type}

/-! ## Answers -/

/-- What providers and attributes answer, whatever they have been asked before. -/
structure Answers (β ε α : Type) where
  build : Entry β → Definition → Option (Rule α)
  accepts : Entry ε → α → String → Bool
  evaluate : Entry ε → α → String → Decision
  read : α → Reading

namespace Answers

/-- The first builder that makes a rule of a definition, and the rule. -/
def firstRule? (A : Answers β ε α) (builders : List (Entry β)) (d : Definition) :
    Option (Entry β × Rule α) :=
  builders.findSome? fun b => (A.build b d).map (b, ·)

/-- What becomes of a definition. -/
def built (A : Answers β ε α) (builders : List (Entry β)) (d : Definition) : BuildOutcome α :=
  match A.firstRule? builders d with
  | some (_, r) => .ok r
  | none => .error (.ofDefinition d)

/-- The first evaluator that accepts a rule's expression, or else the fallback. -/
def chosen (A : Answers β ε α) (evaluators : List (Entry ε)) (r : Rule α) : Candidate ε :=
  match evaluators.find? fun e => A.accepts e r.subject r.expression with
  | some e => .registered e
  | none => .fallback

/-- What a candidate decides about a rule. -/
def decision (A : Answers β ε α) (r : Rule α) : Candidate ε → Decision
  | .registered e => A.evaluate e r.subject r.expression
  | .fallback => (textuallyEqual r.expression).onReading (A.read r.subject)

/-- What is decided about a rule, and by whom. -/
def judgement (A : Answers β ε α) (evaluators : List (Entry ε)) (r : Rule α) : Judgement ε α :=
  let candidate := A.chosen evaluators r
  ⟨r, candidate, A.decision r candidate⟩

/-- What becomes of a rule. -/
def outcome [Named ε] (A : Answers β ε α) (unreadableIsError : Bool) (evaluators : List (Entry ε))
    (r : Rule α) : Outcome α :=
  let candidate := A.chosen evaluators r
  .ofDecision unreadableIsError (name candidate) r (A.decision r candidate)

end Answers

/-! ## Settled hosts -/

/-- The registry is known, and something is known of the surroundings. -/
structure Settled (registry : Registry β ε) (Known : σ → Prop) (h : Host β ε σ) : Prop where
  registry_eq : h.registry = registry
  known : Known h.surroundings

theorem Settled.of_alike {registry : Registry β ε} {Known : σ → Prop} {h h' : Host β ε σ}
    (hs : Settled registry Known h) (ha : Alike h h') : Settled registry Known h' := by
  refine ⟨ha.registry.trans hs.registry_eq, ?_⟩
  rw [ha.surroundings]
  exact hs.known

/-- A computation that comes to `c` on settled hosts and leaves them settled. -/
abbrev Settles {γ : Type} (registry : Registry β ε) (Known : σ → Prop) (m : HostM β ε σ γ)
    (c : γ) : Prop :=
  ∀ h, Settled registry Known h → (m.run h).1 = c ∧ Settled registry Known (m.run h).2

/-- On settled hosts the builders of the registry answer by `A`, and the hosts are settled afterwards. -/
structure SteadyBuilders (B : Behaviour β ε α σ) (registry : Registry β ε) (Known : σ → Prop)
    (A : Answers β ε α) : Prop where
  build : ∀ b ∈ registry.builders, ∀ d, Settles registry Known (B.build b d) (A.build b d)

/-- On settled hosts the evaluators of the registry and all attributes answer by `A`, and the hosts are
settled afterwards. -/
structure SteadyJudges (B : Behaviour β ε α σ) (registry : Registry β ε) (Known : σ → Prop)
    (A : Answers β ε α) : Prop where
  accepts : ∀ e ∈ registry.evaluators, ∀ a x,
    Settles registry Known (B.accepts e a x) (A.accepts e a x)
  evaluate : ∀ e ∈ registry.evaluators, ∀ a x,
    Settles registry Known (B.evaluate e a x) (A.evaluate e a x)
  read : ∀ a, Settles registry Known (B.read a) (A.read a)

namespace Settles

variable {registry : Registry β ε} {Known : σ → Prop} {γ δ : Type}

theorem pure (c : γ) : Settles registry Known (pure c : HostM β ε σ γ) c :=
  fun _ hs => ⟨rfl, hs⟩

theorem tell (e : Event) : Settles registry Known (Host.tell e : HostM β ε σ Unit) () :=
  fun h hs => ⟨rfl, hs.of_alike (Alike.tell e h)⟩

theorem bind {m : HostM β ε σ γ} {f : γ → HostM β ε σ δ} {c : γ} {d : δ}
    (hm : Settles registry Known m c) (hf : Settles registry Known (f c) d) :
    Settles registry Known (m >>= f) d := by
  intro h hs
  rcases hm h hs with ⟨hc, hs'⟩
  rw [HostM.run_bind, hc]
  exact hf _ hs'

/-- Builders that settle their answers are tried as in a list of answers. -/
theorem firstRule {B : Behaviour β ε α σ} {d : Definition} {builders : List (Entry β)}
    {rule? : Entry β → Option (Rule α)}
    (hbuilders : ∀ b ∈ builders, Settles registry Known (B.build b d) (rule? b)) :
    Settles registry Known (B.firstRule d builders)
      (builders.findSome? fun b => (rule? b).map (b, ·)) := by
  induction builders with
  | nil => exact Settles.pure none
  | cons b rest ih =>
      have hb := hbuilders b List.mem_cons_self
      have hrest := ih fun b' hb' => hbuilders b' (List.mem_cons_of_mem b hb')
      refine hb.bind ?_
      rw [List.findSome?_cons]
      cases rule? b with
      | none => exact hrest
      | some r => exact Settles.pure (some (b, r))

/-- The same for evaluators, with the fallback behind them. -/
theorem choose {B : Behaviour β ε α σ} {r : Rule α} {evaluators : List (Entry ε)}
    {accepts : Entry ε → Bool}
    (hevaluators : ∀ e ∈ evaluators,
      Settles registry Known (B.accepts e r.subject r.expression) (accepts e)) :
    Settles registry Known (B.choose r evaluators)
      (match evaluators.find? accepts with
        | some e => .registered e
        | none => .fallback) := by
  induction evaluators with
  | nil => exact Settles.pure Candidate.fallback
  | cons e rest ih =>
      have he := hevaluators e List.mem_cons_self
      have hrest := ih fun e' he' => hevaluators e' (List.mem_cons_of_mem e he')
      refine he.bind ?_
      rw [List.find?_cons]
      cases accepts e with
      | true => exact Settles.pure (Candidate.registered e)
      | false => exact hrest

end Settles

/-! ## Passes -/

namespace SteadyBuilders

variable {B : Behaviour β ε α σ} {registry : Registry β ε} {Known : σ → Prop} {A : Answers β ε α}

theorem buildOne [Named β] (hB : SteadyBuilders B registry Known A) (d : Definition) :
    Settles registry Known (B.buildOne registry.builders d) (A.built registry.builders d) := by
  refine (Settles.firstRule fun b hb => hB.build b hb d).bind ?_
  rw [Answers.built, Answers.firstRule?]
  cases registry.builders.findSome? fun b => (A.build b d).map (b, ·) with
  | none => exact (Settles.tell _).bind (Settles.pure _)
  | some made => exact (Settles.tell _).bind (Settles.pure _)

theorem buildEach [Named β] (hB : SteadyBuilders B registry Known A) (ds : List Definition) :
    Settles registry Known (B.buildEach registry.builders ds)
      (ds.map (A.built registry.builders)) := by
  induction ds with
  | nil => exact Settles.pure []
  | cons d ds ih => exact (hB.buildOne d).bind (ih.bind (Settles.pure _))

/-- A pass of building is a map over its definitions. -/
theorem addRules_run [Named β] (hB : SteadyBuilders B registry Known A) (e : Engine α)
    (ds : List Definition) :
    let outcomes := ds.map (A.built registry.builders)
    Settles registry Known (e.addRules B ds)
      ({ e with rules := e.rules ++ BuildOutcome.rules outcomes }, BuildOutcome.failures outcomes) := by
  intro outcomes h hs
  rcases hB.buildEach ds h hs with ⟨houtcomes, hs'⟩
  simp only [Engine.addRules, Behaviour.buildAll, HostM.run_bind, HostM.run_get, HostM.run_pure,
    hs.registry_eq, houtcomes]
  exact ⟨rfl, hs'.of_alike (Alike.tell _ _)⟩

end SteadyBuilders

namespace SteadyJudges

variable {B : Behaviour β ε α σ} {registry : Registry β ε} {Known : σ → Prop} {A : Answers β ε α}

theorem decide (hB : SteadyJudges B registry Known A) (r : Rule α) :
    Settles registry Known (B.decide r (A.chosen registry.evaluators r))
      (A.decision r (A.chosen registry.evaluators r)) := by
  -- What is chosen is the fallback or an evaluator of the registry, and only these are known to be steady.
  rw [Answers.chosen]
  cases hfound : registry.evaluators.find? fun e => A.accepts e r.subject r.expression with
  | none => exact (hB.read r.subject).bind (Settles.pure _)
  | some e => exact hB.evaluate e (List.mem_of_find?_eq_some hfound) r.subject r.expression

variable [Named ε] [Named α]

theorem judgeOne (hB : SteadyJudges B registry Known A) (r : Rule α) :
    Settles registry Known (B.judgeOne registry.evaluators r)
      (A.judgement registry.evaluators r) := by
  refine (Settles.choose fun e he => hB.accepts e he r.subject r.expression).bind ?_
  exact (Settles.tell _).bind ((hB.decide r).bind (Settles.pure _))

theorem judgeEach (hB : SteadyJudges B registry Known A) (rs : List (Rule α)) :
    Settles registry Known (B.judgeEach registry.evaluators rs)
      (rs.map (A.judgement registry.evaluators)) := by
  induction rs with
  | nil => exact Settles.pure []
  | cons r rs ih => exact (hB.judgeOne r).bind (ih.bind (Settles.pure _))

/-- A pass of evaluating is a map over the rules. -/
theorem evaluate_run (hB : SteadyJudges B registry Known A) (e : Engine α) :
    Settles registry Known (e.evaluate B)
      (e.rules.map (A.outcome e.unreadableIsError registry.evaluators)) := by
  intro h hs
  rcases hB.judgeEach e.rules h hs with ⟨hjudgements, hs'⟩
  rcases evaluate_judged B e h with ⟨houtcomes, halike⟩
  rw [hs.registry_eq] at houtcomes halike
  refine ⟨?_, hs'.of_alike halike⟩
  rw [houtcomes, hjudgements, List.map_map]
  rfl

end SteadyJudges

end HealthRules
