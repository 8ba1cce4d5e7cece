import HealthRules.Engine.Basic
import HealthRules.Proofs.Engine.Choosing

/-!
# Passes — which providers a pass tries

A pass takes the providers that are registered when it begins, and tries these for each of its items. Its
calls may change the registry as they like: for the rest of the pass that makes no difference to who is
tried.

* `Declined` and `Resolved`, what trying builders for a definition means;
* `PassedOver` and `Dispatched`, what trying evaluators for a rule means;
* `addRules_pass` and `evaluate_pass`, the passes of an engine call by call.
-/

namespace HealthRules

variable {β ε α σ : Type} {B : Behaviour β ε α σ}

/-! ## Trying builders -/

/-- The call asks a builder about a definition, and the builder declines. -/
def Declines (B : Behaviour β ε α σ) (d : Definition) (b : Entry β) (c : Call β ε α σ) : Prop :=
  c.ask = .build b d ∧ ((B.build b d).run c.host).1 = none

/-- Each of the builders is asked once, in order, and declines. -/
abbrev Declined (B : Behaviour β ε α σ) (d : Definition) (builders : List (Entry β))
    (calls : List (Call β ε α σ)) : Prop :=
  List.Forall₂ (Declines B d) builders calls

/-- What trying builders in order leads to: the first one that makes a rule is the last one asked, and there
is a failure only after all of them have been asked. -/
inductive Resolved (B : Behaviour β ε α σ) (builders : List (Entry β)) (d : Definition) :
    List (Call β ε α σ) → BuildOutcome α → Prop where
  | built {before after : List (Entry β)} {b : Entry β} {calls : List (Call β ε α σ)}
      {h : Host β ε σ} {r : Rule α} (hbuilders : builders = before ++ b :: after)
      (hbefore : Declined B d before calls) (hb : ((B.build b d).run h).1 = some r) :
      Resolved B builders d (calls ++ [⟨.build b d, h⟩]) (.ok r)
  | failed {calls : List (Call β ε α σ)} (hall : Declined B d builders calls) :
      Resolved B builders d calls (.error (.ofDefinition d))

/-- Builders are asked one after another until one makes a rule. -/
theorem firstRule_calls (B : Behaviour β ε α σ) (d : Definition) (builders : List (Entry β))
    (h : Host β ε σ) :
    match (B.firstRule d builders).run h with
    | (none, h') => ∃ calls, Declined B d builders calls ∧ Chain B h calls h'
    | (some (b, r), h') => ∃ before after calls hb, builders = before ++ b :: after ∧
        Declined B d before calls ∧ ((B.build b d).run hb).1 = some r ∧
        Chain B h (calls ++ [⟨.build b d, hb⟩]) h' := by
  induction builders generalizing h with
  | nil => exact ⟨[], .nil, Chain.refl h⟩
  | cons b rest ih =>
      have hcall : Chain B h [⟨.build b d, h⟩] ((B.build b d).run h).2 :=
        Chain.single (B := B) ⟨.build b d, h⟩
      rw [Behaviour.firstRule, HostM.run_bind]
      cases hanswer : ((B.build b d).run h).1 with
      | some r => exact ⟨[], rest, [], h, rfl, .nil, hanswer, hcall⟩
      | none =>
          have hrest := ih ((B.build b d).run h).2
          have hdeclines : Declines B d b ⟨.build b d, h⟩ := ⟨rfl, hanswer⟩
          simp only
          -- What follows was asked after a builder that declined: put its call in front.
          split at hrest
          next h' _ =>
            rcases hrest with ⟨calls, hall, hchain⟩
            exact ⟨_ :: calls, .cons hdeclines hall, hcall.append hchain⟩
          next b' r h' _ =>
            rcases hrest with ⟨before, after, calls, hb, hsplit, hbefore, hmade, hchain⟩
            refine ⟨b :: before, after, _ :: calls, hb, ?_, .cons hdeclines hbefore, hmade, ?_⟩
            · rw [hsplit, List.cons_append]
            · exact hcall.append hchain

/-- One definition is resolved, and only telling comes after the calls. -/
theorem buildOne_calls [Named β] (B : Behaviour β ε α σ) (builders : List (Entry β))
    (d : Definition) (h : Host β ε σ) :
    ∃ calls, Resolved B builders d calls ((B.buildOne builders d).run h).1 ∧
      Chain B h calls ((B.buildOne builders d).run h).2 := by
  have hfirst := firstRule_calls B d builders h
  rw [Behaviour.buildOne, HostM.run_bind]
  split at hfirst
  next h' hrun =>
    rcases hfirst with ⟨calls, hall, hchain⟩
    rw [hrun]
    exact ⟨calls, .failed hall, hchain.of_alike_right (Alike.tell _ h')⟩
  next b r h' hrun =>
    rcases hfirst with ⟨before, after, calls, hb, hsplit, hbefore, hmade, hchain⟩
    rw [hrun]
    exact ⟨_, .built hsplit hbefore hmade, hchain.of_alike_right (Alike.tell _ h')⟩

/-- What was done for one item of a pass, and what came of it. -/
structure Item (β ε α σ γ : Type) where
  calls : List (Call β ε α σ)
  outcome : γ

/-- The items of a pass of building. -/
abbrev BuiltItems (B : Behaviour β ε α σ) (builders : List (Entry β)) (ds : List Definition)
    (items : List (Item β ε α σ (BuildOutcome α))) : Prop :=
  List.Forall₂ (fun d (i : Item β ε α σ (BuildOutcome α)) => Resolved B builders d i.calls i.outcome)
    ds items

theorem buildEach_items [Named β] (B : Behaviour β ε α σ) (builders : List (Entry β))
    (ds : List Definition) (h : Host β ε σ) :
    ∃ items, BuiltItems B builders ds items ∧
      ((B.buildEach builders ds).run h).1 = items.map (·.outcome) ∧
      Chain B h (items.flatMap (·.calls)) ((B.buildEach builders ds).run h).2 := by
  induction ds generalizing h with
  | nil => exact ⟨[], .nil, rfl, Chain.refl h⟩
  | cons d ds ih =>
      -- The builders stay those of the pass, while the host is the one that the calls for `d` leave.
      rcases buildOne_calls B builders d h with ⟨calls, hresolved, hchain⟩
      rcases ih ((B.buildOne builders d).run h).2 with ⟨items, hitems, houtcomes, hrest⟩
      refine ⟨⟨calls, ((B.buildOne builders d).run h).1⟩ :: items, .cons hresolved hitems, ?_, ?_⟩
      · rw [Behaviour.buildEach, HostM.run_bind, HostM.run_bind, HostM.run_pure, houtcomes]
        rfl
      · rw [Behaviour.buildEach, HostM.run_bind, HostM.run_bind, HostM.run_pure]
        exact hchain.append hrest

/-- A pass of building tries the builders that are registered when it begins. -/
theorem addRules_pass [Named β] (B : Behaviour β ε α σ) (e : Engine α) (ds : List Definition)
    (h : Host β ε σ) :
    ∃ items, BuiltItems B h.registry.builders ds items ∧
      ((e.addRules B ds).run h).1 =
        ({ e with rules := e.rules ++ BuildOutcome.rules (items.map (·.outcome)) },
          BuildOutcome.failures (items.map (·.outcome))) ∧
      Chain B h (items.flatMap (·.calls)) ((e.addRules B ds).run h).2 := by
  rcases buildEach_items B h.registry.builders ds h with ⟨items, hitems, houtcomes, hchain⟩
  refine ⟨items, hitems, ?_, ?_⟩
  · rw [← houtcomes]
    rfl
  · exact hchain.of_alike_right (Alike.tell _ _)

/-! ## Trying evaluators -/

/-- The call asks an evaluator whether it accepts a rule's expression, and it does not. -/
def Refuses (B : Behaviour β ε α σ) (r : Rule α) (e : Entry ε) (c : Call β ε α σ) : Prop :=
  c.ask = .accepts e r ∧ ((B.accepts e r.subject r.expression).run c.host).1 = false

/-- Each of the evaluators is asked once, in order, and does not accept. -/
abbrev PassedOver (B : Behaviour β ε α σ) (r : Rule α) (evaluators : List (Entry ε))
    (calls : List (Call β ε α σ)) : Prop :=
  List.Forall₂ (Refuses B r) evaluators calls

/-- What trying evaluators in order leads to: the first one that accepts decides the rule, and if none does
the attribute is read and the texts are compared. -/
inductive Dispatched [Named ε] (B : Behaviour β ε α σ) (unreadableIsError : Bool)
    (evaluators : List (Entry ε)) (r : Rule α) : List (Call β ε α σ) → Outcome α → Prop where
  | registered {before after : List (Entry ε)} {e : Entry ε} {calls : List (Call β ε α σ)}
      {h h' : Host β ε σ} (hevaluators : evaluators = before ++ e :: after)
      (hbefore : PassedOver B r before calls)
      (he : ((B.accepts e r.subject r.expression).run h).1 = true) :
      Dispatched B unreadableIsError evaluators r
        (calls ++ [⟨.accepts e r, h⟩, ⟨.evaluate e r, h'⟩])
        (.ofDecision unreadableIsError (name e.provider) r
          ((B.evaluate e r.subject r.expression).run h').1)
  | fallback {calls : List (Call β ε α σ)} {h : Host β ε σ}
      (hall : PassedOver B r evaluators calls) :
      Dispatched B unreadableIsError evaluators r (calls ++ [⟨.read r, h⟩])
        (.ofDecision unreadableIsError fallbackName r
          ((textuallyEqual r.expression).onReading ((B.read r.subject).run h).1))

/-- Evaluators are asked one after another until one accepts, with the fallback after them. -/
theorem choose_calls (B : Behaviour β ε α σ) (r : Rule α) (evaluators : List (Entry ε))
    (h : Host β ε σ) :
    match (B.choose r evaluators).run h with
    | (.fallback, h') => ∃ calls, PassedOver B r evaluators calls ∧ Chain B h calls h'
    | (.registered e, h') => ∃ before after calls he, evaluators = before ++ e :: after ∧
        PassedOver B r before calls ∧
        ((B.accepts e r.subject r.expression).run he).1 = true ∧
        Chain B h (calls ++ [⟨.accepts e r, he⟩]) h' := by
  induction evaluators generalizing h with
  | nil => exact ⟨[], .nil, Chain.refl h⟩
  | cons e rest ih =>
      have hcall : Chain B h [⟨.accepts e r, h⟩] ((B.accepts e r.subject r.expression).run h).2 :=
        Chain.single (B := B) ⟨.accepts e r, h⟩
      rw [Behaviour.choose, HostM.run_bind]
      cases hanswer : ((B.accepts e r.subject r.expression).run h).1 with
      | true => exact ⟨[], rest, [], h, rfl, .nil, hanswer, hcall⟩
      | false =>
          -- `e` has been asked and passed over; the others are asked on the host that it leaves.
          have hrest := ih ((B.accepts e r.subject r.expression).run h).2
          have hrefuses : Refuses B r e ⟨.accepts e r, h⟩ := ⟨rfl, hanswer⟩
          simp only [Bool.false_eq_true, if_false]
          split at hrest
          next h' _ =>
            rcases hrest with ⟨calls, hall, hchain⟩
            exact ⟨_ :: calls, .cons hrefuses hall, hcall.append hchain⟩
          next e' h' _ =>
            rcases hrest with ⟨before, after, calls, he, hsplit, hbefore, haccepts, hchain⟩
            refine ⟨e :: before, after, _ :: calls, he, ?_, .cons hrefuses hbefore, haccepts, ?_⟩
            · rw [hsplit, List.cons_append]
            · exact hcall.append hchain

variable [Named ε] [Named α]

theorem evaluateOne_calls (B : Behaviour β ε α σ) (unreadableIsError : Bool)
    (registry : Registry β ε) (r : Rule α) (h : Host β ε σ) :
    let run := (B.evaluateOne unreadableIsError registry.candidates r).run h
    ∃ calls, Dispatched B unreadableIsError registry.evaluators r calls run.1 ∧
      Chain B h calls run.2 := by
  have hchoose := choose_calls B r registry.evaluators h
  rw [evaluateOne_candidates, HostM.run_bind]
  split at hchoose
  next h' hrun =>
    rcases hchoose with ⟨calls, hall, hchain⟩
    rw [hrun]
    -- The call of the attribute finds the host on which the dispatch has been told.
    refine ⟨_, .fallback (h := _) hall, ?_⟩
    exact (hchain.of_alike_right (Alike.tell _ h')).append (Chain.single (B := B) ⟨.read r, _⟩)
  next e h' hrun =>
    rcases hchoose with ⟨before, after, calls, he, hsplit, hbefore, haccepts, hchain⟩
    rw [hrun]
    refine ⟨_, .registered hsplit hbefore haccepts, ?_⟩
    have htold := Alike.tell (.dispatched r.render (name (Candidate.registered e))) h'
    have hevaluate := (hchain.of_alike_right htold).append
      (Chain.single (B := B) ⟨.evaluate e r, _⟩)
    rw [List.append_assoc] at hevaluate
    exact hevaluate

/-- The items of a pass of evaluating. -/
abbrev EvaluatedItems (B : Behaviour β ε α σ) (unreadableIsError : Bool)
    (evaluators : List (Entry ε)) (rs : List (Rule α)) (items : List (Item β ε α σ (Outcome α))) :
    Prop :=
  List.Forall₂ (fun r (i : Item β ε α σ (Outcome α)) =>
    Dispatched B unreadableIsError evaluators r i.calls i.outcome) rs items

theorem evaluateEach_items (B : Behaviour β ε α σ) (unreadableIsError : Bool)
    (registry : Registry β ε) (rs : List (Rule α)) (h : Host β ε σ) :
    let run := (B.evaluateEach unreadableIsError registry.candidates rs).run h
    ∃ items, EvaluatedItems B unreadableIsError registry.evaluators rs items ∧
      run.1 = items.map (·.outcome) ∧ Chain B h (items.flatMap (·.calls)) run.2 := by
  induction rs generalizing h with
  | nil => exact ⟨[], .nil, rfl, Chain.refl h⟩
  | cons r rs ih =>
      rcases evaluateOne_calls B unreadableIsError registry r h with ⟨calls, hdispatched, hchain⟩
      rcases ih ((B.evaluateOne unreadableIsError registry.candidates r).run h).2 with
        ⟨items, hitems, houtcomes, hrest⟩
      refine ⟨⟨calls, ((B.evaluateOne unreadableIsError registry.candidates r).run h).1⟩ :: items,
        .cons hdispatched hitems, ?_, ?_⟩
      · rw [Behaviour.evaluateEach, HostM.run_bind, HostM.run_bind, HostM.run_pure, houtcomes]
        rfl
      · rw [Behaviour.evaluateEach, HostM.run_bind, HostM.run_bind, HostM.run_pure]
        exact hchain.append hrest

/-- A pass of evaluating tries the evaluators that are registered when it begins, and then the fallback. -/
theorem evaluate_pass (B : Behaviour β ε α σ) (e : Engine α) (h : Host β ε σ) :
    ∃ items, EvaluatedItems B e.unreadableIsError h.registry.evaluators e.rules items ∧
      ((e.evaluate B).run h).1 = items.map (·.outcome) ∧
      Chain B h (items.flatMap (·.calls)) ((e.evaluate B).run h).2 := by
  rcases evaluateEach_items B e.unreadableIsError h.registry e.rules h with
    ⟨items, hitems, houtcomes, hchain⟩
  refine ⟨items, hitems, ?_, ?_⟩
  · rw [← houtcomes]
    rfl
  · exact hchain.of_alike_right (Alike.tell _ _)

end HealthRules
