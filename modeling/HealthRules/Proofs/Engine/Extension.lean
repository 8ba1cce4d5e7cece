import HealthRules.Proofs.Engine.Registrations
import HealthRules.Proofs.Engine.Steady
import HealthRules.Proofs.Provider.Answers

/-!
# Extension — one more provider, and one less again

A provider that is registered stands behind the others of its kind, so that it gets only what they leave: what
was built or dispatched before goes where it went. Once it is deregistered it leaves no trace but in
identities, which are issued one after another: those that were issued after it would have been one less.

* `Offers` and `Provider.Plain`, providers that answer alike whatever else is registered;
* `Behaviour.resolve` and `Behaviour.elect`, who gets a definition and who gets a rule;
* `inAbsenceOf`, what identities are without a certain registration;
* `Registry.Misses`, the invariant of two runs with and without a registration, and `dealAll_misses`;
* `register_conservative`: what registering changes, and that deregistering takes it back.
-/

namespace HealthRules

variable {β ε α σ : Type}

/-! ## Plain providers -/

/-- What providers answer, whoever else is registered: the rule that a builder makes, and whether an evaluator
accepts. -/
structure Offers (β ε α : Type) where
  rule? : β → Definition → Option (Rule α)
  accepts : ε → α → String → Bool

/-- A provider of either kind. -/
inductive Provider (β ε : Type) where
  | builder (b : β)
  | evaluator (e : ε)

/-- Register a provider after all others of its kind. -/
def Host.register [Named β] [Named ε] : Provider β ε → HostM β ε σ ProviderId
  | .builder b => registerBuilder b
  | .evaluator e => registerEvaluator e

section Plain

variable (B : Behaviour β ε α σ) (Known : σ → Prop) (O : Offers β ε α)

/-- The provider has no side effects, and answers as it offers in every registry and under every identity. -/
def Provider.Plain : Provider β ε → Prop
  | builder b => ∀ registry id d, Settles registry Known (B.build ⟨id, b⟩ d) (O.rule? b d)
  | evaluator e => ∀ registry id a x,
      Settles registry Known (B.accepts ⟨id, e⟩ a x) (O.accepts e a x)

/-- All providers of the registry are plain. -/
structure Registry.Plain (r : Registry β ε) : Prop where
  builders : ∀ b ∈ r.builders, (Provider.builder b.provider : Provider β ε).Plain B Known O
  evaluators : ∀ e ∈ r.evaluators, (Provider.evaluator e.provider : Provider β ε).Plain B Known O

/-- What registering a provider does to a registry. -/
def Provider.change : Provider β ε → Change β ε
  | builder b => .addBuilder b
  | evaluator e => .addEvaluator e

/-- What is registered is plain. -/
def Change.Plain : Change β ε → Prop
  | addBuilder b => (Provider.builder b : Provider β ε).Plain B Known O
  | addEvaluator e => (Provider.evaluator e : Provider β ε).Plain B Known O
  | remove _ => True

variable {B Known O} in
theorem Provider.Plain.change {p : Provider β ε} (hp : p.Plain B Known O) :
    p.change.Plain B Known O := by
  cases p with
  | builder b => exact hp
  | evaluator e => exact hp

end Plain

namespace Registry

variable {B : Behaviour β ε α σ} {Known : σ → Prop} {O : Offers β ε α} {r : Registry β ε}

theorem mem_of_without?_eq_some {γ : Type} {id : ProviderId} {entries kept : List (Entry γ)}
    (h : without? id entries = some kept) {e : Entry γ} (he : e ∈ kept) : e ∈ entries := by
  unfold without? at h
  split at h
  · cases h
    exact (List.mem_filter.1 he).1
  · cases h

theorem Plain.remove? (hr : r.Plain B Known O) {id : ProviderId} {r' : Registry β ε}
    (h : r.remove? id = some r') : r'.Plain B Known O := by
  unfold Registry.remove? at h
  cases hb : without? id r.builders with
  | some builders =>
      rw [hb] at h
      cases h
      exact ⟨fun b hmem => hr.builders b (mem_of_without?_eq_some hb hmem), hr.evaluators⟩
  | none =>
      rw [hb] at h
      rcases Option.map_eq_some_iff.1 h with ⟨evaluators, he, rfl⟩
      exact ⟨hr.builders, fun e hmem => hr.evaluators e (mem_of_without?_eq_some he hmem)⟩

theorem Plain.change (hr : r.Plain B Known O) {c : Change β ε} (hc : c.Plain B Known O) :
    (r.change c).Plain B Known O := by
  cases c with
  | addBuilder b =>
      refine ⟨?_, hr.evaluators⟩
      intro entry hentry
      rcases List.mem_append.1 hentry with hold | hnew
      · exact hr.builders entry hold
      · rcases List.mem_singleton.1 hnew with rfl
        exact hc
  | addEvaluator e =>
      refine ⟨hr.builders, ?_⟩
      intro entry hentry
      rcases List.mem_append.1 hentry with hold | hnew
      · exact hr.evaluators entry hold
      · rcases List.mem_singleton.1 hnew with rfl
        exact hc
  | remove id =>
      rw [Registry.change]
      cases hremove : r.remove? id with
      | none => exact hr
      | some r' => exact hr.remove? hremove

theorem Plain.changeAll (hr : r.Plain B Known O) {cs : List (Change β ε)}
    (hcs : ∀ c ∈ cs, c.Plain B Known O) : (r.changeAll cs).Plain B Known O := by
  induction cs generalizing r with
  | nil => exact hr
  | cons c cs ih =>
      have hc := hr.change (hcs c List.mem_cons_self)
      exact ih hc fun c' hc' => hcs c' (List.mem_cons_of_mem c hc')

end Registry

/-! ## Who gets what -/

namespace Behaviour

/-- Try the builders that are registered now. -/
def resolve (B : Behaviour β ε α σ) (d : Definition) :
    HostM β ε σ (Option (Entry β × Rule α)) := do
  B.firstRule d (← get).registry.builders

/-- Ask the evaluators that are registered now. -/
def elect (B : Behaviour β ε α σ) (r : Rule α) : HostM β ε σ (Candidate ε) := do
  B.choose r (← get).registry.evaluators

end Behaviour

namespace Offers

/-- The first builder that offers a rule for a definition, and the rule. -/
def resolve (O : Offers β ε α) (builders : List (Entry β)) (d : Definition) :
    Option (Entry β × Rule α) :=
  builders.findSome? fun b => (O.rule? b.provider d).map (b, ·)

/-- The first evaluator that accepts a rule's expression, or else the fallback. -/
def elect (O : Offers β ε α) (evaluators : List (Entry ε)) (r : Rule α) : Candidate ε :=
  match evaluators.find? fun e => O.accepts e.provider r.subject r.expression with
  | some e => .registered e
  | none => .fallback

variable (O : Offers β ε α)

/-- A builder at the end gets what all others decline. -/
theorem resolve_concat (builders : List (Entry β)) (b : Entry β) (d : Definition) :
    O.resolve (builders ++ [b]) d =
      match O.resolve builders d with
      | some made => some made
      | none => (O.rule? b.provider d).map (b, ·) := by
  unfold resolve
  rw [List.findSome?_append]
  cases builders.findSome? fun b => (O.rule? b.provider d).map (b, ·) with
  | some made => rfl
  | none => simp

/-- An evaluator at the end gets what would go to the fallback. -/
theorem elect_concat (evaluators : List (Entry ε)) (e : Entry ε) (r : Rule α) :
    O.elect (evaluators ++ [e]) r =
      match O.elect evaluators r with
      | .registered old => .registered old
      | .fallback =>
          if O.accepts e.provider r.subject r.expression then .registered e else .fallback := by
  unfold elect
  rw [List.find?_append]
  cases evaluators.find? fun e => O.accepts e.provider r.subject r.expression with
  | some old => rfl
  | none =>
      cases haccepts : O.accepts e.provider r.subject r.expression <;>
        simp [haccepts]

end Offers

section Runs

variable {B : Behaviour β ε α σ} {Known : σ → Prop} {O : Offers β ε α} {h : Host β ε σ}

theorem resolve_run (hplain : h.registry.Plain B Known O) (hknown : Known h.surroundings)
    (d : Definition) : ((B.resolve d).run h).1 = O.resolve h.registry.builders d := by
  -- What is offered in every registry and under every identity is offered here.
  have hbuilders : ∀ b ∈ h.registry.builders,
      Settles h.registry Known (B.build b d) (O.rule? b.provider d) := fun b hb =>
    hplain.builders b hb h.registry b.id d
  exact (Settles.firstRule hbuilders h ⟨rfl, hknown⟩).1

theorem elect_run (hplain : h.registry.Plain B Known O) (hknown : Known h.surroundings)
    (r : Rule α) : ((B.elect r).run h).1 = O.elect h.registry.evaluators r := by
  have hevaluators : ∀ e ∈ h.registry.evaluators, Settles h.registry Known
      (B.accepts e r.subject r.expression) (O.accepts e.provider r.subject r.expression) :=
    fun e he => hplain.evaluators e he h.registry e.id r.subject r.expression
  exact (Settles.choose hevaluators h ⟨rfl, hknown⟩).1

end Runs

/-! ## Identities without a registration -/

/-- The identity that a registration has if that of `gone` is not made. -/
def ProviderId.inAbsenceOf (id gone : ProviderId) : ProviderId :=
  if gone.number < id.number then ⟨id.number - 1⟩ else id

theorem ProviderId.inAbsenceOf_inj {gone id id' : ProviderId} (hid : id ≠ gone) (hid' : id' ≠ gone) :
    id.inAbsenceOf gone = id'.inAbsenceOf gone ↔ id = id' := by
  rcases gone with ⟨g⟩
  rcases id with ⟨n⟩
  rcases id' with ⟨m⟩
  simp only [ne_eq, ProviderId.mk.injEq] at hid hid'
  -- Only the one number that is left out could have come to be the same as another.
  simp only [ProviderId.inAbsenceOf]
  split <;> split <;> simp only [ProviderId.mk.injEq] <;> omega

/-- A provider with the identity that it has if the registration of `gone` is not made. -/
def Entry.inAbsenceOf {γ : Type} (gone : ProviderId) (e : Entry γ) : Entry γ :=
  ⟨e.id.inAbsenceOf gone, e.provider⟩

def Candidate.inAbsenceOf (gone : ProviderId) : Candidate ε → Candidate ε
  | registered e => .registered (e.inAbsenceOf gone)
  | fallback => .fallback

/-- The same change of a registry that does not know the registration of `gone`. -/
def Change.inAbsenceOf (gone : ProviderId) : Change β ε → Change β ε
  | addBuilder b => .addBuilder b
  | addEvaluator e => .addEvaluator e
  | remove id => .remove (id.inAbsenceOf gone)

def Dealing.inAbsenceOf (gone : ProviderId) : Dealing β ε → Dealing β ε
  | builderAdded b id => .builderAdded b (id.inAbsenceOf gone)
  | evaluatorAdded e id => .evaluatorAdded e (id.inAbsenceOf gone)
  | removal id found => .removal (id.inAbsenceOf gone) found

theorem Change.Plain.inAbsenceOf {B : Behaviour β ε α σ} {Known : σ → Prop} {O : Offers β ε α}
    {c : Change β ε} (hc : c.Plain B Known O) (gone : ProviderId) :
    (c.inAbsenceOf gone).Plain B Known O := by
  cases c with
  | addBuilder b => exact hc
  | addEvaluator e => exact hc
  | remove id => trivial

namespace Offers

variable (O : Offers β ε α) (gone : ProviderId)

/-- Identities do not matter for who gets a definition. -/
theorem resolve_inAbsenceOf (builders : List (Entry β)) (d : Definition) :
    O.resolve (builders.map (·.inAbsenceOf gone)) d =
      (O.resolve builders d).map fun made => (made.1.inAbsenceOf gone, made.2) := by
  unfold resolve
  rw [List.findSome?_map, List.map_findSome?]
  congr 1
  funext b
  simp only [Function.comp_apply, Option.map_map]
  rfl

/-- Identities do not matter for who gets a rule. -/
theorem elect_inAbsenceOf (evaluators : List (Entry ε)) (r : Rule α) :
    O.elect (evaluators.map (·.inAbsenceOf gone)) r = (O.elect evaluators r).inAbsenceOf gone := by
  unfold elect
  have hfind : (evaluators.map (·.inAbsenceOf gone)).find?
      (fun e => O.accepts e.provider r.subject r.expression) =
        (evaluators.find? fun e => O.accepts e.provider r.subject r.expression).map
          (·.inAbsenceOf gone) := List.find?_map
  rw [hfind]
  cases evaluators.find? fun e => O.accepts e.provider r.subject r.expression with
  | none => rfl
  | some e => rfl

end Offers

/-! ## With and without a registration -/

/-- The other entries, with the identities that they have if the registration of `gone` is not made. -/
def othersThan {γ : Type} (gone : ProviderId) (entries : List (Entry γ)) : List (Entry γ) :=
  (entries.filter (·.id ≠ gone)).map (·.inAbsenceOf gone)

namespace Registry

/-- The registry `r'` is as `r`, but for the registration of `gone`, which has been made in `r` only. -/
structure Misses (gone : ProviderId) (r r' : Registry β ε) : Prop where
  issued : r.issued = r'.issued + 1
  bound : gone.number ≤ r.issued
  builders : r'.builders = othersThan gone r.builders
  evaluators : r'.evaluators = othersThan gone r.evaluators

section OthersThan

variable {γ : Type} {gone id : ProviderId}

theorem inAbsenceOf_id_iff (hid : id ≠ gone) {entries : List (Entry γ)} {e : Entry γ}
    (he : e ∈ entries.filter (·.id ≠ gone)) :
    (e.inAbsenceOf gone).id = id.inAbsenceOf gone ↔ e.id = id := by
  have hne : e.id ≠ gone := by simpa using (List.mem_filter.1 he).2
  exact ProviderId.inAbsenceOf_inj hne hid

theorem any_othersThan (hid : id ≠ gone) (entries : List (Entry γ)) :
    (othersThan gone entries).any (·.id = id.inAbsenceOf gone) = entries.any (·.id = id) := by
  rw [Bool.eq_iff_iff, List.any_eq_true, List.any_eq_true]
  constructor
  · rintro ⟨e', he', hid'⟩
    rcases List.mem_map.1 he' with ⟨e, he, rfl⟩
    have heq := (inAbsenceOf_id_iff hid he).1 (of_decide_eq_true hid')
    exact ⟨e, (List.mem_filter.1 he).1, decide_eq_true heq⟩
  · rintro ⟨e, he, hid'⟩
    have heq : e.id = id := of_decide_eq_true hid'
    have hkept : e ∈ entries.filter (·.id ≠ gone) :=
      List.mem_filter.2 ⟨he, by simpa [heq] using hid⟩
    have hfound := (inAbsenceOf_id_iff hid hkept).2 heq
    exact ⟨e.inAbsenceOf gone, List.mem_map_of_mem hkept, decide_eq_true hfound⟩

/-- Two entries may be taken out in any order. -/
theorem filter_othersThan (hid : id ≠ gone) (entries : List (Entry γ)) :
    (othersThan gone entries).filter (·.id ≠ id.inAbsenceOf gone) =
      othersThan gone (entries.filter (·.id ≠ id)) := by
  have hswap : (entries.filter (·.id ≠ id)).filter (·.id ≠ gone) =
      (entries.filter (·.id ≠ gone)).filter (·.id ≠ id) := List.filter_comm _ _ entries
  unfold othersThan
  rw [List.filter_map, hswap]
  congr 1
  apply List.filter_congr
  intro e he
  simpa using inAbsenceOf_id_iff hid he

/-- Another entry than that of `gone` is found in both lists or in neither. -/
theorem without?_othersThan (hid : id ≠ gone) (entries : List (Entry γ)) :
    without? (id.inAbsenceOf gone) (othersThan gone entries) =
      (without? id entries).map (othersThan gone) := by
  unfold without?
  rw [any_othersThan hid, filter_othersThan hid]
  split <;> rfl

end OthersThan

namespace Misses

variable {gone : ProviderId} {r r' : Registry β ε}

/-- The identities that the next registration gets in both runs belong together. -/
theorem nextId (h : r.Misses gone r') :
    r.nextId ≠ gone ∧ r.nextId.inAbsenceOf gone = r'.nextId := by
  have hlater : gone.number < r.issued + 1 := Nat.lt_succ_of_le h.bound
  constructor
  · intro heq
    rw [← heq] at hlater
    exact absurd hlater (Nat.lt_irrefl _)
  · rw [ProviderId.inAbsenceOf, Registry.nextId, if_pos hlater, h.issued]
    rfl

/-- What is registered next is among the others, since its identity is a later one. -/
theorem othersThan_concat {γ : Type} (h : r.Misses gone r') (entries : List (Entry γ)) (p : γ) :
    othersThan gone (entries ++ [⟨r.nextId, p⟩]) = othersThan gone entries ++ [⟨r'.nextId, p⟩] := by
  have hkept : [(⟨r.nextId, p⟩ : Entry γ)].filter (·.id ≠ gone) = [⟨r.nextId, p⟩] := by
    simpa using h.nextId.1
  rw [othersThan, List.filter_append, hkept, List.map_append, ← h.nextId.2]
  rfl

theorem addBuilder (h : r.Misses gone r') (b : β) :
    (r.addBuilder b).Misses gone (r'.addBuilder b) where
  issued := congrArg (· + 1) h.issued
  bound := Nat.le_succ_of_le h.bound
  builders := by
    simp only [Registry.addBuilder, h.othersThan_concat, h.builders]
  evaluators := h.evaluators

theorem addEvaluator (h : r.Misses gone r') (e : ε) :
    (r.addEvaluator e).Misses gone (r'.addEvaluator e) where
  issued := congrArg (· + 1) h.issued
  bound := Nat.le_succ_of_le h.bound
  builders := h.builders
  evaluators := by
    simp only [Registry.addEvaluator, h.othersThan_concat, h.evaluators]

/-- Another provider is removed from both registries, or from neither. -/
theorem remove? (h : r.Misses gone r') {id : ProviderId} (hid : id ≠ gone) :
    Option.Rel (Misses gone) (r.remove? id) (r'.remove? (id.inAbsenceOf gone)) := by
  simp only [Registry.remove?, h.builders, h.evaluators, without?_othersThan hid]
  cases without? id r.builders with
  | some builders => exact .some ⟨h.issued, h.bound, rfl, rfl⟩
  | none =>
      cases without? id r.evaluators with
      | some evaluators => exact .some ⟨h.issued, h.bound, rfl, rfl⟩
      | none => exact .none

end Misses

end Registry

section Deals

variable [Named β] [Named ε] {gone : ProviderId}

/-- Two runs, with and without a registration, stay in step whatever is done beside deregistering it. -/
theorem Host.deal_misses {h h' : Host β ε σ} (hm : h.registry.Misses gone h'.registry)
    {c : Change β ε} (hc : c ≠ .remove gone) :
    let run := (Host.deal c).run h
    let run' := (Host.deal (c.inAbsenceOf gone)).run h'
    run'.1 = run.1.inAbsenceOf gone ∧ run.2.registry.Misses gone run'.2.registry := by
  cases c with
  | addBuilder b =>
      exact ⟨congrArg (Dealing.builderAdded b) hm.nextId.2.symm, hm.addBuilder b⟩
  | addEvaluator e =>
      exact ⟨congrArg (Dealing.evaluatorAdded e) hm.nextId.2.symm, hm.addEvaluator e⟩
  | remove id =>
      have hid : id ≠ gone := fun heq => hc (congrArg Change.remove heq)
      have hremove := hm.remove? hid
      -- Only what comes of removing matters from here on.
      simp only [Host.deal, Change.inAbsenceOf, Host.deregister, HostM.run_bind, HostM.run_get]
      generalize h.registry.remove? id = left at hremove ⊢
      generalize h'.registry.remove? (id.inAbsenceOf gone) = left' at hremove ⊢
      cases hremove with
      | none => exact ⟨rfl, hm⟩
      | some hleft => exact ⟨rfl, hleft⟩

/-- The induction is on what is done, for any two hosts in step. -/
theorem Host.dealAll_misses {h h' : Host β ε σ} (hm : h.registry.Misses gone h'.registry)
    {changes : List (Change β ε)} (hchanges : .remove gone ∉ changes) :
    let run := (Host.dealAll changes).run h
    let run' := (Host.dealAll (changes.map (·.inAbsenceOf gone))).run h'
    run'.1 = run.1.map (·.inAbsenceOf gone) ∧ run.2.registry.Misses gone run'.2.registry := by
  induction changes generalizing h h' with
  | nil => exact ⟨rfl, hm⟩
  | cons c changes ih =>
      have hc : c ≠ .remove gone := fun heq => hchanges (heq ▸ List.mem_cons_self)
      rcases Host.deal_misses hm hc with ⟨hdealing, hstep⟩
      rcases ih hstep fun hmem => hchanges (List.mem_cons_of_mem c hmem) with ⟨hdealings, hrest⟩
      exact ⟨congrArg₂ List.cons hdealing hdealings, hrest⟩

/-- A provider stays unless it is deregistered by its identity. -/
theorem Host.dealAll_holds {h : Host β ε σ} {history : List (Dealing β ε)}
    (hf : h.registry.Follows history) (hheld : h.registry.Holds gone) {changes : List (Change β ε)}
    (hchanges : .remove gone ∉ changes) :
    ((Host.dealAll changes).run h).2.registry.Holds gone := by
  rcases Host.dealAll_follows hf changes with ⟨hdone, hfollows⟩
  rcases (hf.holds_iff gone).1 hheld with ⟨hissued, hwithdrawn⟩
  rw [hfollows.holds_iff, issuedIn, withdrawnIn, List.filterMap_append, List.filterMap_append,
    List.mem_append, List.mem_append]
  refine ⟨.inl hissued, ?_⟩
  rintro (hbefore | hnow)
  · exact hwithdrawn hbefore
  · -- A dealing that has withdrawn the identity is one of those that have been ruled out.
    rcases List.mem_filterMap.1 hnow with ⟨d, hd, hremoved⟩
    have hchange : d.change = .remove gone := by
      cases d with
      | builderAdded b id => cases hremoved
      | evaluatorAdded e id => cases hremoved
      | removal id found =>
          cases found with
          | false => cases hremoved
          | true => cases hremoved; rfl
    apply hchanges
    rw [← hdone, ← hchange]
    exact List.mem_map_of_mem hd

theorem Host.register_run (p : Provider β ε) (h : Host β ε σ) :
    let run := (Host.register p).run h
    run.1 = h.registry.nextId ∧ run.2.registry = h.registry.change p.change ∧
      run.2.surroundings = h.surroundings := by
  cases p with
  | builder b => exact ⟨rfl, rfl, rfl⟩
  | evaluator e => exact ⟨rfl, rfl, rfl⟩

end Deals

namespace Registry.Follows

variable {r : Registry β ε} {history : List (Dealing β ε)}

theorem number_le (hf : r.Follows history) {id : ProviderId} (hid : r.Holds id) :
    id.number ≤ r.issued := by
  have hissued := ((hf.holds_iff id).1 hid).1
  rw [hf.issued] at hissued
  rcases List.mem_map.1 hissued with ⟨n, hn, rfl⟩
  have hbound : n < 1 + r.issued := (List.mem_range'_1.1 hn).2
  have hle : n ≤ r.issued := by omega
  exact hle

/-- What is held has been registered before the next provider is. -/
theorem othersThan_nextId {γ : Type} (hf : r.Follows history) {entries : List (Entry γ)}
    (hheld : ∀ e ∈ entries, r.Holds e.id) : othersThan r.nextId entries = entries := by
  have hearlier : ∀ e ∈ entries, e.id.number < r.nextId.number := fun e he =>
    Nat.lt_succ_of_le (hf.number_le (hheld e he))
  have hfilter : entries.filter (·.id ≠ r.nextId) = entries := by
    apply filter_of_not_mem
    intro hmem
    rcases List.mem_map.1 hmem with ⟨e, he, heq⟩
    exact absurd (hearlier e he) (by simp [heq])
  rw [othersThan, hfilter]
  -- Nothing is left out, and no identity is late enough to be another one.
  calc
    entries.map (·.inAbsenceOf r.nextId) = entries.map id := by
      apply List.map_congr_left
      intro e he
      have hsame : e.id.inAbsenceOf r.nextId = e.id := if_neg (Nat.lt_asymm (hearlier e he))
      rw [Entry.inAbsenceOf, hsame]
      rfl
    _ = entries := List.map_id entries

/-- One more provider is held, and all else is as if it were not. -/
theorem change_misses (hf : r.Follows history) (p : Provider β ε) :
    (r.change p.change).Holds r.nextId ∧ (r.change p.change).Misses r.nextId r := by
  have hbuilders := hf.othersThan_nextId fun b hb => .inl (List.mem_map_of_mem hb)
  have hevaluators := hf.othersThan_nextId fun e he => .inr (List.mem_map_of_mem he)
  have hnew : ∀ {γ : Type} (entries : List (Entry γ)) (p : γ),
      othersThan r.nextId (entries ++ [⟨r.nextId, p⟩]) = othersThan r.nextId entries := by
    intro γ entries p
    simp [othersThan]
  -- The new entry stands in one list, and the other list is as it was.
  cases p with
  | builder b =>
      refine ⟨.inl (by simp [Registry.change, Provider.change, Registry.addBuilder]), rfl, Nat.le_refl _, ?_,
        hevaluators.symm⟩
      exact ((hnew r.builders b).trans hbuilders).symm
  | evaluator e =>
      refine ⟨.inr (by simp [Registry.change, Provider.change, Registry.addEvaluator]), rfl, Nat.le_refl _,
        hbuilders.symm, ?_⟩
      exact ((hnew r.evaluators e).trans hevaluators).symm

/-- Removing the provider is found to be possible, and leaves what there is without its registration. -/
theorem deregister_misses {h : Host β ε σ} {history : List (Dealing β ε)} {gone : ProviderId}
    (hf : h.registry.Follows history) (hheld : h.registry.Holds gone) {r' : Registry β ε}
    (hm : h.registry.Misses gone r') :
    let left := (Host.deregister gone).run h
    left.1 = true ∧ r'.builders = left.2.registry.builders.map (·.inAbsenceOf gone) ∧
      r'.evaluators = left.2.registry.evaluators.map (·.inAbsenceOf gone) := by
  intro left
  -- The list that does not hold the provider is filtered as well, which does nothing to it.
  have hleft : left.2.registry = _ :=
    (Host.deregister_host gone h).1.trans (Registry.change_remove hf.distinct gone)
  refine ⟨Host.deregister_held hf.distinct hheld, ?_, ?_⟩
  · rw [hm.builders, hleft, othersThan]
  · rw [hm.evaluators, hleft, othersThan]

end Registry.Follows

/-! ## Extending and taking back -/

/-- A provider that is registered, and deregistered later, leaves the lists that there would be without it. -/
theorem Host.dealAll_deregister [Named β] [Named ε] {h : Host β ε σ} (hreached : h.registry.Reached)
    (p : Provider β ε) {changes : List (Change β ε)} (hother : .remove h.registry.nextId ∉ changes) :
    let gone := h.registry.nextId
    let stayed := (Host.dealAll changes).run ((Host.register p).run h).2
    let left := (Host.deregister gone).run stayed.2
    let absent := (Host.dealAll (changes.map (·.inAbsenceOf gone))).run h
    left.1 = true ∧ absent.1 = stayed.1.map (·.inAbsenceOf gone) ∧
      absent.2.registry.builders = left.2.registry.builders.map (·.inAbsenceOf gone) ∧
      absent.2.registry.evaluators = left.2.registry.evaluators.map (·.inAbsenceOf gone) := by
  intro gone stayed left absent
  rcases hreached.follows with ⟨history, hf⟩
  rcases hf.change p.change with ⟨d, hf'⟩
  rcases hf.change_misses p with ⟨hheld, hmisses⟩
  rw [← (Host.register_run p h).2.1] at hf' hheld hmisses
  -- Both runs stay in step, and the provider is held all the time in the one in which it is registered.
  rcases Host.dealAll_misses hmisses hother with ⟨hdealings, hstep⟩
  have hstayed := Host.dealAll_holds hf' hheld hother
  have hfollows := (Host.dealAll_follows hf' changes).2
  rcases hfollows.deregister_misses hstayed hstep with ⟨hfound, hbuilders, hevaluators⟩
  exact ⟨hfound, hdealings, hbuilders, hevaluators⟩

/-- What quiet providers offer among surroundings that do not change but for what evaluators remember. -/
def quietOffers (s : Surroundings) : Offers Builder Evaluator Attribute where
  rule? b d := b.rule? s.facts d
  accepts e _ expression := e.accepts expression

theorem Builder.IsQuiet.plain {b : Builder} (hb : b.IsQuiet) (s : Surroundings) :
    (Provider.builder b).Plain providers s.Recalls (quietOffers s) :=
  fun _ _ d => build_settles hb d

/-- Every evaluator is plain, since it may do something when it evaluates but not when it is asked. -/
theorem Evaluator.plain (e : Evaluator) (s : Surroundings) :
    (Provider.evaluator e).Plain providers s.Recalls (quietOffers s) :=
  fun _ _ _ _ => Settles.pure _

/-- A new provider gets what all others leave, and once it is deregistered everything is as without it, but for the
identities that come after it. -/
theorem Host.register_conservative [Named β] [Named ε] (B : Behaviour β ε α σ) (Known : σ → Prop)
    (O : Offers β ε α) {h : Host β ε σ} (hreached : h.registry.Reached) (hplain : h.registry.Plain B Known O)
    (hknown : Known h.surroundings) :
    (∀ e, (Provider.evaluator e : Provider β ε).Plain B Known O → ∀ r,
      let run := (Host.registerEvaluator e).run h
      ((B.elect r).run run.2).1 = match ((B.elect r).run h).1 with
        | .registered old => .registered old
        | .fallback =>
            if O.accepts e r.subject r.expression then .registered ⟨run.1, e⟩ else .fallback) ∧
    (∀ b, (Provider.builder b : Provider β ε).Plain B Known O → ∀ d,
      let run := (Host.registerBuilder b).run h
      ((B.resolve d).run run.2).1 = match ((B.resolve d).run h).1 with
        | some made => some made
        | none => (O.rule? b d).map (⟨run.1, b⟩, ·)) ∧
    ∀ p : Provider β ε, p.Plain B Known O →
      let run := (Host.register p).run h
      ∀ changes : List (Change β ε), (∀ c ∈ changes, c.Plain B Known O) → .remove run.1 ∉ changes →
        let stayed := (Host.dealAll changes).run run.2
        let left := (Host.deregister run.1).run stayed.2
        let absent := (Host.dealAll (changes.map (·.inAbsenceOf run.1))).run h
        left.1 = true ∧ absent.1 = stayed.1.map (·.inAbsenceOf run.1) ∧
          (∀ d, ((B.resolve d).run absent.2).1 =
            ((B.resolve d).run left.2).1.map fun made => (made.1.inAbsenceOf run.1, made.2)) ∧
          ∀ r, ((B.elect r).run absent.2).1 = ((B.elect r).run left.2).1.inAbsenceOf run.1 := by
  refine ⟨?_, ?_, ?_⟩
  · intro e he r run
    have hplain' : run.2.registry.Plain B Known O := hplain.change (c := .addEvaluator e) he
    rw [elect_run hplain' hknown, elect_run hplain hknown]
    exact O.elect_concat h.registry.evaluators ⟨run.1, e⟩ r
  · intro b hb d run
    have hplain' : run.2.registry.Plain B Known O := hplain.change (c := .addBuilder b) hb
    rw [resolve_run hplain' hknown, resolve_run hplain hknown]
    exact O.resolve_concat h.registry.builders ⟨run.1, b⟩ d
  · intro p hp run changes hchanges hother stayed left absent
    rcases Host.register_run p h with ⟨hid, hregistry, hsurroundings⟩
    rw [hid] at hother
    rcases Host.dealAll_deregister hreached p hother with ⟨hfound, hdealings, hbuilders, hevaluators⟩
    rw [← hid] at hfound hdealings hbuilders hevaluators
    -- Who gets what is a matter of the lists that both hosts have in the end.
    have habsentHost := Host.dealAll_host (changes.map (·.inAbsenceOf run.1)) h
    have hstayedHost := Host.dealAll_host changes run.2
    have hleftHost := Host.deregister_host run.1 stayed.2
    have habsentPlain : absent.2.registry.Plain B Known O := by
      rw [habsentHost.1]
      apply hplain.changeAll
      intro c' hc'
      rcases List.mem_map.1 hc' with ⟨c, hc, rfl⟩
      exact (hchanges c hc).inAbsenceOf run.1
    have hleftPlain : left.2.registry.Plain B Known O := by
      have hrunPlain : run.2.registry.Plain B Known O := hregistry ▸ hplain.change hp.change
      have hstayedPlain : stayed.2.registry.Plain B Known O :=
        hstayedHost.1 ▸ hrunPlain.changeAll hchanges
      rw [hleftHost.1]
      exact hstayedPlain.change trivial
    have habsentKnown : Known absent.2.surroundings := habsentHost.2 ▸ hknown
    have hleftKnown : Known left.2.surroundings := by
      rw [hleftHost.2, hstayedHost.2, hsurroundings]
      exact hknown
    refine ⟨hfound, hdealings, ?_, ?_⟩
    · intro d
      rw [resolve_run habsentPlain habsentKnown, resolve_run hleftPlain hleftKnown]
      rw [hbuilders]
      exact O.resolve_inAbsenceOf run.1 left.2.registry.builders d
    · intro r
      rw [elect_run habsentPlain habsentKnown, elect_run hleftPlain hleftKnown, hevaluators]
      exact O.elect_inAbsenceOf run.1 left.2.registry.evaluators r

/-- An evaluator of patterns gets what the fallback had; of what comes later, the fifth provider is the fourth without
it. -/
theorem Host.register_conservative_pattern :
    let s : Surroundings := { environment := {}, facts := ⟨"", "", "", .ok 1, 1⟩ }
    let registry := (Registry.empty 0).changeAll
      [.addBuilder Builder.system, .addEvaluator (.standard .numeric)]
    let changes : List (Change Builder Evaluator) :=
      [.addEvaluator (.standard .textual), .addBuilder (.environment []), .remove ⟨2⟩, .remove ⟨5⟩]
    let h : ProviderHost := ⟨registry, s, []⟩
    let run := (Host.register (.evaluator (Evaluator.standard .pattern))).run h
    let left := (Host.deregister run.1).run ((Host.dealAll changes).run run.2).2
    let absent := (Host.dealAll (changes.map (·.inAbsenceOf run.1))).run h
    let r : Rule Attribute := ⟨⟨"x", .fixed (.ok (.bool true))⟩, "~ t"⟩
    let elected (h : ProviderHost) := name ((providers.elect r).run h).1
    h.registry.Reached ∧ h.registry.Plain providers s.Recalls (quietOffers s) ∧
      s.Recalls h.surroundings ∧ (∀ c ∈ changes, c.Plain providers s.Recalls (quietOffers s)) ∧
      .remove run.1 ∉ changes ∧ elected h = "default" ∧ elected run.2 = "regex" ∧
      left.1 = true ∧ absent.2.registry.builders.map (·.id) = [⟨1⟩] ∧
      ((providers.elect r).run absent.2).1 = ((providers.elect r).run left.2).1.inAbsenceOf run.1 := by
  intro s registry changes h run left absent r elected
  have hreached : h.registry.Reached := ⟨0, _, rfl⟩
  have hplain : h.registry.Plain providers s.Recalls (quietOffers s) := by
    refine ⟨?_, fun e _ => Evaluator.plain e.provider s⟩
    intro b hb
    rcases List.mem_singleton.1 hb with rfl
    exact Builder.IsQuiet.plain (b := .system) trivial s
  have hrecalls : s.Recalls h.surroundings := .refl s rfl
  have hchanges : ∀ c ∈ changes, c.Plain providers s.Recalls (quietOffers s) := by
    intro c hc
    simp only [changes, List.mem_cons, List.not_mem_nil, or_false] at hc
    rcases hc with rfl | rfl | rfl | rfl
    · exact Evaluator.plain _ s
    · exact Builder.IsQuiet.plain (b := .environment []) trivial s
    · trivial
    · trivial
  have hother : .remove run.1 ∉ changes := by
    have hid : run.1 = ⟨3⟩ := rfl
    simp [changes, hid]
  have hconservative := Host.register_conservative providers s.Recalls (quietOffers s) hreached hplain
    hrecalls
  rcases hconservative.2.2 _ (Evaluator.plain (.standard .pattern) s) changes hchanges hother with
    ⟨hfound, -, -, helect⟩
  exact ⟨hreached, hplain, hrecalls, hchanges, hother, by decide +kernel, by decide +kernel, hfound,
    by decide +kernel, helect r⟩

end HealthRules
