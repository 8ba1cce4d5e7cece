import HealthRules.Proofs.Provider.Answers
import HealthRules.Setup

/-!
# Registration — the registry that a configuration makes

Registering the providers that a configuration names puts them into the registry in the order of the names,
and does nothing else that a provider could see.

* `Entry.numbered`, providers with one identity after another, and `foldl_addBuilder_eq` and `foldl_addEvaluator_eq`:
  what registering them one by one comes to;
* `registerBuilders_run` and `registerEvaluators_run`, by induction on the names;
* `Config.registry` and `Config.register_run`: the registry that an empty one becomes;
* `Config.registry_isQuiet`.
-/

namespace HealthRules

/-! ## Providers one after another -/

namespace Entry

variable {α : Type}

/-- Providers with the identities that follow the `issued` ones. -/
def numbered (issued : Nat) : List α → List (Entry α)
  | [] => []
  | p :: ps => ⟨⟨issued + 1⟩, p⟩ :: numbered (issued + 1) ps

theorem numbered_provider (issued : Nat) (ps : List α) : (numbered issued ps).map (·.provider) = ps := by
  induction ps generalizing issued with
  | nil => rfl
  | cons p ps ih => exact congrArg (p :: ·) (ih (issued + 1))

theorem numbered_id (issued : Nat) (ps : List α) :
    (numbered issued ps).map (·.id) = (List.range' (issued + 1) ps.length).map ProviderId.mk := by
  induction ps generalizing issued with
  | nil => rfl
  | cons p ps ih => exact congrArg (⟨issued + 1⟩ :: ·) (ih (issued + 1))

end Entry

namespace Config

theorem foldl_addBuilder_eq (bs : List Builder) (r : Registry Builder Evaluator) :
    bs.foldl .addBuilder r =
      { r with issued := r.issued + bs.length, builders := r.builders ++ Entry.numbered r.issued bs } := by
  induction bs generalizing r with
  | nil => simp [Entry.numbered]
  | cons b bs ih =>
      rw [List.foldl_cons, ih]
      simp [Registry.addBuilder, Registry.nextId, Entry.numbered, Nat.add_assoc, Nat.add_comm 1]

theorem foldl_addEvaluator_eq (es : List Evaluator) (r : Registry Builder Evaluator) :
    es.foldl .addEvaluator r =
      { r with issued := r.issued + es.length, evaluators := r.evaluators ++ Entry.numbered r.issued es } := by
  induction es generalizing r with
  | nil => simp [Entry.numbered]
  | cons e es ih =>
      rw [List.foldl_cons, ih]
      simp [Registry.addEvaluator, Registry.nextId, Entry.numbered, Nat.add_assoc, Nat.add_comm 1]

/-! ## Names one after another -/

theorem registerBuilder_run (c : Config) (name : String) (h : ProviderHost) :
    let h' := ((c.registerBuilder name).run h).2
    h'.registry = ((Builder.ofName? h.registry.serial c.allow name).toList).foldl
      Registry.addBuilder h.registry ∧ h'.surroundings = h.surroundings := by
  simp only [registerBuilder, HostM.run_bind, HostM.run_get]
  cases Builder.ofName? h.registry.serial c.allow name with
  | none => exact ⟨rfl, rfl⟩
  | some b => exact ⟨rfl, rfl⟩

theorem registerEvaluator_run (name : String) (h : ProviderHost) :
    let h' := ((registerEvaluator name).run h).2
    h'.registry = ((StandardEvaluator.ofName? name).map .standard).toList.foldl
      Registry.addEvaluator h.registry ∧ h'.surroundings = h.surroundings := by
  simp only [registerEvaluator]
  cases StandardEvaluator.ofName? name with
  | none => exact ⟨rfl, rfl⟩
  | some e => exact ⟨rfl, rfl⟩

theorem registerBuilders_run (c : Config) (names : List String) (h : ProviderHost) :
    let h' := ((c.registerBuilders names).run h).2
    h'.registry = (names.filterMap (Builder.ofName? h.registry.serial c.allow)).foldl
      Registry.addBuilder h.registry ∧ h'.surroundings = h.surroundings := by
  induction names generalizing h with
  | nil => exact ⟨rfl, rfl⟩
  | cons name names ih =>
      rcases registerBuilder_run c name h with ⟨hregistry, hsurroundings⟩
      rcases ih ((c.registerBuilder name).run h).2 with ⟨hregistry', hsurroundings'⟩
      simp only [registerBuilders, HostM.run_bind]
      refine ⟨?_, hsurroundings'.trans hsurroundings⟩
      -- Builders that count providers know the registry by its serial number, which stays the same.
      have hserial : (((Builder.ofName? h.registry.serial c.allow name).toList).foldl
          Registry.addBuilder h.registry).serial = h.registry.serial := by rw [foldl_addBuilder_eq]
      rw [hregistry', hregistry, hserial, List.filterMap_cons]
      cases Builder.ofName? h.registry.serial c.allow name with
      | none => rfl
      | some b => rfl

theorem registerEvaluators_run (names : List String) (h : ProviderHost) :
    let h' := ((registerEvaluators names).run h).2
    h'.registry = (names.filterMap fun name => (StandardEvaluator.ofName? name).map .standard).foldl
      Registry.addEvaluator h.registry ∧ h'.surroundings = h.surroundings := by
  induction names generalizing h with
  | nil => exact ⟨rfl, rfl⟩
  | cons name names ih =>
      rcases registerEvaluator_run name h with ⟨hregistry, hsurroundings⟩
      rcases ih ((registerEvaluator name).run h).2 with ⟨hregistry', hsurroundings'⟩
      simp only [registerEvaluators, HostM.run_bind]
      refine ⟨?_, hsurroundings'.trans hsurroundings⟩
      rw [hregistry', hregistry, List.filterMap_cons]
      cases StandardEvaluator.ofName? name with
      | none => rfl
      | some e => rfl

/-! ## The registry -/

/-- The builders that a configuration names, in order. -/
def namedBuilders (c : Config) (serial : Nat) : List Builder :=
  c.builtins.builders.filterMap (Builder.ofName? serial c.allow)

/-- The evaluators that a configuration names, in order. -/
def namedEvaluators (c : Config) : List Evaluator :=
  c.builtins.evaluators.filterMap fun name => (StandardEvaluator.ofName? name).map .standard

/-- The registry that a configuration makes of an empty one. -/
def registry (c : Config) (serial : Nat) : Registry Builder Evaluator :=
  c.namedEvaluators.foldl .addEvaluator ((c.namedBuilders serial).foldl .addBuilder (.empty serial))

/-- The builders have the first identities, and the evaluators those that follow. -/
theorem registry_eq (c : Config) (serial : Nat) :
    c.registry serial =
      { serial
        issued := (c.namedBuilders serial).length + c.namedEvaluators.length
        builders := Entry.numbered 0 (c.namedBuilders serial)
        evaluators := Entry.numbered (c.namedBuilders serial).length c.namedEvaluators } := by
  rw [registry, foldl_addEvaluator_eq, foldl_addBuilder_eq]
  simp [Registry.empty]

theorem registry_serial (c : Config) (serial : Nat) : (c.registry serial).serial = serial := by
  rw [registry_eq]

theorem register_run (c : Config) {h : ProviderHost} {serial : Nat} (hempty : h.registry = .empty serial) :
    let h' := (c.register.run h).2
    h'.registry = c.registry serial ∧ h'.surroundings = h.surroundings := by
  rcases registerBuilders_run c c.builtins.builders h with ⟨hbuilders, hsurroundings⟩
  rcases registerEvaluators_run c.builtins.evaluators
      ((c.registerBuilders c.builtins.builders).run h).2 with ⟨hevaluators, hsurroundings'⟩
  simp only [register, HostM.run_bind]
  refine ⟨?_, hsurroundings'.trans hsurroundings⟩
  rw [hevaluators, hbuilders, hempty]
  rfl

/-! ## Its providers -/

theorem registry_builders (c : Config) (serial : Nat) :
    (c.registry serial).builders.map (·.provider) = c.namedBuilders serial := by
  rw [registry_eq, Entry.numbered_provider]

theorem registry_evaluators (c : Config) (serial : Nat) :
    (c.registry serial).evaluators.map (·.provider) = c.namedEvaluators := by
  rw [registry_eq, Entry.numbered_provider]

theorem isQuiet_of_mem_namedBuilders {c : Config} {serial : Nat} {b : Builder}
    (hb : b ∈ c.namedBuilders serial) : b.IsQuiet := by
  rcases List.mem_filterMap.1 hb with ⟨name, -, hname⟩
  unfold Builder.ofName? at hname
  split at hname
  · cases hname
    trivial
  · cases hname
    trivial
  · cases hname
    trivial
  · cases hname

theorem isQuiet_of_mem_namedEvaluators {c : Config} {e : Evaluator} (he : e ∈ c.namedEvaluators) :
    e.IsQuiet := by
  rcases List.mem_filterMap.1 he with ⟨name, -, hname⟩
  rcases Option.map_eq_some_iff.1 hname with ⟨kind, -, rfl⟩
  trivial

/-- A configuration names none but quiet providers. -/
theorem registry_isQuiet (c : Config) (serial : Nat) : (c.registry serial).IsQuiet := by
  constructor
  · intro b hb
    have hmem : b.provider ∈ c.namedBuilders serial := by
      rw [← registry_builders]
      exact List.mem_map_of_mem hb
    exact isQuiet_of_mem_namedBuilders hmem
  · intro e he
    have hmem : e.provider ∈ c.namedEvaluators := by
      rw [← registry_evaluators c serial]
      exact List.mem_map_of_mem he
    exact isQuiet_of_mem_namedEvaluators hmem

end Config

end HealthRules
