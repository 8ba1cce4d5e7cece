import HealthRules.Config.Overlay
import HealthRules.Proofs.Config.Registration
import HealthRules.Proofs.Engine.Extension

/-!
# Mirroring — the names of a configuration in its registry

The registry that a configuration makes has a provider for each known name in its lists, in the order of the lists and
as often as the name is there. Identities are given in the same order, to the builders first. A name that is not known
takes no identity, so that the place of a provider among the known names tells its identity, and deregistering the
identity takes away the provider at that place.

* `Builder.labels` and `StandardEvaluator.labels`, the known names, and `names_filterMap`;
* `Registry.Mirrors`, with `Config.mirrors_registry`: names and identities;
* `Registry.change_remove_builder` and `Registry.change_remove_evaluator`, the provider at a place, and
  `Registry.changeAll_remove`: what deregistering takes away, once and repeatedly;
* `Config.register_mirrors`.
-/

namespace HealthRules

/-! ## Known names -/

/-- The names that builders of the library have. -/
def Builder.labels : List String := ["muppet", "env", "sys"]

/-- The names under which evaluators of the library are registered. -/
def StandardEvaluator.labels : List String := ["numeric", "regex"]

theorem Builder.name_ofName? (serial : Nat) (allow : List String) (label : String) :
    (ofName? serial allow label).map name = if label ∈ labels then some label else none := by
  unfold ofName?
  split
  · rfl
  · rfl
  · rfl
  · next hmuppet henv hsys =>
      have hunknown : label ∉ labels := by simpa [labels] using ⟨hmuppet, henv, hsys⟩
      rw [if_neg hunknown]
      rfl

theorem StandardEvaluator.name_ofName? (label : String) :
    (ofName? label).map name = if label ∈ labels then some label else none := by
  unfold ofName?
  split
  · rfl
  · rfl
  · next hnumeric hregex =>
      have hunknown : label ∉ labels := by simpa [labels] using ⟨hnumeric, hregex⟩
      rw [if_neg hunknown]
      rfl

theorem Evaluator.name_ofName? (label : String) :
    ((StandardEvaluator.ofName? label).map Evaluator.standard).map name =
      if label ∈ StandardEvaluator.labels then some label else none := by
  rw [← StandardEvaluator.name_ofName?, Option.map_map]
  rfl

section Known

variable {α : Type} [Named α] {ofName? : String → Option α} {labels : List String}

/-- Where each known name gets a provider of that name, the providers have the known names. -/
theorem names_filterMap
    (hname : ∀ label, (ofName? label).map name = if label ∈ labels then some label else none)
    (given : List String) : (given.filterMap ofName?).map name = given.filter (· ∈ labels) := by
  rw [List.map_filterMap, ← List.filterMap_eq_filter]
  congr 1
  funext label
  rw [hname]
  simp [Option.guard]

/-- Where no other name gets a provider, only known names count. -/
theorem filterMap_known
    (hname : ∀ label, (ofName? label).map name = if label ∈ labels then some label else none)
    (given : List String) : (given.filter (· ∈ labels)).filterMap ofName? = given.filterMap ofName? := by
  rw [List.filterMap_filter]
  congr 1
  funext label
  by_cases hknown : label ∈ labels
  · rw [if_pos (decide_eq_true hknown)]
  · have hnone := hname label
    rw [if_neg hknown, Option.map_eq_none_iff] at hnone
    rw [hnone, ite_self]

end Known

namespace Config

/-- The names of builders that are known, as often as they are given. -/
def knownBuilders (c : Config) : List String := c.builtins.builders.filter (· ∈ Builder.labels)

/-- The names of evaluators that are known, as often as they are given. -/
def knownEvaluators (c : Config) : List String :=
  c.builtins.evaluators.filter (· ∈ StandardEvaluator.labels)

/-- The configuration without the names that are not known. -/
def withoutUnknown (c : Config) : Config := { c with builtins := ⟨c.knownBuilders, c.knownEvaluators⟩ }

theorem names_namedBuilders (c : Config) (serial : Nat) :
    (c.namedBuilders serial).map name = c.knownBuilders :=
  names_filterMap (Builder.name_ofName? serial c.allow) _

theorem names_namedEvaluators (c : Config) : c.namedEvaluators.map name = c.knownEvaluators :=
  names_filterMap Evaluator.name_ofName? _

/-- Unknown names leave no trace in the registry. -/
theorem registry_withoutUnknown (c : Config) (serial : Nat) :
    c.withoutUnknown.registry serial = c.registry serial := by
  have hbuilders : c.withoutUnknown.namedBuilders serial = c.namedBuilders serial :=
    filterMap_known (Builder.name_ofName? serial c.allow) _
  have hevaluators : c.withoutUnknown.namedEvaluators = c.namedEvaluators :=
    filterMap_known Evaluator.name_ofName? _
  rw [registry, registry, hbuilders, hevaluators]

end Config

/-! ## The registry of a configuration -/

namespace Registry

/-- The registry has the known names of a configuration in their order, and in this order the identities from 1 on,
first for builders and then for evaluators. The fallback has no identity. -/
structure Mirrors (r : Registry Builder Evaluator) (c : Config) : Prop where
  builderNames : r.builderNames = c.knownBuilders
  evaluatorNames : r.evaluatorNames = c.knownEvaluators ++ [fallbackName]
  builderIds : r.builders.map (·.id) = (List.range' 1 c.knownBuilders.length).map ProviderId.mk
  evaluatorIds : r.evaluators.map (·.id) =
    (List.range' (c.knownBuilders.length + 1) c.knownEvaluators.length).map ProviderId.mk
  nextId : r.nextId = ⟨c.knownBuilders.length + c.knownEvaluators.length + 1⟩

end Registry

theorem Config.mirrors_registry (c : Config) (serial : Nat) : (c.registry serial).Mirrors c := by
  have hbuilders := c.names_namedBuilders serial
  have hevaluators := c.names_namedEvaluators
  have hp : (c.namedBuilders serial).length = c.knownBuilders.length := by
    rw [← hbuilders, List.length_map]
  have hq : c.namedEvaluators.length = c.knownEvaluators.length := by
    rw [← hevaluators, List.length_map]
  constructor
  · rw [← hbuilders, ← registry_builders c serial, List.map_map]
    rfl
  · rw [← hevaluators, ← registry_evaluators c serial, Registry.evaluatorNames, Registry.candidates,
      List.map_append, List.map_map, List.map_map]
    rfl
  · rw [registry_eq, Entry.numbered_id, hp]
  · rw [registry_eq, Entry.numbered_id, hp, hq]
  · rw [registry_eq, Registry.nextId, hp, hq]

/-! ## Deregistering -/

namespace Registry

section Removing

variable {β ε α : Type} {r : Registry β ε}

/-- Where identities are distinct, leaving out the identity of an entry is leaving out its place. -/
theorem filter_eq_eraseIdx {entries : List (Entry α)} (hnodup : (entries.map (·.id)).Nodup) {i : Nat}
    {e : Entry α} (hi : entries[i]? = some e) : entries.filter (·.id ≠ e.id) = entries.eraseIdx i := by
  rcases List.getElem?_eq_some_iff.1 hi with ⟨hlt, rfl⟩
  have hsplit : entries.take i ++ entries[i] :: entries.drop (i + 1) = entries := by
    rw [List.getElem_cons_drop, List.take_append_drop]
  rw [← hsplit] at hnodup
  have hfilter := filter_of_split hnodup
  rw [hsplit] at hfilter
  rw [hfilter, List.eraseIdx_eq_take_drop_succ]

/-- The builder at a place is deregistered by its identity, which no evaluator has. -/
theorem change_remove_builder (hr : r.Distinct) {i : Nat} {b : Entry β} (hi : r.builders[i]? = some b) :
    r.change (.remove b.id) = { r with builders := r.builders.eraseIdx i } := by
  rcases List.nodup_append'.1 hr with ⟨hbuilders, -, hapart⟩
  have hother : b.id ∉ r.evaluators.map (·.id) := hapart (List.mem_map_of_mem (List.mem_of_getElem? hi))
  rw [change_remove hr, filter_eq_eraseIdx hbuilders hi, filter_of_not_mem hother]

/-- The evaluator at a place is deregistered by its identity, which no builder has. -/
theorem change_remove_evaluator (hr : r.Distinct) {i : Nat} {e : Entry ε} (hi : r.evaluators[i]? = some e) :
    r.change (.remove e.id) = { r with evaluators := r.evaluators.eraseIdx i } := by
  rcases List.nodup_append'.1 hr with ⟨-, hevaluators, hapart⟩
  have hother : e.id ∉ r.builders.map (·.id) :=
    fun hmem => hapart hmem (List.mem_map_of_mem (List.mem_of_getElem? hi))
  rw [change_remove hr, filter_eq_eraseIdx hevaluators hi, filter_of_not_mem hother]

theorem distinct_change_remove (hr : r.Distinct) (id : ProviderId) : (r.change (.remove id)).Distinct := by
  rw [change_remove hr]
  exact List.Nodup.sublist ((List.filter_sublist.map _).append (List.filter_sublist.map _)) hr

/-- Deregistering one identity after another leaves what has none of them, by induction on the identities. -/
theorem changeAll_remove (hr : r.Distinct) (ids : List ProviderId) :
    r.changeAll (ids.map .remove) = { r with builders := r.builders.filter (·.id ∉ ids)
                                             evaluators := r.evaluators.filter (·.id ∉ ids) } := by
  induction ids generalizing r with
  | nil => simp [changeAll]
  | cons id ids ih =>
      -- The identities are left out of both lists in the same way.
      have hboth : ∀ {γ : Type} (entries : List (Entry γ)),
          (entries.filter (·.id ≠ id)).filter (·.id ∉ ids) = entries.filter (·.id ∉ id :: ids) := by
        intro γ entries
        rw [List.filter_filter]
        simp [Bool.and_comm]
      calc
        r.changeAll ((id :: ids).map .remove) = (r.change (.remove id)).changeAll (ids.map .remove) := rfl
        _ = _ := by rw [ih (distinct_change_remove hr id), change_remove hr, hboth, hboth]

end Removing

/-- The entry at a place of entries with one identity after another. -/
theorem exists_entry {α : Type} {entries : List (Entry α)} {first count : Nat}
    (hids : entries.map (·.id) = (List.range' first count).map ProviderId.mk) {i : Nat} (hi : i < count) :
    ∃ e, entries[i]? = some e ∧ e.id = ⟨first + i⟩ := by
  have hid : (entries.map (·.id))[i]? = some ⟨first + i⟩ := by
    rw [hids, List.getElem?_map, List.getElem?_range' hi, Nat.one_mul]
    rfl
  rw [List.getElem?_map, Option.map_eq_some_iff] at hid
  exact hid

namespace Mirrors

variable {r : Registry Builder Evaluator} {c : Config}

theorem distinct (h : r.Mirrors c) : r.Distinct := by
  unfold Distinct
  -- The identities of the evaluators go on where those of the builders end.
  rw [h.builderIds, h.evaluatorIds, ← List.map_append, Nat.add_comm c.knownBuilders.length,
    List.range'_append_1]
  exact nodup_numbered _ _

theorem change_builder (h : r.Mirrors c) {i : Nat} (hi : i < c.knownBuilders.length) :
    r.Holds ⟨i + 1⟩ ∧ r.change (.remove ⟨i + 1⟩) = { r with builders := r.builders.eraseIdx i } := by
  rcases exists_entry h.builderIds hi with ⟨b, hb, hid⟩
  rw [Nat.add_comm i, ← hid]
  exact ⟨.inl (List.mem_map_of_mem (List.mem_of_getElem? hb)), change_remove_builder h.distinct hb⟩

theorem change_evaluator (h : r.Mirrors c) {i : Nat} (hi : i < c.knownEvaluators.length) :
    r.Holds ⟨c.knownBuilders.length + 1 + i⟩ ∧
      r.change (.remove ⟨c.knownBuilders.length + 1 + i⟩) = { r with evaluators := r.evaluators.eraseIdx i } := by
  rcases exists_entry h.evaluatorIds hi with ⟨e, he, hid⟩
  rw [← hid]
  exact ⟨.inr (List.mem_map_of_mem (List.mem_of_getElem? he)), change_remove_evaluator h.distinct he⟩

end Mirrors

end Registry

/-! ## Unknown names -/

namespace Config

/-- A name of no builder is told, and nothing is registered for it. -/
theorem registerBuilder_unknown (c : Config) {label : String} (hunknown : label ∉ Builder.labels)
    (h : ProviderHost) :
    (c.registerBuilder label).run h = ((), { h with past := .builderUnknown label :: h.past }) := by
  have hname := Builder.name_ofName? h.registry.serial c.allow label
  rw [if_neg hunknown, Option.map_eq_none_iff] at hname
  simp only [registerBuilder, HostM.run_bind, HostM.run_get, hname]
  rfl

theorem registerEvaluator_unknown {label : String} (hunknown : label ∉ StandardEvaluator.labels)
    (h : ProviderHost) :
    (registerEvaluator label).run h = ((), { h with past := .evaluatorUnknown label :: h.past }) := by
  have hname := StandardEvaluator.name_ofName? label
  rw [if_neg hunknown, Option.map_eq_none_iff] at hname
  simp only [registerEvaluator, hname]
  rfl

/-- The registry of a configuration has a provider for each known name of its lists, in their order and with the
identities from 1 on. Deregistering removes the provider of an identity and nothing else. -/
theorem register_mirrors (c : Config) (serial : Nat) (surroundings : Surroundings) (past : List Event) :
    let start : ProviderHost := ⟨.empty serial, surroundings, past⟩
    let h := (c.register.run start).2
    let r := h.registry
    let p := c.knownBuilders.length
    let q := c.knownEvaluators.length
    (r.Mirrors c ∧ h.surroundings = surroundings) ∧
      (r = (c.withoutUnknown.register.run start).2.registry ∧
        (∀ label ∉ Builder.labels, ∀ h' : ProviderHost, (c.registerBuilder label).run h' =
          ((), { h' with past := .builderUnknown label :: h'.past })) ∧
        ∀ label ∉ StandardEvaluator.labels, ∀ h' : ProviderHost, (registerEvaluator label).run h' =
          ((), { h' with past := .evaluatorUnknown label :: h'.past })) ∧
      (∀ provider, ((Host.register provider).run h).1 = ⟨p + q + 1⟩) ∧
      (∀ i < p, let run := (Host.deregister ⟨i + 1⟩).run h
        run.1 = true ∧ run.2.registry = { r with builders := r.builders.eraseIdx i }) ∧
      (∀ i < q, let run := (Host.deregister ⟨p + 1 + i⟩).run h
        run.1 = true ∧ run.2.registry = { r with evaluators := r.evaluators.eraseIdx i }) ∧
      ∀ ids : List ProviderId, ((Host.dealAll (ids.map .remove)).run h).2.registry =
        { r with builders := r.builders.filter (·.id ∉ ids)
                 evaluators := r.evaluators.filter (·.id ∉ ids) } := by
  intro start h r p q
  rcases c.register_run (h := start) rfl with ⟨hregistry, hsurroundings⟩
  have hmirrors : r.Mirrors c := by
    have hmade := c.mirrors_registry serial
    rw [← hregistry] at hmade
    exact hmade
  -- Names that are not known make no provider, and so they may as well be left out.
  have hclean : (c.withoutUnknown.register.run start).2.registry = r := by
    rw [(c.withoutUnknown.register_run (h := start) rfl).1, registry_withoutUnknown, ← hregistry]
  refine ⟨⟨hmirrors, hsurroundings⟩, ⟨hclean.symm, ?_, ?_⟩, ?_, ?_, ?_, ?_⟩
  · intro label hunknown h'
    exact c.registerBuilder_unknown hunknown h'
  · intro label hunknown h'
    exact registerEvaluator_unknown hunknown h'
  · intro provider
    rw [(Host.register_run provider h).1]
    exact hmirrors.nextId
  · intro i hi run
    rcases hmirrors.change_builder hi with ⟨hheld, hchange⟩
    exact ⟨Host.deregister_held hmirrors.distinct hheld, (Host.deregister_host _ h).1.trans hchange⟩
  · intro i hi run
    rcases hmirrors.change_evaluator hi with ⟨hheld, hchange⟩
    exact ⟨Host.deregister_held hmirrors.distinct hheld, (Host.deregister_host _ h).1.trans hchange⟩
  · intro ids
    rw [(Host.dealAll_host _ h).1]
    exact Registry.changeAll_remove hmirrors.distinct ids

/-- An unknown name takes no identity: the second one is that of `env`, the sixth that of the second `regex`. -/
theorem register_mirrors_partlyKnown :
    let o : Overlay := { builtins := { replace := true, builders := ["sys", "disk", "env", "sys"],
                                       evaluators := ["regex", "numeric", "regex"] } }
    let c := o.apply .standard
    let surroundings : Surroundings := { environment := {}, facts := ⟨"linux", "unix", "x86_64", .ok 4, 1⟩ }
    let h := (c.register.run ⟨.empty 0, surroundings, []⟩).2
    let withoutEnv := (Host.deregister ⟨2⟩).run h
    let withoutLast := (Host.deregister ⟨6⟩).run h
    (h.registry.builderNames = ["sys", "env", "sys"] ∧
      h.registry.evaluatorNames = ["regex", "numeric", "regex", "default"]) ∧
      (c.registerBuilder "disk").run h = ((), { h with past := .builderUnknown "disk" :: h.past }) ∧
      ((Host.register (.builder .system)).run h).1 = ⟨7⟩ ∧
      (withoutEnv.1 = true ∧ withoutEnv.2.registry.builderNames = ["sys", "sys"]) ∧
      (withoutLast.1 = true ∧ withoutLast.2.registry.evaluatorNames = ["regex", "numeric", "default"]) ∧
      ((Host.dealAll ([⟨4⟩, ⟨1⟩].map .remove)).run h).2.registry.builderNames = ["env", "sys"] := by
  intro o c surroundings h withoutEnv withoutLast
  rcases c.register_mirrors 0 surroundings [] with
    ⟨⟨hmirrors, -⟩, ⟨-, hunknown, -⟩, hnext, hbuilder, hevaluator, hremoved⟩
  rcases hbuilder 1 (by decide) with ⟨hheld, hregistry⟩
  rcases hevaluator 2 (by decide) with ⟨hheld', hregistry'⟩
  refine ⟨⟨hmirrors.builderNames, hmirrors.evaluatorNames⟩, hunknown "disk" (by decide) h,
    hnext (.builder .system), ⟨hheld, ?_⟩, ⟨hheld', ?_⟩, ?_⟩
  · exact (congrArg Registry.builderNames hregistry).trans (by decide +kernel)
  · exact (congrArg Registry.evaluatorNames hregistry').trans (by decide +kernel)
  · exact (congrArg Registry.builderNames (hremoved [⟨4⟩, ⟨1⟩])).trans (by decide +kernel)

end Config

end HealthRules
