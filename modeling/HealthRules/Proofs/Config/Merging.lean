import HealthRules.Config.Decode
import Mathlib.Data.List.Basic
import Mathlib.Data.List.Induction

/-!
# Merging — what an overlay makes of a configuration

An overlay gives settings, or leaves them as they are, and changes three lists. A list that is not replaced keeps
what is not removed, in its order, and what is added goes behind that: only what is not there already, and each item
where it was added first. Items are looked up in the list that grows, so the order of additions matters and nothing
else does.

* `Added`, the items that are added, with `addOne_append` for one addition and `foldl_addOne` for all;
* `Merged`, what becomes of one list, and `merged_apply`;
* `decode?_absent`: what a document does not give is nothing to add;
* `Overlay.apply_merged`: the whole configuration.
-/

namespace HealthRules

namespace ListChange

/-! ## Additions -/

/-- Of the items `add` those that are not among `items`, each once and in the order in which they come first. -/
structure Added (items add added : List String) : Prop where
  mem_iff : ∀ x, x ∈ added ↔ x ∈ add ∧ x ∉ items
  ordered : added.Pairwise fun x y => add.idxOf x < add.idxOf y

namespace Added

variable {items add added : List String}

theorem nodup (h : Added items add added) : added.Nodup := by
  refine h.ordered.imp ?_
  intro x y hlt heq
  rw [heq] at hlt
  exact absurd hlt (Nat.lt_irrefl _)

theorem empty (items : List String) : Added items [] [] := ⟨by simp, .nil⟩

/-- An addition behind others does not change where those come first. -/
theorem ordered_append (h : Added items add added) (x : String) :
    added.Pairwise fun y z => (add ++ [x]).idxOf y < (add ++ [x]).idxOf z := by
  refine h.ordered.imp_of_mem ?_
  intro y z hy hz hlt
  rw [List.idxOf_append_of_mem ((h.mem_iff y).1 hy).1, List.idxOf_append_of_mem ((h.mem_iff z).1 hz).1]
  exact hlt

/-- An item that is there already. -/
theorem present (h : Added items add added) {x : String} (hx : x ∈ items ++ added) :
    Added items (add ++ [x]) added := by
  refine ⟨?_, h.ordered_append x⟩
  intro y
  rw [h.mem_iff, List.mem_append, List.mem_singleton]
  constructor
  · rintro ⟨hadd, hitems⟩
    exact ⟨.inl hadd, hitems⟩
  · rintro ⟨hadd | rfl, hitems⟩
    · exact ⟨hadd, hitems⟩
    · exact (h.mem_iff y).1 ((List.mem_append.1 hx).resolve_left hitems)

/-- An item that is new: it has not been added before, so it comes first here. -/
theorem absent (h : Added items add added) {x : String} (hx : x ∉ items ++ added) :
    Added items (add ++ [x]) (added ++ [x]) := by
  have hitems : x ∉ items := fun hmem => hx (List.mem_append_left _ hmem)
  have hadd : x ∉ add := fun hmem => hx (List.mem_append_right _ ((h.mem_iff x).2 ⟨hmem, hitems⟩))
  constructor
  · intro y
    rw [List.mem_append, List.mem_append, h.mem_iff, List.mem_singleton]
    constructor
    · rintro (⟨hmem, hnot⟩ | rfl)
      · exact ⟨.inl hmem, hnot⟩
      · exact ⟨.inr rfl, hitems⟩
    · rintro ⟨hmem | rfl, hnot⟩
      · exact .inl ⟨hmem, hnot⟩
      · exact .inr rfl
  · rw [List.pairwise_append]
    refine ⟨h.ordered_append x, List.pairwise_singleton _ _, ?_⟩
    intro y hy z hz
    have hyadd : y ∈ add := ((h.mem_iff y).1 hy).1
    rw [List.mem_singleton.1 hz, List.idxOf_append_of_mem hyadd, List.idxOf_append_of_notMem hadd]
    have hfirst : add.idxOf y < add.length := List.idxOf_lt_length_of_mem hyadd
    omega

end Added

/-- What one addition does. -/
theorem addOne_append {items add added : List String} (h : Added items add added) (x : String) :
    ∃ added', addOne (items ++ added) x = items ++ added' ∧ Added items (add ++ [x]) added' := by
  by_cases hx : x ∈ items ++ added
  · refine ⟨added, ?_, h.present hx⟩
    rw [addOne, if_pos (List.contains_iff_mem.2 hx)]
  · refine ⟨added ++ [x], ?_, h.absent hx⟩
    rw [addOne, if_neg (mt List.contains_iff_mem.1 hx), List.append_assoc]

/-- What all additions do, one after another. -/
theorem foldl_addOne (items add : List String) :
    ∃ added, add.foldl addOne items = items ++ added ∧ Added items add added := by
  induction add using List.reverseRecOn with
  | nil => exact ⟨[], by simp, .empty items⟩
  | append_singleton add x ih =>
      rcases ih with ⟨added, hfold, hadded⟩
      rw [List.foldl_append, List.foldl_cons, List.foldl_nil, hfold]
      exact addOne_append hadded x

/-! ## One list -/

/-- What becomes of the list `base` that is replaced, or from which items are removed before others are added. -/
structure Merged (replace : Bool) (add remove base result : List String) : Prop where
  replaced : replace = true → result = add
  merged : replace = false → ∃ added, result = base.filter (· ∉ remove) ++ added ∧
    Added (base.filter (· ∉ remove)) add added
  mem_iff : replace = false → ∀ x, x ∈ result ↔ x ∈ add ∨ x ∈ base ∧ x ∉ remove
  nodup : replace = false → base.Nodup → result.Nodup

theorem merged_apply (c : ListChange) (base : List String) :
    Merged c.replace c.add c.remove base (c.apply base) := by
  rcases c with ⟨replace, add, remove⟩
  cases replace with
  | true => exact ⟨fun _ => rfl, nofun, nofun, nofun⟩
  | false =>
      let kept := base.filter (· ∉ remove)
      have hkept : base.filter (fun item => !remove.contains item) = kept := by
        simp [kept, List.contains_eq_mem]
      -- What is added comes behind all that is kept: the items that are not there, each of them once.
      rcases foldl_addOne kept add with ⟨added, hfold, hadded⟩
      have hresult : apply ⟨false, add, remove⟩ base = kept ++ added := by
        simp only [apply, hkept]
        exact hfold
      refine ⟨nofun, fun _ => ⟨added, hresult, hadded⟩, ?_, ?_⟩
      · intro _ x
        have hmem : x ∈ kept ↔ x ∈ base ∧ x ∉ remove := by simp [kept]
        rw [hresult, List.mem_append, hadded.mem_iff, ← hmem]
        constructor
        · rintro (hbase | ⟨hadd, -⟩)
          · exact .inr hbase
          · exact .inl hadd
        · rintro (hadd | hbase)
          · by_cases hbase : x ∈ kept
            · exact .inl hbase
            · exact .inr ⟨hadd, hbase⟩
          · exact .inl hbase
      · intro _ hbase
        rw [hresult, List.nodup_append]
        refine ⟨hbase.filter _, hadded.nodup, ?_⟩
        rintro x hx _ hadd rfl
        exact ((hadded.mem_iff x).1 hadd).2 hx

end ListChange

/-! ## Documents -/

section Documents

variable {v : Toml.Value} {s : Section}

/-- A key that is missing has the value that stands for it. -/
theorem Section.orElse_absent {α : Type} {decode : Toml.Value → Option α} {default : α} {index : Nat}
    {key : String} (h : s.value? index key = none) :
    s.orElse decode default index key = some default := by
  simp only [Section.orElse, h]

theorem BuiltinsOverlay.decode?_absent {o : BuiltinsOverlay} (hs : Section.ofValue? v = some s)
    (ho : decode? v = some o) :
    (s.value? 1 "builders" = none → o.builders = []) ∧
      (s.value? 2 "evaluators" = none → o.evaluators = []) := by
  simp only [decode?, hs, bind, Option.bind_some, Option.bind_eq_some_iff] at ho
  rcases ho with ⟨_, -, builders, hbuilders, evaluators, hevaluators, _, -, _, -, ho⟩
  cases ho
  constructor
  · intro habsent
    rw [Section.orElse_absent habsent] at hbuilders
    exact (Option.some.inj hbuilders).symm
  · intro habsent
    rw [Section.orElse_absent habsent] at hevaluators
    exact (Option.some.inj hevaluators).symm

theorem ListChange.decodeAllow?_absent {c : ListChange} (hs : Section.ofValue? v = some s)
    (hc : decodeAllow? v = some c) : s.value? 1 "allow" = none → c.add = [] := by
  simp only [decodeAllow?, hs, bind, Option.bind_some, Option.bind_eq_some_iff] at hc
  rcases hc with ⟨_, -, allow, hallow, _, -, hc⟩
  cases hc
  intro habsent
  rw [Section.orElse_absent habsent] at hallow
  exact (Option.some.inj hallow).symm

end Documents

/-! ## Whole configurations -/

/-- A setting that is given is taken, and one that is not given stays. -/
def Setting {α : Type} (given : Option α) (below result : α) : Prop :=
  (∀ v, given = some v → result = v) ∧ (given = none → result = below)

theorem setting_getD {α : Type} (given : Option α) (below : α) :
    Setting given below (given.getD below) := by
  cases given with
  | none => exact ⟨nofun, fun _ => rfl⟩
  | some v => exact ⟨fun _ h => Option.some.inj h, nofun⟩

/-- A setting is taken from the overlay if it is there, and each list is merged by the flag of its own section. -/
theorem Overlay.apply_merged :
    (∀ (o : Overlay) (base : Config),
      let result := o.apply base
      (Setting o.settings.logLevel base.settings.logLevel result.settings.logLevel ∧
        Setting o.settings.resultsLog base.settings.resultsLog result.settings.resultsLog ∧
        Setting o.settings.unreadableIsError base.settings.unreadableIsError
          result.settings.unreadableIsError) ∧
      (ListChange.Merged o.builtins.replace o.builtins.builders o.builtins.removeBuilders
          base.builtins.builders result.builtins.builders ∧
        ListChange.Merged o.builtins.replace o.builtins.evaluators o.builtins.removeEvaluators
          base.builtins.evaluators result.builtins.evaluators ∧
        ListChange.Merged o.allow.replace o.allow.add o.allow.remove base.allow result.allow) ∧
      (result.settings = (apply { settings := o.settings } { settings := base.settings }).settings ∧
        result.builtins = (apply { builtins := o.builtins } { builtins := base.builtins }).builtins ∧
        result.allow = (apply { allow := o.allow } { allow := base.allow }).allow)) ∧
    (∀ v s, Section.ofValue? v = some s →
      (∀ o, BuiltinsOverlay.decode? v = some o →
        (s.value? 1 "builders" = none → o.builders = []) ∧
          (s.value? 2 "evaluators" = none → o.evaluators = [])) ∧
      ∀ c, ListChange.decodeAllow? v = some c → s.value? 1 "allow" = none → c.add = []) := by
  refine ⟨?_, ?_⟩
  · intro o base result
    refine ⟨⟨?_, ?_, ?_⟩, ⟨?_, ?_, ?_⟩, rfl, rfl, rfl⟩
    · exact setting_getD _ _
    · exact setting_getD _ _
    · exact setting_getD _ _
    · exact o.builtins.builderChange.merged_apply base.builtins.builders
    · exact o.builtins.evaluatorChange.merged_apply base.builtins.evaluators
    · exact o.allow.merged_apply base.allow
  · intro v s hs
    refine ⟨?_, ?_⟩
    · intro o ho
      exact BuiltinsOverlay.decode?_absent hs ho
    · intro c hc
      exact ListChange.decodeAllow?_absent hs hc

/-- Items that are removed and added, added twice, and replaced by nothing. -/
theorem Overlay.apply_merged_readded :
    let o : Overlay := {
      builtins := { builders := ["sys", "disk", "sys", "muppet", "disk"],
                    removeBuilders := ["env", "sys"] }
      allow := { replace := true, add := ["HOME", "HOME"], remove := ["HOME"] } }
    let result := o.apply .standard
    let v : Toml.Value :=
      .table .header [("replace", .boolean true), ("builders", .array [.text "muppet"])]
    let given : BuiltinsOverlay := { replace := true, builders := ["muppet"] }
    (result.builtins.builders = ["muppet", "sys", "disk"] ∧ "sys" ∈ result.builtins.builders ∧
      result.builtins.builders.Nodup ∧ result.allow = ["HOME", "HOME"]) ∧
    BuiltinsOverlay.decode? v = some given ∧ given.evaluators = [] := by
  intro o result v given
  have hmerged := (apply_merged.1 o .standard).2.1
  have hsys : "sys" ∈ o.builtins.builders := by decide
  have hstandard : Config.standard.builtins.builders.Nodup := by decide
  have hgiven : BuiltinsOverlay.decode? v = some given := by decide
  have habsent := (apply_merged.2 v (.named _) rfl).1 given hgiven
  exact ⟨⟨by decide, (hmerged.1.mem_iff rfl "sys").2 (.inl hsys), hmerged.1.nodup rfl hstandard,
    hmerged.2.2.replaced rfl⟩, hgiven, habsent.2 (by decide)⟩

end HealthRules
