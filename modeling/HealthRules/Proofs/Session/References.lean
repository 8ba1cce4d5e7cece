import HealthRules.Proofs.Engine.Histories
import HealthRules.Proofs.Provider.Answers
import HealthRules.Session.Registries

/-!
# References — registries are there as long as they are referred to

The number that is kept with a registry is the number of references to it, whatever is done with references in a
sensible way: a reference is shared by one who has it, and given up once. So a registry is there if and only if
somebody has a reference to it. A registry that has gone does not come back, and one that is still there has
become what it is by changes.

* `Registries.Accounts`, the invariant, which making, sharing and giving up references keep;
* `Registries.Accounts.isSome_find?_iff`: what is there is what somebody refers to;
* `Registries.Succeeds`, how registries may come after others.
-/

namespace HealthRules

/-- The registry is what changes have made of another one. -/
def Registry.Continues {β ε : Type} (r r' : Registry β ε) : Prop := ∃ changes, r' = r.changeAll changes

namespace Registry.Continues

variable {β ε : Type} {r r₁ r₂ r₃ : Registry β ε}

theorem refl (r : Registry β ε) : Continues r r := ⟨[], rfl⟩

theorem trans (h : Continues r₁ r₂) (h' : Continues r₂ r₃) : Continues r₁ r₃ := by
  rcases h with ⟨changes, rfl⟩
  rcases h' with ⟨changes', rfl⟩
  exact ⟨changes ++ changes', (Registry.changeAll_append _ changes changes').symm⟩

end Registry.Continues

namespace Registries

variable {rs rs₁ rs₂ rs₃ : Registries} {held held' : List Nat} {serial : Nat}

theorem find?_set (rs : Registries) (serial serial' : Nat) (x? : Option SharedRegistry) :
    (rs.set serial x?).find? serial' = if serial' = serial then x? else rs.find? serial' := by
  have hrest : serial' ≠ serial →
      (rs.entries.filter (·.1 ≠ serial)).lookup serial' = rs.entries.lookup serial' := fun hne =>
    Surroundings.lookup_filter_ne hne rs.entries
  rw [find?, set, List.lookup_append]
  by_cases heq : serial' = serial
  · subst heq
    have hgone : (rs.entries.filter (·.1 ≠ serial')).lookup serial' = none := by
      rw [List.lookup_eq_none_iff]
      intro entry hentry
      have hne : entry.1 ≠ serial' := by simpa using (List.mem_filter.1 hentry).2
      simpa using hne.symm
    rw [if_pos rfl, hgone]
    cases x? with
    | none => rfl
    | some x => simp
  · rw [if_neg heq, hrest heq]
    cases x? with
    | none => rfl
    | some x =>
        have hbeq : (serial' == serial) = false := by simpa using heq
        simp [List.lookup_cons, hbeq, find?]

theorem lookup_others (rs : Registries) {serial serial' : Nat} (h : serial' ≠ serial) :
    (rs.others serial).lookup serial' = (rs.find? serial').map (·.registry) := by
  have hmap : ∀ entries : List (Nat × SharedRegistry),
      (entries.map fun entry => (entry.1, entry.2.registry)).lookup serial' =
        (entries.lookup serial').map (·.registry) := by
    intro entries
    induction entries with
    | nil => rfl
    | cons entry rest ih =>
        rw [List.map_cons, List.lookup_cons, List.lookup_cons]
        cases serial' == entry.1 with
        | true => rfl
        | false => exact ih
  rw [others, hmap, Surroundings.lookup_filter_ne h]
  rfl

/-! ## Counting references -/

/-- The number of references that is kept with a registry; there are none to one that is gone. -/
def referencesTo (rs : Registries) (serial : Nat) : Nat :=
  ((rs.find? serial).map (·.references)).getD 0

/-- `held` are the references that somebody has, by the serial numbers of registries. As many are counted with each
registry, and no registry is there without one. All registries were empty when they were made. -/
structure Accounts (rs : Registries) (held : List Nat) : Prop where
  counted : ∀ serial, rs.referencesTo serial = held.count serial
  positive : ∀ serial x, rs.find? serial = some x → 0 < x.references
  made : ∀ serial x, rs.find? serial = some x → serial < rs.made
  registry : ∀ serial x, rs.find? serial = some x → (Registry.empty serial).Continues x.registry

namespace Accounts

theorem empty : Accounts {} [] := ⟨fun _ => rfl, nofun, nofun, nofun⟩

/-- A registry is there if and only if somebody has a reference to it. -/
theorem isSome_find?_iff (h : rs.Accounts held) (serial : Nat) :
    (rs.find? serial).isSome ↔ serial ∈ held := by
  rw [← List.count_pos_iff, ← h.counted serial, referencesTo]
  cases hfind : rs.find? serial with
  | none => simp
  | some x => simpa using h.positive serial x hfind

theorem perm (h : rs.Accounts held) (hperm : held.Perm held') : rs.Accounts held' :=
  ⟨fun serial => (h.counted serial).trans (hperm.count_eq serial), h.positive, h.made, h.registry⟩

/-- What is put in the place of a registry may have other references and another history. -/
theorem set (h : rs.Accounts held) (serial : Nat) {x? : Option SharedRegistry}
    (hcounted : ∀ serial', held'.count serial' =
      if serial' = serial then (x?.map (·.references)).getD 0 else held.count serial')
    (hput : ∀ x, x? = some x →
      0 < x.references ∧ serial < rs.made ∧ (Registry.empty serial).Continues x.registry) :
    (rs.set serial x?).Accounts held' := by
  have hfound : ∀ serial' x, (rs.set serial x?).find? serial' = some x →
      0 < x.references ∧ serial' < rs.made ∧ (Registry.empty serial').Continues x.registry := by
    intro serial' x hx
    rw [find?_set] at hx
    split at hx
    · next heq => exact heq ▸ hput x hx
    · exact ⟨h.positive serial' x hx, h.made serial' x hx, h.registry serial' x hx⟩
  refine ⟨?_, fun s x hx => (hfound s x hx).1, fun s x hx => (hfound s x hx).2.1,
    fun s x hx => (hfound s x hx).2.2⟩
  -- Only the count at the place of change has been given; all others are as they were.
  intro serial'
  rw [hcounted, referencesTo, find?_set]
  split
  · rfl
  · exact h.counted serial'

theorem create (h : rs.Accounts held) : rs.create.Accounts (rs.made :: held) := by
  have hfresh : rs.made ∉ held := by
    rw [← h.isSome_find?_iff]
    cases hfind : rs.find? rs.made with
    | none => simp
    | some x => exact absurd (h.made rs.made x hfind) (Nat.lt_irrefl _)
  -- The new registry is put into registries in which its number counts as given already.
  have hgiven : Accounts { rs with made := rs.made + 1 } held :=
    ⟨h.counted, h.positive, fun serial x hx => Nat.lt_succ_of_lt (h.made serial x hx), h.registry⟩
  refine hgiven.set rs.made ?_ ?_
  · intro serial'
    by_cases heq : serial' = rs.made
    · rw [if_pos heq, heq, List.count_cons_self, List.count_eq_zero.2 hfresh]
      rfl
    · rw [if_neg heq, List.count_cons_of_ne (Ne.symm heq)]
  · rintro _ ⟨⟩
    exact ⟨Nat.one_pos, Nat.lt_succ_self _, .refl _⟩

theorem retain (h : rs.Accounts held) (hserial : serial ∈ held) :
    (rs.retain serial).Accounts (serial :: held) := by
  rcases Option.isSome_iff_exists.1 ((h.isSome_find?_iff serial).2 hserial) with ⟨x, hx⟩
  have hcount : x.references = held.count serial := by
    rw [← h.counted serial, referencesTo, hx]
    rfl
  refine h.set serial ?_ ?_
  · intro serial'
    by_cases heq : serial' = serial
    · rw [if_pos heq, heq, List.count_cons_self, hx, ← hcount]
      rfl
    · rw [if_neg heq, List.count_cons_of_ne (Ne.symm heq)]
  · intro y hy
    rw [hx] at hy
    cases hy
    exact ⟨Nat.succ_pos _, h.made serial x hx, h.registry serial x hx⟩

theorem release (h : rs.Accounts (serial :: held)) : (rs.release serial).Accounts held := by
  rcases Option.isSome_iff_exists.1 ((h.isSome_find?_iff serial).2 List.mem_cons_self) with ⟨x, hx⟩
  have hcount : x.references = held.count serial + 1 := by
    have hcounted := h.counted serial
    rw [referencesTo, hx, List.count_cons_self] at hcounted
    exact hcounted
  -- The last reference takes the registry with it, and then none is counted for it.
  refine h.set serial ?_ ?_
  · intro serial'
    rw [hx, Option.bind_some]
    split
    · next heq =>
        rw [heq]
        split <;> simp <;> omega
    · next hne => rw [List.count_cons_of_ne (Ne.symm hne)]
  · intro y hy
    rw [hx, Option.bind_some] at hy
    split at hy
    · cases hy
    · cases hy
      exact ⟨by simp only; omega, h.made serial x hx, h.registry serial x hx⟩

/-- Nobody's references change when something is done to a registry. -/
theorem update (h : rs.Accounts held) {x y : SharedRegistry} (hx : rs.find? serial = some x)
    (hreferences : y.references = x.references) (hregistry : x.registry.Continues y.registry) :
    (rs.set serial (some y)).Accounts held := by
  refine h.set serial ?_ ?_
  · intro serial'
    split
    · next heq => rw [heq, ← h.counted serial, referencesTo, hx, Option.map_some, Option.map_some, hreferences]
    · rfl
  · rintro _ ⟨⟩
    rw [hreferences]
    exact ⟨h.positive serial x hx, h.made serial x hx, (h.registry serial x hx).trans hregistry⟩

end Accounts

/-! ## Registries after others -/

/-- Every number given before belongs to the same registry, if to any, and only changes have been made to it. -/
structure Succeeds (rs rs' : Registries) : Prop where
  made_le : rs.made ≤ rs'.made
  found : ∀ serial < rs.made, ∀ x', rs'.find? serial = some x' →
    ∃ x, rs.find? serial = some x ∧ x.registry.Continues x'.registry

namespace Succeeds

theorem refl (rs : Registries) : rs.Succeeds rs := ⟨Nat.le_refl _, fun _ _ x hx => ⟨x, hx, .refl _⟩⟩

theorem trans (h : rs₁.Succeeds rs₂) (h' : rs₂.Succeeds rs₃) : rs₁.Succeeds rs₃ := by
  refine ⟨Nat.le_trans h.made_le h'.made_le, ?_⟩
  intro serial hserial x₃ hx₃
  rcases h'.found serial (Nat.lt_of_lt_of_le hserial h.made_le) x₃ hx₃ with ⟨x₂, hx₂, hlater⟩
  rcases h.found serial hserial x₂ hx₂ with ⟨x₁, hx₁, hearlier⟩
  exact ⟨x₁, hx₁, hearlier.trans hlater⟩

theorem set {x? : Option SharedRegistry}
    (hput : ∀ x', x? = some x' → ∃ x, rs.find? serial = some x ∧ x.registry.Continues x'.registry) :
    rs.Succeeds (rs.set serial x?) := by
  refine ⟨Nat.le_refl _, ?_⟩
  intro serial' _ x' hx'
  rw [find?_set] at hx'
  split at hx'
  · next heq => exact heq ▸ hput x' hx'
  · exact ⟨x', hx', .refl _⟩

theorem create (rs : Registries) : rs.Succeeds rs.create := by
  refine ⟨Nat.le_succ _, ?_⟩
  intro serial hserial x' hx'
  have hfind : rs.create.find? serial = (rs.set rs.made _).find? serial := rfl
  rw [hfind, find?_set, if_neg (Nat.ne_of_lt hserial)] at hx'
  exact ⟨x', hx', .refl _⟩

theorem retain (rs : Registries) (serial : Nat) : rs.Succeeds (rs.retain serial) := by
  refine set fun x' hx' => ?_
  rcases Option.map_eq_some_iff.1 hx' with ⟨x, hx, rfl⟩
  exact ⟨x, hx, .refl _⟩

theorem release (rs : Registries) (serial : Nat) : rs.Succeeds (rs.release serial) := by
  refine set fun x' hx' => ?_
  rcases Option.bind_eq_some_iff.1 hx' with ⟨x, hx, hleft⟩
  split at hleft
  · cases hleft
  · cases hleft
    exact ⟨x, hx, .refl _⟩

end Succeeds

end Registries

end HealthRules
