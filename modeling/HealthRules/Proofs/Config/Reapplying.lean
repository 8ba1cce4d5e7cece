import HealthRules.Proofs.Config.Merging

/-!
# Reapplying — the same overlay once more

Applying an overlay to what it has made removes items that the first time has added, and adds them again. They are
the items that a change both adds and removes: none of them is lost, but they go behind all others. So it is the
order of a list that the second time may change, and the order of providers with it. What is replaced stays as it is,
and so does a list of which nothing is both added and removed. A third time changes nothing.

* `Added.unique`: what is added is determined by what is there and what there is to add;
* `ListChange.sinking`, which puts the items to be removed behind the others, and `apply_apply` for one list;
* `Reapplied`, what becomes of one list the second time, and `reapplied_apply`;
* `Overlay.apply_twice`: the whole configuration.
-/

namespace HealthRules

namespace ListChange

/-! ## Additions that have been made -/

namespace Added

variable {items add added added' : List String}

/-- The items that are added are determined: which they are, and by their first places their order as well. -/
theorem unique (h : Added items add added) (h' : Added items add added') : added = added' := by
  have hperm : added.Perm added' := by
    rw [List.perm_ext_iff_of_nodup h.nodup h'.nodup]
    intro x
    rw [h.mem_iff, h'.mem_iff]
  refine hperm.eq_of_pairwise ?_ h.ordered h'.ordered
  intro x y _ _ hxy hyx
  exact absurd hyx (Nat.lt_asymm hxy)

/-- Where some of the items that were added have been taken away, just those are added again. -/
theorem again (h : Added items add added) (p : String → Prop) [DecidablePred p] :
    Added (items ++ added.filter (¬ p ·)) add (added.filter (p ·)) := by
  refine ⟨?_, h.ordered.filter _⟩
  intro x
  simp only [List.mem_append, List.mem_filter, h.mem_iff, decide_eq_true_eq]
  constructor
  · rintro ⟨⟨hadd, hitems⟩, hp⟩
    exact ⟨hadd, fun hthere => hthere.elim hitems fun hkept => hkept.2 hp⟩
  · rintro ⟨hadd, hgone⟩
    have hitems : x ∉ items := fun hmem => hgone (.inl hmem)
    have hp : p x := by
      by_contra hnot
      exact hgone (.inr ⟨⟨hadd, hitems⟩, hnot⟩)
    exact ⟨⟨hadd, hitems⟩, hp⟩

end Added

/-! ## One list -/

/-- The items with those that the change removes behind the others; neither the ones nor the others change places. -/
def sinking (c : ListChange) (items : List String) : List String :=
  items.filter (· ∉ c.remove) ++ items.filter (· ∈ c.remove)

variable (c : ListChange) (items base : List String)

theorem mem_sinking (x : String) : x ∈ c.sinking items ↔ x ∈ items := by
  simp only [sinking, List.mem_append, List.mem_filter, decide_eq_true_eq]
  rw [← and_or_left, and_iff_left (Decidable.em _).symm]

/-- Items that are behind the others already stay there. -/
theorem sinking_sinking : c.sinking (c.sinking items) = c.sinking items := by
  simp [sinking, List.filter_append, List.filter_filter]

theorem sinking_eq_self (h : ∀ x ∈ items, x ∉ c.remove) : c.sinking items = items := by
  have hkept : items.filter (· ∉ c.remove) = items :=
    List.filter_eq_self.2 fun x hx => decide_eq_true (h x hx)
  have hnone : items.filter (· ∈ c.remove) = [] :=
    List.filter_eq_nil_iff.2 fun x hx => by simpa using h x hx
  rw [sinking, hkept, hnone, List.append_nil]

variable {c}

/-- The second time, items that the change both adds and removes go behind the others. -/
theorem apply_apply (hmerge : c.replace = false) :
    c.apply (c.apply base) = c.sinking (c.apply base) := by
  rcases (c.merged_apply base).merged hmerge with ⟨added, honce, hadded⟩
  rcases (c.merged_apply (c.apply base)).merged hmerge with ⟨added', htwice, hadded'⟩
  -- Nothing that was there before the additions is still to be removed.
  have hkept : (c.apply base).filter (· ∉ c.remove) =
      base.filter (· ∉ c.remove) ++ added.filter (· ∉ c.remove) := by
    rw [honce, List.filter_append, List.filter_filter]
    simp
  have hsunk : (c.apply base).filter (· ∈ c.remove) = added.filter (· ∈ c.remove) := by
    rw [honce, List.filter_append, List.filter_filter]
    simp
  rw [hkept] at hadded'
  rw [htwice, sinking, hsunk]
  exact congrArg _ (hadded'.unique (hadded.again (· ∈ c.remove)))

/-- After the second time no other changes anything. -/
theorem apply_apply_apply : c.apply (c.apply (c.apply base)) = c.apply (c.apply base) := by
  cases hreplace : c.replace with
  | true => simp only [apply, hreplace, if_true]
  | false => rw [apply_apply (c.apply base) hreplace, apply_apply base hreplace, sinking_sinking]

/-- The list is replaced, or nothing is both added to it and removed from it. -/
def Apart (c : ListChange) : Prop := c.replace = true ∨ ∀ x ∈ c.add, x ∉ c.remove

/-- What becomes of a list that the same change has made already. -/
structure Reapplied (c : ListChange) (once twice : List String) : Prop where
  mem_iff : ∀ x, x ∈ twice ↔ x ∈ once
  eq_once : c.Apart → twice = once
  eq_sinking : c.replace = false → twice = c.sinking once

theorem reapplied_apply (c : ListChange) (base : List String) :
    c.Reapplied (c.apply base) (c.apply (c.apply base)) := by
  cases hreplace : c.replace with
  | true =>
      have hsame : c.apply (c.apply base) = c.apply base := by simp only [apply, hreplace, if_true]
      refine ⟨?_, fun _ => hsame, ?_⟩
      · intro x
        rw [hsame]
      · intro hmerge
        exact absurd (hreplace.symm.trans hmerge) (by decide)
  | false =>
      -- Applying again takes out what is both removed and added, and puts it behind the others.
      have hsunk := apply_apply base hreplace
      refine ⟨?_, ?_, fun _ => hsunk⟩
      · intro x
        rw [hsunk, mem_sinking]
      · rintro (hreplace' | hapart)
        · exact absurd (hreplace.symm.trans hreplace') (by decide)
        · rw [hsunk]
          apply sinking_eq_self
          intro x hx
          rcases ((c.merged_apply base).mem_iff hreplace x).1 hx with hadd | ⟨-, hkept⟩
          · exact hapart x hadd
          · exact hkept

end ListChange

/-! ## Whole configurations -/

theorem SettingsOverlay.apply_apply (o : SettingsOverlay) (base : Settings) :
    o.apply (o.apply base) = o.apply base := by
  rcases o with ⟨_ | _, _ | _, _ | _⟩ <;> rfl

/-- Configurations are the same if their settings are and each of their lists is. -/
theorem Config.eq_of_parts {c c' : Config} (hsettings : c.settings = c'.settings)
    (hbuilders : c.builtins.builders = c'.builtins.builders)
    (hevaluators : c.builtins.evaluators = c'.builtins.evaluators) (hallow : c.allow = c'.allow) : c = c' := by
  rcases c with ⟨settings, ⟨builders, evaluators⟩, allow⟩
  rcases c' with ⟨settings', ⟨builders', evaluators'⟩, allow'⟩
  cases hsettings
  cases hbuilders
  cases hevaluators
  cases hallow
  rfl

/-- Applying an overlay again keeps settings and members. A list changes only if it is not replaced and something is
both added and removed, and then no further time. -/
theorem Overlay.apply_twice (o : Overlay) (base : Config) :
    let once := o.apply base
    let twice := o.apply once
    twice.settings = once.settings ∧
      (o.builtins.builderChange.Reapplied once.builtins.builders twice.builtins.builders ∧
        o.builtins.evaluatorChange.Reapplied once.builtins.evaluators twice.builtins.evaluators ∧
        o.allow.Reapplied once.allow twice.allow) ∧
      (o.builtins.builderChange.Apart → o.builtins.evaluatorChange.Apart → o.allow.Apart → twice = once) ∧
      o.apply twice = twice := by
  intro once twice
  have hsettings : ∀ c : Config, (o.apply (o.apply c)).settings = (o.apply c).settings :=
    fun c => o.settings.apply_apply c.settings
  have hbuilders := o.builtins.builderChange.reapplied_apply base.builtins.builders
  have hevaluators := o.builtins.evaluatorChange.reapplied_apply base.builtins.evaluators
  have hallow := o.allow.reapplied_apply base.allow
  refine ⟨hsettings base, ⟨hbuilders, hevaluators, hallow⟩, ?_, ?_⟩
  · intro hb he ha
    exact Config.eq_of_parts (hsettings base) (hbuilders.eq_once hb) (hevaluators.eq_once he)
      (hallow.eq_once ha)
  · exact Config.eq_of_parts (hsettings once) (ListChange.apply_apply_apply base.builtins.builders)
      (ListChange.apply_apply_apply base.builtins.evaluators) (ListChange.apply_apply_apply base.allow)

/-- A builder that is removed and added goes behind one that is only added, so that the order changes the second time.
-/
theorem Overlay.apply_twice_readded :
    let o : Overlay := {
      settings := { logLevel := some "debug" }
      builtins := { builders := ["sys", "disk", "sys"], removeBuilders := ["env", "sys"] }
      allow := { replace := true, add := ["HOME", "HOME"], remove := ["HOME"] } }
    let once := o.apply .standard
    let twice := o.apply once
    let o' : Overlay := { builtins := { builders := ["disk", "muppet"], removeBuilders := ["env", "ping"],
                                        evaluators := ["ping"], removeEvaluators := ["numeric"] } }
    let once' := o'.apply .standard
    (once.builtins.builders = ["muppet", "sys", "disk"] ∧ twice.builtins.builders = ["muppet", "disk", "sys"]) ∧
      ("sys" ∈ twice.builtins.builders ↔ "sys" ∈ once.builtins.builders) ∧ twice.allow = once.allow ∧
      twice.settings = once.settings ∧ o.apply twice = twice ∧
      once'.builtins = ⟨["muppet", "sys", "disk"], ["regex", "ping"]⟩ ∧ o'.apply once' = once' := by
  intro o once twice o' once'
  rcases apply_twice o .standard with ⟨hsettings, ⟨hbuilders, -, hallow⟩, -, hthird⟩
  have hsunk : twice.builtins.builders = ["muppet", "disk", "sys"] := hbuilders.eq_sinking rfl
  have hsame : o'.apply once' = once' :=
    (apply_twice o' .standard).2.2.1 (.inr (by decide)) (.inr (by decide)) (.inr (by decide))
  exact ⟨⟨by decide, hsunk⟩, hbuilders.mem_iff "sys", hallow.eq_once (.inl rfl), hsettings, hthird,
    by decide, hsame⟩

end HealthRules
