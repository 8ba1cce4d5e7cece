import HealthRules.Proofs.Engine.Isolation
import HealthRules.Proofs.Engine.Registrations

/-!
# Histories — counting along a history

What is given back when providers are registered and deregistered depends on the registry alone, so that the history
of a registry is known from what is done to it. No identity is deregistered twice, since an identity is given once
and is gone after the first time. So there are as many providers of a kind as have been registered, less those that
have been deregistered. In a run of an engine this is so at every moment, in the middle of a pass as well.

* `Registry.history`, and `Host.dealAll_run`: it is what is given back;
* `Registry.Follows.extend` and `Registry.history_follows`, along the history of an empty registry;
* `length_kept`, how many providers of one kind are left;
* `InCall`, the moments in the middle of a run, and `Steps.registry_inCall`.
-/

namespace HealthRules

variable {β ε α σ : Type}

/-! ## What is given back -/

namespace Registry

/-- What doing something to a registry gives back. -/
def deal (r : Registry β ε) : Change β ε → Dealing β ε
  | .addBuilder b => .builderAdded b r.nextId
  | .addEvaluator e => .evaluatorAdded e r.nextId
  | .remove id => .removal id (r.remove? id).isSome

/-- What doing one thing after another gives back. -/
def history (r : Registry β ε) : List (Change β ε) → List (Dealing β ε)
  | [] => []
  | c :: cs => r.deal c :: (r.change c).history cs

theorem change_serial (r : Registry β ε) (c : Change β ε) : (r.change c).serial = r.serial := by
  cases c with
  | addBuilder b => rfl
  | addEvaluator e => rfl
  | remove id =>
      rw [change, remove?]
      cases without? id r.builders with
      | some builders => rfl
      | none => cases without? id r.evaluators <;> rfl

theorem changeAll_serial (r : Registry β ε) (cs : List (Change β ε)) :
    (r.changeAll cs).serial = r.serial := by
  induction cs generalizing r with
  | nil => rfl
  | cons c cs ih => exact (ih (r.change c)).trans (r.change_serial c)

end Registry

section Runs

variable [Named β] [Named ε]

theorem Host.deal_run (c : Change β ε) (h : Host β ε σ) :
    ((Host.deal c).run h).1 = h.registry.deal c := by
  cases c with
  | addBuilder b => rfl
  | addEvaluator e => rfl
  | remove id =>
      simp only [Host.deal, Host.deregister, HostM.run_bind, HostM.run_get, Registry.deal]
      cases h.registry.remove? id <;> rfl

/-- The history of a registry is what is given back when things are done to it. -/
theorem Host.dealAll_run (changes : List (Change β ε)) (h : Host β ε σ) :
    ((Host.dealAll changes).run h).1 = h.registry.history changes := by
  induction changes generalizing h with
  | nil => rfl
  | cons c changes ih =>
      have hrest := ih ((Host.deal c).run h).2
      rw [(Host.deal_host c h).1] at hrest
      rw [Registry.history, ← Host.deal_run, ← hrest]
      rfl

end Runs

/-! ## Identities along a history -/

namespace Registry

theorem Follows.deal {r : Registry β ε} {history : List (Dealing β ε)} (h : r.Follows history)
    (c : Change β ε) : (r.change c).Follows (history ++ [r.deal c]) := by
  cases c with
  | addBuilder b => exact h.addBuilder b
  | addEvaluator e => exact h.addEvaluator e
  | remove id =>
      rw [Registry.change, Registry.deal]
      cases hremove : r.remove? id with
      | none => exact h.remove_missing id
      | some r' => exact h.remove_found hremove

/-- What is found was held until then, and so it had not been deregistered before. -/
theorem Follows.withdrawn_fresh {r : Registry β ε} {history : List (Dealing β ε)} (h : r.Follows history)
    (c : Change β ε) : ∀ id ∈ (r.deal c).withdrawn?, id ∉ withdrawnIn history := by
  cases c with
  | addBuilder b => nofun
  | addEvaluator e => nofun
  | remove id =>
      have hcases := remove?_cases h.distinct id
      rw [Registry.deal]
      cases hremove : r.remove? id with
      | none => nofun
      | some r' =>
          rw [hremove] at hcases
          rintro _ ⟨⟩
          exact ((h.holds_iff id).1 hcases.1).2

/-- The induction is on what is done, for any history that has come before it. -/
theorem Follows.extend {r : Registry β ε} {history : List (Dealing β ε)} (h : r.Follows history)
    (hnodup : (withdrawnIn history).Nodup) (changes : List (Change β ε)) :
    (r.changeAll changes).Follows (history ++ r.history changes) ∧
      (withdrawnIn (history ++ r.history changes)).Nodup := by
  induction changes generalizing r history with
  | nil =>
      rw [Registry.history, List.append_nil]
      exact ⟨h, hnodup⟩
  | cons c changes ih =>
      have hfresh := h.withdrawn_fresh c
      have hstep : (withdrawnIn (history ++ [r.deal c])).Nodup := by
        rw [withdrawnIn_concat]
        cases hwithdrawn : (r.deal c).withdrawn? with
        | none => simpa using hnodup
        | some id =>
            rw [Option.toList_some, ← List.concat_eq_append]
            exact List.Nodup.concat (hfresh id hwithdrawn) hnodup
      have hrest := ih (h.deal c) hstep
      rw [List.append_assoc] at hrest
      exact hrest

theorem history_follows (serial : Nat) (changes : List (Change β ε)) :
    let r : Registry β ε := .empty serial
    (r.changeAll changes).Follows (r.history changes) ∧ (withdrawnIn (r.history changes)).Nodup :=
  (Follows.empty serial).extend List.nodup_nil changes

end Registry

/-! ## Counting -/

/-- Of the providers of one kind that have been registered, those are left that have not been deregistered. -/
theorem length_kept {γ : Type} {entries : List (Entry γ)} {withdrawn : List ProviderId}
    (hentries : (entries.map (·.id)).Nodup) (hwithdrawn : withdrawn.Nodup) :
    (entries.filter (·.id ∉ withdrawn)).length +
        (withdrawn.filter (· ∈ entries.map (·.id))).length = entries.length := by
  have hgone : ((entries.map (·.id)).filter (· ∈ withdrawn)).Perm
      (withdrawn.filter (· ∈ entries.map (·.id))) := by
    rw [List.perm_ext_iff_of_nodup (hentries.filter _) (hwithdrawn.filter _)]
    intro id
    simp only [List.mem_filter, decide_eq_true_eq]
    exact and_comm
  rw [← hgone.length_eq, List.filter_map, List.length_map]
  have hsplit := List.length_eq_length_filter_add (l := entries) fun e => decide (e.id ∈ withdrawn)
  simp only [← decide_not] at hsplit
  rw [hsplit, Nat.add_comm]
  rfl

/-! ## Moments -/

/-- A registry in the middle of a run: a call of some step has made a part of its changes, after the steps and the
calls before it have made theirs. -/
inductive InCall (effects : Call β ε α σ → List (Change β ε)) :
    List (Step β ε α σ) → List (Change β ε) → Registry β ε → Prop where
  | intro {before after : List (Step β ε α σ)} {s : Step β ε α σ}
      {asked rest : List (Call β ε α σ)} {c : Call β ε α σ} {made left : List (Change β ε)}
      (hcalls : s.calls = asked ++ c :: rest) (hmade : effects c = made ++ left) :
      InCall effects (before ++ s :: after)
        (before.flatMap (·.changes effects) ++ asked.flatMap effects ++ made)
        (c.host.registry.changeAll made)

section Moments

variable {B : Behaviour β ε α σ} {effects : Call β ε α σ → List (Change β ε)}

theorem Chain.split {h h' : Host β ε σ} {asked rest : List (Call β ε α σ)} {c : Call β ε α σ}
    (hc : Chain B h (asked ++ c :: rest) h') : Chain B h asked c.host := by
  induction asked generalizing h with
  | nil => exact hc.1
  | cons c' asked ih => exact ⟨hc.1, ih hc.2⟩

/-- A step with calls is a pass, and the calls are a chain from its beginning to its end. -/
theorem Performed.chain [Named ε] {e e' : Engine α} {h h' : Host β ε σ} {s : Step β ε α σ}
    (hs : Performed B e h s e' h') (hcalls : s.calls ≠ []) : Chain B h s.calls h' := by
  cases hs with
  | addRules _ hchain => exact hchain
  | evaluate _ hchain => exact hchain
  | addRule => exact absurd rfl hcalls
  | setUnreadableIsError => exact absurd rfl hcalls
  | change _ _ => exact absurd rfl hcalls

/-- At every moment of a run the registry is what the changes until then have made of it. -/
theorem Steps.registry_inCall [Named ε] {e e' : Engine α} {h h' : Host β ε σ}
    {steps : List (Step β ε α σ)} {changes : List (Change β ε)} {r : Registry β ε}
    (hrun : Steps B e h steps e' h') (heffects : Effects B effects)
    (hmoment : InCall effects steps changes r) : r = h.registry.changeAll changes := by
  rcases hmoment with @⟨before, after, s, asked, rest, c, made, left, hcalls, -⟩
  induction before generalizing e h with
  | nil =>
      rcases hrun with _ | ⟨hstep, _⟩
      have hchain := hstep.chain (by simp [hcalls])
      rw [hcalls] at hchain
      rw [hchain.split.registry_eq heffects, ← Registry.changeAll_append]
      rfl
  | cons s' before ih =>
      rcases hrun with _ | ⟨hstep, hrest⟩
      rw [ih hrest, hstep.registry_eq heffects, ← Registry.changeAll_append]
      simp only [List.flatMap_cons, List.append_assoc]

end Moments

end HealthRules
