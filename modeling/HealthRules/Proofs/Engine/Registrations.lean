import HealthRules.Proofs.Engine.Calls
import Mathlib.Data.List.Nodup

/-!
# Registrations — what a registry holds

Builders and evaluators are registered and deregistered one after another, in any order and with any
identities. A history notes what was done and what was given back. It says at each moment what the registry
holds: all that was registered and has not been deregistered since.

* `Dealing`, `Host.deal` and `Host.dealAll`, which make up a history;
* `Registry.remove?_cases` and `Registry.change_remove`: what removing comes to where identities are distinct;
* `Registry.Follows`, the invariant that ties a registry to its history, and `Follows.deal`, its step;
* `Registry.Account` and `dealAll_account`: every run, and what deregistering does after it.
-/

namespace HealthRules

variable {β ε σ : Type}

/-! ## Histories -/

/-- Something done to a registry, and what was given back. -/
inductive Dealing (β ε : Type) where
  | builderAdded (b : β) (id : ProviderId)
  | evaluatorAdded (e : ε) (id : ProviderId)
  | removal (id : ProviderId) (found : Bool)

namespace Dealing

/-- What was done. -/
def change : Dealing β ε → Change β ε
  | builderAdded b _ => .addBuilder b
  | evaluatorAdded e _ => .addEvaluator e
  | removal id _ => .remove id

/-- The identity that was issued. -/
def issued? : Dealing β ε → Option ProviderId
  | builderAdded _ id => some id
  | evaluatorAdded _ id => some id
  | removal .. => none

/-- The builder that was registered. -/
def builder? : Dealing β ε → Option (Entry β)
  | builderAdded b id => some ⟨id, b⟩
  | _ => none

/-- The evaluator that was registered. -/
def evaluator? : Dealing β ε → Option (Entry ε)
  | evaluatorAdded e id => some ⟨id, e⟩
  | _ => none

/-- The identity that was deregistered. -/
def withdrawn? : Dealing β ε → Option ProviderId
  | removal id true => some id
  | _ => none

end Dealing

namespace Host

variable [Named β] [Named ε]

/-- Do something to the registry of a host, and note it. -/
def deal : Change β ε → HostM β ε σ (Dealing β ε)
  | .addBuilder b => do return .builderAdded b (← registerBuilder b)
  | .addEvaluator e => do return .evaluatorAdded e (← registerEvaluator e)
  | .remove id => do return .removal id (← deregister id)

/-- Do one thing after another. -/
def dealAll : List (Change β ε) → HostM β ε σ (List (Dealing β ε))
  | [] => return []
  | c :: cs => do
      let d ← deal c
      return d :: (← dealAll cs)

end Host

/-- The identities that have been issued. -/
def issuedIn (history : List (Dealing β ε)) : List ProviderId := history.filterMap (·.issued?)

/-- The identities that have been deregistered. -/
def withdrawnIn (history : List (Dealing β ε)) : List ProviderId := history.filterMap (·.withdrawn?)

/-- The builders that have been registered, in order, without those that have been deregistered. -/
def buildersIn (history : List (Dealing β ε)) : List (Entry β) :=
  (history.filterMap (·.builder?)).filter (·.id ∉ withdrawnIn history)

/-- The evaluators that have been registered, in order, without those that have been deregistered. -/
def evaluatorsIn (history : List (Dealing β ε)) : List (Entry ε) :=
  (history.filterMap (·.evaluator?)).filter (·.id ∉ withdrawnIn history)

section Concat

variable (history : List (Dealing β ε)) (d : Dealing β ε)

theorem issuedIn_concat : issuedIn (history ++ [d]) = issuedIn history ++ d.issued?.toList := by
  cases d <;> simp [issuedIn, Dealing.issued?]

theorem withdrawnIn_concat :
    withdrawnIn (history ++ [d]) = withdrawnIn history ++ d.withdrawn?.toList := by
  cases d with
  | builderAdded b id => simp [withdrawnIn, Dealing.withdrawn?]
  | evaluatorAdded e id => simp [withdrawnIn, Dealing.withdrawn?]
  | removal id found => cases found <;> simp [withdrawnIn, Dealing.withdrawn?]

variable {history} {d}

/-- The latest dealing takes out the provider that it deregistered, or adds the one that it registered. -/
theorem kept_concat {α : Type} (provider? : Dealing β ε → Option (Entry α))
    (hlatest : ∀ entry ∈ provider? d, some entry.id ≠ d.withdrawn? ∧ entry.id ∉ withdrawnIn history) :
    ((history ++ [d]).filterMap provider?).filter (·.id ∉ withdrawnIn (history ++ [d])) =
      ((history.filterMap provider?).filter (·.id ∉ withdrawnIn history)).filter
        (some ·.id ≠ d.withdrawn?) ++ (provider? d).toList := by
  have hkept : ∀ entry : Entry α, entry.id ∉ withdrawnIn (history ++ [d]) ↔
      some entry.id ≠ d.withdrawn? ∧ entry.id ∉ withdrawnIn history := by
    intro entry
    rw [withdrawnIn_concat]
    cases hwithdrawn : d.withdrawn? with
    | none => simp
    | some id => simp [and_comm]
  have hown : (provider? d).toList.filter (·.id ∉ withdrawnIn (history ++ [d])) =
      (provider? d).toList := by
    apply List.filter_eq_self.2
    intro entry hentry
    exact decide_eq_true ((hkept entry).2 (hlatest entry (Option.mem_toList.1 hentry)))
  have hlast : [d].filterMap provider? = (provider? d).toList := by
    cases hd : provider? d <;> simp [hd]
  rw [List.filterMap_append, List.filter_append, hlast, hown]
  simp only [hkept, List.filter_filter, Bool.decide_and]

theorem buildersIn_concat (hnew : ∀ id ∈ d.issued?, id ∉ withdrawnIn history) :
    buildersIn (history ++ [d]) =
      (buildersIn history).filter (some ·.id ≠ d.withdrawn?) ++ d.builder?.toList := by
  apply kept_concat
  cases d with
  | builderAdded b id =>
      rintro _ ⟨⟩
      exact ⟨nofun, hnew id rfl⟩
  | evaluatorAdded e id => nofun
  | removal id found => nofun

theorem evaluatorsIn_concat (hnew : ∀ id ∈ d.issued?, id ∉ withdrawnIn history) :
    evaluatorsIn (history ++ [d]) =
      (evaluatorsIn history).filter (some ·.id ≠ d.withdrawn?) ++ d.evaluator?.toList := by
  apply kept_concat
  cases d with
  | builderAdded b id => nofun
  | evaluatorAdded e id =>
      rintro _ ⟨⟩
      exact ⟨nofun, hnew id rfl⟩
  | removal id found => nofun

end Concat

/-- Every identity is issued for a provider of one kind. -/
theorem issuedIn_perm (history : List (Dealing β ε)) :
    ((history.filterMap (·.builder?)).map (·.id) ++
      (history.filterMap (·.evaluator?)).map (·.id)).Perm (issuedIn history) := by
  induction history with
  | nil => exact .refl _
  | cons d history ih =>
      cases d with
      | builderAdded b id => exact ih.cons id
      | evaluatorAdded e id => exact List.perm_middle.trans (ih.cons id)
      | removal id found => exact ih

/-! ## Removing -/

namespace Registry

/-- A provider of that identity is registered. -/
def Holds (r : Registry β ε) (id : ProviderId) : Prop :=
  id ∈ r.builders.map (·.id) ∨ id ∈ r.evaluators.map (·.id)

/-- One entry, of that identity, is gone, and all else is as it was. -/
inductive Loses (id : ProviderId) (r : Registry β ε) : Registry β ε → Prop where
  | builder {before after : List (Entry β)} {b : Entry β} (hid : b.id = id)
      (hbuilders : r.builders = before ++ b :: after) :
      Loses id r { r with builders := before ++ after }
  | evaluator {before after : List (Entry ε)} {e : Entry ε} (hid : e.id = id)
      (hevaluators : r.evaluators = before ++ e :: after) :
      Loses id r { r with evaluators := before ++ after }

/-- No identity is held twice, by whatever kind of provider. -/
def Distinct (r : Registry β ε) : Prop :=
  (r.builders.map (·.id) ++ r.evaluators.map (·.id)).Nodup

/-- Identities that are numbered one after another are distinct. -/
theorem nodup_numbered (first count : Nat) : ((List.range' first count).map ProviderId.mk).Nodup := by
  refine List.Nodup.map ?_ List.nodup_range'
  intro m n heq
  exact congrArg ProviderId.number heq

variable {α : Type} {id : ProviderId}

theorem filter_of_not_mem {entries : List (Entry α)} (h : id ∉ entries.map (·.id)) :
    entries.filter (·.id ≠ id) = entries := by
  apply List.filter_eq_self.2
  intro e he
  have hne : e.id ≠ id := fun heq => h (heq ▸ List.mem_map_of_mem he)
  simpa using hne

theorem without?_eq_none {entries : List (Entry α)} (h : id ∉ entries.map (·.id)) :
    without? id entries = none := by
  have hnone : ∀ e ∈ entries, ¬ e.id = id := by
    intro e he heq
    exact h (heq ▸ List.mem_map_of_mem he)
  simpa [without?] using hnone

/-- Where identities are distinct, the one of an entry is that of no other. -/
theorem filter_of_split {before after : List (Entry α)} {e : Entry α}
    (hnodup : ((before ++ e :: after).map (·.id)).Nodup) :
    (before ++ e :: after).filter (·.id ≠ e.id) = before ++ after := by
  have hapart : e.id ∉ (before ++ after).map (·.id) := by
    rw [List.map_append, List.map_cons] at hnodup
    rw [List.map_append]
    exact (List.nodup_cons.1 (List.perm_middle.nodup_iff.1 hnodup)).1
  have hothers := filter_of_not_mem hapart
  rw [List.filter_append] at hothers ⊢
  rw [List.filter_cons, if_neg (by simp), hothers]

/-- If identities are distinct, then just one entry is removed. -/
theorem without?_eq_some {entries : List (Entry α)} (h : id ∈ entries.map (·.id))
    (hnodup : (entries.map (·.id)).Nodup) :
    ∃ before e after, e.id = id ∧ entries = before ++ e :: after ∧
      entries.filter (·.id ≠ id) = before ++ after ∧
      without? id entries = some (entries.filter (·.id ≠ id)) := by
  rcases List.mem_map.1 h with ⟨e, he, rfl⟩
  rcases List.append_of_mem he with ⟨before, after, rfl⟩
  have hany : (before ++ e :: after).any (·.id = e.id) = true := List.any_eq_true.2 ⟨e, he, by simp⟩
  exact ⟨before, e, after, rfl, rfl, filter_of_split hnodup, if_pos hany⟩

/-- Where identities are distinct, removing looks for the identity in both lists alike. -/
theorem remove?_cases {r : Registry β ε} (hr : r.Distinct) (id : ProviderId) :
    match r.remove? id with
    | none => ¬ r.Holds id
    | some r' => r.Holds id ∧ r.Loses id r' ∧
        r'.builders = r.builders.filter (·.id ≠ id) ∧
        r'.evaluators = r.evaluators.filter (·.id ≠ id) := by
  rcases List.nodup_append'.1 hr with ⟨hbuilders, hevaluators, hapart⟩
  by_cases hb : id ∈ r.builders.map (·.id)
  · -- The evaluators do not have the identity as well, so that it does not matter that they are not looked at.
    have he : id ∉ r.evaluators.map (·.id) := hapart hb
    rcases without?_eq_some hb hbuilders with ⟨before, b, after, hid, hsplit, hfilter, hwithout⟩
    simp only [remove?, hwithout]
    refine ⟨.inl hb, ?_, trivial, (filter_of_not_mem he).symm⟩
    rw [hfilter]
    exact .builder hid hsplit
  · have hnone := without?_eq_none hb
    by_cases he : id ∈ r.evaluators.map (·.id)
    · rcases without?_eq_some he hevaluators with ⟨before, e, after, hid, hsplit, hfilter, hwithout⟩
      simp only [remove?, hnone, hwithout, Option.map_some]
      refine ⟨.inr he, ?_, (filter_of_not_mem hb).symm, trivial⟩
      rw [hfilter]
      exact .evaluator hid hsplit
    · simp only [remove?, hnone, without?_eq_none he, Option.map_none]
      exact fun hholds => hholds.elim hb he

/-- Whether it was held or not, afterwards there is nothing of the identity, and all else is as it was. -/
theorem change_remove {r : Registry β ε} (hr : r.Distinct) (id : ProviderId) :
    r.change (.remove id) = { r with builders := r.builders.filter (·.id ≠ id)
                                     evaluators := r.evaluators.filter (·.id ≠ id) } := by
  have hcases := remove?_cases hr id
  rw [change]
  cases hremove : r.remove? id with
  | none =>
      rw [hremove] at hcases
      rcases not_or.1 hcases with ⟨hb, he⟩
      rw [filter_of_not_mem hb, filter_of_not_mem he]
      rfl
  | some r' =>
      rw [hremove] at hcases
      rcases hcases with ⟨-, hloses, hbuilders, hevaluators⟩
      rw [← hbuilders, ← hevaluators]
      cases hloses <;> rfl

/-! ## The invariant -/

/-- The registry is what its history says. Identities are numbers that go up by one, so that the count of
them is all that a registry has to remember of its past. -/
structure Follows (r : Registry β ε) (history : List (Dealing β ε)) : Prop where
  issued : issuedIn history = (List.range' 1 r.issued).map ProviderId.mk
  withdrawn : ∀ id ∈ withdrawnIn history, id ∈ issuedIn history
  builders : r.builders = buildersIn history
  evaluators : r.evaluators = evaluatorsIn history

namespace Follows

variable {r : Registry β ε} {history : List (Dealing β ε)}

theorem empty (serial : Nat) : (Registry.empty serial : Registry β ε).Follows [] :=
  ⟨rfl, nofun, rfl, rfl⟩

theorem issued_nodup (h : r.Follows history) : (issuedIn history).Nodup := by
  rw [h.issued]
  exact nodup_numbered 1 r.issued

theorem distinct (h : r.Follows history) : r.Distinct := by
  have hall : ((history.filterMap (·.builder?)).map (·.id) ++
      (history.filterMap (·.evaluator?)).map (·.id)).Nodup :=
    (issuedIn_perm history).nodup_iff.2 h.issued_nodup
  unfold Distinct
  rw [h.builders, h.evaluators]
  exact hall.sublist ((List.filter_sublist.map _).append (List.filter_sublist.map _))

theorem holds_iff (h : r.Follows history) (id : ProviderId) :
    r.Holds id ↔ id ∈ issuedIn history ∧ id ∉ withdrawnIn history := by
  rw [← (issuedIn_perm history).mem_iff]
  unfold Holds
  simp only [h.builders, h.evaluators, buildersIn, evaluatorsIn, List.mem_map, List.mem_filter,
    List.mem_append, decide_eq_true_eq]
  constructor
  · rintro (⟨b, ⟨hb, hkept⟩, rfl⟩ | ⟨e, ⟨he, hkept⟩, rfl⟩)
    · exact ⟨.inl ⟨b, hb, rfl⟩, hkept⟩
    · exact ⟨.inr ⟨e, he, rfl⟩, hkept⟩
  · rintro ⟨⟨b, hb, rfl⟩ | ⟨e, he, rfl⟩, hkept⟩
    · exact .inl ⟨b, ⟨hb, hkept⟩, rfl⟩
    · exact .inr ⟨e, ⟨he, hkept⟩, rfl⟩

theorem nextId_not_issued (h : r.Follows history) : r.nextId ∉ issuedIn history := by
  rw [h.issued]
  intro hmem
  rcases List.mem_map.1 hmem with ⟨n, hn, heq⟩
  have hnumber : n = r.issued + 1 := congrArg ProviderId.number heq
  have hbound := (List.mem_range'_1.1 hn).2
  omega

/-- One more dealing: what it has to be for a registry to follow the longer history. -/
theorem concat (h : r.Follows history) {d : Dealing β ε} {r' : Registry β ε}
    (hissued : issuedIn history ++ d.issued?.toList = (List.range' 1 r'.issued).map ProviderId.mk)
    (hwithdrawn : ∀ id ∈ d.withdrawn?, id ∈ issuedIn history)
    (hnew : ∀ id ∈ d.issued?, id ∉ issuedIn history)
    (hbuilders : r'.builders = r.builders.filter (some ·.id ≠ d.withdrawn?) ++ d.builder?.toList)
    (hevaluators : r'.evaluators =
      r.evaluators.filter (some ·.id ≠ d.withdrawn?) ++ d.evaluator?.toList) :
    r'.Follows (history ++ [d]) := by
  have hkept : ∀ id ∈ d.issued?, id ∉ withdrawnIn history :=
    fun id hid hmem => hnew id hid (h.withdrawn id hmem)
  refine ⟨(issuedIn_concat history d).trans hissued, ?_, ?_, ?_⟩
  · intro id hid
    rw [withdrawnIn_concat, List.mem_append, Option.mem_toList] at hid
    rw [issuedIn_concat]
    exact List.mem_append_left _ (hid.elim (h.withdrawn id) (hwithdrawn id))
  · rw [hbuilders, h.builders, buildersIn_concat hkept]
  · rw [hevaluators, h.evaluators, evaluatorsIn_concat hkept]

theorem issued_concat (h : r.Follows history) :
    issuedIn history ++ [r.nextId] = (List.range' 1 (r.issued + 1)).map ProviderId.mk := by
  rw [h.issued, List.range'_1_concat, List.map_append, List.map_singleton, Nat.add_comm 1 r.issued]
  rfl

theorem nextId_fresh (h : r.Follows history) : ∀ id ∈ some r.nextId, id ∉ issuedIn history := by
  rintro id ⟨⟩
  exact h.nextId_not_issued

theorem addBuilder (h : r.Follows history) (b : β) :
    (r.addBuilder b).Follows (history ++ [.builderAdded b r.nextId]) :=
  h.concat h.issued_concat nofun h.nextId_fresh
    (by simp [Registry.addBuilder, Dealing.builder?, Dealing.withdrawn?])
    (by simp [Registry.addBuilder, Dealing.evaluator?, Dealing.withdrawn?])

theorem addEvaluator (h : r.Follows history) (e : ε) :
    (r.addEvaluator e).Follows (history ++ [.evaluatorAdded e r.nextId]) :=
  h.concat h.issued_concat nofun h.nextId_fresh
    (by simp [Registry.addEvaluator, Dealing.builder?, Dealing.withdrawn?])
    (by simp [Registry.addEvaluator, Dealing.evaluator?, Dealing.withdrawn?])

theorem remove_missing (h : r.Follows history) (id : ProviderId) :
    r.Follows (history ++ [.removal id false]) :=
  h.concat (by simpa [Dealing.issued?] using h.issued) nofun nofun
    (by simp [Dealing.builder?, Dealing.withdrawn?])
    (by simp [Dealing.evaluator?, Dealing.withdrawn?])

theorem remove_found (h : r.Follows history) {id : ProviderId} {r' : Registry β ε}
    (hremove : r.remove? id = some r') : r'.Follows (history ++ [.removal id true]) := by
  have hcases := remove?_cases h.distinct id
  rw [hremove] at hcases
  rcases hcases with ⟨hholds, hloses, hbuilders, hevaluators⟩
  have hissued : r'.issued = r.issued := by
    cases hloses <;> rfl
  refine h.concat ?_ ?_ nofun ?_ ?_
  · simpa [Dealing.issued?, hissued] using h.issued
  · rintro _ ⟨⟩
    exact ((h.holds_iff id).1 hholds).1
  · simp [hbuilders, Dealing.builder?, Dealing.withdrawn?]
  · simp [hevaluators, Dealing.evaluator?, Dealing.withdrawn?]

/-- Whatever is done to a registry, its history goes on. -/
theorem change (h : r.Follows history) (c : Change β ε) :
    ∃ d, (r.change c).Follows (history ++ [d]) := by
  cases c with
  | addBuilder b => exact ⟨_, h.addBuilder b⟩
  | addEvaluator e => exact ⟨_, h.addEvaluator e⟩
  | remove id =>
      rw [Registry.change]
      cases hremove : r.remove? id with
      | none => exact ⟨_, h.remove_missing id⟩
      | some r' => exact ⟨_, h.remove_found hremove⟩

end Follows

/-- The registry has come about by registering and deregistering. -/
def Reached (r : Registry β ε) : Prop := ∃ serial changes, r = (empty serial).changeAll changes

theorem Follows.changeAll {r : Registry β ε} {history : List (Dealing β ε)} (h : r.Follows history)
    (changes : List (Change β ε)) : ∃ history', (r.changeAll changes).Follows history' := by
  induction changes generalizing r history with
  | nil => exact ⟨history, h⟩
  | cons c changes ih =>
      rcases h.change c with ⟨d, hd⟩
      exact ih hd

theorem Reached.follows {r : Registry β ε} (h : r.Reached) : ∃ history, r.Follows history := by
  rcases h with ⟨serial, changes, rfl⟩
  exact (Follows.empty serial).changeAll changes

end Registry

/-! ## Runs -/

/-- Deregistering finds what is held, and removes just that entry; what is not held changes nothing. -/
theorem Host.deregister_run {h : Host β ε σ} (hdistinct : h.registry.Distinct) (id : ProviderId) :
    match (Host.deregister id).run h with
    | (true, h') => h.registry.Holds id ∧ h.registry.Loses id h'.registry ∧
        h'.surroundings = h.surroundings
    | (false, h') => ¬ h.registry.Holds id ∧ h' = h := by
  have hcases := Registry.remove?_cases hdistinct id
  simp only [Host.deregister, HostM.run_bind, HostM.run_get]
  cases hremove : h.registry.remove? id with
  | none =>
      rw [hremove] at hcases
      exact ⟨hcases, rfl⟩
  | some r' =>
      rw [hremove] at hcases
      exact ⟨hcases.1, hcases.2.1, rfl⟩

theorem Host.deregister_held {h : Host β ε σ} (hdistinct : h.registry.Distinct)
    {id : ProviderId} (hheld : h.registry.Holds id) : ((Host.deregister id).run h).1 = true := by
  have hrun := Host.deregister_run hdistinct id
  rcases hanswer : (Host.deregister id).run h with ⟨found, h'⟩
  rw [hanswer] at hrun
  cases found with
  | true => rfl
  | false => exact absurd hheld hrun.1

section Runs

variable [Named β] [Named ε]

theorem Host.deal_follows {h : Host β ε σ} {history : List (Dealing β ε)}
    (hf : h.registry.Follows history) (c : Change β ε) :
    let run := (Host.deal c).run h
    run.1.change = c ∧ run.2.registry.Follows (history ++ [run.1]) := by
  cases c with
  | addBuilder b => exact ⟨rfl, hf.addBuilder b⟩
  | addEvaluator e => exact ⟨rfl, hf.addEvaluator e⟩
  | remove id =>
      simp only [Host.deal, Host.deregister, HostM.run_bind, HostM.run_get]
      cases hremove : h.registry.remove? id with
      | none => exact ⟨rfl, hf.remove_missing id⟩
      | some r' => exact ⟨rfl, hf.remove_found hremove⟩

/-- The induction is on what is done, for any history that has come before it. -/
theorem Host.dealAll_follows {h : Host β ε σ} {history : List (Dealing β ε)}
    (hf : h.registry.Follows history) (changes : List (Change β ε)) :
    let run := (Host.dealAll changes).run h
    run.1.map (·.change) = changes ∧ run.2.registry.Follows (history ++ run.1) := by
  induction changes generalizing h history with
  | nil =>
      have hsame : history ++ [] = history := List.append_nil history
      exact ⟨rfl, hsame.symm ▸ hf⟩
  | cons c changes ih =>
      rcases Host.deal_follows hf c with ⟨hchange, hstep⟩
      rcases ih hstep with ⟨hchanges, hrest⟩
      rw [List.append_assoc] at hrest
      refine ⟨?_, hrest⟩
      exact congrArg₂ List.cons hchange hchanges

/-- What is done is done to the registry alone. -/
theorem Host.deal_host (c : Change β ε) (h : Host β ε σ) :
    ((Host.deal c).run h).2.registry = h.registry.change c ∧
      ((Host.deal c).run h).2.surroundings = h.surroundings := by
  cases c with
  | addBuilder b => exact ⟨rfl, rfl⟩
  | addEvaluator e => exact ⟨rfl, rfl⟩
  | remove id => exact Host.deregister_host id h

theorem Host.dealAll_host (changes : List (Change β ε)) (h : Host β ε σ) :
    ((Host.dealAll changes).run h).2.registry = h.registry.changeAll changes ∧
      ((Host.dealAll changes).run h).2.surroundings = h.surroundings := by
  induction changes generalizing h with
  | nil => exact ⟨rfl, rfl⟩
  | cons c changes ih =>
      rcases Host.deal_host c h with ⟨hregistry, hsurroundings⟩
      rcases ih ((Host.deal c).run h).2 with ⟨hregistry', hsurroundings'⟩
      refine ⟨?_, hsurroundings'.trans hsurroundings⟩
      rw [hregistry] at hregistry'
      exact hregistry'

end Runs

/-- What a history tells about the registry that it leaves. -/
structure Registry.Account (r : Registry β ε) (history : List (Dealing β ε)) : Prop where
  /-- No identity is issued twice, so that one that is out of use never comes to name another provider. -/
  distinct : (issuedIn history).Nodup
  /-- Identities are numbers from 1 on, and no number is left out. -/
  numbered : ∀ id ∈ issuedIn history, 1 ≤ id.number ∧ id.number ≤ (issuedIn history).length
  builders : r.builders = buildersIn history
  /-- The fallback comes after all evaluators, whatever has been deregistered. -/
  candidates : r.candidates = (evaluatorsIn history).map .registered ++ [.fallback]
  builderCount : r.builderCount = r.builders.length
  evaluatorCount : r.evaluatorCount = r.candidates.length
  /-- What is held are the identities that have been issued and not been withdrawn. -/
  held : ∀ id, r.Holds id ↔ id ∈ issuedIn history ∧ id ∉ withdrawnIn history

theorem Registry.Follows.account {r : Registry β ε} {history : List (Dealing β ε)}
    (h : r.Follows history) : r.Account history where
  distinct := h.issued_nodup
  numbered := by
    intro id hid
    rw [h.issued] at hid ⊢
    rcases List.mem_map.1 hid with ⟨n, hn, rfl⟩
    have hbounds := List.mem_range'_1.1 hn
    simp only [List.length_map, List.length_range']
    omega
  builders := h.builders
  candidates := by rw [candidates, h.evaluators]
  builderCount := rfl
  evaluatorCount := by simp [evaluatorCount, candidates]
  held := h.holds_iff

/-- At any time the registry holds what has been registered and not been deregistered, in order, each under an identity
of its own. -/
theorem Host.dealAll_account [Named β] [Named ε] (serial : Nat) (surroundings : σ)
    (past : List Event) (changes : List (Change β ε)) :
    let run := (Host.dealAll changes).run ⟨.empty serial, surroundings, past⟩
    run.1.map (·.change) = changes ∧ run.2.registry.Account run.1 ∧
      ∀ id, match (Host.deregister id).run run.2 with
        | (true, h) => run.2.registry.Holds id ∧ run.2.registry.Loses id h.registry ∧
            h.surroundings = run.2.surroundings
        | (false, h) => ¬ run.2.registry.Holds id ∧ h = run.2 := by
  intro run
  have hstart : (Registry.empty serial : Registry β ε).Follows [] := .empty serial
  rcases Host.dealAll_follows (h := ⟨.empty serial, surroundings, past⟩) hstart changes with
    ⟨hchanges, hfollows⟩
  exact ⟨hchanges, hfollows.account, Host.deregister_run hfollows.distinct⟩

end HealthRules
