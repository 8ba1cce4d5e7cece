import HealthRules.Engine.Host
import Mathlib.Data.List.Forall2

/-!
# Calls — what providers are asked, one call after another

Whatever happens to a host beside what is told happens in a call of a provider or of an attribute. A call
finds the host as the one before it left it, and it may change all of it. This module speaks of calls in a
row, and of the changes that they make to the registry.

* `Ask` and `Call`, with the host after a call;
* `Alike`, hosts that differ only in what has been told;
* `Chain`, calls that are made one after another;
* `Change`, what can be done to a registry, and `Chain.registry_eq`: calls leave behind all their changes.
-/

namespace HealthRules

variable {β ε α σ : Type}

/-! ## Running on a host -/

namespace HostM

theorem run_pure {γ : Type} (c : γ) (h : Host β ε σ) :
    (pure c : HostM β ε σ γ).run h = (c, h) := rfl

theorem run_bind {γ δ : Type} (m : HostM β ε σ γ) (f : γ → HostM β ε σ δ) (h : Host β ε σ) :
    (m >>= f).run h = (f (m.run h).1).run (m.run h).2 := rfl

theorem run_get (h : Host β ε σ) : (get : HostM β ε σ (Host β ε σ)).run h = (h, h) := rfl

end HostM

/-! ## Hosts that differ in what has been told -/

/-- The hosts differ at most in what has been told. -/
structure Alike (h h' : Host β ε σ) : Prop where
  registry : h'.registry = h.registry
  surroundings : h'.surroundings = h.surroundings

namespace Alike

theorem refl (h : Host β ε σ) : Alike h h := ⟨rfl, rfl⟩

theorem trans {h₁ h₂ h₃ : Host β ε σ} (h₁₂ : Alike h₁ h₂) (h₂₃ : Alike h₂ h₃) : Alike h₁ h₃ :=
  ⟨h₂₃.registry.trans h₁₂.registry, h₂₃.surroundings.trans h₁₂.surroundings⟩

theorem tell (e : Event) (h : Host β ε σ) :
    Alike h ((Host.tell e : HostM β ε σ Unit).run h).2 := ⟨rfl, rfl⟩

end Alike

/-! ## Calls -/

/-- What is asked of a builder, an evaluator or an attribute. -/
inductive Ask (β ε α : Type) where
  | build (b : Entry β) (d : Definition)
  | accepts (e : Entry ε) (r : Rule α)
  | evaluate (e : Entry ε) (r : Rule α)
  | read (r : Rule α)

/-- A call: what is asked, and the host that the call finds. -/
structure Call (β ε α σ : Type) where
  ask : Ask β ε α
  host : Host β ε σ

/-- The host after a call. -/
def Call.after (B : Behaviour β ε α σ) (c : Call β ε α σ) : Host β ε σ :=
  match c.ask with
  | .build b d => ((B.build b d).run c.host).2
  | .accepts e r => ((B.accepts e r.subject r.expression).run c.host).2
  | .evaluate e r => ((B.evaluate e r.subject r.expression).run c.host).2
  | .read r => ((B.read r.subject).run c.host).2

/-- Calls one after another, from a host to a host: each call finds the registry and the surroundings just
as the one before it left them, and nothing changes them after the last one. -/
def Chain (B : Behaviour β ε α σ) : Host β ε σ → List (Call β ε α σ) → Host β ε σ → Prop
  | h, [], h' => Alike h h'
  | h, c :: cs, h' => Alike h c.host ∧ Chain B (c.after B) cs h'

namespace Chain

variable {B : Behaviour β ε α σ}

theorem refl (h : Host β ε σ) : Chain B h [] h := Alike.refl h

theorem of_alike_left {h₁ h₂ h₃ : Host β ε σ} {cs : List (Call β ε α σ)} (ha : Alike h₁ h₂)
    (hc : Chain B h₂ cs h₃) : Chain B h₁ cs h₃ := by
  -- Only the first call of the chain sees the host at its beginning.
  cases cs with
  | nil => exact ha.trans hc
  | cons c cs => exact ⟨ha.trans hc.1, hc.2⟩

theorem append {h₁ h₂ h₃ : Host β ε σ} {cs cs' : List (Call β ε α σ)} (hc : Chain B h₁ cs h₂)
    (hc' : Chain B h₂ cs' h₃) : Chain B h₁ (cs ++ cs') h₃ := by
  induction cs generalizing h₁ with
  | nil => exact of_alike_left hc hc'
  | cons c cs ih => exact ⟨hc.1, ih hc.2⟩

theorem of_alike_right {h₁ h₂ h₃ : Host β ε σ} {cs : List (Call β ε α σ)} (hc : Chain B h₁ cs h₂)
    (ha : Alike h₂ h₃) : Chain B h₁ cs h₃ := by
  have happend : Chain B h₁ (cs ++ []) h₃ := append hc ha
  simpa using happend

theorem single (c : Call β ε α σ) : Chain B c.host [c] (c.after B) :=
  ⟨Alike.refl c.host, Alike.refl (c.after B)⟩

end Chain

/-! ## Changes of a registry -/

/-- What can be done to a registry from outside it. -/
inductive Change (β ε : Type) where
  | addBuilder (b : β)
  | addEvaluator (e : ε)
  | remove (id : ProviderId)

namespace Registry

/-- Do something to a registry. Removing what is not there does nothing. -/
def change (r : Registry β ε) : Change β ε → Registry β ε
  | .addBuilder b => r.addBuilder b
  | .addEvaluator e => r.addEvaluator e
  | .remove id => (r.remove? id).getD r

/-- Do several things to a registry, one after another. -/
def changeAll (r : Registry β ε) (changes : List (Change β ε)) : Registry β ε :=
  changes.foldl change r

theorem changeAll_append (r : Registry β ε) (cs cs' : List (Change β ε)) :
    r.changeAll (cs ++ cs') = (r.changeAll cs).changeAll cs' :=
  List.foldl_append

end Registry

theorem Host.deregister_host (id : ProviderId) (h : Host β ε σ) :
    ((Host.deregister id).run h).2.registry = h.registry.change (.remove id) ∧
      ((Host.deregister id).run h).2.surroundings = h.surroundings := by
  rw [Host.deregister, HostM.run_bind, HostM.run_get, Registry.change]
  cases h.registry.remove? id with
  | none => exact ⟨rfl, rfl⟩
  | some registry => exact ⟨rfl, rfl⟩

/-- Every call changes the registry just as `effects` says. -/
def Effects (B : Behaviour β ε α σ) (effects : Call β ε α σ → List (Change β ε)) : Prop :=
  ∀ c : Call β ε α σ, (c.after B).registry = c.host.registry.changeAll (effects c)

/-- Calls leave behind the changes of all of them, in the order of the calls, and no others. -/
theorem Chain.registry_eq {B : Behaviour β ε α σ} {effects : Call β ε α σ → List (Change β ε)}
    (heffects : Effects B effects) {h h' : Host β ε σ} {cs : List (Call β ε α σ)}
    (hc : Chain B h cs h') : h'.registry = h.registry.changeAll (cs.flatMap effects) := by
  induction cs generalizing h with
  | nil => exact hc.registry
  | cons c cs ih =>
      calc
        h'.registry = (c.after B).registry.changeAll (cs.flatMap effects) := ih hc.2
        _ = (c.host.registry.changeAll (effects c)).changeAll (cs.flatMap effects) := by
              rw [heffects c]
        _ = h.registry.changeAll ((c :: cs).flatMap effects) := by
              rw [hc.1.registry, List.flatMap_cons, Registry.changeAll_append]

/-- What every call keeps of the surroundings is kept by calls one after another. -/
theorem Chain.keeps {B : Behaviour β ε α σ} {Known : σ → Prop}
    (hcalls : ∀ c : Call β ε α σ, Known c.host.surroundings → Known (c.after B).surroundings)
    {h h' : Host β ε σ} {cs : List (Call β ε α σ)} (hc : Chain B h cs h')
    (hknown : Known h.surroundings) : Known h'.surroundings := by
  induction cs generalizing h with
  | nil => exact hc.surroundings ▸ hknown
  | cons c cs ih =>
      have hfound : Known c.host.surroundings := hc.1.surroundings ▸ hknown
      exact ih hc.2 (hcalls c hfound)

end HealthRules
