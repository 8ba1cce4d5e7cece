import HealthRules.Proofs.Config.Registration
import HealthRules.Proofs.Session.References
import HealthRules.Session

/-!
# Ownership — who has references to registries in a session

In a session references are with owners: the facade, engines and handles. Rules have none, and no builder has one
that makes rules about the providers of its registry. Whatever is done in a session, the references that are
counted are those of its owners, and what is done to a registry, by calls of providers too, are changes. So a
registry that no owner is left of is gone, and it stays gone.

* `Session.Deed` and `Session.carryOutAll`, all that can be done in a session;
* `Session.Accounted`: the references of owners are all there are;
* `Session.Leads`, what every deed comes to, and `Session.carryOutAll_leads`, for whole sessions;
* `Session.Midway`, the moments of a pass in a session, and `Session.midway_of_chain`.
-/

namespace HealthRules

/-! ## Registries of hosts -/

/-- Providers that are registered one after another. -/
theorem Registry.continues_of_foldl {γ : Type} (change : γ → Change Builder Evaluator) (ps : List γ)
    (r : Registry Builder Evaluator) : r.Continues (ps.foldl (fun r p => r.change (change p)) r) := by
  refine ⟨ps.map change, ?_⟩
  rw [Registry.changeAll, List.foldl_map]

theorem continues_of_chain {h h' : ProviderHost}
    {calls : List (Call Builder Evaluator Attribute Surroundings)} (hc : Chain providers h calls h') :
    h.registry.Continues h'.registry :=
  ⟨_, hc.registry_eq providers_effects⟩

theorem firstRule_continues (d : Definition) (builders : List (Entry Builder)) (h : ProviderHost) :
    h.registry.Continues ((providers.firstRule d builders).run h).2.registry := by
  have hcalls := firstRule_calls providers d builders h
  split at hcalls
  · next h' hrun =>
      rcases hcalls with ⟨calls, -, hchain⟩
      rw [hrun]
      exact continues_of_chain hchain
  · next b r h' hrun =>
      rcases hcalls with ⟨before, after, calls, hb, -, -, -, hchain⟩
      rw [hrun]
      exact continues_of_chain hchain

theorem addRules_continues (e : Engine Attribute) (ds : List Definition) (h : ProviderHost) :
    h.registry.Continues ((e.addRules providers ds).run h).2.registry := by
  rcases addRules_pass providers e ds h with ⟨items, -, -, hchain⟩
  exact continues_of_chain hchain

theorem evaluate_continues (e : Engine Attribute) (h : ProviderHost) :
    h.registry.Continues ((e.evaluate providers).run h).2.registry := by
  rcases evaluate_pass providers e h with ⟨items, -, -, hchain⟩
  exact continues_of_chain hchain

theorem Opening.register_continues (opening : Opening) (h : ProviderHost) :
    h.registry.Continues (opening.register.run h).2.registry := by
  cases opening with
  | bare => exact .refl _
  | configured c =>
      let h' := ((c.registerBuilders c.builtins.builders).run h).2
      have hbuilders := (c.registerBuilders_run c.builtins.builders h).1
      have hevaluators := (Config.registerEvaluators_run c.builtins.evaluators h').1
      have hfirst : h.registry.Continues h'.registry := by
        rw [hbuilders]
        exact Registry.continues_of_foldl .addBuilder _ h.registry
      have hsecond : h'.registry.Continues
          ((Config.registerEvaluators c.builtins.evaluators).run h').2.registry := by
        rw [hevaluators]
        exact Registry.continues_of_foldl .addEvaluator _ h'.registry
      exact hfirst.trans hsecond

namespace Session

/-! ## Deeds -/

/-- What can be done in a session. -/
inductive Deed where
  | change (o : Owner) (c : Change Builder Evaluator)
  | deregisterNumber (o : Owner) (number : Nat)
  | changeWorld (f : World → World)
  | keepRoster (slot : String)
  | build (slot : String) (d : Definition)
  | newEngine (engine : String)
  | changeEngine (engine : String) (f : Engine Attribute → Engine Attribute)
  | addDefinitions (engine : String) (ds : List Definition)
  | addText (engine : String) (text : String)
  | evaluate (engine : String)
  | dropEngine (engine : String)
  | openFacade (opening : Opening)
  | lend (giver : Owner) (handle : String)
  | adopt (handle : String)
  | drop (o : Owner)

/-- Do it, whatever is given back. -/
def carryOut : Deed → SessionM Unit
  | .change o c => do let _ ← onOwner o (Host.deal c)
  | .deregisterNumber o number => do let _ ← onOwner o (Host.deregisterNumber number)
  | .changeWorld f => changeWorld f
  | .keepRoster slot => keepRoster slot
  | .build slot d => do let _ ← build slot d
  | .newEngine engine => newEngine engine
  | .changeEngine engine f => changeEngine engine f
  | .addDefinitions engine ds => do let _ ← addDefinitions engine ds
  | .addText engine text => do let _ ← addText engine text
  | .evaluate engine => do let _ ← evaluate engine
  | .dropEngine engine => dropEngine engine
  | .openFacade opening => openFacade opening
  | .lend giver handle => lend giver handle
  | .adopt handle => adopt handle
  | .drop o => modify (·.drop o)

/-- Do one thing after another. -/
def carryOutAll : List Deed → SessionM Unit
  | [] => return
  | d :: ds => do
      carryOut d
      carryOutAll ds

/-! ## References of owners -/

/-- Owners have one reference each at most, and these are all the references that are counted. -/
structure Accounted (s : Session) : Prop where
  distinct : (s.holdings.map (·.1)).Nodup
  accounts : s.registries.Accounts (s.holdings.map (·.2))

/-- Some owner of the registry is left. -/
def IsOwned (s : Session) (serial : Nat) : Prop := ∃ o, (o, serial) ∈ s.holdings

/-- The registry of that serial number, if it is there. -/
def registryAt? (s : Session) (serial : Nat) : Option (Registry Builder Evaluator) :=
  (s.registries.find? serial).map (·.registry)

variable {s s' s'' : Session} {o : Owner} {serial : Nat}

theorem mem_holdings_of_lookup (h : s.holdings.lookup o = some serial) : (o, serial) ∈ s.holdings := by
  rcases List.lookup_eq_some_iff.1 h with ⟨before, after, hsplit, -⟩
  simp [hsplit]

theorem Accounted.isSome_registryAt?_iff (hs : s.Accounted) (serial : Nat) :
    (s.registryAt? serial).isSome ↔ s.IsOwned serial := by
  rw [registryAt?, Option.isSome_map, hs.accounts.isSome_find?_iff, List.mem_map]
  constructor
  · rintro ⟨⟨o, _⟩, hmem, rfl⟩
    exact ⟨o, hmem⟩
  · rintro ⟨o, hmem⟩
    exact ⟨(o, serial), hmem, rfl⟩

/-- The reference of an owner and those of all others. -/
theorem perm_of_lookup (hdistinct : (s.holdings.map (·.1)).Nodup) (h : s.holdings.lookup o = some serial) :
    s.holdings.Perm ((o, serial) :: s.holdings.filter (·.1 ≠ o)) := by
  rcases List.lookup_eq_some_iff.1 h with ⟨before, after, hsplit, hbefore⟩
  have hfirst : ∀ entry ∈ before, entry.1 ≠ o := by
    intro entry hentry heq
    simpa [heq] using hbefore entry hentry
  have hlast : ∀ entry ∈ after, entry.1 ≠ o := by
    rw [hsplit, List.map_append, List.map_cons] at hdistinct
    have hnot := (List.nodup_cons.1 (List.nodup_append.1 hdistinct).2.1).1
    intro entry hentry heq
    exact hnot (List.mem_map.2 ⟨entry, hentry, heq⟩)
  have hfilter : s.holdings.filter (·.1 ≠ o) = before ++ after := by
    rw [hsplit, List.filter_append, List.filter_cons]
    rw [List.filter_eq_self.2 fun entry hentry => decide_eq_true (hfirst entry hentry),
      List.filter_eq_self.2 fun entry hentry => decide_eq_true (hlast entry hentry)]
    simp
  rw [hfilter, hsplit]
  exact List.perm_middle

/-- Giving a reference up, while `extra` references are with nobody yet. -/
theorem accounts_drop (hdistinct : (s.holdings.map (·.1)).Nodup) (extra : List Nat)
    (h : s.registries.Accounts (extra ++ s.holdings.map (·.2))) (o : Owner) :
    (s.drop o).registries.Accounts (extra ++ (s.drop o).holdings.map (·.2)) := by
  unfold drop
  cases hlookup : s.holdings.lookup o with
  | none => exact h
  | some serial =>
      have hperm := ((perm_of_lookup hdistinct hlookup).map (·.2)).append_left extra
      exact (h.perm (hperm.trans List.perm_middle)).release

theorem distinct_drop (hdistinct : (s.holdings.map (·.1)).Nodup) (o : Owner) :
    (o :: (s.drop o).holdings.map (·.1)).Nodup := by
  unfold drop
  cases hlookup : s.holdings.lookup o with
  | none =>
      refine List.nodup_cons.2 ⟨?_, hdistinct⟩
      intro hmem
      rcases List.mem_map.1 hmem with ⟨entry, hentry, heq⟩
      have hnot := List.lookup_eq_none_iff.1 hlookup entry hentry
      simp [heq] at hnot
  | some serial => exact ((perm_of_lookup hdistinct hlookup).map (·.1)).nodup_iff.1 hdistinct

/-- A reference that is with nobody goes to an owner. -/
theorem accounted_assign (hdistinct : (s.holdings.map (·.1)).Nodup)
    (h : s.registries.Accounts (serial :: s.holdings.map (·.2))) (o : Owner) :
    (s.assign o serial).Accounted :=
  ⟨distinct_drop hdistinct o, accounts_drop hdistinct [serial] h o⟩

/-! ## What deeds come to -/

/-- A session comes after another one: references are those of owners, and registries succeed. -/
structure Leads (s s' : Session) : Prop where
  accounted : s'.Accounted
  succeeds : s.registries.Succeeds s'.registries

namespace Leads

theorem trans (h : s.Leads s') (h' : s'.Leads s'') : s.Leads s'' :=
  ⟨h'.accounted, h.succeeds.trans h'.succeeds⟩

/-- What has no part in ownership may change. -/
theorem of_same (hs : s.Accounted) (hregistries : s'.registries = s.registries)
    (hholdings : s'.holdings = s.holdings) : s.Leads s' := by
  refine ⟨⟨?_, ?_⟩, ?_⟩
  · rw [hholdings]
    exact hs.distinct
  · rw [hregistries, hholdings]
    exact hs.accounts
  · rw [hregistries]
    exact .refl _

theorem refl (hs : s.Accounted) : s.Leads s := of_same hs rfl rfl

end Leads

theorem drop_succeeds (s : Session) (o : Owner) : s.registries.Succeeds (s.drop o).registries := by
  unfold drop
  cases s.holdings.lookup o with
  | none => exact .refl _
  | some serial => exact .release s.registries serial

theorem drop_leads (hs : s.Accounted) (o : Owner) : s.Leads (s.drop o) :=
  ⟨⟨(List.nodup_cons.1 (distinct_drop hs.distinct o)).2, accounts_drop hs.distinct [] hs.accounts o⟩,
    drop_succeeds s o⟩

theorem share_leads (hs : s.Accounted) (giver taker : Owner) : s.Leads (s.share giver taker) := by
  unfold share
  cases hlookup : s.holdings.lookup giver with
  | none => exact .refl hs
  | some serial =>
      have hheld : serial ∈ s.holdings.map (·.2) :=
        List.mem_map_of_mem (mem_holdings_of_lookup hlookup)
      -- For a moment the new reference is with nobody: the taker gives up its old one first.
      let retained : Session := { s with registries := s.registries.retain serial }
      exact ⟨accounted_assign (s := retained) hs.distinct (hs.accounts.retain hheld) taker,
        (Registries.Succeeds.retain s.registries serial).trans (drop_succeeds retained taker)⟩

theorem found_leads (hs : s.Accounted) (o : Owner) : s.Leads (s.found o) :=
  let made : Session := { s with registries := s.registries.create }
  ⟨accounted_assign (s := made) hs.distinct hs.accounts.create o,
    (Registries.Succeeds.create s.registries).trans (drop_succeeds made o)⟩

theorem holding?_eq_some {x : SharedRegistry} (h : s.holding? o = some (serial, x)) :
    s.holdings.lookup o = some serial ∧ s.registries.find? serial = some x := by
  rcases Option.bind_eq_some_iff.1 h with ⟨serial', hlookup, hrest⟩
  rcases Option.bind_eq_some_iff.1 hrest with ⟨x', hfind, heq⟩
  cases heq
  exact ⟨hlookup, hfind⟩

/-- A computation on the registry of an owner leaves all references as they are. -/
theorem onOwner_leads {γ : Type} (hs : s.Accounted) (o : Owner) {m : ProviderM γ}
    (hm : ∀ h : ProviderHost, h.registry.Continues (m.run h).2.registry) : s.Leads ((onOwner o m).run s).2 := by
  rw [StateT.run, onOwner]
  cases hholding : s.holding? o with
  | none => exact .refl hs
  | some held =>
      rcases held with ⟨serial, x⟩
      have hfind := (holding?_eq_some hholding).2
      have hregistry := hm (s.hostOf serial x)
      exact ⟨⟨hs.distinct, hs.accounts.update hfind rfl hregistry⟩,
        Registries.Succeeds.set (by rintro _ ⟨⟩; exact ⟨x, hfind, hregistry⟩)⟩

theorem run_bind {γ δ : Type} (m : SessionM γ) (f : γ → SessionM δ) (s : Session) :
    (m >>= f).run s = (f (m.run s).1).run (m.run s).2 := rfl

theorem run_get (s : Session) : (get : SessionM Session).run s = (s, s) := rfl

theorem run_modify (f : Session → Session) (s : Session) : (modify f : SessionM Unit).run s = ((), f s) := rfl

theorem openFacade_leads (hs : s.Accounted) (opening : Opening) :
    s.Leads ((openFacade opening).run s).2 := by
  have hfound := found_leads hs .facade
  have hopened : (s.found .facade).Leads
      { s.found .facade with unreadableIsError := opening.unreadableIsError } :=
    .of_same hfound.accounted rfl rfl
  exact (hfound.trans hopened).trans
    (onOwner_leads hopened.accounted .facade opening.register_continues)

theorem addDefinitions_leads (hs : s.Accounted) (engine : String) (ds : List Definition) :
    s.Leads ((addDefinitions engine ds).run s).2 := by
  have hbuilt := onOwner_leads hs (.engine engine) (addRules_continues (s.engine engine) ds)
  refine hbuilt.trans ?_
  -- What is given back decides only whether an engine is put in the place of another.
  simp only [addDefinitions, run_bind, run_get]
  rcases ((onOwner (.engine engine) ((s.engine engine).addRules providers ds)).run s).1 with _ | ⟨e, failures⟩
  · exact .refl hbuilt.accounted
  · exact .of_same hbuilt.accounted rfl rfl

/-- Reading only tells about lines, so that the definitions are built on the registry as it was. -/
theorem addText_leads (hs : s.Accounted) (engine text : String) :
    s.Leads ((addText engine text).run s).2 := by
  have hread := onOwner_leads hs (.engine engine) (m := Host.readText text) fun _ => .refl _
  simp only [addText, run_bind]
  rcases ((onOwner (.engine engine) (Host.readText text)).run s).1 with _ | batch
  · exact hread
  · exact hread.trans (addDefinitions_leads hread.accounted engine batch.definitions)

/-- Keeping a rule aside is no reference to a registry. -/
theorem build_leads (hs : s.Accounted) (slot : String) (d : Definition) :
    s.Leads ((build slot d).run s).2 := by
  let making : ProviderM (Option (Entry Builder × Rule Attribute)) := do
    providers.firstRule d (← get).registry.builders
  have hmade := onOwner_leads hs .facade (m := making) fun h => firstRule_continues d h.registry.builders h
  refine hmade.trans ?_
  simp only [build, run_bind]
  rcases ((onOwner .facade making).run s).1 with _ | _ | ⟨b, r⟩
  · exact .refl hmade.accounted
  · exact .refl hmade.accounted
  · exact .of_same hmade.accounted rfl rfl

/-- One case for each deed. -/
theorem carryOut_leads (hs : s.Accounted) (d : Deed) : s.Leads ((carryOut d).run s).2 := by
  cases d with
  | change o c => exact onOwner_leads hs o fun h => ⟨[c], (Host.deal_host c h).1⟩
  | deregisterNumber o number =>
      exact onOwner_leads hs o (m := Host.deregisterNumber number) fun h =>
        ⟨[.remove ⟨number⟩], (Host.deregister_host ⟨number⟩ _).1⟩
  | changeWorld f => exact .of_same hs rfl rfl
  | keepRoster slot =>
      -- A roster is a list of names.
      simp only [carryOut, keepRoster, run_modify]
      cases hholding : s.holding? .facade with
      | none => exact .of_same hs rfl rfl
      | some held => exact .of_same hs rfl rfl
  | build slot d => exact build_leads hs slot d
  | newEngine engine =>
      have hshared := share_leads hs .facade (.engine engine)
      simp only [carryOut, newEngine, run_modify]
      cases s.holdings.lookup .facade with
      | none => exact .refl hs
      | some serial => exact hshared.trans (.of_same hshared.accounted rfl rfl)
  | changeEngine engine f => exact .of_same hs rfl rfl
  | addDefinitions engine ds => exact addDefinitions_leads hs engine ds
  | addText engine text => exact addText_leads hs engine text
  | evaluate engine => exact onOwner_leads hs (.engine engine) (evaluate_continues (s.engine engine))
  | dropEngine engine =>
      have hdropped := drop_leads hs (.engine engine)
      exact hdropped.trans (.of_same hdropped.accounted rfl rfl)
  | openFacade opening => exact openFacade_leads hs opening
  | lend giver handle => exact share_leads hs giver (.handle handle)
  | adopt handle =>
      have hshared := share_leads hs (.handle handle) .facade
      simp only [carryOut, adopt, run_modify]
      cases s.holdings.lookup (.handle handle) with
      | none => exact .refl hs
      | some serial => exact hshared.trans (.of_same hshared.accounted rfl rfl)
  | drop o => exact drop_leads hs o

/-- Whatever is done one after another. -/
theorem carryOutAll_leads (hs : s.Accounted) (ds : List Deed) : s.Leads ((carryOutAll ds).run s).2 := by
  induction ds generalizing s with
  | nil => exact .refl hs
  | cons d ds ih =>
      have hfirst := carryOut_leads hs d
      exact hfirst.trans (ih hfirst.accounted)

theorem start_accounted (w : World) (opening : Opening) : (start w opening).Accounted :=
  (openFacade_leads (s := { world := w }) ⟨.nil, .empty⟩ opening).accounted

/-- What is there later was there before, and has been changed since. -/
theorem Leads.registryAt?_of_some (h : s.Leads s') (hmade : serial < s.registries.made)
    {r' : Registry Builder Evaluator} (hr' : s'.registryAt? serial = some r') :
    ∃ r, s.registryAt? serial = some r ∧ r.Continues r' := by
  rcases Option.map_eq_some_iff.1 hr' with ⟨x', hx', rfl⟩
  rcases h.succeeds.found serial hmade x' hx' with ⟨x, hx, hcontinues⟩
  refine ⟨x.registry, ?_, hcontinues⟩
  rw [registryAt?, hx]
  rfl

/-- Once the last owner of a registry has gone, nobody will own it. -/
theorem Leads.not_isOwned (h : s.Leads s') (hs : s.Accounted) (hmade : serial < s.registries.made)
    (hgone : ¬ s.IsOwned serial) : ¬ s'.IsOwned serial := by
  intro howned
  rcases Option.isSome_iff_exists.1 ((h.accounted.isSome_registryAt?_iff serial).2 howned) with ⟨r', hr'⟩
  rcases h.registryAt?_of_some hmade hr' with ⟨r, hr, -⟩
  apply hgone
  rw [← hs.isSome_registryAt?_iff, hr]
  rfl

/-! ## Moments in the middle -/

/-- A moment in the middle of a pass on the registry `serial`, when `changes` have been made to it so far. All other
registries are as they were when the pass began. -/
structure Midway (s : Session) (serial : Nat) (changes : List (Change Builder Evaluator)) (m : ProviderHost) :
    Prop where
  registry : ∃ r, s.registryAt? serial = some r ∧ m.registry = r.changeAll changes
  elsewhere : m.surroundings.elsewhere = s.registries.others serial

/-- Calls of the library's providers leave other registries alone, so that a call finds the changes of those before. -/
theorem midway_of_chain {x : SharedRegistry} (hx : s.registries.find? serial = some x)
    {asked rest : List (Call Builder Evaluator Attribute Surroundings)}
    {k : Call Builder Evaluator Attribute Surroundings} {h' : ProviderHost}
    (hc : Chain providers (s.hostOf serial x) (asked ++ k :: rest) h') :
    s.Midway serial (asked.flatMap providerEffects) k.host := by
  have hsplit := hc.split
  refine ⟨⟨x.registry, ?_, hsplit.registry_eq providers_effects⟩, ?_⟩
  · rw [registryAt?, hx]
    rfl
  · let Known (s' : Surroundings) : Prop := s'.elsewhere = s.registries.others serial
    have hcalls : ∀ c : Call Builder Evaluator Attribute Surroundings,
        Known c.host.surroundings → Known (c.after providers).surroundings :=
      fun c hc => (call_elsewhere c).trans hc
    exact hsplit.keeps hcalls rfl

end Session

end HealthRules
