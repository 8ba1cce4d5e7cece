import HealthRules.Proofs.Session.Ownership

/-!
# Counters — what rules about the providers read

A rule about the number of providers does not keep a number: it keeps which registry it asks, and asks it each time
it is read. As long as that registry has an owner, the rule tells how many providers of the kind have been registered
and not been deregistered until this moment, in the middle of a pass too. It does not matter when the rule was built,
whether its builder is still registered, or which registry is in use. Once the last owner has gone the rule cannot be
read any more.

* `Counter.registered`, `Counter.withdrawn` and `Counter.standing`, what a history tells about one kind of providers;
* `Counter.count_add_withdrawn`: the count and the history agree;
* `Counter.Shows`, `Counter.Lapsed` and `Counter.ShownIn`, what reading a rule comes to on a host and in a session;
* `Counter.shows_while_owned`, for every run of an engine and for every session.
-/

namespace HealthRules

namespace Counter

/-! ## Providers of one kind -/

section Kinds

variable {β ε : Type}

/-- The identities of the providers that have been registered. -/
def registered (history : List (Dealing β ε)) : Counter → List ProviderId
  | builders => (history.filterMap (·.builder?)).map (·.id)
  | evaluators => (history.filterMap (·.evaluator?)).map (·.id)

/-- The identities of the providers that have been deregistered. -/
def withdrawn (history : List (Dealing β ε)) (c : Counter) : List ProviderId :=
  (withdrawnIn history).filter (· ∈ c.registered history)

/-- How many providers are not registered and count: the fallback is an evaluator. -/
def standing : Counter → Nat
  | builders => 0
  | evaluators => 1

/-- Builders and evaluators get their identities from the same numbers, and each kind has some of them. -/
theorem registered_nodup {r : Registry β ε} {history : List (Dealing β ε)} (h : r.Follows history)
    (c : Counter) : (c.registered history).Nodup := by
  have hall := (issuedIn_perm history).nodup_iff.2 h.issued_nodup
  rcases List.nodup_append'.1 hall with ⟨hbuilders, hevaluators, -⟩
  cases c with
  | builders => exact hbuilders
  | evaluators => exact hevaluators

/-- A registry holds as many providers of a kind as have been registered, less those that have been deregistered. -/
theorem count_add_withdrawn (serial : Nat) (changes : List (Change β ε)) (c : Counter) :
    let r : Registry β ε := .empty serial
    c.count (r.changeAll changes) + (c.withdrawn (r.history changes)).length =
      (c.registered (r.history changes)).length + c.standing := by
  intro r
  rcases Registry.history_follows serial changes with ⟨hfollows, hwithdrawn⟩
  have hregistered := registered_nodup hfollows c
  cases c with
  | builders =>
      have hkept := length_kept hregistered hwithdrawn
      have hcount : (r.changeAll changes).builderCount = (buildersIn (r.history changes)).length :=
        congrArg List.length hfollows.builders
      rw [count, hcount, registered, List.length_map]
      exact hkept
  | evaluators =>
      have hkept := length_kept hregistered hwithdrawn
      have hcount : (r.changeAll changes).evaluatorCount =
          (evaluatorsIn (r.history changes)).length + 1 :=
        congrArg (·.length + 1) hfollows.evaluators
      rw [count, hcount, registered, List.length_map, standing, ← hkept, Nat.add_right_comm]
      rfl

end Kinds

/-! ## Reading -/

section Reading

variable {β ε : Type}

/-- The reading is the number of providers that a history leaves. -/
def Tells (c : Counter) (history : List (Dealing β ε)) (reading : Reading) : Prop :=
  ∃ n, reading = .ok (.ofNat n) ∧
    n + (c.withdrawn history).length = (c.registered history).length + c.standing

/-- Reading the rule gives the number of providers that a history leaves, and does nothing else. -/
def Shows (c : Counter) (r : Rule Attribute) (history : List (Dealing β ε))
    (h : Host β ε Surroundings) : Prop :=
  ∃ reading, r.subject.read.run h = (reading, h) ∧ c.Tells history reading

/-- The rule cannot be read. -/
def Lapsed (c : Counter) (r : Rule Attribute) (h : Host β ε Surroundings) : Prop :=
  r.subject.read.run h = (c.dropped, h)

theorem ofLabel?_label (c : Counter) : ofLabel? c.label = some c := by
  cases c <;> decide

/-- The rule keeps the serial number of a registry, and nothing of what the registry holds. -/
theorem subject_of_build {serial : Nat} {c : Counter} {d : Definition} (hname : d.name = c.label)
    {h : Host Builder ε Surroundings} {r : Rule Attribute}
    (hr : (((Builder.introspection serial).build d).run h).1 = some r) :
    r.subject = ⟨c.label, .counter c serial⟩ := by
  have hrule : (Builder.introspectionSource serial d).map (Builder.bind d d.name) = some r := hr
  rcases Option.map_eq_some_iff.1 hrule with ⟨source, hsource, rfl⟩
  unfold Builder.introspectionSource at hsource
  split at hsource
  · rw [hname, ofLabel?_label] at hsource
    cases hsource
    rw [Builder.bind, hname]
  · cases hsource

/-- What has become of an empty registry tells by its count what has been done to it. -/
theorem tells_count (serial : Nat) (changes : List (Change β ε)) (c : Counter) :
    c.Tells ((Registry.empty serial).history changes)
      (.ok (.ofNat (c.count ((Registry.empty serial : Registry β ε).changeAll changes)))) :=
  ⟨_, rfl, count_add_withdrawn serial changes c⟩

variable {serial : Nat} {c : Counter} {r : Rule Attribute}

/-- All depends on whether the registry can be found, and then on its count. -/
theorem readAt_counter (hr : r.subject = ⟨c.label, .counter c serial⟩) (w : World)
    (count? : Counter → Nat → Option Nat) :
    r.subject.readAt w count? = match count? c serial with
      | some n => .ok (.ofNat n)
      | none => c.dropped := by
  rw [hr]
  rfl

/-- The registry is in use, whatever has been done to it. -/
theorem shows_of_changes (hr : r.subject = ⟨c.label, .counter c serial⟩) {changes : List (Change β ε)}
    {h : Host β ε Surroundings} (hh : h.registry = (Registry.empty serial).changeAll changes) :
    c.Shows r ((Registry.empty serial).history changes) h := by
  have hserial : h.registry.serial = serial := by
    rw [hh]
    exact Registry.changeAll_serial _ changes
  refine ⟨_, read_run r.subject h, ?_⟩
  rw [Attribute.reading, readAt_counter hr, Surroundings.count?, if_pos hserial, hh]
  exact tells_count serial changes c

end Reading

/-! ## Sessions -/

/-- What reading a rule for the registry `serial` comes to in a session: by itself, and at every moment of a pass,
which may be one on another registry. -/
structure ShownIn (c : Counter) (r : Rule Attribute) (serial : Nat) (s : Session) : Prop where
  owned : s.IsOwned serial → ∃ earlier,
    s.registryAt? serial = some ((Registry.empty serial).changeAll earlier) ∧
      c.Tells ((Registry.empty serial).history earlier) (s.read r.subject) ∧
      ∀ serial' changes m, s.Midway serial' changes m →
        c.Shows r ((Registry.empty serial).history (earlier ++ if serial' = serial then changes else [])) m
  unowned : ¬ s.IsOwned serial →
    s.read r.subject = c.dropped ∧ ∀ serial' changes m, s.Midway serial' changes m → c.Lapsed r m

section Sessions

variable {s : Session} {serial : Nat} {c : Counter} {r : Rule Attribute}

/-- A registry is what it was when the pass began, but for what the pass has done to its own. -/
theorem count?_midway (hs : s.Accounted) {serial' : Nat} {changes : List (Change Builder Evaluator)}
    {m : ProviderHost} (hm : s.Midway serial' changes m) (c : Counter) (serial : Nat) :
    m.surroundings.count? m.registry c serial = (s.registryAt? serial).map fun r =>
      c.count (r.changeAll (if serial' = serial then changes else [])) := by
  rcases hm.registry with ⟨r', hr', hregistry⟩
  have hserial : m.registry.serial = serial' := by
    rcases Option.map_eq_some_iff.1 hr' with ⟨x, hx, rfl⟩
    rcases hs.accounts.registry serial' x hx with ⟨earlier, hearlier⟩
    rw [hregistry, hearlier, Registry.changeAll_serial, Registry.changeAll_serial]
    rfl
  -- The registry of the pass is found on its host, every other one beside it.
  rw [Surroundings.count?, hserial]
  by_cases heq : serial' = serial
  · subst heq
    rw [if_pos rfl, if_pos rfl, hr', hregistry]
    rfl
  · rw [if_neg heq, if_neg heq, hm.elsewhere, Registries.lookup_others s.registries (Ne.symm heq)]
    rfl

theorem shownIn_of_accounted (hs : s.Accounted) (hr : r.subject = ⟨c.label, .counter c serial⟩) :
    c.ShownIn r serial s := by
  have hread : s.read r.subject = match (s.registryAt? serial).map (c.count ·) with
      | some n => .ok (.ofNat n)
      | none => c.dropped := by
    rw [Session.read, readAt_counter hr, Session.registryAt?, Option.map_map]
    rfl
  constructor
  · intro howned
    rcases Option.isSome_iff_exists.1 ((hs.isSome_registryAt?_iff serial).2 howned) with ⟨r', hr'⟩
    rcases Option.map_eq_some_iff.1 hr' with ⟨x, hx, rfl⟩
    -- What is there was empty once, and its history is what has been done to it since.
    rcases hs.accounts.registry serial x hx with ⟨earlier, hearlier⟩
    rw [hearlier] at hr'
    refine ⟨earlier, hr', ?_, ?_⟩
    · rw [hread, hr']
      exact tells_count serial earlier c
    · intro serial' changes m hm
      refine ⟨_, read_run r.subject m, ?_⟩
      rw [Attribute.reading, readAt_counter hr, count?_midway hs hm, hr', Option.map_some,
        ← Registry.changeAll_append]
      exact tells_count serial _ c
  · intro hunowned
    have hgone : s.registryAt? serial = none := by
      rw [← hs.isSome_registryAt?_iff] at hunowned
      simpa using hunowned
    constructor
    · rw [hread, hgone]
      rfl
    · intro serial' changes m hm
      rw [Lapsed, read_run, Attribute.reading, readAt_counter hr, count?_midway hs hm, hgone]
      rfl

end Sessions

/-! ## Whole runs -/

/-- A rule that counts providers is right at every moment as long as its registry has an owner, and lapses then. -/
theorem shows_while_owned (serial : Nat) (c : Counter) {d : Definition} (hname : d.name = c.label)
    {h₀ : ProviderHost} {r : Rule Attribute}
    (hr : (((Builder.introspection serial).build d).run h₀).1 = some r) :
    (∀ (B : Behaviour Builder Evaluator Attribute Surroundings) effects, Effects B effects →
      ∀ earlier (h : ProviderHost), h.registry = (Registry.empty serial).changeAll earlier →
      ∀ (e : Engine Attribute) (os : List (Operation Builder Evaluator Attribute)),
        let run := (e.performAll B os).run h
        let history := fun changes => (Registry.empty serial).history (earlier ++ changes)
        ∃ steps, Steps B e h steps run.1.1 run.2 ∧ steps.map (·.operation) = os ∧
          c.Shows r (history (steps.flatMap (·.changes effects))) run.2 ∧
          ∀ changes (m : ProviderHost), InCall effects steps changes m.registry →
            c.Shows r (history changes) m) ∧
    ∀ w opening deeds,
      let s := ((Session.carryOutAll deeds).run (Session.start w opening)).2
      c.ShownIn r serial s ∧
        (∀ serial' x asked k rest h', s.registries.find? serial' = some x →
          Chain providers (s.hostOf serial' x) (asked ++ k :: rest) h' →
            s.Midway serial' (asked.flatMap providerEffects) k.host) ∧
        (serial < s.registries.made → ∀ more,
          let s' := ((Session.carryOutAll more).run s).2
          (∀ later, s'.registryAt? serial = some later →
            ∃ now, s.registryAt? serial = some now ∧ now.Continues later) ∧
          (¬ s.IsOwned serial → ¬ s'.IsOwned serial ∧ s'.read r.subject = c.dropped)) := by
  -- The rule knows a serial number and nothing of the builder that made it.
  have hsubject := subject_of_build hname hr
  refine ⟨?_, ?_⟩
  · intro B effects heffects earlier h hh e os run history
    rcases performAll_run B e h os with ⟨steps, hsteps, hos, -, hregistry⟩
    refine ⟨steps, hsteps, hos, ?_, ?_⟩
    · apply shows_of_changes hsubject
      rw [hregistry effects heffects, hh, Registry.changeAll_append]
    · intro changes m hmoment
      apply shows_of_changes hsubject
      rw [hsteps.registry_inCall heffects hmoment, hh, Registry.changeAll_append]
  · intro w opening deeds s
    have hs : s.Accounted :=
      (Session.carryOutAll_leads (Session.start_accounted w opening) deeds).accounted
    refine ⟨shownIn_of_accounted hs hsubject, fun _ _ _ _ _ _ hx hc => Session.midway_of_chain hx hc, ?_⟩
    intro hmade more s'
    have hmore := Session.carryOutAll_leads hs more
    refine ⟨fun _ hlater => hmore.registryAt?_of_some hmade hlater, fun hgone => ?_⟩
    have hgone' : ¬ s'.IsOwned serial := hmore.not_isOwned hs hmade hgone
    exact ⟨hgone', ((shownIn_of_accounted hmore.accounted hsubject).unowned hgone').1⟩

/-- An evaluator registers another one and reads the counter; an engine keeps a registry that is no longer in use. -/
theorem shows_while_owned_dropped :
    let d : Definition := .unplaced "muppet" "EvaluatorCount" "= 3" none
    let r : Rule Attribute := ⟨⟨"EvaluatorCount", .counter .evaluators 0⟩, "= 3"⟩
    let first : Evaluator := .scripted "first" .everything .notNumeric (some (.standard .numeric)) none
    let os : List (Operation Builder Evaluator Attribute) :=
      [.change (.addBuilder (.introspection 0)), .change (.addEvaluator first), .addRules [d],
        .change (.remove ⟨1⟩), .evaluate]
    let run := (Engine.performAll providers {} os).run bareHost
    let deeds : List Session.Deed :=
      [.newEngine "main", .openFacade .bare, .change (.engine "main") (.addEvaluator first)]
    let start := Session.start bareHost.surroundings.toWorld (.configured .standard)
    let s := ((Session.carryOutAll deeds).run start).2
    let s' := ((Session.carryOutAll (deeds ++ [.dropEngine "main"])).run start).2
    evaluators.label = d.name ∧ (((Builder.introspection 0).build d).run bareHost).1 = some r ∧
      Effects providers providerEffects ∧
      (∃ steps, Steps providers {} bareHost steps run.1.1 run.2 ∧ steps.map (·.operation) = os ∧
        evaluators.Shows r
          ((Registry.empty 0).history ([] ++ steps.flatMap (·.changes providerEffects))) run.2) ∧
      run.1.1.rules = [r] ∧ run.2.registry.builderCount = 0 ∧
      (run.1.2.flatMap fun
        | .outcomes outcomes => outcomes.map (·.message)
        | _ => []) = ["value '3' of EvaluatorCount is not numeric"] ∧
      s.counts = (0, 1) ∧ s.IsOwned 0 ∧ s.read r.subject = .ok (.ofNat 4) ∧ evaluators.ShownIn r 0 s ∧
      0 < s'.registries.made ∧ ¬ s'.IsOwned 0 ∧
      ∀ more, (((Session.carryOutAll more).run s').2).read r.subject = evaluators.dropped := by
  intro d r first os run deeds start s s'
  have hbuild : (((Builder.introspection 0).build d).run bareHost).1 = some r := rfl
  rcases shows_while_owned 0 evaluators (d := d) rfl hbuild with ⟨hruns, hsessions⟩
  rcases hruns providers providerEffects providers_effects [] bareHost rfl {} os with
    ⟨steps, hsteps, hos, hshows, -⟩
  have howned : s.IsOwned 0 := ⟨.engine "main", by decide +kernel⟩
  have hgone : ¬ s'.IsOwned 0 := by
    rintro ⟨o, ho⟩
    have hholdings : s'.holdings = [(.facade, 1)] := by decide +kernel
    rw [hholdings] at ho
    cases List.mem_singleton.1 ho
  have hmade : 0 < s'.registries.made := by decide +kernel
  rcases hsessions bareHost.surroundings.toWorld (.configured .standard) deeds with ⟨hshown, -, -⟩
  rcases hsessions bareHost.surroundings.toWorld (.configured .standard) (deeds ++ [.dropEngine "main"]) with
    ⟨-, -, hstay⟩
  have hmore := fun more => (hstay hmade more).2 hgone
  refine ⟨rfl, hbuild, providers_effects, ⟨steps, hsteps, hos, hshows⟩, rfl, rfl, ?_, ?_, howned, rfl,
    hshown, hmade, hgone, fun more => (hmore more).2⟩
  · decide +kernel
  · decide +kernel

end Counter

end HealthRules
