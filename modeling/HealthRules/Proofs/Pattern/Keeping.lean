import HealthRules.Proofs.Pattern.Caching

/-!
# Keeping — which patterns a cache keeps

A cache has room for so many patterns and no more, and drops all of them at once when it would need more room.
Asking for a pattern changes the cache only if the pattern is new and usable: then it is kept.

* `PatternCache.WellKept`, the invariant of a cache, and `WellKept.fetch`;
* `PatternCache.Asked`, what asking for a pattern may do, and `asked_fetch`;
* `PatternTest.judgeFor_keeps`, for the pattern of an expression.
-/

namespace HealthRules

variable {L : PatternLanguage}

namespace PatternCache

/-! ## The invariant -/

/-- There is room for all patterns, none is kept twice, and with each is kept what it compiles to. -/
structure WellKept (c : PatternCache L) : Prop where
  bounded : c.size ≤ capacity
  distinct : (c.entries.map (·.1)).Nodup
  compiled : ∀ entry ∈ c.entries, L.compile entry.1 = .ok entry.2

theorem wellKept_empty : WellKept ({} : PatternCache L) :=
  ⟨Nat.zero_le capacity, .nil, nofun⟩

theorem mem_of_find?_eq_some {c : PatternCache L} {pattern : String} {r : L.Compiled}
    (h : c.find? pattern = some r) : (pattern, r) ∈ c.entries := by
  rcases List.lookup_eq_some_iff.1 h with ⟨before, after, hsplit, -⟩
  simp [hsplit]

theorem not_mem_of_find?_eq_none {c : PatternCache L} {pattern : String}
    (h : c.find? pattern = none) : pattern ∉ c.entries.map (·.1) := by
  intro hmem
  rcases List.mem_map.1 hmem with ⟨entry, hentry, heq⟩
  have hnot := List.lookup_eq_none_iff.1 h entry hentry
  simp [heq] at hnot

theorem WellKept.sound {c : PatternCache L} (hc : c.WellKept) : c.Sound := by
  intro pattern r hfind
  exact hc.compiled (pattern, r) (mem_of_find?_eq_some hfind)

theorem isFull_eq_false_iff {c : PatternCache L} : c.isFull = false ↔ c.size < capacity := by
  simp [isFull]

theorem WellKept.insert {c : PatternCache L} (hc : c.WellKept) {pattern : String} {r : L.Compiled}
    (hnew : c.find? pattern = none) (hr : L.compile pattern = .ok r) :
    (c.insert pattern r).WellKept := by
  cases hfull : c.isFull with
  | true =>
      -- All others are dropped.
      refine ⟨?_, ?_, ?_⟩
      · simp [PatternCache.insert, hfull, size, capacity]
      · simp [PatternCache.insert, hfull]
      · simpa [PatternCache.insert, hfull] using hr
  | false =>
      refine ⟨?_, ?_, ?_⟩
      · have hroom : c.size + 1 ≤ capacity := isFull_eq_false_iff.1 hfull
        simpa [PatternCache.insert, hfull, size] using hroom
      · have hnodup := List.nodup_cons.2 ⟨not_mem_of_find?_eq_none hnew, hc.distinct⟩
        simpa [PatternCache.insert, hfull] using hnodup
      · intro entry hentry
        have hcases : entry = (pattern, r) ∨ entry ∈ c.entries := by
          simpa [PatternCache.insert, hfull] using hentry
        rcases hcases with rfl | hold
        · exact hr
        · exact hc.compiled entry hold

/-- Only a pattern that is new and usable is kept. -/
theorem fetch_cases (c : PatternCache L) (pattern : String) :
    (∃ r, c.find? pattern = some r ∧ (c.fetch pattern).cache = c) ∨
      (∃ e, L.compile pattern = .error e ∧ (c.fetch pattern).cache = c) ∨
      ∃ r, c.find? pattern = none ∧ L.compile pattern = .ok r ∧
        (c.fetch pattern).cache = c.insert pattern r := by
  unfold fetch
  cases hfind : c.find? pattern with
  | some r => exact .inl ⟨r, rfl, rfl⟩
  | none =>
      cases hr : L.compile pattern with
      | error e => exact .inr (.inl ⟨e, rfl, rfl⟩)
      | ok r => exact .inr (.inr ⟨r, rfl, rfl, rfl⟩)

theorem WellKept.fetch {c : PatternCache L} (hc : c.WellKept) (pattern : String) :
    (c.fetch pattern).cache.WellKept := by
  rcases c.fetch_cases pattern with ⟨r, -, hcache⟩ | ⟨e, -, hcache⟩ | ⟨r, hnew, hr, hcache⟩
  · rw [hcache]
    exact hc
  · rw [hcache]
    exact hc
  · rw [hcache]
    exact hc.insert hnew hr

/-! ## Asking -/

/-- What asking for a pattern does to a cache. -/
structure Asked (before : PatternCache L) (pattern : String) (after : PatternCache L) : Prop where
  /-- A pattern that is kept changes nothing. -/
  hit : ∀ r, before.find? pattern = some r → after = before
  /-- Nor does a pattern that is refused. -/
  refused : ∀ e, L.compile pattern = .error e → after = before
  /-- A usable pattern that is not kept is kept afterwards. -/
  missed : ∀ r, before.find? pattern = none → L.compile pattern = .ok r →
    after.find? pattern = some r
  /-- While there is room, nothing is dropped. -/
  roomy : before.size < capacity → ∀ entry ∈ before.entries, entry ∈ after.entries

theorem asked_fetch (c : PatternCache L) (pattern : String) :
    Asked c pattern (c.fetch pattern).cache := by
  rcases c.fetch_cases pattern with ⟨r, hfind, hcache⟩ | ⟨e, he, hcache⟩ | ⟨r, hnew, hr, hcache⟩
  · rw [hcache]
    refine ⟨fun _ _ => rfl, fun _ _ => rfl, ?_, fun _ _ hentry => hentry⟩
    intro _ hnone _
    rw [hfind] at hnone
    cases hnone
  · rw [hcache]
    refine ⟨fun _ _ => rfl, fun _ _ => rfl, ?_, fun _ _ hentry => hentry⟩
    intro _ _ hok
    rw [he] at hok
    cases hok
  · -- The pattern is new and can be compiled: the only case in which something is put in.
    rw [hcache]
    refine ⟨?_, ?_, ?_, ?_⟩
    · intro _ hfind
      rw [hnew] at hfind
      cases hfind
    · intro _ he
      rw [hr] at he
      cases he
    · intro r' _ hr'
      have hsame : r = r' := Except.ok.inj (hr.symm.trans hr')
      simp [find?, PatternCache.insert, hsame]
    · intro hroom entry hentry
      have hnotFull : c.isFull = false := isFull_eq_false_iff.2 hroom
      simp [PatternCache.insert, hnotFull, hentry]

end PatternCache

/-! ## Expressions -/

namespace PatternTest

/-- An expression asks for its pattern, if it has one, and keeps the cache in order. -/
theorem judgeFor_keeps {c : PatternCache L} (hc : c.WellKept) (expression : String) :
    let after := (judgeFor c expression).2.1
    after.WellKept ∧ match parse? expression with
      | none => after = c
      | some t => c.Asked t.pattern after := by
  unfold judgeFor
  cases parse? expression with
  | none => exact ⟨hc, rfl⟩
  | some t => exact ⟨hc.fetch t.pattern, c.asked_fetch t.pattern⟩

end PatternTest

end HealthRules
