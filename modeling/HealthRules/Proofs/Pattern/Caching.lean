import HealthRules.PatternTest

/-!
# Caching — kept patterns are compiled patterns

A cache may answer for compiling because it holds nothing but what compiling gives. Asking for patterns
keeps it so, whatever is asked for and whatever is dropped.

* `PatternCache.Sound`;
* `PatternCache.fetch_compiled` and `PatternCache.Sound.fetch`: asking gives the compiled pattern, and the
  cache stays sound;
* `PatternTest.judgeFor_of_sound`, a decision made by way of a cache.
-/

namespace HealthRules

variable {L : PatternLanguage}

namespace PatternCache

/-- Every pattern that is found compiles to what is found. -/
def Sound (c : PatternCache L) : Prop :=
  ∀ pattern r, c.find? pattern = some r → L.compile pattern = .ok r

theorem sound_empty : Sound ({} : PatternCache L) := by
  intro pattern r hfind
  cases hfind

theorem Sound.insert {c : PatternCache L} (hc : c.Sound) {pattern : String} {r : L.Compiled}
    (hr : L.compile pattern = .ok r) : (c.insert pattern r).Sound := by
  intro pattern' r' hfind
  have hkept : Sound (L := L) ⟨if c.isFull then [] else c.entries⟩ := by
    by_cases hfull : c.isFull = true
    · simpa [hfull] using sound_empty
    · simpa [hfull] using hc
  by_cases heq : pattern' = pattern
  · subst heq
    have hr' : r = r' := by simpa [find?, PatternCache.insert] using hfind
    rw [hr, hr']
  · have hbeq : (pattern' == pattern) = false := by simpa using heq
    apply hkept pattern' r'
    simpa [find?, PatternCache.insert, List.lookup_cons, hbeq] using hfind

/-- Asking a sound cache is compiling. -/
theorem fetch_compiled {c : PatternCache L} (hc : c.Sound) (pattern : String) :
    (c.fetch pattern).compiled = L.compile pattern := by
  unfold fetch
  cases hfind : c.find? pattern with
  | some r => exact (hc pattern r hfind).symm
  | none => cases hr : L.compile pattern <;> rfl

theorem Sound.fetch {c : PatternCache L} (hc : c.Sound) (pattern : String) :
    (c.fetch pattern).cache.Sound := by
  unfold PatternCache.fetch
  cases hfind : c.find? pattern with
  | some r => exact hc
  | none =>
      cases hr : L.compile pattern with
      | error e => exact hc
      | ok r => exact hc.insert hr

end PatternCache

namespace PatternTest

/-- A sound cache does not show in a decision. -/
theorem judgeFor_of_sound {c : PatternCache L} (hc : c.Sound) (expression : String) :
    (judgeFor c expression).1 = (judgeFor ({} : PatternCache L) expression).1 := by
  unfold judgeFor
  cases parse? expression with
  | none => rfl
  | some t =>
      have hfetch : (c.fetch t.pattern).compiled =
          (PatternCache.fetch ({} : PatternCache L) t.pattern).compiled := by
        rw [PatternCache.fetch_compiled hc, PatternCache.fetch_compiled PatternCache.sound_empty]
      exact congrArg (t.judgeBy L) hfetch

theorem sound_judgeFor {c : PatternCache L} (hc : c.Sound) (expression : String) :
    (judgeFor c expression).2.1.Sound := by
  unfold judgeFor
  cases parse? expression with
  | none => exact hc
  | some t => exact hc.fetch t.pattern

end PatternTest

end HealthRules
