import HealthRules.Number.Shortest
import HealthRules.Proofs.Number.Nearest

/-!
# ReadBack — the shortest decimal of a number is rounded to that number

The shortest decimal is searched among the multiples of powers of ten, from above, and the first one in the interval
around the number is taken. There is always one: where the powers of ten are smaller than half of the interval, the
multiple just below the number lies in it. And all that lies in the interval is rounded to the number. Its ends belong
to it where the last digit is even, so that they are rounded towards it; below a power of two digits are half as wide.

* `Interval.contains_around`, membership in the interval as two inequalities;
* `roundQuot_of_contains`: quotients in the interval of a number are rounded to that number;
* `search_eq`, what the search finds, and `isSome_multiple?`, where it finds something at the latest;
* `round_shortest`, for all finite numbers but zero.
-/

namespace HealthRules

open Rounding

theorem Rounding.divNearest_eq {num den m : Nat} (hden : 0 < den)
    (hlow : 2 * m * den + m % 2 ≤ 2 * num + den) (hhigh : 2 * num + den < 2 * (m + 1) * den + (m + 1) % 2) :
    divNearest num den = m := by
  have hge : ¬ divNearest num den < m := mt (divNearest_lt_iff hden m).1 (Nat.not_lt.2 hlow)
  have hlt : divNearest num den < m + 1 := (divNearest_lt_iff hden (m + 1)).2 hhigh
  omega

/-- How many digits rounding drops, by the bounds of the quotient. -/
theorem Rounding.excess_eq {q k : Nat} (hceil : q < twoPow (53 + k)) (hfloor : k = 0 ∨ twoPow (52 + k) ≤ q) :
    excess q = k := by
  unfold excess
  rcases hfloor with rfl | hfloor
  · rcases Nat.eq_zero_or_pos q with rfl | hq
    · rfl
    · have hlog : q.log2 < 53 := (Nat.log2_lt hq.ne').2 hceil
      omega
  · have hq : q ≠ 0 := (Nat.lt_of_lt_of_le (twoPow_pos _) hfloor).ne'
    have hlog : q.log2 < 53 + k := (Nat.log2_lt hq).2 hceil
    have hlog' : 52 + k ≤ q.log2 := (Nat.le_log2 hq).2 hfloor
    omega

/-- A quotient that is rounded to a number of known digits. -/
theorem Rounding.roundQuot_of_near {num den k digits : Nat} (hden : 0 < den)
    (hfloor : k = 0 ∨ twoPow 52 * (den * twoPow k) ≤ num) (hceil : num < twoPow 53 * (den * twoPow k))
    (hlow : 2 * digits * (den * twoPow k) + digits % 2 ≤ 2 * num + den * twoPow k)
    (hhigh : 2 * num + den * twoPow k < 2 * (digits + 1) * (den * twoPow k) + (digits + 1) % 2) :
    roundQuot num den = digits * twoPow k := by
  have hexcess : excess (num / den) = k := by
    apply excess_eq
    · rw [Nat.div_lt_iff_lt_mul hden, twoPow_add, Nat.mul_assoc, Nat.mul_comm (twoPow k)]
      exact hceil
    · refine hfloor.imp_right fun hfloor => ?_
      rw [Nat.le_div_iff_mul_le hden, twoPow_add, Nat.mul_assoc, Nat.mul_comm (twoPow k)]
      exact hfloor
  rw [roundQuot_eq hexcess, divNearest_eq (Nat.mul_pos hden (twoPow_pos k)) hlow hhigh]

/-- A quotient that is so little below a power of two that it is rounded to that power. -/
theorem Rounding.roundQuot_of_near_power {num den k : Nat} (hden : 0 < den)
    (hlow : 2 * (twoPow 53 * (den * twoPow k)) ≤ 2 * num + den * twoPow k)
    (hhigh : num < twoPow 53 * (den * twoPow k)) : roundQuot num den = twoPow 53 * twoPow k := by
  have hdouble : twoPow 53 * (den * twoPow k) = 2 * (twoPow 52 * (den * twoPow k)) := by
    rw [twoPow_succ 52]
    ring
  have htwice : 2 * twoPow 53 * (den * twoPow k) = 2 * (twoPow 53 * (den * twoPow k)) := Nat.mul_assoc _ _ _
  have hnext : 2 * (twoPow 53 + 1) * (den * twoPow k) =
      2 * (twoPow 53 * (den * twoPow k)) + 2 * (den * twoPow k) := by ring
  have heven : twoPow 53 % 2 = 0 := by decide
  have hstep : den * twoPow k ≤ twoPow 52 * (den * twoPow k) := Nat.le_mul_of_pos_left _ (twoPow_pos 52)
  have hpos : 0 < den * twoPow k := Nat.mul_pos hden (twoPow_pos k)
  apply roundQuot_of_near hden
  · exact .inr (by omega)
  · exact hhigh
  · rwa [htwice, heven]
  · rw [hnext]
    omega

namespace Shortest

/-! ## The interval -/

/-- How far the interval reaches below a number, in quarters of a unit. -/
def below (u : Nat) : Nat :=
  if u / twoPow (excess u) = twoPow 52 ∧ excess u ≠ 0 then twoPow (excess u) else 2 * twoPow (excess u)

theorem below_le (u : Nat) : below u ≤ 2 * twoPow (excess u) := by
  unfold below
  split <;> omega

theorem below_mul_le (u den : Nat) : below u * den ≤ 2 * (den * twoPow (excess u)) := by
  calc
    below u * den ≤ 2 * twoPow (excess u) * den := Nat.mul_le_mul_right den (below_le u)
    _ = 2 * (den * twoPow (excess u)) := by rw [Nat.mul_assoc, Nat.mul_comm den]

theorem below_pos (u : Nat) : 0 < below u := by
  have hpos := twoPow_pos (excess u)
  unfold below
  split <;> omega

/-- An end belongs to the interval if the last digit is even. -/
theorem Interval.contains_around {u n d : Nat} (h : (Interval.around u).contains n d = true) :
    (4 * u - below u) * d + u / twoPow (excess u) % 2 ≤ n ∧
      n + u / twoPow (excess u) % 2 ≤ (4 * u + 2 * twoPow (excess u)) * d := by
  unfold contains at h
  rcases Nat.mod_two_eq_zero_or_one (u / twoPow (excess u)) with heven | hodd
  · have hclosed : (Interval.around u).closed = true := by simp [around, heven]
    rw [hclosed, if_pos rfl, Bool.and_eq_true, decide_eq_true_iff, decide_eq_true_iff] at h
    rw [heven]
    exact h
  · have hopen : (Interval.around u).closed = false := by simp [around, hodd]
    rw [hopen, if_neg Bool.false_ne_true, Bool.and_eq_true, decide_eq_true_iff, decide_eq_true_iff] at h
    rw [hodd]
    exact h

theorem Interval.contains_mul {k : Nat} (hk : 0 < k) (i : Interval) (n d : Nat) :
    i.contains (k * n) (k * d) = i.contains n d := by
  simp only [contains, Nat.mul_left_comm _ k, Nat.mul_le_mul_left_iff hk, Nat.mul_lt_mul_left hk]

/-- Membership in the interval around a number, counted in its digits. -/
theorem Interval.contains_digits {u num den digits : Nat} (hu : u = digits * twoPow (excess u))
    (h : (Interval.around u).contains (4 * num) den = true) :
    4 * (digits * (den * twoPow (excess u))) + digits % 2 ≤ 4 * num + below u * den ∧
      4 * num + digits % 2 ≤ 4 * (digits * (den * twoPow (excess u))) + 2 * (den * twoPow (excess u)) := by
  rcases Interval.contains_around h with ⟨hlow, hhigh⟩
  have hquot : u / twoPow (excess u) = digits := Nat.div_eq_of_eq_mul_left (twoPow_pos _) hu
  have hud : u * den = digits * (den * twoPow (excess u)) := by
    conv_lhs => rw [hu]
    ring
  have hend : (4 * u + 2 * twoPow (excess u)) * den = 4 * (u * den) + 2 * (den * twoPow (excess u)) := by ring
  rw [hquot, hend, hud] at hhigh
  rw [hquot, Nat.sub_mul, Nat.mul_assoc, hud] at hlow
  -- Where the interval reaches down to zero, there is nothing to take away.
  exact ⟨by omega, hhigh⟩

/-- A quotient in the interval around a number has a digit less to drop only if that number is a power of two. -/
theorem power_of_contains {u num den digits : Nat} (hleast : twoPow 52 ≤ digits)
    (hlow : 4 * (digits * (den * twoPow (excess u))) ≤ 4 * num + below u * den)
    (hfew : num < twoPow 52 * (den * twoPow (excess u))) : digits = twoPow 52 := by
  by_contra hne
  have hmore : twoPow 52 + 1 ≤ digits := Nat.lt_of_le_of_ne hleast (Ne.symm hne)
  have hmul : (twoPow 52 + 1) * (den * twoPow (excess u)) ≤ digits * (den * twoPow (excess u)) :=
    Nat.mul_le_mul_right _ hmore
  have hbelow := below_mul_le u den
  rw [Nat.succ_mul] at hmul
  omega

/-- A quotient below a power of two, in the interval around it. -/
theorem roundQuot_below_power {u num den k : Nat} (hden : 0 < den) (hexcess : excess u = k + 1)
    (hpower : u = twoPow 52 * twoPow (excess u))
    (hlow : 4 * (twoPow 52 * (den * twoPow (excess u))) ≤ 4 * num + below u * den)
    (hfew : num < twoPow 52 * (den * twoPow (excess u))) : roundQuot num den = u := by
  have hquot : u / twoPow (excess u) = twoPow 52 := Nat.div_eq_of_eq_mul_left (twoPow_pos _) hpower
  have hne : excess u ≠ 0 := by
    rw [hexcess]
    exact Nat.succ_ne_zero k
  have hbelow : below u * den = den * twoPow (excess u) := by
    rw [below, if_pos ⟨hquot, hne⟩, Nat.mul_comm]
  have hdouble : twoPow 53 * (den * twoPow k) = twoPow 52 * (den * twoPow (excess u)) := by
    rw [hexcess, twoPow_succ k, twoPow_succ 52]
    ring
  have hhalf : den * twoPow (excess u) = 2 * (den * twoPow k) := by
    rw [hexcess, twoPow_succ k]
    ring
  have hsame : u = twoPow 53 * twoPow k := by
    rw [hpower, hexcess, twoPow_succ k, twoPow_succ 52]
    ring
  rw [hsame]
  apply roundQuot_of_near_power hden
  · rw [hdouble]
    omega
  · rw [hdouble]
    exact hfew

/-- Every quotient in the interval around a number is rounded to that number. -/
theorem roundQuot_of_contains {u num den : Nat} (hshort : ShortBinary u) (hden : 0 < den)
    (h : (Interval.around u).contains (4 * num) den = true) : roundQuot num den = u := by
  rcases hshort.exists_digits with ⟨digits, hu, hmost, hleast⟩
  rcases Interval.contains_digits hu h with ⟨hlow, hhigh⟩
  have hpos : 0 < den * twoPow (excess u) := Nat.mul_pos hden (twoPow_pos _)
  have hbelow := below_mul_le u den
  have hceil : num < twoPow 53 * (den * twoPow (excess u)) := by
    have hle : (digits + 1) * (den * twoPow (excess u)) ≤ twoPow 53 * (den * twoPow (excess u)) :=
      Nat.mul_le_mul_right _ hmost
    rw [Nat.succ_mul] at hle
    omega
  by_cases hfloor : excess u = 0 ∨ twoPow 52 * (den * twoPow (excess u)) ≤ num
  · -- The quotient has as many digits to drop as the number.
    have htwice : 2 * digits * (den * twoPow (excess u)) = 2 * (digits * (den * twoPow (excess u))) :=
      Nat.mul_assoc _ _ _
    have hnext : 2 * (digits + 1) * (den * twoPow (excess u)) =
        2 * (digits * (den * twoPow (excess u))) + 2 * (den * twoPow (excess u)) := by ring
    calc
      roundQuot num den = digits * twoPow (excess u) :=
        roundQuot_of_near hden hfloor hceil (by omega) (by omega)
      _ = u := hu.symm
  · -- The number is a power of two, and the quotient is so little below it that it has a digit less to drop.
    rw [not_or, Nat.not_le] at hfloor
    rcases Nat.exists_eq_succ_of_ne_zero hfloor.1 with ⟨k, hk⟩
    have hlow' := (Nat.le_add_right _ _).trans hlow
    have hpower : digits = twoPow 52 := power_of_contains (hleast.resolve_left hfloor.1) hlow' hfloor.2
    rw [hpower] at hu hlow'
    exact roundQuot_below_power hden hk hu hlow' hfloor.2

/-! ## The search -/

theorem contains_of_multiple? {tie : Tie} {i : Interval} {e : Int} {c : Nat} (h : multiple? tie i e = some c) :
    i.contains (c * (power e).1) (power e).2 = true := by
  unfold multiple? at h
  simp only at h
  -- Whichever of the two multiples is taken, it was found to be in the interval.
  split at h
  · cases h
  · next hlower _ => cases h; exact hlower
  · next _ hupper => cases h; exact hupper
  · next hlower hupper =>
      split at h
      · cases h; exact hlower
      · split at h
        · cases h; exact hupper
        · split at h
          · cases h; exact hupper
          · cases h
            split
            · exact hlower
            · exact hupper

/-- The search ends where it comes to a power of ten with a multiple in the interval. -/
theorem search_eq {tie : Tie} {i : Interval} {fuel : Nat} {e : Int}
    (h : ∃ k < fuel, (multiple? tie i (e - k)).isSome = true) :
    multiple? tie i (search tie i fuel e).exponent = some (search tie i fuel e).coefficient := by
  induction fuel generalizing e with
  | zero =>
      rcases h with ⟨k, hk, -⟩
      exact absurd hk (Nat.not_lt_zero k)
  | succ fuel ih =>
      unfold search
      cases hmultiple : multiple? tie i e with
      | some c => exact hmultiple
      | none =>
          -- From the next power on there is one step less to go.
          apply ih
          rcases h with ⟨k, hk, hsome⟩
          cases k with
          | zero => simp [hmultiple] at hsome
          | succ k =>
              refine ⟨k, Nat.lt_of_succ_lt_succ hk, ?_⟩
              rwa [Int.sub_sub, Int.add_comm, ← Int.natCast_succ]

/-- What lies strictly between the ends belongs to the interval in any case. -/
theorem contains_of_lt {i : Interval} {n d : Nat} (hlow : i.low * d < n) (hhigh : n < i.high * d) :
    i.contains n d = true := by
  unfold Interval.contains
  split
  · simp [hlow.le, hhigh.le]
  · simp [hlow, hhigh]

theorem isSome_of_lower {tie : Tie} {i : Interval} {e : Int}
    (h : i.contains (i.value * (power e).2 / (power e).1 * (power e).1) (power e).2 = true) :
    (multiple? tie i e).isSome = true := by
  unfold multiple?
  simp only [h]
  split
  · next hfalse _ => cases hfalse
  · rfl
  · rfl
  · split
    · rfl
    · split
      · rfl
      · cases tie <;> rfl

/-- If the power of ten is at most a quarter of a unit, the multiple just below the number lies in the interval. -/
theorem isSome_multiple? (tie : Tie) {i : Interval} {e : Int} (hpos : 0 < (power e).1)
    (hfine : (power e).1 ≤ (power e).2) (hlow : i.low < i.value) (hhigh : i.value < i.high) :
    (multiple? tie i e).isSome = true := by
  apply isSome_of_lower
  generalize (power e).1 = num at *
  generalize (power e).2 = den at *
  have hbelow : i.value * den / num * num ≤ i.value * den := Nat.div_mul_le_self _ _
  have hnext : i.value * den < i.value * den / num * num + num := Nat.lt_div_mul_add hpos
  -- The next multiple is above the number, so that this one is less than a quarter of a unit below it.
  apply contains_of_lt
  · have hstep : (i.low + 1) * den ≤ i.value * den := Nat.mul_le_mul_right den hlow
    rw [Nat.succ_mul] at hstep
    omega
  · exact hbelow.trans_lt (Nat.mul_lt_mul_of_pos_right hhigh (hpos.trans_le hfine))

/-! ## The last power of ten -/

theorem one_pos : 0 < 4 * unitsPerOne := by
  have hunits : 0 < unitsPerOne := twoPow_pos _
  omega

theorem power_pos (e : Int) : 0 < (power e).1 ∧ 0 < (power e).2 := by
  cases e with
  | ofNat n => exact ⟨Nat.mul_pos (tenPow_pos n) one_pos, Nat.one_pos⟩
  | negSucc n => exact ⟨one_pos, tenPow_pos (n + 1)⟩

/-- A multiple of a power of ten, as a quotient. -/
theorem value_eq_power (c : Nat) (e : Int) :
    Decimal.value ⟨c, e⟩ = (c * (power e).1 : Nat) / (4 * unitsPerOne * (power e).2 : Nat) := by
  have hunits : ((4 * unitsPerOne : Nat) : ℚ) ≠ 0 := Nat.cast_ne_zero.2 one_pos.ne'
  cases e with
  | ofNat n =>
      simp only [power]
      rw [Decimal.value_ofNat, ← Nat.mul_assoc, Nat.mul_one, Nat.cast_mul _ (4 * unitsPerOne),
        mul_div_cancel_right₀ _ hunits]
  | negSucc n =>
      simp only [power]
      rw [Decimal.value_negSucc, Nat.mul_comm c, Nat.cast_mul (4 * unitsPerOne), Nat.cast_mul (4 * unitsPerOne),
        mul_div_mul_left _ _ hunits]

/-- The power `10 ^ -325` is finer than a quarter of the least unit. -/
theorem power_fine {n : Nat} (h : 324 ≤ n) : (power (.negSucc n)).1 ≤ (power (.negSucc n)).2 := by
  have hbinary : 2 + 1074 ≤ 83 * 13 := by decide
  have hdecimal : 25 * 13 ≤ n + 1 := by omega
  have hstep : twoPow 83 ≤ tenPow 25 := by decide
  have hquarter : 4 * unitsPerOne = twoPow (2 + 1074) := by rw [twoPow_add, unitsPerOne, show twoPow 2 = 4 from rfl]
  simp only [power]
  calc
    4 * unitsPerOne = twoPow (2 + 1074) := hquarter
    _ ≤ twoPow (83 * 13) := twoPow_le_twoPow hbinary
    _ = twoPow 83 ^ 13 := Decimal.twoPow_mul 83 13
    _ ≤ tenPow 25 ^ 13 := Nat.pow_le_pow_left hstep 13
    _ = tenPow (25 * 13) := (Decimal.tenPow_mul 25 13).symm
    _ ≤ tenPow (n + 1) := Decimal.tenPow_le_tenPow hdecimal

theorem log2_lt_of_lt {n k : Nat} (hk : 0 < k) (h : n < twoPow k) : n.log2 < k := by
  rcases Nat.eq_zero_or_pos n with rfl | hpos
  · rwa [Nat.log2_zero]
  · exact (Nat.log2_lt hpos.ne').2 h

/-- The search comes to the power `10 ^ -325`. -/
theorem exists_steps {u : Nat} (hlimit : u < unitsLimit) :
    ∃ k < 800, startExponent u - (k : Nat) = Int.negSucc 324 := by
  rw [unitsLimit] at hlimit
  have hlog : u.log2 < 2098 := log2_lt_of_lt (by decide) hlimit
  refine ⟨(startExponent u + 325).toNat, ?_, ?_⟩ <;> unfold startExponent <;> omega

/-! ## Reading back -/

/-- The shortest decimal of a number lies in its interval. -/
theorem contains_shortest (tie : Tie) {u : Nat} (hpos : 0 < u) (hlimit : u < unitsLimit) :
    (Interval.around u).contains
      ((shortest tie u).coefficient * (power (shortest tie u).exponent).1) (power (shortest tie u).exponent).2 =
      true := by
  have hfound : multiple? tie (.around u) (shortest tie u).exponent = some (shortest tie u).coefficient := by
    apply search_eq
    rcases exists_steps hlimit with ⟨k, hk, hstep⟩
    refine ⟨k, hk, ?_⟩
    rw [hstep]
    apply isSome_multiple? tie (power_pos _).1 (power_fine (Nat.le_refl 324))
    · exact Nat.sub_lt (Nat.mul_pos (by decide) hpos) (below_pos u)
    · exact Nat.lt_add_of_pos_right (Nat.mul_pos (by decide) (twoPow_pos _))
  exact contains_of_multiple? hfound

/-- The shortest decimal of a finite number is rounded to that number. -/
theorem round_shortest (tie : Tie) (negative : Bool) (m : Magnitude) (hpos : 0 < m.units) :
    (shortest tie m.units).round negative = .finite negative m := by
  have hcontains := contains_shortest tie hpos m.lt_limit
  generalize shortest tie m.units = d at hcontains ⊢
  have hden : 0 < 4 * unitsPerOne * (power d.exponent).2 := Nat.mul_pos one_pos (power_pos _).2
  rw [d.round_eq negative hden (value_eq_power _ _)]
  -- In quarters of a unit the quotient is the multiple that was found.
  have hquarters : 4 * (d.coefficient * (power d.exponent).1 * unitsPerOne) =
      4 * unitsPerOne * (d.coefficient * (power d.exponent).1) := by
    rw [Nat.mul_comm _ unitsPerOne, Nat.mul_assoc]
  rw [← Interval.contains_mul one_pos, ← hquarters] at hcontains
  exact Binary64.ofUnits_eq_finite negative m _ (roundQuot_of_contains m.short hden hcontains)

end Shortest

end HealthRules
