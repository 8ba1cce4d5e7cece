import HealthRules.History.Calendar
import Mathlib.Algebra.BigOperators.Intervals
import Mathlib.Tactic.IntervalCases

/-!
# Gregorian — the date of a day

The rules of the calendar count days from one date to the next: months have their lengths, February one more in leap
years. The date of a day is found without counting, by dividing through the lengths of eras and of years that begin
in March. This module says that both agree on every day.

* `IsLeap`, `monthLength`, `Date.Valid`, `Date.next` and `Date.ordinal`, the rules of the calendar;
* `Placed`, a day by era, year and day of a year that begins in March, with `Placed.yearOfEra_eq`: dividing finds the
  year again;
* `Date.Valid.placed` and `Date.Valid.found`: dividing finds every date by its number;
* `isDay_ofDays` and `ofDays_succ`, by counting on from the first of January 1970.
-/

namespace HealthRules.Calendar

/-! ## The rules of the calendar -/

/-- Every fourth year is a leap year, but of the years that end a century only every fourth. -/
def IsLeap (year : Nat) : Prop := year % 4 = 0 ∧ (year % 100 ≠ 0 ∨ year % 400 = 0)

instance (year : Nat) : Decidable (IsLeap year) :=
  inferInstanceAs (Decidable (year % 4 = 0 ∧ (year % 100 ≠ 0 ∨ year % 400 = 0)))

def yearLength (year : Nat) : Nat := if IsLeap year then 366 else 365

/-- The days of a month from 1 to 12. -/
def monthLength (year : Nat) : Nat → Nat
  | 2 => if IsLeap year then 29 else 28
  | 4 | 6 | 9 | 11 => 30
  | _ => 31

/-- The days of all years from the year 0 on that are before `year`. -/
def daysBeforeYear (year : Nat) : Nat := ∑ y ∈ Finset.range year, yearLength y

/-- The days of a year that are before `month`. -/
def daysBeforeMonth (year month : Nat) : Nat := ∑ m ∈ Finset.Ico 1 month, monthLength year m

namespace Date

/-- The date is in the calendar. -/
structure Valid (d : Date) : Prop where
  month_pos : 1 ≤ d.month
  month_le : d.month ≤ 12
  day_pos : 1 ≤ d.day
  day_le : d.day ≤ monthLength d.year d.month

/-- The date of the day after. -/
def next (d : Date) : Date :=
  if d.day < monthLength d.year d.month then { d with day := d.day + 1 }
  else if d.month < 12 then ⟨d.year, d.month + 1, 1⟩
  else ⟨d.year + 1, 1, 1⟩

/-- The number of a day, where the first of January of the year 0 has the number 1. -/
def ordinal (d : Date) : Nat := daysBeforeYear d.year + daysBeforeMonth d.year d.month + d.day

end Date

theorem monthLength_pos (year month : Nat) : 1 ≤ monthLength year month := by
  unfold monthLength
  split
  · split <;> decide
  all_goals decide +revert

theorem monthLength_le (year month : Nat) : monthLength year month ≤ 31 := by
  unfold monthLength
  split
  · split <;> decide
  all_goals decide +revert

theorem daysBeforeMonth_succ (year : Nat) {month : Nat} (h : 1 ≤ month) :
    daysBeforeMonth year (month + 1) = daysBeforeMonth year month + monthLength year month :=
  Finset.sum_Ico_succ_top h _

/-- The days before a month, where those from March on are counted by the fifth part of 153 days. -/
theorem daysBeforeMonth_eq (year : Nat) {month : Nat} (hpos : 1 ≤ month) (hle : month ≤ 12) :
    daysBeforeMonth year month =
      if month ≤ 2 then 31 * (month - 1)
      else (153 * (month - 3) + 2) / 5 + 59 + (if IsLeap year then 1 else 0) := by
  interval_cases month
  all_goals simp [daysBeforeMonth, Finset.sum_Ico_succ_top, monthLength]
  all_goals split <;> rfl

theorem daysBeforeYear_succ (year : Nat) :
    daysBeforeYear (year + 1) = daysBeforeYear year + yearLength year :=
  Finset.sum_range_succ _ _

theorem yearLength_eq (year : Nat) :
    yearLength year + (if year % 100 = 0 then 1 else 0) =
      365 + (if year % 4 = 0 then 1 else 0) + (if year % 400 = 0 then 1 else 0) := by
  by_cases h400 : year % 400 = 0
  · have h100 : year % 100 = 0 := by omega
    have h4 : year % 4 = 0 := by omega
    simp [yearLength, IsLeap, h4, h100, h400]
  · by_cases h100 : year % 100 = 0
    · have h4 : year % 4 = 0 := by omega
      simp [yearLength, IsLeap, h4, h100, h400]
    · by_cases h4 : year % 4 = 0
      · simp [yearLength, IsLeap, h4, h100, h400]
      · simp [yearLength, IsLeap, h4, h100, h400]

/-- Every fourth year has added a day, but of the last years of a century only every fourth. -/
theorem daysBeforeYear_succ_eq (year : Nat) :
    daysBeforeYear (year + 1) + year / 100 = 365 * year + 366 + year / 4 + year / 400 := by
  induction year with
  | zero => rfl
  | succ year ih =>
      -- Each quotient goes up by one where its divisor divides the year.
      have hfours : (year + 1) / 4 = year / 4 + if (year + 1) % 4 = 0 then 1 else 0 := by
        split <;> omega
      have hcenturies : (year + 1) / 100 = year / 100 + if (year + 1) % 100 = 0 then 1 else 0 := by
        split <;> omega
      have heras : (year + 1) / 400 = year / 400 + if (year + 1) % 400 = 0 then 1 else 0 := by
        split <;> omega
      have hlength := yearLength_eq (year + 1)
      rw [daysBeforeYear_succ, hfours, hcenturies, heras]
      omega

/-- The months of a year make up the year. -/
theorem daysBeforeMonth_twelve (year : Nat) :
    daysBeforeMonth year 12 + monthLength year 12 = yearLength year := by
  rw [daysBeforeMonth_eq year (by decide) (by decide), yearLength]
  by_cases hleap : IsLeap year
  · simp [hleap, monthLength]
  · simp [hleap, monthLength]

namespace Date

variable {d : Date}

theorem Valid.next (h : d.Valid) : d.next.Valid := by
  unfold Date.next
  split
  · next hday => exact ⟨h.month_pos, h.month_le, Nat.le_add_left 1 _, hday⟩
  · split
    · next hmonth => exact ⟨Nat.le_add_left 1 _, hmonth, Nat.le_refl 1, monthLength_pos _ _⟩
    · exact ⟨Nat.le_refl 1, Nat.le_add_left 1 11, Nat.le_refl 1, monthLength_pos _ _⟩

theorem ordinal_mk (year month day : Nat) :
    ordinal ⟨year, month, day⟩ = daysBeforeYear year + daysBeforeMonth year month + day := rfl

/-- The day after has the next number: within a month, at its end and at the end of a year. -/
theorem ordinal_next (h : d.Valid) : d.next.ordinal = d.ordinal + 1 := by
  rcases d with ⟨year, month, day⟩
  have hpos : 1 ≤ month := h.month_pos
  have hle : month ≤ 12 := h.month_le
  have hday : day ≤ monthLength year month := h.day_le
  unfold Date.next
  by_cases hinner : day < monthLength year month
  · rw [if_pos hinner]
    rfl
  · have hlast : day = monthLength year month := by omega
    rw [if_neg hinner]
    by_cases hmonth : month < 12
    · rw [if_pos hmonth]
      simp only [ordinal_mk, daysBeforeMonth_succ year hpos, hlast]
      omega
    · have htwelve : month = 12 := by omega
      subst htwelve
      have hmonths := daysBeforeMonth_twelve year
      have hfirst : daysBeforeMonth (year + 1) 1 = 0 := rfl
      rw [if_neg hmonth]
      simp only [ordinal_mk, daysBeforeYear_succ, hfirst, hlast]
      omega

end Date

/-! ## Years that begin in March -/

/-- The day `z`, counted from the first of March of the year 0, is the day `dayOfYear` of the year `yearOfEra` of an
era of 400 years. Only a year with a leap day at its end has a day 365. -/
structure Placed (z era yearOfEra dayOfYear : Nat) : Prop where
  days_eq : z = daysPerEra * era + (365 * yearOfEra + yearOfEra / 4 - yearOfEra / 100 + dayOfYear)
  year_lt : yearOfEra < 400
  day_le : dayOfYear ≤ 365
  leap_day : dayOfYear = 365 → yearOfEra % 4 = 3 ∧ (yearOfEra % 100 ≠ 99 ∨ yearOfEra = 399)

/-- The year of an era by division: each correction takes back what the one before has taken too much. -/
theorem yearOfEra_of_parts {century four one dayOfYear n : Nat} (hcentury : century < 4) (hfour : four < 25)
    (hone : one < 4) (hday : dayOfYear < 365 ∨ dayOfYear = 365 ∧ one = 3 ∧ (four < 24 ∨ century = 3))
    (hn : n = 36524 * century + 1461 * four + 365 * one + dayOfYear) :
    (n - n / 1460 + n / 36524 - n / 146096) / 365 = 100 * century + 4 * four + one := by
  by_cases hlast : n = 146096
  · -- The leap day that ends the era.
    omega
  · have hcenturies : n / 36524 = century := by omega
    have heras : n / 146096 = 0 := by omega
    by_cases hearly : 24 * century + four + 365 * one + dayOfYear < 1460
    · have hfours : n / 1460 = 25 * century + four := by omega
      omega
    · have hfours : n / 1460 = 25 * century + four + 1 := by omega
      omega

/-- The days of the years before `year`, of whole eras and of the rest. -/
theorem days_of_eras (year : Nat) :
    daysPerEra * (year / 400) + (365 * (year % 400) + year % 400 / 4 - year % 400 / 100) + year / 100 =
      365 * year + year / 4 + year / 400 := by
  unfold daysPerEra
  omega

namespace Placed

variable {z era yearOfEra dayOfYear : Nat}

theorem dayOfEra_lt (h : Placed z era yearOfEra dayOfYear) :
    365 * yearOfEra + yearOfEra / 4 - yearOfEra / 100 + dayOfYear < daysPerEra := by
  have hyear := h.year_lt
  have hday := h.day_le
  have hleap := h.leap_day
  unfold daysPerEra
  omega

theorem era_eq (h : Placed z era yearOfEra dayOfYear) : z / daysPerEra = era := by
  have hlt := h.dayOfEra_lt
  have hz := h.days_eq
  unfold daysPerEra at *
  omega

/-- Dividing finds the year again. -/
theorem yearOfEra_eq (h : Placed z era yearOfEra dayOfYear) {n : Nat}
    (hn : n = 365 * yearOfEra + yearOfEra / 4 - yearOfEra / 100 + dayOfYear) :
    (n - n / 1460 + n / 36524 - n / 146096) / 365 = yearOfEra := by
  have hyear := h.year_lt
  have hday := h.day_le
  have hleap := h.leap_day
  have hfour : yearOfEra % 100 / 4 < 25 := by omega
  have hend : dayOfYear < 365 ∨ dayOfYear = 365 ∧ yearOfEra % 4 = 3 ∧
      (yearOfEra % 100 / 4 < 24 ∨ yearOfEra / 100 = 3) := by omega
  have hparts : n = 36524 * (yearOfEra / 100) + 1461 * (yearOfEra % 100 / 4) + 365 * (yearOfEra % 4)
      + dayOfYear := by omega
  rw [yearOfEra_of_parts (Nat.div_lt_of_lt_mul hyear) hfour (Nat.mod_lt _ (by decide)) hend hparts]
  omega

end Placed

/-! ## Dates in years that begin in March -/

namespace Date

/-- January and February are the last months of the year before. -/
def marchYear (d : Date) : Nat := if d.month ≤ 2 then d.year - 1 else d.year

/-- Months counted from March, which is 0. -/
def marchMonth (d : Date) : Nat := if d.month ≤ 2 then d.month + 9 else d.month - 3

/-- Days counted from the first of March, which is 0. -/
def marchDay (d : Date) : Nat := (153 * d.marchMonth + 2) / 5 + (d.day - 1)

variable {d : Date}

/-- February ends with the day 28, or with the day 29 of a leap year. -/
theorem Valid.february (h : d.Valid) (hmonth : d.month = 2) : d.day ≤ 28 ∨ d.day = 29 ∧ IsLeap d.year := by
  have hlast := h.day_le
  rw [hmonth, monthLength] at hlast
  by_cases hleap : IsLeap d.year
  · rw [if_pos hleap] at hlast
    rcases Nat.lt_or_eq_of_le hlast with hlt | heq
    · exact .inl (Nat.le_of_lt_succ hlt)
    · exact .inr ⟨heq, hleap⟩
  · rw [if_neg hleap] at hlast
    exact .inl hlast

/-- A month is not longer than the fifth part of 153 days leaves room for. -/
theorem Valid.marchDay_lt (h : d.Valid) : d.marchDay < (153 * (d.marchMonth + 1) + 2) / 5 := by
  have hfebruary := h.february
  rcases d with ⟨year, month, day⟩
  have hpos : 1 ≤ month := h.month_pos
  have hle : month ≤ 12 := h.month_le
  have hlast : day ≤ monthLength year month := h.day_le
  interval_cases month
  case «2» =>
    have hday : day ≤ 29 := by
      rcases hfebruary rfl with hday | ⟨hday, -⟩
      · exact hday.trans (by decide)
      · exact hday.le
    simp only [marchDay, marchMonth, Nat.le_refl, if_true]
    omega
  all_goals
    simp [monthLength, marchDay, marchMonth] at hlast ⊢
    omega

/-- The place of a date among the years that begin in March. The first of March of the year 0 is the day 61. -/
theorem Valid.placed (h : d.Valid) (hyear : 1 ≤ d.year) {z : Nat} (hz : z + 61 = d.ordinal) :
    Placed z (d.marchYear / 400) (d.marchYear % 400) d.marchDay := by
  have hlt := h.marchDay_lt
  have hfebruary := h.february
  rcases d with ⟨year, month, day⟩
  simp only at hyear hfebruary
  have hpos : 1 ≤ month := h.month_pos
  have hle : month ≤ 12 := h.month_le
  have hday : 1 ≤ day := h.day_pos
  rw [ordinal_mk, daysBeforeMonth_eq year hpos hle] at hz
  by_cases hwinter : month ≤ 2
  · -- The year begins in the March before, and its last day is the leap day of this year.
    obtain ⟨march, rfl⟩ : ∃ march, year = march + 1 := ⟨year - 1, by omega⟩
    have hyears := daysBeforeYear_succ_eq march
    have heras := days_of_eras march
    simp only [IsLeap] at hfebruary
    simp only [marchDay, marchMonth, marchYear, hwinter, if_true, Nat.add_sub_cancel] at hlt hz ⊢
    refine ⟨by omega, Nat.mod_lt _ (by decide), by omega, ?_⟩
    intro hend
    omega
  · -- The year begins in March itself, behind the leap day if there is one.
    have hyears := daysBeforeYear_succ_eq year
    have heras := days_of_eras year
    have hlength : yearLength year = 365 + if IsLeap year then 1 else 0 := by
      unfold yearLength
      split <;> rfl
    rw [daysBeforeYear_succ] at hyears
    simp only [marchDay, marchMonth, marchYear, hwinter, if_false] at hlt hz ⊢
    refine ⟨by omega, Nat.mod_lt _ (by decide), by omega, ?_⟩
    intro hend
    omega

/-- Dividing finds the month of a day, both counted from March. -/
theorem Valid.marchMonth_eq (h : d.Valid) : (5 * d.marchDay + 2) / 153 = d.marchMonth := by
  have hlt := h.marchDay_lt
  have hfirst : (153 * d.marchMonth + 2) / 5 ≤ d.marchDay := Nat.le_add_right _ _
  omega

/-- The calendar's month, from the month that is counted from March. -/
theorem Valid.month_of_march (h : d.Valid) :
    (if d.marchMonth < 10 then d.marchMonth + 3 else d.marchMonth - 9) = d.month := by
  have hpos := h.month_pos
  have hle := h.month_le
  unfold marchMonth
  by_cases hwinter : d.month ≤ 2
  · rw [if_pos hwinter, if_neg (by omega)]
    omega
  · rw [if_neg hwinter, if_pos (by omega)]
    omega

theorem year_of_march (hyear : 1 ≤ d.year) :
    (if d.month ≤ 2 then d.marchYear + 1 else d.marchYear) = d.year := by
  unfold marchYear
  by_cases hwinter : d.month ≤ 2
  · rw [if_pos hwinter, if_pos hwinter]
    omega
  · rw [if_neg hwinter, if_neg hwinter]

/-- What the divisions that lead to the date of a day find, one after another. -/
structure Found (days yearOfEra : Nat) (d : Date) : Prop where
  era_eq : (days + epochOffset) / daysPerEra = d.marchYear / 400
  rest_eq : days + epochOffset - d.marchYear / 400 * daysPerEra =
    365 * yearOfEra + yearOfEra / 4 - yearOfEra / 100 + d.marchDay
  yearOfEra_eq : ∀ n, n = 365 * yearOfEra + yearOfEra / 4 - yearOfEra / 100 + d.marchDay →
    (n - n / 1460 + n / 36524 - n / 146096) / 365 = yearOfEra
  year_eq : yearOfEra + d.marchYear / 400 * 400 = d.marchYear
  month_eq : (5 * d.marchDay + 2) / 153 = d.marchMonth
  day_eq : d.marchDay - (153 * d.marchMonth + 2) / 5 + 1 = d.day

theorem Valid.found (h : d.Valid) (hyear : 1 ≤ d.year) {days : Nat}
    (hdays : days + epochOffset + 61 = d.ordinal) : Found days (d.marchYear % 400) d := by
  have hplaced := h.placed hyear hdays
  refine ⟨hplaced.era_eq, ?_, ?_, Nat.mod_add_div' _ _, h.marchMonth_eq, ?_⟩
  · rw [Nat.mul_comm, hplaced.days_eq, Nat.add_sub_cancel_left]
  · intro n hn
    exact hplaced.yearOfEra_eq hn
  · rw [marchDay, Nat.add_sub_cancel_left, Nat.sub_add_cancel h.day_pos]

/-- Dividing finds a date by its number. -/
theorem Valid.ofDays_eq (h : d.Valid) (hyear : 1 ≤ d.year) {days : Nat}
    (hdays : days + epochOffset + 61 = d.ordinal) : ofDays days = d := by
  have hfound := h.found hyear hdays
  simp only [ofDays, hfound.era_eq, hfound.rest_eq, hfound.yearOfEra_eq _ rfl,
    Nat.add_sub_cancel_left, hfound.month_eq, hfound.day_eq, hfound.year_eq, h.month_of_march,
    year_of_march hyear]

end Date

/-! ## Counting on -/

/-- The first of January 1970. -/
def epoch : Date := ⟨1970, 1, 1⟩

theorem ordinal_epoch : epoch.ordinal = epochOffset + 61 := by
  have hyears : daysBeforeYear 1970 + 1969 / 100 = 365 * 1969 + 366 + 1969 / 4 + 1969 / 400 :=
    daysBeforeYear_succ_eq 1969
  have hmonths : daysBeforeMonth 1970 1 = 0 := rfl
  rw [epoch, Date.ordinal_mk, hmonths, epochOffset]
  omega

/-- No day of the year 0 is as late as the epoch. -/
theorem Date.Valid.year_pos {d : Date} (h : d.Valid) (hlate : epoch.ordinal ≤ d.ordinal) :
    1 ≤ d.year := by
  by_contra hnot
  have hzero : d.year = 0 := by omega
  have hyears : daysBeforeYear 0 = 0 := rfl
  have hmonths := daysBeforeMonth_eq 0 h.month_pos h.month_le
  have hday : d.day ≤ 31 := h.day_le.trans (monthLength_le _ _)
  have hle := h.month_le
  rw [ordinal_epoch, epochOffset, ordinal, hzero, hyears, hmonths] at hlate
  split_ifs at hlate <;> omega

/-- The date `d` is that of a day, counted from the epoch. -/
structure IsDay (days : Nat) (d : Date) : Prop where
  valid : d.Valid
  ordinal_eq : d.ordinal = epoch.ordinal + days

namespace IsDay

variable {days : Nat} {d : Date}

/-- The date after has the next number. -/
theorem next (h : IsDay days d) : IsDay (days + 1) d.next where
  valid := h.valid.next
  ordinal_eq := by rw [Date.ordinal_next h.valid, h.ordinal_eq, Nat.add_assoc]

theorem year_pos (h : IsDay days d) : 1 ≤ d.year := h.valid.year_pos (Nat.le.intro h.ordinal_eq.symm)

theorem days_eq (h : IsDay days d) : days + epochOffset + 61 = d.ordinal := by
  rw [h.ordinal_eq, ordinal_epoch]
  omega

theorem ofDays_eq (h : IsDay days d) : Date.ofDays days = d := h.valid.ofDays_eq h.year_pos h.days_eq

end IsDay

/-- The date of a day is in the calendar and has the number of the day: by counting on from the epoch. -/
theorem isDay_ofDays (days : Nat) : IsDay days (Date.ofDays days) := by
  induction days with
  | zero =>
      have hepoch : Date.ofDays 0 = epoch := by decide
      rw [hepoch]
      exact ⟨⟨by decide, by decide, by decide, by decide⟩, (Nat.add_zero _).symm⟩
  | succ days ih =>
      rw [ih.next.ofDays_eq]
      exact ih.next

/-- Day after day, the dates follow each other as the calendar has them. -/
theorem ofDays_succ (days : Nat) : Date.ofDays (days + 1) = (Date.ofDays days).next :=
  (isDay_ofDays days).next.ofDays_eq

end HealthRules.Calendar
