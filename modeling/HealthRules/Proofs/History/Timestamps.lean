import HealthRules.Proofs.History.Gregorian

/-!
# Timestamps — moments of a clock of 64 bits

A clock counts seconds in a word of 64 bits, and the moment of a count is computed in such words as well: a sum or a
product that needs more bits would be lost, and a difference that goes below zero. None is. What is printed is a
moment of the calendar, and counting its days, hours, minutes and seconds leads back to the count.

* `Word.add?`, `Word.mul?` and `Word.sub?`, arithmetic that stops where a word does not hold the result;
* `Date.ofDays?` and `Moment.ofSeconds?`, the computation in such words, with `IsDay.ofDays?_eq`: it does not stop;
* `Moment.Valid` and `Moment.sinceEpoch`, what a moment is and which second it is;
* `timestamp_exact`, for every count of a word.
-/

namespace HealthRules.Calendar

/-! ## Arithmetic in words -/

namespace Word

/-- The sum, if a word of 64 bits holds it. -/
def add? (m n : Nat) : Option Nat := if m + n < 2 ^ 64 then some (m + n) else none

/-- The product, if a word of 64 bits holds it. -/
def mul? (m n : Nat) : Option Nat := if m * n < 2 ^ 64 then some (m * n) else none

/-- The difference, if it is not below zero. -/
def sub? (m n : Nat) : Option Nat := if n ≤ m then some (m - n) else none

variable {m n : Nat}

theorem add?_eq (h : m + n < 2 ^ 64) : add? m n = some (m + n) := if_pos h

theorem mul?_eq (h : m * n < 2 ^ 64) : mul? m n = some (m * n) := if_pos h

theorem sub?_eq (h : n ≤ m) : sub? m n = some (m - n) := if_pos h

/-- A step that finds a number leaves the rest of a computation for that number. -/
theorem bind_of_eq {α β : Type} {x : Option α} {a : α} (h : x = some a) (f : α → Option β) :
    (x >>= f) = f a := by
  rw [h]
  rfl

end Word

open Word

/-! ## Dates in words -/

/-- The year of an era in which one of its days is. -/
def yearOfEra? (dayOfEra : Nat) : Option Nat := do
  let early ← sub? dayOfEra (dayOfEra / 1460)
  let late ← add? early (dayOfEra / 36524)
  let days ← sub? late (dayOfEra / 146096)
  some (days / 365)

/-- The days of an era that are before one of its years. -/
def yearStart? (yearOfEra : Nat) : Option Nat := do
  let whole ← mul? 365 yearOfEra
  let late ← add? whole (yearOfEra / 4)
  sub? late (yearOfEra / 100)

/-- The month of a day of a year, both counted from March. -/
def marchMonth? (dayOfYear : Nat) : Option Nat := do
  let fives ← mul? 5 dayOfYear
  let late ← add? fives 2
  some (late / 153)

/-- The days of a year that are before one of its months, both counted from March. -/
def monthStart? (marchMonth : Nat) : Option Nat := do
  let whole ← mul? 153 marchMonth
  let late ← add? whole 2
  some (late / 5)

/-- The month of the calendar, from the month that is counted from March. -/
def month? (marchMonth : Nat) : Option Nat :=
  if marchMonth < 10 then add? marchMonth 3 else sub? marchMonth 9

/-- The year of the calendar, from the year that begins in March. -/
def year? (marchYear month : Nat) : Option Nat :=
  if month ≤ 2 then add? marchYear 1 else some marchYear

/-- The date of a day of a year that begins in March. -/
def Date.ofMarch? (marchYear dayOfYear : Nat) : Option Date := do
  let marchMonth ← marchMonth? dayOfYear
  let monthStart ← monthStart? marchMonth
  let before ← sub? dayOfYear monthStart
  let day ← add? before 1
  let month ← month? marchMonth
  let year ← year? marchYear month
  some { year, month, day }

/-- `Date.ofDays` in words, in the order of its operations. -/
def Date.ofDays? (days : Nat) : Option Date := do
  let z ← add? days epochOffset
  let eraStart ← mul? (z / daysPerEra) daysPerEra
  let dayOfEra ← sub? z eraStart
  let yearOfEra ← yearOfEra? dayOfEra
  let eraYears ← mul? (z / daysPerEra) 400
  let marchYear ← add? yearOfEra eraYears
  let yearStart ← yearStart? yearOfEra
  let dayOfYear ← sub? dayOfEra yearStart
  Date.ofMarch? marchYear dayOfYear

/-- No word is too short for the days of an era. -/
theorem yearOfEra?_eq {dayOfEra : Nat} (h : dayOfEra < daysPerEra) :
    yearOfEra? dayOfEra =
      some ((dayOfEra - dayOfEra / 1460 + dayOfEra / 36524 - dayOfEra / 146096) / 365) := by
  unfold daysPerEra at h
  have hlate : dayOfEra - dayOfEra / 1460 + dayOfEra / 36524 < 2 ^ 64 := by omega
  have hleap : dayOfEra / 146096 ≤ dayOfEra - dayOfEra / 1460 + dayOfEra / 36524 := by omega
  rw [yearOfEra?, bind_of_eq (sub?_eq (Nat.div_le_self _ _)), bind_of_eq (add?_eq hlate),
    bind_of_eq (sub?_eq hleap)]

theorem yearStart?_eq {yearOfEra : Nat} (h : yearOfEra < 400) :
    yearStart? yearOfEra = some (365 * yearOfEra + yearOfEra / 4 - yearOfEra / 100) := by
  have hwhole : 365 * yearOfEra < 2 ^ 64 := by omega
  have hlate : 365 * yearOfEra + yearOfEra / 4 < 2 ^ 64 := by omega
  have hcenturies : yearOfEra / 100 ≤ 365 * yearOfEra + yearOfEra / 4 := by omega
  rw [yearStart?, bind_of_eq (mul?_eq hwhole), bind_of_eq (add?_eq hlate), sub?_eq hcenturies]

theorem marchMonth?_eq {dayOfYear : Nat} (h : dayOfYear ≤ 365) :
    marchMonth? dayOfYear = some ((5 * dayOfYear + 2) / 153) := by
  have hfives : 5 * dayOfYear < 2 ^ 64 := by omega
  have hlate : 5 * dayOfYear + 2 < 2 ^ 64 := by omega
  rw [marchMonth?, bind_of_eq (mul?_eq hfives), bind_of_eq (add?_eq hlate)]

theorem monthStart?_eq {marchMonth : Nat} (h : marchMonth ≤ 11) :
    monthStart? marchMonth = some ((153 * marchMonth + 2) / 5) := by
  have hwhole : 153 * marchMonth < 2 ^ 64 := by omega
  have hlate : 153 * marchMonth + 2 < 2 ^ 64 := by omega
  rw [monthStart?, bind_of_eq (mul?_eq hwhole), bind_of_eq (add?_eq hlate)]

namespace Date.Valid

variable {d : Date}

theorem marchMonth_le (h : d.Valid) : d.marchMonth ≤ 11 := by
  have hle := h.month_le
  unfold Date.marchMonth
  split <;> omega

/-- The month is found without going below zero. -/
theorem month?_eq (h : d.Valid) : month? d.marchMonth = some d.month := by
  have hmonth := h.month_of_march
  unfold month?
  by_cases hspring : d.marchMonth < 10
  · rw [if_pos hspring] at hmonth ⊢
    rw [add?_eq (by omega), hmonth]
  · rw [if_neg hspring] at hmonth ⊢
    rw [sub?_eq (by omega), hmonth]

end Date.Valid

theorem year?_eq {d : Date} (hpos : 1 ≤ d.year) (hlt : d.marchYear + 1 < 2 ^ 64) :
    year? d.marchYear d.month = some d.year := by
  have hyear := Date.year_of_march hpos
  unfold year?
  by_cases hwinter : d.month ≤ 2
  · rw [if_pos hwinter] at hyear ⊢
    rw [add?_eq hlt, hyear]
  · rw [if_neg hwinter] at hyear ⊢
    rw [hyear]

theorem Date.Valid.ofMarch?_eq {d : Date} (h : d.Valid) (hpos : 1 ≤ d.year)
    (hday : d.marchDay ≤ 365) (hyear : d.marchYear + 1 < 2 ^ 64) :
    Date.ofMarch? d.marchYear d.marchDay = some d := by
  have hmonth : marchMonth? d.marchDay = some d.marchMonth := by
    rw [marchMonth?_eq hday, h.marchMonth_eq]
  have hbefore : sub? d.marchDay ((153 * d.marchMonth + 2) / 5) = some (d.day - 1) := by
    rw [marchDay, sub?_eq (Nat.le_add_right _ _), Nat.add_sub_cancel_left]
  have hnumber : add? (d.day - 1) 1 = some d.day := by
    have hle : d.day - 1 ≤ d.marchDay := Nat.le_add_left _ _
    rw [add?_eq (by omega), Nat.sub_add_cancel h.day_pos]
  rw [Date.ofMarch?, bind_of_eq hmonth, bind_of_eq (monthStart?_eq h.marchMonth_le), bind_of_eq hbefore,
    bind_of_eq hnumber, bind_of_eq h.month?_eq, bind_of_eq (year?_eq hpos hyear)]

/-- The date of a day is found in words, if the day can be counted from the year 0 in a word. -/
theorem IsDay.ofDays?_eq {days : Nat} {d : Date} (h : IsDay days d) (hdays : days + epochOffset < 2 ^ 64) :
    Date.ofDays? days = some d := by
  have hfound := h.valid.found h.year_pos h.days_eq
  have hplaced := h.valid.placed h.year_pos h.days_eq
  have hera := hfound.era_eq
  have hrest := hfound.rest_eq
  -- Only that the sum is a word matters from here on.
  generalize hz : days + epochOffset = z at hdays hera hrest
  have hsum : add? days epochOffset = some z := by
    subst hz
    exact add?_eq hdays
  have hstart : d.marchYear / 400 * daysPerEra ≤ z := by
    rw [← hera]
    exact Nat.div_mul_le_self _ _
  -- An era has far more days than years, so that counting years needs no more room than counting days.
  have hroom : d.marchYear / 400 * 400 + 400 < 2 ^ 64 := by
    unfold daysPerEra at hstart
    omega
  have hyear : yearOfEra? (z - d.marchYear / 400 * daysPerEra) = some (d.marchYear % 400) := by
    rw [hrest, yearOfEra?_eq hplaced.dayOfEra_lt, hfound.yearOfEra_eq _ rfl]
  have hmarchYear : add? (d.marchYear % 400) (d.marchYear / 400 * 400) = some d.marchYear := by
    rw [add?_eq (by omega), hfound.year_eq]
  have hday : sub? (z - d.marchYear / 400 * daysPerEra)
      (365 * (d.marchYear % 400) + d.marchYear % 400 / 4 - d.marchYear % 400 / 100) = some d.marchDay := by
    rw [hrest, sub?_eq (Nat.le_add_right _ _), Nat.add_sub_cancel_left]
  have hdate := h.valid.ofMarch?_eq h.year_pos hplaced.day_le (by omega)
  rw [Date.ofDays?, bind_of_eq hsum, hera, bind_of_eq (mul?_eq (hstart.trans_lt hdays)),
    bind_of_eq (sub?_eq hstart), bind_of_eq hyear, bind_of_eq (mul?_eq (Nat.lt_of_add_right_lt hroom)),
    bind_of_eq hmarchYear, bind_of_eq (yearStart?_eq hplaced.year_lt), bind_of_eq hday, hdate]

/-! ## Moments -/

/-- A date and a time of day, in universal time. -/
structure Moment where
  date : Date
  hour : Nat
  minute : Nat
  second : Nat

namespace Moment

/-- The moment is in the calendar and on the clock. -/
structure Valid (m : Moment) : Prop where
  date : m.date.Valid
  hour_lt : m.hour < 24
  minute_lt : m.minute < 60
  second_lt : m.second < 60

/-- The seconds from the beginning of 1970 to a moment, which are negative before it. -/
def sinceEpoch (m : Moment) : Int :=
  ((m.date.ordinal : Int) - epoch.ordinal) * 86400 + m.hour * 3600 + m.minute * 60 + m.second

/-- The text of a moment, as `timestamp` writes it. -/
def text (m : Moment) : String :=
  String.ofList <|
    padded 4 m.date.year ++ '-' :: padded 2 m.date.month ++ '-' :: padded 2 m.date.day ++
      'T' :: padded 2 m.hour ++ ':' :: padded 2 m.minute ++ ':' :: padded 2 m.second ++ ['Z']

/-- The moment on a day after some of its seconds. -/
def onDay (date : Date) (rest : Nat) : Moment := ⟨date, rest / 3600, rest % 3600 / 60, rest % 60⟩

/-- The moment that `timestamp` writes. -/
def ofSeconds (seconds : Nat) : Moment := onDay (Date.ofDays (seconds / 86400)) (seconds % 86400)

/-- `ofSeconds` in words. The time of day is found by divisions only, of which each result is a word. -/
def ofSeconds? (seconds : Nat) : Option Moment := do
  let date ← Date.ofDays? (seconds / 86400)
  some (onDay date (seconds % 86400))

theorem timestamp_eq (seconds : Nat) : timestamp seconds = (ofSeconds seconds).text := rfl

theorem valid_ofSeconds (seconds : Nat) : (ofSeconds seconds).Valid where
  date := (isDay_ofDays _).valid
  hour_lt := by
    have hrest : seconds % 86400 < 86400 := Nat.mod_lt _ (by decide)
    exact Nat.div_lt_of_lt_mul hrest
  minute_lt := Nat.div_lt_of_lt_mul (Nat.mod_lt _ (by decide))
  second_lt := Nat.mod_lt _ (by decide)

/-- Hours, minutes and seconds make up the time of day. -/
theorem rest_eq (rest : Nat) : rest / 3600 * 3600 + rest % 3600 / 60 * 60 + rest % 60 = rest := by
  omega

/-- A moment is the second it was computed from. -/
theorem sinceEpoch_ofSeconds (seconds : Nat) : (ofSeconds seconds).sinceEpoch = seconds := by
  have hday : ((ofSeconds seconds).date.ordinal : Int) = epoch.ordinal + (seconds / 86400 : Nat) := by
    exact congrArg Int.ofNat (isDay_ofDays (seconds / 86400)).ordinal_eq
  have hrest := rest_eq (seconds % 86400)
  have hseconds : seconds / 86400 * 86400 + seconds % 86400 = seconds := Nat.div_add_mod' _ _
  calc
    (ofSeconds seconds).sinceEpoch
        = ((epoch.ordinal : Int) + (seconds / 86400 : Nat) - epoch.ordinal) * 86400
            + (seconds % 86400 / 3600 : Nat) * 3600 + (seconds % 86400 % 3600 / 60 : Nat) * 60
            + (seconds % 86400 % 60 : Nat) := by rw [← hday]; rfl
    _ = (seconds / 86400 * 86400 + (seconds % 86400 / 3600 * 3600 + seconds % 86400 % 3600 / 60 * 60
            + seconds % 86400 % 60) : Nat) := by omega
    _ = seconds := by rw [hrest, hseconds]

/-- The moment of each count that a word holds is found in words. -/
theorem ofSeconds?_eq {seconds : Nat} (h : seconds < 2 ^ 64) :
    ofSeconds? seconds = some (ofSeconds seconds) := by
  have hdays : seconds / 86400 + epochOffset < 2 ^ 64 := by
    unfold epochOffset
    omega
  rw [ofSeconds?, (isDay_ofDays _).ofDays?_eq hdays]
  rfl

end Moment

/-- No step of the calculation leaves the words of 64 bits, and what is printed is the moment of the calendar for that
count. -/
theorem timestamp_exact :
    (∀ seconds : UInt64,
      ∃ m : Moment, Moment.ofSeconds? seconds.toNat = some m ∧ timestamp seconds.toNat = m.text ∧
        m.date = Date.ofDays (seconds.toNat / 86400) ∧ m.Valid ∧ m.sinceEpoch = seconds.toNat) ∧
    Date.ofDays 0 = ⟨1970, 1, 1⟩ ∧
    ∀ days, Date.ofDays (days + 1) = (Date.ofDays days).next := by
  refine ⟨?_, by decide, ofDays_succ⟩
  intro seconds
  have hwords := Moment.ofSeconds?_eq seconds.toNat_lt
  exact ⟨Moment.ofSeconds seconds.toNat, hwords, Moment.timestamp_eq _, rfl, Moment.valid_ofSeconds _,
    Moment.sinceEpoch_ofSeconds _⟩

example : timestamp 951782400 = "2000-02-29T00:00:00Z" := by decide +kernel

end HealthRules.Calendar
