import HealthRules.Proofs.History.Timestamps
import HealthRules.Proofs.Number.CanonicalTexts

/-!
# Chronology — timestamps in the order of time

A timestamp has its fields in the order of their weight, each padded with zeros to its width. As long as the years fit
into theirs, texts compare as the moments they stand for. Later years make the text longer, and then its order is lost;
but the fields behind the year keep their places from the end, so that each text still stands for one moment.

* `padded_concat`, the last digit of a number, with `padded_lt_padded` and `padded_injective`;
* `Field` and `written`, numbers in fields, with `written_lt` and `written_injective`;
* `ofDays_strictMono` and `Moment.ofSeconds_strictMono`: later days and seconds have later dates and moments;
* `Moment.toList_text`, timestamps as fields, and `timestamp_chronological`.
-/

namespace HealthRules.Calendar

/-! ## Lists of one length -/

/-- Lists of one length that differ decide about the order, whatever follows. -/
theorem append_lt_append {α : Type} [LT α] {xs ys us vs : List α} (hlength : xs.length = ys.length)
    (h : xs < ys) : xs ++ us < ys ++ vs := by
  induction xs generalizing ys with
  | nil =>
      have hnil : ys = [] := List.length_eq_zero_iff.1 hlength.symm
      subst hnil
      exact absurd h (List.not_lt_nil _)
  | cons x xs ih =>
      cases ys with
      | nil => cases hlength
      | cons y ys =>
          rw [List.cons_append, List.cons_append, List.cons_lt_cons_iff]
          rcases List.cons_lt_cons_iff.1 h with hhead | ⟨hhead, htail⟩
          · exact .inl hhead
          · exact .inr ⟨hhead, ih (Nat.succ.inj hlength) htail⟩

/-! ## Padded numbers -/

variable {width m n : Nat}

theorem length_padded (hwidth : 0 < width) (h : n < 10 ^ width) : (padded width n).length = width := by
  have hdigits := (Nat.length_toDigits_le_iff (by decide) hwidth).2 h
  rw [padded, List.length_append, List.length_replicate, Nat.sub_add_cancel hdigits]

theorem padded_one (h : n < 10) : padded 1 n = [n.digitChar] := by
  rw [padded, Nat.toDigits_of_lt_base h]
  rfl

/-- The last digit stands behind the number without it. -/
theorem padded_concat (hwidth : 0 < width) (n : Nat) :
    padded (width + 1) n = padded width (n / 10) ++ [(n % 10).digitChar] := by
  by_cases hsmall : n < 10
  · -- There is one zero less, but the number without its digit is written as a zero.
    have hrest : padded width 0 = List.replicate width '0' := by
      obtain ⟨zeros, rfl⟩ : ∃ zeros, width = zeros + 1 := ⟨width - 1, by omega⟩
      rw [List.replicate_succ']
      rfl
    rw [Nat.div_eq_of_lt hsmall, Nat.mod_eq_of_lt hsmall, hrest, padded, Nat.toDigits_of_lt_base hsmall]
    rfl
  · have hdigits := Nat.toDigits_of_base_le (by decide) (Nat.le_of_not_lt hsmall)
    rw [padded, padded, hdigits, List.length_append, List.length_singleton, Nat.add_sub_add_right,
      List.append_assoc]

theorem digitChar_lt (hn : n < 10) (h : m < n) : m.digitChar < n.digitChar := by
  rw [Char.lt_def, UInt32.lt_iff_toNat_lt]
  change m.digitChar.toNat < n.digitChar.toNat
  rw [Nat.toNat_digitChar_of_lt_ten (h.trans hn), Nat.toNat_digitChar_of_lt_ten hn]
  omega

/-- Numbers of one width compare as texts: by what is in front of the last digit, and then by that digit. -/
theorem padded_lt_padded (hwidth : 0 < width) (hn : n < 10 ^ width) (h : m < n) :
    padded width m < padded width n := by
  induction width, hwidth using Nat.le_induction generalizing m n with
  | base =>
      rw [padded_one (h.trans hn), padded_one hn, List.cons_lt_cons_iff]
      exact .inl (digitChar_lt hn h)
  | succ width hwidth ih =>
      rw [padded_concat hwidth, padded_concat hwidth]
      have hrest : n / 10 < 10 ^ width := by
        rw [Nat.pow_succ] at hn
        omega
      rcases Nat.lt_or_eq_of_le (Nat.div_le_div_right h.le) with hlt | heq
      · apply append_lt_append _ (ih hrest hlt)
        rw [length_padded hwidth (hlt.trans hrest), length_padded hwidth hrest]
      · rw [heq]
        apply List.append_left_lt
        rw [List.cons_lt_cons_iff]
        exact .inl (digitChar_lt (Nat.mod_lt _ (by decide)) (by omega))

/-- Padding does not show in what is read back. -/
theorem padded_injective (width : Nat) : Function.Injective (padded width) := by
  have hread : ∀ n, Numeral.ofDigits (padded width n) = n := by
    intro n
    exact (Numeral.ofDigits_zeros_append _ _).trans (Numeral.ofDigits_digits n)
  intro m n h
  rw [← hread m, h, hread n]

/-! ## Fields -/

/-- A place for a number of at most `width` digits, with a mark behind it. -/
structure Field where
  width : Nat
  mark : Char
  width_pos : 0 < width := by decide

/-- The number has no more digits than there is room for. -/
def Field.Fits (f : Field) (n : Nat) : Prop := n < 10 ^ f.width

/-- Numbers one after another, each in its field. -/
def written : List Field → List Nat → List Char
  | f :: fs, n :: ns => padded f.width n ++ f.mark :: written fs ns
  | _, _ => []

section Written

variable {f : Field} {fs : List Field} {ns ns' : List Nat}

theorem length_written (h : List.Forall₂ Field.Fits fs ns) :
    (written fs ns).length = (fs.map (·.width + 1)).sum := by
  induction h with
  | nil => rfl
  | @cons f n fs ns hfit _ ih =>
      rw [written, List.length_append, List.length_cons, length_padded f.width_pos hfit, ih, List.map_cons,
        List.sum_cons]
      omega

/-- The first field in which the numbers differ decides about the order of the texts as well. -/
theorem written_lt (hns : List.Forall₂ Field.Fits fs ns) (hns' : List.Forall₂ Field.Fits fs ns')
    (h : ns < ns') : written fs ns < written fs ns' := by
  induction hns generalizing ns' with
  | nil =>
      cases hns'
      exact absurd h (List.not_lt_nil _)
  | @cons f n fs ns hfit _ ih =>
      cases hns' with
      | @cons _ n' _ ns' hfit' hrest' =>
          rw [written, written]
          rcases List.cons_lt_cons_iff.1 h with hlt | ⟨rfl, hrest⟩
          · apply append_lt_append _ (padded_lt_padded f.width_pos hfit' hlt)
            rw [length_padded f.width_pos hfit, length_padded f.width_pos hfit']
          · exact List.append_left_lt (List.cons_lt_cons_iff.2 (.inr ⟨rfl, ih hrest' hrest⟩))

/-- Different numbers have different texts, as the fields have their places from the end. -/
theorem written_injective {n n' : Nat} (hns : List.Forall₂ Field.Fits fs ns)
    (hns' : List.Forall₂ Field.Fits fs ns') (h : written (f :: fs) (n :: ns) = written (f :: fs) (n' :: ns')) :
    n :: ns = n' :: ns' := by
  rw [written, written] at h
  -- Nothing is known of where the first field ends, but what is behind it has the same length in both texts.
  have hlength : (f.mark :: written fs ns).length = (f.mark :: written fs ns').length := by
    rw [List.length_cons, List.length_cons, length_written hns, length_written hns']
  rcases List.append_inj' h hlength with ⟨hfirst, hmarked⟩
  have hrest : written fs ns = written fs ns' := (List.cons.inj hmarked).2
  rcases lt_trichotomy ns ns' with hlt | heq | hgt
  · exact absurd (hrest ▸ written_lt hns hns' hlt) (List.lt_irrefl _)
  · rw [padded_injective f.width hfirst, heq]
  · exact absurd (hrest ▸ written_lt hns' hns hgt) (List.lt_irrefl _)

end Written

/-! ## Dates and moments -/

/-- The numbers of a date, the weightiest first. -/
def Date.fields (d : Date) : List Nat := [d.year, d.month, d.day]

theorem Date.length_fields (d : Date) : d.fields.length = 3 := rfl

/-- The day after is later, within a month, at its end and at the end of a year. -/
theorem Date.fields_lt_next (d : Date) : d.fields < d.next.fields := by
  unfold Date.next
  simp only [fields, List.cons_lt_cons_iff]
  split
  · exact .inr ⟨rfl, .inr ⟨rfl, .inl (Nat.lt_succ_self _)⟩⟩
  · split
    · exact .inr ⟨rfl, .inl (Nat.lt_succ_self _)⟩
    · exact .inl (Nat.lt_succ_self _)

/-- Later days have later dates. -/
theorem ofDays_strictMono : StrictMono fun days => (Date.ofDays days).fields := by
  apply strictMono_nat_of_lt_succ
  intro days
  rw [ofDays_succ]
  exact Date.fields_lt_next _

namespace Moment

/-- The numbers of a moment, the weightiest first. -/
def fields (m : Moment) : List Nat := m.date.fields ++ [m.hour, m.minute, m.second]

/-- The first number is the year, and it decides before all others. -/
theorem year_le_of_fields_lt {m m' : Moment} (h : m.fields < m'.fields) : m.date.year ≤ m'.date.year := by
  rcases List.cons_lt_cons_iff.1 h with hlt | ⟨heq, -⟩
  · exact hlt.le
  · exact heq.le

/-- The fields of a timestamp. -/
def layout : List Field :=
  [{ width := 4, mark := '-' }, { width := 2, mark := '-' }, { width := 2, mark := 'T' },
    { width := 2, mark := ':' }, { width := 2, mark := ':' }, { width := 2, mark := 'Z' }]

theorem toList_text (m : Moment) : m.text.toList = written layout m.fields := by
  simp [text, layout, fields, Date.fields, written]

/-- All numbers but the year fit into their fields. -/
theorem Valid.fits_behind {m : Moment} (h : m.Valid) :
    List.Forall₂ Field.Fits layout.tail m.fields.tail := by
  have hday : m.date.day ≤ 31 := h.date.day_le.trans (monthLength_le _ _)
  refine .cons ?_ (.cons ?_ (.cons ?_ (.cons ?_ (.cons ?_ .nil))))
  · exact h.date.month_le.trans_lt (by decide)
  · exact hday.trans_lt (by decide)
  · exact h.hour_lt.trans (by decide)
  · exact h.minute_lt.trans (by decide)
  · exact h.second_lt.trans (by decide)

theorem Valid.fits {m : Moment} (h : m.Valid) (hyear : m.date.year ≤ 9999) :
    List.Forall₂ Field.Fits layout m.fields :=
  .cons (hyear.trans_lt (by decide)) h.fits_behind

theorem Valid.length_text {m : Moment} (h : m.Valid) (hyear : m.date.year ≤ 9999) : m.text.length = 20 := by
  rw [← String.length_toList, toList_text, length_written (h.fits hyear)]
  rfl

theorem fields_ofSeconds (seconds : Nat) :
    (ofSeconds seconds).fields = (Date.ofDays (seconds / 86400)).fields ++
      [seconds % 86400 / 3600, seconds % 86400 % 3600 / 60, seconds % 86400 % 60] := rfl

/-- Later seconds have later moments: on a later day, or later on the same day. -/
theorem ofSeconds_strictMono : StrictMono fun seconds => (ofSeconds seconds).fields := by
  intro s t hlt
  simp only [fields_ofSeconds]
  rcases Nat.lt_or_eq_of_le (Nat.div_le_div_right hlt.le : s / 86400 ≤ t / 86400) with hday | hday
  · exact append_lt_append ((Date.length_fields _).trans (Date.length_fields _).symm) (ofDays_strictMono hday)
  · rw [hday]
    apply List.append_left_lt
    simp only [List.cons_lt_cons_iff]
    omega

end Moment

open Moment

/-- Timestamps sort as the moments they stand for, up to the year 9999, and no two moments ever have the same one. -/
theorem timestamp_chronological :
    (∀ s t, s < t → (Date.ofDays (t / 86400)).year ≤ 9999 →
      timestamp s < timestamp t ∧ (timestamp s).length = 20 ∧ (timestamp t).length = 20) ∧
    ∀ s t, s ≠ t → timestamp s ≠ timestamp t := by
  refine ⟨?_, ?_⟩
  · intro s t hlt hyear
    have hfields : (ofSeconds s).fields < (ofSeconds t).fields := ofSeconds_strictMono hlt
    have hyear' : (ofSeconds s).date.year ≤ 9999 := (year_le_of_fields_lt hfields).trans hyear
    have hs := (valid_ofSeconds s).fits hyear'
    have ht := (valid_ofSeconds t).fits hyear
    rw [timestamp_eq, timestamp_eq]
    refine ⟨?_, (valid_ofSeconds s).length_text hyear', (valid_ofSeconds t).length_text hyear⟩
    rw [String.lt_iff, toList_text, toList_text]
    exact written_lt hs ht hfields
  · intro s t hne htext
    rw [timestamp_eq, timestamp_eq] at htext
    have hwritten := congrArg String.toList htext
    rw [toList_text, toList_text] at hwritten
    have hfields := written_injective (valid_ofSeconds s).fits_behind (valid_ofSeconds t).fits_behind hwritten
    exact hne (ofSeconds_strictMono.injective hfields)

/-- The last second before a leap day, and the last one of the year 9999, behind which the order is lost. -/
theorem timestamp_chronological_leapDay :
    ((Date.ofDays (951782400 / 86400)).year ≤ 9999 ∧ timestamp 951782399 < timestamp 951782400 ∧
      (timestamp 951782399).length = 20 ∧ (timestamp 951782400).length = 20) ∧
    timestamp 253402300799 ≠ timestamp 253402300800 ∧ timestamp 253402300800 < timestamp 253402300799 := by
  have hyear : (Date.ofDays (951782400 / 86400)).year ≤ 9999 := by decide
  have hsorted := timestamp_chronological.1 951782399 951782400 (by decide) hyear
  have hdistinct := timestamp_chronological.2 253402300799 253402300800 (by decide)
  exact ⟨⟨hyear, hsorted⟩, hdistinct, by decide +kernel⟩

end HealthRules.Calendar
