import Mathlib.Tactic.IntervalCases
import Timekeeper.Calendar

/-!
# The Gregorian calendar

The **rule** of the calendar says which years have a leap day and how long the months are, so a
date has a number: the days of the years before it, of the months before it and of its own month
before it (`Date.number`). Years begin where the year before them ends (`firstDay_succ`), and the
beginning of 1970 has the number zero.

The date of a day is found by cutting an era of four hundred years into centuries, spans of four
years and years (`exists_cycles`), each of which has its leap day at its end because a year is taken
to begin with March. It exists in the calendar (`Date.isValid_ofDay`), and its number is the day it
was found for (`Date.number_ofDay`). Earlier dates have lower numbers
(`Date.IsValid.number_lt_of_before`).
-/

namespace Timekeeper

/-! ### The rule -/

/-- A **leap year** is divisible by four, and not by a hundred unless by four hundred. -/
def IsLeapYear (year : Int) : Prop := 4 ∣ year ∧ (100 ∣ year → 400 ∣ year)

instance (year : Int) : Decidable (IsLeapYear year) :=
  inferInstanceAs (Decidable (4 ∣ year ∧ (100 ∣ year → 400 ∣ year)))

/-- The days of a month. -/
def daysOfMonth (year : Int) : Nat → Nat
  | 2 => if IsLeapYear year then 29 else 28
  | 4 | 6 | 9 | 11 => 30
  | _ => 31

theorem daysOfMonth_le (year : Int) (month : Nat) : daysOfMonth year month ≤ 31 := by
  simp only [daysOfMonth]
  repeat' split
  all_goals decide

/-- The days of a year before one of its months. -/
def daysBeforeMonth (year : Int) : Nat → Nat
  | 0 | 1 => 0
  | month + 2 => daysBeforeMonth year (month + 1) + daysOfMonth year (month + 1)

/-- The first day of a year, counted from the beginning of 1970. -/
def firstDay (year : Int) : Int :=
  365 * (year - 1970) + ((year - 1) / 4 - (year - 1) / 100 + (year - 1) / 400) - 477

example : firstDay 1970 = 0 := by decide

theorem firstDay_succ (year : Int) :
    firstDay (year + 1) = firstDay year + if IsLeapYear year then 366 else 365 := by
  have hfours : year / 4 = (year - 1) / 4 + if 4 ∣ year then 1 else 0 := by
    split <;> omega
  have hcenturies : year / 100 = (year - 1) / 100 + if 100 ∣ year then 1 else 0 := by
    split <;> omega
  have heras : year / 400 = (year - 1) / 400 + if 400 ∣ year then 1 else 0 := by
    split <;> omega
  have hfour : 100 ∣ year → 4 ∣ year := (by decide : (4 : Int) ∣ 100).trans
  have hhundred : 400 ∣ year → 100 ∣ year := (by decide : (100 : Int) ∣ 400).trans
  simp only [firstDay, IsLeapYear, Int.add_sub_cancel, hfours, hcenturies, heras]
  grind

theorem daysBeforeMonth_thirteen (year : Int) :
    (daysBeforeMonth year 13 : Int) = if IsLeapYear year then 366 else 365 := by
  by_cases h : IsLeapYear year <;> simp [daysBeforeMonth, daysOfMonth, h]

theorem daysBeforeMonth_succ (year : Int) {month : Nat} (h : 1 ≤ month) :
    daysBeforeMonth year (month + 1) = daysBeforeMonth year month + daysOfMonth year month := by
  obtain ⟨m, rfl⟩ := Nat.exists_eq_add_of_le' h
  rfl

theorem daysBeforeMonth_mono (year : Int) {m n : Nat} (h : m ≤ n) :
    daysBeforeMonth year m ≤ daysBeforeMonth year n := by
  induction n, h using Nat.le_induction with
  | base => exact le_rfl
  | succ n _ ih =>
    cases n with
    | zero => exact ih
    | succ n => exact ih.trans (Nat.le_add_right _ _)

theorem firstDay_mono {m n : Int} (h : m ≤ n) : firstDay m ≤ firstDay n := by
  simp only [firstDay]
  omega

namespace Date

/-- A date that **exists** in the calendar. -/
structure IsValid (d : Date) : Prop where
  one_le_month : 1 ≤ d.month
  month_le : d.month ≤ 12
  one_le_day : 1 ≤ d.day
  day_le : d.day ≤ daysOfMonth d.year d.month

theorem isValid_iff {d : Date} :
    d.IsValid ↔ (1 ≤ d.month ∧ d.month ≤ 12) ∧ 1 ≤ d.day ∧ d.day ≤ daysOfMonth d.year d.month :=
  ⟨fun h => ⟨⟨h.one_le_month, h.month_le⟩, h.one_le_day, h.day_le⟩,
    fun h => ⟨h.1.1, h.1.2, h.2.1, h.2.2⟩⟩

instance (d : Date) : Decidable d.IsValid := decidable_of_iff _ isValid_iff.symm

/-- The **number** of a date: the days before it, counted from the beginning of 1970. -/
def number (d : Date) : Int :=
  firstDay d.year + daysBeforeMonth d.year d.month + d.day - 1

/-! ### Dates in their order -/

theorem IsValid.firstDay_le {d : Date} (h : d.IsValid) : firstDay d.year ≤ d.number := by
  have hday := h.one_le_day
  simp only [number]
  omega

theorem IsValid.number_lt_month {d : Date} (h : d.IsValid) :
    d.number < firstDay d.year + daysBeforeMonth d.year (d.month + 1) := by
  have hday := h.day_le
  rw [daysBeforeMonth_succ _ h.one_le_month]
  simp only [number]
  omega

theorem IsValid.number_lt_firstDay {d : Date} (h : d.IsValid) :
    d.number < firstDay (d.year + 1) := by
  have hmonth := h.number_lt_month
  have hyear : daysBeforeMonth d.year (d.month + 1) ≤ daysBeforeMonth d.year 13 :=
    daysBeforeMonth_mono d.year (Nat.succ_le_succ h.month_le)
  rw [firstDay_succ, ← daysBeforeMonth_thirteen]
  omega

/-- The order of dates: by the year, then by the month, then by the day. -/
def Before (d e : Date) : Prop :=
  d.year < e.year ∨ d.year = e.year ∧ (d.month < e.month ∨ d.month = e.month ∧ d.day < e.day)

/-- **Earlier dates have lower numbers.** -/
theorem IsValid.number_lt_of_before {d e : Date} (hd : d.IsValid) (he : e.IsValid)
    (h : d.Before e) : d.number < e.number := by
  obtain hyear | ⟨hyear, hmonth | ⟨hmonth, hday⟩⟩ := h
  · calc d.number < firstDay (d.year + 1) := hd.number_lt_firstDay
      _ ≤ firstDay e.year := firstDay_mono hyear
      _ ≤ e.number := he.firstDay_le
  · have hlt := hd.number_lt_month
    have hle : daysBeforeMonth d.year (d.month + 1) ≤ daysBeforeMonth d.year e.month :=
      daysBeforeMonth_mono d.year hmonth
    have hday := he.one_le_day
    simp only [number, ← hyear] at hlt ⊢
    omega
  · simp only [number, hyear, hmonth]
    omega

theorem before_trichotomy (d e : Date) : d.Before e ∨ d = e ∨ e.Before d := by
  cases d
  cases e
  simp only [Before, mk.injEq]
  omega

/-- The year of a date, from its number. -/
theorem IsValid.year_bounds {d : Date} (h : d.IsValid) {first last : Int}
    (hfirst : firstDay first ≤ d.number) (hlast : d.number < firstDay last) :
    first ≤ d.year ∧ d.year < last := by
  constructor
  · by_contra hlt
    exact absurd (h.number_lt_firstDay.trans_le (firstDay_mono (by omega))) hfirst.not_gt
  · by_contra hle
    exact absurd ((firstDay_mono (by omega)).trans h.firstDay_le) hlast.not_ge

/-! ### The date of a day -/

/-- An era is four centuries, a century twenty-five spans of four years, a span four years. All
four end with a leap day, but the first three centuries and the years before the last of a span do
not have theirs. -/
private theorem exists_cycles {n : Nat} (h : n < daysPerEra) : ∃ century span year day,
    n = 36524 * century + (1461 * span + (365 * year + day)) ∧
      century ≤ 3 ∧ span ≤ 24 ∧ year ≤ 3 ∧
        (day ≤ 364 ∨ day = 365 ∧ year = 3 ∧ (span < 24 ∨ century = 3)) := by
  simp only [daysPerEra] at h
  let century := min (n / 36524) 3
  let rest := n - 36524 * century
  let year := min (rest % 1461 / 365) 3
  refine ⟨century, rest / 1461, year, rest % 1461 - 365 * year, ?_, ?_, ?_, ?_, ?_⟩ <;> omega

/-- The last day of an era is the only one behind four centuries of the shorter length. -/
private theorem div_century {century rest : Nat} (hcentury : century ≤ 3) (hrest : rest ≤ 36524)
    (hlast : rest = 36524 → century = 3) :
    (36524 * century + rest) / 36524 = century + (36524 * century + rest) / 146096 := by
  omega

/-- What is taken off the days of an era leaves 365 for each year. -/
private theorem yearOfEra_cycles {century span year day : Nat} (hcentury : century ≤ 3)
    (hspan : span ≤ 24) (hyear : year ≤ 3)
    (hday : day ≤ 364 ∨ day = 365 ∧ year = 3 ∧ (span < 24 ∨ century = 3)) :
    yearOfEra (36524 * century + (1461 * span + (365 * year + day))) =
      100 * century + 4 * span + year := by
  have hrest : 1461 * span + (365 * year + day) ≤ 36524 := by omega
  have hcenturies := div_century hcentury hrest (by omega)
  have hspans : (36524 * century + (1461 * span + (365 * year + day))) / 1460 =
      25 * century + span + (24 * century + span + (365 * year + day)) / 1460 := by omega
  -- a span that is counted too early makes up for the leap day
  obtain ⟨early, hearly, hfirst, hlast⟩ : ∃ early,
      (24 * century + span + (365 * year + day)) / 1460 = early ∧ early ≤ day ∧
        day ≤ 364 + early := by
    refine ⟨_, rfl, ?_⟩
    have hbound : 24 * century + span ≤ 96 := by omega
    clear hcenturies hspans
    omega
  have hdays : 36524 * century + (1461 * span + (365 * year + day)) -
        (25 * century + span + early) + century =
      365 * (100 * century + 4 * span + year) + (day - early) := by
    clear hcenturies hspans hearly
    omega
  rw [yearOfEra, hcenturies, hspans, hearly, ← Nat.add_assoc, Nat.add_sub_cancel, hdays,
    Nat.mul_add_div (by decide), Nat.div_eq_of_lt (by omega), Nat.add_zero]

/-- The date of a day of a year that begins with the first of March of a given year. -/
private def ofMarch (year : Int) (dayOfYear : Nat) : Date :=
  let month := (5 * dayOfYear + 2) / 153
  { year := year + if month < 10 then 0 else 1
    month := if month < 10 then month + 3 else month - 9
    day := dayOfYear - (153 * month + 2) / 5 + 1 }

/-- Every day is in a year that begins with March and has a day more if a leap day is at its
end. -/
private theorem exists_ofDay_eq (n : Int) : ∃ (year : Int) (dayOfYear : Nat),
    (dayOfYear ≤ 364 ∨ dayOfYear = 365 ∧ IsLeapYear (year + 1)) ∧
      n = firstDay (year + 1) - 306 + dayOfYear ∧ ofDay n = ofMarch year dayOfYear := by
  obtain ⟨dayOfEra, hdayOfEra⟩ := Int.eq_ofNat_of_zero_le
    (Int.fmod_nonneg_of_pos (n + epochDay) (by decide : (0 : Int) < daysPerEra))
  have hlt : dayOfEra < daysPerEra := by
    have hmod := Int.fmod_lt_of_pos (n + epochDay) (by decide : (0 : Int) < daysPerEra)
    omega
  have hsplit := Int.mul_fdiv_add_fmod (n + epochDay) daysPerEra
  obtain ⟨century, span, year, day, hcycles, hcentury, hspan, hyear, hday⟩ := exists_cycles hlt
  have hyearOfEra := yearOfEra_cycles hcentury hspan hyear hday
  have hbefore : daysBefore (100 * century + 4 * span + year) =
      36524 * century + 1461 * span + 365 * year := by
    rw [daysBefore]
    omega
  generalize hera : (n + epochDay).fdiv daysPerEra = era at hsplit
  refine ⟨100 * century + 4 * span + year + era * 400, day, ?_, ?_, ?_⟩
  · rw [IsLeapYear]
    omega
  · have hfours : (100 * century + 4 * span + year + era * 400 : Int) / 4 =
        25 * century + span + era * 100 := by omega
    have hcenturies : (100 * century + 4 * span + year + era * 400 : Int) / 100 =
        century + era * 4 := by omega
    have heras : (100 * century + 4 * span + year + era * 400 : Int) / 400 = era := by omega
    simp only [firstDay, Int.add_sub_cancel, hfours, hcenturies, heras]
    rw [hdayOfEra, hcycles] at hsplit
    simp only [epochDay, daysPerEra] at hsplit
    omega
  · have hdayOfYear : dayOfEra - (36524 * century + 1461 * span + 365 * year) = day := by omega
    simp only [ofDay, hdayOfEra, hera, Int.toNat_natCast]
    rw [hcycles, hyearOfEra, hbefore, ← hcycles, hdayOfYear]
    simp [ofMarch]

/-- From March on, months have the lengths of 153 days in five months. -/
private theorem daysOfMonth_march (year : Int) {month : Nat} (h : month < 10) :
    daysBeforeMonth year (month + 3) = daysBeforeMonth year 3 + (153 * month + 2) / 5 ∧
      (153 * month + 2) / 5 + daysOfMonth year (month + 3) = (153 * (month + 1) + 2) / 5 := by
  interval_cases month <;> exact ⟨by simp [daysBeforeMonth, daysOfMonth], rfl⟩

private theorem daysBeforeMonth_three (year : Int) :
    (daysBeforeMonth year 3 : Int) = firstDay (year + 1) - 306 - firstDay year := by
  rw [firstDay_succ]
  by_cases h : IsLeapYear year <;> simp [daysBeforeMonth, daysOfMonth, h] <;> omega

private theorem ofMarch_spec {year : Int} {dayOfYear : Nat}
    (h : dayOfYear ≤ 364 ∨ dayOfYear = 365 ∧ IsLeapYear (year + 1)) :
    (ofMarch year dayOfYear).IsValid ∧
      (ofMarch year dayOfYear).number = firstDay (year + 1) - 306 + dayOfYear := by
  obtain ⟨month, hmonth⟩ : ∃ month, (5 * dayOfYear + 2) / 153 = month := ⟨_, rfl⟩
  simp only [isValid_iff, ofMarch, number, hmonth]
  by_cases hten : month < 10
  · obtain ⟨hbefore, hlength⟩ := daysOfMonth_march year hten
    have hthree := daysBeforeMonth_three year
    simp only [if_pos hten, Int.add_zero, hbefore]
    omega
  · obtain rfl | rfl : month = 10 ∨ month = 11 := by omega
    · simp only [if_neg hten, Nat.reduceSub, daysBeforeMonth, daysOfMonth]
      omega
    · by_cases hleap : IsLeapYear (year + 1)
      · simp only [if_neg hten, Nat.reduceSub, daysBeforeMonth, daysOfMonth, if_pos hleap]
        omega
      · have hday : dayOfYear ≤ 364 := h.resolve_right fun hlast => hleap hlast.2
        simp only [if_neg hten, Nat.reduceSub, daysBeforeMonth, daysOfMonth, if_neg hleap]
        omega

/-- Every day has a date. -/
theorem isValid_ofDay (n : Int) : (ofDay n).IsValid := by
  obtain ⟨year, dayOfYear, hbound, -, heq⟩ := exists_ofDay_eq n
  exact heq ▸ (ofMarch_spec hbound).1

/-- The date of a day has the number of that day. -/
@[simp] theorem number_ofDay (n : Int) : (ofDay n).number = n := by
  obtain ⟨year, dayOfYear, hbound, hday, heq⟩ := exists_ofDay_eq n
  rw [heq, (ofMarch_spec hbound).2, hday]

end Date

end Timekeeper
