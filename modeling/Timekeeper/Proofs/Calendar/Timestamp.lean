import Mathlib.Data.String.Basic
import Timekeeper.Proofs.Calendar.Gregorian
import Timekeeper.Report.Document

/-!
# Timestamps

The date of a report tells the **second** its comparison began in. A moment is a date with a time of
day and has a count of seconds from the beginning of 1970; an instant without a leap second is in
exactly one of them, the instant rounded down to the whole second (`Instant.seconds_moment`).

In the years from 0 to 9999 the text of a moment has its numbers in fields of fixed widths, so it
can be read back without loss (`Moment.read?_text`), and texts stand in the order of their moments
(`Moment.text_lt_iff`): numbers of one width are in the order of their digits
(`Instant.padded_lt_iff`), and what is told first is what counts most.
-/

namespace Timekeeper

/-! ### Numbers of a fixed width -/

/-- Behind texts of the same length the order of what follows counts only if these are the same. -/
theorem append_lt_append_iff {s s' t t' : List Char} (h : s.length = s'.length) :
    s ++ t < s' ++ t' ↔ s < s' ∨ s = s' ∧ t < t' := by
  induction s generalizing s' with
  | nil => simp [List.length_eq_zero_iff.mp h.symm]
  | cons c s ih =>
    cases s' with
    | nil => cases h
    | cons c' s' =>
      simp only [List.cons_append, List.cons_lt_cons_iff, ih (Nat.succ.inj h), List.cons.injEq]
      tauto

namespace Instant

theorem length_padded {count n : Nat} (hcount : 0 < count) (h : n < 10 ^ count) :
    (padded count n).length = count := by
  have hlength := (Nat.length_toDigits_le_iff (by decide : 1 < 10) hcount).mpr h
  rw [padded, List.length_append, List.length_replicate]
  omega

theorem isDigit_of_mem_padded {count n : Nat} {c : Char} (h : c ∈ padded count n) :
    c.isDigit = true := by
  obtain hzero | hdigit := List.mem_append.mp h
  · rw [List.eq_of_mem_replicate hzero]
    rfl
  · exact Nat.isDigit_of_mem_toDigits (by decide) (by decide) hdigit

theorem ofDigitChars_padded (count n : Nat) : Nat.ofDigitChars 10 (padded count n) 0 = n := by
  rw [padded, Nat.ofDigitChars_append, Nat.ofDigitChars_replicate_zero, Nat.mul_zero,
    Nat.ofDigitChars_ten_toDigits]

theorem padded_one {n : Nat} (h : n < 10) : padded 1 n = [n.digitChar] := by
  rw [padded, Nat.toDigits_of_lt_base h]
  rfl

theorem padded_succ {count : Nat} (hcount : 0 < count) (n : Nat) :
    padded (count + 1) n = padded count (n / 10) ++ [(n % 10).digitChar] := by
  by_cases h : n < 10
  · obtain ⟨k, rfl⟩ := Nat.exists_eq_add_of_le' hcount
    rw [padded, padded, Nat.toDigits_of_lt_base h, Nat.div_eq_of_lt h, Nat.toDigits_zero,
      Nat.mod_eq_of_lt h]
    simp [← List.replicate_succ']
  · rw [padded, padded, Nat.toDigits_of_base_le (by decide) (Nat.not_lt.mp h)]
    simp

theorem padded_inj {count m n : Nat} : padded count m = padded count n ↔ m = n :=
  ⟨fun h => by rw [← ofDigitChars_padded count m, h, ofDigitChars_padded], fun h => h ▸ rfl⟩

private theorem digitChar_lt_iff :
    ∀ m < 10, ∀ n < 10, (m.digitChar < n.digitChar ↔ m < n) := by decide

/-- Numbers of one width are in the order of their digits. -/
theorem padded_lt_iff {count m n : Nat} (hcount : 0 < count) (hm : m < 10 ^ count)
    (hn : n < 10 ^ count) : padded count m < padded count n ↔ m < n := by
  induction count, hcount using Nat.le_induction generalizing m n with
  | base =>
    rw [padded_one hm, padded_one hn, List.cons_lt_cons_iff, digitChar_lt_iff m hm n hn]
    simp
  | succ count hcount ih =>
    have hm' : m / 10 < 10 ^ count := Nat.div_lt_of_lt_mul (by rwa [← Nat.pow_succ'])
    have hn' : n / 10 < 10 ^ count := Nat.div_lt_of_lt_mul (by rwa [← Nat.pow_succ'])
    rw [padded_succ hcount, padded_succ hcount,
      append_lt_append_iff ((length_padded hcount hm').trans (length_padded hcount hn').symm),
      ih hm' hn', padded_inj, List.cons_lt_cons_iff,
      digitChar_lt_iff _ (Nat.mod_lt _ (by decide)) _ (Nat.mod_lt _ (by decide))]
    simp only [List.not_lt_nil, and_false, or_false]
    omega

/-- A field in front counts first. -/
theorem padded_append_lt_iff {count m n : Nat} (hcount : 0 < count) (hm : m < 10 ^ count)
    (hn : n < 10 ^ count) {s t : List Char} :
    padded count m ++ s < padded count n ++ t ↔ m < n ∨ m = n ∧ s < t := by
  rw [append_lt_append_iff ((length_padded hcount hm).trans (length_padded hcount hn).symm),
    padded_lt_iff hcount hm hn, padded_inj]

end Instant

/-! ### Moments -/

/-- A date with a time of day. -/
structure Moment where
  date : Date
  hour : Nat
  minute : Nat
  second : Nat
deriving DecidableEq

namespace Moment

/-- A moment whose date is in the calendar and whose time is on the clock. -/
structure IsValid (m : Moment) : Prop where
  date : m.date.IsValid
  hour : m.hour < 24
  minute : m.minute < 60
  second : m.second < 60

instance (m : Moment) : Decidable m.IsValid :=
  decidable_of_iff (m.date.IsValid ∧ m.hour < 24 ∧ m.minute < 60 ∧ m.second < 60)
    ⟨fun h => ⟨h.1, h.2.1, h.2.2.1, h.2.2.2⟩, fun h => ⟨h.date, h.hour, h.minute, h.second⟩⟩

/-- The seconds of a moment, counted from the beginning of 1970. -/
def seconds (m : Moment) : Int :=
  86400 * m.date.number + (3600 * m.hour + 60 * m.minute + m.second : Nat)

theorem IsValid.clock_lt {m : Moment} (h : m.IsValid) :
    3600 * m.hour + 60 * m.minute + m.second < 86400 := by
  have hhour := h.hour
  have hminute := h.minute
  have hsecond := h.second
  omega

/-- A number of a fixed count of digits, and what follows it. -/
def number? (count : Nat) (text : List Char) : Option (Nat × List Char) :=
  let digits := text.take count
  if digits.length = count ∧ digits.all Char.isDigit then
    some (Nat.ofDigitChars 10 digits 0, text.drop count)
  else none

/-- What follows a mark. -/
def after? (mark : Char) : List Char → Option (List Char)
  | [] => none
  | c :: text => if c = mark then some text else none

/-- Reads year, month, day, hour, minute and second, which must be a moment of the calendar. -/
def read? (text : List Char) : Option Moment := do
  let (year, rest) ← number? 4 text
  let (month, rest) ← number? 2 (← after? '-' rest)
  let (day, rest) ← number? 2 (← after? '-' rest)
  let (hour, rest) ← number? 2 (← after? ' ' rest)
  let (minute, rest) ← number? 2 (← after? ':' rest)
  let (second, rest) ← number? 2 (← after? ':' rest)
  let m : Moment := ⟨⟨year, month, day⟩, hour, minute, second⟩
  if rest = [] ∧ m.IsValid then some m else none

/-- The text of a moment. -/
def text (m : Moment) : List Char :=
  Instant.padded 4 m.date.year.toNat ++ '-' :: (Instant.padded 2 m.date.month ++
    '-' :: (Instant.padded 2 m.date.day ++ ' ' :: (Instant.padded 2 m.hour ++
      ':' :: (Instant.padded 2 m.minute ++ ':' :: Instant.padded 2 m.second))))

theorem number?_padded {count n : Nat} (hcount : 0 < count) (h : n < 10 ^ count)
    (rest : List Char) :
    number? count (Instant.padded count n ++ rest) = some (n, rest) := by
  have hlength := Instant.length_padded hcount h
  have hall : (Instant.padded count n).all Char.isDigit = true :=
    List.all_eq_true.mpr fun _ => Instant.isDigit_of_mem_padded
  simp only [number?, List.take_left' hlength, List.drop_left' hlength, hlength, hall, and_self,
    if_true, Instant.ofDigitChars_padded]

/-- A moment in a **year of four digits**, so that all of its numbers fit their fields. -/
structure HasShortYear (m : Moment) : Prop extends m.IsValid where
  year_nonneg : 0 ≤ m.date.year
  year_lt : m.date.year < 10000

namespace HasShortYear

variable {m n : Moment}

/-- Every number fits its field. -/
private theorem fits (h : m.HasShortYear) :
    m.date.year.toNat < 10 ^ 4 ∧ m.date.month < 10 ^ 2 ∧ m.date.day < 10 ^ 2 ∧
      m.hour < 10 ^ 2 ∧ m.minute < 10 ^ 2 ∧ m.second < 10 ^ 2 := by
  have hyear := h.year_lt
  have hmonth := h.date.month_le
  have hday := h.date.day_le.trans (daysOfMonth_le _ _)
  have hhour := h.hour
  have hminute := h.minute
  have hsecond := h.second
  omega

theorem length_text (h : m.HasShortYear) : m.text.length = 19 := by
  obtain ⟨hyear, hmonth, hday, hhour, hminute, hsecond⟩ := h.fits
  simp only [text, List.length_append, List.length_cons, Instant.length_padded (by decide) hyear,
    Instant.length_padded (by decide) hmonth, Instant.length_padded (by decide) hday,
    Instant.length_padded (by decide) hhour, Instant.length_padded (by decide) hminute,
    Instant.length_padded (by decide) hsecond]

/-- **Reading back** the text of a moment gives the moment. -/
theorem read?_text (h : m.HasShortYear) : read? m.text = some m := by
  obtain ⟨hyear, hmonth, hday, hhour, hminute, hsecond⟩ := h.fits
  have hlast := number?_padded (by decide) hsecond []
  rw [List.append_nil] at hlast
  have hsame : ((m.date.year.toNat : Nat) : Int) = m.date.year := Int.toNat_of_nonneg h.year_nonneg
  simp only [read?, text, number?_padded (by decide) hyear, number?_padded (by decide) hmonth,
    number?_padded (by decide) hday, number?_padded (by decide) hhour,
    number?_padded (by decide) hminute, hlast, after?, if_true, Option.bind_eq_bind,
    Option.bind_some, hsame]
  exact if_pos ⟨trivial, h.toIsValid⟩

/-- Texts are in the order of their moments. -/
theorem text_lt_iff (hm : m.HasShortYear) (hn : n.HasShortYear) :
    m.text < n.text ↔ m.seconds < n.seconds := by
  obtain ⟨hyear, hmonth, hday, hhour, hminute, hsecond⟩ := hm.fits
  obtain ⟨hyear', hmonth', hday', hhour', hminute', hsecond'⟩ := hn.fits
  simp only [text, List.cons_lt_cons_self, Instant.padded_lt_iff (by decide) hsecond hsecond',
    Instant.padded_append_lt_iff (by decide) hyear hyear',
    Instant.padded_append_lt_iff (by decide) hmonth hmonth',
    Instant.padded_append_lt_iff (by decide) hday hday',
    Instant.padded_append_lt_iff (by decide) hhour hhour',
    Instant.padded_append_lt_iff (by decide) hminute hminute']
  have hnonneg := hm.year_nonneg
  have hnonneg' := hn.year_nonneg
  have hm' := hm.toIsValid
  have hn' := hn.toIsValid
  have hclock : 3600 * m.hour + 60 * m.minute + m.second < 86400 := hm'.clock_lt
  have hclock' : 3600 * n.hour + 60 * n.minute + n.second < 86400 := hn'.clock_lt
  simp only [seconds]
  obtain hbefore | hsame | hafter := Date.before_trichotomy m.date n.date
  · have hnumber := hm'.date.number_lt_of_before hn'.date hbefore
    rw [Date.Before] at hbefore
    omega
  · rw [hsame]
    have hminutes := And.intro hm'.minute hn'.minute
    have hseconds := And.intro hm'.second hn'.second
    omega
  · have hnumber := hn'.date.number_lt_of_before hm'.date hafter
    rw [Date.Before] at hafter
    omega

end HasShortYear

end Moment

/-! ### Instants -/

namespace Instant

/-- The moment an instant is in, a leap second being left out. -/
def moment (i : Instant) : Moment where
  date := Date.ofDay i.day
  hour := i.secondOfDay / 3600
  minute := i.secondOfDay / 60 % 60
  second := i.secondOfDay % 60

theorem secondOfDay_lt (i : Instant) : i.secondOfDay < 86400 := by
  have hlt := Int.fmod_lt_of_pos i.seconds (by decide : (0 : Int) < 86400)
  have hnonneg := Int.fmod_nonneg_of_pos i.seconds (by decide : (0 : Int) < 86400)
  rw [secondOfDay]
  omega

theorem day_add_secondOfDay (i : Instant) : 86400 * i.day + i.secondOfDay = i.seconds := by
  have hnonneg := Int.fmod_nonneg_of_pos i.seconds (by decide : (0 : Int) < 86400)
  rw [day, secondOfDay, Int.toNat_of_nonneg hnonneg, Int.mul_fdiv_add_fmod]

theorem isValid_moment (i : Instant) : i.moment.IsValid where
  date := Date.isValid_ofDay i.day
  hour := Nat.div_lt_of_lt_mul i.secondOfDay_lt
  minute := Nat.mod_lt _ (by decide)
  second := Nat.mod_lt _ (by decide)

/-- The moment of an instant has the seconds of the instant. -/
theorem seconds_moment (i : Instant) : i.moment.seconds = i.seconds := by
  rw [← i.day_add_secondOfDay]
  simp only [Moment.seconds, moment, Date.number_ofDay]
  omega

/-- The seconds from the beginning of 1970 to an instant, its nanoseconds counted and the sum
rounded down. -/
def wholeSeconds (i : Instant) : Int :=
  (i.seconds * 1000000000 + i.nanoseconds).fdiv 1000000000

/-- An instant that is not in a leap second and whose year is one from 0 to 9999. -/
structure IsOrdinary (i : Instant) : Prop where
  nanoseconds_lt : i.nanoseconds < 1000000000
  firstDay_le : 86400 * firstDay 0 ≤ i.seconds
  lt_firstDay : i.seconds < 86400 * firstDay 10000

namespace IsOrdinary

variable {i : Instant}

theorem wholeSeconds_eq (h : i.IsOrdinary) : i.wholeSeconds = i.seconds := by
  have hlt := h.nanoseconds_lt
  rw [wholeSeconds, Int.fdiv_eq_ediv_of_nonneg _ (by decide)]
  omega

theorem hasShortYear (h : i.IsOrdinary) : i.moment.HasShortYear := by
  have hfirst := h.firstDay_le
  have hlast := h.lt_firstDay
  have hsplit := i.day_add_secondOfDay
  have hsecond := i.secondOfDay_lt
  have hnumber := Date.number_ofDay i.day
  have hstart : firstDay 0 ≤ (Date.ofDay i.day).number := by omega
  have hend : (Date.ofDay i.day).number < firstDay 10000 := by omega
  obtain ⟨hnonneg, hlt⟩ := (Date.isValid_ofDay i.day).year_bounds hstart hend
  exact ⟨i.isValid_moment, hnonneg, hlt⟩

theorem text_eq (h : i.IsOrdinary) : i.text = i.moment.text := by
  have hyear := h.hasShortYear
  have hfour : 0 ≤ (Date.ofDay i.day).year ∧ (Date.ofDay i.day).year ≤ 9999 :=
    ⟨hyear.year_nonneg, Int.lt_add_one_iff.mp hyear.year_lt⟩
  simp only [text, yearText, if_pos hfour, if_neg (Nat.not_le.mpr h.nanoseconds_lt), Moment.text,
    moment, Nat.add_zero, List.append_assoc, List.cons_append, List.nil_append]

end IsOrdinary

end Instant

/-! ### The date of a report -/

namespace Occasion

/-- **The date of a report tells the second it began in.** It has a fixed width, reading it back
gives the instant rounded down to the whole second, and dates are in the order of these seconds. -/
theorem date_tells_second {o : Occasion} (h : o.start.IsOrdinary) :
    o.date.length = 19 ∧
      (Moment.read? o.date.toList).map Moment.seconds = some o.start.wholeSeconds ∧
      ∀ p : Occasion, p.start.IsOrdinary →
        (o.date < p.date ↔ o.start.wholeSeconds < p.start.wholeSeconds) := by
  refine ⟨?_, ?_, fun p hp => ?_⟩
  · rw [date, String.length_ofList, h.text_eq, h.hasShortYear.length_text]
  · rw [date, String.toList_ofList, h.text_eq, h.hasShortYear.read?_text, Option.map_some,
      Instant.seconds_moment, h.wholeSeconds_eq]
  · rw [String.lt_iff_toList_lt, date, date, String.toList_ofList, String.toList_ofList, h.text_eq,
      hp.text_eq, h.hasShortYear.text_lt_iff hp.hasShortYear, Instant.seconds_moment,
      Instant.seconds_moment, h.wholeSeconds_eq, hp.wholeSeconds_eq]

/-- The last second of the leap day of 1600 is told as such up to its last nanosecond, and March
begins with a later text. -/
theorem date_tells_second_leapDay :
    let o : Occasion := ⟨⟨-11670912001, 999999999⟩, ⟨0, 0⟩, ""⟩
    let p : Occasion := ⟨⟨-11670912000, 0⟩, ⟨0, 0⟩, ""⟩
    o.date = "1600-02-29 23:59:59" ∧ o.date.length = 19 ∧
      (Moment.read? o.date.toList).map Moment.seconds = some (-11670912001) ∧ o.date < p.date := by
  intro o p
  obtain ⟨hlength, hread, horder⟩ :=
    date_tells_second (o := o) ⟨by decide, by decide, by decide⟩
  exact ⟨by decide +kernel, hlength, hread,
    (horder p ⟨by decide, by decide, by decide⟩).mpr (by decide)⟩

end Occasion

end Timekeeper
