import Timekeeper.Binary64.Arithmetic

/-!
# Instants and dates

An **instant** is a count of seconds from the beginning of 1970 in universal time, with
nanoseconds; a leap second is written as a second and more of nanoseconds in the last second
of a minute. A **date** is a day of the Gregorian calendar, extended to all years.

Days are counted from the first of March of the year zero, so that a leap day ends its year
and the lengths of months follow one rule; years are grouped in eras of four hundred, after
which the calendar repeats.
-/

namespace Timekeeper

/-- A day of the Gregorian calendar. -/
structure Date where
  year : Int
  month : Nat
  day : Nat
deriving DecidableEq

namespace Date

/-- The days from the first of March of the year zero to the beginning of 1970. -/
def epochDay : Int := 719468

/-- The days of an era of four hundred years. -/
def daysPerEra : Nat := 146097

/-- The day of an era, its first year beginning with March: the year within the era, and the day
within that year. -/
def yearOfEra (dayOfEra : Nat) : Nat :=
  (dayOfEra - dayOfEra / 1460 + dayOfEra / 36524 - dayOfEra / 146096) / 365

/-- The days of an era before one of its years. -/
def daysBefore (yearOfEra : Nat) : Nat := 365 * yearOfEra + yearOfEra / 4 - yearOfEra / 100

/-- The date of a day counted from the beginning of 1970. -/
def ofDay (day : Int) : Date :=
  let shifted := day + epochDay
  let era := shifted.fdiv daysPerEra
  let dayOfEra := (shifted.fmod daysPerEra).toNat
  let year := yearOfEra dayOfEra
  let dayOfYear := dayOfEra - daysBefore year
  let month := (5 * dayOfYear + 2) / 153
  let inNextYear : Int := if month < 10 then 0 else 1
  { year := year + era * 400 + inNextYear
    month := if month < 10 then month + 3 else month - 9
    day := dayOfYear - (153 * month + 2) / 5 + 1 }

end Date

/-- An instant in universal time. -/
structure Instant where
  seconds : Int
  nanoseconds : Nat
deriving DecidableEq

namespace Instant

/-- The first and the last second that can be represented. -/
def range : Int × Int := (-8334601228800, 8210266876799)

/-- The instant of a count of seconds and nanoseconds, if it can be represented: nanoseconds of
a second and more occur in the last second of a minute only. -/
def of? (seconds : Int) (nanoseconds : Nat) : Option Instant :=
  if seconds < range.1 ∨ range.2 < seconds then none
  else if nanoseconds < 1000000000 then some ⟨seconds, nanoseconds⟩
  else if nanoseconds < 2000000000 ∧ seconds.fmod 60 = 59 then some ⟨seconds, nanoseconds⟩
  else none

/-- The day of an instant, counted from the beginning of 1970. -/
def day (i : Instant) : Int := i.seconds.fdiv 86400

/-- The second of the day. -/
def secondOfDay (i : Instant) : Nat := (i.seconds.fmod 86400).toNat

/-- A number with leading zeros up to a count of digits. -/
def padded (count n : Nat) : List Char :=
  let digits := Nat.toDigits 10 n
  List.replicate (count - digits.length) '0' ++ digits

/-- A year: four digits from the year zero to the year 9999, with a sign otherwise. -/
def yearText (year : Int) : List Char :=
  if 0 ≤ year ∧ year ≤ 9999 then padded 4 year.toNat
  else (if year < 0 then '-' else '+') :: padded 4 year.natAbs

/-- The date and the time of day of an instant. -/
def text (i : Instant) : List Char :=
  let date := Date.ofDay i.day
  let s := i.secondOfDay
  let second := s % 60 + if 1000000000 ≤ i.nanoseconds then 1 else 0
  yearText date.year ++ ['-'] ++ padded 2 date.month ++ ['-'] ++ padded 2 date.day ++ [' '] ++
    padded 2 (s / 3600) ++ [':'] ++ padded 2 (s / 60 % 60) ++ [':'] ++ padded 2 second

/-- The nanoseconds from one instant to another. A leap second that begins within a day before
a later second of the day counts as one more. -/
def nanosecondsTo (first last : Instant) : Int :=
  let leap : Int :=
    if first.secondOfDay < last.secondOfDay ∧ 1000000000 ≤ first.nanoseconds then 1
    else if last.secondOfDay < first.secondOfDay ∧ 1000000000 ≤ last.nanoseconds then -1
    else 0
  (last.seconds - first.seconds + leap) * 1000000000 +
    ((last.nanoseconds : Int) - first.nanoseconds)

/-- The seconds from one instant to another, zero if that is not later: the whole seconds and
the fraction are rounded apart and then added. -/
def secondsTo (first last : Instant) : Binary64 :=
  let span := nanosecondsTo first last
  if span < 0 then .zero
  else
    .ofNat (span.toNat / 1000000000) + .ofNat (span.toNat % 1000000000) / .ofNat 1000000000

end Instant

end Timekeeper
