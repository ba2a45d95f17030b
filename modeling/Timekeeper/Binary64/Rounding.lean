import Timekeeper.Binary64.Basic

/-!
# Rounding to the nearest number

`powerOfTen` counts the units of a decimal place in one. `roundDiv` divides natural numbers
and rounds to the nearest one, a tie going to the even neighbour. `rankOf` turns an exact
quotient, counted in units of `2⁻¹⁰⁷⁴`, into the rank of the nearest binary64 magnitude, and
`ofQuotient` adds the sign. Every operation of this library that cannot be exact goes through
`roundDiv`, so a number is rounded in one way only.
-/

namespace Timekeeper

/-- The count of units of the last place in one, for so many decimal places. -/
def powerOfTen (places : Nat) : Nat := Nat.pow 10 places

/-- The natural number nearest to `num / den`; of two equally near ones, the even one. -/
def roundDiv (num den : Nat) : Nat :=
  let quotient := num / den
  let remainder := num % den
  if 2 * remainder < den then quotient
  else if den < 2 * remainder then quotient + 1
  else if quotient % 2 = 0 then quotient
  else quotient + 1

namespace Binary64

/-- How many binades above the first the quotient `num / den` lies, in units. -/
def binadeOf (num den : Nat) : Nat := Nat.log2 (num / den) - 52

/-- The rank nearest to `num / den` units. Within the binade the quotient is rounded to a
whole number of the binade's steps; a round up out of the binade lands on the first rank of
the next one, because ranks are counted through. -/
def rankOf (num den : Nat) : Nat :=
  roundDiv num (den <<< binadeOf num den) + binadeOf num den * ranksPerBinade

/-- The number nearest to `num / den` units, infinite where that is beyond the largest. -/
def ofQuotient (negative : Bool) (num den : Nat) : Binary64 := ofRank negative (rankOf num den)

end Binary64

end Timekeeper
