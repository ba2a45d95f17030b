import Timekeeper.Binary64.Arithmetic

/-!
# Fixed places

A number written with a fixed count of decimal places. The exact value is scaled to the last
place and rounded once to the nearest whole number, a tie going to the even one.
-/

namespace Timekeeper

namespace Binary64

/-- The magnitude of a rank, counted in units of the last decimal place. -/
def scaledDigits (places rank : Nat) : Nat := roundDiv (units rank * powerOfTen places) unitsOfOne

/-- The decimal digits of a natural number. -/
def digits (n : Nat) : List Char := Nat.toDigits 10 n

/-- A count of units of the last place with the point in its place. -/
def pointed (places n : Nat) : List Char :=
  let fraction := digits (n % powerOfTen places)
  digits (n / powerOfTen places) ++ ['.'] ++
    List.replicate (places - fraction.length) '0' ++ fraction

/-- A number with a fixed count of places. The sign of a negative number is kept even where
all its digits are zero. -/
def fixed (places : Nat) : Binary64 → List Char
  | nan => ['N', 'a', 'N']
  | signed negative rank _ =>
    (if negative then ['-'] else []) ++
      if rank = infinityRank then ['i', 'n', 'f'] else pointed places (scaledDigits places rank)

end Binary64

end Timekeeper
