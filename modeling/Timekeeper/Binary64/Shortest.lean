import Timekeeper.Binary64.Decimal
import Timekeeper.Binary64.Fixed

/-!
# Shortest digits

The shortest decimal that reads back as a given number, and of several the nearest. For each
count of digits the two neighbours of the number on that decimal grid are tried, so the
first grid with a hit has the fewest digits.
-/

namespace Timekeeper

namespace Binary64

/-- A power of ten as a quotient of natural numbers. -/
def tenPower (exponent : Int) : Nat × Nat :=
  if 0 ≤ exponent then (powerOfTen exponent.toNat, 1) else (1, powerOfTen (-exponent).toNat)

/-- Whether `coefficient · 10 ^ exponent` rounds to a rank. -/
def readsBack (rank coefficient : Nat) (exponent : Int) : Bool :=
  let (num, den) := tenPower exponent
  coefficient != 0 && rankOf (coefficient * num * unitsOfOne) den == rank

/-- The power of ten in front of the first digit: the largest that is not above the number, or
one beside it. -/
def leadingExponent (rank : Nat) : Int :=
  ((Nat.log2 (units rank) : Int) - 1074) * 30103 / 100000

/-- The decimal of one grid that reads back and lies nearest to the number. -/
def gridHit? (rank : Nat) (exponent : Int) : Option Nat :=
  let (num, den) := tenPower exponent
  -- the number is `units rank * den / (unitsOfOne * num)` steps of the grid
  let top := units rank * den
  let step := unitsOfOne * num
  let below := top / step
  let hits := [below, below + 1].filter fun n => readsBack rank n exponent
  match hits with
  | [] => none
  | [n] => some n
  | low :: high :: _ =>
    let remainder := top % step
    if 2 * remainder < step then some low
    else if step < 2 * remainder then some high
    else if low % 2 = 0 then some low
    else some high

/-- Tries finer and finer grids, each a tenth of the one before. -/
def shortestFrom (rank : Nat) : Nat → Int → Nat × Int
  | 0, exponent => (0, exponent)
  | tries + 1, exponent =>
    match gridHit? rank exponent with
    | some n => (n, exponent)
    | none => shortestFrom rank tries (exponent - 1)

/-- Drops the zeros at the end of a coefficient. -/
def dropZeros : Nat → Nat × Int → Nat × Int
  | 0, d => d
  | tries + 1, (n, e) =>
    if n ≠ 0 ∧ n % 10 = 0 then dropZeros tries (n / 10, e + 1) else (n, e)

/-- The coefficient and exponent of the shortest decimal of a finite rank above zero. -/
def shortestDecimal (rank : Nat) : Nat × Int :=
  dropZeros 20 (shortestFrom rank 20 (leadingExponent rank + 1))

/-- A number with the fewest digits that read back: positional with a point while the point
falls within or near the digits, and with a signed power of ten otherwise. -/
def shortest : Binary64 → List Char
  | nan => ['N', 'a', 'N']
  | signed negative rank _ =>
    (if negative then ['-'] else []) ++
      if rank = infinityRank then ['i', 'n', 'f']
      else if rank = 0 then ['0', '.', '0']
      else
        let (n, e) := shortestDecimal rank
        let ds := digits n
        let point : Int := ds.length + e
        if 0 ≤ e ∧ point ≤ 16 then ds ++ List.replicate e.toNat '0' ++ ['.', '0']
        else if 0 < point ∧ point ≤ 16 then
          ds.take point.toNat ++ ['.'] ++ ds.drop point.toNat
        else if -5 < point ∧ point ≤ 0 then
          ['0', '.'] ++ List.replicate (-point).toNat '0' ++ ds
        else
          let power := point - 1
          let tail := ['e'] ++ [if power < 0 then '-' else '+'] ++ digits power.natAbs
          match ds with
          | [d] => d :: tail
          | d :: more => d :: '.' :: more ++ tail
          | [] => tail

end Binary64

end Timekeeper
