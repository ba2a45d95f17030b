import Timekeeper.Binary64.Rounding

/-!
# Arithmetic

Sum, product and quotient of binary64 numbers. Each finite result is the exact one, taken
from the exact `units` of the operands and rounded once.
-/

namespace Timekeeper

namespace Binary64

/-- How many units one is. -/
def unitsOfOne : Nat := 1 <<< 1074

/-- The number nearest to a signed count of units, where `zeroSign` is the sign of a sum
that comes out as nothing. -/
def ofUnits (zeroSign : Bool) (count : Int) : Binary64 :=
  if count = 0 then ofRank zeroSign 0
  else ofQuotient (decide (count < 0)) count.natAbs 1

/-- The exact value of a finite signed rank in units. -/
def signedUnits (negative : Bool) (rank : Nat) : Int :=
  if negative then -(units rank : Int) else units rank

/-- The sum. Infinities of opposite sign have none; a sum of two zeros is negative only if
both are, and other sums that vanish are positive zeros. -/
def add : Binary64 → Binary64 → Binary64
  | signed s r _, signed t q _ =>
    if r = infinityRank then
      if q = infinityRank ∧ s ≠ t then nan else ofRank s infinityRank
    else if q = infinityRank then ofRank t infinityRank
    else ofUnits (s && t) (signedUnits s r + signedUnits t q)
  | _, _ => nan

/-- The product. Zero times infinity has none. -/
def mul : Binary64 → Binary64 → Binary64
  | signed s r _, signed t q _ =>
    if r = infinityRank ∨ q = infinityRank then
      if r = 0 ∨ q = 0 then nan else ofRank (s != t) infinityRank
    else ofQuotient (s != t) (units r * units q) unitsOfOne
  | _, _ => nan

/-- The quotient. Zero by zero and infinity by infinity have none, and a quotient by zero
is infinite. -/
def div : Binary64 → Binary64 → Binary64
  | signed s r _, signed t q _ =>
    if r = infinityRank then
      if q = infinityRank then nan else ofRank (s != t) infinityRank
    else if q = infinityRank then ofRank (s != t) 0
    else if q = 0 then
      if r = 0 then nan else ofRank (s != t) infinityRank
    else ofQuotient (s != t) (units r * unitsOfOne) (units q)
  | _, _ => nan

instance : Add Binary64 := ⟨add⟩

instance : Mul Binary64 := ⟨mul⟩

instance : Div Binary64 := ⟨div⟩

/-- The number nearest to a natural number. -/
def ofNat (n : Nat) : Binary64 := ofQuotient false (n * unitsOfOne) 1

/-- The sum of a list from left to right. The empty sum is the negative zero, the one
number that leaves every other unchanged when added to it. -/
def sum (xs : List Binary64) : Binary64 := xs.foldl (· + ·) negativeZero

end Binary64

end Timekeeper
