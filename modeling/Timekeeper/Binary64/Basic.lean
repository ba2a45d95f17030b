/-!
# Binary64 numbers

A binary64 number is kept as a sign and a **rank**: the place of its magnitude in the
increasing list of all magnitudes, `0` for zero, `1` for the least subnormal, and
`infinityRank` for infinity. The rank is also the number that the lower 63 bits of the
interchange format spell, so order, equality and encoding are all read off one natural
number, and no floating point operation of the machine is involved.

`units` gives the exact value behind a rank, counted in units of `2⁻¹⁰⁷⁴`, the least
positive magnitude. Every finite magnitude is a natural number of these units, so exact
sums, products and comparisons are sums, products and comparisons of natural numbers.
-/

namespace Timekeeper

namespace Binary64

/-- The rank of infinity, one above the largest finite magnitude. -/
def infinityRank : Nat := 0x7ff0000000000000

/-- How many ranks share one power of two. -/
def ranksPerBinade : Nat := 0x10000000000000

end Binary64

/-- A **binary64 number**: not a number, or a sign with the rank of the magnitude. -/
inductive Binary64 where
  | nan
  | signed (negative : Bool) (rank : Nat) (rank_le : rank ≤ Binary64.infinityRank)
deriving DecidableEq

namespace Binary64

/-- A number by its sign and rank; ranks above the last are infinity. -/
def ofRank (negative : Bool) (rank : Nat) : Binary64 :=
  .signed negative (min rank infinityRank) (Nat.min_le_right _ _)

def zero : Binary64 := ofRank false 0

def negativeZero : Binary64 := ofRank true 0

def one : Binary64 := ofRank false 0x3ff0000000000000

def infinity : Binary64 := ofRank false infinityRank

instance : Inhabited Binary64 := ⟨zero⟩

/-- The exact magnitude of a rank in units of `2⁻¹⁰⁷⁴`: the ranks of the first binade
count the units themselves, and from the second binade on each further one doubles the
step. -/
def units (rank : Nat) : Nat :=
  if rank < ranksPerBinade then rank
  else (ranksPerBinade + rank % ranksPerBinade) <<< (rank / ranksPerBinade - 1)

/-- A number that is neither infinite nor absent. -/
def isFinite : Binary64 → Bool
  | nan => false
  | signed _ rank _ => rank < infinityRank

/-! ### Order -/

/-- The place of a signed rank on the line, where both zeros share the place `0`. -/
def place (negative : Bool) (rank : Nat) : Int :=
  if negative then -(rank : Int) else rank

/-- The numeric order. Nothing is below or above what is not a number. -/
def lt : Binary64 → Binary64 → Bool
  | signed s r _, signed t q _ => decide (place s r < place t q)
  | _, _ => false

/-- The numeric order with equality. -/
def le : Binary64 → Binary64 → Bool
  | signed s r _, signed t q _ => decide (place s r ≤ place t q)
  | _, _ => false

/-- Numeric equality: both zeros are equal, and what is not a number equals nothing. -/
def eq : Binary64 → Binary64 → Bool
  | signed s r _, signed t q _ => place s r == place t q
  | _, _ => false

/-- The place in the **total order**, in which the negative zero stands below the positive
one and what is not a number stands above infinity. -/
def totalPlace : Binary64 → Int
  | nan => infinityRank + 1
  | signed false rank _ => rank
  | signed true rank _ => -(rank : Int) - 1

/-- The total order, the one by which lists of totals are sorted. -/
def totalLe (a b : Binary64) : Bool := decide (a.totalPlace ≤ b.totalPlace)

/-- A number above zero. -/
def isPositive (a : Binary64) : Bool := zero.lt a

theorem totalLe_trans {a b c : Binary64} (hab : a.totalLe b = true) (hbc : b.totalLe c = true) :
    a.totalLe c = true := by
  simp only [totalLe, decide_eq_true_eq] at *
  exact Int.le_trans hab hbc

theorem totalLe_total (a b : Binary64) : (a.totalLe b || b.totalLe a) = true := by
  simp only [totalLe, Bool.or_eq_true, decide_eq_true_eq]
  exact Int.le_total _ _

/-- The bits of the interchange format: the sign above the rank. What is not a number has
many; the quiet one is given. -/
def bits : Binary64 → Nat
  | nan => 0x7ff8000000000000
  | signed negative rank _ => (if negative then 0x8000000000000000 else 0) + rank

end Binary64

end Timekeeper
