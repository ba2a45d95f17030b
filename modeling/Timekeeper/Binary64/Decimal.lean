import Timekeeper.Binary64.Rounding
import Timekeeper.Binary64.Arithmetic

/-!
# Reading decimal literals

A **decimal** is a sign, a coefficient and a power of ten: the exact number that a literal
such as `-12.50e3` writes. `Decimal.read?` accepts digits with at most one point, at least
one digit on either side of it, and an optional complete exponent. `Decimal.nearest` rounds
the exact number once to the nearest binary64 number.
-/

namespace Timekeeper

/-- The exact number `± coefficient · 10 ^ exponent`. -/
structure Decimal where
  negative : Bool
  coefficient : Nat
  exponent : Int
deriving DecidableEq

namespace Decimal

/-- The number that a run of digits writes. -/
def ofDigits (digits : List Char) : Nat :=
  digits.foldl (fun n d => 10 * n + (d.toNat - '0'.toNat)) 0

/-- An optional sign and what follows it; the sign tells whether it is a minus. -/
def splitSign : List Char → Bool × List Char
  | '-' :: rest => (true, rest)
  | '+' :: rest => (false, rest)
  | text => (false, text)

/-- Whether a text is a run of digits, at least one. -/
def isDigits (text : List Char) : Bool := !text.isEmpty && text.all Char.isDigit

/-- The exponent part of a literal, zero if it has none. -/
def readExponent? : List Char → Option Int
  | [] => some 0
  | c :: rest =>
    if c = 'e' ∨ c = 'E' then
      let (negative, digits) := splitSign rest
      if isDigits digits then
        some (if negative then -(ofDigits digits : Int) else ofDigits digits)
      else none
    else none

/-- The digits before and after the point, and what follows them. -/
def splitPoint (text : List Char) : List Char × List Char × List Char :=
  let whole := text.takeWhile Char.isDigit
  match text.dropWhile Char.isDigit with
  | '.' :: rest => (whole, rest.takeWhile Char.isDigit, rest.dropWhile Char.isDigit)
  | rest => (whole, [], rest)

/-- Reads a whole text as a literal. -/
def read? (text : List Char) : Option Decimal :=
  let (negative, body) := splitSign text
  let (whole, fraction, rest) := splitPoint body
  if whole.isEmpty && fraction.isEmpty then none
  else
    (readExponent? rest).map fun exponent =>
      ⟨negative, ofDigits (whole ++ fraction), exponent - fraction.length⟩

/-! ### Rounding -/

/-- Powers of ten from here on are beyond the largest finite number. -/
def overflowExponent : Int := 400

/-- Numbers below this power of ten are nearer to zero than to any other number. -/
def underflowExponent : Int := -400

/-- The nearest binary64 number. The two bounds keep the powers of ten small: beyond them
the answer does not depend on the digits. -/
def nearest (d : Decimal) : Binary64 :=
  if d.coefficient = 0 then .ofRank d.negative 0
  else if overflowExponent < d.exponent then .ofRank d.negative Binary64.infinityRank
  else if d.exponent + (Nat.log2 d.coefficient / 3 + 1 : Nat) < underflowExponent then
    .ofRank d.negative 0
  else if 0 ≤ d.exponent then
    .ofQuotient d.negative (d.coefficient * powerOfTen d.exponent.toNat * Binary64.unitsOfOne) 1
  else
    .ofQuotient d.negative (d.coefficient * Binary64.unitsOfOne) (powerOfTen (-d.exponent).toNat)

end Decimal

namespace Binary64

/-- The number that a name without digits stands for. -/
def named? (negative : Bool) (name : List Char) : Option Binary64 :=
  match String.ofList (name.map Char.toLower) with
  | "inf" => some (.ofRank negative infinityRank)
  | "infinity" => some (.ofRank negative infinityRank)
  | "nan" => some .nan
  | _ => none

/-- Reads a number: a decimal literal, or the name of an infinity or of what is not a
number, in any case and with an optional sign. -/
def read? (text : List Char) : Option Binary64 :=
  match Decimal.read? text with
  | some d => some d.nearest
  | none =>
    let (negative, name) := Decimal.splitSign text
    named? negative name

end Binary64

end Timekeeper
