import Timekeeper.Bench.Stream

/-!
# Sums

The arithmetic of the command language: whole numbers of 64 bits, variables, and the operators
of C with their ranks. A **sum** is read into a tree first, so that the side of a condition
that is not taken is never worked out.
-/

namespace Timekeeper

namespace Bench

/-- A sum. -/
inductive Sum where
  | number (n : Int)
  | variable (name : Octets)
  | unary (operator : Octets) (body : Sum)
  | binary (operator : Octets) (left right : Sum)
  | choose (test yes no : Sum)
  | assign (name operator : Octets) (body : Sum)

/-- Why a sum has no value. -/
inductive SumError where
  /-- A number, a name or a bracket is missing. -/
  | primary
  /-- Something follows the sum. -/
  | rest
  /-- A closing bracket is missing. -/
  | bracket
  /-- A colon is missing. -/
  | colon
  | divisionByZero
  /-- A variable holds no number. -/
  | illegal (value : Octets)
deriving DecidableEq

/-- A sign, a number or a name in a sum. -/
inductive SumToken where
  | number (n : Int)
  | name (text : Octets)
  | sign (text : Octets)
deriving DecidableEq

namespace Sum

/-- Whether an octet can begin a name. -/
def isNameStart (c : Char) : Bool := c.isAlpha || c = '_'

/-- Whether an octet can continue a name. -/
def isNameRest (c : Char) : Bool := c.isAlphanum || c = '_'

/-- The worth of a digit. -/
def digitValue (c : Char) : Nat :=
  if c.isDigit then c.toNat - '0'.toNat
  else if 'a' ≤ c && c ≤ 'z' then c.toNat - 'a'.toNat + 10
  else if 'A' ≤ c && c ≤ 'Z' then c.toNat - 'A'.toNat + 10
  else 99

/-- The number that digits write in a base, and what follows them. -/
def digits (base : Nat) : Nat → Octets → Nat × Octets
  | n, [] => (n, [])
  | n, c :: rest => if digitValue c < base then digits base (n * base + digitValue c) rest
    else (n, c :: rest)

/-- A number with the mark of its base, and what follows it. -/
def numeral (octets : Octets) : Nat × Octets :=
  match octets with
  | '0' :: 'x' :: rest => digits 16 0 rest
  | '0' :: 'X' :: rest => digits 16 0 rest
  | '0' :: rest => digits 8 0 rest
  | _ => digits 10 0 octets

/-- The signs, longer ones first. -/
def signs : List Octets :=
  ["<<=", ">>=", "||", "&&", "==", "!=", "<=", ">=", "<<", ">>", "+=", "-=", "*=", "/=", "%=",
    "&=", "|=", "^=", "+", "-", "*", "/", "%", "<", ">", "=", "&", "|", "^", "!", "~", "?", ":",
    "(", ")"].map String.toList

/-- The tokens of a sum. -/
def tokens : Nat → Octets → Except SumError (List SumToken)
  | 0, _ => .ok []
  | _, [] => .ok []
  | fuel + 1, c :: rest =>
    if c = ' ' || c = '\t' || c = '\n' then tokens fuel rest
    else if c.isDigit then
      let (n, rest') := numeral (c :: rest)
      (tokens fuel rest').map (SumToken.number n :: ·)
    else if isNameStart c then
      let name := (c :: rest).takeWhile isNameRest
      (tokens fuel ((c :: rest).drop name.length)).map (SumToken.name name :: ·)
    else
      let sign := (signs.find? (·.isPrefixOf (c :: rest))).getD [c]
      (tokens fuel ((c :: rest).drop sign.length)).map (SumToken.sign sign :: ·)

/-- The operators between two sums by rank, the weakest first. -/
def ranks : List (List Octets) :=
  [["||"], ["&&"], ["|"], ["^"], ["&"], ["==", "!="], ["<=", ">=", "<", ">"], ["<<", ">>"],
    ["+", "-"], ["*", "/", "%"]].map fun rank => rank.map String.toList

/-- The signs that assign, with the operator that each applies. -/
def assignments : List (Octets × Octets) :=
  [("=", ""), ("+=", "+"), ("-=", "-"), ("*=", "*"), ("/=", "/"), ("%=", "%"), ("<<=", "<<"),
    (">>=", ">>"), ("&=", "&"), ("|=", "|"), ("^=", "^")].map fun (a, b) => (a.toList, b.toList)

mutual

/-- Reads an assignment or a choice. -/
def readTop : Nat → List SumToken → Except SumError (Sum × List SumToken)
  | 0, _ => .error .primary
  | fuel + 1, tokens => do
    match tokens with
    | .name name :: .sign sign :: rest =>
      match assignments.lookup sign with
      | some operator =>
        let (body, rest') ← readTop fuel rest
        return (.assign name operator body, rest')
      | none => readChoice fuel tokens
    | _ => readChoice fuel tokens

/-- Reads a choice between two sums, or one sum. -/
def readChoice : Nat → List SumToken → Except SumError (Sum × List SumToken)
  | 0, _ => .error .primary
  | fuel + 1, tokens => do
    let (test, rest) ← readRank fuel ranks tokens
    match rest with
    | .sign ['?'] :: rest =>
      let (yes, rest) ← readTop fuel rest
      match rest with
      | .sign [':'] :: rest =>
        let (no, rest) ← readChoice fuel rest
        return (.choose test yes no, rest)
      | _ => throw .colon
    | _ => return (test, rest)

/-- Reads a sum of operators of some ranks. -/
def readRank : Nat → List (List Octets) → List SumToken → Except SumError (Sum × List SumToken)
  | 0, _, _ => .error .primary
  | fuel + 1, [], tokens => readUnary fuel tokens
  | fuel + 1, rank :: higher, tokens => do
    let (left, rest) ← readRank fuel higher tokens
    readMore fuel rank higher left rest

/-- Reads further operators of one rank. -/
def readMore : Nat → List Octets → List (List Octets) → Sum → List SumToken →
    Except SumError (Sum × List SumToken)
  | 0, _, _, _, _ => .error .primary
  | fuel + 1, rank, higher, left, tokens => do
    match tokens with
    | .sign sign :: rest =>
      if rank.contains sign then
        let (right, rest) ← readRank fuel higher rest
        readMore fuel rank higher (.binary sign left right) rest
      else return (left, tokens)
    | _ => return (left, tokens)

/-- Reads a number, a name, a bracketed sum or a sign in front of one. -/
def readUnary : Nat → List SumToken → Except SumError (Sum × List SumToken)
  | 0, _ => .error .primary
  | fuel + 1, tokens => do
    match tokens with
    | .number n :: rest => return (.number n, rest)
    | .name name :: rest => return (.variable name, rest)
    | .sign ['('] :: rest =>
      let (body, rest) ← readTop fuel rest
      match rest with
      | .sign [')'] :: rest => return (body, rest)
      | _ => throw .bracket
    | .sign sign :: rest =>
      if [['-'], ['+'], ['!'], ['~']].contains sign then
        let (body, rest) ← readUnary fuel rest
        return (.unary sign body, rest)
      else throw .primary
    | [] => throw .primary

end

/-- Reads a whole sum; nothing is worth zero. -/
def read (octets : Octets) : Except SumError Sum := do
  let tokens ← tokens (octets.length + 1) octets
  if tokens.isEmpty then return .number 0
  let (sum, rest) ← readTop (32 * tokens.length + 32) tokens
  if rest.isEmpty then return sum else throw .rest

/-! ### Values -/

/-- How many values a word of 64 bits has. -/
def wordRange : Nat := 18446744073709551616

/-- A whole number within 64 bits. -/
def wrap (n : Int) : Int := n.bmod wordRange

/-- One for what holds and zero for what does not. -/
def truth (b : Bool) : Int := if b then 1 else 0

/-- The bits of a number. -/
def bits (n : Int) : Nat := (n.emod wordRange).toNat

/-- The value of an operator between two numbers. -/
def apply (operator : Octets) (a b : Int) : Except SumError Int :=
  match String.ofList operator with
  | "+" => .ok (wrap (a + b))
  | "-" => .ok (wrap (a - b))
  | "*" => .ok (wrap (a * b))
  | "/" => if b = 0 then .error .divisionByZero else .ok (wrap (a.tdiv b))
  | "%" => if b = 0 then .error .divisionByZero else .ok (a.tmod b)
  | "<" => .ok (truth (a < b))
  | ">" => .ok (truth (b < a))
  | "<=" => .ok (truth (a ≤ b))
  | ">=" => .ok (truth (b ≤ a))
  | "==" => .ok (truth (a = b))
  | "!=" => .ok (truth (a ≠ b))
  | "&" => .ok (wrap (bits a &&& bits b : Nat))
  | "|" => .ok (wrap (bits a ||| bits b : Nat))
  | "^" => .ok (wrap (bits a ^^^ bits b : Nat))
  | "<<" => .ok (wrap (a * (1 <<< (bits b % 64) : Nat)))
  | ">>" => .ok (a.fdiv (1 <<< (bits b % 64) : Nat))
  | _ => .ok b

/-- The number that a variable holds: zero if it holds nothing. -/
def valueOf (value : Octets) : Except SumError Int :=
  let trimmed := value.dropWhile fun c => c = ' ' || c = '\t' || c = '\n'
  let (negative, body) :=
    match trimmed with
    | '-' :: rest => (true, rest)
    | '+' :: rest => (false, rest)
    | _ => (false, trimmed)
  if trimmed.isEmpty then .ok 0
  else
    match body with
    | c :: _ =>
      let (n, rest) := numeral body
      if c.isDigit && rest.all (fun c => c = ' ' || c = '\t' || c = '\n') then
        .ok (wrap (if negative then -(n : Int) else n))
      else .error (.illegal value)
    | [] => .error (.illegal value)

/-- Variables by name, the last set first. -/
abbrev Values := List (Octets × Octets)

/-- The value of a sum, and the variables behind it. -/
def value : Sum → Values → Except SumError (Int × Values)
  | number n, v => .ok (wrap n, v)
  | .variable name, v => do return (← valueOf ((v.lookup name).getD []), v)
  | unary operator body, v => do
    let (n, v) ← value body v
    match operator with
    | ['-'] => return (wrap (-n), v)
    | ['!'] => return (truth (n = 0), v)
    | ['~'] => return (wrap (-n - 1), v)
    | _ => return (n, v)
  | binary operator left right, v => do
    let (a, v) ← value left v
    if operator = ['|', '|'] then
      if a ≠ 0 then return (1, v)
      let (b, v) ← value right v
      return (truth (b ≠ 0), v)
    else if operator = ['&', '&'] then
      if a = 0 then return (0, v)
      let (b, v) ← value right v
      return (truth (b ≠ 0), v)
    else
      let (b, v) ← value right v
      return (← apply operator a b, v)
  | choose test yes no, v => do
    let (n, v) ← value test v
    if n ≠ 0 then value yes v else value no v
  | assign name operator body, v => do
    let (n, v) ← value body v
    let old ← if operator.isEmpty then pure 0 else valueOf ((v.lookup name).getD [])
    let new ← apply operator old n
    return (new, (name, signedDecimal new) :: v)

end Sum

end Bench

end Timekeeper
