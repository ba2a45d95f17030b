import Timekeeper.Bench.Sum
import Timekeeper.Bench.Utility.Searching

/-!
# Utilities that test and calculate

`test` tells by its exit status whether a condition on texts, numbers or files holds; `expr`
prints the value of an expression.
-/

namespace Timekeeper

namespace Bench

namespace Testing

/-- The files that a condition can ask about. -/
structure Files where
  tree : FileTree
  directory : Location

/-- Why a condition has no truth value. -/
inductive TestError where
  | illegalNumber (text : Octets)
  | unexpected (text : Octets)
  | missingOperand (operator : Octets)
  | expectedOperand
  | missingBracket
  | missingClosing
deriving DecidableEq

/-- The whole number of a text with blanks around it. -/
def number (text : Octets) : Except TestError Int :=
  let isBlank (c : Char) : Bool := c = ' ' || c = '\t' || c = '\n'
  let body := ((text.dropWhile isBlank).reverse.dropWhile isBlank).reverse
  match intOf? body with
  | some n => .ok n
  | none => .error (.illegalNumber text)

/-- Whether octets are a test of one operand. -/
def isUnary (text : Octets) : Bool :=
  match text with
  | ['-', c] => "bcdefghknprstuwxzGLOS".toList.contains c
  | _ => false

/-- The tests of two operands. -/
def binaries : List Octets :=
  ["=", "!=", "<", ">", "-eq", "-ne", "-lt", "-le", "-gt", "-ge", "-nt", "-ot", "-ef"].map
    String.toList

/-- Whether octets are a test of two operands; the installed programs have one more. -/
def isBinary (dialect : Dialect) (text : Octets) : Bool :=
  binaries.contains text || (dialect = .installed && text = ['=', '='])

/-- The value of a test of one operand. -/
def unary (files : Files) (operator operand : Octets) : Bool :=
  let path := Call.path operand
  let isDevice := path = "/dev/null" || path = "/dev/zero"
  let found := files.tree.find files.directory path
  match operator with
  | ['-', 'n'] => !operand.isEmpty
  | ['-', 'z'] => operand.isEmpty
  | ['-', 'd'] => files.tree.isDirectory files.directory path
  | ['-', 'f'] => files.tree.isFile files.directory path
  | ['-', 's'] =>
    match found with
    | .ok (_, .file content _) => !content.isEmpty
    | .ok (_, .directory) => true
    | .error _ => false
  | ['-', 'x'] =>
    match found with
    | .ok (_, .file _ executable) => executable
    | .ok (_, .directory) => true
    | .error _ => false
  | ['-', 'c'] => isDevice
  | ['-', c] =>
    if c = 'e' || c = 'r' || c = 'w' || c = 'O' || c = 'G' then
      isDevice || (match found with
        | .ok _ => true
        | .error _ => false)
    else false
  | _ => false

/-- The value of a test of two operands. -/
def binary (operator left right : Octets) : Except TestError Bool :=
  let compare (f : Int → Int → Bool) : Except TestError Bool := do
    let a ← number left
    let b ← number right
    return f a b
  match String.ofList operator with
  | "=" | "==" => .ok (left = right)
  | "!=" => .ok (left ≠ right)
  | "<" => .ok (left < right)
  | ">" => .ok (right < left)
  | "-eq" => compare fun a b => a = b
  | "-ne" => compare fun a b => a ≠ b
  | "-lt" => compare fun a b => a < b
  | "-le" => compare fun a b => a ≤ b
  | "-gt" => compare fun a b => b < a
  | "-ge" => compare fun a b => b ≤ a
  | "-ef" => .ok (left = right)
  | _ => .ok false

/-- Whether what looks like a test of one operand is an operand itself: nothing follows it, or a
test of two operands with something behind it. -/
def isOperand (dialect : Dialect) (following : List Octets) : Bool :=
  match following with
  | [] => true
  | [_] => false
  | next :: _ => isBinary dialect next

mutual

/-- Reads conditions of which one has to hold. -/
def anyOf (dialect : Dialect) (files : Files) :
    Nat → List Octets → Except TestError (Bool × List Octets)
  | 0, _ => .error .expectedOperand
  | fuel + 1, arguments => do
    let (first, rest) ← allOf dialect files fuel arguments
    match rest with
    | last :: ['-', 'o'] :: more =>
      if more.isEmpty then return (first, [last])
      let (second, rest) ← anyOf dialect files fuel more
      return (first || second, rest)
    | _ => return (first, rest)

/-- Reads conditions that all have to hold. -/
def allOf (dialect : Dialect) (files : Files) :
    Nat → List Octets → Except TestError (Bool × List Octets)
  | 0, _ => .error .expectedOperand
  | fuel + 1, arguments => do
    let (first, rest) ← negation dialect files fuel arguments
    match rest with
    | last :: ['-', 'a'] :: more =>
      if more.isEmpty then return (false, [last])
      let (second, rest) ← allOf dialect files fuel more
      return (first && second, rest)
    | _ => return (first, rest)

/-- Reads a condition that can be negated. -/
def negation (dialect : Dialect) (files : Files) : Nat → List Octets →
    Except TestError (Bool × List Octets)
  | 0, _ => .error .expectedOperand
  | fuel + 1, arguments =>
    match arguments with
    | ['!'] :: rest =>
      if rest.isEmpty then .ok (true, arguments)
      else do
        let (value, rest) ← negation dialect files fuel rest
        return (!value, rest)
    | _ => primary dialect files fuel arguments

/-- Reads one condition. What is left begins with the last argument read. -/
def primary (dialect : Dialect) (files : Files) : Nat → List Octets →
    Except TestError (Bool × List Octets)
  | 0, _ => .error .expectedOperand
  | fuel + 1, arguments =>
    match arguments with
    | [] => .ok (false, [])
    | first :: rest =>
      if first = ['('] && !rest.isEmpty then
        if rest.head? = some [')'] then .ok (false, rest)
        else do
          let (value, rest) ← anyOf dialect files fuel rest
          match rest with
          | _ :: [')'] :: more => return (value, [')'] :: more)
          | _ => throw .missingClosing
      else if isUnary first && !isOperand dialect rest then
        match rest with
        | operand :: _ => .ok (unary files first operand, rest)
        | [] => .error (.missingOperand first)
      else
        match rest with
        | operator :: more =>
          if isBinary dialect operator then
            match more with
            | right :: _ => do return (← binary operator first right, more)
            | [] => .error (.missingOperand operator)
          else .ok (!first.isEmpty, arguments)
        | [] => .ok (!first.isEmpty, arguments)

end

/-- Whether a condition holds. Without arguments none does; of three and four arguments some
forms are looked for first. -/
def holds (dialect : Dialect) (files : Files) : Nat → List Octets → Except TestError Bool
  | 0, _ => .ok false
  | fuel + 1, arguments =>
    let whole (arguments : List Octets) : Except TestError Bool := do
      let (value, rest) ← anyOf dialect files (8 * arguments.length + 8) arguments
      match rest with
      | last :: _ :: _ => throw (.unexpected last)
      | _ => return value
    let special := arguments.length = 3 || arguments.length = 4
    match arguments with
    | [] => .ok false
    | [left, operator, right] =>
      if isBinary dialect operator then binary operator left right
      else if left = ['('] && right = [')'] then whole [operator]
      else if left = ['!'] then (holds dialect files fuel [operator, right]).map (!·)
      else whole arguments
    | first :: rest =>
      if special && first = ['('] && rest.getLast? = some [')'] then whole rest.dropLast
      else if special && first = ['!'] then (holds dialect files fuel rest).map (!·)
      else whole arguments

/-- The arguments of a condition between brackets. -/
def bracketed (arguments : List Octets) : Except TestError (List Octets) :=
  if arguments.getLast? = some [']'] then .ok arguments.dropLast else .error .missingBracket

/-- What the command language says about a condition without truth value. -/
def builtInText : TestError → Octets
  | .illegalNumber text => "Illegal number: ".toList ++ text
  | .unexpected text => text ++ ": unexpected operator".toList
  | .missingOperand operator => operator ++ ": argument expected".toList
  | .expectedOperand => "argument expected".toList
  | .missingBracket => "missing ]".toList
  | .missingClosing => "closing paren expected".toList

/-- What the installed programs say about a condition without truth value. -/
def installedText : TestError → Octets
  | .illegalNumber text => "invalid integer ".toList ++ Call.quoteAlways text
  | .unexpected text => "extra argument ".toList ++ Call.quoteAlways text
  | .missingOperand operator => "missing argument after ".toList ++ Call.quoteAlways operator
  | .expectedOperand => "argument expected".toList
  | .missingBracket => "missing ']'".toList
  | .missingClosing => "')' expected".toList

end Testing

namespace Utility

/-- The installed `test`. -/
def test : Utility := fun c =>
  match Testing.holds .installed ⟨c.tree, c.directory⟩ (c.arguments.length + 1) c.arguments with
  | .ok value => c.effect (if value then 0 else 1) []
  | .error e => c.fail 2 (Testing.installedText e)

/-- The installed test between brackets. -/
def bracket : Utility := fun c =>
  match Testing.bracketed c.arguments with
  | .ok arguments => test { c with arguments := arguments }
  | .error e => c.fail 2 (Testing.installedText e)

/-! ### Expressions -/

/-- Why an expression has no value. -/
inductive ExprError where
  | misspelt (text : String)
  | nonInteger
  | divisionByZero

/-- A whole number, or what is wrong. -/
def exprNumber (text : Octets) : Except ExprError Int :=
  match text with
  | '+' :: _ => .error .nonInteger
  | _ =>
    match intOf? text with
    | some n => .ok n
    | none => .error .nonInteger

/-- Whether a value counts as nothing. -/
def isNothing (text : Octets) : Bool := text.isEmpty || intOf? text = some 0

/-- The operators between two expressions by rank, the weakest first. -/
def exprRanks : List (List String) :=
  [["|"], ["&"], ["<", "<=", "=", "==", "!=", ">=", ">"], ["+", "-"], ["*", "/", "%"], [":"]]

/-- The part of a text that a pattern matches from its beginning on, or its length. -/
def matchLength (text pattern : Octets) : Octets :=
  match planOf? ⟨false, false⟩ pattern with
  | none => ['0']
  | some plan =>
    match plan.captures? (.ofText text) with
    | none => if (pattern.zip (pattern.drop 1)).contains ('\\', '(') then [] else ['0']
    | some captures =>
      match captures.text? (groupName 1) with
      | some group => group
      | none => decimal ((captures.text? (groupName 0)).getD []).length

/-- The value of an operator between two values. -/
def exprApply (operator : String) (a b : Octets) : Except ExprError Octets := do
  let truth (v : Bool) : Octets := if v then ['1'] else ['0']
  let compare (f : Int → Int → Bool) (g : Octets → Octets → Bool) : Octets :=
    match intOf? a, intOf? b with
    | some m, some n => truth (f m n)
    | _, _ => truth (g a b)
  match operator with
  | "|" => return if isNothing a then (if isNothing b then ['0'] else b) else a
  | "&" => return if isNothing a || isNothing b then ['0'] else a
  | "<" => return compare (fun m n => m < n) fun x y => x < y
  | "<=" => return compare (fun m n => m ≤ n) fun x y => !(y < x)
  | "=" | "==" => return compare (fun m n => m = n) fun x y => x = y
  | "!=" => return compare (fun m n => m ≠ n) fun x y => x ≠ y
  | ">=" => return compare (fun m n => n ≤ m) fun x y => !(x < y)
  | ">" => return compare (fun m n => n < m) fun x y => y < x
  | ":" => return matchLength a b
  | _ =>
    let m ← exprNumber a
    let n ← exprNumber b
    match operator with
    | "+" => return signedDecimal (m + n)
    | "-" => return signedDecimal (m - n)
    | "*" => return signedDecimal (m * n)
    | "/" => if n = 0 then throw .divisionByZero else return signedDecimal (m.tdiv n)
    | _ => if n = 0 then throw .divisionByZero else return signedDecimal (m.tmod n)

mutual

/-- Reads an expression of operators of some ranks. -/
def exprRank : Nat → List (List String) → List Octets → Except ExprError (Octets × List Octets)
  | 0, _, _ => .error (.misspelt "syntax error")
  | fuel + 1, [], arguments => exprPrimary fuel arguments
  | fuel + 1, rank :: higher, arguments => do
    let (left, rest) ← exprRank fuel higher arguments
    exprMore fuel rank higher left rest

/-- Reads further operators of one rank. -/
def exprMore : Nat → List String → List (List String) → Octets → List Octets →
    Except ExprError (Octets × List Octets)
  | 0, _, _, _, _ => .error (.misspelt "syntax error")
  | fuel + 1, rank, higher, left, arguments =>
    match arguments with
    | operator :: rest =>
      if rank.contains (String.ofList operator) then do
        let (right, rest) ← exprRank fuel higher rest
        exprMore fuel rank higher (← exprApply (String.ofList operator) left right) rest
      else .ok (left, arguments)
    | [] => .ok (left, [])

/-- Reads an operand. -/
def exprPrimary : Nat → List Octets → Except ExprError (Octets × List Octets)
  | 0, _ => .error (.misspelt "syntax error")
  | fuel + 1, arguments =>
    match arguments with
    | [] => .error (.misspelt "syntax error: missing argument")
    | ['('] :: rest => do
      let (value, rest) ← exprRank fuel exprRanks rest
      match rest with
      | [')'] :: rest => return (value, rest)
      | _ => throw (.misspelt "syntax error: expecting ')'")
    | first :: rest =>
      match String.ofList first, rest with
      | "length", text :: rest => .ok (decimal text.length, rest)
      | "match", text :: pattern :: rest => .ok (matchLength text pattern, rest)
      | "index", text :: set :: rest =>
        .ok (decimal (match text.findIdx? set.contains with
          | some i => i + 1
          | none => 0), rest)
      | "substr", text :: position :: length :: rest =>
        match natOf? position, natOf? length with
        | some (p + 1), some n => .ok ((text.drop p).take n, rest)
        | _, _ => .ok ([], rest)
      | _, _ => .ok (first, rest)

end

/-- Prints the value of an expression. -/
def expr : Utility := fun c =>
  let arguments := if c.arguments.head? = some ['-', '-'] then c.arguments.drop 1 else c.arguments
  if arguments.isEmpty then c.missingOperand 2
  else
    match exprRank (16 * arguments.length + 32) exprRanks arguments with
    | .ok (value, []) => c.effect (if isNothing value then 1 else 0) [(.output, value ++ ['\n'])]
    | .ok (_, text :: _) =>
      c.fail 2 ("syntax error: unexpected argument ".toList ++ Call.quoteAlways text)
    | .error (.misspelt text) => c.fail 2 text.toList
    | .error .nonInteger => c.fail 2 "non-integer argument".toList
    | .error .divisionByZero => c.fail 2 "division by zero".toList

end Utility

end Bench

end Timekeeper
