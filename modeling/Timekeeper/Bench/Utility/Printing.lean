import Timekeeper.Binary64.Decimal
import Timekeeper.Binary64.Fixed
import Timekeeper.Bench.Sum
import Timekeeper.Bench.Utility.Basic

/-!
# Utilities that print their arguments

Two dialects are spoken on the bench: the command language has `echo` and `printf` of its own,
which know fewer escapes and fewer options than the installed programs of these names.
-/

namespace Timekeeper

namespace Bench

/-- Which of two forms of a program is meant. -/
inductive Dialect where
  | builtIn
  | installed
deriving DecidableEq

namespace Printing

/-! ### Escapes -/

/-- The worth of a hexadecimal digit. -/
def hexValue (c : Char) : Nat :=
  if c.isDigit then c.toNat - '0'.toNat else c.toLower.toNat - 'a'.toNat + 10

/-- Whether an octet is a hexadecimal digit. -/
def isHex (c : Char) : Bool := c.isDigit || ('a' ≤ c.toLower && c.toLower ≤ 'f')

/-- Whether an octet is an octal digit. -/
def isOctal (c : Char) : Bool := '0' ≤ c && c ≤ '7'

/-- The number that digits write. -/
def numberOf (base : Nat) (digits : Octets) : Nat :=
  digits.foldl (fun n d => n * base + hexValue d) 0

/-- What an escape stands for behind its backslash, and how many octets it takes. -/
def escape (dialect : Dialect) (octets : Octets) : Octets × Nat :=
  match octets with
  | [] => (['\\'], 0)
  | c :: rest =>
    let octal := (octets.take 3).takeWhile isOctal
    if !octal.isEmpty then ([Octets.octet (numberOf 8 octal)], octal.length)
    else
      match c with
      | '\\' => (['\\'], 1)
      | 'a' => (['\x07'], 1)
      | 'b' => (['\x08'], 1)
      | 'f' => (['\x0c'], 1)
      | 'n' => (['\n'], 1)
      | 'r' => (['\r'], 1)
      | 't' => (['\t'], 1)
      | 'v' => (['\x0b'], 1)
      | _ =>
        if dialect = .builtIn then (['\\'], 0)
        else
          match c with
          | 'e' => (['\x1b'], 1)
          | '"' => (['"'], 1)
          | 'x' =>
            let digits := (rest.take 2).takeWhile isHex
            if digits.isEmpty then (['\\', 'x'], 1)
            else ([Octets.octet (numberOf 16 digits)], digits.length + 1)
          | 'u' =>
            let digits := (rest.take 4).takeWhile isHex
            if digits.isEmpty then (['\\', 'u'], 1)
            else (Octets.encodeChar (.ofNat (numberOf 16 digits)), digits.length + 1)
          | d => (['\\', d], 1)

/-- A text with its escapes replaced, and whether it asks for the output to end. In such a text
an octal number begins with a zero. -/
def unescape (dialect : Dialect) : Nat → Octets → Octets → Octets × Bool
  | 0, read, rest => (read.reverse ++ rest, false)
  | _, read, [] => (read.reverse, false)
  | fuel + 1, read, '\\' :: rest =>
    match rest with
    | 'c' :: _ => (read.reverse, true)
    | '0' :: d :: _ =>
      if isOctal d then
        let (text, count) := escape dialect (rest.drop 1)
        unescape dialect fuel (text.reverse ++ read) (rest.drop (count + 1))
      else unescape dialect fuel ('\x00' :: read) (rest.drop 1)
    | c :: _ =>
      if dialect = .installed && isOctal c && c ≠ '0' then
        unescape dialect fuel (c :: '\\' :: read) (rest.drop 1)
      else
        let (text, count) := escape dialect rest
        unescape dialect fuel (text.reverse ++ read) (rest.drop count)
    | [] => (('\\' :: read).reverse, false)
  | fuel + 1, read, c :: rest => unescape dialect fuel (c :: read) rest

/-- A text with its escapes replaced. -/
def unescaped (dialect : Dialect) (text : Octets) : Octets × Bool :=
  unescape dialect (text.length + 1) [] text

/-! ### Echo -/

/-- Arguments joined by spaces with their escapes replaced, up to one that asks for the end. -/
def joinEscaped (dialect : Dialect) : List Octets → Octets × Bool
  | [] => ([], false)
  | [last] => unescaped dialect last
  | first :: rest =>
    match unescaped dialect first with
    | (text, true) => (text, true)
    | (text, false) =>
      let (more, ended) := joinEscaped dialect rest
      (text ++ ' ' :: more, ended)

/-- What `echo` of the command language prints. -/
def echoBuiltIn (arguments : List Octets) : Octets :=
  let (quiet, arguments) :=
    match arguments with
    | ['-', 'n'] :: rest => (true, rest)
    | _ => (false, arguments)
  let (text, ended) := joinEscaped .builtIn arguments
  text ++ if quiet || ended then [] else ['\n']

/-- What the installed `echo` prints: letters behind a dash are options if all of them are. -/
def echoInstalled (quiet escapes : Bool) : List Octets → Octets
  | [] => if quiet then [] else ['\n']
  | argument :: rest =>
    match argument with
    | '-' :: c :: more =>
      if (c :: more).all fun d => d = 'n' || d = 'e' || d = 'E' then
        echoInstalled (quiet || (c :: more).contains 'n')
          ((c :: more).foldl (fun e d => if d = 'e' then true else if d = 'E' then false else e)
            escapes) rest
      else finish argument rest
    | _ => finish argument rest
where
  /-- The text of the arguments behind the options. -/
  finish (argument : Octets) (rest : List Octets) : Octets :=
    if escapes then
      let (text, ended) := joinEscaped .installed (argument :: rest)
      text ++ if quiet || ended then [] else ['\n']
    else joinWith [' '] (argument :: rest) ++ if quiet then [] else ['\n']

/-! ### Printf -/

/-- A conversion: its flags, width, precision and letter. An asterisk is written as nothing
with the mark set. -/
structure Conversion where
  flags : Octets
  width : Option Nat
  widthGiven : Bool
  precision : Option Nat
  precisionGiven : Bool
  letter : Char

/-- What remains while a format is carried out: the arguments left, what was printed (the last
first), the complaints, whether the output was asked to end, and whether the format
is misspelt. -/
structure Progress where
  arguments : List Octets
  used : Bool
  printed : Octets
  complaints : List Octets
  ended : Bool
  failed : Bool

/-- A text brought to the width of a conversion. -/
def fit (flags : Octets) (width : Nat) (text : Octets) : Octets :=
  let gap := width - text.length
  if flags.contains '-' then text ++ List.replicate gap ' ' else List.replicate gap ' ' ++ text

/-- Digits with sign and padding. -/
def fitNumber (c : Conversion) (width : Nat) (negative : Bool) (mark digits : Octets) : Octets :=
  let digits :=
    match c.precision with
    | some p => List.replicate (p - digits.length) '0' ++ digits
    | none => digits
  let sign :=
    if negative then ['-'] else if c.flags.contains '+' then ['+']
    else if c.flags.contains ' ' then [' '] else []
  let body := sign ++ mark ++ digits
  if c.flags.contains '0' && !c.flags.contains '-' && c.precision.isNone then
    sign ++ mark ++ List.replicate (width - body.length) '0' ++ digits
  else fit c.flags width body

/-- The whole number that an argument writes, and what is wrong with it: that it is only partly
a number, or not at all. -/
def wholeOf (argument : Octets) : Int × Option Bool :=
  let trimmed := argument.dropWhile fun c => c = ' ' || c = '\t'
  match trimmed with
  | '\'' :: c :: _ => (c.toNat, none)
  | '"' :: c :: _ => (c.toNat, none)
  | _ =>
    let (negative, body) :=
      match trimmed with
      | '-' :: rest => (true, rest)
      | '+' :: rest => (false, rest)
      | _ => (false, trimmed)
    let (base, digits) :=
      match body with
      | '0' :: 'x' :: rest => (16, rest.takeWhile isHex)
      | '0' :: 'X' :: rest => (16, rest.takeWhile isHex)
      | '0' :: rest => (8, '0' :: rest.takeWhile isOctal)
      | _ => (10, body.takeWhile Char.isDigit)
    let marks := if base = 16 then 2 else 0
    let n : Int := numberOf base digits
    let value := if negative then -n else n
    if trimmed.isEmpty then (0, none)
    else if digits.isEmpty then (0, some false)
    else if digits.length + marks < body.length then (value, some true)
    else (value, none)

/-- Takes an argument. -/
def Progress.take (p : Progress) : Octets × Progress :=
  match p.arguments with
  | a :: rest => (a, { p with arguments := rest, used := true })
  | [] => ([], p)

/-- Prints a text. -/
def Progress.print (p : Progress) (text : Octets) : Progress :=
  { p with printed := text.reverse ++ p.printed }

/-- What is wrong with a number: it is none, or something follows it. -/
def misfit (dialect : Dialect) (argument : Octets) (partly : Bool) : Octets :=
  match dialect, partly with
  | .builtIn, false => argument ++ ": expected numeric value".toList
  | .builtIn, true => argument ++ ": not completely converted".toList
  | .installed, false => Call.quoteAlways argument ++ ": expected a numeric value".toList
  | .installed, true => Call.quoteAlways argument ++ ": value not completely converted".toList

/-- Takes a whole number, with a complaint if it is none. -/
def Progress.takeWhole (p : Progress) (dialect : Dialect) : Int × Progress :=
  let (argument, p) := p.take
  match wholeOf argument with
  | (n, none) => (n, p)
  | (n, some partly) =>
    (n, { p with complaints := p.complaints ++ [misfit dialect argument partly] })

/-- Carries out a conversion. -/
def convert (dialect : Dialect) (c : Conversion) (p : Progress) : Progress :=
  let (c, p) :=
    if c.widthGiven && c.width.isNone then
      let (n, p) := p.takeWhole dialect
      ({ c with
          width := some n.natAbs, flags := if n < 0 then '-' :: c.flags else c.flags }, p)
    else (c, p)
  let (c, p) :=
    if c.precisionGiven && c.precision.isNone then
      let (n, p) := p.takeWhole dialect
      ({ c with precision := if n < 0 then none else some n.toNat }, p)
    else (c, p)
  let width := c.width.getD 0
  match c.letter with
  | 's' =>
    let (a, p) := p.take
    p.print (fit c.flags width (a.take (c.precision.getD a.length)))
  | 'b' =>
    let (a, p) := p.take
    let (text, ended) := unescaped dialect a
    { p.print (fit c.flags width (text.take (c.precision.getD text.length))) with ended := ended }
  | 'c' =>
    let (a, p) := p.take
    p.print (fit c.flags width (a.take 1))
  | 'd' | 'i' =>
    let (n, p) := p.takeWhole dialect
    p.print (fitNumber c width (n < 0) [] (decimal n.natAbs))
  | 'u' =>
    let (n, p) := p.takeWhole dialect
    p.print (fitNumber { c with flags := c.flags.filter fun f => f ≠ '+' && f ≠ ' ' } width false []
      (decimal (Sum.bits n)))
  | 'o' =>
    let (n, p) := p.takeWhole dialect
    p.print (fitNumber { c with flags := c.flags.filter fun f => f ≠ '+' && f ≠ ' ' } width false
      (if c.flags.contains '#' then ['0'] else []) (Nat.toDigits 8 (Sum.bits n)))
  | 'x' | 'X' =>
    let (n, p) := p.takeWhole dialect
    let digits := Nat.toDigits 16 (Sum.bits n)
    let mark := if c.flags.contains '#' && n ≠ 0 then ['0', 'x'] else []
    let text := fitNumber { c with flags := c.flags.filter fun f => f ≠ '+' && f ≠ ' ' } width false
      mark digits
    p.print (if c.letter = 'X' then text.map Char.toUpper else text)
  | 'f' | 'F' =>
    let (a, p) := p.take
    let value := Binary64.read? a
    let p :=
      if value.isNone && !a.isEmpty then
        { p with complaints := p.complaints ++ [misfit dialect a false] }
      else p
    let text := Binary64.fixed (c.precision.getD 6) (value.getD .zero)
    let (negative, digits) :=
      match text with
      | '-' :: rest => (true, rest)
      | _ => (false, text)
    let digits := if c.precision = some 0 then digits.filter (· ≠ '.') else digits
    p.print (fitNumber { c with precision := none } width negative [] digits)
  | letter => p.print ['%', letter]

/-- Reads a conversion behind its percent sign, and what follows it. -/
def conversion? (octets : Octets) : Option (Conversion × Octets) :=
  let flags := octets.takeWhile fun c => "-+ #0".toList.contains c
  let rest := octets.drop flags.length
  let (width, widthGiven, rest) :=
    match rest with
    | '*' :: more => (none, true, more)
    | _ =>
      let digits := rest.takeWhile Char.isDigit
      (natOf? digits, false, rest.drop digits.length)
  let (precision, precisionGiven, rest) :=
    match rest with
    | '.' :: '*' :: more => (none, true, more)
    | '.' :: more =>
      let digits := more.takeWhile Char.isDigit
      (some ((natOf? digits).getD 0), false, more.drop digits.length)
    | _ => (none, false, rest)
  match rest with
  | letter :: after => some (⟨flags, width, widthGiven, precision, precisionGiven, letter⟩, after)
  | [] => none

/-- Carries out a format once. A conversion that does not exist ends it with a complaint. -/
def once (dialect : Dialect) : Nat → Octets → Progress → Progress
  | 0, _, p => p
  | _, [], p => p
  | fuel + 1, '\\' :: rest, p =>
    if rest.head? = some 'c' then { p with ended := true }
    else
      let (text, count) := escape dialect rest
      once dialect fuel (rest.drop count) (p.print text)
  | fuel + 1, '%' :: '%' :: rest, p => once dialect fuel rest (p.print ['%'])
  | fuel + 1, '%' :: rest, p =>
    match conversion? rest with
    | some (c, after) =>
      if "sbcdiuoxXfF".toList.contains c.letter then
        let p := convert dialect c p
        if p.ended then p else once dialect fuel after p
      else
        { p with
          complaints := p.complaints ++ ['%' :: c.letter :: ": invalid directive".toList]
          ended := true, failed := true }
    | none =>
      { p with
        complaints := p.complaints ++ ["missing format character".toList]
        ended := true, failed := true }
  | fuel + 1, c :: rest, p => once dialect fuel rest (p.print [c])

/-- Carries out a format again and again until the arguments are used up. -/
def again (dialect : Dialect) (format : Octets) : Nat → Progress → Progress
  | 0, p => p
  | fuel + 1, p =>
    let p := once dialect (format.length + 1) format { p with used := false }
    if p.ended || p.arguments.isEmpty || !p.used then p else again dialect format fuel p

/-- What a format prints with its arguments, the complaints about them, and whether the format
is misspelt. -/
def format (dialect : Dialect) (text : Octets) (arguments : List Octets) :
    Octets × List Octets × Bool :=
  let p := again dialect text (arguments.length + 1) ⟨arguments, false, [], [], false, false⟩
  (p.printed.reverse, p.complaints, p.failed)

end Printing

namespace Utility

/-- The installed `echo`. -/
def echo : Utility := fun c => c.print (Printing.echoInstalled false false c.arguments)

/-- The installed `printf`. -/
def printf : Utility := fun c =>
  let arguments := if c.arguments.head? = some ['-', '-'] then c.arguments.drop 1 else c.arguments
  match arguments with
  | [] => c.missingOperand 1
  | text :: rest =>
    let (printed, complaints, _) := Printing.format .installed text rest
    c.effect (if complaints.isEmpty then 0 else 1)
      ((.output, printed) :: complaints.map c.complaint)

end Utility

end Bench

end Timekeeper
