import Timekeeper.Json.Fault

/-!
# Reading documents

The parts of a JSON document: blanks, strings, numbers, words and the signs between them.
Each reader consumes from the front of what is left, and fails at the place reached or just
behind the next byte, whichever the fault is about.

`ignored` passes a value that nobody asked for. It checks the form of the value but does not
keep it, so it accepts escapes of single surrogates and numbers of any size.
-/

namespace Timekeeper

namespace Json

/-- What is left of a document, and the place reached. -/
structure Input where
  rest : List Char
  place : Place

/-- A step of reading. -/
abbrev Reading := StateT Input (Except Fault)

/-- The input in front of a whole document. -/
def Input.ofText (text : List Char) : Input := ⟨text, .start⟩

/-- Passes one character. -/
def Input.advance (i : Input) : Input :=
  match i.rest with
  | [] => i
  | c :: rest => ⟨rest, i.place.after c⟩

/-- The blanks between the parts of a document. -/
def isBlank (c : Char) : Bool := c == ' ' || c == '\n' || c == '\t' || c == '\r'

/-- Passes blanks. -/
def Input.skip (i : Input) : Input :=
  let blanks := i.rest.takeWhile isBlank
  ⟨i.rest.dropWhile isBlank, blanks.foldl Place.after i.place⟩

/-! ### Steps -/

/-- Fails at the place reached. -/
def fail (cause : Cause) : Reading α := do throw ⟨cause, (← get).place⟩

/-- Fails just behind the first byte of what comes next. -/
def failNext (cause : Cause) : Reading α := do
  let i ← get
  match i.rest with
  | [] => throw ⟨cause, i.place⟩
  | c :: _ => throw ⟨cause, i.place.afterByte c⟩

/-- Passes one character. -/
def advance : Reading PUnit := modify Input.advance

/-- Passes blanks and gives the character behind them. -/
def skip : Reading (Option Char) := do
  let i := (← get).skip
  set i
  return i.rest.head?

/-- The next character. -/
def next? : Reading (Option Char) := return (← get).rest.head?

/-- Passes the digits that come next and gives them. -/
def takeDigits : Reading (List Char) := do
  let i ← get
  let digits := i.rest.takeWhile Char.isDigit
  set (⟨i.rest.dropWhile Char.isDigit, i.place.behind digits.length⟩ : Input)
  return digits

/-- Passes the letters of a word that has begun. -/
def word : List Char → Reading PUnit
  | [] => return
  | c :: rest => do
    match ← next? with
    | none => fail .endInValue
    | some d =>
      if d = c then
        advance
        word rest
      else failNext .identExpected

/-! ### Strings -/

/-- The value of a hexadecimal digit. -/
def hexValue? (c : Char) : Option Nat :=
  if c.isDigit then some (c.toNat - '0'.toNat)
  else if 'a' ≤ c ∧ c ≤ 'f' then some (c.toNat - 'a'.toNat + 10)
  else if 'A' ≤ c ∧ c ≤ 'F' then some (c.toNat - 'A'.toNat + 10)
  else none

/-- The place behind some bytes of a text, or `none` if the text has fewer. -/
def placeBehind? : Nat → List Char → Place → Option Place
  | 0, _, p => some p
  | _ + 1, [], _ => none
  | n + 1, c :: rest, p =>
    if n + 1 < c.utf8Size then some (p.behind (n + 1))
    else placeBehind? (n + 1 - c.utf8Size) rest (p.after c)
termination_by _ text _ => text.length

/-- The place behind a whole text. -/
def endPlace (i : Input) : Place := i.rest.foldl Place.after i.place

/-- Reads the four digits of a hexadecimal escape. -/
def hexEscape : Reading Nat := do
  let i ← get
  match placeBehind? 4 i.rest i.place with
  | none => throw ⟨.endInString, endPlace i⟩
  | some place =>
    match i.rest with
    | a :: b :: c :: d :: rest =>
      match hexValue? a, hexValue? b, hexValue? c, hexValue? d with
      | some a, some b, some c, some d =>
        set (⟨rest, place⟩ : Input)
        return ((a * 16 + b) * 16 + c) * 16 + d
      | _, _, _, _ => throw ⟨.escapeInvalid, place⟩
    | _ => throw ⟨.escapeInvalid, place⟩

/-- Passes a character that the second half of a surrogate pair has to begin with. -/
def pairSign (sign : Char) : Reading PUnit := do
  match ← next? with
  | none => fail .endInString
  | some c => if c = sign then advance else failNext .hexEscapeUnfinished

/-- Reads the hexadecimal escape of a character, which takes two escapes beyond the basic
plane. -/
def unicodeEscape : Reading Char := do
  let n ← hexEscape
  if 0xdc00 ≤ n ∧ n ≤ 0xdfff then fail .loneSurrogate
  if n < 0xd800 ∨ 0xdbff < n then return Char.ofNat n
  pairSign '\\'
  pairSign 'u'
  let m ← hexEscape
  if m < 0xdc00 ∨ 0xdfff < m then fail .loneSurrogate
  return Char.ofNat ((n - 0xd800) * 0x400 + (m - 0xdc00) + 0x10000)

/-- The character that a letter behind a backslash stands for. -/
def escapeOf? (c : Char) : Option Char :=
  match c with
  | '"' => some '"'
  | '\\' => some '\\'
  | '/' => some '/'
  | 'b' => some '\x08'
  | 'f' => some '\x0c'
  | 'n' => some '\n'
  | 'r' => some '\r'
  | 't' => some '\t'
  | _ => none

/-- Reads an escape behind its backslash; `hex` reads what follows the letter `u`. -/
def escape (hex : Reading Char) : Reading Char := do
  match ← next? with
  | none => fail .endInString
  | some 'u' =>
    advance
    hex
  | some c =>
    match escapeOf? c with
    | some d =>
      advance
      return d
    | none => failNext .escapeInvalid

/-- Reads a string behind its opening quote, up to and with the closing one. The characters read
come last first. The number bounds how many there are. -/
def stringBody (hex : Reading Char) (control : Reading Char) :
    Nat → List Char → Reading (List Char)
  | 0, _ => fail .endInString
  | n + 1, read => do
    match ← next? with
    | none => fail .endInString
    | some '"' =>
      advance
      return read
    | some '\\' =>
      advance
      let c ← escape hex
      stringBody hex control n (c :: read)
    | some c =>
      if c.toNat < 0x20 then
        let _ ← control
        return read
      else
        advance
        stringBody hex control n (c :: read)

/-- Reads a string, with its opening quote next. -/
def string : Reading (List Char) := do
  advance
  let read ← stringBody unicodeEscape (failNext .controlCharacter) ((← get).rest.length + 1) []
  return read.reverse

/-- Passes a string that nobody asked for. -/
def ignoredString : Reading PUnit := do
  advance
  let hex : Reading Char := do
    let _ ← hexEscape
    return ' '
  let _ ← stringBody hex (fail .controlCharacter) ((← get).rest.length + 1) []

/-! ### Numbers -/

/-- The largest whole number that is kept exactly. -/
def wholeLimit : Nat := 18446744073709551615

/-- The largest power of ten by which a number is scaled in one step. -/
def scaleLimit : Nat := 308

/-- A power of ten as a binary64 number. -/
def powerOfTen (n : Nat) : Binary64 := Decimal.nearest ⟨false, 1, n⟩

/-- Divides by powers of ten, in steps if the exponent is large. -/
def scaleDown : Nat → Binary64 → Nat → Binary64
  | 0, x, _ => x
  | steps + 1, x, n =>
    if n ≤ scaleLimit then x / powerOfTen n
    else if x.eq .zero then x
    else scaleDown steps (x / powerOfTen scaleLimit) (n - scaleLimit)

/-- The number of a coefficient and a power of ten. -/
def scaled (negative : Bool) (coefficient : Nat) (exponent : Int) : Reading Binary64 := do
  let x := Binary64.ofNat coefficient
  let sign (y : Binary64) : Binary64 :=
    match y with
    | .signed _ rank h => .signed negative rank h
    | .nan => .nan
  if exponent < 0 then return sign (scaleDown 5 x exponent.natAbs)
  else if scaleLimit < exponent.toNat then
    if coefficient = 0 then return sign x else fail .numberOutOfRange
  else
    let y := x * powerOfTen exponent.toNat
    if y.isFinite then return sign y else fail .numberOutOfRange

/-- The digits of a coefficient as far as they stay within the limit, and how many are left. -/
def coefficientOf (start : Nat) : List Char → Nat × Nat
  | [] => (start, 0)
  | d :: rest =>
    let n := start * 10 + (d.toNat - '0'.toNat)
    if wholeLimit < n then (start, rest.length + 1) else coefficientOf n rest

/-- The largest exponent that is kept. -/
def exponentLimit : Nat := 2147483647

/-- Reads an exponent, with its letter next. -/
def exponentPart (negative : Bool) (coefficient : Nat) (exponent : Int) : Reading Binary64 := do
  advance
  let sign ← next?
  if sign = some '+' ∨ sign = some '-' then advance
  match ← next? with
  | none => fail .endInValue
  | some d =>
    if !d.isDigit then failNext .numberInvalid
    let before ← get
    let digits ← takeDigits
    let n := Decimal.ofDigits digits
    if exponentLimit < n then
      if coefficient ≠ 0 ∧ sign ≠ some '-' then
        -- the digit that exceeds the limit is the last one passed
        let kept := (List.range (digits.length + 1)).find? fun k =>
          exponentLimit < Decimal.ofDigits (digits.take k)
        throw ⟨.numberOutOfRange, before.place.behind (kept.getD 0)⟩
      else scaled negative 0 0
    else
      let shift : Int := if sign = some '-' then -(n : Int) else n
      scaled negative coefficient (exponent + shift)

/-- Reads what follows the digits of the whole part, if anything makes the number a fraction. -/
def fractionPart (negative : Bool) (coefficient dropped : Nat) : Reading (Option Binary64) := do
  match ← next? with
  | some '.' =>
    advance
    let digits ← takeDigits
    if digits.isEmpty then
      if (← next?).isNone then failNext .endInValue else failNext .numberInvalid
    let (n, rest) := coefficientOf coefficient digits
    let exponent : Int := (dropped : Int) - ((digits.length - rest : Nat) : Int)
    match ← next? with
    | some 'e' => return some (← exponentPart negative n exponent)
    | some 'E' => return some (← exponentPart negative n exponent)
    | _ => return some (← scaled negative n exponent)
  | some 'e' => return some (← exponentPart negative coefficient dropped)
  | some 'E' => return some (← exponentPart negative coefficient dropped)
  | _ => if dropped = 0 then return none else return some (← scaled negative coefficient dropped)

/-- Reads a number behind its sign. -/
def number (negative : Bool) : Reading Found := do
  match ← next? with
  | none => fail .endInValue
  | some c =>
    if !c.isDigit then failNext .numberInvalid
    let digits ←
      if c = '0' then
        advance
        if (← next?).any Char.isDigit then failNext .numberInvalid
        pure ['0']
      else takeDigits
    let (n, dropped) := coefficientOf 0 digits
    match ← fractionPart negative n dropped with
    | some x => return .number x
    | none =>
      if negative then
        if n = 0 ∨ 9223372036854775808 < n then
          return .number (.ofQuotient true (n * Binary64.unitsOfOne) 1)
        else return .integer (-(n : Int))
      else return .integer n

/-- Passes the whole part of a number that nobody asked for. -/
def ignoredWhole : Reading PUnit := do
  match ← next? with
  | none => fail .numberInvalid
  | some c =>
    if !c.isDigit then failNext .numberInvalid
    if c = '0' then
      advance
      if (← next?).any Char.isDigit then failNext .numberInvalid
    else
      let _ ← takeDigits

/-- Passes the fraction of such a number, if it has one. -/
def ignoredFraction : Reading PUnit := do
  if (← next?) = some '.' then
    advance
    if (← takeDigits).isEmpty then failNext .numberInvalid

/-- Passes the exponent of such a number, if it has one. -/
def ignoredExponent : Reading PUnit := do
  let letter ← next?
  if letter = some 'e' ∨ letter = some 'E' then
    advance
    let sign ← next?
    if sign = some '+' ∨ sign = some '-' then advance
    if (← next?).any Char.isDigit then
      let _ ← takeDigits
    else failNext .numberInvalid

/-- Passes a number that nobody asked for, behind its sign. -/
def ignoredNumber : Reading PUnit := do
  ignoredWhole
  ignoredFraction
  ignoredExponent

/-! ### Values of another type -/

/-- Fails with what is found where a value of another type was expected. The finding is read to
its end unless it is a list or an object. -/
def failType (expected : String) : Reading α := do
  let mismatch (found : Found) : Reading α := fail (.invalidType found expected)
  match ← next? with
  | some 'n' =>
    advance
    word ['u', 'l', 'l']
    mismatch .null
  | some 't' =>
    advance
    word ['r', 'u', 'e']
    mismatch (.boolean true)
  | some 'f' =>
    advance
    word ['a', 'l', 's', 'e']
    mismatch (.boolean false)
  | some '-' =>
    advance
    mismatch (← number true)
  | some '"' => mismatch (.string (← string))
  | some '[' => mismatch .sequence
  | some '\x7b' => mismatch .map
  | some c => if c.isDigit then mismatch (← number false) else failNext .valueExpected
  | none => failNext .endInValue

/-- Reads a string where one is expected. -/
def expectString : Reading String := do
  match ← skip with
  | none => failNext .endInValue
  | some '"' => return String.ofList (← string)
  | some _ => failType "a string"

/-! ### Lists and objects -/

/-- Whether another element follows in a list; `first` tells whether none came before. -/
def nextElement (first : Bool) : Reading Bool := do
  match ← skip with
  | none => failNext .endInList
  | some ']' => return false
  | some c =>
    if first then return true
    if c ≠ ',' then failNext .listCommaExpected
    advance
    match ← skip with
    | none => failNext .endInValue
    | some ']' => failNext .trailingComma
    | some _ => return true

/-- Reads the key of the next member of an object, if another follows; `first` tells whether
none came before. -/
def nextKey? (first : Bool) : Reading (Option String) := do
  let key (c : Option Char) : Reading (Option String) := do
    match c with
    | none => failNext .endInValue
    | some '"' => return some (String.ofList (← string))
    | some '\x7d' => failNext .trailingComma
    | some _ => failNext .keyNotString
  match ← skip with
  | none => failNext .endInObject
  | some '\x7d' => return none
  | some c =>
    if first then key (some c)
    else if c ≠ ',' then failNext .objectCommaExpected
    else
      advance
      key (← skip)

/-- Passes the colon behind a key. -/
def colon : Reading PUnit := do
  match ← skip with
  | none => failNext .endInObject
  | some ':' => advance
  | some _ => failNext .colonExpected

/-- Passes the closing bracket of a list. -/
def closeList : Reading PUnit := do
  match ← skip with
  | none => failNext .endInList
  | some ']' => advance
  | some ',' =>
    advance
    match ← skip with
    | some ']' => failNext .trailingComma
    | _ => failNext .trailingCharacters
  | some _ => failNext .trailingCharacters

/-- Passes the closing brace of an object. -/
def closeObject : Reading PUnit := do
  match ← skip with
  | none => failNext .endInObject
  | some '\x7d' => advance
  | some ',' => failNext .trailingComma
  | some _ => failNext .trailingCharacters

/-- Passes blanks and a closing sign if it comes next. -/
def passClosing (sign : Char) : Reading PUnit := do
  if (← skip) = some sign then advance

/-! ### Values that nobody asked for -/

/-- What a value is part of: a list or an object. -/
inductive Enclosure where
  | list
  | object
deriving DecidableEq

/-- The sign that closes a list or an object. -/
def Enclosure.closing : Enclosure → Char
  | list => ']'
  | object => '\x7d'

/-- Passes the key and the colon of a member. -/
def ignoredKey : Reading PUnit := do
  match ← skip with
  | none => failNext .endInObject
  | some '"' =>
    ignoredString
    colon
  | some _ => failNext .keyNotString

/-- Passes what may follow a value: closing signs, and then a comma with the key of a member if
the comma stands in an object. Gives what is still open, or nothing if all is closed. -/
def ignoredClosings : List Enclosure → Bool → Reading (List Enclosure)
  | [], _ => return []
  | e :: outer, afterValue => do
    match ← skip with
    | none => failNext (match e with | .list => .endInList | .object => .endInObject)
    | some c =>
      if c = e.closing then
        advance
        ignoredClosings outer true
      else
        if afterValue then
          if c ≠ ',' then
            failNext (match e with | .list => .listCommaExpected | .object => .objectCommaExpected)
          advance
        if e = .object then ignoredKey
        return e :: outer

/-- Passes a value that is neither a list nor an object, or the opening sign of one of these. Gives
what is opened. -/
def ignoredHead : Reading (Option Enclosure) := do
  match ← skip with
  | none => failNext .endInValue
  | some 'n' =>
    advance
    word ['u', 'l', 'l']
    return none
  | some 't' =>
    advance
    word ['r', 'u', 'e']
    return none
  | some 'f' =>
    advance
    word ['a', 'l', 's', 'e']
    return none
  | some '-' =>
    advance
    ignoredNumber
    return none
  | some '"' =>
    ignoredString
    return none
  | some '[' =>
    advance
    return some .list
  | some '\x7b' =>
    advance
    return some .object
  | some c =>
    if c.isDigit then
      ignoredNumber
      return none
    else failNext .valueExpected

/-- Passes a value inside what is open, and everything up to the end of that. The number bounds
how many values there are. -/
def ignoredWithin : Nat → List Enclosure → Reading PUnit
  | 0, _ => failNext .endInValue
  | n + 1, enclosures => do
    let still ←
      match ← ignoredHead with
      | none => ignoredClosings enclosures true
      | some e => ignoredClosings (e :: enclosures) false
    if still.isEmpty then return else ignoredWithin n still

/-- Passes a value that nobody asked for. -/
def ignored : Reading PUnit := do ignoredWithin ((← get).rest.length + 1) []

end Json

end Timekeeper
