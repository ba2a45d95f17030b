import Timekeeper.Pattern.Source

/-!
# Escapes

What a backslash and the characters behind it stand for: a character that would otherwise
have a meaning of its own, a character by its number, a class, a condition on the place.
-/

namespace Timekeeper

namespace Pattern

/-- The characters with a meaning of their own. -/
def isMeta (c : Char) : Bool := "\\.+*?()|[]\x7b\x7d^$#&-~".toList.contains c

/-- The characters that a backslash leaves as they are: the ASCII ones that are neither
letters nor digits nor angle brackets. -/
def isEscapable (c : Char) : Bool :=
  isMeta c || (c.toNat < 128 && !c.isAlphanum && c != '<' && c != '>')

/-- Hexadecimal digits. -/
def isHex (c : Char) : Bool :=
  c.isDigit || ('a' ≤ c && c ≤ 'f') || ('A' ≤ c && c ≤ 'F')

/-- The value of a hexadecimal digit. -/
def hexValue (c : Char) : Nat :=
  if c.isDigit then c.toNat - '0'.toNat else c.toLower.toNat - 'a'.toNat + 10

/-- The character whose number some hexadecimal digits write. -/
def charOfHex? (digits : List Char) : Option Char :=
  let n := digits.foldl (fun n c => 16 * n + hexValue c) 0
  if n.isValidChar then some (Char.ofNat n) else none

/-- Reads a fixed count of hexadecimal digits, after which the place is the last digit's. -/
def hexDigits : Nat → Reading (List Char)
  | 0 => return []
  | n + 1 => do
    match ← next? with
    | none => blame .escapeUnexpectedEnd (← emptySpan)
    | some c =>
      if isHex c then
        advanceSkip
        return c :: (← hexDigits n)
      else blame .hexInvalidDigit (← nextSpan)

/-- Reads a character by its number, with the letter of the escape next. -/
def hexLiteral (start : Place) (width : Nat) : Reading Tree := do
  advanceSkip
  if ← atEnd then blame .escapeUnexpectedEnd (← emptySpan)
  if (← next?) = some '\x7b' then
    let brace ← here
    let inner := (← nextSpan).last
    advanceSkip
    let digits ← collectAll isHex
    match ← next? with
    | none => blame .escapeUnexpectedEnd (← spanFrom brace)
    | some '\x7d' =>
      let stop ← here
      advanceSkip
      if digits.isEmpty then blame .hexEmpty (← spanFrom brace)
      match charOfHex? digits with
      | none => blame .hexInvalid ⟨inner, stop⟩
      | some c => return .literal ⟨c, ⟨start, stop⟩, false⟩
    | some _ => blame .hexInvalidDigit (← nextSpan)
  else
    let inner ← here
    let digits ← hexDigits width
    let stop ← here
    match charOfHex? digits with
    | none => blame .hexInvalid ⟨inner, stop⟩
    | some c => return .literal ⟨c, ⟨start, stop⟩, width == 2⟩

/-! ### Properties -/

/-- Splits a text at the first occurrence of a separator. -/
def splitAtWord? (word : List Char) : List Char → Option (List Char × List Char)
  | [] => none
  | c :: rest =>
    if word.isPrefixOf (c :: rest) then some ([], (c :: rest).drop word.length)
    else (splitAtWord? word rest).map fun (before, behind) => (c :: before, behind)

/-- What the text between the braces of a property asks for. -/
def propertyQuery (text : List Char) : PropertyQuery :=
  match splitAtWord? ['!', '='] text <|> splitAtWord? [':'] text <|> splitAtWord? ['='] text with
  | some (name, value) => .value name value
  | none => .name text

/-- Reads a property, with the letter of the escape next. -/
def propertyClass (start : Place) (negated : Bool) : Reading Tree := do
  advanceSkip
  match ← next? with
  | none => blame .escapeUnexpectedEnd (← emptySpan)
  | some '\x7b' =>
    advanceSkip
    let text ← collectAll (· != '\x7d')
    if ← atEnd then blame .escapeUnexpectedEnd (← emptySpan)
    advance
    return .property (propertyQuery text) negated (← spanFrom start)
  | some c =>
    if c = '\\' then blame .propertyInvalid (← nextSpan)
    advanceSkip
    return .property (.name [c]) negated (← spanFrom start)

/-! ### Conditions on the place -/

/-- Letters and the hyphen, of which the names of word boundaries are made. -/
def isBoundaryName (c : Char) : Bool := c.isAlpha || c == '-'

/-- The word boundary of a name. -/
def boundaryOfName? (name : List Char) : Option Anchor :=
  match String.ofList name with
  | "start" => some .wordStart
  | "end" => some .wordEnd
  | "start-half" => some .wordStartHalf
  | "end-half" => some .wordEndHalf
  | _ => none

/-- Reads the name of a word boundary in braces, if the brace that comes next opens one
rather than a count. -/
def boundaryName? (start : Place) : Reading (Option Anchor) := do
  let before ← get
  let brace ← here
  advanceSkip
  match ← next? with
  | none => blame .wordBoundaryUnexpectedEnd (← spanFrom start)
  | some c =>
    if !isBoundaryName c then
      set before
      return none
    let inner ← here
    let name ← collectAll isBoundaryName
    if (← next?) ≠ some '\x7d' then blame .wordBoundaryUnclosed (← spanFrom brace)
    let stop ← here
    advance
    match boundaryOfName? name with
    | some kind => return some kind
    | none => blame .wordBoundaryUnrecognized ⟨inner, stop⟩

/-! ### Escapes -/

/-- The control characters with a letter of their own. -/
def controlOf? (c : Char) : Option Char :=
  match c with
  | 'a' => some '\x07'
  | 'f' => some '\x0c'
  | 't' => some '\t'
  | 'n' => some '\n'
  | 'r' => some '\r'
  | 'v' => some '\x0b'
  | _ => none

/-- The conditions with a letter or an angle bracket of their own, `b` apart. -/
def anchorOf? (c : Char) : Option Anchor :=
  match c with
  | 'A' => some .textStart
  | 'z' => some .textEnd
  | 'B' => some .notBoundary
  | '<' => some .wordStart
  | '>' => some .wordEnd
  | _ => none

/-- The one letter classes, and whether the letter negates. -/
def shortOf? (c : Char) : Option (ShortClass × Bool) :=
  match c with
  | 'd' => some (.digit, false)
  | 'D' => some (.digit, true)
  | 's' => some (.space, false)
  | 'S' => some (.space, true)
  | 'w' => some (.word, false)
  | 'W' => some (.word, true)
  | _ => none

/-- Reads an escape whose letter needs nothing more than itself. -/
def plainEscape (start : Place) (c : Char) : Reading Tree := do
  advance
  let span ← spanFrom start
  if isEscapable c then return .literal ⟨c, span, false⟩
  match controlOf? c, anchorOf? c, shortOf? c with
  | some control, _, _ => return .literal ⟨control, span, false⟩
  | _, some kind, _ => return .anchor kind span
  | _, _, some (kind, negated) => return .short kind negated span
  | none, none, none =>
    if c = 'b' then
      let named ← if (← next?) = some '\x7b' then boundaryName? start else pure none
      match named with
      | some kind => return .anchor kind (← spanFrom start)
      | none => return .anchor .boundary span
    else blame .escapeUnrecognized span

/-- Reads an escape, with the backslash next. -/
def escape : Reading Tree := do
  let start ← here
  advance
  match ← next? with
  | none => blame .escapeUnexpectedEnd (← spanFrom start)
  | some c =>
    if c.isDigit then blame .backreference ⟨start, (← nextSpan).last⟩
    else if c = 'x' then hexLiteral start 2
    else if c = 'u' then hexLiteral start 4
    else if c = 'U' then hexLiteral start 8
    else if c = 'p' then propertyClass start false
    else if c = 'P' then propertyClass start true
    else plainEscape start c

end Pattern

end Timekeeper
