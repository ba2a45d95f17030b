import Timekeeper.Pattern.Escape

/-!
# Reading classes

A class between brackets holds characters, ranges, escapes, named ASCII classes and further
classes, and combines classes by operators of two signs. Operators of one class associate
to the left, and all have the same strength.

Classes may be nested, so the reader keeps the classes that are open and the left operands
that wait for a right one on a stack.
-/

namespace Timekeeper

namespace Pattern

/-- The members of a class read so far, the last first, and the text they were read from. -/
structure Members where
  span : Span
  items : List ClassTree

namespace Members

/-- No members at a place. -/
def none (span : Span) : Members := ⟨span, []⟩

/-- Adds a member. -/
def push (m : Members) (item : ClassTree) : Members :=
  let first := if m.items.isEmpty then item.span.first else m.span.first
  ⟨⟨first, item.span.last⟩, item :: m.items⟩

/-- The class of all members. -/
def close (m : Members) : ClassTree :=
  match m.items.reverse with
  | [] => .nothing m.span
  | [item] => item
  | first :: rest => .union m.span (ClassTree.chain first rest)

end Members

/-- What waits for a class to be read: a class that it belongs to, or a left operand. -/
inductive ClassFrame where
  | opened (outer : Members) (span : Span) (negated : Bool)
  | operand (kind : SetOperation) (left : ClassTree)

/-- Blames the innermost class that is still open. -/
def unclosedClass : List ClassFrame → Reading α
  | [] => do blame .classUnclosed (← emptySpan)
  | .opened _ span _ :: _ => blame .classUnclosed span
  | .operand _ _ :: frames => unclosedClass frames

/-- Joins a right operand to the left one that waits for it, if one does. -/
def joinOperand (frames : List ClassFrame) (right : ClassTree) : List ClassFrame × ClassTree :=
  match frames with
  | .operand kind left :: others =>
    (others, .operation ⟨left.span.first, right.span.last⟩ kind left right)
  | _ => (frames, right)

/-! ### Members -/

/-- The ASCII class of a name. -/
def asciiOfName? (name : List Char) : Option AsciiClass :=
  match String.ofList name with
  | "alnum" => some .alnum
  | "alpha" => some .alpha
  | "ascii" => some .ascii
  | "blank" => some .blank
  | "cntrl" => some .cntrl
  | "digit" => some .digit
  | "graph" => some .graph
  | "lower" => some .lower
  | "print" => some .print
  | "punct" => some .punct
  | "space" => some .space
  | "upper" => some .upper
  | "word" => some .word
  | "xdigit" => some .xdigit
  | _ => none

/-- The named class that a text begins with, whether it is negated, and how many characters
its name takes. -/
def asciiPrefix? (text : List Char) : Option (AsciiClass × Bool × Nat) :=
  match text with
  | '[' :: ':' :: rest =>
    let negated := rest.head? == some '^'
    let body := if negated then rest.tail else rest
    let name := body.takeWhile (· != ':')
    match body.dropWhile (· != ':'), asciiOfName? name with
    | ':' :: ']' :: _, some kind =>
      some (kind, negated, name.length + if negated then 5 else 4)
    | _, _ => none
  | _ => none

/-- Reads a named class if one comes next. -/
def asciiClass? : Reading (Option ClassTree) := do
  let start ← here
  match asciiPrefix? (← get).rest with
  | none => return none
  | some (kind, negated, length) =>
    modify (Source.advanceBy length)
    return some (.ascii kind negated (← spanFrom start))

/-- The part of a tree that stands for a member of a class. -/
def memberOf : Tree → Option ClassTree
  | .literal l => some (.literal l)
  | .property query negated span => some (.property query negated span)
  | .short kind negated span => some (.short kind negated span)
  | _ => none

/-- The text of an escape that may stand in a class or not. -/
def escapeSpan : Tree → Span
  | .literal l => l.span
  | .anchor _ span => span
  | .property _ _ span => span
  | .short _ _ span => span
  | tree => ⟨tree.first, tree.first⟩

/-- Reads an escape or a character that stands for itself. -/
def classAtom : Reading Tree := do
  match ← next? with
  | none => blame .classUnclosed (← emptySpan)
  | some '\\' => escape
  | some c =>
    let span ← nextSpan
    advance
    return .literal ⟨c, span, false⟩

/-- The literal that an end of a range must be. -/
def rangeEnd (atom : Tree) : Reading Literal :=
  match atom with
  | .literal l => return l
  | other => blame .classRangeLiteral (escapeSpan other)

/-- Reads one member: a range if a hyphen follows that ends neither the class nor begins an
operator. -/
def classMember (frames : List ClassFrame) : Reading ClassTree := do
  let atom ← classAtom
  skip
  let s ← get
  if s.rest.isEmpty then unclosedClass frames
  if s.rest.head? ≠ some '-' ∨ s.second? = some ']' ∨ s.second? = some '-' then
    match memberOf atom with
    | some item => return item
    | none => blame .classEscapeInvalid (escapeSpan atom)
  else
    advanceSkip
    if ← atEnd then unclosedClass frames
    let other ← classAtom
    let first ← rangeEnd atom
    let last ← rangeEnd other
    if last.char < first.char then
      blame .classRangeInvalid ⟨first.span.first, last.span.last⟩
    return .range first last

/-! ### Brackets -/

/-- Reads the hyphens that open a class and stand for themselves. -/
def openingHyphens (start : Place) : Nat → Members → Reading Members
  | 0, members => return members
  | n + 1, members => do
    if (← next?) = some '-' then
      let item := ClassTree.literal ⟨'-', ← nextSpan, false⟩
      advanceSkip
      if ← atEnd then blame .classUnclosed ⟨start, start⟩
      openingHyphens start n (members.push item)
    else return members

/-- Reads an opening bracket, with the sign of negation and the members that are literal only
because they come first. -/
def openClass : Reading (Span × Bool × Members) := do
  let start ← here
  advanceSkip
  if ← atEnd then blame .classUnclosed (← spanFrom start)
  let negated := (← next?) == some '^'
  if negated then
    advanceSkip
    if ← atEnd then blame .classUnclosed (← spanFrom start)
  let none := Members.none (← emptySpan)
  let hyphens ← openingHyphens start (← get).rest.length none
  let members ←
    if hyphens.items.isEmpty && (← next?) == some ']' then
      let item := ClassTree.literal ⟨']', ← nextSpan, false⟩
      advanceSkip
      if ← atEnd then blame .classUnclosed (← spanFrom start)
      pure (hyphens.push item)
    else pure hyphens
  return (← spanFrom start, negated, members)

/-- The operator that two characters write. -/
def operationOf? (first : Char) (second : Option Char) : Option SetOperation :=
  if second ≠ some first then none
  else
    match first with
    | '&' => some .intersection
    | '-' => some .difference
    | '~' => some .symmetricDifference
    | _ => none

/-- Reads what follows an opening bracket up to the closing one. The number bounds how many
members are read. -/
def classBody : Nat → Members → List ClassFrame → Reading Tree
  | 0, _, frames => unclosedClass frames
  | n + 1, members, frames => do
    skip
    let s ← get
    match s.rest with
    | [] => unclosedClass frames
    | '[' :: _ =>
      match ← asciiClass? with
      | some item => classBody n (members.push item) frames
      | none =>
        let (span, negated, inner) ← openClass
        classBody n inner (.opened members span negated :: frames)
    | ']' :: _ =>
      let (frames, body) := joinOperand frames members.close
      match frames with
      | .opened outer span negated :: others =>
        advance
        let whole : Span := ⟨span.first, ← here⟩
        if others.isEmpty then return .bracketed whole negated body
        else classBody n (outer.push (.bracketed whole negated body)) others
      | _ => unclosedClass frames
    | c :: rest =>
      match operationOf? c rest.head? with
      | some kind =>
        advance
        advance
        let (frames, left) := joinOperand frames members.close
        classBody n (.none (← emptySpan)) (.operand kind left :: frames)
      | none => classBody n (members.push (← classMember frames)) frames

/-- Reads a class, with its opening bracket next. -/
def bracketedClass : Reading Tree := do
  let outer := Members.none (← emptySpan)
  let (span, negated, members) ← openClass
  classBody ((← get).rest.length + 1) members [.opened outer span negated]

end Pattern

end Timekeeper
