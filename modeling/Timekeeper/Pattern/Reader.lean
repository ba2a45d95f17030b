import Timekeeper.Pattern.ClassReader

/-!
# Reading patterns

A pattern is a list of alternatives, each a sequence of atoms with repetition operators
behind them. Groups may be nested, so the reader keeps what is still open on a stack: the
sequence that a group interrupts, and the alternatives of which the last is being read.
-/

namespace Timekeeper

namespace Pattern

/-- A sequence that is being read: where it begins, and its members, the last first. -/
structure Run where
  first : Place
  members : List Tree

namespace Run

/-- A sequence without members. -/
def startingAt (place : Place) : Run := ⟨place, []⟩

/-- Adds a member. -/
def push (r : Run) (member : Tree) : Run := ⟨r.first, member :: r.members⟩

/-- The tree of a sequence that ends at a place. -/
def close (r : Run) (last : Place) : Tree :=
  match r.members.reverse with
  | [] => .empty
  | [member] => member
  | first :: rest => .sequence ⟨r.first, last⟩ (Tree.chain first rest)

end Run

/-- What waits for a sequence to end. -/
inductive Frame where
  /-- The sequence that a group interrupts, the span of its parenthesis, its kind, and
  whether blanks were skipped before it. -/
  | group (before : Run) (opened : Span) (kind : GroupKind) (verbose : Bool)
  /-- The alternatives before the sequence, the last first. -/
  | alternatives (first : Place) (branches : List Tree)

/-! ### Repetition -/

/-- Takes the last member of a sequence, to which a repetition operator applies. -/
def repeated (r : Run) : Reading (Tree × Run) := do
  match r.members with
  | [] => blame .repetitionMissing (← emptySpan)
  | .empty :: _ => blame .repetitionMissing (← emptySpan)
  | .flags _ :: _ => blame .repetitionMissing (← emptySpan)
  | member :: others => return (member, ⟨r.first, others⟩)

/-- Passes the sign that makes a repetition lazy, and tells whether it is greedy. -/
def greedSign : Reading Bool := do
  if (← next?) = some '?' then
    advance
    return false
  else return true

/-- Reads a repetition operator of one sign. -/
def signRepetition (least : Nat) (most : Option Nat) (r : Run) : Reading Run := do
  let (body, others) ← repeated r
  advance
  let greedy ← greedSign
  return others.push (.repetition (← spanFrom body.first) least most greedy body)

/-- The largest count that can be written. -/
def countLimit : Nat := 4294967295

/-- Reads a count, blanks around it included. The blame for a count that is missing or too
large is returned, since another fault can come before it. -/
def count : Reading (Except Blame Nat) := do
  modify fun s =>
    let blanks := s.rest.takeWhile Text.isBlank
    s.advanceBy blanks.length
  let start ← here
  let digits ← collectAll Char.isDigit
  let span ← spanFrom start
  let _ ← collectAll Text.isBlank
  if digits.isEmpty then return .error ⟨.repetitionCountEmpty, span, none⟩
  let n := digits.foldl (fun n d => 10 * n + (d.toNat - '0'.toNat)) 0
  if countLimit < n then return .error ⟨.decimalInvalid, span, none⟩
  return .ok n

/-- Raises the blame of a count. -/
def raise (count : Except Blame Nat) : Reading Nat :=
  match count with
  | .ok n => return n
  | .error b => throw b

/-- Reads the counts behind an opening brace, up to the closing one. -/
def counts (start : Place) : Reading (Nat × Option Nat) := do
  let least ← count
  if ← atEnd then blame .repetitionCountUnclosed (← spanFrom start)
  if (← next?) = some ',' then
    advanceSkip
    if ← atEnd then blame .repetitionCountUnclosed (← spanFrom start)
    if (← next?) = some '\x7d' then return (← raise least, none)
    else
      let least ← raise least
      let most ← raise (← count)
      return (least, some most)
  else
    let n ← raise least
    return (n, some n)

/-- Reads a repetition with counts in braces. -/
def countedRepetition (r : Run) : Reading Run := do
  let start ← here
  let (body, others) ← repeated r
  advanceSkip
  if ← atEnd then blame .repetitionCountUnclosed (← spanFrom start)
  let (least, most) ← counts start
  if (← next?) ≠ some '\x7d' then blame .repetitionCountUnclosed (← spanFrom start)
  advanceSkip
  let greedy ← greedSign
  if most.any (· < least) then blame .repetitionCountInvalid (← spanFrom start)
  return others.push (.repetition (← spanFrom body.first) least most greedy body)

/-! ### Groups -/

/-- The flag of a letter. -/
def flagOf? (c : Char) : Option Flag :=
  match c with
  | 'i' => some .caseInsensitive
  | 'm' => some .multiLine
  | 's' => some .dotAll
  | 'U' => some .swapGreed
  | 'u' => some .unicode
  | 'R' => some .carriageReturn
  | 'x' => some .verbose
  | _ => none

/-- A flag or the sign of negation as written; the sign is `none`. -/
abbrev FlagSign := Option Flag × Span

/-- Reads flags up to a colon or a closing parenthesis, which is left. The number bounds how
many are read. -/
def flagSigns : Nat → List FlagSign → Reading (List FlagSign)
  | 0, _ => do blame .flagUnexpectedEnd (← emptySpan)
  | n + 1, signs => do
    match ← next? with
    | none => blame .flagUnexpectedEnd (← emptySpan)
    | some c =>
      if c = ':' ∨ c = ')' then return signs
      let span ← nextSpan
      let sign ←
        if c = '-' then pure none
        else
          match flagOf? c with
          | some flag => pure (some flag)
          | none => blame .flagUnrecognized span
      match signs.find? (·.1 = sign) with
      | some earlier =>
        let fault := if c = '-' then Fault.flagRepeatedNegation else .flagDuplicate
        throw ⟨fault, span, some earlier.2⟩
      | none =>
        advance
        if ← atEnd then blame .flagUnexpectedEnd (← emptySpan)
        flagSigns n (signs ++ [(sign, span)])

/-- The changes that some signs write: flags before the sign of negation are turned on, those
behind it off. -/
def changesOf (signs : List FlagSign) (on : Bool) : List FlagChange :=
  match signs with
  | [] => []
  | (none, _) :: rest => changesOf rest false
  | (some flag, _) :: rest => ⟨flag, on⟩ :: changesOf rest on

/-- Reads the flags of a group. -/
def flagChanges : Reading (List FlagChange) := do
  let signs ← flagSigns ((← get).rest.length + 1) []
  match signs.getLast? with
  | some (none, span) => blame .flagDanglingNegation span
  | _ => return changesOf signs true

/-- Whether some changes turn the skipping of blanks on or off. -/
def verboseChange? (changes : List FlagChange) : Option Bool :=
  (changes.find? (·.flag = .verbose)).map (·.on)

/-- Letters and the low line begin the name of a group. -/
def isNameStart (c : Char) : Bool := c == '_' || Unicode.alphabetic.contains c

/-- Digits, points and brackets can follow in the name of a group. -/
def isNamePart (c : Char) : Bool :=
  isNameStart c || c == '.' || c == '[' || c == ']' || Unicode.decimalNumber.contains c
    || Unicode.letterNumber.contains c || Unicode.otherNumber.contains c

/-- Reads the name of a group up to the closing angle bracket, which is left. The number bounds
its length. -/
def nameChars : Nat → List Char → Reading (List Char)
  | 0, _ => do blame .groupNameUnexpectedEnd (← emptySpan)
  | n + 1, name => do
    match ← next? with
    | none => blame .groupNameUnexpectedEnd (← emptySpan)
    | some c =>
      if c = '>' then return name
      if (if name.isEmpty then isNameStart c else isNamePart c) then
        advance
        nameChars n (name ++ [c])
      else blame .groupNameInvalid (← nextSpan)

/-- Reads the name of a group, which no other group of the pattern may have. -/
def groupName : Reading (List Char) := do
  let start ← here
  let name ← nameChars ((← get).rest.length + 1) []
  let span ← spanFrom start
  advance
  if name.isEmpty then blame .groupNameEmpty ⟨start, start⟩
  let s ← get
  match s.names.find? (·.1 = name) with
  | some earlier => throw ⟨.groupNameDuplicate, span, some earlier.2⟩
  | none =>
    set { s with names := (name, span) :: s.names }
    return name

/-- What an opening parenthesis begins. -/
inductive Opening where
  | group (kind : GroupKind)
  | flags (changes : List FlagChange)

/-- Reads what follows an opening parenthesis, which is passed already. -/
def opening (opened : Span) : Reading Opening := do
  skip
  for sign in ["?=", "?!", "?<=", "?<!"] do
    if ← accept sign then blame .lookAround (← spanFrom opened.first)
  let inner ← emptySpan
  if ← accept "?P<" then return .group (.named (← groupName))
  if ← accept "?<" then return .group (.named (← groupName))
  if ← accept "?" then
    if ← atEnd then blame .groupUnclosed opened
    let changes ← flagChanges
    let last ← next?
    advance
    if last = some ')' then
      if changes.isEmpty then blame .repetitionMissing inner
      return .flags changes
    else return .group (.plain changes)
  else return .group .unnamed

/-- The flag changes that hold inside a group from its beginning. -/
def GroupKind.changes : GroupKind → List FlagChange
  | .plain changes => changes
  | _ => []

/-- Reads an opening parenthesis. -/
def openGroup (r : Run) (frames : List Frame) : Reading (Run × List Frame) := do
  let opened ← nextSpan
  advance
  match ← opening opened with
  | .flags changes =>
    modify fun s => { s with verbose := (verboseChange? changes).getD s.verbose }
    return (r.push (.flags changes), frames)
  | .group kind =>
    let verbose := (← get).verbose
    modify fun s => { s with verbose := (verboseChange? kind.changes).getD verbose }
    return (Run.startingAt (← here), .group r opened kind verbose :: frames)

/-- Ends the alternatives that a sequence is the last of, if it is one of several. -/
def closeAlternatives (r : Run) (frames : List Frame) (last : Place) : Tree × List Frame :=
  match frames with
  | .alternatives first branches :: others =>
    match (r.close last :: branches).reverse with
    | [] => (.empty, others)
    | branch :: rest => (.alternatives ⟨first, last⟩ (Tree.choices branch rest), others)
  | _ => (r.close last, frames)

/-- Reads a closing parenthesis. -/
def closeGroup (r : Run) (frames : List Frame) : Reading (Run × List Frame) := do
  let span ← nextSpan
  let (body, frames) := closeAlternatives r frames (← here)
  match frames with
  | .group before opened kind verbose :: others =>
    modify fun s => { s with verbose := verbose }
    advance
    return (before.push (.group ⟨opened.first, ← here⟩ kind body), others)
  | _ => blame .groupUnopened span

/-- Reads the sign between alternatives. -/
def nextAlternative (r : Run) (frames : List Frame) : Reading (Run × List Frame) := do
  let place ← here
  let branch := r.close place
  advance
  let run := Run.startingAt (← here)
  match frames with
  | .alternatives first branches :: others =>
    return (run, .alternatives first (branch :: branches) :: others)
  | _ => return (run, .alternatives r.first [branch] :: frames)

/-- Ends a pattern. -/
def closePattern (r : Run) (frames : List Frame) : Reading Tree := do
  let (tree, frames) := closeAlternatives r frames (← here)
  match frames with
  | .group _ opened _ _ :: _ => blame .groupUnclosed opened
  | _ => return tree

/-! ### Patterns -/

/-- Reads an atom that is neither a group nor a class. -/
def atom : Reading Tree := do
  let span ← nextSpan
  match ← next? with
  | none => blame .escapeUnexpectedEnd span
  | some '\\' => escape
  | some c =>
    advance
    match c with
    | '.' => return .dot span
    | '^' => return .anchor .lineStart span
    | '$' => return .anchor .lineEnd span
    | _ => return .literal ⟨c, span, false⟩

/-- Reads the rest of a pattern. The number bounds how many signs are read. -/
def patternBody : Nat → Run → List Frame → Reading Tree
  | 0, r, frames => closePattern r frames
  | n + 1, r, frames => do
    skip
    match ← next? with
    | none => closePattern r frames
    | some '(' =>
      let (r, frames) ← openGroup r frames
      patternBody n r frames
    | some ')' =>
      let (r, frames) ← closeGroup r frames
      patternBody n r frames
    | some '|' =>
      let (r, frames) ← nextAlternative r frames
      patternBody n r frames
    | some '[' => patternBody n (r.push (← bracketedClass)) frames
    | some '?' => patternBody n (← signRepetition 0 (some 1) r) frames
    | some '*' => patternBody n (← signRepetition 0 none r) frames
    | some '+' => patternBody n (← signRepetition 1 none r) frames
    | some '\x7b' => patternBody n (← countedRepetition r) frames
    | some _ => patternBody n (r.push (← atom)) frames

/-! ### Nesting -/

/-- One level deeper, if the limit allows it. -/
def deeper (depth : Nat) (span : Span) : Except Blame Nat :=
  if nestingLimit ≤ depth then throw ⟨.nestingTooDeep, span, none⟩ else return depth + 1

/-- Checks that no part of a class lies too deep. -/
def ClassTree.checkDepth (depth : Nat) : ClassTree → Except Blame PUnit
  | pair first second => do
    first.checkDepth depth
    second.checkDepth depth
  | union span members => do members.checkDepth (← deeper depth span)
  | bracketed span _ body => do body.checkDepth (← deeper depth span)
  | operation span _ left right => do
    let depth ← deeper depth span
    left.checkDepth depth
    right.checkDepth depth
  | _ => return

/-- Checks that no part of a tree lies too deep. -/
def Tree.checkDepth (depth : Nat) : Tree → Except Blame PUnit
  | bracketed span _ body => do body.checkDepth (← deeper depth span)
  | repetition span _ _ _ body => do body.checkDepth (← deeper depth span)
  | group span _ body => do body.checkDepth (← deeper depth span)
  | pair first second => do
    first.checkDepth depth
    second.checkDepth depth
  | sequence span members => do members.checkDepth (← deeper depth span)
  | choice first second => do
    first.checkDepth depth
    second.checkDepth depth
  | alternatives span members => do members.checkDepth (← deeper depth span)
  | _ => return

/-- Reads a whole pattern. -/
def Tree.read (pattern : List Char) : Except Blame Tree := do
  let body := patternBody (pattern.length + 1) (Run.startingAt .start) []
  let (tree, _) ← body.run (Source.ofText pattern)
  tree.checkDepth 0
  return tree

end Pattern

end Timekeeper
