import Timekeeper.Bench.Utility.Arranging
import Timekeeper.Bench.Utility.Printing
import Timekeeper.Pattern.Plan

/-!
# Utilities that search and edit lines

Both ways of writing a regular expression, the basic one, in which a bracket without a
backslash is a plain octet, and the extended one, are read into the same plans by which
markers are looked for.
-/

namespace Timekeeper

namespace Bench

namespace Utility

open Pattern (Plan)

/-! ### Regular expressions -/

/-- How a regular expression is written, and whether case counts. -/
structure Spelling where
  extended : Bool
  ignoreCase : Bool

/-- A plan for one octet. -/
def Spelling.octet (s : Spelling) (c : Char) : Plan :=
  .one fun d => if s.ignoreCase then d.toLower = c.toLower else d = c

/-- A class behind its opening bracket, and what follows it. -/
def Spelling.among? (s : Spelling) (octets : Octets) : Option (Plan × Octets) :=
  let (negated, body) :=
    match octets with
    | '^' :: rest => (true, rest)
    | _ => (false, octets)
  (Wild.members? (octets.length + 1) true [] body).map fun (ranges, rest) =>
    (.one fun c =>
      (Wild.holds ranges c || (s.ignoreCase &&
        (Wild.holds ranges c.toLower || Wild.holds ranges c.toUpper))) != negated, rest)

/-- A repetition behind an atom: its least and greatest count, and what follows it. -/
def Spelling.repetition? (s : Spelling) (octets : Octets) : Option (Nat × Option Nat × Octets) :=
  let interval (body : Octets) (close : Octets) : Option (Nat × Option Nat × Octets) :=
    let low := body.takeWhile Char.isDigit
    let rest := body.drop low.length
    match rest with
    | ',' :: more =>
      let high := more.takeWhile Char.isDigit
      let behind := more.drop high.length
      if close.isPrefixOf behind then
        some ((natOf? low).getD 0, natOf? high, behind.drop close.length)
      else none
    | _ =>
      if close.isPrefixOf rest then
        (natOf? low).map fun n => (n, some n, rest.drop close.length)
      else none
  match s.extended, octets with
  | _, '*' :: rest => some (0, none, rest)
  | true, '+' :: rest => some (1, none, rest)
  | true, '?' :: rest => some (0, some 1, rest)
  | true, '\x7b' :: rest => interval rest ['\x7d']
  | false, '\\' :: '+' :: rest => some (1, none, rest)
  | false, '\\' :: '?' :: rest => some (0, some 1, rest)
  | false, '\\' :: '\x7b' :: rest => interval rest ['\\', '\x7d']
  | _, _ => none

/-- The plan of a class with a letter behind a backslash. -/
def letterClass? (c : Char) : Option Plan :=
  let word (d : Char) : Bool := d.isAlphanum || d = '_'
  match c with
  | 'w' => some (.one word)
  | 'W' => some (.one fun d => !word d)
  | 's' => some (.one isSpace)
  | 'S' => some (.one fun d => !isSpace d)
  | 'b' => some (.condition (.boundary false))
  | 'B' => some (.condition (.notBoundary false))
  | '<' => some (.condition (.wordStart false))
  | '>' => some (.condition (.wordEnd false))
  | 'n' => some (.one (· = '\n'))
  | 't' => some (.one (· = '\t'))
  | _ => none

/-- The name of a group by its number. -/
def groupName (n : Nat) : List Char := decimal n

mutual

/-- Reads alternatives; `groups` is how many groups were opened. -/
def alternatives (s : Spelling) : Nat → Nat → Octets → Option (Plan × Nat × Octets)
  | 0, _, _ => none
  | fuel + 1, groups, octets =>
    match branch s fuel groups true .empty octets with
    | none => none
    | some (first, groups, rest) =>
      let bar :=
        match s.extended, rest with
        | true, '|' :: more => some more
        | false, '\\' :: '|' :: more => some more
        | _, _ => none
      match bar with
      | none => some (first, groups, rest)
      | some more =>
        match alternatives s fuel groups more with
        | none => none
        | some (second, groups, rest) => some (.choice first second, groups, rest)

/-- Reads atoms one after another; `start` tells whether nothing was read. -/
def branch (s : Spelling) : Nat → Nat → Bool → Plan → Octets → Option (Plan × Nat × Octets)
  | 0, _, _, _, _ => none
  | fuel + 1, groups, start, read, octets =>
    let ended :=
      match s.extended, octets with
      | _, [] => true
      | true, '|' :: _ => true
      | true, ')' :: _ => true
      | false, '\\' :: '|' :: _ => true
      | false, '\\' :: ')' :: _ => true
      | _, _ => false
    if ended then some (read, groups, octets)
    else
      match atom s fuel groups start octets with
      | none => none
      | some (plan, groups, rest) =>
        let (plan, rest) := repeated s fuel plan rest
        branch s fuel groups false (.sequence read plan) rest

/-- Reads the repetitions behind an atom. -/
def repeated (s : Spelling) : Nat → Plan → Octets → Plan × Octets
  | 0, plan, octets => (plan, octets)
  | fuel + 1, plan, octets =>
    match s.repetition? octets with
    | some (least, most, rest) => repeated s fuel (.repeated least most true plan) rest
    | none => (plan, octets)

/-- Reads an atom. -/
def atom (s : Spelling) : Nat → Nat → Bool → Octets → Option (Plan × Nat × Octets)
  | 0, _, _, _ => none
  | fuel + 1, groups, start, octets =>
    let group (rest : Octets) : Option (Plan × Nat × Octets) :=
      match alternatives s fuel (groups + 1) rest with
      | none => none
      | some (body, groups', behind) =>
        let close := if s.extended then [')'] else ['\\', ')']
        if close.isPrefixOf behind then
          some (.capture (groupName (groups + 1)) body, groups', behind.drop close.length)
        else none
    match octets with
    | [] => none
    | '\\' :: c :: rest =>
      if !s.extended && c = '(' then group rest
      else
        match letterClass? c with
        | some plan => some (plan, groups, rest)
        | none => some (s.octet c, groups, rest)
    | '[' :: rest => (s.among? rest).map fun (plan, behind) => (plan, groups, behind)
    | '.' :: rest => some (.one fun _ => true, groups, rest)
    | '^' :: rest =>
      if s.extended || start then some (.condition .textStart, groups, rest)
      else some (s.octet '^', groups, rest)
    | '$' :: rest =>
      let last := rest.isEmpty || "\\)".toList.isPrefixOf rest || "\\|".toList.isPrefixOf rest
      if s.extended || last then some (.condition .textEnd, groups, rest)
      else some (s.octet '$', groups, rest)
    | '(' :: rest => if s.extended then group rest else some (s.octet '(', groups, rest)
    | c :: rest => some (s.octet c, groups, rest)

end

/-- The plan of a regular expression; nothing if it is misspelt. The whole match is remembered
as the group zero. -/
def planOf? (s : Spelling) (text : Octets) : Option Plan :=
  match alternatives s (8 * text.length + 16) 0 text with
  | some (plan, _, []) => some (.capture (groupName 0) plan)
  | _ => none

/-- A match in a text: what is in front of it, what it matched, what is behind it, and its
groups. -/
structure Match where
  before : Octets
  matched : Octets
  after : Octets
  captures : Pattern.Captures

/-- The first match behind a cursor. -/
def matchFrom (plan : Plan) : Nat → Octets → Pattern.Cursor → Option Match
  | 0, _, _ => none
  | fuel + 1, passed, cursor =>
    match plan.captures? cursor with
    | some captures =>
      let matched := (captures.text? (groupName 0)).getD []
      some ⟨passed.reverse, matched, cursor.rest.drop matched.length, captures⟩
    | none =>
      match cursor.next? with
      | some (c, cursor) => matchFrom plan fuel (c :: passed) cursor
      | none => none

/-- The first match in a text behind an octet, if there is one in front. -/
def firstMatch (plan : Plan) (before : Option Char) (text : Octets) : Option Match :=
  matchFrom plan (text.length + 1) [] ⟨before, text, text.length, rfl⟩

/-! ### Searching -/

/-- All texts that a plan matches in a line; empty ones are left out. -/
def allMatches (plan : Plan) : Nat → Option Char → Octets → List Octets
  | 0, _, _ => []
  | fuel + 1, before, text =>
    match firstMatch plan before text with
    | none => []
    | some m =>
      if m.matched.isEmpty then
        match m.after with
        | c :: rest => allMatches plan fuel (some c) rest
        | [] => []
      else m.matched :: allMatches plan fuel m.matched.getLast? m.after

/-- Gives the lines in which a pattern is found. -/
def grep : Utility := fun c =>
  c.withOptions 2 "qvicnoEFGxwlshHaL" "emABC"
    [("quiet", 'q'), ("silent", 'q'), ("count", 'c'), ("ignore-case", 'i'), ("invert-match", 'v')]
    fun o =>
      let written := o.values 'e'
      let (patterns, names) :=
        if written.isEmpty then (o.operands.take 1, o.operands.drop 1) else (written, o.operands)
      let patterns := patterns.flatMap (splitOn '\n')
      if written.isEmpty && o.operands.isEmpty then
        c.effect 2 [(.errors, ("Usage: grep [OPTION]... PATTERNS [FILE]...\n" ++
          "Try 'grep --help' for more information.\n").toList)]
      else
        let spelling : Spelling := ⟨o.has 'E' && !o.has 'F', o.has 'i'⟩
        let plan? (p : Octets) : Option Plan :=
          if o.has 'F' then
            some (.capture (groupName 0) (p.foldl (fun plan d => .sequence plan (spelling.octet d))
              .empty))
          else planOf? spelling p
        match patterns.mapM plan? with
        | none => c.fail 2 "Invalid regular expression".toList
        | some plans =>
          let edge (test : Option Char → Bool) (m : Match) (line : Octets) : Bool :=
            test (m.before.getLast?) && test (m.after.head?) && !line.isEmpty
          let isEdge (d : Option Char) : Bool := !d.any fun d => d.isAlphanum || d = '_'
          let hits (line : Octets) : Bool :=
            (plans.any fun plan =>
              match firstMatch plan none line with
              | none => false
              | some m =>
                if o.has 'x' then m.matched.length = line.length
                else if o.has 'w' then edge isEdge m line
                else true) != o.has 'v'
          let files := c.openAll names
          let named := (files.length > 1 || o.has 'H') && !o.has 'h'
          let titled (name line : Octets) : Octets :=
            if named then name ++ ':' :: line else line
          let textOf (name : Octets) (s : Stream) : Octets × Bool :=
            let lines := (linesOf s.octets).zipIdx 1
            let found := lines.filter fun (line, _) => hits line
            let found :=
              match (o.value? 'm').bind natOf? with
              | some n => found.take n
              | none => found
            let numbered (i : Nat) (line : Octets) : Octets :=
              if o.has 'n' then decimal i ++ ':' :: line else line
            let text :=
              if o.has 'q' then []
              else if o.has 'l' then (if found.isEmpty then [] else name ++ ['\n'])
              else if o.has 'c' then titled name (decimal found.length) ++ ['\n']
              else if o.has 'o' then
                found.flatMap fun (line, i) =>
                  plans.flatMap fun plan =>
                    (allMatches plan (line.length + 1) none line).flatMap fun m =>
                      titled name (numbered i m) ++ ['\n']
              else found.flatMap fun (line, i) => titled name (numbered i line) ++ ['\n']
            (text, !found.isEmpty)
          let results := files.map fun (name, file) =>
            match file with
            | .ok s =>
              let (text, any) := textOf (if name = ['-'] then "(standard input)".toList else name) s
              (some (Side.output, text), any, false)
            | .error fault =>
              (if o.has 's' then none else some (c.fileComplaint name fault), false, true)
          let any := results.any fun r => r.2.1
          let bad := results.any fun r => r.2.2
          let never := files.any fun (_, file) => match file with
            | .ok s => !s.ends
            | .error _ => false
          { c.effect (if bad && !(any && o.has 'q') then 2 else if any then 0 else 1)
              (results.filterMap Prod.fst) with pause := if never then none else some 0 }

/-! ### Editing -/

/-- Which lines a command of an edit concerns. -/
inductive Address where
  | number (n : Nat)
  | last
  | matching (plan : Plan)
  | step (first step : Nat)

/-- What a command of an edit does. -/
inductive Edit where
  | substitute (plan : Plan) (replacement : Octets) (global print : Bool) (nth : Nat)
  | delete
  | print
  | quit (code : Nat) (printing : Bool)
  | next
  | appendNext
  | number
  | exchange (table : List (Char × Char))
  | insert (text : Octets)
  | append (text : Octets)
  | change (text : Octets)
  | hold
  | holdMore
  | fetch
  | fetchMore
  | swap
  | nothing

/-- A command of an edit with the lines it concerns. -/
structure EditCommand where
  first : Option Address
  second : Option Address
  negated : Bool
  edit : Edit
  /-- How many of the commands behind this one belong to it. -/
  body : Nat

/-- Octets up to a delimiter that is not protected by a backslash, and what follows it. A
protected delimiter loses its backslash. -/
def delimited (delimiter : Char) : Octets → Octets → Option (Octets × Octets)
  | _, [] => none
  | read, '\\' :: d :: rest =>
    if d = delimiter then delimited delimiter (d :: read) rest
    else delimited delimiter (d :: '\\' :: read) rest
  | read, c :: rest =>
    if c = delimiter then some (read.reverse, rest) else delimited delimiter (c :: read) rest

/-- Reads an address, if there is one. -/
def address? (s : Spelling) (octets : Octets) : Option Address × Octets :=
  match octets with
  | '$' :: rest => (some .last, rest)
  | '/' :: rest =>
    match delimited '/' [] rest with
    | some (text, after) =>
      let (ignoring, after) :=
        if after.head? = some 'I' then (true, after.drop 1) else (false, after)
      ((planOf? { s with ignoreCase := ignoring } text).map .matching, after)
    | none => (none, octets)
  | _ =>
    let digits := octets.takeWhile Char.isDigit
    let rest := octets.drop digits.length
    match natOf? digits, rest with
    | some n, '~' :: more =>
      let step := more.takeWhile Char.isDigit
      (some (.step n ((natOf? step).getD 1)), more.drop step.length)
    | some n, _ => (some (.number n), rest)
    | none, _ => (none, octets)

/-- The text of a command that adds lines, and what follows it. -/
def editText (octets : Octets) : Octets × Octets :=
  let rest := octets.dropWhile fun c => c = ' ' || c = '\t'
  let rest :=
    match rest with
    | '\\' :: '\n' :: more => more
    | '\\' :: more => more.dropWhile fun c => c = ' ' || c = '\t'
    | _ => rest
  let text := rest.takeWhile (· ≠ '\n')
  (text ++ ['\n'], (rest.drop text.length).drop 1)

/-- Reads what a command does, and what follows it. -/
def edit? (s : Spelling) (octets : Octets) : Option (Edit × Octets) :=
  match octets with
  | 's' :: delimiter :: rest =>
    match delimited delimiter [] rest with
    | none => none
    | some (pattern, rest) =>
      match delimited delimiter [] rest with
      | none => none
      | some (replacement, rest) =>
        let flags := rest.takeWhile fun c => "gpiI0123456789".toList.contains c
        let ignoring := flags.contains 'i' || flags.contains 'I'
        let nth := (natOf? (flags.filter Char.isDigit)).getD 1
        (planOf? { s with ignoreCase := ignoring } pattern).map fun plan =>
          (.substitute plan replacement (flags.contains 'g') (flags.contains 'p') nth,
            rest.drop flags.length)
  | 'y' :: delimiter :: rest =>
    match delimited delimiter [] rest with
    | none => none
    | some (old, rest) =>
      match delimited delimiter [] rest with
      | none => none
      | some (new, rest) =>
        let old := (Printing.unescaped .builtIn old).1
        let new := (Printing.unescaped .builtIn new).1
        some (.exchange (old.zip new), rest)
  | 'd' :: rest => some (.delete, rest)
  | 'p' :: rest => some (.print, rest)
  | 'q' :: rest =>
    let rest := rest.dropWhile (· = ' ')
    let digits := rest.takeWhile Char.isDigit
    some (.quit ((natOf? digits).getD 0) true, rest.drop digits.length)
  | 'Q' :: rest =>
    let rest := rest.dropWhile (· = ' ')
    let digits := rest.takeWhile Char.isDigit
    some (.quit ((natOf? digits).getD 0) false, rest.drop digits.length)
  | 'n' :: rest => some (.next, rest)
  | 'N' :: rest => some (.appendNext, rest)
  | '=' :: rest => some (.number, rest)
  | 'h' :: rest => some (.hold, rest)
  | 'H' :: rest => some (.holdMore, rest)
  | 'g' :: rest => some (.fetch, rest)
  | 'G' :: rest => some (.fetchMore, rest)
  | 'x' :: rest => some (.swap, rest)
  | 'i' :: rest => let (text, rest) := editText rest; some (.insert text, rest)
  | 'a' :: rest => let (text, rest) := editText rest; some (.append text, rest)
  | 'c' :: rest => let (text, rest) := editText rest; some (.change text, rest)
  | _ => none

/-- Reads the commands of an edit up to a closing brace or the end. -/
def editCommands? (s : Spelling) : Nat → Octets → Option (List EditCommand × Octets)
  | 0, _ => none
  | fuel + 1, octets =>
    let rest := octets.dropWhile fun c => c = ' ' || c = '\t' || c = '\n' || c = ';'
    match rest with
    | [] => some ([], [])
    | '\x7d' :: after => some ([], after)
    | '#' :: after => editCommands? s fuel (after.dropWhile (· ≠ '\n'))
    | _ =>
      let (first, rest) := address? s rest
      let (second, rest) :=
        match first, rest with
        | some _, ',' :: more => address? s (more.dropWhile (· = ' '))
        | _, _ => (none, rest)
      let rest := rest.dropWhile (· = ' ')
      let (negated, rest) :=
        match rest with
        | '!' :: more => (true, more.dropWhile (· = ' '))
        | _ => (false, rest)
      match rest with
      | '\x7b' :: inner =>
        match editCommands? s fuel inner with
        | none => none
        | some (body, behind) =>
          match editCommands? s fuel behind with
          | none => none
          | some (others, after) =>
            some (⟨first, second, negated, .nothing, body.length⟩ :: body ++ others, after)
      | _ =>
        match edit? s rest with
        | none => none
        | some (edit, behind) =>
          let behind := behind.dropWhile fun c => c = ' ' || c = '\t'
          if behind.isEmpty || behind.head? = some ';' || behind.head? = some '\n'
              || behind.head? = some '\x7d' || rest.head? = some 'i' || rest.head? = some 'a'
              || rest.head? = some 'c' then
            match editCommands? s fuel behind with
            | none => none
            | some (others, after) => some (⟨first, second, negated, edit, 0⟩ :: others, after)
          else none

/-- The text that a replacement stands for. -/
def replacementOf (m : Match) : Octets → Octets
  | [] => []
  | '&' :: rest => m.matched ++ replacementOf m rest
  | '\\' :: c :: rest =>
    (if c.isDigit then (m.captures.text? [c]).getD []
      else if c = 'n' then ['\n'] else if c = 't' then ['\t'] else [c]) ++ replacementOf m rest
  | c :: rest => c :: replacementOf m rest

/-- A line with matches of a plan replaced, from the one of a number on, and whether one was. -/
def substituteIn (plan : Plan) (replacement : Octets) (global : Bool) (nth : Nat) :
    Nat → Nat → Option Char → Octets → Octets × Bool
  | 0, _, _, text => (text, false)
  | fuel + 1, seen, before, text =>
    match firstMatch plan before text with
    | none => (text, false)
    | some m =>
      let chosen := seen + 1 = nth || (global && nth ≤ seen + 1)
      let piece := if chosen then replacementOf m replacement else m.matched
      if chosen && !global then (m.before ++ piece ++ m.after, true)
      else
        match m.matched.isEmpty, m.after with
        | true, [] => (m.before ++ piece, chosen)
        | true, c :: rest =>
          let (more, again) :=
            substituteIn plan replacement global nth fuel (seen + 1) (some c) rest
          (m.before ++ piece ++ c :: more, chosen || again)
        | false, [] => (m.before ++ piece, chosen)
        | false, rest =>
          let (more, again) :=
            substituteIn plan replacement global nth fuel (seen + 1) m.matched.getLast? rest
          (m.before ++ piece ++ more, chosen || again)

/-- Where an edit is: the line at hand, its number, the lines to come, what is held, what was
printed (the last first), what is to be printed behind the line, the commands whose ranges are
open, and the exit code if the edit ends. -/
structure Editing where
  line : Octets
  number : Nat
  coming : List Octets
  held : Octets
  printed : List Octets
  behind : List Octets
  openRanges : List (Nat × Nat)
  deleted : Bool
  quit : Option (Nat × Bool)

/-- Whether an address concerns the line at hand. -/
def Address.concerns (e : Editing) : Address → Bool
  | .number n => e.number = n
  | .last => e.coming.isEmpty
  | .matching plan => (firstMatch plan none e.line).isSome
  | .step first stride =>
    if stride = 0 then e.number = first else first ≤ e.number && (e.number - first) % stride = 0

/-- Whether a command concerns the line at hand, and the ranges open behind it. -/
def concerns (c : EditCommand) (index : Nat) (e : Editing) : Bool × List (Nat × Nat) :=
  match c.first, c.second with
  | none, _ => (true, e.openRanges)
  | some first, none => (first.concerns e, e.openRanges)
  | some first, some second =>
    match e.openRanges.lookup index with
    | some _ =>
      let ended : Bool :=
        match second with
        | .number n => n ≤ e.number
        | a => a.concerns e
      let inside : Bool :=
        match second with
        | .number n => e.number ≤ n
        | _ => true
      (inside, if ended then e.openRanges.filter (·.1 ≠ index) else e.openRanges)
    | none =>
      if first.concerns e then
        let closed : Bool :=
          match second with
          | .number n => n ≤ e.number
          | _ => false
        (true, if closed then e.openRanges else (index, e.number) :: e.openRanges)
      else (false, e.openRanges)

/-- Prints a line. -/
def Editing.print (e : Editing) (text : Octets) : Editing := { e with printed := text :: e.printed }

/-- Carries out the commands of an edit on the line at hand. -/
def carryOut (quiet : Bool) : Nat → Nat → List EditCommand → Editing → Editing
  | 0, _, _, e => e
  | _, _, [], e => e
  | fuel + 1, index, c :: rest, e =>
    let (here, ranges) := concerns c index e
    let e := { e with openRanges := ranges }
    if here = c.negated then
      carryOut quiet fuel (index + 1 + c.body) (rest.drop c.body) e
    else
      let go (e : Editing) : Editing := carryOut quiet fuel (index + 1) rest e
      match c.edit with
      | .nothing => go e
      | .substitute plan replacement global print nth =>
        let (line, done) :=
          substituteIn plan replacement global nth (e.line.length + 2) 0 none e.line
        let e := { e with line := line }
        go (if done && print then e.print line else e)
      | .delete => { e with deleted := true }
      | .print => go (e.print e.line)
      | .quit code printing => { e with quit := some (code, printing) }
      | .next =>
        match e.coming with
        | [] => { e with quit := some (0, true) }
        | line :: coming =>
          let e := if quiet then e else e.print e.line
          go { e with line := line, coming := coming, number := e.number + 1 }
      | .appendNext =>
        match e.coming with
        | [] => { e with quit := some (0, true) }
        | line :: coming =>
          go { e with line := e.line ++ '\n' :: line, coming := coming, number := e.number + 1 }
      | .number => go (e.print (decimal e.number))
      | .exchange table => go { e with line := e.line.map fun d => (table.lookup d).getD d }
      | .insert text => go (e.print text.dropLast)
      | .append text => go { e with behind := e.behind ++ [text.dropLast] }
      | .change text =>
        let inside := ranges.any (·.1 = index)
        if inside then { e with deleted := true }
        else { e.print text.dropLast with deleted := true }
      | .hold => go { e with held := e.line }
      | .holdMore => go { e with held := e.held ++ '\n' :: e.line }
      | .fetch => go { e with line := e.held }
      | .fetchMore => go { e with line := e.line ++ '\n' :: e.held }
      | .swap => go { e with line := e.held, held := e.line }

/-- Edits the lines to come. -/
def editLines (quiet : Bool) (commands : List EditCommand) : Nat → Editing → Editing
  | 0, e => e
  | fuel + 1, e =>
    match e.coming with
    | [] => e
    | line :: coming =>
      let e := { e with
        line := line, coming := coming, number := e.number + 1, behind := [], deleted := false }
      let e := carryOut quiet (commands.length + 1) 0 commands e
      let printing :=
        match e.quit with
        | some (_, printing) => printing
        | none => true
      let e := if quiet || e.deleted || !printing then e else e.print e.line
      let e := { e with printed := e.behind.reverse ++ e.printed }
      if e.quit.isSome then e else editLines quiet commands fuel e

/-- Edits lines by commands. -/
def sed : Utility := fun c =>
  c.withOptions 1 "nErsiuz" "ef"
      [("quiet", 'n'), ("silent", 'n'), ("regexp-extended", 'E')] fun o =>
    let written := o.values 'e'
    let (scripts, names) :=
      if written.isEmpty then (o.operands.take 1, o.operands.drop 1) else (written, o.operands)
    let text := joinWith ['\n'] scripts
    if scripts.isEmpty then
      c.effect 1 [(.errors,
        "Usage: sed [OPTION]... \x7bscript-only-if-no-other-script\x7d [input-file]...\n".toList)]
    else
      match editCommands? ⟨o.has 'E' || o.has 'r', false⟩ (4 * text.length + 8) text with
      | none =>
        c.fail 1 ("-e expression #1, char ".toList ++ decimal text.length ++
          ": unknown command".toList)
      | some (commands, _) =>
        let run (s : Stream) : Octets × Nat :=
          let lines := linesOf s.octets
          let e := editLines (o.has 'n') commands (lines.length + 1)
            ⟨[], 0, lines, [], [], [], [], false, none⟩
          let text := closeLines e.printed.reverse
          let open_ := !s.octets.isEmpty && s.octets.getLast? ≠ some '\n' && e.coming.isEmpty
          (if open_ then text.dropLast else text, (e.quit.map Prod.fst).getD 0)
        if o.has 'i' then
          let (tree, complaints) := names.foldl (fun (tree, complaints) name =>
            match c.open_ name with
            | .error fault =>
              (tree, complaints ++ [c.complaint ("can't read ".toList ++ name ++ [':', ' '] ++
                fault.text.toList)])
            | .ok s =>
              match tree.write c.directory (Call.path name) (run s).1 with
              | .ok tree => (tree, complaints)
              | .error _ => (tree, complaints)) (c.tree, [])
          { c.effect (if complaints.isEmpty then 0 else 1) complaints with tree := tree }
        else
          let files := c.openAll names
          let complaints := files.filterMap fun (name, file) =>
            match file with
            | .ok _ => none
            | .error fault =>
              some (c.complaint ("can't read ".toList ++ name ++ [':', ' '] ++ fault.text.toList))
          let s := files.foldr (fun (_, file) s =>
            match file with
            | .ok t => t.append s
            | .error _ => s) .empty
          let (text, code) := run s
          { c.effect (if code ≠ 0 then code else if complaints.isEmpty then 0 else 2)
              (complaints ++ [(.output, text)]) with pause := if s.ends then some 0 else none }

end Utility

end Bench

end Timekeeper
