import Timekeeper.Bench.Shell.Script

/-!
# Reading scripts

`Shell.read` reads a script by recursive descent. The reader works on the octets that are left;
tokens are made on demand, since whether a word is a keyword depends on where it stands. The
body of a here-document is taken out of the text as soon as its delimiter is read, and its
lines are added to the count when the line of the delimiter ends.

Every function takes a fuel that is larger than the depth of its calls can be for the text.
-/

namespace Timekeeper

namespace Bench

namespace Shell

/-! ### Tokens -/

/-- A token. -/
inductive Token where
  | word (pieces : Word)
  | sign (text : Octets)
  | redirect (descriptor : Nat) (sign : Octets)
  | newline
  | finish

/-- Where a reader is: the octets left, the line, the lines of here-documents to be added at the
end of this line, and a token that was looked at but not taken. -/
structure Place where
  rest : Octets
  line : Nat
  owed : Nat
  ahead : Option Token

/-- A reader of something. -/
abbrev ReadM (α : Type) := StateT Place (Except Flaw) α

/-- Fails with what is said about this line. -/
def fail (text : String) : ReadM α := do throw ⟨(← get).line, text⟩

/-- Goes on with other octets, the ones in front of them being read. -/
def moveTo (taken rest : Octets) : ReadM Unit := modify fun p =>
  let feeds := taken.count '\n'
  if feeds = 0 then { p with rest := rest }
  else { p with rest := rest, line := p.line + feeds + p.owed, owed := 0 }

/-- Takes so many octets. -/
def skip (count : Nat) : ReadM Unit := do
  let rest := (← get).rest
  moveTo (rest.take count) (rest.drop count)

/-- Octets without blanks, joined lines and a comment in front, and the joined lines. -/
def dropBlanks : Octets → Nat → Octets × Nat
  | ' ' :: rest, joined => dropBlanks rest joined
  | '\t' :: rest, joined => dropBlanks rest joined
  | '\\' :: '\n' :: rest, joined => dropBlanks rest (joined + 1)
  | '#' :: rest, joined => (rest.dropWhile (· ≠ '\n'), joined)
  | octets, joined => (octets, joined)

/-- Takes blanks and a comment. -/
def skipBlanks : ReadM Unit := modify fun p =>
  let (rest, joined) := dropBlanks p.rest 0
  { p with rest := rest, line := p.line + joined }

/-- Whether an octet ends a word that is not quoted. -/
def endsWord (c : Char) : Bool :=
  c = ' ' || c = '\t' || c = '\n' || c = ';' || c = '&' || c = '|' || c = '<' || c = '>'
    || c = '(' || c = ')'

/-- Whether an octet can begin a name. -/
def startsName (c : Char) : Bool := c.isAlpha || c = '_'

/-- Whether an octet can continue a name. -/
def continuesName (c : Char) : Bool := c.isAlphanum || c = '_'

/-- Whether octets are a name. -/
def isName (octets : Octets) : Bool :=
  match octets with
  | c :: rest => startsName c && rest.all continuesName
  | [] => false

/-- Whether an octet alone names a parameter. -/
def isSpecial (c : Char) : Bool :=
  c = '@' || c = '*' || c = '#' || c = '?' || c = '-' || c = '$' || c = '!'

/-- The signs that direct a descriptor, longer ones first. -/
def directions : List Octets :=
  ["<<-", "<<", "<&", "<>", "<", ">>", ">&", ">|", ">"].map String.toList

/-- The signs between commands, longer ones first. -/
def signs : List Octets := ["&&", "||", ";;", ";", "&", "|", "(", ")"].map String.toList

/-! ### Raw texts -/

/-- The octets of a sum up to the brackets that close it, and what follows them. -/
def splitSum : Nat → Octets → Octets → Option (Octets × Octets)
  | _, _, [] => none
  | 0, taken, ')' :: ')' :: rest => some (taken.reverse, rest)
  | 0, _, ')' :: _ => none
  | depth + 1, taken, ')' :: rest => splitSum depth (')' :: taken) rest
  | depth, taken, '(' :: rest => splitSum (depth + 1) ('(' :: taken) rest
  | depth, taken, c :: rest => splitSum depth (c :: taken) rest

/-- The octets up to a back quote, and what follows it. A backslash protects a back quote, a
dollar sign and itself, and between quotes a quote. -/
def splitBackQuote (quoted : Bool) : Octets → Octets → Option (Octets × Octets)
  | _, [] => none
  | taken, '\x60' :: rest => some (taken.reverse, rest)
  | taken, '\\' :: c :: rest =>
    if c = '\x60' || c = '$' || c = '\\' || (quoted && c = '"') then
      splitBackQuote quoted (c :: taken) rest
    else splitBackQuote quoted (c :: '\\' :: taken) rest
  | taken, c :: rest => splitBackQuote quoted (c :: taken) rest

/-- The lines of octets, of which the last can be unfinished. -/
def rawLines (octets : Octets) : List Octets :=
  octets.foldr (fun c lines =>
    if c = '\n' then [] :: lines
    else
      match lines with
      | [] => [[c]]
      | line :: others => (c :: line) :: others) [[]]

/-- The body of a here-document and the lines behind its delimiter. -/
def splitDocument (tabs : Bool) (delimiter : Octets) :
    List Octets → List Octets → List Octets × List Octets
  | body, [] => (body.reverse, [])
  | body, line :: rest =>
    let line := if tabs then line.dropWhile (· = '\t') else line
    if line = delimiter then (body.reverse, rest)
    else if rest.isEmpty && line.isEmpty then (body.reverse, [])
    else splitDocument tabs delimiter (line :: body) rest

/-! ### Words -/

/-- In what surroundings pieces are read. -/
inductive Surroundings where
  /-- A word of a command. -/
  | bare
  /-- Text between double quotes. -/
  | quotes
  /-- The word of a parameter's change. -/
  | braces (quoted : Bool)
  /-- A whole text: a here-document or a sum. -/
  | document
deriving DecidableEq

/-- Whether pieces in some surroundings are quoted. -/
def Surroundings.quoted : Surroundings → Bool
  | bare => false
  | quotes => true
  | braces q => q
  | document => true

/-- Whether an octet ends pieces in some surroundings. -/
def Surroundings.endsAt (s : Surroundings) (c : Char) : Bool :=
  match s with
  | bare => endsWord c
  | quotes => c = '"'
  | braces _ => c = '\x7d'
  | document => false

/-- Whether an octet stands for itself in some surroundings. -/
def Surroundings.isPlain (s : Surroundings) (c : Char) : Bool :=
  !s.endsAt c && c ≠ '\\' && c ≠ '$' && c ≠ '\x60' && (s = document || c ≠ '"')
    && (s.quoted || c ≠ '\'')

/-- Whether a backslash in a quoted text protects an octet. -/
def Surroundings.protects (s : Surroundings) (c : Char) : Bool :=
  c = '$' || c = '\x60' || c = '\\' || (s ≠ document && c = '"')
    || (s = braces true && c = '\x7d')

/-- The text of a word that is one literal without quotes. -/
def bareText? (pieces : Word) : Option Octets :=
  match pieces with
  | [.literal false text] => some text
  | _ => none

/-- The text of a word whose pieces are all literals, and whether one of them was quoted. -/
def literalText (pieces : Word) : Octets × Bool :=
  pieces.foldl (fun (text, quoted) piece =>
    match piece with
    | .literal q t => (text ++ t, quoted || q)
    | .parameter _ name _ => (text ++ '$' :: name, quoted)
    | _ => (text, quoted)) ([], false)

/-- The word of an assignment: its name and its value. -/
def assignment? (pieces : Word) : Option (Octets × Word) :=
  match pieces with
  | .literal false text :: rest =>
    let name := text.takeWhile (· ≠ '=')
    match text.drop name.length with
    | '=' :: value =>
      if isName name then
        some (name, if value.isEmpty then rest else .literal false value :: rest)
      else none
    | _ => none
  | _ => none

/-! ### What is said about tokens -/

/-- The words that are keywords where a command can begin. -/
def keywords : List String :=
  ["!", "case", "do", "done", "elif", "else", "esac", "fi", "for", "if", "in", "then", "until",
    "while", "\x7b", "\x7d"]

/-- The keyword that a token is, if it is one. -/
def Token.keyword? : Token → Option String
  | .word pieces =>
    match bareText? pieces with
    | some text =>
      if keywords.contains (String.ofList text) then some (String.ofList text) else none
    | none => none
  | _ => none

/-- How a token is called. -/
def Token.name (keywordHere : Bool) : Token → String
  | .sign text => "\"" ++ String.ofList text ++ "\""
  | .redirect .. => "redirection"
  | .newline => "newline"
  | .finish => "end of file"
  | t@(.word _) =>
    match keywordHere, t.keyword? with
    | true, some k => "\"" ++ k ++ "\""
    | _, _ => "word"

/-- Fails at an unexpected token. -/
def unexpected (t : Token) (keywordHere : Bool) (expected : Option String) : ReadM α :=
  fail ("Syntax error: " ++ t.name keywordHere ++ " unexpected" ++
    match expected with
    | some e => " (expecting \"" ++ e ++ "\")"
    | none => "")

/-- Gives a token back. -/
def putBack (t : Token) : ReadM Unit := modify fun p => { p with ahead := some t }

/-- Reads with another reader in a text of its own, from this line on. -/
def within (text : Octets) (inner : ReadM α) : ReadM α := do
  let p ← get
  match inner.run ⟨text, p.line, 0, none⟩ with
  | .ok (a, _) => return a
  | .error e => throw e

/-- The change that a sign asks for. -/
def changeOf (sign : Octets) (word : Word) : Change :=
  match String.ofList sign with
  | ":-" => .fallback true word
  | "-" => .fallback false word
  | ":=" => .assign true word
  | "=" => .assign false word
  | ":+" => .instead true word
  | "+" => .instead false word
  | ":?" => .demand true word
  | "?" => .demand false word
  | "##" => .cutFront true word
  | "#" => .cutFront false word
  | "%%" => .cutBack true word
  | "%" => .cutBack false word
  | _ => .unknown

/-- The signs of changes, longer ones first. -/
def changeSigns : List Octets :=
  [":-", ":=", ":+", ":?", "##", "%%", "-", "=", "+", "?", "#", "%"].map String.toList

/-- The name of a parameter in front of octets; nothing if there is none. -/
def parameterName (octets : Octets) : Octets :=
  match octets with
  | c :: _ =>
    if startsName c then octets.takeWhile continuesName
    else if c.isDigit then octets.takeWhile Char.isDigit
    else if isSpecial c then [c]
    else []
  | [] => []

mutual

/-- Reads pieces up to their end; the ones read so far come last first. -/
def pieces : Nat → Surroundings → Word → ReadM Word
  | 0, _, _ => fail "Syntax error: too deep"
  | fuel + 1, s, read => do
    let rest := (← get).rest
    match rest with
    | [] =>
      match s with
      | .bare | .document => return read.reverse
      | .quotes => fail "Syntax error: Unterminated quoted string"
      | .braces _ => fail "Syntax error: Missing '\x7d'"
    | c :: after =>
      if s.endsAt c then return read.reverse
      else if s.isPlain c then
        let text := rest.takeWhile s.isPlain
        moveTo text (rest.drop text.length)
        pieces fuel s (.literal s.quoted text :: read)
      else if c = '\'' then
        let text := after.takeWhile (· ≠ '\'')
        match after.drop text.length with
        | _ :: behind =>
          moveTo text behind
          pieces fuel s (.literal true text :: read)
        | [] =>
          moveTo text []
          fail "Syntax error: Unterminated quoted string"
      else if c = '"' then
        skip 1
        let inner ← pieces fuel .quotes []
        skip 1
        let inner := if inner.isEmpty then [.literal true []] else inner
        pieces fuel s (inner.reverse ++ read)
      else if c = '\\' then
        match after with
        | [] =>
          skip 1
          pieces fuel s (.literal true ['\\'] :: read)
        | '\n' :: _ =>
          skip 2
          pieces fuel s read
        | d :: _ =>
          skip 2
          if s.quoted && !s.protects d then pieces fuel s (.literal true ['\\', d] :: read)
          else pieces fuel s (.literal true [d] :: read)
      else if c = '\x60' then
        match splitBackQuote s.quoted [] after with
        | some (text, behind) =>
          let script ← within text (script fuel)
          moveTo text behind
          pieces fuel s (.output s.quoted script :: read)
        | none => fail "Syntax error: EOF in backquote substitution"
      else
        skip 1
        let piece ← dollar fuel s.quoted
        pieces fuel s (piece :: read)

/-- Reads what follows a dollar sign. -/
def dollar : Nat → Bool → ReadM Piece
  | 0, _ => fail "Syntax error: too deep"
  | fuel + 1, quoted => do
    let rest := (← get).rest
    match rest with
    | '(' :: '(' :: after =>
      match splitSum 0 [] after with
      | some (text, behind) =>
        let expression ← within text (pieces fuel .document [])
        moveTo text behind
        return .sum quoted expression
      | none => command fuel quoted
    | '(' :: _ => command fuel quoted
    | '\x7b' :: after =>
      moveTo [] after
      braced fuel quoted
    | c :: _ =>
      if c.isDigit then
        skip 1
        return .parameter quoted [c] .asIs
      else
        let name := parameterName rest
        if name.isEmpty then return .literal quoted ['$']
        moveTo [] (rest.drop name.length)
        return .parameter quoted name .asIs
    | [] => return .literal quoted ['$']

/-- Reads a script between brackets. -/
def command : Nat → Bool → ReadM Piece
  | 0, _ => fail "Syntax error: too deep"
  | fuel + 1, quoted => do
    skip 1
    let p ← get
    set { p with ahead := none }
    let body ← lines fuel true
    match ← token fuel with
    | .sign [')'] =>
      modify fun q => { q with ahead := p.ahead }
      return .output quoted (.mk body none)
    | t => unexpected t true (some ")")

/-- Reads a parameter between braces behind the opening one. -/
def braced : Nat → Bool → ReadM Piece
  | 0, _ => fail "Syntax error: too deep"
  | fuel + 1, quoted => do
    let rest := (← get).rest
    match rest with
    | '#' :: after =>
      let name := parameterName after
      match after.drop name.length with
      | '\x7d' :: behind =>
        if !name.isEmpty then
          moveTo [] behind
          return .parameter quoted name .size
        else
          moveTo [] behind
          return .parameter quoted ['#'] .asIs
      | _ => changed fuel quoted ['#'] after
    | _ =>
      let name := parameterName rest
      changed fuel quoted name (rest.drop name.length)

/-- Reads the change of a parameter. -/
def changed : Nat → Bool → Octets → Octets → ReadM Piece
  | 0, _, _, _ => fail "Syntax error: too deep"
  | fuel + 1, quoted, name, rest => do
    match rest with
    | '\x7d' :: behind =>
      moveTo [] behind
      return .parameter quoted name (if name.isEmpty then .unknown else .asIs)
    | _ =>
      match changeSigns.find? (·.isPrefixOf rest) with
      | some sign =>
        moveTo [] (rest.drop sign.length)
        let isCut := sign.head? = some '#' || sign.head? = some '%'
        let word ← pieces fuel (.braces (quoted && !isCut)) []
        skip 1
        return .parameter quoted name (if name.isEmpty then .unknown else changeOf sign word)
      | none =>
        moveTo [] rest
        let _ ← pieces fuel (.braces quoted) []
        skip 1
        return .parameter quoted name .unknown

/-- Reads the next token. -/
def token : Nat → ReadM Token
  | 0 => fail "Syntax error: too deep"
  | fuel + 1 => do
    match (← get).ahead with
    | some t =>
      modify fun p => { p with ahead := none }
      return t
    | none =>
      skipBlanks
      let rest := (← get).rest
      match rest with
      | [] => return .finish
      | '\n' :: _ =>
        skip 1
        return .newline
      | c :: _ =>
        let number := rest.takeWhile Char.isDigit
        let behind := rest.drop number.length
        match directions.find? (·.isPrefixOf behind) with
        | some sign =>
          moveTo [] (behind.drop sign.length)
          let descriptor :=
            if number.isEmpty then (if c = '<' then 0 else 1)
            else number.foldl (fun n d => n * 10 + (d.toNat - '0'.toNat)) 0
          return .redirect descriptor sign
        | none =>
          match signs.find? (·.isPrefixOf rest) with
          | some sign =>
            moveTo [] (rest.drop sign.length)
            return .sign sign
          | none => return .word (← pieces fuel .bare [])

/-- Reads the target of a redirection. -/
def redirection : Nat → Nat → Octets → ReadM Redirection
  | 0, _, _ => fail "Syntax error: too deep"
  | fuel + 1, descriptor, sign => do
    match ← token fuel with
    | .word target =>
      match String.ofList sign with
      | "<" => return .mk descriptor .input target
      | ">" | ">|" => return .mk descriptor .output target
      | ">>" => return .mk descriptor .append target
      | "<>" => return .mk descriptor .both target
      | "<&" | ">&" => return .mk descriptor .duplicate target
      | _ =>
        let (delimiter, quoted) := literalText target
        let p ← get
        let head := p.rest.takeWhile (· ≠ '\n')
        match p.rest.drop head.length with
        | _ :: behind =>
          let all := rawLines behind
          let (body, after) := splitDocument (sign.length = 3) delimiter [] all
          let text := body.flatMap (· ++ ['\n'])
          let rest := List.intercalate ['\n'] after
          set { p with rest := head ++ '\n' :: rest, owed := p.owed + (all.length - after.length) }
          if quoted then return .mk descriptor .document [.literal true text]
          else return .mk descriptor .document (← within text (pieces fuel .document []))
        | [] => return .mk descriptor .document [.literal true []]
    | t => unexpected t false none

/-- Reads redirections as long as there are some; the ones read so far come last first. -/
def redirections : Nat → List Redirection → ReadM (List Redirection)
  | 0, _ => fail "Syntax error: too deep"
  | fuel + 1, read => do
    match ← token fuel with
    | .redirect descriptor sign =>
      let r ← redirection fuel descriptor sign
      redirections fuel (r :: read)
    | t =>
      putBack t
      return read.reverse

/-- Takes the ends of lines. -/
def newlines : Nat → ReadM Unit
  | 0 => fail "Syntax error: too deep"
  | fuel + 1 => do
    match ← token fuel with
    | .newline => newlines fuel
    | t => putBack t

/-- Reads commands up to a token that cannot begin one. Over several lines, or on one line
only. -/
def lines : Nat → Bool → ReadM (List Command)
  | 0, _ => fail "Syntax error: too deep"
  | fuel + 1, several => do
    if several then newlines fuel
    let t ← token fuel
    putBack t
    let ends :=
      match t with
      | .finish | .newline => true
      | .sign s => s = [')'] || s = [';', ';']
      | .word _ =>
        match t.keyword? with
        | some k => ["do", "done", "elif", "else", "esac", "fi", "then", "\x7d"].contains k
        | none => false
      | .redirect .. => false
    if ends then return []
    let first ← chain fuel
    match ← token fuel with
    | .sign [';'] => return first :: (← lines fuel several)
    | .sign ['&'] => return .background first :: (← lines fuel several)
    | .newline =>
      if several then return first :: (← lines fuel several)
      else
        putBack .newline
        return [first]
    | t =>
      putBack t
      return [first]

/-- Reads commands that depend on each other. -/
def chain : Nat → ReadM Command
  | 0 => fail "Syntax error: too deep"
  | fuel + 1 => do
    let first ← pipeline fuel
    chainMore fuel first

/-- Reads the commands that depend on one. -/
def chainMore : Nat → Command → ReadM Command
  | 0, _ => fail "Syntax error: too deep"
  | fuel + 1, first => do
    match ← token fuel with
    | .sign ['&', '&'] =>
      newlines fuel
      let second ← pipeline fuel
      chainMore fuel (.both first second)
    | .sign ['|', '|'] =>
      newlines fuel
      let second ← pipeline fuel
      chainMore fuel (.either first second)
    | t =>
      putBack t
      return first

/-- Reads commands of which each reads what the one before prints. -/
def pipeline : Nat → ReadM Command
  | 0 => fail "Syntax error: too deep"
  | fuel + 1 => do
    let t ← token fuel
    let negated := t.keyword? = some "!"
    if !negated then putBack t
    let first ← single fuel
    let stages ← stages fuel [first]
    match stages with
    | [only] => if negated then return .pipeline true [only] else return only
    | _ => return .pipeline negated stages

/-- Reads the further stages of a pipeline; the ones read so far come last first. -/
def stages : Nat → List Command → ReadM (List Command)
  | 0, _ => fail "Syntax error: too deep"
  | fuel + 1, read => do
    match ← token fuel with
    | .sign ['|'] =>
      newlines fuel
      let next ← single fuel
      stages fuel (next :: read)
    | t =>
      putBack t
      return read.reverse

/-- Reads commands up to a keyword, and takes it. -/
def block : Nat → String → ReadM Command
  | 0, _ => fail "Syntax error: too deep"
  | fuel + 1, keyword => do
    let body ← lines fuel true
    let t ← token fuel
    if t.keyword? = some keyword then
      if body.isEmpty then unexpected t true none
      return .sequence body
    unexpected t true (some keyword)

/-- Reads one command. -/
def single : Nat → ReadM Command
  | 0 => fail "Syntax error: too deep"
  | fuel + 1 => do
    let t ← token fuel
    let line := (← get).line
    let close (body : Command) : ReadM Command := do
      match ← redirections fuel [] with
      | [] => return body
      | some_ => return .redirected line body some_
    match t with
    | .sign ['('] =>
      let body ← lines fuel true
      match ← token fuel with
      | .sign [')'] =>
        if body.isEmpty then unexpected (.sign [')']) true none
        close (.subshell (.sequence body))
      | t => unexpected t true (some ")")
    | .redirect .. =>
      putBack t
      simple fuel line [] [] []
    | .word pieces =>
      match t.keyword? with
      | some "\x7b" => close (.group (← block fuel "\x7d"))
      | some "if" => close (← conditional fuel [])
      | some "while" =>
        let test ← block fuel "do"
        close (.loop false test (← block fuel "done"))
      | some "until" =>
        let test ← block fuel "do"
        close (.loop true test (← block fuel "done"))
      | some "for" => close (← each fuel)
      | some "case" => close (← choice fuel)
      | some _ => unexpected t true none
      | none =>
        putBack (.word pieces)
        simple fuel line [] [] []
    | t => unexpected t true none

/-- Reads the arms of a conditional; the ones read so far come last first. -/
def conditional : Nat → List (Command × Command) → ReadM Command
  | 0, _ => fail "Syntax error: too deep"
  | fuel + 1, arms => do
    let test ← block fuel "then"
    let body ← lines fuel true
    let t ← token fuel
    let arms := (test, .sequence body) :: arms
    if body.isEmpty then unexpected t true none
    match t.keyword? with
    | some "elif" => conditional fuel arms
    | some "else" => return .conditional arms.reverse (some (← block fuel "fi"))
    | some "fi" => return .conditional arms.reverse none
    | _ => unexpected t true (some "fi")

/-- Reads a loop over words behind its keyword. -/
def each : Nat → ReadM Command
  | 0 => fail "Syntax error: too deep"
  | fuel + 1 => do
    match ← token fuel with
    | .word name =>
      let name := (bareText? name).getD []
      if !isName name then fail "Syntax error: Bad for loop variable"
      newlines fuel
      let t ← token fuel
      let words ←
        if t.keyword? = some "in" then do
          let words ← words fuel []
          match ← token fuel with
          | .sign [';'] | .newline => pure (some words)
          | t => unexpected t false none
        else do
          match t with
          | .sign [';'] => pure none
          | t =>
            putBack t
            pure none
      newlines fuel
      let t ← token fuel
      if t.keyword? = some "do" then return .each name words (← block fuel "done")
      unexpected t true (some "do")
    | _ => fail "Syntax error: Bad for loop variable"

/-- Reads words; the ones read so far come last first. -/
def words : Nat → List Word → ReadM (List Word)
  | 0, _ => fail "Syntax error: too deep"
  | fuel + 1, read => do
    match ← token fuel with
    | .word pieces => words fuel (pieces :: read)
    | t =>
      putBack t
      return read.reverse

/-- Reads a choice by wildcards behind its keyword. -/
def choice : Nat → ReadM Command
  | 0 => fail "Syntax error: too deep"
  | fuel + 1 => do
    match ← token fuel with
    | .word subject =>
      newlines fuel
      let t ← token fuel
      if t.keyword? = some "in" then return .choice subject (← arms fuel [])
      unexpected t true (some "in")
    | t => unexpected t false none

/-- Reads the arms of a choice; the ones read so far come last first. -/
def arms : Nat → List (List Word × Command) → ReadM (List (List Word × Command))
  | 0, _ => fail "Syntax error: too deep"
  | fuel + 1, read => do
    newlines fuel
    let t ← token fuel
    if t.keyword? = some "esac" then return read.reverse
    match t with
    | .sign ['('] => pure ()
    | t => putBack t
    let wildcards ← wildcards fuel []
    let body ← lines fuel true
    let arm := (wildcards, Command.sequence body)
    let t ← token fuel
    match t with
    | .sign [';', ';'] => arms fuel (arm :: read)
    | t =>
      if t.keyword? = some "esac" then return (arm :: read).reverse
      unexpected t true (some ";;")

/-- Reads the wildcards of an arm; the ones read so far come last first. -/
def wildcards : Nat → List Word → ReadM (List Word)
  | 0, _ => fail "Syntax error: too deep"
  | fuel + 1, read => do
    let pieces :=
      match ← token fuel with
      | .word pieces => pieces
      | _ => []
    match ← token fuel with
    | .sign ['|'] => wildcards fuel (pieces :: read)
    | .sign [')'] => return (pieces :: read).reverse
    | t => unexpected t false (some ")")

/-- Reads a simple command, or the definition of a function. -/
def simple : Nat → Nat → List (Octets × Word) → List Word → List Redirection → ReadM Command
  | 0, _, _, _, _ => fail "Syntax error: too deep"
  | fuel + 1, line, assignments, words, redirections => do
    match ← token fuel with
    | .redirect descriptor sign =>
      let r ← redirection fuel descriptor sign
      simple fuel line assignments words (r :: redirections)
    | .word pieces =>
      match words.isEmpty, assignment? pieces with
      | true, some assignment =>
        simple fuel line (assignment :: assignments) words redirections
      | _, _ => simple fuel line assignments (pieces :: words) redirections
    | t =>
      match t, words, assignments, redirections with
      | .sign ['('], [name], [], [] =>
        match ← token fuel with
        | .sign [')'] =>
          let name := (bareText? name).getD []
          if !isName name then fail "Syntax error: Bad function name"
          newlines fuel
          return .define name (← single fuel)
        | t => unexpected t false (some ")")
      | .sign ['('], _, _, _ => unexpected t true none
      | _, _, _, _ =>
        putBack t
        return .simple line assignments.reverse words.reverse redirections.reverse

/-- Reads a script to its end. A flaw ends it in front of the line that it is in. -/
def script : Nat → ReadM Script
  | 0 => return .mk [] none
  | fuel + 1 => do
    newlines fuel
    let p ← get
    let line : ReadM (Option Command) := do
      match ← token fuel with
      | .finish => return none
      | t =>
        putBack t
        let body ← lines fuel false
        match ← token fuel with
        | .newline | .finish => return some (.sequence body)
        | t => unexpected t true none
    match line.run p with
    | .error flaw => return .mk [] (some flaw)
    | .ok (none, _) => return .mk [] none
    | .ok (some first, p') =>
      set p'
      let .mk rest flaw ← script fuel
      return .mk (first :: rest) flaw

end

/-- Reads a script. -/
def read (text : Octets) : Script :=
  match (script (16 * text.length + 64)).run ⟨text, 1, 0, none⟩ with
  | .ok (s, _) => s
  | .error flaw => .mk [] (some flaw)

end Shell

end Bench

end Timekeeper
