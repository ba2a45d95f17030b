import Timekeeper.Bench.Shell.Builtin
import Timekeeper.Bench.Shell.Image
import Timekeeper.Bench.Sum

/-!
# Carrying out commands

`Shell.run` carries out a command. Words are expanded first, then redirections are made, then
variables are set, and then the command is looked for: among the special commands, the
functions, the commands of the shell, and the files.

The fuel of the functions here bounds how deep commands are nested; where it runs out, a script
is taken not to end.
-/

namespace Timekeeper

namespace Bench

namespace Shell

/-! ### Parameters -/

/-- The text of the switches that are on. -/
def Switches.letters (s : Switches) : Octets :=
  (if s.exitOnError then ['e'] else []) ++ (if s.failOnUnset then ['u'] else []) ++
    (if s.trace then ['x'] else [])

/-- The number by which a shell knows itself. -/
def ownNumber : Nat := 4242

/-- The value of a parameter other than the list of arguments. -/
def parameter? (s : State) (name : Octets) : Option Octets :=
  match name with
  | ['#'] => some (decimal s.arguments.length)
  | ['?'] => some (decimal s.status)
  | ['$'] => some (decimal ownNumber)
  | ['!'] => s.jobs.head?.map fun j => decimal j.number
  | ['-'] => some s.switches.letters
  | _ =>
    match natOf? name with
    | some 0 => some s.name
    | some (n + 1) => s.arguments[n]?
    | none => if name = "LINENO".toList then some (decimal s.line) else s.value? name

/-- The atoms of a value. -/
def valueAtoms (quoted : Bool) (value : Octets) : List Atom :=
  if quoted then .stay :: atomsOf .quoted value else atomsOf .expanded value

/-- The atoms of the list of arguments. -/
def argumentAtoms (s : State) (quoted joined : Bool) : List Atom :=
  if quoted && joined then
    .stay :: atomsOf .quoted (joinWith (s.separators.take 1) s.arguments)
  else List.intercalate [.boundary] (s.arguments.map (valueAtoms quoted))

/-- The variables behind a command that some values were set for: these are as they were
before. -/
def putBackVariables (before : List (Octets × Variable)) (values : List (Octets × Octets))
    (after : List (Octets × Variable)) : List (Octets × Variable) :=
  after.filterMap fun (name, v) =>
    if values.any (·.1 = name) then (before.lookup name).map fun old => (name, old)
    else some (name, v)

/-- What is said about a sum without value. -/
def sumText (text : Octets) : SumError → Octets
  | .illegal value => "Illegal number: ".toList ++ value
  | e =>
    let what :=
      match e with
      | .rest => "expecting EOF"
      | .bracket => "expecting ')'"
      | .colon => "expecting ':'"
      | .divisionByZero => "division by zero"
      | _ => "expecting primary"
    "arithmetic expression: ".toList ++ what.toList ++ ": \"".toList ++ text ++ ['"']

/-- The value of a sum. -/
def sumValue (text : Octets) : Eval Int := do
  let s ← get
  let values := s.bindings.filterMap fun (name, v) => v.value.map fun value => (name, value)
  match (Sum.read text).bind fun sum => sum.value values with
  | .error e => abandon (sumText text e)
  | .ok (n, after) =>
    for (name, value) in (after.take (after.length - values.length)).reverse do
      assign name value
    return n

/-! ### Redirections -/

/-- What is said about a file that a redirection cannot open. -/
def redirectionText (creating : Bool) (name : Octets) (fault : Fault) : Octets :=
  let why :=
    if fault = .noEntry || fault = .notDirectory then
      (if creating then "Directory nonexistent" else "No such file")
    else fault.text
  (if creating then "cannot create " else "cannot open ").toList ++ name ++ [':', ' '] ++ why.toList

/-- Leads a descriptor somewhere, or closes it. -/
def connect (descriptor : Nat) (channel : Option Channel) : Eval Unit := modify fun s =>
  let others := s.channels.filter (·.1 ≠ descriptor)
  match channel with
  | some c => { s with channels := (descriptor, c) :: others }
  | none => { s with channels := others }

/-- The channel that a device stands for. -/
def device? (path : String) (s : State) : Option (Option Channel) :=
  match path with
  | "/dev/null" => some (some .null)
  | "/dev/stdin" | "/dev/fd/0" => some (s.channels.lookup 0)
  | "/dev/stdout" | "/dev/fd/1" => some (s.channels.lookup 1)
  | "/dev/stderr" | "/dev/fd/2" => some (s.channels.lookup 2)
  | _ => none

/-- Opens a file for reading; tells whether it could. -/
def openInput (descriptor : Nat) (name : Octets) : Eval Bool := do
  let s ← get
  let path := Call.path name
  match device? path s with
  | some channel =>
    connect descriptor channel
    return true
  | none =>
    if path = "/dev/zero" then
      connect descriptor (some (.source (← newSource ⟨[], ['\x00']⟩)))
      return true
    else
      match s.world.tree.find s.directory path with
      | .ok (_, .file content _) =>
        connect descriptor (some (.source (← newSource (.ofOctets content))))
        return true
      | .ok (_, .directory) =>
        connect descriptor (some (.source (← newSource .empty)))
        return true
      | .error fault =>
        say (redirectionText false name fault)
        return false

/-- Opens a file for writing; tells whether it could. -/
def openOutput (descriptor : Nat) (appending : Bool) (name : Octets) : Eval Bool := do
  let s ← get
  let path := Call.path name
  match device? path s with
  | some channel =>
    connect descriptor channel
    return true
  | none =>
    match s.world.tree.target s.directory path with
    | .ok l =>
      changeWorld fun w =>
        match appending, w.tree.get? l with
        | true, some _ => w
        | _, _ => { w with tree := w.tree.setContent l [] }
      connect descriptor (some (.file l))
      return true
    | .error fault =>
      say (redirectionText true name fault)
      return false

/-- Leads a descriptor where another one leads; tells whether it could. -/
def duplicate (descriptor : Nat) (target : Octets) : Eval Bool := do
  if target = ['-'] then
    connect descriptor none
    return true
  else
    let channels := (← get).channels
    match (natOf? target).bind fun n => channels.lookup n with
    | some channel =>
      connect descriptor (some channel)
      return true
    | none =>
      say (target ++ ": Bad file descriptor".toList)
      return false

/-! ### Programs -/

/-- Whether a call of a utility reads its input: none of its arguments is a file. -/
def readsInput (s : State) (program : String) (arguments : List Octets) : Bool :=
  !(["sleep", "echo", "printf", "true", "false", "test", "[", "seq", "expr", "pwd", "ls", "rm",
      "mkdir", "rmdir", "touch", "cp", "mv", "chmod", "basename", "dirname",
      "yes"].contains program)
    && !arguments.any fun a => s.world.tree.isFile s.directory (Call.path a)

/-- Carries out what a utility does. -/
def runUtility (program : String) (u : Utility) (name : Octets) (arguments : List Octets) :
    Eval Unit := do
  let s ← get
  let channel := s.channels.lookup 0
  let input ← readable channel
  let e := u ⟨name, arguments, input, s.world.tree, s.directory⟩
  if readsInput s program arguments then leave channel .empty
  changeWorld fun w => { w with tree := e.tree }
  setStatus e.status
  for (side, text) in e.writes do
    match side with
    | .output =>
      if !(← emit 1 text) then
        let _ ← emit 2 (name ++ ": write error: Bad file descriptor\n".toList)
        setStatus 1
    | .errors => let _ ← emit 2 text
  if e.endless.isEmpty then pass e.pause
  else
    match s.channels.lookup 1 with
    | some (.sink n) =>
      if (s.world.sinks.getD n default).piped then
        changeWorld fun w =>
          { w with sinks := w.sinks.modify n fun sink => { sink with endless := e.endless } }
      else pass none
    | _ => pass none

/-- A shell for a new program: of the variables only those that are exported, and nothing else
of its own. -/
def State.fresh (s : State) (name : Octets) (arguments : List Octets) (switches : Switches) :
    State :=
  { s with
    name := name, arguments := arguments, switches := switches, functions := [], line := 1
    bindings := s.bindings.filter fun (_, v) => v.exported
    status := 0, substituted := none, tested := false, loops := 0, exitAction := none, jobs := []
    saved := [] }

/-- Reads the options of a call of a shell: the switches, whether a text is given, the other
arguments, and a letter that is none. -/
def readCall : Nat → Switches → Bool → List Octets →
    Switches × Bool × List Octets × Option Char
  | 0, s, c, arguments => (s, c, arguments, none)
  | _, s, c, [] => (s, c, [], none)
  | fuel + 1, s, c, argument :: rest =>
    match argument with
    | ['-', '-'] => (s, c, rest, none)
    | ['-'] => (s, c, rest, none)
    | ['-', 'o'] =>
      match rest with
      | name :: rest => readCall fuel ((s.turnNamed name true).getD s) c rest
      | [] => (s, c, [], none)
    | sign :: letters =>
      if sign = '-' || sign = '+' then
        let plain := letters.filter fun l => !"csl".toList.contains l
        match plain.foldl (fun (s, bad) l =>
            match s.turn l (sign = '-') with
            | some s => (s, bad)
            | none => (s, bad.orElse fun _ => some l)) (s, none) with
        | (s, none) => readCall fuel s (c || letters.contains 'c') rest
        | (s, some bad) => (s, c, rest, some bad)
      else (s, c, argument :: rest, none)
    | [] => (s, c, argument :: rest, none)

/-- Forgets the variables that the options of `env` name, and gives the other arguments. -/
def dropFromEnvironment : List Octets → Eval (List Octets)
  | ['-', 'i'] :: rest => do
    modify fun s => { s with bindings := [] }
    dropFromEnvironment rest
  | ['-', 'u'] :: name :: rest => do
    modify fun s => s.dropVariable name
    dropFromEnvironment rest
  | rest => return rest

/-- Words of a text between blanks. -/
def blankWords (text : Octets) : List Octets :=
  ((text.foldr (fun c words =>
    if Utility.isSpace c then [] :: words
    else
      match words with
      | [] => [[c]]
      | word :: others => (c :: word) :: others) [[]]).filter fun word => !word.isEmpty)

mutual

/-- Expands a piece of a word. -/
def expandPiece : Nat → Piece → Eval (List Atom)
  | 0, _ => throw .never
  | fuel + 1, piece => do
    match piece with
    | .literal true text => return .stay :: atomsOf .quoted text
    | .literal false text => return atomsOf .typed text
    | .output quoted script => return valueAtoms quoted (← substitute fuel script)
    | .sum quoted expression =>
      let text := textOf (← expandPieces fuel expression)
      return valueAtoms quoted (signedDecimal (← sumValue text))
    | .parameter quoted name change =>
      let s ← get
      let isList := name = ['@'] || name = ['*']
      let value :=
        if !isList then parameter? s name
        else if s.arguments.isEmpty then none
        else some (joinWith [' '] s.arguments)
      let own : List Atom :=
        if isList then argumentAtoms s quoted (name = ['*']) else valueAtoms quoted (value.getD [])
      let missing (emptyToo : Bool) : Bool :=
        match value with
        | none => true
        | some v => emptyToo && v.isEmpty
      let words (word : Word) : Eval (List Atom) := do
        let atoms ← expandPieces fuel word
        return if quoted then .stay :: atoms else asExpanded atoms
      match change with
      | .asIs =>
        if value.isNone && !isList && s.switches.failOnUnset then
          abandon (name ++ ": parameter not set".toList)
        return own
      | .size =>
        return valueAtoms quoted
          (decimal (if isList then s.arguments.length else (value.getD []).length))
      | .fallback emptyToo word => if missing emptyToo then words word else return own
      | .instead emptyToo word =>
        if missing emptyToo then return (if quoted then [.stay] else []) else words word
      | .assign emptyToo word =>
        if missing emptyToo then
          let text := textOf (← expandPieces fuel word)
          assign name text
          return valueAtoms quoted text
        else return own
      | .demand emptyToo word =>
        if missing emptyToo then
          let text := textOf (← expandPieces fuel word)
          let text :=
            if word.isEmpty then
              "parameter not set".toList ++ if emptyToo then " or null".toList else []
            else text
          abandon (name ++ [':', ' '] ++ text)
        else return own
      | .cutFront longest wildcard =>
        let wild := Wild.read (fieldOf (← expandPieces fuel wildcard))
        return valueAtoms quoted (Wild.cutFront longest wild (value.getD []))
      | .cutBack longest wildcard =>
        let wild := Wild.read (fieldOf (← expandPieces fuel wildcard))
        return valueAtoms quoted (Wild.cutBack longest wild (value.getD []))
      | .unknown => abandon "Bad substitution".toList

/-- Expands the pieces of a word. -/
def expandPieces : Nat → Word → Eval (List Atom)
  | 0, _ => throw .never
  | fuel + 1, pieces => do
    let parts ← pieces.mapM fun piece => expandPiece fuel piece
    return parts.flatten

/-- Expands a word in which a tilde at the beginning stands for the home directory. -/
def expandWord : Nat → Word → Eval (List Atom)
  | 0, _ => throw .never
  | fuel + 1, word => do
    match word with
    | .literal false ('~' :: rest) :: more =>
      if rest.isEmpty || rest.head? = some '/' then
        let home := ((← get).value? "HOME".toList).getD ['~']
        return atomsOf .quoted home ++ atomsOf .typed rest ++ (← expandPieces fuel more)
      else expandPieces fuel word
    | _ => expandPieces fuel word

/-- The texts that words stand for. -/
def expandWords : Nat → List Word → Eval (List Octets)
  | 0, _ => throw .never
  | fuel + 1, words => do
    let texts ← words.mapM fun word => do
      let atoms ← expandWord fuel word
      let s ← get
      let fields := splitFields s.separators atoms
      if s.switches.noWildcards then return fields.map Field.text
      return fields.flatMap (fieldTexts s.world.tree s.directory)
    return texts.flatten

/-- What a script prints, without the line feeds at its end. -/
def substitute : Nat → Script → Eval Octets
  | 0, _ => throw .never
  | fuel + 1, script => do
    let n ← newSink false
    apart do
      connect 1 (some (.sink n))
      runShell fuel (runScript fuel script)
    modify fun s => { s with substituted := some s.status }
    let printed := (← collected n).octets.filter (· ≠ '\x00')
    return (printed.reverse.dropWhile (· = '\n')).reverse

/-- Carries out a script. -/
def runScript : Nat → Script → Eval Unit
  | 0, _ => throw .never
  | fuel + 1, .mk commands flaw => do
    commands.forM fun command => run fuel command
    match flaw with
    | some flaw =>
      modify fun s => { s with line := flaw.line }
      abandon flaw.text.toList
    | none => return

/-- Does what a shell does, and then what it was asked to do at its end. -/
def runShell : Nat → Eval Unit → Eval Unit
  | 0, _ => throw .never
  | fuel + 1, body => do
    let stop ← attempt body
    match stop with
    | some (.exit n) => setStatus n
    | some (.returned n) => setStatus n
    | some .never => throw .never
    | _ => pure ()
    let s ← get
    match s.exitAction with
    | some text =>
      set { s with exitAction := none }
      runScript fuel (read text)
      setStatus s.status
    | none => return

/-- Carries out a text in a shell of its own. -/
def runText : Nat → Octets → List Octets → Switches → Octets → Eval Unit
  | 0, _, _, _, _ => throw .never
  | fuel + 1, name, arguments, switches, text => apart do
    modify fun s => s.fresh name arguments switches
    runShell fuel (runScript fuel (read text))

/-- Carries out a call of a shell. -/
def callShell : Nat → Octets → List Octets → Eval Unit
  | 0, _, _ => throw .never
  | fuel + 1, name, arguments => do
    let refuse (text : Octets) : Eval Unit := do
      let _ ← emit 2 (name ++ ": 0: ".toList ++ text ++ ['\n'])
      setStatus 2
    match readCall (arguments.length + 1) default false arguments with
    | (_, _, _, some bad) => refuse ("Illegal option -".toList ++ [bad])
    | (_, true, [], _) => refuse "-c requires an argument".toList
    | (switches, true, text :: rest, _) =>
      runText fuel (rest.headD name) (rest.drop 1) switches text
    | (switches, false, [], _) =>
      let channel := (← get).channels.lookup 0
      let text ← readable channel
      leave channel .empty
      runText fuel name [] switches text.octets
    | (switches, false, path :: rest, _) =>
      let s ← get
      match s.world.tree.find s.directory (Call.path path) with
      | .ok (_, .file content _) => runText fuel path rest switches content
      | .ok (_, .directory) => runText fuel path rest switches []
      | .error fault => refuse (redirectionText false path fault)

/-- Carries out an image. -/
def runImage : Nat → Image → Eval Unit
  | 0, _ => throw .never
  | fuel + 1, image => do
    match image.program with
    | none => runText fuel image.name image.arguments default image.content
    | some program =>
      match Installed.utilities.lookup program with
      | some u => runUtility program u image.name image.arguments
      | none =>
        if program = "sh" || program = "dash" then callShell fuel image.name image.arguments
        else callRunner fuel program image.name image.arguments

/-- Carries out a program that runs another one. -/
def callRunner : Nat → String → Octets → List Octets → Eval Unit
  | 0, _, _, _ => throw .never
  | fuel + 1, program, name, arguments => do
    let start (command : List Octets) : Eval Unit := do
      match command with
      | [] => return
      | target :: rest =>
        let s ← get
        match Image.resolve s.world.tree s.directory
            ((s.value? "PATH".toList).getD Installed.path.toList) target rest with
        | .ok image => apart (runImage fuel image)
        | .error fault =>
          let text := if program = "env" || program = "nohup" || program = "nice" then
              Call.quoteAlways target
            else if program = "timeout" then
              "failed to run command ".toList ++ Call.quoteAlways target
            else target
          let _ ← emit 2 (name ++ [':', ' '] ++ text ++ [':', ' '] ++ fault.text.toList ++ ['\n'])
          setStatus (if fault = .noEntry || fault = .notDirectory then 127 else 126)
    match program with
    | "env" =>
      let isSetting (a : Octets) : Bool := a.contains '=' && a.head? ≠ some '='
      apart do
        let rest ← dropFromEnvironment arguments
        let settings := rest.takeWhile isSetting
        for setting in settings do
          let (name, value) := nameAndValue setting
          modify fun s => s.putVariable name ⟨value, true, false⟩
        match rest.drop settings.length with
        | [] =>
          let lines := (← get).bindings.reverse.filterMap fun (name, v) =>
            if v.exported then v.value.map fun value => name ++ '=' :: value else none
          let _ ← emit 1 (closeLines lines)
          setStatus 0
        | command => start command
    | "nice" =>
      match arguments with
      | ['-', 'n'] :: _ :: rest => start rest
      | _ => start arguments
    | "timeout" =>
      let arguments := arguments.dropWhile fun a => a.head? = some '-'
      match arguments with
      | limit :: command =>
        match Utility.interval? limit with
        | none =>
          let _ ← emit 2 (name ++ ": invalid time interval ".toList ++ Call.quoteAlways limit ++
            ['\n'])
          setStatus 125
        | some bound =>
          let s ← get
          let own := s.world.clock + bound
          let first :=
            match s.world.horizon with
            | some h => min h own
            | none => own
          changeWorld fun w => { w with horizon := some first }
          let stop ← attempt (start command)
          changeWorld fun w => { w with horizon := s.world.horizon }
          match stop with
          | none => return
          | some stop =>
            if first < own then throw stop
            changeWorld fun w => { w with clock := own }
            setStatus 124
      | [] =>
        let _ ← emit 2 (name ++ ": missing operand\n".toList)
        setStatus 125
    | "xargs" =>
      let (count, command) :=
        match arguments with
        | ['-', 'n'] :: n :: rest => (natOf? n, rest)
        | ('-' :: 'n' :: n) :: rest => (natOf? n, rest)
        | _ => (none, arguments)
      let command := if command.isEmpty then ["echo".toList] else command
      let channel := (← get).channels.lookup 0
      let words := blankWords (← readable channel).octets
      leave channel .empty
      let groups :=
        match count with
        | some n =>
          (List.range ((words.length + n - 1) / max n 1)).map fun i => (words.drop (i * n)).take n
        | none => [words]
      setStatus 0
      for group in groups do
        start (command ++ group)
        let n := (← get).status
        if n ≠ 0 then setStatus (if n = 127 || n = 126 then n else 123)
    | _ => start arguments

/-- Makes redirections in order; tells whether all could be made. -/
def redirect : Nat → List Redirection → Eval Bool
  | 0, _ => throw .never
  | _, [] => return true
  | fuel + 1, .mk descriptor direction target :: rest => do
    let text := textOf (← expandWord fuel target)
    let made ←
      match direction with
      | .document => do
        connect descriptor (some (.source (← newSource (.ofOctets text))))
        pure true
      | .duplicate => duplicate descriptor text
      | .input => openInput descriptor text
      | .output => openOutput descriptor false text
      | .append => openOutput descriptor true text
      | .both =>
        if descriptor = 0 then openInput descriptor text else openOutput descriptor true text
    if made then redirect fuel rest else pure false

/-- Carries out a command. -/
def run : Nat → Command → Eval Unit
  | 0, _ => throw .never
  | fuel + 1, command => do
    match command with
    | .simple line assignments words redirections =>
      runSimple fuel line assignments words redirections
    | .pipeline negated stages =>
      if negated then
        testing (runStages fuel stages)
        let s ← get
        setStatus (if s.status = 0 then 1 else 0)
      else
        runStages fuel stages
        checkStatus
    | .both first second =>
      testing (run fuel first)
      if (← get).status = 0 then run fuel second
    | .either first second =>
      testing (run fuel first)
      if (← get).status ≠ 0 then run fuel second
    | .sequence commands => commands.forM fun c => run fuel c
    | .background body => runBehind fuel body
    | .group body => run fuel body
    | .subshell body =>
      apart (runShell fuel (run fuel body))
      checkStatus
    | .conditional arms otherwise => runArms fuel arms otherwise
    | .loop until_ test body =>
      setStatus 0
      let limit := (← get).world.budget + 1
      inLoop <| repeatWhile (do
        let before := (← get).status
        testing (run fuel test)
        let goes := ((← get).status = 0) != until_
        if !goes then setStatus before
        return goes) (run fuel body) limit
    | .each name words body =>
      let items ←
        match words with
        | some words => expandWords fuel words
        | none => do pure (← get).arguments
      setStatus 0
      inLoop <| forEach (fun item => do
        tick
        assign name item
        run fuel body) items
    | .choice word arms =>
      let subject := textOf (← expandWord fuel word)
      setStatus 0
      chooseArm fuel subject arms
    | .define name body =>
      modify fun s =>
        { s with functions := (name, body) :: s.functions.filter (·.1 ≠ name), status := 0 }
    | .redirected line body redirections =>
      modify fun s => { s with line := line }
      keepingChannels do
        if ← redirect fuel redirections then run fuel body else setStatus 2
      checkStatus

/-- Carries out the first arm of a conditional whose test succeeds. -/
def runArms : Nat → List (Command × Command) → Option Command → Eval Unit
  | 0, _, _ => throw .never
  | fuel + 1, [], otherwise => do
    match otherwise with
    | some body => run fuel body
    | none => setStatus 0
  | fuel + 1, (test, body) :: rest, otherwise => do
    testing (run fuel test)
    if (← get).status = 0 then run fuel body else runArms fuel rest otherwise

/-- Carries out the first arm of a choice with a wildcard that describes the subject. -/
def chooseArm : Nat → Octets → List (List Word × Command) → Eval Unit
  | 0, _, _ => throw .never
  | _, _, [] => return
  | fuel + 1, subject, (wildcards, body) :: rest => do
    let hits ← wildcards.mapM fun word => do
      let field := fieldOf (← expandWord fuel word)
      return Wild.describes (Wild.read field) subject
    if hits.any id then run fuel body else chooseArm fuel subject rest

/-- Carries out the stages of a pipeline, each in a shell of its own. All of them start at the
same time, and the last one to end is waited for. -/
def runStages : Nat → List Command → Eval Unit
  | 0, _ => throw .never
  | _, [] => return
  | fuel + 1, [only] => run fuel only
  | fuel + 1, stages => do
    let start := (← get).world.clock
    runStagesFrom fuel start none start stages

/-- Carries out the later stages of a pipeline that started at a given time: the first of them
reads from a pipe, and the stages before it ended at another time. -/
def runStagesFrom : Nat → Nat → Option Nat → Nat → List Command → Eval Unit
  | 0, _, _, _, _ => throw .never
  | _, _, _, finish, [] => changeWorld fun w => { w with clock := finish }
  | fuel + 1, start, input, finish, stage :: rest => do
    let output ← if rest.isEmpty then pure none else some <$> newSink true
    let source ←
      match input with
      | some n => do pure (some (← newSource (← collected n)))
      | none => pure none
    changeWorld fun w => { w with clock := start }
    apart do
      match source with
      | some n => connect 0 (some (.source n))
      | none => pure ()
      match output with
      | some n => connect 1 (some (.sink n))
      | none => pure ()
      runShell fuel (run fuel stage)
    runStagesFrom fuel start output (max finish (← get).world.clock) rest

/-- Carries out a command in the background: it starts now, and what follows does not wait for
it. It is not killed together with the shell. -/
def runBehind : Nat → Command → Eval Unit
  | 0, _ => throw .never
  | fuel + 1, body => do
    let before ← get
    changeWorld fun w => { w with horizon := none }
    let _ ← attempt do
      apart do
        connect 0 (some .null)
        runShell fuel (run fuel body)
    let after ← get
    let job : Job :=
      ⟨ownNumber + 1 + before.jobs.length, after.world.clock, after.status⟩
    changeWorld fun w => { w with clock := before.world.clock, horizon := before.world.horizon }
    modify fun s => { s with jobs := job :: before.jobs, status := 0 }

/-- Carries out a simple command. -/
def runSimple : Nat → Nat → List (Octets × Word) → List Word → List Redirection → Eval Unit
  | 0, _, _, _, _ => throw .never
  | fuel + 1, line, assignments, words, redirections => do
    tick
    modify fun s => { s with line := line, substituted := none }
    let texts ← expandWords fuel words
    let setAll (exported : Bool) : Eval (List (Octets × Octets)) :=
      assignments.mapM fun (name, word) => do
        let value := textOf (← expandWord fuel word)
        assign name value
        if exported then modify fun s => s.putVariable name ⟨some value, true, false⟩
        return (name, value)
    let trace (values : List (Octets × Octets)) : Eval Unit := do
      if (← get).switches.trace then
        let shown := values.map (fun (name, value) => name ++ '=' :: value) ++ texts
        if !shown.isEmpty then
          let _ ← emit 2 (['+', ' '] ++ joinWith [' '] shown ++ ['\n'])
    match texts with
    | [] =>
      keepingChannels do
        if ← redirect fuel redirections then
          trace (← setAll false)
          let s ← get
          setStatus (s.substituted.getD 0)
        else setStatus 2
    | name :: arguments =>
      let special := specials.contains (String.ofList name)
      if name = "exec".toList && arguments.isEmpty then
        if ← redirect fuel redirections then
          trace (← setAll false)
          setStatus 0
        else throw (.exit 2)
      else
        keepingChannels do
          if ← redirect fuel redirections then
            let before := (← get).bindings
            let values ← setAll (!special)
            trace values
            dispatch fuel special name arguments
            if !special && !values.isEmpty then
              modify fun s => { s with bindings := putBackVariables before values s.bindings }
          else if special then throw (.exit 2)
          else setStatus 2
    checkStatus

/-- Carries out a command by its name. -/
def dispatch : Nat → Bool → Octets → List Octets → Eval Unit
  | 0, _, _, _ => throw .never
  | fuel + 1, special, name, arguments => do
    let s ← get
    match special, s.functions.lookup name with
    | false, some body => callFunction fuel body arguments
    | _, _ =>
      if controls.contains (String.ofList name) then control fuel (String.ofList name) arguments
      else
        match builtins.lookup (String.ofList name) with
        | some builtin => setStatus (← builtin arguments)
        | none => start fuel name arguments

/-- Calls a function. -/
def callFunction : Nat → Command → List Octets → Eval Unit
  | 0, _, _ => throw .never
  | fuel + 1, body, arguments => do
    let before ← get
    set { before with arguments := arguments, saved := [], loops := 0 }
    let stop ← attempt (run fuel body)
    modify fun s => { restoreVariables s.saved s with
      arguments := before.arguments, saved := before.saved, loops := before.loops }
    match stop with
    | some (.returned n) => setStatus n
    | some stop => throw stop
    | none => return

/-- Starts a program. -/
def start : Nat → Octets → List Octets → Eval Unit
  | 0, _, _ => throw .never
  | fuel + 1, name, arguments => do
    let s ← get
    match Image.resolve s.world.tree s.directory
        ((s.value? "PATH".toList).getD []) name arguments with
    | .ok image => apart (runImage fuel image)
    | .error fault =>
      let missing := fault = .noEntry || fault = .notDirectory
      say (name ++ [':', ' '] ++ if missing then "not found".toList else fault.text.toList)
      setStatus (if missing || fault = .nameTooLong then 127 else 126)

/-- Carries out a command that carries out others or changes what is carried out next. -/
def control : Nat → String → List Octets → Eval Unit
  | 0, _, _ => throw .never
  | fuel + 1, name, arguments => do
    match name with
    | "eval" =>
      setStatus 0
      runScript fuel (read (joinWith [' '] arguments))
    | "." =>
      match arguments.head? with
      | none => setStatus 0
      | some path =>
        let s ← get
        let found :=
          if path.contains '/' then some path
          else (splitOn ':' ((s.value? "PATH".toList).getD [])).findSome? fun place =>
            let full := place ++ '/' :: path
            if s.world.tree.isFile s.directory (Call.path full) then some full else none
        match found with
        | none => abandon (".: ".toList ++ path ++ ": not found".toList)
        | some path =>
          match s.world.tree.find s.directory (Call.path path) with
          | .ok (_, .file content _) =>
            setStatus 0
            match ← attempt (runScript fuel (read content)) with
            | some (.returned n) => setStatus n
            | some stop => throw stop
            | none => return
          | .ok (_, .directory) =>
            abandon (".: cannot open ".toList ++ path ++ ": Is a directory".toList)
          | .error fault => abandon (".: ".toList ++ redirectionText false path fault)
    | "exec" =>
      match arguments with
      | [] => setStatus 0
      | target :: rest =>
        let s ← get
        match Image.resolve s.world.tree s.directory
            ((s.value? "PATH".toList).getD []) target rest with
        | .ok image =>
          runImage fuel image
          modify fun s => { s with exitAction := none }
          throw (.exit (← get).status)
        | .error fault =>
          let missing := fault = .noEntry || fault = .notDirectory
          say ("exec: ".toList ++ target ++ [':', ' '] ++
            if missing then "not found".toList else fault.text.toList)
          throw (.exit (if missing then 127 else 126))
    | "exit" | "return" =>
      let s ← get
      let code ←
        match arguments.head? with
        | none => pure s.status
        | some a =>
          match natOf? a with
          | some n => pure (n % 256)
          | none => abandon (name.toList ++ ": Illegal number: ".toList ++ a)
      throw (if name = "exit" then .exit code else .returned code)
    | "break" | "continue" => do
      let n := min (← levels name arguments) (← get).loops
      setStatus 0
      if n > 0 then throw (if name = "break" then .breakOut n else .again n)
    | "trap" =>
      match arguments with
      | action :: signals =>
        if signals.any fun n => n = ['0'] || n = "EXIT".toList then
          modify fun s =>
            { s with exitAction := if action = ['-'] || action.isEmpty then none else some action }
        setStatus 0
      | [] => setStatus 0
    | "command" =>
      match arguments with
      | ['-', 'v'] :: names | ['-', 'V'] :: names =>
        setStatus 0
        for name in names do
          let s ← get
          let found :=
            if isBuiltin name || (s.functions.lookup name).isSome then some name
            else if Image.isSearched name then
              Image.search? s.world.tree s.directory ((s.value? "PATH".toList).getD []) name
            else if s.world.tree.isExecutable s.directory (Call.path name) then some name
            else none
          match found with
          | some path => let _ ← emit 1 (path ++ ['\n'])
          | none => setStatus 127
      | ['-', 'p'] :: target :: rest | target :: rest =>
        let s ← get
        if controls.contains (String.ofList target) then control fuel (String.ofList target) rest
        else
          match builtins.lookup (String.ofList target) with
          | some builtin => setStatus (← builtin rest)
          | none => set s; start fuel target rest
      | [] => setStatus 0
    | _ =>
      setStatus 0
      for name in arguments do
        let s ← get
        let text :=
          if (s.functions.lookup name).isSome then some " is a shell function".toList
          else if specials.contains (String.ofList name) then
            some " is a special shell builtin".toList
          else if isBuiltin name then some " is a shell builtin".toList
          else
            (Image.search? s.world.tree s.directory ((s.value? "PATH".toList).getD []) name).map
              fun path => " is ".toList ++ path
        match text with
        | some text => let _ ← emit 1 (name ++ text ++ ['\n'])
        | none =>
          let _ ← emit 1 (name ++ ": not found\n".toList)
          setStatus 127

end

end Shell

end Bench

end Timekeeper
