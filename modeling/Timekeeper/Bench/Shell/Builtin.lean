import Timekeeper.Bench.Installed
import Timekeeper.Bench.Shell.Fields
import Timekeeper.Bench.Shell.Reader
import Timekeeper.Bench.Shell.State

/-!
# Commands of the shell itself

Those commands that the shell carries out without starting a program. A **special** command
that fails ends the shell; of a regular one only the status tells. What is said about a
failure names the command.
-/

namespace Timekeeper

namespace Bench

namespace Shell

/-- What a command of the shell ends with: a status, or a failure that a special command turns
into the end of the shell. -/
abbrev Builtin := List Octets → Eval Nat

/-- Fails with a line that names the command. -/
def complain (name : String) (text : Octets) : Eval Nat := do
  say (name.toList ++ [':', ' '] ++ text)
  return 2

/-- Prints for a command; a channel that is closed is an error. -/
def printFor (name : String) (text : Octets) : Eval Nat := do
  if ← emit 1 text then return 0
  say (name.toList ++ [':', ' '] ++ name.toList ++ ": I/O error".toList)
  return 1

/-! ### Printing and testing -/

/-- Prints its arguments. -/
def echo : Builtin := fun arguments => printFor "echo" (Printing.echoBuiltIn arguments)

/-- Prints by a format. -/
def printf : Builtin := fun arguments => do
  let arguments := if arguments.head? = some ['-', '-'] then arguments.drop 1 else arguments
  match arguments with
  | [] => complain "printf" "usage: printf format [arg ...]".toList
  | text :: rest =>
    let (printed, complaints, failed) := Printing.format .builtIn text rest
    let status ← printFor "printf" printed
    complaints.forM fun c => say ("printf: ".toList ++ c)
    return if failed then 2 else if complaints.isEmpty then status else 1

/-- Tests a condition. -/
def test (name : String) : Builtin := fun arguments => do
  let s ← get
  let files : Testing.Files := ⟨s.world.tree, s.directory⟩
  let holds := Testing.holds .builtIn files (arguments.length + 1)
  let result := if name = "[" then (Testing.bracketed arguments).bind holds else holds arguments
  match result with
  | .ok value => return if value then 0 else 1
  | .error e => complain name (Testing.builtInText e)

/-! ### Directories -/

/-- The path of a location. -/
def pathText (l : Location) : Octets := Octets.ofString ("/" ++ FileTree.pathOf l)

/-- Prints the working directory. -/
def pwd : Builtin := fun _ => do printFor "pwd" (pathText (← get).directory ++ ['\n'])

/-- Changes the working directory. -/
def cd : Builtin := fun arguments => do
  let s ← get
  let arguments := arguments.filter fun a => a ≠ ['-', '-'] && a ≠ ['-', 'P'] && a ≠ ['-', 'L']
  let target :=
    match arguments.head? with
    | none => (s.value? "HOME".toList).getD ['/']
    | some ['-'] => (s.value? "OLDPWD".toList).getD ['.']
    | some path => path
  match s.world.tree.find s.directory (Call.path target) with
  | .ok (l, .directory) =>
    modify fun s => { s with directory := l }
    modify fun t => (t.setVariable "OLDPWD".toList (pathText s.directory)).setVariable "PWD".toList
      (pathText l)
    if arguments.head? = some ['-'] then let _ ← emit 1 (pathText l ++ ['\n'])
    return 0
  | _ => complain "cd" ("can't cd to ".toList ++ target)

/-! ### Variables -/

/-- Sets a variable, unless it is fixed. -/
def assign (name value : Octets) : Eval Unit := do
  match (← get).bindings.lookup name with
  | some v => if v.fixed then abandon (name ++ ": is read only".toList)
  | none => pure ()
  modify fun s => s.setVariable name value

/-- A name with a value behind an equals sign, if there is one. -/
def nameAndValue (argument : Octets) : Octets × Option Octets :=
  let name := argument.takeWhile (· ≠ '=')
  match argument.drop name.length with
  | _ :: value => (name, some value)
  | [] => (name, none)

/-- Marks variables, and sets those with a value. -/
def mark (command : String) (change : Variable → Variable) : Builtin := fun arguments => do
  for argument in arguments.filter (fun a => a.head? ≠ some '-') do
    let (name, value) := nameAndValue argument
    if !isName name then let _ ← abandon (α := Unit) (command.toList ++ ": ".toList ++ argument ++
      ": bad variable name".toList)
    match value with
    | some v => assign name v
    | none => pure ()
    modify fun s =>
      s.putVariable name (change ((s.bindings.lookup name).getD ⟨none, false, false⟩))
  return 0

/-- Forgets variables or functions. -/
def unset : Builtin := fun arguments => do
  let functions := arguments.head? = some ['-', 'f']
  for name in arguments.filter (fun a => a.head? ≠ some '-') do
    if functions then
      modify fun s => { s with functions := s.functions.filter (·.1 ≠ name) }
    else modify fun s => s.dropVariable name
  return 0

/-- Keeps variables for the time of a function call. -/
def local_ : Builtin := fun arguments => do
  for argument in arguments do
    let (name, value) := nameAndValue argument
    modify fun s => { s with saved := (name, s.bindings.lookup name) :: s.saved }
    match value with
    | some v => assign name v
    | none => pure ()
  return 0

/-- The variables as they were before a function call. -/
def restoreVariables (saved : List (Octets × Option Variable)) (s : State) : State :=
  saved.foldl (fun s (name, old) =>
    match old with
    | some v => s.putVariable name v
    | none => s.dropVariable name) s

/-! ### Arguments and switches -/

/-- The number of an argument, or one if there is none. -/
def levels (name : String) (arguments : List Octets) : Eval Nat := do
  match arguments.head? with
  | none => return 1
  | some a =>
    match natOf? a with
    | some n => return n
    | none => abandon (name.toList ++ ": Illegal number: ".toList ++ a)

/-- Drops arguments. -/
def shift : Builtin := fun arguments => do
  let n ← levels "shift" arguments
  let s ← get
  if s.arguments.length < n then abandon "shift: can't shift that many".toList
  set { s with arguments := s.arguments.drop n }
  return 0

/-- The switches with a letter turned on or off. -/
def Switches.turn (s : Switches) (letter : Char) (on : Bool) : Option Switches :=
  match letter with
  | 'e' => some { s with exitOnError := on }
  | 'u' => some { s with failOnUnset := on }
  | 'x' => some { s with trace := on }
  | 'f' => some { s with noWildcards := on }
  | _ => if "aCbhmnvVEIi".toList.contains letter then some s else none

/-- The switches with a named one turned on or off. -/
def Switches.turnNamed (s : Switches) (name : Octets) (on : Bool) : Option Switches :=
  match String.ofList name with
  | "errexit" => s.turn 'e' on
  | "nounset" => s.turn 'u' on
  | "xtrace" => s.turn 'x' on
  | "noglob" => s.turn 'f' on
  | _ => some s

/-- Reads switches in front of other arguments: the switches, the other arguments if they were
set apart or there are some, and a letter that is none. -/
def readSwitches : Nat → Switches → List Octets → Switches × Option (List Octets) × Option Char
  | 0, s, arguments => (s, some arguments, none)
  | _, s, [] => (s, none, none)
  | fuel + 1, s, argument :: rest =>
    match argument with
    | ['-', '-'] => (s, some rest, none)
    | ['-'] => (s, some rest, none)
    | sign :: 'o' :: [] =>
      if sign = '-' || sign = '+' then
        match rest with
        | name :: rest => readSwitches fuel ((s.turnNamed name (sign = '-')).getD s) rest
        | [] => (s, none, none)
      else (s, some (argument :: rest), none)
    | sign :: letters =>
      if (sign = '-' || sign = '+') && !letters.isEmpty then
        match letters.foldl (fun (s, bad) c =>
            match s.turn c (sign = '-') with
            | some s => (s, bad)
            | none => (s, bad.orElse fun _ => some c)) (s, none) with
        | (s, none) => readSwitches fuel s rest
        | (s, some bad) => (s, none, some bad)
      else (s, some (argument :: rest), none)
    | [] => (s, some (argument :: rest), none)

/-- Sets switches and arguments. -/
def set_ : Builtin := fun arguments => do
  let s ← get
  match readSwitches (arguments.length + 1) s.switches arguments with
  | (_, _, some bad) => abandon ("set: Illegal option -".toList ++ [bad])
  | (switches, others, none) =>
    set { s with switches := switches, arguments := others.getD s.arguments }
    return 0

/-! ### Reading -/

/-- Reads a line with its escapes: its octets, those protected by a backslash marked, whether
it was ended by a line feed, and what follows it. -/
def readLine (raw : Bool) : Octets → List (Char × Bool) → List (Char × Bool) × Bool × Octets
  | [], line => (line.reverse, false, [])
  | '\n' :: rest, line => (line.reverse, true, rest)
  | '\\' :: c :: rest, line =>
    if raw then readLine raw (c :: rest) (('\\', false) :: line)
    else if c = '\n' then readLine raw rest line
    else readLine raw rest ((c, true) :: line)
  | c :: rest, line => readLine raw rest ((c, false) :: line)

/-- Splits a line into the values of so many variables. The last one takes the rest of the line
without the blanks at its end. -/
def readValues (separators : Octets) : Nat → List (Char × Bool) → List Octets
  | 0, _ => []
  | count + 1, line =>
    let isBlank (p : Char × Bool) : Bool :=
      !p.2 && separators.contains p.1 && (p.1 = ' ' || p.1 = '\t' || p.1 = '\n')
    let isEnd (p : Char × Bool) : Bool := !p.2 && separators.contains p.1
    let line := line.dropWhile isBlank
    if count = 0 then [((line.reverse.dropWhile isBlank).reverse).map Prod.fst]
    else
      let value := line.takeWhile fun p => !isEnd p
      let rest := (line.drop value.length).dropWhile isBlank
      let rest :=
        match rest with
        | p :: more => if isEnd p then more else rest
        | [] => []
      value.map Prod.fst :: readValues separators count rest

/-- Reads a line into variables. -/
def read_ : Builtin := fun arguments => do
  let raw := arguments.head? = some ['-', 'r']
  let names := arguments.filter fun a => a.head? ≠ some '-'
  if names.isEmpty then complain "read" "arg count".toList
  else
    let s ← get
    let channel := s.channels.lookup 0
    let stream ← readable channel
    let (line, ended, rest) := readLine raw stream.octets []
    leave channel { stream with octets := rest }
    let values := readValues s.separators names.length line
    for (name, value) in names.zip (values ++ List.replicate names.length []) do
      assign name value
    return if ended then 0 else 1

/-! ### Background -/

/-- Waits for commands in the background. -/
def wait : Builtin := fun arguments => do
  let s ← get
  let waited (j : Job) : Bool :=
    arguments.isEmpty || arguments.any fun a => natOf? a = some j.number
  let jobs := s.jobs.filter waited
  let finish := jobs.foldl (fun n j => max n j.finish) s.world.clock
  pass (some (finish - s.world.clock))
  modify fun s => { s with jobs := s.jobs.filter fun j => !waited j }
  if arguments.isEmpty then return 0
  match jobs.getLast? with
  | some j => return j.status
  | none => return 127

/-! ### Tables -/

/-- The commands whose failure ends the shell. -/
def specials : List String :=
  [":", ".", "break", "continue", "eval", "exec", "exit", "export", "readonly", "return", "set",
    "shift", "times", "trap", "unset"]

/-- The commands that need nothing but the state. -/
def builtins : List (String × Builtin) :=
  [("echo", echo), ("printf", printf), ("test", test "test"), ("[", test "["), ("pwd", pwd),
    ("cd", cd), ("chdir", cd), ("export", mark "export" fun v => { v with exported := true }),
    ("readonly", mark "readonly" fun v => { v with fixed := true }), ("unset", unset),
    ("local", local_), ("shift", shift), ("set", set_), ("read", read_), ("wait", wait),
    (":", fun _ => return 0), ("true", fun _ => return 0), ("false", fun _ => return 1),
    ("times", fun _ => return 0), ("umask", fun _ => return 0), ("ulimit", fun _ => return 0),
    ("kill", fun _ => return 0), ("hash", fun _ => return 0), ("alias", fun _ => return 0),
    ("unalias", fun _ => return 0), ("jobs", fun _ => return 0)]

/-- The commands that carry out other commands. -/
def controls : List String :=
  ["eval", ".", "exec", "exit", "return", "break", "continue", "trap", "command", "type"]

/-- Whether a name is a command of the shell. -/
def isBuiltin (name : Octets) : Bool :=
  controls.contains (String.ofList name) || (builtins.lookup (String.ofList name)).isSome

end Shell

end Bench

end Timekeeper
