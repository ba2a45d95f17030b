import Timekeeper.Bench.Stream
import Timekeeper.FileTree

/-!
# Utilities

A **utility** is a small program of the bench. It is called with a name, arguments and an input
to read, sees the files, and has an effect: what it writes on its two channels in this order,
how it changes the files, how long it takes, and its exit status.
-/

namespace Timekeeper

namespace Bench

/-- A channel on which a program writes. -/
inductive Side where
  | output
  | errors
deriving DecidableEq

/-- A call of a utility. -/
structure Call where
  /-- The name by which the utility was called. -/
  name : Octets
  arguments : List Octets
  input : Stream
  tree : FileTree
  directory : Location

/-- What a utility does. -/
structure Effect where
  status : Nat
  writes : List (Side × Octets)
  /-- What is written on the output without end behind the rest; nothing, mostly. -/
  endless : Octets
  tree : FileTree
  /-- How many milliseconds it takes; nothing if it never ends. -/
  pause : Option Nat

/-- A small program. -/
abbrev Utility := Call → Effect

namespace Call

/-- An effect that leaves the files alone and takes no time. -/
def effect (c : Call) (status : Nat) (writes : List (Side × Octets)) : Effect :=
  ⟨status, writes, [], c.tree, some 0⟩

/-- The effect of writing on the output. -/
def print (c : Call) (text : Octets) : Effect := c.effect 0 [(.output, text)]

/-- A line on the error channel behind the name of the utility. -/
def complaint (c : Call) (text : Octets) : Side × Octets :=
  (.errors, c.name ++ [':', ' '] ++ text ++ ['\n'])

/-- The effect of failing with a line on the error channel. -/
def fail (c : Call) (status : Nat) (text : Octets) : Effect := c.effect status [c.complaint text]

/-- The effect of a call that was misspelt. -/
def misuse (c : Call) (status : Nat) (text : Octets) : Effect :=
  c.effect status [c.complaint text,
    (.errors, "Try '".toList ++ c.name ++ " --help' for more information.\n".toList)]

/-- The effect of a call without operands. -/
def missingOperand (c : Call) (status : Nat) : Effect := c.misuse status "missing operand".toList

/-- Whether an octet can stand in a message without quotes. -/
def isQuiet (c : Char) : Bool :=
  c.isAlphanum || "%+,-./:=@_^".toList.contains c || 128 ≤ c.toNat

/-- A name between quotes. -/
def quoteAlways (name : Octets) : Octets := ['\''] ++ name ++ ['\'']

/-- A name between quotes if it could be misread without them. -/
def quoteSome (name : Octets) : Octets :=
  if !name.isEmpty && name.all isQuiet then name
  else if name.contains '\'' && !name.any (fun c => "$\"\\!\x60".toList.contains c) then
    ['"'] ++ name ++ ['"']
  else quoteAlways name

/-- A line on the error channel about a file. -/
def fileComplaint (c : Call) (name : Octets) (fault : Fault) : Side × Octets :=
  c.complaint (quoteSome name ++ [':', ' '] ++ fault.text.toList)

/-- The path of octets. -/
def path (name : Octets) : String := Octets.toString name

/-- What can be read from a file, or from the input where a dash stands for it. -/
def open_ (c : Call) (name : Octets) : Except Fault Stream :=
  if name = ['-'] then .ok c.input
  else
    match path name with
    | "/dev/stdin" | "/dev/fd/0" => .ok c.input
    | "/dev/null" => .ok .empty
    | "/dev/zero" => .ok ⟨[], ['\x00']⟩
    | p =>
      match c.tree.find c.directory p with
      | .error f => .error f
      | .ok (_, .directory) => .error .isDirectory
      | .ok (_, .file content _) => .ok (.ofOctets content)

/-- What can be read from several files, or from the input if none is named: each file by its
name with its stream or a fault. -/
def openAll (c : Call) (names : List Octets) : List (Octets × Except Fault Stream) :=
  if names.isEmpty then [(['-'], .ok c.input)] else names.map fun name => (name, c.open_ name)

/-- The effect of a program that writes a text made from each file it reads. A file that cannot
be read costs a line on the error channel and the given status. -/
def overFiles (c : Call) (names : List Octets) (badStatus : Nat) (f : Octets → Stream → Octets) :
    Effect :=
  let files := c.openAll names
  let writes := files.map fun (name, file) =>
    match file with
    | .ok s => (Side.output, f name s)
    | .error fault => c.fileComplaint name fault
  let bad := files.any fun (_, file) => match file with
    | .ok _ => false
    | .error _ => true
  let never := files.any fun (_, file) => match file with
    | .ok s => !s.ends
    | .error _ => false
  { c.effect (if bad then badStatus else 0) writes with pause := if never then none else some 0 }

/-- The streams of several files as one, with lines about those that cannot be read. -/
def gather (c : Call) (names : List Octets) : Stream × List (Side × Octets) :=
  (c.openAll names).foldr (fun (name, file) (s, writes) =>
    match file with
    | .ok t => (t.append s, writes)
    | .error fault => (s, c.fileComplaint name fault :: writes)) (.empty, [])

/-- The effect of a program that writes one text made from all files it reads. -/
def overAll (c : Call) (names : List Octets) (badStatus : Nat) (f : Octets → Octets) : Effect :=
  let (s, complaints) := c.gather names
  { c.effect (if complaints.isEmpty then 0 else badStatus)
      (complaints ++ if s.ends then [(.output, f s.octets)] else []) with
    pause := if s.ends then some 0 else none }

end Call

/-! ### Options -/

/-- The options of a call with their values, and its operands. -/
structure Options where
  flags : List (Char × Octets)
  operands : List Octets

/-- Why options cannot be read. -/
inductive OptionError where
  | invalid (c : Char)
  | missing (c : Char)
  | unrecognized (text : Octets)

namespace Options

/-- Whether an option is given. -/
def has (o : Options) (c : Char) : Bool := o.flags.any (·.1 = c)

/-- The last value of an option. -/
def value? (o : Options) (c : Char) : Option Octets :=
  (o.flags.reverse.find? (·.1 = c)).map Prod.snd

/-- All values of an option. -/
def values (o : Options) (c : Char) : List Octets :=
  (o.flags.filter (·.1 = c)).map Prod.snd

/-- Reads the letters behind a dash. A letter with a value takes the rest of them, or the next
argument. The result tells whether the next argument was taken. -/
def letters (plain valued : String) (next : Option Octets) :
    Octets → Except OptionError (List (Char × Octets) × Bool)
  | [] => .ok ([], false)
  | c :: rest =>
    if plain.toList.contains c then
      (letters plain valued next rest).map fun (flags, took) => ((c, []) :: flags, took)
    else if valued.toList.contains c then
      if rest.isEmpty then
        match next with
        | some value => .ok ([(c, value)], true)
        | none => .error (.missing c)
      else .ok ([(c, rest)], false)
    else .error (.invalid c)

/-- Reads arguments. Operands and options can be mixed; behind two dashes there are only
operands. A long option is given with the letter that it stands for. -/
def readFrom (plain valued : String) (long : List (String × Char)) :
    Nat → List Octets → Except OptionError Options
  | 0, arguments => .ok ⟨[], arguments⟩
  | _, [] => .ok ⟨[], []⟩
  | fuel + 1, argument :: rest =>
    match argument with
    | ['-', '-'] => .ok ⟨[], rest⟩
    | '-' :: '-' :: name =>
      let key := name.takeWhile (· ≠ '=')
      match long.lookup (String.ofList key) with
      | some c => (readFrom plain valued long fuel rest).map fun o =>
          { o with flags := (c, (name.drop key.length).drop 1) :: o.flags }
      | none => .error (.unrecognized argument)
    | '-' :: c :: more =>
      match letters plain valued rest.head? (c :: more) with
      | .ok (flags, took) =>
        (readFrom plain valued long fuel (if took then rest.drop 1 else rest)).map fun o =>
          { o with flags := flags ++ o.flags }
      | .error e => .error e
    | operand => (readFrom plain valued long fuel rest).map fun o =>
        { o with operands := operand :: o.operands }

end Options

namespace Call

/-- Goes on with the options of a call, or fails with a status where they are misspelt. -/
def withOptions (c : Call) (status : Nat) (plain valued : String) (long : List (String × Char))
    (k : Options → Effect) : Effect :=
  match Options.readFrom plain valued long (c.arguments.length + 1) c.arguments with
  | .ok o => k o
  | .error (.invalid x) => c.misuse status ("invalid option -- '".toList ++ [x, '\''])
  | .error (.missing x) => c.misuse status ("option requires an argument -- '".toList ++ [x, '\''])
  | .error (.unrecognized text) =>
    c.misuse status ("unrecognized option '".toList ++ text ++ ['\''])

end Call

end Bench

end Timekeeper
