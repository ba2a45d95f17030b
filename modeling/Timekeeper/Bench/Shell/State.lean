import Timekeeper.Bench.Shell.Script
import Timekeeper.Bench.Stream
import Timekeeper.FileTree

/-!
# The state of a shell

A shell carries out commands in a **world** that it shares with all shells and programs that it
starts: the files, the time since the first of them started, and what is read and written. The
rest of its state is its own; a subshell works on a copy.

All that is written is kept with the time at which it was written, so that what a command in
the background writes later stands behind what was written meanwhile.
-/

namespace Timekeeper

namespace Bench

namespace Shell

/-- What was written to one place: pieces with their times, the last first, and what is written
without end behind them. A place that another program reads from is a pipe. -/
structure Sink where
  pieces : List (Nat × Octets)
  endless : Octets
  piped : Bool
deriving Inhabited

/-- All that was written, in the order of time. -/
def Sink.stream (s : Sink) : Stream :=
  let ordered := s.pieces.reverse.mergeSort fun a b => a.1 ≤ b.1
  ⟨(ordered.map Prod.snd).flatten, s.endless⟩

/-- What shells share. -/
structure World where
  tree : FileTree
  /-- The milliseconds since the first program started. -/
  clock : Nat
  /-- When the first program is killed, if ever. -/
  horizon : Option Nat
  /-- How many more commands are carried out before a script is taken not to end. -/
  budget : Nat
  sources : Array Stream
  sinks : Array Sink

/-- Where a descriptor leads. -/
inductive Channel where
  | sink (n : Nat)
  | source (n : Nat)
  | file (l : Location)
  | null
deriving DecidableEq

/-- A variable; one without a value can be marked all the same. -/
structure Variable where
  value : Option Octets
  exported : Bool
  fixed : Bool

/-- The switches of a shell. -/
structure Switches where
  exitOnError : Bool
  failOnUnset : Bool
  trace : Bool
  noWildcards : Bool
deriving Inhabited

/-- A command in the background: its number, when it ends and how. -/
structure Job where
  number : Nat
  finish : Nat
  status : Nat

/-- A shell. -/
structure State where
  world : World
  directory : Location
  name : Octets
  arguments : List Octets
  bindings : List (Octets × Variable)
  functions : List (Octets × Command)
  channels : List (Nat × Channel)
  status : Nat
  /-- The status of the last command that a word was made from, if one was. -/
  substituted : Option Nat
  line : Nat
  switches : Switches
  /-- Whether a failure is expected, so that it does not end the shell. -/
  tested : Bool
  /-- How many loops are being carried out around what is done now. -/
  loops : Nat
  exitAction : Option Octets
  jobs : List Job
  /-- The values that the variables of the innermost function call had before it. -/
  saved : List (Octets × Option Variable)

/-- Why a shell stops what it does. -/
inductive Stop where
  | exit (status : Nat)
  | breakOut (levels : Nat)
  | again (levels : Nat)
  | returned (status : Nat)
  /-- It is killed, or would go on forever. -/
  | never

/-- What a shell does. -/
abbrev Eval (α : Type) := ExceptT Stop (StateM State) α

/-! ### Variables -/

/-- The value of a variable. -/
def State.value? (s : State) (name : Octets) : Option Octets :=
  (s.bindings.lookup name).bind Variable.value

/-- A shell in which a variable is as given. -/
def State.putVariable (s : State) (name : Octets) (v : Variable) : State :=
  if s.bindings.any (·.1 = name) then
    { s with bindings := s.bindings.map fun pair => if pair.1 = name then (name, v) else pair }
  else { s with bindings := (name, v) :: s.bindings }

/-- A shell in which a variable has a value, marked as before. -/
def State.setVariable (s : State) (name value : Octets) : State :=
  match s.bindings.lookup name with
  | some v => s.putVariable name { v with value := some value }
  | none => s.putVariable name ⟨some value, false, false⟩

/-- A shell without a variable. -/
def State.dropVariable (s : State) (name : Octets) : State :=
  { s with bindings := s.bindings.filter (·.1 ≠ name) }

/-- The signs by which fields are split. -/
def State.separators (s : State) : Octets :=
  match s.bindings.lookup "IFS".toList with
  | some v => v.value.getD [' ', '\t', '\n']
  | none => [' ', '\t', '\n']

/-! ### Writing -/

/-- Changes the world. -/
def changeWorld (f : World → World) : Eval Unit := modify fun s => { s with world := f s.world }

/-- Writes to a channel; tells whether it could. -/
def writeTo (channel : Option Channel) (text : Octets) : Eval Bool := do
  match channel with
  | some (.sink n) =>
    changeWorld fun w =>
      { w with sinks := w.sinks.modify n fun sink =>
          { sink with pieces := (w.clock, text) :: sink.pieces } }
    return true
  | some (.file l) =>
    changeWorld fun w =>
      match w.tree.get? l with
      | some (.file content executable) =>
        { w with tree := w.tree.put l (.file (content ++ text) executable) }
      | _ => w
    return true
  | some .null => return true
  | some (.source _) | none => return false

/-- Writes to a descriptor; tells whether it could. -/
def emit (descriptor : Nat) (text : Octets) : Eval Bool := do
  if text.isEmpty then return true
  writeTo ((← get).channels.lookup descriptor) text

/-- Writes a line on the error channel behind the name of the shell and the line at hand. -/
def say (text : Octets) : Eval Unit := do
  let s ← get
  let _ ← emit 2 (s.name ++ [':', ' '] ++ decimal s.line ++ [':', ' '] ++ text ++ ['\n'])

/-- Sets the status. -/
def setStatus (n : Nat) : Eval Unit := modify fun s => { s with status := n }

/-- Ends the shell with a line on the error channel. -/
def abandon (text : Octets) : Eval α := do
  say text
  throw (.exit 2)

/-! ### Time -/

/-- Counts a command. -/
def tick : Eval Unit := do
  let w := (← get).world
  if w.budget = 0 then throw .never
  changeWorld fun w => { w with budget := w.budget - 1 }

/-- Lets time pass; nothing stands for all time. -/
def pass (milliseconds : Option Nat) : Eval Unit := do
  match milliseconds with
  | none => throw .never
  | some 0 => return
  | some n =>
    changeWorld fun w => { w with clock := w.clock + n }
    let w := (← get).world
    match w.horizon with
    | some h => if h < w.clock then throw .never
    | none => return

/-! ### Reading and collecting -/

/-- A new place to write to. -/
def newSink (piped : Bool) : Eval Nat := do
  let n := (← get).world.sinks.size
  changeWorld fun w => { w with sinks := w.sinks.push ⟨[], [], piped⟩ }
  return n

/-- What was written to a place. -/
def collected (n : Nat) : Eval Stream := return ((← get).world.sinks.getD n default).stream

/-- A new place to read from. -/
def newSource (s : Stream) : Eval Nat := do
  let n := (← get).world.sources.size
  changeWorld fun w => { w with sources := w.sources.push s }
  return n

/-- What can be read from a channel. -/
def readable (channel : Option Channel) : Eval Stream := do
  match channel with
  | some (.source n) => return (← get).world.sources.getD n .empty
  | _ => return .empty

/-- Leaves only some of what can be read from a channel. -/
def leave (channel : Option Channel) (rest : Stream) : Eval Unit := do
  match channel with
  | some (.source n) => changeWorld fun w => { w with sources := w.sources.setIfInBounds n rest }
  | _ => return

/-! ### Control -/

/-- Does something and gives why it stopped, if it did. -/
def attempt (body : Eval Unit) : Eval (Option Stop) := fun s =>
  match body.run s with
  | (.ok (), s') => (.ok none, s')
  | (.error stop, s') => (.ok (some stop), s')

/-- Does something in a copy of the shell. What it changes in the world stays. -/
def apart (body : Eval Unit) : Eval Unit := do
  let before ← get
  set { before with exitAction := none, jobs := [] }
  let stop ← attempt body
  let after ← get
  let status :=
    match stop with
    | some (.exit n) => n
    | some (.returned n) => n
    | _ => after.status
  set { before with world := after.world, status := status }
  match stop with
  | some .never => throw .never
  | _ => return

/-- Does something while a failure is expected. -/
def testing (body : Eval Unit) : Eval Unit := do
  let before := (← get).tested
  modify fun s => { s with tested := true }
  let stop ← attempt body
  modify fun s => { s with tested := before }
  match stop with
  | some stop => throw stop
  | none => return

/-- Does something with channels that are put back behind it. -/
def keepingChannels (body : Eval α) : Eval α := fun s =>
  match body.run s with
  | (r, s') => (r, { s' with channels := s.channels })

/-- Ends the shell if it was to end at a failure and the last command failed. -/
def checkStatus : Eval Unit := do
  let s ← get
  if s.switches.exitOnError && !s.tested && s.status ≠ 0 then throw (.exit s.status)

/-- What a round of a loop comes to. -/
inductive Round where
  | go
  | leave
  | stop (stop : Stop)

/-- What a stop means to the loop around it. -/
def roundOf : Option Stop → Round
  | none => .go
  | some (.breakOut n) => if n ≤ 1 then .leave else .stop (.breakOut (n - 1))
  | some (.again n) => if n ≤ 1 then .go else .stop (.again (n - 1))
  | some stop => .stop stop

/-- Does something inside one more loop. -/
def inLoop (body : Eval Unit) : Eval Unit := do
  let before := (← get).loops
  modify fun s => { s with loops := before + 1 }
  let stop ← attempt body
  modify fun s => { s with loops := before }
  match stop with
  | some stop => throw stop
  | none => return

/-- Repeats a body as long as a test says so, but at most so many times. -/
def repeatWhile (test : Eval Bool) (body : Eval Unit) : Nat → Eval Unit
  | 0 => throw .never
  | n + 1 => do
    if ← test then
      match roundOf (← attempt body) with
      | .go => repeatWhile test body n
      | .leave => return
      | .stop stop => throw stop
    else return

/-- Does a body for each of several values. -/
def forEach (body : α → Eval Unit) : List α → Eval Unit
  | [] => return
  | x :: rest => do
    match roundOf (← attempt (body x)) with
    | .go => forEach body rest
    | .leave => return
    | .stop stop => throw stop

end Shell

end Bench

end Timekeeper
