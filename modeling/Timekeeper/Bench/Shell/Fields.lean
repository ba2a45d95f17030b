import Timekeeper.Bench.Utility.Filing
import Timekeeper.Bench.Wildcard

/-!
# Fields

The expansion of a word gives **atoms**: octets that know whether they were typed, quoted or
put in by an expansion, and marks between them. Atoms are split into **fields** at the
separators that an expansion put in, and a field with wildcards is replaced by the names of
the files that it describes.
-/

namespace Timekeeper

namespace Bench

namespace Shell

/-- Where an octet of a word comes from. -/
inductive Origin where
  | typed
  | quoted
  | expanded
deriving DecidableEq

/-- A part of an expanded word. -/
inductive Atom where
  | octet (c : Char) (origin : Origin)
  /-- A place where a field is, even if it is empty. -/
  | stay
  /-- A place where a field ends. -/
  | boundary

/-- A field: octets with a mark that tells which were quoted. -/
abbrev Field := List (Char × Bool)

/-- The octets of a field. -/
def Field.text (f : Field) : Octets := f.map Prod.fst

/-- Fields in the making: those that are finished, the last first, the octets of the one at
hand, the last first, and whether blanks ended the last one. -/
structure Splitting where
  finished : List Field
  current : Option Field
  blank : Bool

namespace Splitting

/-- Finishes the field at hand, if there is one. -/
def close (s : Splitting) (blank : Bool) : Splitting :=
  match s.current with
  | some f => ⟨f.reverse :: s.finished, none, blank⟩
  | none => s

/-- Adds an octet to the field at hand. -/
def add (s : Splitting) (c : Char) (quoted : Bool) : Splitting :=
  ⟨s.finished, some ((c, quoted) :: s.current.getD []), false⟩

/-- Takes an atom. -/
def step (separators : Octets) (s : Splitting) : Atom → Splitting
  | .stay => ⟨s.finished, some (s.current.getD []), false⟩
  | .boundary => s.close false
  | .octet c .quoted => s.add c true
  | .octet c .typed => s.add c false
  | .octet c .expanded =>
    if !separators.contains c then s.add c false
    else if c = ' ' || c = '\t' || c = '\n' then s.close true
    else
      match s.current with
      | some _ => s.close false
      | none =>
        if s.blank then { s with blank := false } else ⟨[] :: s.finished, none, false⟩

end Splitting

/-- The fields of atoms. -/
def splitFields (separators : Octets) (atoms : List Atom) : List Field :=
  ((atoms.foldl (Splitting.step separators) ⟨[], none, false⟩).close false).finished.reverse

/-- The octets of atoms as one text. -/
def textOf (atoms : List Atom) : Octets :=
  atoms.filterMap fun
    | .octet c _ => some c
    | .stay => none
    | .boundary => some ' '

/-- The octets of atoms as one field. -/
def fieldOf (atoms : List Atom) : Field :=
  atoms.filterMap fun
    | .octet c origin => some (c, origin = .quoted)
    | _ => none

/-- Octets as atoms of one origin. -/
def atomsOf (origin : Origin) (text : Octets) : List Atom := text.map fun c => .octet c origin

/-- Atoms in which what was typed counts as put in by an expansion. -/
def asExpanded (atoms : List Atom) : List Atom :=
  atoms.map fun
    | .octet c .typed => .octet c .expanded
    | a => a

/-! ### Names of files -/

/-- The parts of a field between slashes. -/
def fieldParts (f : Field) : List Field :=
  f.foldr (fun c parts =>
    if c.1 = '/' then [] :: parts
    else
      match parts with
      | [] => [[c]]
      | part :: others => (c :: part) :: others) [[]]

/-- The names that a field with wildcards describes, part by part behind a path. -/
def matchingNames (tree : FileTree) (directory : Location) : List Field → Octets → List Octets
  | [], base =>
    match tree.find directory (Call.path base) with
    | .ok _ => [base]
    | .error _ => []
  | part :: rest, base =>
    let behind (name : Octets) : Octets := base ++ name ++ if rest.isEmpty then [] else ['/']
    if Wild.isActive part then
      let here := if base.isEmpty then ['.'] else base
      match tree.find directory (Call.path here) with
      | .ok (l, .directory) =>
        let wild := Wild.read part
        let hidden := part.head?.map Prod.fst = some '.'
        let names := (Utility.entriesOf tree l).map Octets.ofString
        (names.filter fun name =>
          Wild.describes wild name && (hidden || name.head? ≠ some '.')).flatMap fun name =>
            matchingNames tree directory rest (behind name)
      | _ => []
    else matchingNames tree directory rest (behind part.text)

/-- The texts that a field stands for. -/
def fieldTexts (tree : FileTree) (directory : Location) (f : Field) : List Octets :=
  if Wild.isActive f then
    match matchingNames tree directory (fieldParts f) [] with
    | [] => [f.text]
    | names => names.mergeSort fun a b => !(b < a)
  else [f.text]

end Shell

end Bench

end Timekeeper
