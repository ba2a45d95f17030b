import Timekeeper.Bench.Installed

/-!
# Images

What is carried out when a file is started. A file can be an installed program; a text whose
first line names an interpreter, which is started in its place with the path of the text as an
argument; or a text that names none, which only a shell can make something of.
-/

namespace Timekeeper

namespace Bench

namespace Shell

/-- What is carried out: an installed program, or a plain text; with the name and the arguments
that it is given. -/
structure Image where
  program : Option String
  name : Octets
  arguments : List Octets
  content : Octets

namespace Image

/-- Octets without the blanks around them. -/
def trimBlanks (text : Octets) : Octets :=
  let isBlank (c : Char) : Bool := c = ' ' || c = '\t'
  ((text.dropWhile isBlank).reverse.dropWhile isBlank).reverse

/-- The interpreter that the first line of a text names, with its argument if it has one. -/
def interpreter? (content : Octets) : Option (Octets × List Octets) :=
  match content with
  | '#' :: '!' :: rest =>
    let line := trimBlanks (rest.takeWhile (· ≠ '\n'))
    let path := line.takeWhile fun c => c ≠ ' ' && c ≠ '\t'
    let argument := trimBlanks (line.drop path.length)
    if path.isEmpty then none
    else some (path, if argument.isEmpty then [] else [argument])
  | _ => none

/-- How many interpreters in a row can be texts themselves. -/
def deepest : Nat := 5

/-- The image of the file at a path. -/
def find (tree : FileTree) (directory : Location) :
    Nat → Octets → Octets → List Octets → Except Fault Image
  | 0, _, _, _ => .error .notExecutable
  | fuel + 1, name, path, arguments =>
    match tree.find directory (Call.path path) with
    | .error fault => .error fault
    | .ok (_, .directory) => .error .denied
    | .ok (_, .file content executable) =>
      if !executable then .error .denied
      else
        match Installed.nameOf? content, interpreter? content with
        | some program, _ => .ok ⟨some program, name, arguments, content⟩
        | none, some (interpreter, more) =>
          find tree directory fuel interpreter interpreter (more ++ path :: arguments)
        | none, none => .ok ⟨none, path, arguments, content⟩

/-- Whether a name is looked for in the directories of programs. -/
def isSearched (name : Octets) : Bool := !name.contains '/'

/-- The paths of a name in some directories. -/
def places (path name : Octets) : List Octets :=
  (splitOn ':' path).map fun place => if place.isEmpty then name else place ++ '/' :: name

/-- The path of the first executable file of a name in some directories. -/
def search? (tree : FileTree) (directory : Location) (path name : Octets) : Option Octets :=
  if name.isEmpty then none
  else (places path name).find? fun full => tree.isExecutable directory (Call.path full)

/-- Why a name is not found in some directories: something of this name that cannot be started
is there, or nothing is. -/
def searchFault (tree : FileTree) (directory : Location) (path name : Octets) : Fault :=
  let exists_ := (places path name).any fun full =>
    match tree.find directory (Call.path full) with
    | .ok _ => true
    | .error _ => false
  if exists_ && !name.isEmpty then .denied else .noEntry

/-- The image of a program: of the file at a path, or of a name that is looked for. -/
def resolve (tree : FileTree) (directory : Location) (path name : Octets)
    (arguments : List Octets) : Except Fault Image :=
  if isSearched name then
    match search? tree directory path name with
    | some full => find tree directory deepest name full arguments
    | none => .error (searchFault tree directory path name)
  else find tree directory deepest name name arguments

end Image

end Shell

end Bench

end Timekeeper
