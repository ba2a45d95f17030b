import Timekeeper.Fault
import Timekeeper.Text.Octets

/-!
# File trees

A **file tree** holds regular files and directories. A **location** is the list of names that
leads from the root to a node; a path is the text by which a location is asked for, and
`FileTree.locate` follows it from a working directory, name by name.

The view of a tree is `FileTree.get?`: what stands at a location, if anything. Every change of
a tree is a change of that view at one location, and the laws next to each operation say which.
-/

namespace Timekeeper

/-- What stands at a location. -/
inductive Node where
  | file (content : Octets) (executable : Bool)
  | directory
deriving DecidableEq

/-- The names that lead from the root to a node. -/
abbrev Location := List String

/-- Regular files and directories by their location. The root is a directory in every tree. -/
structure FileTree where
  nodes : List (Location × Node)
deriving DecidableEq

namespace FileTree

/-- The tree with the root alone. -/
def empty : FileTree := ⟨[]⟩

/-- What stands at a location. -/
def get? (t : FileTree) (l : Location) : Option Node :=
  if l.isEmpty then some .directory else t.nodes.lookup l

/-- The tree without the node at a location. -/
def erase (t : FileTree) (l : Location) : FileTree := ⟨t.nodes.filter fun pair => pair.1 != l⟩

/-- The tree with a node at a location, whatever stood there. -/
def put (t : FileTree) (l : Location) (n : Node) : FileTree := ⟨(l, n) :: (t.erase l).nodes⟩

/-! ### The view of a changed tree -/

private theorem lookup_filter_ne (nodes : List (Location × Node)) (l k : Location) :
    (nodes.filter fun pair => pair.1 != l).lookup k = if k = l then none else nodes.lookup k := by
  induction nodes with
  | nil => simp
  | cons pair rest ih =>
    obtain ⟨m, n⟩ := pair
    by_cases hm : m = l
    · subst hm
      by_cases hk : k = m
      · subst hk
        simpa using ih
      · have : (k == m) = false := by simpa using hk
        simpa [List.lookup_cons, this, hk] using ih
    · by_cases hk : k = m
      · subst hk
        simp [hm]
      · have : (k == m) = false := by simpa using hk
        simp [hm, List.lookup_cons, this, ih]

/-- Erasing a location changes what stands there and nowhere else. -/
theorem get?_erase (t : FileTree) {l : Location} (hl : l ≠ []) (k : Location) :
    (t.erase l).get? k = if k = l then none else t.get? k := by
  by_cases hk : k = []
  · subst hk
    simp [get?, Ne.symm hl]
  · simp [get?, hk, erase, lookup_filter_ne]

/-- The longest name and the longest path, in octets. -/
def longestName : Nat := 255

/-- The greatest number of octets in a path. -/
def longestPath : Nat := 4095

/-- Puts one character of a path in front of its names. -/
def nameStep (c : Char) (names : List (List Char)) : List (List Char) :=
  if c = '/' then [] :: names
  else
    match names with
    | [] => [[c]]
    | name :: others => (c :: name) :: others

/-- The names of a path, empty ones left out. -/
def names (path : String) : List String :=
  ((path.toList.foldr nameStep [[]]).filter fun name => !name.isEmpty).map String.ofList

/-- Whether a path begins at the root. -/
def isAbsolute (path : String) : Bool := path.toList.head? == some '/'

/-- Whether a path asks for a directory by its last character. -/
def endsInSlash (path : String) : Bool := path.toList.getLast? == some '/'

/-- A directory's path and a name in it as one path. A name that begins at the root stands for
itself. -/
def join (directory name : String) : String :=
  if isAbsolute name || directory.isEmpty then name
  else if endsInSlash directory then directory ++ name
  else directory ++ "/" ++ name

/-- Follows names from a location. Each but the last has to lead to a directory; at the last
location anything or nothing can stand. -/
def follow (t : FileTree) : Location → List String → Except Fault Location
  | here, [] => .ok here
  | here, name :: rest =>
    match t.get? here with
    | none => .error .noEntry
    | some (.file ..) => .error .notDirectory
    | some .directory =>
      if name = "." then follow t here rest
      else if name = ".." then follow t here.dropLast rest
      else if longestName < name.utf8ByteSize then .error .nameTooLong
      else follow t (here ++ [name]) rest

/-- The names a path is followed by: one that ends in a slash asks for the directory itself. -/
def steps (path : String) : List String :=
  names path ++ if endsInSlash path then ["."] else []

/-- The location of a path seen from a working directory. -/
def locate (t : FileTree) (directory : Location) (path : String) : Except Fault Location :=
  if path.toList.contains '\x00' then .error .zeroInPath
  else if path.isEmpty then .error .noEntry
  else if longestPath < path.utf8ByteSize then .error .nameTooLong
  else t.follow (if isAbsolute path then [] else directory) (steps path)

/-- What stands at a path. -/
def find (t : FileTree) (directory : Location) (path : String) : Except Fault (Location × Node) :=
  match t.locate directory path with
  | .error f => .error f
  | .ok l =>
    match t.get? l with
    | some n => .ok (l, n)
    | none => .error .noEntry

/-- Whether a regular file stands at a path. -/
def isFile (t : FileTree) (directory : Location) (path : String) : Bool :=
  match t.find directory path with
  | .ok (_, .file ..) => true
  | _ => false

/-- Whether a regular file that can be started stands at a path. -/
def isExecutable (t : FileTree) (directory : Location) (path : String) : Bool :=
  match t.find directory path with
  | .ok (_, .file _ executable) => executable
  | _ => false

/-- Whether a directory stands at a path. -/
def isDirectory (t : FileTree) (directory : Location) (path : String) : Bool :=
  match t.find directory path with
  | .ok (_, .directory) => true
  | _ => false

/-! ### Changes by path -/

/-- The location at which a file is to be written. A path that ends in a slash is taken for a
directory's even where nothing stands. -/
def target (t : FileTree) (directory : Location) (path : String) : Except Fault Location :=
  if endsInSlash path then
    match t.locate directory (String.ofList (path.toList.reverse.dropWhile (· = '/')).reverse) with
    | .error f => if (names path).isEmpty then .error .isDirectory else .error f
    | .ok _ => .error .isDirectory
  else
    match t.locate directory path with
    | .error f => .error f
    | .ok l =>
      match t.get? l with
      | some .directory => .error .isDirectory
      | _ => .ok l

/-- Replaces the content of a file, which keeps its permission; a new file is not executable. -/
def setContent (t : FileTree) (l : Location) (content : Octets) : FileTree :=
  match t.get? l with
  | some (.file _ executable) => t.put l (.file content executable)
  | _ => t.put l (.file content false)

/-- Writes a file. -/
def write (t : FileTree) (directory : Location) (path : String) (content : Octets) :
    Except Fault FileTree :=
  match t.target directory path with
  | .error f => .error f
  | .ok l => .ok (t.setContent l content)

/-- Removes a regular file; anything else stays. -/
def discard (t : FileTree) (directory : Location) (path : String) : FileTree :=
  match t.find directory path with
  | .ok (l, .file ..) => t.erase l
  | _ => t

/-! ### Whole trees -/

/-- Whether a location lies below another. -/
def isBelow (above l : Location) : Bool := above.isPrefixOf l && above.length < l.length

/-- The nodes below a location. -/
def below (t : FileTree) (above : Location) : List (Location × Node) :=
  t.nodes.filter fun pair => isBelow above pair.1

/-- A location as a path. -/
def pathOf (l : Location) : String := String.intercalate "/" l

/-- The regular files below a location by their paths from there, in the order of the paths. -/
def filesBelow (t : FileTree) (above : Location) : List String :=
  ((t.below above).filterMap fun pair =>
      match pair.2 with
      | .file .. => some (pathOf (pair.1.drop above.length))
      | .directory => none).mergeSort fun a b => !decide (b < a)

/-- Puts a directory at a location unless something stands there. -/
def ensureDirectory (t : FileTree) (l : Location) : FileTree :=
  match t.get? l with
  | some _ => t
  | none => t.put l .directory

/-- Puts a file at a location with the directories that lead there. -/
def plant (t : FileTree) (l : Location) (content : Octets) (executable : Bool) : FileTree :=
  ((List.range l.length).foldl (fun t n => t.ensureDirectory (l.take n)) t).put l
    (.file content executable)

/-- Removes a node with all that is below it. -/
def prune (t : FileTree) (l : Location) : FileTree :=
  ⟨t.nodes.filter fun pair => !l.isPrefixOf pair.1⟩

end FileTree

end Timekeeper
