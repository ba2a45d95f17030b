import Timekeeper.Bench.Utility.Printing
import Timekeeper.Bench.Utility.Reading

/-!
# Utilities that change files

Programs that make, copy, move and remove files and directories, and some that tell about
them or take time.
-/

namespace Timekeeper

namespace Bench

namespace Utility

/-! ### Names -/

/-- A name without the slashes at its end; of slashes alone one stays. -/
def stripSlashes (name : Octets) : Octets :=
  let stripped := (name.reverse.dropWhile (· = '/')).reverse
  if stripped.isEmpty && !name.isEmpty then ['/'] else stripped

/-- The last name of a path. -/
def baseOf (name : Octets) : Octets :=
  let stripped := stripSlashes name
  if stripped = ['/'] then stripped else (stripped.reverse.takeWhile (· ≠ '/')).reverse

/-- Writes the last name of a path, without a given ending. -/
def basename : Utility := fun c =>
  c.withOptions 1 "az" "s" [] fun o =>
    match o.operands with
    | [] => c.missingOperand 1
    | [name] => c.print (cut (o.value? 's') (baseOf name) ++ ['\n'])
    | [name, ending] =>
      if o.has 'a' || (o.value? 's').isSome then
        c.print (closeLines ([name, ending].map fun n => cut (o.value? 's') (baseOf n)))
      else c.print (cut (some ending) (baseOf name) ++ ['\n'])
    | names =>
      if o.has 'a' || (o.value? 's').isSome then
        c.print (closeLines (names.map fun n => cut (o.value? 's') (baseOf n)))
      else c.misuse 1 ("extra operand ".toList ++ Call.quoteAlways (names.getD 2 []))
where
  /-- A name without an ending that it has, unless nothing would be left. -/
  cut (ending : Option Octets) (name : Octets) : Octets :=
    match ending with
    | some e => if e.isSuffixOf name && e ≠ name then name.take (name.length - e.length) else name
    | none => name

/-- Writes a path without its last name. -/
def dirname : Utility := fun c =>
  c.withOptions 1 "z" "" [] fun o =>
    if o.operands.isEmpty then c.missingOperand 1
    else
      c.print (closeLines (o.operands.map fun name =>
        let stripped := stripSlashes name
        let front := (stripped.reverse.dropWhile (· ≠ '/')).reverse
        if front.isEmpty then ['.'] else stripSlashes front))

/-! ### Making and removing -/

/-- A change of files by several operands, each of which can fail with a complaint. -/
def eachOperand (c : Call) (operands : List Octets)
    (f : FileTree → Octets → FileTree × List Octets) : Effect :=
  let (tree, complaints) := operands.foldl (fun (tree, complaints) name =>
    let (tree, more) := f tree name
    (tree, complaints ++ more)) (c.tree, [])
  { c.effect (if complaints.isEmpty then 0 else 1) (complaints.map c.complaint) with tree := tree }

/-- What cannot be done with a file, and why. -/
def cannot (what : String) (name : Octets) (fault : Fault) : Octets :=
  ("cannot " ++ what ++ " ").toList ++ Call.quoteAlways name ++ [':', ' '] ++ fault.text.toList

/-- Makes files that are not there. -/
def touch : Utility := fun c =>
  c.withOptions 1 "acmfh" "drt" [] fun o =>
    if o.operands.isEmpty then c.misuse 1 "missing file operand".toList
    else
      eachOperand c o.operands fun tree name =>
        let path := Call.path name
        match tree.find c.directory path with
        | .ok _ => (tree, [])
        | .error _ =>
          if o.has 'c' then (tree, [])
          else
            match tree.write c.directory path [] with
            | .ok tree => (tree, [])
            | .error fault => (tree, [cannot "touch" name fault])

/-- Makes a directory. -/
def makeDirectory (tree : FileTree) (directory : Location) (path : String) :
    Except Fault FileTree :=
  match tree.locate directory (Call.path (stripSlashes (Octets.ofString path))) with
  | .error fault => .error fault
  | .ok l =>
    match tree.get? l with
    | some _ => .error .exists
    | none => .ok (tree.put l .directory)

/-- Makes a directory with those that lead to it. -/
def makeDirectories (tree : FileTree) (directory : Location) (path : String) :
    Except Fault FileTree :=
  let names := FileTree.names path
  let root := if FileTree.isAbsolute path then "/" else ""
  (List.range names.length).foldl (fun result n =>
    match result with
    | .error fault => .error fault
    | .ok tree =>
      let front := root ++ String.intercalate "/" (names.take (n + 1))
      if FileTree.isDirectory tree directory front then .ok tree
      else makeDirectory tree directory front) (.ok tree)

/-- Makes directories. -/
def mkdir : Utility := fun c =>
  c.withOptions 1 "pv" "m" [("parents", 'p')] fun o =>
    if o.operands.isEmpty then c.missingOperand 1
    else
      eachOperand c o.operands fun tree name =>
        let make := if o.has 'p' then makeDirectories else makeDirectory
        match make tree c.directory (Call.path name) with
        | .ok tree => (tree, [])
        | .error fault =>
          (tree, ["cannot create directory ".toList ++ Call.quoteAlways name ++ [':', ' '] ++
            fault.text.toList])

/-- Removes empty directories. -/
def rmdir : Utility := fun c =>
  c.withOptions 1 "pv" "" [] fun o =>
    if o.operands.isEmpty then c.missingOperand 1
    else
      eachOperand c o.operands fun tree name =>
        let bad (fault : Fault) : FileTree × List Octets :=
          (tree, ["failed to remove ".toList ++ Call.quoteAlways name ++ [':', ' '] ++
            fault.text.toList])
        match tree.find c.directory (Call.path name) with
        | .error fault => bad fault
        | .ok (_, .file ..) => bad .notDirectory
        | .ok (l, .directory) =>
          if (tree.below l).isEmpty then (tree.erase l, []) else bad .notEmpty

/-- Removes files. -/
def rm : Utility := fun c =>
  c.withOptions 1 "frRivd" "" [("force", 'f'), ("recursive", 'r')] fun o =>
    if o.operands.isEmpty then (if o.has 'f' then c.effect 0 [] else c.missingOperand 1)
    else
      eachOperand c o.operands fun tree name =>
        match tree.find c.directory (Call.path name) with
        | .error fault =>
          if o.has 'f' && (fault = .noEntry || fault = .notDirectory) then (tree, [])
          else (tree, [cannot "remove" name fault])
        | .ok (l, .file ..) => (tree.erase l, [])
        | .ok (l, .directory) =>
          if o.has 'r' || o.has 'R' then (tree.prune l, [])
          else (tree, [cannot "remove" name .isDirectory])

/-! ### Copying and moving -/

/-- The location to which a file is copied or moved: inside a directory under its own name. -/
def destination (tree : FileTree) (directory : Location) (source target : Octets) :
    Except Fault Location :=
  let path := Call.path target
  if tree.isDirectory directory path then
    tree.locate directory (FileTree.join path (Call.path (baseOf source)))
  else tree.target directory path

/-- A tree in which what is at and below one location stands at another too. -/
def copyTree (tree : FileTree) (source target : Location) : FileTree :=
  ((tree.nodes.filter fun pair => source.isPrefixOf pair.1).foldl (fun t pair =>
    t.put (target ++ pair.1.drop source.length) pair.2) tree)

/-- Copies files. -/
def cp : Utility := fun c =>
  c.withOptions 1 "afprRvnTuLPHdi" "t" [("recursive", 'r')] fun o =>
    match o.operands with
    | [] => c.misuse 1 "missing file operand".toList
    | [one] => c.misuse 1 ("missing destination file operand after ".toList ++ Call.quoteAlways one)
    | operands =>
      let target := operands.getLastD []
      eachOperand c operands.dropLast fun tree name =>
        match tree.find c.directory (Call.path name) with
        | .error fault => (tree, ["cannot stat ".toList ++ Call.quoteAlways name ++ [':', ' '] ++
            fault.text.toList])
        | .ok (l, node) =>
          match destination tree c.directory name target with
          | .error fault =>
            (tree, ["cannot create regular file ".toList ++ Call.quoteAlways target ++ [':', ' '] ++
              fault.text.toList])
          | .ok spot =>
            match node with
            | .file content executable =>
              let kept :=
                match tree.get? spot with
                | some (.file _ old) => old
                | _ => executable
              (tree.put spot (.file content kept), [])
            | .directory =>
              if o.has 'r' || o.has 'R' || o.has 'a' then (copyTree tree l spot, [])
              else (tree, ["-r not specified; omitting directory ".toList ++ Call.quoteAlways name])

/-- Moves files. -/
def mv : Utility := fun c =>
  c.withOptions 1 "fivnTu" "t" [] fun o =>
    match o.operands with
    | [] => c.misuse 1 "missing file operand".toList
    | [one] => c.misuse 1 ("missing destination file operand after ".toList ++ Call.quoteAlways one)
    | operands =>
      let target := operands.getLastD []
      eachOperand c operands.dropLast fun tree name =>
        match tree.find c.directory (Call.path name) with
        | .error fault => (tree, ["cannot stat ".toList ++ Call.quoteAlways name ++ [':', ' '] ++
            fault.text.toList])
        | .ok (l, _) =>
          match destination tree c.directory name target with
          | .error fault =>
            (tree, ["cannot move ".toList ++ Call.quoteAlways name ++ " to ".toList ++
              Call.quoteAlways target ++ [':', ' '] ++ fault.text.toList])
          | .ok spot => if spot = l then (tree, []) else ((copyTree tree l spot).prune l, [])

/-! ### Permissions -/

/-- Whether a file can be started under a mode as it is written, given whether it could before. -/
def executableUnder? (mode : Octets) (before : Bool) : Option Bool :=
  if mode.all Printing.isOctal then
    if mode.isEmpty then none
    else
      let n := mode.foldl (fun n d => n * 8 + (d.toNat - '0'.toNat)) 0
      some (n % 2 = 1 || n / 8 % 2 = 1 || n / 64 % 2 = 1)
  else
    (splitOn ',' mode).foldl (fun result clause =>
      match result with
      | none => none
      | some executable =>
        let rest := clause.dropWhile fun c => "ugoa".toList.contains c
        match rest with
        | sign :: letters =>
          if !letters.all fun c => "rwxXst".toList.contains c then none
          else if sign = '+' then some (executable || letters.contains 'x')
          else if sign = '-' then some (executable && !letters.contains 'x')
          else if sign = '=' then some (letters.contains 'x')
          else none
        | [] => none) (some before)

/-- Changes the permissions of files. -/
def chmod : Utility := fun c =>
  let isMode (a : Octets) : Bool :=
    match a with
    | '-' :: d :: _ => "rwxXst".toList.contains d
    | _ => false
  let options := c.arguments.takeWhile fun a => a.head? = some '-' && !isMode a
  match c.arguments.drop options.length with
  | [] => c.missingOperand 1
  | [mode] => c.misuse 1 ("missing operand after ".toList ++ Call.quoteAlways mode)
  | mode :: names =>
    match executableUnder? mode false with
    | none => c.misuse 1 ("invalid mode: ".toList ++ Call.quoteAlways mode)
    | some _ =>
      eachOperand c names fun tree name =>
        match tree.find c.directory (Call.path name) with
        | .error fault => (tree, [cannot "access" name fault])
        | .ok (_, .directory) => (tree, [])
        | .ok (l, .file content before) =>
          (tree.put l (.file content ((executableUnder? mode before).getD before)), [])

/-! ### Telling -/

/-- The names in a directory, in order. -/
def entriesOf (tree : FileTree) (l : Location) : List String :=
  ((tree.below l).filterMap fun pair =>
    if pair.1.length = l.length + 1 then pair.1.getLast? else none).mergeSort
      fun a b => !decide (b < a)

/-- Lists files. -/
def ls : Utility := fun c =>
  c.withOptions 2 "1aAdpFrQR" "" [("all", 'a')] fun o =>
    let names := if o.operands.isEmpty then [['.']] else o.operands
    let found := names.map fun name => (name, c.tree.find c.directory (Call.path name))
    let complaints := found.filterMap fun (name, node) =>
      match node with
      | .error fault => some (c.complaint (cannot "access" name fault))
      | .ok _ => none
    let files := found.filterMap fun (name, node) =>
      match node with
      | .ok (_, .file ..) => some name
      | .ok (_, .directory) => if o.has 'd' then some name else none
      | .error _ => none
    let directories := found.filterMap fun (name, node) =>
      match node with
      | .ok (l, .directory) => if o.has 'd' then none else some (name, l)
      | _ => none
    let visible (n : String) : Bool := o.has 'a' || o.has 'A' || n.toList.head? ≠ some '.'
    let mark (l : Location) (n : String) : Octets :=
      let text := Octets.ofString n
      match c.tree.get? (l ++ [n]) with
      | some .directory => if o.has 'p' || o.has 'F' then text ++ ['/'] else text
      | some (.file _ true) => if o.has 'F' then text ++ ['*'] else text
      | _ => text
    let listing (l : Location) : Octets :=
      let shown := (entriesOf c.tree l).filter visible
      closeLines ((if o.has 'a' then [['.'], ['.', '.']] else []) ++ shown.map (mark l))
    let inside (name : Octets) (l : Location) : List (Octets × Location) :=
      if o.has 'R' then
        (((c.tree.below l).filter fun pair => pair.2 = .directory).map Prod.fst).mergeSort
          (fun a b => !decide (b < a)) |>.map fun d =>
            (name ++ '/' :: Octets.ofString (FileTree.pathOf (d.drop l.length)), d)
      else []
    let directories := directories.flatMap fun (name, l) => (name, l) :: inside name l
    let titled := found.length > 1 || o.has 'R'
    let first := closeLines (files.mergeSort fun a b => !(b < a))
    let blocks := directories.map fun (name, l) =>
      (if titled then name ++ [':', '\n'] else []) ++ listing l
    let body := (if first.isEmpty then [] else [first]) ++ blocks
    c.effect (if complaints.isEmpty then 0 else 2)
      (complaints ++ [(.output, joinWith ['\n'] body)])

/-- Writes the working directory. -/
def pwd : Utility := fun c =>
  c.withOptions 1 "LP" "" [] fun _ =>
    c.print (Octets.ofString ("/" ++ FileTree.pathOf c.directory) ++ ['\n'])

/-! ### Time and status -/

/-- The milliseconds that an interval of time with an optional unit writes. -/
def interval? (text : Octets) : Option Nat :=
  let number := text.takeWhile fun c => c.isDigit || c = '.'
  let scale? :=
    match text.drop number.length with
    | [] => some 1000
    | ['s'] => some 1000
    | ['m'] => some 60000
    | ['h'] => some 3600000
    | ['d'] => some 86400000
    | _ => none
  let whole := number.takeWhile (· ≠ '.')
  let fraction := (number.drop whole.length).drop 1
  match scale?, natOf? (whole ++ fraction) with
  | some scale, some n => some (n * scale / powerOfTen fraction.length)
  | _, _ => none

/-- Does nothing for a while. -/
def sleep : Utility := fun c =>
  c.withOptions 1 "" "" [] fun o =>
    if o.operands.isEmpty then c.missingOperand 1
    else if o.operands.contains "infinity".toList || o.operands.contains "inf".toList then
      { c.effect 0 [] with pause := none }
    else
      match o.operands.find? fun a => (interval? a).isNone with
      | some bad => c.misuse 1 ("invalid time interval ".toList ++ Call.quoteAlways bad)
      | none =>
        { c.effect 0 [] with pause := some ((o.operands.filterMap interval?).foldl (· + ·) 0) }

/-- Succeeds. -/
def succeed : Utility := fun c => c.effect 0 []

/-- Fails. -/
def failing : Utility := fun c => c.effect 1 []

end Utility

end Bench

end Timekeeper
