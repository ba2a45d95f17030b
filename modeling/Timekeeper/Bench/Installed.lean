import Timekeeper.Bench.Utility.Filing
import Timekeeper.Bench.Utility.Testing

/-!
# Installed programs

Which programs the bench has, and where. A program is a file that begins with the mark of
programs and its own name, so that a copy of it under another name still does the same.
-/

namespace Timekeeper

namespace Bench

namespace Installed

/-- The programs that only see files and their input. -/
def utilities : List (String × Utility) :=
  [("cat", Utility.cat), ("head", Utility.head), ("tail", Utility.tail), ("wc", Utility.wc),
    ("rev", Utility.rev), ("tac", Utility.tac), ("nl", Utility.nl), ("tee", Utility.tee),
    ("yes", Utility.yes), ("dd", Utility.dd), ("tr", Utility.tr), ("cut", Utility.cut),
    ("fold", Utility.fold), ("paste", Utility.paste), ("sort", Utility.sort),
    ("uniq", Utility.uniq), ("seq", Utility.seq), ("echo", Utility.echo),
    ("printf", Utility.printf), ("grep", Utility.grep), ("sed", Utility.sed),
    ("test", Utility.test), ("[", Utility.bracket), ("expr", Utility.expr),
    ("basename", Utility.basename), ("dirname", Utility.dirname), ("touch", Utility.touch),
    ("mkdir", Utility.mkdir), ("rmdir", Utility.rmdir), ("rm", Utility.rm), ("cp", Utility.cp),
    ("mv", Utility.mv), ("chmod", Utility.chmod), ("ls", Utility.ls), ("pwd", Utility.pwd),
    ("sleep", Utility.sleep), ("true", Utility.succeed), ("false", Utility.failing),
    ("sync", Utility.succeed)]

/-- The programs that run commands. -/
def runners : List String := ["sh", "dash", "env", "nohup", "nice", "timeout", "xargs"]

/-- The names of all programs. -/
def names : List String := utilities.map Prod.fst ++ runners

/-- The mark with which a program begins. -/
def mark : Octets := ['\x7f', 'E', 'L', 'F']

/-- The content of a program. -/
def contentOf (name : String) : Octets := mark ++ name.toList

/-- The name of the program that octets are, if they are one. -/
def nameOf? (content : Octets) : Option String :=
  if mark.isPrefixOf content then
    let name := String.ofList (content.drop mark.length)
    if names.contains name then some name else none
  else none

/-- The directories in which programs are looked for. -/
def path : String := "/usr/local/sbin:/usr/local/bin:/usr/sbin:/usr/bin:/sbin:/bin"

/-- The directories that every bench has. -/
def directories : List Location :=
  [["bin"], ["sbin"], ["usr"], ["usr", "bin"], ["usr", "sbin"], ["tmp"], ["dev"], ["root"]]

/-- The tree of a bench on which nothing was put. -/
def tree : FileTree :=
  let bare := directories.foldl (fun t l => t.put l .directory) .empty
  names.foldl (fun t name =>
    (t.put ["usr", "bin", name] (.file (contentOf name) true)).put ["bin", name]
      (.file (contentOf name) true)) bare

end Installed

end Bench

end Timekeeper
