import Timekeeper.Language

/-!
# Settings

What a comparison is made of: where the benchmark programs are, how long a step can take, which
languages are measured and which two are set against each other. Nothing of it can be chosen
from outside; `Settings.standard` is what every comparison uses.
-/

namespace Timekeeper

/-- The directories in which programs are found, and the bounds of a build and of a run in
milliseconds. -/
structure Workplace where
  benchmarks : String
  project : String
  buildBound : Nat
  runBound : Nat
deriving DecidableEq

/-- The settings of a comparison. -/
structure Settings extends Workplace where
  reportPath : String
  subject : String
  baseline : String
  languages : List Language
deriving DecidableEq

namespace Settings

/-- The languages that are measured, in this order. -/
def standardLanguages : List Language :=
  [⟨"C", .compiled "gcc" ["-O2"] "benchmark.c" "benchmark_c"⟩,
    ⟨"JavaScript", .interpreted ["node"] "benchmark.js"⟩,
    ⟨"Python", .interpreted ["python3", "python"] "benchmark.py"⟩,
    ⟨"PHP", .interpreted ["php"] "benchmark.php"⟩,
    ⟨"Tulpar", .project ["tulpar", "tulpar.exe"] "benchmark.tpr"⟩]

/-- The settings that every comparison uses. -/
def standard : Settings where
  benchmarks := "./benchmarks/"
  project := "./"
  buildBound := 60000
  runBound := 300000
  reportPath := "./benchmark_results.txt"
  subject := "Tulpar"
  baseline := "Python"
  languages := standardLanguages

end Settings

end Timekeeper
