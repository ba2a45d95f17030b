/-!
# Runs of case pairs

Case mappings are stored as runs: code points at a fixed step from one another whose
images all lie at one distance.
-/

namespace Timekeeper

namespace Unicode

/-- The code points `first`, `first + step`, … up to `last`, each mapped `shift` further. -/
structure CaseRun where
  first : Nat
  last : Nat
  step : Nat
  shift : Int

namespace CaseRun

/-- Whether a code point is one of the run. -/
def holds (run : CaseRun) (point : Nat) : Bool :=
  run.first ≤ point && point ≤ run.last && (point - run.first) % run.step == 0

/-- The image of a code point of the run. -/
def image (run : CaseRun) (point : Nat) : Nat := (point + run.shift).toNat

/-- The code point of the run with the given image, if the run has one. -/
def source? (run : CaseRun) (image : Nat) : Option Nat :=
  let point := (image - run.shift).toNat
  if run.holds point && run.image point == image then some point else none

end CaseRun

end Unicode

end Timekeeper
