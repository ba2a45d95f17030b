import Timekeeper.Grammar.Document
import Timekeeper.Pattern.Meaning

/-!
# Grammars

A **grammar** is a table that can be used: no identifier is blank or occurs twice, and every
marker is a pattern once the tail of a measurement stands behind it. The tail is a number
and a unit, each remembered under a name.

A table is checked test by test in the order of declaration and the total last, and the
first violation found is the one reported. Which markers are patterns is asked of a compiler,
which is that of this library unless another one is given.
-/

namespace Timekeeper

/-- A test that can be looked for: its pattern as written, and what it means. -/
structure Test where
  id : String
  label : String
  pattern : String
  plan : Pattern.Plan

/-- The tests of a table in the order of declaration, and the pattern of the total. -/
structure Grammar where
  tests : List Test
  totalPattern : String
  totalPlan : Pattern.Plan

/-- Why a table is no grammar. -/
inductive GrammarError where
  | document (fault : Json.Fault)
  | noTests
  | blankId (index : Nat)
  | repeatedId (id : String)
  | marker (id pattern : String) (flaw : Pattern.Flaw)
deriving DecidableEq

/-- What is said about a table that is no grammar. -/
def GrammarError.message : GrammarError → String
  | document fault => "Grammar table parsing: " ++ fault.message
  | noTests => "Grammar table declares no tests"
  | blankId index =>
    "Grammar test #" ++ String.ofList (Binary64.digits index) ++ " has an empty identifier"
  | repeatedId id => "Grammar test `" ++ id ++ "` is declared more than once"
  | marker id pattern flaw =>
    "Grammar pattern of `" ++ id ++ "` compiling: " ++ flaw.message pattern.toList

namespace Grammar

/-- The flags in front of every marker: case does not count, and a point stands for the end of
a line too. -/
def flags : String := "(?is)"

/-- The tail behind every marker. -/
def tail : String :=
  "\\s*(?P<value>[-+]?[0-9.]+(?:[eE][-+]?[0-9]+)?)\\s*(?P<unit>ms|µs|μs|us|ns|s)\\b"

/-- The name under which the tail remembers the number. -/
def valueName : String := "value"

/-- The name under which the tail remembers the unit. -/
def unitName : String := "unit"

/-- The identifier under which the pattern of the total is reported. -/
def totalId : String := "total"

/-- The pattern of a marker with the tail behind it. -/
def patternOf (marker : String) : String := flags ++ marker ++ tail

/-- The plan of a marker's pattern. -/
def compile (id marker : String) (compiler : Pattern.Compiler := Pattern.compile) :
    Except GrammarError Pattern.Plan :=
  let written := patternOf marker
  match compiler written.toList with
  | .ok plan => .ok plan
  | .error flaw => .error (.marker id written flaw)

/-- Whether an identifier has nothing but white space. -/
def isBlankId (id : String) : Bool := (Text.trim id.toList).isEmpty

/-- The test of an entry, given its index and the entries before it. -/
def testOf (compiler : Pattern.Compiler) (earlier : List Entry) (index : Nat) (entry : Entry) :
    Except GrammarError Test := do
  if isBlankId entry.id then throw (.blankId index)
  if earlier.any (·.id = entry.id) then throw (.repeatedId entry.id)
  let plan ← compile entry.id entry.marker compiler
  return ⟨entry.id, entry.label, patternOf entry.marker, plan⟩

/-- The tests of the entries behind some earlier ones. -/
def testsOf (compiler : Pattern.Compiler) (earlier : List Entry) :
    List Entry → Except GrammarError (List Test)
  | [] => return []
  | entry :: rest => do
    let test ← testOf compiler earlier earlier.length entry
    let tests ← testsOf compiler (earlier ++ [entry]) rest
    return test :: tests

/-- The grammar of a table. -/
def ofTable (table : Table) (compiler : Pattern.Compiler := Pattern.compile) :
    Except GrammarError Grammar := do
  if table.tests.isEmpty then throw .noTests
  let tests ← testsOf compiler [] table.tests
  let total ← compile totalId table.total compiler
  return ⟨tests, patternOf table.total, total⟩

/-- The grammar of a stored table. -/
def ofDocument (text : String) : Except GrammarError Grammar :=
  match Table.ofDocument text with
  | .ok table => ofTable table
  | .error fault => .error (.document fault)

/-- The grammar of the standard table. -/
def standard : Except GrammarError Grammar := ofDocument Table.standardText

/-- The label of the test with an identifier. -/
def label? (g : Grammar) (id : String) : Option String :=
  (g.tests.find? (·.id = id)).map Test.label

end Grammar

end Timekeeper
