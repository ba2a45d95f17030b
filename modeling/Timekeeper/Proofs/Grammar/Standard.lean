import Timekeeper.Grammar.Basic

/-!
# The standard table

The standard table is stored as a document. Which table that is, and that the grammar made of the
document is the grammar of the table.
-/

namespace Timekeeper

namespace Table

/-- The table of the programs that are compared by default. -/
def standard : Table where
  tests := [
    ⟨"fibonacci", "Fibonacci(30)", "Test 1:.*?Sure:"⟩,
    ⟨"factorial", "Factorial(20)", "Test 2:.*?Sure:"⟩,
    ⟨"loop", "Loop 1M", "Test 3:.*?Sure:"⟩,
    ⟨"nested", "Nested 1000x1000", "Test 4:.*?Sure:"⟩,
    ⟨"string", "String 100K", "Test 5:.*?Sure:"⟩,
    ⟨"ackermann", "Ackermann(2,3)", "Test 6:.*?Sure:"⟩,
    ⟨"tak", "Tak(18,12,6)", "Test 7:.*?Sure:"⟩,
    ⟨"sieve", "Sieve 100K", "Test 8:.*?Sure:"⟩,
    ⟨"bubble_sort", "Bubble Sort 1000", "Test 9:.*?Sure:"⟩,
    ⟨"array_memory", "Array 100K", "Test 10:.*?Sure:"⟩,
    ⟨"string_alloc", "String Alloc 10K", "Test 11:.*?Sure:"⟩,
    ⟨"struct_build", "Struct Build 10K", "Test 12:.*?Sure:"⟩]
  total := "TOPLAM SURE:"

/-- The table that the standard document stores. -/
theorem ofDocument_standardText : ofDocument standardText = .ok standard := by
  -- the text is taken line by line, so that no long text has to be decoded
  have hlines : standardText.toList = standardLines.flatMap String.toList := String.toList_join
  have hread : (document.run (Json.Input.ofText (standardLines.flatMap String.toList))).toOption.map
      Prod.fst = some standard := by decide +kernel
  rw [ofDocument, hlines]
  generalize document.run (Json.Input.ofText (standardLines.flatMap String.toList)) = run at hread ⊢
  cases run with
  | error fault => exact nomatch (show none = some standard from hread)
  | ok read => exact congrArg Except.ok (Option.some.inj hread)

end Table

/-- The standard grammar is that of the standard table. -/
theorem Grammar.standard_eq_ofTable : standard = ofTable .standard := by
  rw [standard, ofDocument, Table.ofDocument_standardText]

end Timekeeper
