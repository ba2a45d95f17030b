import Timekeeper.Proofs.Grammar.Accepted
import Timekeeper.Proofs.Readout.Extraction
import Timekeeper.Proofs.Readout.Order
import Timekeeper.Score

/-!
# The declaration of tests

Tests do not depend on one another, nor on the order in which a table declares them. What is found
for a test is what its own marker leads to (`Grammar.Accepts.get?_ofText`), so a table that declares
the test alone finds the same. And as measurements are kept in the order of their identifiers, two
tables with the same entries come to the same readout of any text
(`Grammar.Accepts.ofText_eq_of_perm`), hence to the same total, rounded additions included.

Only the list of tests that were not reported shows the order of declaration.
-/

namespace Timekeeper

namespace Grammar.Accepts

variable {table table' : Table} {g g' : Grammar}

/-- Under the identifier of a test stands what its own pattern finds. -/
theorem get?_ofText (h : Accepts table g) {test : Test} (htest : test ∈ g.tests)
    (text : List Char) :
    (Readout.ofText g text).measurements.get? test.id = Readout.find? test.plan text :=
  Measurements.get?_ofList h.nodup_ids htest

/-- A test finds the same where it is declared alone. -/
theorem exists_alone_get?_eq (h : Accepts table g) {entry : Entry} (he : entry ∈ table.tests) :
    ∃ g₁, Accepts ⟨[entry], table.total⟩ g₁ ∧ ∀ text,
      (Readout.ofText g text).measurements.get? entry.id =
          (Readout.ofText g₁ text).measurements.get? entry.id ∧
        (Readout.ofText g text).total = (Readout.ofText g₁ text).total := by
  obtain ⟨test, htest, hmade, halone⟩ := h.exists_alone he
  refine ⟨_, halone, fun text => ⟨?_, rfl⟩⟩
  have hown := halone.get?_ofText (List.mem_singleton_self test) text
  rw [← hmade.id_eq, h.get?_ofText htest text, hown]

/-- Tables with the same entries have grammars with the same tests. -/
theorem perm_tests (h : Accepts table g) (h' : Accepts table' g')
    (htotal : table.total = table'.total) (hperm : table.tests.Perm table'.tests) :
    g.tests.Perm g'.tests ∧ g.totalPlan = g'.totalPlan := by
  obtain ⟨g₁, h₁, htests, hplan⟩ := h.exists_of_perm htotal hperm
  obtain rfl := h₁.unique h'
  exact ⟨htests, hplan⟩

/-- Tables with the same entries read the same out of a text. -/
theorem ofText_eq_of_perm (h : Accepts table g) (h' : Accepts table' g')
    (htotal : table.total = table'.total) (hperm : table.tests.Perm table'.tests)
    (text : List Char) : Readout.ofText g text = Readout.ofText g' text := by
  obtain ⟨htests, hplan⟩ := h.perm_tests h' htotal hperm
  have hmeasurements : Measurements.ofList
      (Measurements.pairsOf Test.id (fun t => Readout.find? t.plan text) g.tests) =
      Measurements.ofList
        (Measurements.pairsOf Test.id (fun t => Readout.find? t.plan text) g'.tests) :=
    Measurements.ofList_eq_of_perm htests h.nodup_ids
  rw [Readout.ofText, Readout.ofText, ← hplan]
  exact congrArg (Readout.mk · _) hmeasurements

end Grammar.Accepts

namespace Score

variable {table table' : Table} {g g' : Grammar}

/-- The tests that a score misses are in the order of declaration. -/
theorem missingTests_sublist (g : Grammar) (s : Score) : (s.missingTests g).Sublist g.tests := by
  rw [missingTests]
  split
  · exact List.filter_sublist
  · exact List.nil_sublist _

theorem missingTests_perm (h : g.tests.Perm g'.tests) (s : Score) :
    (s.missingTests g).Perm (s.missingTests g') := by
  rw [missingTests, missingTests]
  split
  · exact h.filter _
  · exact List.Perm.refl _

/-- Tables with the same entries come to the same score of an execution. -/
theorem ofExecution_eq_of_perm (h : Grammar.Accepts table g) (h' : Grammar.Accepts table' g')
    (htotal : table.total = table'.total) (hperm : table.tests.Perm table'.tests)
    (e : Execution) : ofExecution g e = ofExecution g' e := by
  rw [ofExecution, ofExecution, h.ofText_eq_of_perm h' htotal hperm]

end Score

/-- The tests of a table are independent of one another and of the order of declaration. In every
text a test finds what it finds where it is declared alone, and so does the total. Of two tables
with the same entries both are accepted or neither is; and if they are, they come to the same score
of every execution, with the same total to the last bit, and to the same tests that were not
reported, listed by each table in its own order. -/
theorem Grammar.declaration_independent :
    (∀ table g, ofTable table = .ok g → ∀ entry ∈ table.tests,
      ∃ g₁, ofTable ⟨[entry], table.total⟩ = .ok g₁ ∧ ∀ text,
        (Readout.ofText g text).measurements.get? entry.id =
            (Readout.ofText g₁ text).measurements.get? entry.id ∧
          (Readout.ofText g text).total = (Readout.ofText g₁ text).total) ∧
    ∀ table table' : Table, table.total = table'.total → table.tests.Perm table'.tests →
      ((∃ g, ofTable table = .ok g) ↔ ∃ g', ofTable table' = .ok g') ∧
      ∀ g g', ofTable table = .ok g → ofTable table' = .ok g' →
        (∀ e, Score.ofExecution g e = Score.ofExecution g' e) ∧
        ∀ s : Score, (s.missingTests g).Perm (s.missingTests g') ∧
          ((s.missingTests g).map Test.id).Sublist (table.tests.map Entry.id) ∧
          ((s.missingTests g').map Test.id).Sublist (table'.tests.map Entry.id) := by
  constructor
  · intro table g h entry he
    obtain ⟨g₁, h₁, hfound⟩ := (ofTable_eq_ok_iff.mp h).exists_alone_get?_eq he
    exact ⟨g₁, ofTable_eq_ok_iff.mpr h₁, hfound⟩
  · intro table table' htotal hperm
    refine ⟨⟨?_, ?_⟩, ?_⟩
    · rintro ⟨g, h⟩
      obtain ⟨g', h', -⟩ := (ofTable_eq_ok_iff.mp h).exists_of_perm htotal hperm
      exact ⟨g', ofTable_eq_ok_iff.mpr h'⟩
    · rintro ⟨g', h'⟩
      obtain ⟨g, h, -⟩ := (ofTable_eq_ok_iff.mp h').exists_of_perm htotal.symm hperm.symm
      exact ⟨g, ofTable_eq_ok_iff.mpr h⟩
    · intro g g' h h'
      rw [ofTable_eq_ok_iff] at h h'
      have htests := (h.perm_tests h' htotal hperm).1
      refine ⟨Score.ofExecution_eq_of_perm h h' htotal hperm, fun s => ⟨?_, ?_, ?_⟩⟩
      · exact Score.missingTests_perm htests s
      · exact h.ids_eq ▸ (Score.missingTests_sublist g s).map Test.id
      · exact h'.ids_eq ▸ (Score.missingTests_sublist g' s).map Test.id

/-- Declared backwards, the standard table comes to the same score of a program that reports three
tests, although adding them up backwards would give another number. And the last test finds what it
finds alone. -/
theorem Grammar.declaration_independent_backwards :
    let t := PlainTable.standard
    let t' : PlainTable := ⟨t.tests.reverse, t.total⟩
    let text := "Test 1: Sure: 0.1 ms\nTest 2: Sure: 0.2 ms\nTest 3: Sure: 0.3 ms\n"
    let tenth (n : Nat) := Decimal.nearest ⟨false, n, -1⟩
    ofTable t.toTable = .ok t.grammar ∧ ofTable t'.toTable = .ok t'.grammar ∧
      Score.ofExecution t.grammar (.completed "C" text) =
        Score.ofExecution t'.grammar (.completed "C" text) ∧
      (Score.ofExecution t.grammar (.completed "C" text)).total? =
        some (.sum [tenth 2, tenth 1, tenth 3]) ∧
      Binary64.sum [tenth 2, tenth 1, tenth 3] ≠ .sum [tenth 3, tenth 2, tenth 1] ∧
      ∃ g₁, ofTable ⟨[⟨"loop", "Loop 1M", "Test 3:.*?Sure:"⟩], t.toTable.total⟩ = .ok g₁ ∧
        (Readout.ofText t.grammar text.toList).measurements.get? "loop" =
          (Readout.ofText g₁ text.toList).measurements.get? "loop" := by
  intro t t' text tenth
  have haccepted : ofTable t.toTable = .ok t.grammar := by
    rw [PlainTable.toTable_standard]
    exact PlainTable.ofTable_standard
  have haccepted' : ofTable t'.toTable = .ok t'.grammar :=
    PlainTable.ofTable_toTable (by decide) (by decide) (by decide) (by decide) (by decide)
  let entry (e : PlainEntry) : Entry := ⟨e.id, e.label, e.marker.pattern⟩
  have hperm : t.toTable.tests.Perm t'.toTable.tests :=
    (List.reverse_perm t.tests).symm.map entry
  have hmem : ⟨"loop", "Loop 1M", "Test 3:.*?Sure:"⟩ ∈ t.toTable.tests := by decide
  obtain ⟨-, hsame⟩ := declaration_independent.2 t.toTable t'.toTable rfl hperm
  obtain ⟨g₁, h₁, hfound⟩ := declaration_independent.1 t.toTable t.grammar haccepted _ hmem
  refine ⟨haccepted, haccepted', (hsame _ _ haccepted haccepted').1 _, ?_, ?_, g₁, h₁,
    (hfound text.toList).1⟩
  · change Score.totalOf (Readout.ofText t.grammar text.toList) = _
    rw [PlainTable.ofText_grammar]
    decide +kernel
  · decide +kernel

end Timekeeper
