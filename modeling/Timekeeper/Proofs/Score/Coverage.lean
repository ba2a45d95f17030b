import Timekeeper.Proofs.Ranking.Origins
import Timekeeper.Proofs.Score.Declaration
import Timekeeper.Report.Diagnosis
import Timekeeper.Report.Matrix

/-!
# Every test is accounted for

A score of an execution **accounts** for the tests of a table (`Score.Accounts`). If the program ran
to its end, every declared test is either measured or missing: the identifiers of the two together
are those of the table, each once. If it did not, there is an error and nothing else.

What is shown follows this division. A cell of the matrix is not available exactly where the test
has no duration, as no printed duration reads so (`Report.duration_eq_notAvailable_iff`), and a
language is diagnosed exactly if its column has such a cell. A failed program cannot have a placing,
because it has no total.
-/

namespace Timekeeper

/-! ### What is shown of a score -/

namespace Report

/-- The last letter of every unit. -/
theorem getLast?_duration_some (x : Binary64) : (duration (some x)).getLast? = some 's' := by
  rw [duration]
  split
  · rfl
  split
  · exact List.getLast?_append_of_ne_nil _ (by decide)
  split
  · exact List.getLast?_append_of_ne_nil _ (by decide)
  · exact List.getLast?_append_of_ne_nil _ (by decide)

theorem duration_eq_notAvailable_iff {x : Option Binary64} :
    duration x = notAvailable.toList ↔ x = none := by
  cases x with
  | none => exact iff_of_true rfl rfl
  | some x =>
    refine iff_of_false ?_ (Option.some_ne_none x)
    intro h
    have hlast := getLast?_duration_some x
    rw [h] at hlast
    exact absurd hlast (by decide)

theorem cell_eq_notAvailable_iff {t : Test} {s : Score} :
    cell t s = notAvailable.toList ↔ s.measurement? t.id = none := duration_eq_notAvailable_iff

/-- Nothing is said about a language exactly if it did not fail and misses no tests. -/
theorem diagnosisOf_eq_nil_iff {g : Grammar} {s : Score} :
    diagnosisOf g s = [] ↔ s.error? = none ∧ s.missingTests g = [] := by
  rw [diagnosisOf]
  cases s.error? with
  | some error => simp [errorBlock]
  | none =>
    cases s.missingTests g with
    | nil => simp
    | cons t missing => simp [missingBlock]

/-- There is nothing to say exactly if nothing is said about any language. -/
theorem nothingToSay_iff {g : Grammar} {scores : List Score} :
    nothingToSay g scores = true ↔ ∀ s ∈ scores, diagnosisOf g s = [] := by
  simp only [nothingToSay, List.all_eq_true, Bool.and_eq_true, Option.isNone_iff_eq_none,
    List.isEmpty_iff, diagnosisOf_eq_nil_iff]

end Report

/-! ### Measured and missing tests -/

namespace Score

variable {table : Table} {g : Grammar} {e : Execution} {s : Score}

/-- How a score **accounts** for the tests of a table after an execution. -/
structure Accounts (table : Table) (g : Grammar) (e : Execution) (s : Score) : Prop where
  /-- After a completed execution every declared test is measured or missing, and none is both. -/
  declared_perm : e.status = .completed →
    (s.measurements.map Prod.fst ++ (s.missingTests g).map Test.id).Perm
      (table.tests.map Entry.id)
  disjoint : e.status = .completed →
    (s.measurements.map Prod.fst).Disjoint ((s.missingTests g).map Test.id)
  /-- Missing tests are in the order of declaration. -/
  missing_sublist : ((s.missingTests g).map Test.id).Sublist (table.tests.map Entry.id)
  /-- A failed execution leaves an error and nothing else. -/
  of_failed : e.status ≠ .completed → s.measurements = [] ∧ s.total? = none ∧
    s.missingTests g = [] ∧ s.error? = some e.status.message
  /-- A cell is not available exactly if the program failed or the test is missing. -/
  cell_iff : ∀ t ∈ g.tests, Report.cell t s = Report.notAvailable.toList ↔
    e.status ≠ .completed ∨ t ∈ s.missingTests g
  /-- A language is diagnosed exactly if its column has a cell that is not available. -/
  diagnosis_iff : Report.diagnosisOf g s ≠ [] ↔
    ∃ t ∈ g.tests, Report.cell t s = Report.notAvailable.toList

theorem ofExecution_of_completed (h : e.status = .completed) :
    ofExecution g e = ofReadout e.language (.ofText g e.output.toList) := by
  rw [ofExecution, if_pos (Status.isCompleted_iff.mpr h)]

theorem ofExecution_of_failed (h : e.status ≠ .completed) :
    ofExecution g e = failed e.language e.status.message := by
  rw [ofExecution, if_neg (mt Status.isCompleted_iff.mp h)]

theorem mem_missingTests_ofReadout {language : String} {r : Readout} {t : Test} :
    t ∈ (ofReadout language r).missingTests g ↔ t ∈ g.tests ∧ r.measurements.get? t.id = none := by
  rw [← Option.isNone_iff_eq_none]
  exact List.mem_filter

/-- Of a text, what is measured stands under the identifier of a declared test. -/
private theorem exists_of_mem_keys {text : List Char} {id : String}
    (h : id ∈ (Readout.ofText g text).measurements.map Prod.fst) : ∃ t ∈ g.tests, t.id = id := by
  have horder : (Readout.ofText g text).measurements.InOrder := Measurements.inOrder_ofList _
  rw [horder.mem_keys_iff] at h
  by_contra hnone
  have hget : (Readout.ofText g text).measurements.get? id = none := by
    refine Measurements.get?_ofList_eq_none ?_
    intro t ht hid
    exact hnone ⟨t, ht, hid⟩
  rw [hget] at h
  contradiction

theorem disjoint_missing (g : Grammar) (language : String) (text : List Char) :
    ((Readout.ofText g text).measurements.map Prod.fst).Disjoint
      (((ofReadout language (.ofText g text)).missingTests g).map Test.id) := by
  have horder : (Readout.ofText g text).measurements.InOrder := Measurements.inOrder_ofList _
  intro id hkey hmissing
  obtain ⟨t, ht, rfl⟩ := List.mem_map.mp hmissing
  have hnone := (mem_missingTests_ofReadout.mp ht).2
  rw [horder.mem_keys_iff, hnone] at hkey
  contradiction

/-- The measured tests and the missing ones together are the declared ones. -/
theorem perm_declared (hids : (g.tests.map Test.id).Nodup) (language : String)
    (text : List Char) :
    ((Readout.ofText g text).measurements.map Prod.fst ++
      ((ofReadout language (.ofText g text)).missingTests g).map Test.id).Perm
      (g.tests.map Test.id) := by
  have horder : (Readout.ofText g text).measurements.InOrder := Measurements.inOrder_ofList _
  have hmissing : (((ofReadout language (.ofText g text)).missingTests g).map Test.id).Nodup :=
    hids.sublist ((missingTests_sublist g _).map Test.id)
  have hnodup := horder.nodup_keys.append hmissing (disjoint_missing g language text)
  refine (List.perm_ext_iff_of_nodup hnodup hids).mpr fun id => ?_
  rw [List.mem_append]
  constructor
  · rintro (hkey | hmissing)
    · obtain ⟨t, ht, rfl⟩ := exists_of_mem_keys hkey
      exact List.mem_map_of_mem ht
    · exact ((missingTests_sublist g _).map Test.id).subset hmissing
  · intro hid
    obtain ⟨t, ht, rfl⟩ := List.mem_map.mp hid
    cases hget : (Readout.ofText g text).measurements.get? t.id with
    | none => exact .inr (List.mem_map_of_mem (mem_missingTests_ofReadout.mpr ⟨ht, hget⟩))
    | some value => exact .inl (horder.mem_keys_iff.mpr (hget ▸ rfl))

/-- A score of an execution accounts for the tests of its table. -/
theorem accounts_ofExecution (h : Grammar.Accepts table g) (e : Execution) :
    Accounts table g e (ofExecution g e) := by
  have hsublist := (missingTests_sublist g (ofExecution g e)).map Test.id
  by_cases hstatus : e.status = .completed
  -- a program that ran to its end: cells follow the measurements
  · rw [ofExecution_of_completed hstatus] at hsublist ⊢
    have hcell : ∀ t ∈ g.tests,
        Report.cell t (ofReadout e.language (.ofText g e.output.toList)) =
          Report.notAvailable.toList ↔
        t ∈ (ofReadout e.language (.ofText g e.output.toList)).missingTests g := by
      intro t ht
      rw [Report.cell_eq_notAvailable_iff, mem_missingTests_ofReadout]
      exact (and_iff_right ht).symm
    constructor
    · intro _
      exact h.ids_eq ▸ perm_declared h.nodup_ids e.language e.output.toList
    · intro _
      exact disjoint_missing g e.language e.output.toList
    · exact h.ids_eq ▸ hsublist
    · exact fun hfailed => absurd hstatus hfailed
    · intro t ht
      rw [hcell t ht, or_iff_right (not_not_intro hstatus)]
    · have herror : (ofReadout e.language (.ofText g e.output.toList)).error? = none := rfl
      rw [ne_eq, Report.diagnosisOf_eq_nil_iff, and_iff_right herror]
      constructor
      · intro hmissing
        obtain ⟨t, ht⟩ := List.exists_mem_of_ne_nil _ hmissing
        have hdeclared := (missingTests_sublist g _).subset ht
        exact ⟨t, hdeclared, (hcell t hdeclared).mpr ht⟩
      · rintro ⟨t, ht, hnone⟩
        exact List.ne_nil_of_mem ((hcell t ht).mp hnone)
  -- a program that failed: there is a test, so its column has a cell that is not available
  · rw [ofExecution_of_failed hstatus] at hsublist ⊢
    obtain ⟨t, ht⟩ := List.exists_mem_of_ne_nil g.tests h.grammar_tests_ne_nil
    constructor
    · exact fun hcompleted => absurd hcompleted hstatus
    · exact fun hcompleted => absurd hcompleted hstatus
    · exact h.ids_eq ▸ hsublist
    · exact fun _ => ⟨rfl, rfl, rfl, rfl⟩
    · exact fun t _ => iff_of_true rfl (.inl hstatus)
    · exact iff_of_true (List.cons_ne_nil _ _) ⟨t, ht, rfl⟩

end Score

/-- A score without a total has no placing. -/
theorem Ranking.not_mem_origins {scores : List Score} {i : Nat} {s : Score}
    (hs : scores[i]? = some s) (htotal : s.total? = none) : i ∉ origins scores := by
  intro hi
  obtain ⟨x, hx, rfl⟩ := List.mem_map.mp hi
  obtain ⟨hscore, hsome, -⟩ := of_mem_order hx
  rw [hs] at hscore
  obtain rfl := Option.some.inj hscore
  rw [htotal] at hsome
  contradiction

/-- Every test of every language is accounted for once. The scores of some executions each account
for the tests of the table, of which no two have the same identifier. A failed execution has no
placing. The matrix has a row of cells for every test and the diagnosis a block for every language,
and nothing is left to say exactly if every cell is available. -/
theorem Score.ofExecution_accounts {table : Table} {g : Grammar}
    (h : Grammar.ofTable table = .ok g) (es : List Execution) :
    let scores := es.map (ofExecution g)
    (table.tests.map Entry.id).Nodup ∧
    List.Forall₂ (Accounts table g) es scores ∧
    (Ranking.ofScores scores).HasOrigins scores (Ranking.origins scores) ∧
    (∀ i e, es[i]? = some e → e.status ≠ .completed → i ∉ Ranking.origins scores) ∧
    (Report.matrix g scores).drop 2 =
      g.tests.map (fun t => Report.matrixRow t.label.toList (scores.map (Report.cell t))) ∧
    Report.diagnosis g scores = (scores.map (Report.diagnosisOf g)).flatten ∧
    (Report.nothingToSay g scores = true ↔
      ∀ s ∈ scores, ∀ t ∈ g.tests, Report.cell t s ≠ Report.notAvailable.toList) := by
  intro scores
  have haccepts := Grammar.ofTable_eq_ok_iff.mp h
  have haccounts : ∀ e, Accounts table g e (ofExecution g e) := accounts_ofExecution haccepts
  refine ⟨haccepts.nodup, ?_, Ranking.hasOrigins_origins scores, ?_, rfl, rfl, ?_⟩
  · exact List.forall₂_map_right_iff.mpr (List.forall₂_same.mpr fun e _ => haccounts e)
  · intro i e he hfailed
    have hs : scores[i]? = some (ofExecution g e) := by simp [scores, he]
    exact Ranking.not_mem_origins hs ((haccounts e).of_failed hfailed).2.1
  · rw [Report.nothingToSay_iff]
    refine forall₂_congr fun s hs => ?_
    obtain ⟨e, -, rfl⟩ := List.mem_map.mp hs
    have hdiagnosis := (haccounts e).diagnosis_iff
    constructor
    · intro hnil t ht hcell
      exact hdiagnosis.mpr ⟨t, ht, hcell⟩ hnil
    · intro hcells
      by_contra hne
      obtain ⟨t, ht, hcell⟩ := hdiagnosis.mp hne
      exact hcells t ht hcell

/-- Here the first program reports one test and the second one cannot be run. -/
theorem Score.ofExecution_accounts_partial :
    let es : List Execution := [.completed "C" "Test 2: Sure: 4 ms\n",
      .failed "Rust" (.toolMissing "rustc")]
    let g := PlainTable.standard.grammar
    let scores := es.map (ofExecution g)
    Grammar.ofTable .standard = .ok g ∧
      List.Forall₂ (Accounts .standard g) es scores ∧ 1 ∉ Ranking.origins scores ∧
      scores.map (fun s => s.measurements.map Prod.fst) = [["factorial"], []] ∧
      scores.map (fun s => (s.missingTests g).length) = [11, 0] := by
  intro es g scores
  have hstandard : Grammar.ofTable .standard = .ok g := PlainTable.ofTable_standard
  obtain ⟨-, haccounts, -, hplacings, -⟩ := ofExecution_accounts hstandard es
  refine ⟨hstandard, haccounts, hplacings 1 _ rfl (by decide), ?_, ?_⟩
  · simp only [scores, es, List.map, ofExecution, g, PlainTable.ofText_grammar]
    decide +kernel
  · simp only [scores, es, List.map, ofExecution, g, PlainTable.ofText_grammar]
    decide +kernel

end Timekeeper
