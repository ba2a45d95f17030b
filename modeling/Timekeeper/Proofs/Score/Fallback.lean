import Timekeeper.Proofs.Score.Coverage
import Timekeeper.Proofs.Score.Finite
import Timekeeper.Proofs.Text.Octets

/-!
# Totals that no text states

Where a program ran to its end and its text states no total, the tests are **added up** instead
(`Score.AddsUp`). The total is then missing exactly if no test was measured, and otherwise it is the
sum of the measured durations, from left to right in the order of the identifiers' octets.

What a rounded sum keeps of its terms is what the ranking needs. Rounding is monotone, so no partial
sum falls below one of its terms, not even when it leaves the range; and no term above zero is lost,
however small it is (`Binary64.isPositive_sum_iff`). So the language is ranked exactly if one of its
tests took time.
-/

namespace Timekeeper

open Binary64

namespace Grammar.Accepts

variable {table : Table} {g : Grammar} {id : String} {ms : Binary64}

/-- What is measured is what the tests find, each under its own identifier. -/
theorem mem_measurements_iff (h : Accepts table g) (text : List Char) :
    (id, ms) ∈ (Readout.ofText g text).measurements ↔
      ∃ t ∈ g.tests, t.id = id ∧ Readout.find? t.plan text = some ms := by
  have horder : (Readout.ofText g text).measurements.InOrder := Measurements.inOrder_ofList _
  rw [horder.mem_iff]
  constructor
  · intro hget
    by_cases hid : ∃ t ∈ g.tests, t.id = id
    · obtain ⟨t, ht, rfl⟩ := hid
      exact ⟨t, ht, rfl, (h.get?_ofText ht text).symm.trans hget⟩
    · have hnone : (Readout.ofText g text).measurements.get? id = none :=
        Measurements.get?_ofList_eq_none fun t ht heq => hid ⟨t, ht, heq⟩
      rw [hnone] at hget
      contradiction
  · rintro ⟨t, ht, rfl, hfound⟩
    exact (h.get?_ofText ht text).trans hfound

/-- Nothing is measured exactly if no test finds anything. -/
theorem measurements_eq_nil_iff (h : Accepts table g) (text : List Char) :
    (Readout.ofText g text).measurements = [] ↔
      ∀ t ∈ g.tests, Readout.find? t.plan text = none := by
  rw [List.eq_nil_iff_forall_not_mem]
  constructor
  · intro hnone t ht
    refine Option.eq_none_iff_forall_ne_some.mpr ?_
    intro ms hfound
    exact hnone (t.id, ms) ((h.mem_measurements_iff text).mpr ⟨t, ht, rfl, hfound⟩)
  · rintro hnone ⟨id, ms⟩ hmem
    obtain ⟨t, ht, -, hfound⟩ := (h.mem_measurements_iff text).mp hmem
    rw [hnone t ht] at hfound
    contradiction

end Grammar.Accepts

namespace Score

variable {table : Table} {g : Grammar} {e : Execution} {r : Readout} {total : Binary64}

/-! ### The total of a readout without one -/

theorem totalOf_eq_none_iff (h : r.total = none) : totalOf r = none ↔ r.measurements = [] := by
  rw [totalOf, h]
  simp only [List.isEmpty_iff, ite_eq_left_iff, reduceCtorEq, imp_false, not_not]

theorem totalOf_eq_some_iff (h : r.total = none) : totalOf r = some total ↔
    r.measurements ≠ [] ∧ total = .sum (r.measurements.map Prod.snd) := by
  rw [totalOf, h]
  simp only [List.isEmpty_iff, Option.ite_none_left_eq_some, Option.some.injEq,
    eq_comm (a := total)]

private theorem isPositive_sum_measurements {m : Measurements}
    (h : ∀ pair ∈ m, IsDuration pair.2) :
    (sum (m.map Prod.snd)).isPositive = true ↔ ∃ pair ∈ m, pair.2.isPositive = true := by
  rw [isPositive_sum_iff (List.forall_mem_map.mpr h)]
  simp only [List.mem_map, exists_exists_and_eq_and]

/-- A readout without a total is ranked exactly if something above zero was measured. -/
theorem isRanked_ofReadout_iff (h : r.total = none)
    (hmeasured : ∀ pair ∈ r.measurements, IsDuration pair.2) (language : String) :
    (ofReadout language r).isRanked = true ↔
      ∃ pair ∈ r.measurements, pair.2.isPositive = true := by
  change (totalOf r).any (·.isPositive) = true ↔ _
  cases htotal : totalOf r with
  | none =>
    rw [(totalOf_eq_none_iff h).mp htotal]
    simp
  | some total =>
    obtain ⟨-, rfl⟩ := (totalOf_eq_some_iff h).mp htotal
    exact isPositive_sum_measurements hmeasured

/-! ### Adding up -/

/-- How the total of a score **adds up** from the tests of a grammar after an execution. -/
structure AddsUp (g : Grammar) (e : Execution) (s : Score) : Prop where
  /-- The measured durations are those that the tests find. -/
  mem_iff : ∀ id ms, (id, ms) ∈ s.measurements ↔
    ∃ t ∈ g.tests, t.id = id ∧ Readout.find? t.plan e.output.toList = some ms
  ordered : s.measurements.Pairwise fun a b => Octets.ofString a.1 < Octets.ofString b.1
  total?_eq_none_iff :
    s.total? = none ↔ ∀ t ∈ g.tests, Readout.find? t.plan e.output.toList = none
  /-- The total is the sum from left to right. -/
  eq_foldl : ∀ total, s.total? = some total → ∃ first rest,
    s.measurements.map Prod.snd = first :: rest ∧ total = rest.foldl (· + ·) first
  le_total : ∀ total, s.total? = some total → ∀ pair ∈ s.measurements, pair.2.le total = true
  eq_zero_iff : ∀ total, s.total? = some total →
    (total.eq .zero = true ↔ ∀ pair ∈ s.measurements, pair.2.eq .zero = true)
  isRanked_iff : s.isRanked = true ↔ ∃ pair ∈ s.measurements, pair.2.isPositive = true

/-- Of a completed execution whose text states no total, the tests are added up. -/
theorem addsUp_ofExecution (h : Grammar.ofTable table = .ok g) (hstatus : e.status = .completed)
    (hstated : Readout.find? g.totalPlan e.output.toList = none) :
    AddsUp g e (ofExecution g e) := by
  have haccepts := Grammar.ofTable_eq_ok_iff.mp h
  have horder : (Readout.ofText g e.output.toList).measurements.InOrder :=
    Measurements.inOrder_ofList _
  have hmeasured := Readout.isDuration_of_mem_measurements g e.output.toList
  have hnone : (Readout.ofText g e.output.toList).total = none := hstated
  rw [ofExecution_of_completed hstatus]
  generalize hr : Readout.ofText g e.output.toList = r at *
  have hvalues : ∀ x ∈ r.measurements.map Prod.snd, IsDuration x :=
    List.forall_mem_map.mpr hmeasured
  constructor
  · intro id ms
    change _ ∈ r.measurements ↔ _
    rw [← hr]
    exact haccepts.mem_measurements_iff _
  · exact horder.imp Octets.ofString_lt_ofString
  · change totalOf r = none ↔ _
    rw [totalOf_eq_none_iff hnone, ← hr]
    exact haccepts.measurements_eq_nil_iff _
  · intro total htotal
    obtain ⟨hne, rfl⟩ := (totalOf_eq_some_iff hnone).mp htotal
    obtain ⟨first, rest, heq⟩ := List.exists_cons_of_ne_nil (mt List.map_eq_nil_iff.mp hne)
    refine ⟨first, rest, heq, ?_⟩
    rw [heq] at hvalues ⊢
    exact sum_cons (hvalues first List.mem_cons_self) rest
  · intro total htotal pair hpair
    obtain ⟨-, rfl⟩ := (totalOf_eq_some_iff hnone).mp htotal
    exact le_sum_of_mem hvalues (List.mem_map_of_mem hpair)
  · intro total htotal
    obtain ⟨-, rfl⟩ := (totalOf_eq_some_iff hnone).mp htotal
    have hzero : ∀ pair ∈ r.measurements,
        (pair.2.eq zero = true ↔ ¬pair.2.isPositive = true) := fun pair hpair => by
      rw [eq_zero_iff_not_isPositive (hmeasured pair hpair).2, Bool.not_eq_true]
    change _ ↔ ∀ pair ∈ r.measurements, _
    rw [eq_zero_iff_not_isPositive (sum_of_isDuration hvalues).1, ← Bool.not_eq_true,
      isPositive_sum_measurements hmeasured, forall₂_congr hzero]
    simp only [not_exists, not_and]
  · exact isRanked_ofReadout_iff hnone hmeasured e.language

/-- Here the smallest number above zero is added to a zero with a minus. The test declared first is
added last. -/
theorem addsUp_ofExecution_subnormal :
    let g := PlainTable.standard.grammar
    let e : Execution :=
      .completed "C" "Test 1: Fibonacci\n  Sure: -0 ms\nTest 2: Factorial\n  Sure: 5e-324 ms\n"
    Grammar.ofTable .standard = .ok g ∧ Readout.find? g.totalPlan e.output.toList = none ∧
      AddsUp g e (ofExecution g e) ∧
      (ofExecution g e).measurements =
        [("factorial", .ofRank false 1), ("fibonacci", .negativeZero)] ∧
      (ofExecution g e).total? = some (.ofRank false 1) ∧
      (ofExecution g e).isRanked = true := by
  intro g e
  have hstated : Readout.find? g.totalPlan e.output.toList = none := by
    change (Readout.ofText g e.output.toList).total = none
    rw [PlainTable.ofText_grammar]
    decide +kernel
  have haddsUp := addsUp_ofExecution PlainTable.ofTable_standard (e := e) rfl hstated
  have hread : Readout.ofText g e.output.toList =
      ⟨[("factorial", .ofRank false 1), ("fibonacci", .negativeZero)], none⟩ := by
    rw [PlainTable.ofText_grammar]
    decide +kernel
  have hscore : ofExecution g e = ofReadout "C"
      ⟨[("factorial", .ofRank false 1), ("fibonacci", .negativeZero)], none⟩ := by
    rw [ofExecution_of_completed rfl, hread]
    rfl
  refine ⟨PlainTable.ofTable_standard, hstated, haddsUp, ?_⟩
  rw [hscore]
  decide +kernel

end Score

end Timekeeper
