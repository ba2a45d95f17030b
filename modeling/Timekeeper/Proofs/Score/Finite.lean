import Timekeeper.Proofs.Binary64.Sum
import Timekeeper.Proofs.Readout.Extraction
import Timekeeper.Score

/-!
# The numbers of a score

A readout takes up durations only, numbers that are finite and not below zero: what a text writes
otherwise is left out (`Readout.isDuration_find?`). So every number that a score takes over from
its readout is a duration.

The one number that a score works out itself is the total of a text that states none. It is the
sum of the durations, and nothing leaves it out when it is infinite. The total is a duration
exactly if it was stated or the sum stays in range (`Score.isDuration_ofExecution`).
-/

namespace Timekeeper

open Binary64

namespace Readout

theorem isDuration_duration? {value unit : List Char} {ms : Binary64}
    (h : duration? value unit = some ms) : IsDuration ms := by
  rw [duration?] at h
  split at h
  · obtain ⟨hduration, hms⟩ := Option.ite_none_right_eq_some.mp h
    rw [← Option.some.inj hms]
    exact Bool.and_eq_true_iff.mp hduration
  · contradiction

/-- What the first match of a pattern states is a duration. -/
theorem isDuration_find? {plan : Pattern.Plan} {text : List Char} {ms : Binary64}
    (h : find? plan text = some ms) : IsDuration ms := by
  rw [find?] at h
  split at h
  · contradiction
  · split at h
    · exact isDuration_duration? h
    · contradiction

end Readout

namespace Readout

theorem isDuration_of_mem_measurements (g : Grammar) (text : List Char) :
    ∀ pair ∈ (ofText g text).measurements, IsDuration pair.2 := by
  refine Measurements.forall_mem_ofList fun pair hpair => ?_
  obtain ⟨t, -, ht⟩ := List.mem_filterMap.mp hpair
  obtain ⟨ms, hms, rfl⟩ := Option.map_eq_some_iff.mp ht
  exact isDuration_find? hms

end Readout

namespace Score

/-- The durations of a score are durations indeed. Its total is one or infinite, and it is one
exactly if the text states it or adding up the durations stays in range. -/
theorem isDuration_ofExecution (g : Grammar) (e : Execution) :
    (∀ pair ∈ (ofExecution g e).measurements, IsDuration pair.2) ∧
      ∀ total, (ofExecution g e).total? = some total →
        (IsDuration total ∨ total = infinity) ∧
          (IsDuration total ↔ (Readout.ofText g e.output.toList).total.isSome = true ∨
            StaysInRange ((ofExecution g e).measurements.map Prod.snd)) := by
  rw [ofExecution]
  split
  · have hmeasured := Readout.isDuration_of_mem_measurements g e.output.toList
    refine ⟨hmeasured, fun total htotal => ?_⟩
    change totalOf (Readout.ofText g e.output.toList) = some total at htotal
    change _ ∧ (_ ↔ _ ∨ StaysInRange ((Readout.ofText g e.output.toList).measurements.map Prod.snd))
    rw [totalOf] at htotal
    cases hstated : (Readout.ofText g e.output.toList).total with
    | some stated =>
      rw [hstated] at htotal
      obtain rfl := Option.some.inj htotal
      have hduration : IsDuration stated := Readout.isDuration_find? hstated
      exact ⟨.inl hduration, iff_of_true hduration (.inl rfl)⟩
    | none =>
      rw [hstated] at htotal
      obtain ⟨-, hsum⟩ := Option.ite_none_left_eq_some.mp htotal
      obtain rfl := Option.some.inj hsum
      have hvalues : ∀ x ∈ (Readout.ofText g e.output.toList).measurements.map Prod.snd,
          IsDuration x := List.forall_mem_map.mpr hmeasured
      obtain ⟨hzero, hfinite⟩ := sum_of_isDuration hvalues
      refine ⟨isDuration_or_eq_infinity hzero, ?_⟩
      rw [← hfinite, IsDuration, and_iff_left hzero]
      simp
  · exact ⟨fun pair hpair => absurd hpair List.not_mem_nil, fun total htotal => by contradiction⟩

/-- Two durations that are finite each have an infinite sum, and with it the language is ranked. -/
theorem total?_ofExecution_eq_infinity :
    let text := "Test 1: Fibonacci\n  Sure: 1e308 ms\nTest 2: Factorial\n  Sure: 1e308 ms\n"
    ∃ g, Grammar.standard = .ok g ∧
      (ofExecution g (.completed "C" text)).total? = some infinity ∧
      (ofExecution g (.completed "C" text)).isRanked = true := by
  intro text
  have htotal : (ofExecution PlainTable.standard.grammar (.completed "C" text)).total? =
      some infinity := by
    change totalOf (Readout.ofText PlainTable.standard.grammar text.toList) = some infinity
    rw [PlainTable.ofText_grammar]
    decide +kernel
  refine ⟨PlainTable.standard.grammar, PlainTable.standard_eq, htotal, ?_⟩
  rw [isRanked, htotal]
  decide

end Score

end Timekeeper
