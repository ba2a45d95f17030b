import Timekeeper.Proofs.Binary64.Order
import Timekeeper.Proofs.Grammar.Marker
import Timekeeper.Proofs.Pattern.Unit
import Timekeeper.Proofs.Readout.Amount
import Timekeeper.Proofs.Readout.Extraction
import Timekeeper.Proofs.Unicode.UnitLetters

/-!
# Units that are matched and units that are read

A unit is recognised twice: the group of the unit matches it, and then it is read to convert the
number. The group compares folds, and the reader compares lower cases with the spellings. The two
recognise the same texts but for the **long s**, which folds to `s` and is a small letter: what the
group matches is read exactly if there is no long s in it (`TimeUnit.exists_read_iff`).

So a measurement that was matched, with a number that can be read, is left out because of its unit
exactly if the unit is spelled with a long s (`Readout.unit_is_read_unless_longS`), although nothing
else is wrong with it (`Readout.unit_is_matched_but_not_read`).
-/

namespace Timekeeper

open Pattern Grammar

/-! ### Reading units -/

namespace TimeUnit

variable {u x y : List Char}

theorem exists_read_iff_lowerText : (∃ unit, TimeUnit.read (String.ofList u) = .ok unit) ↔
    Unicode.lowerText u ∈ Measurement.spellings := by
  have hspelled : ∀ x ∈ Measurement.spellings, ∃ unit ∈ all,
      String.ofList x ∈ unit.spellings := by decide
  rw [TimeUnit.read, String.toList_ofList]
  constructor
  · rintro ⟨unit, h⟩
    split at h
    · rename_i found hfound
      have hmem : String.ofList (Unicode.lowerText u) ∈ found.spellings := by
        simpa using List.find?_some hfound
      have hlist := found.toList_mem_spellings hmem
      rwa [String.toList_ofList] at hlist
    · contradiction
  · intro h
    obtain ⟨unit, hunit, hmem⟩ := hspelled _ h
    have hsome : (all.find? (·.spellings.contains (String.ofList (Unicode.lowerText u)))).isSome :=
      List.find?_isSome.mpr ⟨unit, hunit, by simpa using hmem⟩
    obtain ⟨found, hfound⟩ := Option.isSome_iff_exists.mp hsome
    exact ⟨found, by rw [hfound]⟩

private theorem mem_letters_of_mem_spellings :
    ∀ x ∈ Measurement.spellings, ∀ d ∈ x, d ∈ Unicode.letters := by
  have hall : ∀ x ∈ Measurement.spellings, x.all (· ∈ Unicode.letters) = true := by decide
  exact fun x hx => List.all_iff_forall_prop.mp (hall x hx)

/-- Letters that fold as a spelling does are a spelling. -/
private theorem mem_spellings_of_map_fold (hy : ∀ d ∈ y, d ∈ Unicode.letters)
    (h : y.map Unicode.fold = x.map Unicode.fold) (hx : x ∈ Measurement.spellings) :
    y ∈ Measurement.spellings := by
  have hone : ∀ x ∈ Measurement.spellings, Unicode.letters.all (fun a =>
      [a].map Unicode.fold = x.map Unicode.fold → [a] ∈ Measurement.spellings) = true := by
    decide +kernel
  have htwo : ∀ x ∈ Measurement.spellings,
      Unicode.letters.all (fun a => Unicode.letters.all fun b =>
        [a, b].map Unicode.fold = x.map Unicode.fold → [a, b] ∈ Measurement.spellings) = true := by
    decide +kernel
  have hlength : ∀ x ∈ Measurement.spellings, x.length = 1 ∨ x.length = 2 := by decide
  have heq : y.length = x.length := by
    have := congrArg List.length h
    rwa [List.length_map, List.length_map] at this
  obtain hx₁ | hx₂ := hlength x hx
  · obtain ⟨a, rfl⟩ := List.length_eq_one_iff.mp (heq.trans hx₁)
    exact List.all_iff_forall_prop.mp (hone x hx) a (hy a (by simp)) h
  · obtain ⟨a, b, rfl⟩ := List.length_eq_two.mp (heq.trans hx₂)
    have hall := List.all_eq_true.mp (htwo x hx) a (hy a (by simp))
    exact List.all_iff_forall_prop.mp hall b (hy b (by simp)) h

/-- What is read as a unit is what folds as a spelling does, apart from texts with a long s. -/
theorem exists_read_iff : (∃ unit, TimeUnit.read (String.ofList u) = .ok unit) ↔
    Measurement.IsUnit u ∧ Unicode.longS ∉ u := by
  rw [exists_read_iff_lowerText, Unicode.lowerText]
  constructor
  · intro h
    obtain ⟨hfold, hlong⟩ := Unicode.map_fold_of_lowerFrom (mem_letters_of_mem_spellings _ h)
    exact ⟨⟨_, h, hfold⟩, hlong⟩
  · rintro ⟨⟨x, hx, hfold⟩, hlong⟩
    obtain ⟨hletters, hlower⟩ :=
      Unicode.lowerFrom_of_map_fold hfold (mem_letters_of_mem_spellings x hx) hlong
    exact mem_spellings_of_map_fold hletters hlower hx

/-- A conversion to milliseconds that stays in range is not below zero if the number was not. -/
theorem zero_le_toMilliseconds (unit : TimeUnit) {x : Binary64} (hx : Binary64.zero.le x = true)
    (h : (unit.toMilliseconds x).isFinite = true) :
    Binary64.zero.le (unit.toMilliseconds x) = true := by
  have hthousand := Binary64.isDuration_ofNat_thousand
  have hmillion := Binary64.isDuration_ofNat_million
  have hthousandPos : 0 < (Binary64.ofNat 1000).value := by
    rw [Binary64.value_ofNat_thousand]
    norm_num
  have hmillionPos : 0 < (Binary64.ofNat 1000000).value := by
    rw [Binary64.value_ofNat_million]
    norm_num
  obtain hduration | rfl := Binary64.isDuration_or_eq_infinity hx
  · obtain hpos | hzero := hduration.value_nonneg.lt_or_eq
    · cases unit with
      | seconds => exact (hduration.isNearest_mul hthousand hpos hthousandPos).zero_le
      | milliseconds => exact hx
      | microseconds => exact (hduration.isNearest_div hthousand hpos hthousandPos).zero_le
      | nanoseconds => exact (hduration.isNearest_div hmillion hpos hmillionPos).zero_le
    · obtain ⟨negative, rfl⟩ := hduration.eq_ofRank_zero hzero.symm
      cases unit <;> cases negative <;> decide +kernel
  · -- infinity stays infinite in every unit
    cases unit <;> exact absurd h (by decide +kernel)

end TimeUnit

/-! ### Units that are found -/

namespace Grammar

variable {marker : String}

/-- A marker that **reserves** the name of the unit: its pattern has no group of that name but the
one of the tail. -/
def ReservesUnit (marker : String) : Prop :=
  ∀ tree, Tree.read (patternOf marker).toList = .ok tree → tree.reservesUnit = true

theorem reservesUnit_iff : ReservesUnit marker ↔
    (Tree.read (patternOf marker).toList).toOption.all Tree.reservesUnit = true := by
  rw [Option.all_eq_true, ReservesUnit]
  simp only [eq_ok_iff_toOption]

instance (marker : String) : Decidable (ReservesUnit marker) :=
  decidable_of_iff _ reservesUnit_iff.symm

/-- What a marker's pattern finds as the unit is one. -/
theorem isUnit_of_search? (h : SelfContained marker ∨ ReservesUnit marker) {plan : Plan}
    (hplan : Pattern.compile (patternOf marker).toList = .ok plan) {text : List Char}
    {captures : Captures} (hfound : plan.search? text = some captures) {unit : List Char}
    (hunit : captures.text? unitName.toList = some unit) : Measurement.IsUnit unit := by
  obtain ⟨n, -, hcaptures⟩ := Plan.exists_captures?_of_search? hfound
  obtain ⟨c', s', hmatches, hs'⟩ := Plan.exists_matches_of_run hcaptures
  obtain rfl : s' = captures := Option.some.inj hs'
  obtain hself | hreserves := h
  · obtain ⟨a, b, m, m', -, hb, heq⟩ := hself.exists_fragments hplan
    rw [heq] at hmatches
    obtain ⟨c, s, -, htail⟩ := hmatches
    obtain ⟨found, htext, hisUnit⟩ := exists_isUnit_of_matches_tail hb htail
    obtain rfl := Option.some.inj (hunit.symm.trans htext)
    exact hisUnit
  · obtain ⟨tree, mode, hread, htree, -⟩ := Pattern.compile_eq_ok_iff.mp hplan
    have hnone : Captures.RemembersUnits [] := fun x hx => absurd hx List.not_mem_nil
    exact (hmatches.remembersUnits (hreserves tree hread) htree hnone).isUnit hunit

end Grammar

namespace Readout

variable {plan : Plan} {text value unit : List Char} {captures : Captures}

theorem find?_eq_duration? (hfound : plan.search? text = some captures)
    (hvalue : captures.text? valueName.toList = some value)
    (hunit : captures.text? unitName.toList = some unit) :
    find? plan text = duration? value unit := by
  rw [find?, hfound]
  dsimp only
  rw [hvalue, hunit]

/-- A unit that is not read leaves the measurement out. -/
theorem duration?_eq_none (h : ∀ u, TimeUnit.read (String.ofList unit) ≠ .ok u) :
    duration? value unit = none := by
  rw [duration?]
  split
  · rename_i u _ hu
    exact absurd hu (h u)
  · rfl

theorem duration?_eq_some {x : Binary64} {u : TimeUnit}
    (hread : TimeUnit.read (String.ofList unit) = .ok u) (hx : Binary64.read? value = some x)
    (hzero : Binary64.zero.le x = true) (hfinite : (u.toMilliseconds x).isFinite = true) :
    duration? value unit = some (u.toMilliseconds x) := by
  have hsign := u.zero_le_toMilliseconds hzero hfinite
  rw [duration?, hx, hread]
  simp [hfinite, hsign]

/-- The group of the unit matches what is read as a unit, and beyond that the spellings with a long
s. So of a match that a number and a unit were remembered of, the unit is read and the measurement
is taken up wherever the number allows it, unless there is a long s in the unit. -/
theorem unit_is_read_unless_longS (u : String) :
    (unitText ++ ['\\', 'b'] <:+ tail.toList ∧
      ∃ plan, Pattern.compile (flags.toList ++ unitText) = .ok plan ∧
        ((∃ unit, TimeUnit.read u = .ok unit) ↔
          plan.MatchesWhole u.toList ∧ Unicode.longS ∉ u.toList)) ∧
    ∀ marker, SelfContained marker ∨ ReservesUnit marker →
      ∀ plan, Pattern.compile (patternOf marker).toList = .ok plan →
      ∀ text captures value, plan.search? text = some captures →
        captures.text? valueName.toList = some value →
        captures.text? unitName.toList = some u.toList →
        (Unicode.longS ∈ u.toList → find? plan text = none) ∧
        (Unicode.longS ∉ u.toList → ∃ unit, TimeUnit.read u = .ok unit ∧
          ∀ x, Binary64.read? value = some x → Binary64.zero.le x = true →
            (unit.toMilliseconds x).isFinite = true →
            find? plan text = some (unit.toMilliseconds x)) := by
  have hreads : (∃ unit, TimeUnit.read u = .ok unit) ↔
      Measurement.IsUnit u.toList ∧ Unicode.longS ∉ u.toList := by
    rw [← TimeUnit.exists_read_iff, String.ofList_toList]
  refine ⟨⟨by decide, _, compile_unit, ?_⟩, ?_⟩
  · rw [matchesWhole_compiled_iff compile_unit]
    exact hreads
  · intro marker hmarker plan hplan text captures value hfound hvalue hunit
    have hisUnit := isUnit_of_search? hmarker hplan hfound hunit
    rw [find?_eq_duration? hfound hvalue hunit]
    constructor
    · intro hlong
      refine duration?_eq_none fun unit hread => ?_
      rw [String.ofList_toList] at hread
      exact (hreads.mp ⟨unit, hread⟩).2 hlong
    · intro hlong
      obtain ⟨unit, hread⟩ := hreads.mpr ⟨hisUnit, hlong⟩
      refine ⟨unit, hread, fun x hx hzero hfinite => ?_⟩
      rw [← String.ofList_toList (s := u)] at hread
      exact duration?_eq_some hread hx hzero hfinite

/-- Of alternatives that are in no group, the last one has the tail behind it. Here its unit is
written with a capital letter and with the Greek letter. -/
theorem unit_is_read_unless_longS_greek :
    let marker := "Loop A:|Loop B:"
    let text := "Loop B: 5 ΜS".toList
    ∃ plan, Pattern.compile (patternOf marker).toList = .ok plan ∧ ReservesUnit marker ∧
      ∃ captures, plan.search? text = some captures ∧
        captures.text? valueName.toList = some ['5'] ∧
        captures.text? unitName.toList = some ['Μ', 'S'] ∧
        ∃ u, TimeUnit.read "ΜS" = .ok u ∧ find? plan text = some (u.toMilliseconds (.ofNat 5)) := by
  intro marker text
  have hreserves : ReservesUnit marker := by decide +kernel
  have hfound : (Pattern.compile (patternOf marker).toList).toOption.any (fun plan =>
      (plan.search? text).any fun captures =>
        captures.text? valueName.toList == some ['5'] &&
          captures.text? unitName.toList == some ['Μ', 'S']) = true := by decide +kernel
  obtain ⟨plan, hplan, hsearch⟩ := (Option.any_eq_true ..).mp hfound
  obtain ⟨captures, hcaptures, htexts⟩ := (Option.any_eq_true ..).mp hsearch
  rw [Bool.and_eq_true, beq_iff_eq, beq_iff_eq] at htexts
  rw [← eq_ok_iff_toOption] at hplan
  obtain ⟨-, hread⟩ := (unit_is_read_unless_longS "ΜS").2 marker (.inr hreserves) plan hplan text
    captures _ hcaptures htexts.1 htexts.2
  obtain ⟨u, hu, hms⟩ := hread (by decide)
  have hfive : Binary64.read? ['5'] = some (.ofNat 5) := by decide +kernel
  have hfinite : (u.toMilliseconds (.ofNat 5)).isFinite = true := by
    cases u <;> decide +kernel
  exact ⟨plan, hplan, hreserves, captures, hcaptures, htexts.1, htexts.2, u, hu,
    hms _ hfive (by decide +kernel) hfinite⟩

/-- Here the unit is spelled with a long s. The group of the unit matches all of it and the test is
found with its number, but the unit is not read, and the measurement is missing. -/
theorem unit_is_matched_but_not_read :
    let unit := "mſ"
    let text := "Test 1: Fibonacci\n  Sure: 5 mſ\n".toList
    let g := PlainTable.standard.grammar
    (∃ plan, Pattern.compile (flags.toList ++ unitText) = .ok plan ∧
      plan.MatchesWhole unit.toList) ∧
    (∀ u, TimeUnit.read unit ≠ .ok u) ∧
    Grammar.standard = .ok g ∧
    (∃ test ∈ g.tests, ∃ captures, test.plan.search? text = some captures ∧
      captures.text? valueName.toList = some ['5'] ∧
      captures.text? unitName.toList = some unit.toList) ∧
    (ofText g text).isEmpty = true := by
  intro unit text g
  have hunit : Measurement.IsUnit unit.toList := ⟨['m', 's'], by decide, by decide⟩
  have hfound : g.tests.any (fun test => (test.plan.search? text).any fun captures =>
      captures.text? valueName.toList == some ['5'] &&
        captures.text? unitName.toList == some unit.toList) = true := by decide +kernel
  obtain ⟨test, htest, hsearch⟩ := List.any_eq_true.mp hfound
  obtain ⟨captures, hcaptures, htexts⟩ := (Option.any_eq_true ..).mp hsearch
  rw [Bool.and_eq_true, beq_iff_eq, beq_iff_eq] at htexts
  refine ⟨⟨_, compile_unit, (matchesWhole_compiled_iff compile_unit).mpr hunit⟩, ?_,
    PlainTable.standard_eq, ⟨test, htest, captures, hcaptures, htexts⟩, ?_⟩
  · intro u hread
    rw [← String.ofList_toList (s := unit)] at hread
    exact (TimeUnit.exists_read_iff.mp ⟨u, hread⟩).2 (by decide)
  · rw [PlainTable.ofText_grammar]
    decide +kernel

end Readout

end Timekeeper
