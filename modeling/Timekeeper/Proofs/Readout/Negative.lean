import Timekeeper.Proofs.Binary64.Underflow
import Timekeeper.Proofs.Readout.Unit
import Timekeeper.Proofs.Score.Declaration

/-!
# Numbers below zero

A text may state a number below zero. Its sign is looked at last, when the number has been rounded
and converted to milliseconds, and the negative zero counts as not below zero. So a negative number
is left out of the readout unless nothing is left of it in milliseconds.

In every unit there is a greatest magnitude that is **lost** on the way (`TimeUnit.lost`). For
seconds and milliseconds only reading the number rounds it to zero, and that is half of the least
magnitude there is. Dividing by a thousand or a million rounds again, and loses as many times more.
Up to this magnitude the negative zero is found, and beyond it nothing
(`Readout.negative_is_dropped_unless_lost`).
-/

namespace Timekeeper

open Binary64 Grammar

/-- The opposite of a number without a minus is a duration only if it is zero. -/
theorem Binary64.IsUnsigned.isDuration_opposite_iff {x : Binary64} (h : IsUnsigned x) :
    IsDuration x.opposite ↔ x = zero := by
  constructor
  · intro hduration
    obtain ⟨negative, rank, hrank, heq, -, hzero⟩ := isDuration_iff.mp hduration
    cases x with
    | nan => contradiction
    | signed s r hr =>
      obtain rfl : s = false := h
      obtain ⟨rfl, rfl⟩ := signed.injEq .. ▸ heq
      obtain rfl := hzero rfl
      rfl
  · rintro rfl
    exact ⟨by decide, by decide⟩

/-! ### What is lost in a unit -/

namespace TimeUnit

variable {x : Binary64} {q : ℚ}

theorem toMilliseconds_opposite (u : TimeUnit) (x : Binary64) :
    u.toMilliseconds x.opposite = (u.toMilliseconds x).opposite := by
  cases u with
  | seconds => exact opposite_mul x _
  | milliseconds => rfl
  | microseconds => exact opposite_div x _
  | nanoseconds => exact opposite_div x _

/-- The highest rank that comes to zero when it is converted to milliseconds. -/
def faintRank : TimeUnit → Nat
  | seconds => 0
  | milliseconds => 0
  | microseconds => 500
  | nanoseconds => 500000

/-- The greatest magnitude that is **lost** when it is read in a unit and converted to milliseconds:
the middle between the highest rank that comes to zero and the next one. -/
def lost (u : TimeUnit) : ℚ := (2 * u.faintRank + 1) / 2 ^ 1075

theorem faintRank_lt (u : TimeUnit) : u.faintRank + 1 < ranksPerBinade := by cases u <;> decide

theorem toMilliseconds_zero (u : TimeUnit) : u.toMilliseconds .zero = .zero := by
  cases u <;> decide +kernel

theorem toMilliseconds_infinity_ne_zero (u : TimeUnit) : u.toMilliseconds .infinity ≠ .zero := by
  cases u <;> decide +kernel

theorem toMilliseconds_eq_zero_iff_of_pos (u : TimeUnit) (hx : IsDuration x) (hpos : 0 < x.value) :
    u.toMilliseconds x = .zero ↔ x.value ≤ magnitude u.faintRank := by
  have hfaint : magnitude u.faintRank = u.faintRank * magnitude 1 := by
    rw [magnitude_of_lt (Nat.lt_of_succ_lt u.faintRank_lt), magnitude_of_lt (by decide),
      Nat.cast_one, mul_one_div]
  rw [hfaint]
  cases u with
  | seconds =>
    refine iff_of_false ?_ ?_
    · exact hx.mul_ne_zero hpos (by decide) isDuration_ofNat_thousand value_ofNat_thousand
    · simpa [faintRank] using hpos
  | milliseconds =>
    refine iff_of_false ?_ ?_
    · rintro rfl
      exact hpos.ne' value_zero
    · simpa [faintRank] using hpos
  | microseconds =>
    have hhalves := hx.div_eq_zero_iff hpos (by decide) isDuration_ofNat_thousand
      value_ofNat_thousand
    refine hhalves.trans ?_
    norm_num [faintRank]
    constructor <;> intro h <;> linarith
  | nanoseconds =>
    have hhalves := hx.div_eq_zero_iff hpos (by decide) isDuration_ofNat_million
      value_ofNat_million
    refine hhalves.trans ?_
    norm_num [faintRank]
    constructor <;> intro h <;> linarith

/-- A magnitude that is read and converted to milliseconds comes to zero exactly if it is not above
the greatest one that is lost. -/
theorem toMilliseconds_eq_zero_iff (u : TimeUnit) (h : IsNearest q x) :
    u.toMilliseconds x = .zero ↔ q ≤ u.lost := by
  have hsum : magnitude u.faintRank + magnitude (u.faintRank + 1) = 2 * u.lost := by
    rw [magnitude_of_lt (Nat.lt_of_succ_lt u.faintRank_lt), magnitude_of_lt u.faintRank_lt, lost,
      pow_succ' 2 1074, Nat.cast_add, Nat.cast_one]
    generalize (2 : ℚ) ^ 1074 = unit
    ring
  have heven : u.faintRank % 2 = 0 := by cases u <;> rfl
  have hlt : u.faintRank < infinityRank := by cases u <;> decide
  have hvalue := h.value_le_magnitude_iff heven hlt
  rw [hsum, mul_le_mul_iff_right₀ two_pos] at hvalue
  rw [← hvalue]
  obtain hx | rfl := isDuration_or_eq_infinity h.zero_le
  · obtain hpos | hzero := hx.value_nonneg.lt_or_eq
    · exact u.toMilliseconds_eq_zero_iff_of_pos hx hpos
    · obtain rfl : x = .zero := h.eq_zero_iff_value.mpr hzero.symm
      exact iff_of_true u.toMilliseconds_zero (value_zero.trans_le (magnitude_nonneg _))
  · refine iff_of_false u.toMilliseconds_infinity_ne_zero (not_le.mpr ?_)
    exact magnitude_strictMono hlt

end TimeUnit

/-! ### Exact decimals -/

/-- The exact number that a decimal denotes, its sign included. -/
def Decimal.exact (d : Decimal) : ℚ := if d.negative then -d.value else d.value

theorem Decimal.value_nonneg (d : Decimal) : 0 ≤ d.value := by
  rw [value]
  positivity

theorem Decimal.exact_neg_iff {d : Decimal} : d.exact < 0 ↔ d.negative = true ∧ 0 < d.value := by
  rw [exact]
  split
  · rename_i h
    rw [neg_lt_zero]
    exact (and_iff_right h).symm
  · rename_i h
    exact iff_of_false (not_lt.mpr d.value_nonneg) fun hboth => h hboth.1

namespace Readout

variable {plan : Pattern.Plan} {text literal unit : List Char} {d : Decimal} {u : TimeUnit}
  {captures : Pattern.Captures}

/-- A negative number and a unit write a duration exactly if the number is lost, and then it is the
negative zero. -/
theorem duration?_of_negative (hd : Decimal.read? literal = some d) (hneg : d.exact < 0)
    (hu : TimeUnit.read (String.ofList unit) = .ok u) :
    (|d.exact| ≤ u.lost → duration? literal unit = some negativeZero) ∧
      (u.lost < |d.exact| → duration? literal unit = none) := by
  obtain ⟨hsign, -⟩ := Decimal.exact_neg_iff.mp hneg
  have habs : |d.exact| = d.value := by
    rw [Decimal.exact, if_pos hsign, abs_neg, abs_of_nonneg d.value_nonneg]
  let x := Decimal.nearest { d with negative := false }
  have hnearest : IsNearest d.value x :=
    Decimal.isNearest_nearest (d := { d with negative := false }) rfl
  have hread : Binary64.read? literal = some x.opposite := by
    rw [Binary64.read?, hd, ← Decimal.nearest_of_negative hsign]
  rw [duration?, hread, hu, habs]
  dsimp only
  rw [u.toMilliseconds_opposite]
  constructor
  · intro hlost
    rw [(u.toMilliseconds_eq_zero_iff hnearest).mpr hlost]
    rfl
  · intro hkept
    have hne := (u.toMilliseconds_eq_zero_iff hnearest).not.mpr hkept.not_ge
    have hunsigned := u.isUnsigned_toMilliseconds hnearest.isUnsigned
    have hnot := hunsigned.isDuration_opposite_iff.not.mpr hne
    rw [if_neg]
    rwa [Bool.and_eq_true]

/-- A pattern **reads** a decimal in a text if its first match remembers a literal of it. -/
def Reads (plan : Pattern.Plan) (text : List Char) (d : Decimal) : Prop :=
  ∃ captures literal, plan.search? text = some captures ∧
    captures.text? valueName.toList = some literal ∧ Decimal.read? literal = some d

/-- A pattern **reads** a unit in a text if its first match remembers a spelling of it. -/
def ReadsUnit (plan : Pattern.Plan) (text : List Char) (u : TimeUnit) : Prop :=
  ∃ captures unit, plan.search? text = some captures ∧
    captures.text? unitName.toList = some unit ∧ TimeUnit.read (String.ofList unit) = .ok u

/-- A pattern reads one unit at most. -/
theorem ReadsUnit.unique {v : TimeUnit} (h : ReadsUnit plan text u) (h' : ReadsUnit plan text v) :
    u = v := by
  obtain ⟨captures, unit, hfound, hunit, hu⟩ := h
  obtain ⟨captures', unit', hfound', hunit', hv⟩ := h'
  obtain rfl := Option.some.inj (hfound.symm.trans hfound')
  obtain rfl := Option.some.inj (hunit.symm.trans hunit')
  exact Except.ok.inj (hu.symm.trans hv)

/-- What is found **drops** negative numbers: where one is read, nothing is found, unless there is a
unit in which the number is lost. Then the negative zero is found. -/
def DropsNegative (plan : Pattern.Plan) (text : List Char) (found : Option Binary64) : Prop :=
  ∀ d, Reads plan text d → d.exact < 0 →
    ((∀ u, ReadsUnit plan text u → u.lost < |d.exact|) → found = none) ∧
      ∀ u, ReadsUnit plan text u → |d.exact| ≤ u.lost → found = some negativeZero

theorem dropsNegative_find? (plan : Pattern.Plan) (text : List Char) :
    DropsNegative plan text (find? plan text) := by
  rintro d ⟨captures, literal, hfound, hvalue, hd⟩ hneg
  constructor
  · intro hkept
    cases hunit : captures.text? unitName.toList with
    | none =>
      rw [find?, hfound]
      dsimp only
      rw [hvalue, hunit]
    | some unit =>
      rw [find?_eq_duration? hfound hvalue hunit]
      by_cases hread : ∃ u, TimeUnit.read (String.ofList unit) = .ok u
      · obtain ⟨u, hu⟩ := hread
        exact (duration?_of_negative hd hneg hu).2 (hkept u ⟨captures, unit, hfound, hunit, hu⟩)
      · exact duration?_eq_none fun u hu => hread ⟨u, hu⟩
  · rintro u ⟨captures', unit, hfound', hunit, hu⟩ hlost
    obtain rfl := Option.some.inj (hfound.symm.trans hfound')
    rw [find?_eq_duration? hfound hvalue hunit]
    exact (duration?_of_negative hd hneg hu).1 hlost

/-- A negative number that is read for a test or for the total is left out, whatever its unit,
unless it is so small that nothing is left of it in milliseconds. Then the negative zero is found in
its place. -/
theorem negative_is_dropped_unless_lost {table : Table} {g : Grammar} (h : ofTable table = .ok g)
    (text : List Char) :
    (∀ test ∈ g.tests,
      DropsNegative test.plan text ((ofText g text).measurements.get? test.id)) ∧
    DropsNegative g.totalPlan text (ofText g text).total := by
  refine ⟨fun test htest => ?_, dropsNegative_find? g.totalPlan text⟩
  rw [(ofTable_eq_ok_iff.mp h).get?_ofText htest]
  exact dropsNegative_find? test.plan text

/-- A literal and a unit that are remembered are read. -/
private theorem reads_of_any {literal unit : List Char}
    (h : (plan.search? text).any (fun captures =>
      captures.text? valueName.toList == some literal &&
        captures.text? unitName.toList == some unit) = true)
    (hd : Decimal.read? literal = some d) (hu : TimeUnit.read (String.ofList unit) = .ok u) :
    Reads plan text d ∧ ReadsUnit plan text u := by
  obtain ⟨captures, hcaptures, htexts⟩ := (Option.any_eq_true ..).mp h
  rw [Bool.and_eq_true, beq_iff_eq, beq_iff_eq] at htexts
  exact ⟨⟨captures, literal, hcaptures, htexts.1, hd⟩, captures, unit, hcaptures, htexts.2, hu⟩

private theorem exact_minus_neg {n : Nat} (hn : 0 < n) (k : Int) :
    (⟨true, n, k⟩ : Decimal).exact < 0 := by
  rw [Decimal.exact_neg_iff, Decimal.value]
  exact ⟨rfl, by positivity⟩

private theorem lost_lt_three :
    TimeUnit.milliseconds.lost < |(⟨true, 30, -1⟩ : Decimal).exact| := by
  have habs : |(⟨true, 30, -1⟩ : Decimal).exact| = 3 := by
    norm_num [Decimal.exact, Decimal.value]
  have hlost : TimeUnit.milliseconds.lost = 1 / 2 ^ 1075 := by
    norm_num [TimeUnit.lost, TimeUnit.faintRank]
  have hpow : (1 : ℚ) ≤ 2 ^ 1075 := one_le_pow₀ (by norm_num)
  rw [habs, hlost, div_lt_iff₀ (by positivity)]
  generalize (2 : ℚ) ^ 1075 = p at *
  linarith

private theorem tiny_le_lost :
    |(⟨true, 1, -320⟩ : Decimal).exact| ≤ TimeUnit.nanoseconds.lost := by
  have hexact : (⟨true, 1, -320⟩ : Decimal).exact = -((1 : Nat) * 10 ^ (-(320 : Nat) : Int)) := rfl
  have hlost : TimeUnit.nanoseconds.lost = 1000001 / 2 ^ 1075 := by
    norm_num [TimeUnit.lost, TimeUnit.faintRank]
  have hpow : 2 ^ 1075 ≤ 1000001 * 10 ^ 320 := by decide +kernel
  rw [hexact, hlost, abs_neg, abs_of_nonneg (by positivity), zpow_neg, zpow_natCast, Nat.cast_one,
    ← div_eq_mul_inv, div_le_div_iff₀ (by positivity) (by positivity), one_mul]
  exact_mod_cast hpow

/-- Three milliseconds below zero are left out. The total lies so little below zero that the
nanoseconds of it are lost. -/
theorem negative_is_dropped_unless_lost_total :
    let text := "Test 1: Fibonacci\n  Sure: -3.0 ms\nTOPLAM SURE: -1e-320 ns\n".toList
    let g := PlainTable.standard.grammar
    ofTable .standard = .ok g ∧
    (∃ test ∈ g.tests, test.id = "fibonacci" ∧ Reads test.plan text ⟨true, 30, -1⟩ ∧
      (ofText g text).measurements.get? test.id = none) ∧
    Reads g.totalPlan text ⟨true, 1, -320⟩ ∧ (ofText g text).total = some negativeZero := by
  intro text g
  obtain ⟨htests, htotal⟩ := negative_is_dropped_unless_lost PlainTable.ofTable_standard text
  have hfound : g.tests.any (fun test => test.id == "fibonacci" &&
      (test.plan.search? text).any fun captures =>
        captures.text? valueName.toList == some "-3.0".toList &&
          captures.text? unitName.toList == some "ms".toList) = true := by decide +kernel
  obtain ⟨test, htest, hsearch⟩ := List.any_eq_true.mp hfound
  rw [Bool.and_eq_true, beq_iff_eq] at hsearch
  obtain ⟨hreads, hunit⟩ := reads_of_any (d := ⟨true, 30, -1⟩) (u := .milliseconds) hsearch.2
    (by decide +kernel) (by decide +kernel)
  have hfound' : (g.totalPlan.search? text).any (fun captures =>
      captures.text? valueName.toList == some "-1e-320".toList &&
        captures.text? unitName.toList == some "ns".toList) = true := by decide +kernel
  obtain ⟨hreads', hunit'⟩ := reads_of_any (d := ⟨true, 1, -320⟩) (u := .nanoseconds) hfound'
    (by decide +kernel) (by decide +kernel)
  refine ⟨PlainTable.ofTable_standard, ⟨test, htest, hsearch.1, hreads, ?_⟩, hreads', ?_⟩
  · refine (htests test htest _ hreads (exact_minus_neg (by decide) _)).1 fun u hu => ?_
    rw [← hunit.unique hu]
    exact lost_lt_three
  · exact (htotal _ hreads' (exact_minus_neg (by decide) _)).2 _ hunit' tiny_le_lost

/-- Here a test is read as a number of nanoseconds below zero. It is not rounded to zero when it is
read, and yet the test is found. -/
theorem negative_is_found :
    let text := "Test 1: Fibonacci\n  Sure: -1e-320 ns\n".toList
    let d : Decimal := ⟨true, 1, -320⟩
    ∃ g, Grammar.standard = .ok g ∧
      (∃ test ∈ g.tests, test.id = "fibonacci" ∧ Reads test.plan text d) ∧
      d.exact < 0 ∧ d.nearest.lt .zero = true ∧
      (ofText g text).measurements.get? "fibonacci" = some negativeZero := by
  intro text d
  have hfound : PlainTable.standard.grammar.tests.any (fun test => test.id == "fibonacci" &&
      (test.plan.search? text).any fun captures =>
        captures.text? valueName.toList == some "-1e-320".toList &&
          captures.text? unitName.toList == some "ns".toList) = true := by decide +kernel
  obtain ⟨test, htest, hsearch⟩ := List.any_eq_true.mp hfound
  rw [Bool.and_eq_true, beq_iff_eq] at hsearch
  obtain ⟨hreads, -⟩ := reads_of_any (d := d) (u := .nanoseconds) hsearch.2
    (by decide +kernel) (by decide +kernel)
  refine ⟨PlainTable.standard.grammar, PlainTable.standard_eq,
    ⟨test, htest, hsearch.1, hreads⟩, exact_minus_neg (by decide) _, by decide +kernel, ?_⟩
  rw [PlainTable.ofText_grammar]
  decide +kernel

end Readout

end Timekeeper
