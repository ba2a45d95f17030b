import Timekeeper.Proofs.Binary64.Fixed
import Timekeeper.Report.Duration
import Timekeeper.TimeUnit

/-!
# Printed durations are accurate and in order

A printed duration is a **quantity**, a decimal number of a unit of time, and it is read back from
the text. Two roundings lie between a value and the quantity that is printed for it: the value is
scaled to its unit and rounded to a binary64 number, and that number is rounded to the decimal
places of the unit (`TimeUnit.Shows`). So the quantity is off by half a unit of its last place at
most, plus what scaling has been off by (`Quantity.Prints.isAccurate`).

Both roundings are monotone, so within one unit the quantities are in the order of the values.
Between two units lies a **seam**, one millisecond or a thousand, and a seam is a whole number of
either unit. Whole numbers are not rounded, so rounding never carries a quantity across a seam, and
the quantities are in order throughout (`Quantity.Prints.le_of_le`).
-/

namespace Timekeeper

open Binary64

/-! ### Units -/

namespace TimeUnit

/-- How many milliseconds a unit takes. -/
def inMilliseconds : TimeUnit → ℚ
  | seconds => 1000
  | milliseconds => 1
  | microseconds => 1 / 1000
  | nanoseconds => 1 / 1000000

theorem inMilliseconds_pos (u : TimeUnit) : 0 < u.inMilliseconds := by
  cases u <;> norm_num [inMilliseconds]

/-- The unit in which a value in milliseconds is printed. -/
def suiting (v : ℚ) : TimeUnit :=
  if v < 1 then microseconds else if v < 1000 then milliseconds else seconds

/-- With how many decimal places a unit is printed. -/
def places : TimeUnit → Nat
  | microseconds => 2
  | _ => 3

theorem places_pos (u : TimeUnit) : 0 < u.places := by cases u <;> decide

theorem suiting_cases (v : ℚ) : v < 1 ∧ suiting v = microseconds ∨
    (1 ≤ v ∧ v < 1000) ∧ suiting v = milliseconds ∨ 1000 ≤ v ∧ suiting v = seconds := by
  rw [suiting]
  split
  · exact .inl ⟨‹_›, rfl⟩
  split
  · exact .inr (.inl ⟨⟨not_lt.mp ‹_›, ‹_›⟩, rfl⟩)
  · exact .inr (.inr ⟨not_lt.mp ‹_›, rfl⟩)

/-- A unit **shows** a value as a count of units of the last place: the value is scaled to the
unit and rounded to a binary64 number, and that is rounded to the last place. -/
def Shows (u : TimeUnit) (v : ℚ) (n : Nat) : Prop :=
  ∃ scaled, IsNearest (v / u.inMilliseconds) scaled ∧ IsRounded (scaled.value * 10 ^ u.places) n

variable {u : TimeUnit} {v w : ℚ} {m n : Nat}

theorem Shows.le_of_le (hm : u.Shows v m) (hn : u.Shows w n) (h : v ≤ w) : m ≤ n := by
  obtain ⟨x, hx, hm⟩ := hm
  obtain ⟨y, hy, hn⟩ := hn
  have hscaled : v / u.inMilliseconds ≤ w / u.inMilliseconds :=
    div_le_div_of_nonneg_right h u.inMilliseconds_pos.le
  have hvalue : x.value ≤ y.value := hx.value_le_value hy hscaled
  exact hm.le_of_le hn (mul_le_mul_of_nonneg_right hvalue (by positivity))

/-- Whole numbers are shown as they are. -/
theorem shows_natCast (u : TimeUnit) {k : Nat} (hk : (Binary64.ofNat k).value = k) :
    u.Shows (k * u.inMilliseconds) (k * 10 ^ u.places) := by
  refine ⟨.ofNat k, ?_, ?_⟩
  · rw [mul_div_cancel_right₀ _ u.inMilliseconds_pos.ne']
    exact isNearest_ofNat k
  · have hrounded := isRounded_natCast (k * 10 ^ u.places)
    rw [Nat.cast_mul, Nat.cast_pow, Nat.cast_ofNat] at hrounded
    rwa [hk]

end TimeUnit

/-! ### Quantities -/

/-- A **quantity**: a decimal number of a unit of time. -/
structure Quantity where
  number : Decimal
  unit : TimeUnit

namespace Quantity

/-- What is read for a duration that is too short to be told. -/
def zero : Quantity := ⟨⟨false, 0, 0⟩, .microseconds⟩

/-- A count of units of the last place that is printed for a unit. -/
def ofPlaces (u : TimeUnit) (n : Nat) : Quantity := ⟨⟨false, n, -(u.places : Int)⟩, u⟩

/-- The exact quantity in milliseconds. -/
def milliseconds (q : Quantity) : ℚ := q.number.value * q.unit.inMilliseconds

/-- Half a unit of the last digit, in milliseconds. -/
def halfLastDigit (q : Quantity) : ℚ := 10 ^ q.number.exponent / 2 * q.unit.inMilliseconds

/-- Reads a quantity: a number without a minus, a blank and the symbol of a unit. -/
def read? (text : List Char) : Option Quantity :=
  if text = Report.tooFast.toList then some zero
  else
    let number := text.takeWhile (· ≠ ' ')
    let symbol := String.ofList ((text.dropWhile (· ≠ ' ')).drop 1)
    match Decimal.read? number, TimeUnit.all.find? (·.symbol = symbol) with
    | some d, some u => if d.negative then none else some ⟨d, u⟩
    | _, _ => none

/-- A quantity **prints** a value when it is zero for zero, and for another value the one that the
suiting unit shows. -/
def Prints (q : Quantity) (v : ℚ) : Prop :=
  v = 0 ∧ q = zero ∨
    0 < v ∧ ∃ n, (TimeUnit.suiting v).Shows v n ∧ q = ofPlaces (TimeUnit.suiting v) n

/-- A quantity is **accurate** for a value in milliseconds when it differs from the value by half a
unit of its last digit at most, plus what rounding the scaled value has been off by. -/
def IsAccurate (q : Quantity) (v : ℚ) : Prop :=
  ∃ scaled, IsNearest (v / q.unit.inMilliseconds) scaled ∧
    |q.milliseconds - v| ≤ q.halfLastDigit + |scaled.value * q.unit.inMilliseconds - v|

variable {p q : Quantity} {u : TimeUnit} {v w : ℚ} {m n : Nat}

theorem milliseconds_zero : zero.milliseconds = 0 := by
  rw [milliseconds, Decimal.value, zero, Nat.cast_zero, zero_mul, zero_mul]

theorem milliseconds_ofPlaces (u : TimeUnit) (n : Nat) :
    (ofPlaces u n).milliseconds = n / 10 ^ u.places * u.inMilliseconds := by
  rw [milliseconds, Decimal.value, ofPlaces, zpow_neg, zpow_natCast, div_eq_mul_inv]

theorem ofPlaces_le_ofPlaces (u : TimeUnit) (h : m ≤ n) :
    (ofPlaces u m).milliseconds ≤ (ofPlaces u n).milliseconds := by
  have hcast : (m : ℚ) ≤ n := by exact_mod_cast h
  rw [milliseconds_ofPlaces, milliseconds_ofPlaces]
  exact mul_le_mul_of_nonneg_right (div_le_div_of_nonneg_right hcast (by positivity))
    u.inMilliseconds_pos.le

theorem ofPlaces_mul_pow (u : TimeUnit) (k : Nat) :
    (ofPlaces u (k * 10 ^ u.places)).milliseconds = k * u.inMilliseconds := by
  rw [milliseconds_ofPlaces, Nat.cast_mul, Nat.cast_pow, Nat.cast_ofNat,
    mul_div_cancel_right₀ _ (by positivity)]

theorem Prints.milliseconds_nonneg (h : q.Prints v) : 0 ≤ q.milliseconds := by
  obtain ⟨-, rfl⟩ | ⟨-, n, -, rfl⟩ := h
  · exact milliseconds_zero.ge
  · rw [milliseconds_ofPlaces]
    have := (TimeUnit.suiting v).inMilliseconds_pos
    positivity

/-! ### Seams -/

private theorem value_ofNat_one : (Binary64.ofNat 1).value = (1 : Nat) := by
  have hone : Binary64.ofNat 1 = .one := by decide +kernel
  rw [hone, value_one, Nat.cast_one]

/-- What is not above a whole number of its unit is not printed above it. -/
private theorem le_seam {k : Nat} {c : ℚ} (hk : (Binary64.ofNat k).value = k)
    (hc : k * u.inMilliseconds = c) (h : u.Shows v n) (hv : v ≤ c) :
    (ofPlaces u n).milliseconds ≤ c := by
  rw [← hc, ← ofPlaces_mul_pow]
  exact ofPlaces_le_ofPlaces u (h.le_of_le (u.shows_natCast hk) (hc ▸ hv))

/-- What is not below a whole number of its unit is not printed below it. -/
private theorem seam_le {k : Nat} {c : ℚ} (hk : (Binary64.ofNat k).value = k)
    (hc : k * u.inMilliseconds = c) (h : u.Shows v n) (hv : c ≤ v) :
    c ≤ (ofPlaces u n).milliseconds := by
  rw [← hc, ← ofPlaces_mul_pow]
  exact ofPlaces_le_ofPlaces u ((u.shows_natCast hk).le_of_le h (hc ▸ hv))

private theorem microseconds_le (h : TimeUnit.microseconds.Shows v n) (hv : v < 1) :
    (ofPlaces .microseconds n).milliseconds ≤ 1 :=
  le_seam value_ofNat_thousand (by norm_num [TimeUnit.inMilliseconds]) h hv.le

private theorem le_milliseconds (h : TimeUnit.milliseconds.Shows v n) (hv : 1 ≤ v) :
    1 ≤ (ofPlaces .milliseconds n).milliseconds :=
  seam_le value_ofNat_one (by norm_num [TimeUnit.inMilliseconds]) h hv

private theorem milliseconds_le (h : TimeUnit.milliseconds.Shows v n) (hv : v < 1000) :
    (ofPlaces .milliseconds n).milliseconds ≤ 1000 :=
  le_seam value_ofNat_thousand (by norm_num [TimeUnit.inMilliseconds]) h hv.le

private theorem le_seconds (h : TimeUnit.seconds.Shows v n) (hv : 1000 ≤ v) :
    1000 ≤ (ofPlaces .seconds n).milliseconds :=
  seam_le value_ofNat_one (by norm_num [TimeUnit.inMilliseconds]) h hv

/-! ### Order and accuracy -/

/-- Printed quantities are in the order of the values. -/
theorem Prints.le_of_le (hp : p.Prints v) (hq : q.Prints w) (h : v ≤ w) :
    p.milliseconds ≤ q.milliseconds := by
  obtain ⟨-, rfl⟩ | ⟨hv, m, hm, rfl⟩ := hp
  · exact milliseconds_zero.trans_le hq.milliseconds_nonneg
  obtain ⟨rfl, -⟩ | ⟨-, n, hn, rfl⟩ := hq
  · exact absurd hv h.not_gt
  by_cases hunit : TimeUnit.suiting v = TimeUnit.suiting w
  · rw [hunit] at hm ⊢
    exact ofPlaces_le_ofPlaces _ (hm.le_of_le hn h)
  -- the units differ, so there is a seam between the two values
  obtain ⟨hv1, hu⟩ | ⟨⟨hv1, hv2⟩, hu⟩ | ⟨hv2, hu⟩ := TimeUnit.suiting_cases v <;>
    obtain ⟨hw1, ht⟩ | ⟨⟨hw1, hw2⟩, ht⟩ | ⟨hw2, ht⟩ := TimeUnit.suiting_cases w <;>
    rw [hu] at hm hunit ⊢ <;> rw [ht] at hn hunit ⊢
  · contradiction
  · exact (microseconds_le hm hv1).trans (le_milliseconds hn hw1)
  · exact (microseconds_le hm hv1).trans (le_trans (by norm_num) (le_seconds hn hw2))
  · linarith
  · contradiction
  · exact (milliseconds_le hm hv2).trans (le_seconds hn hw2)
  · linarith
  · linarith
  · contradiction

/-- Of two roundings the errors add up. -/
theorem Prints.isAccurate (h : q.Prints v) : q.IsAccurate v := by
  obtain ⟨rfl, rfl⟩ | ⟨hv, n, ⟨scaled, hnearest, hrounded⟩, rfl⟩ := h
  · refine ⟨Binary64.zero, ?_, ?_⟩
    · rw [zero_div]
      exact isNearest_zero (by rw [mul_zero]; exact magnitude_nonneg 1)
    · rw [milliseconds_zero, sub_self, abs_zero]
      have hhalf : 0 ≤ zero.halfLastDigit := by
        rw [halfLastDigit]
        have := zero.unit.inMilliseconds_pos
        positivity
      positivity
  · refine ⟨scaled, hnearest, ?_⟩
    -- the quantity is off from the scaled number, and the scaled number from the value
    generalize TimeUnit.suiting v = u at *
    have hunit := u.inMilliseconds_pos
    have hlast : (10 : ℚ) ^ (ofPlaces u n).number.exponent = 1 / 10 ^ u.places := by
      rw [ofPlaces, zpow_neg, zpow_natCast, one_div]
    have hdigits : |n / 10 ^ u.places - scaled.value| ≤ 1 / 10 ^ u.places / 2 :=
      hrounded.abs_sub_le (by positivity)
    rw [halfLastDigit, hlast, milliseconds_ofPlaces]
    calc |n / 10 ^ u.places * u.inMilliseconds - v|
        = |(n / 10 ^ u.places - scaled.value) * u.inMilliseconds +
            (scaled.value * u.inMilliseconds - v)| := by congr 1; ring
      _ ≤ |(n / 10 ^ u.places - scaled.value) * u.inMilliseconds| +
            |scaled.value * u.inMilliseconds - v| := abs_add_le _ _
      _ = |n / 10 ^ u.places - scaled.value| * u.inMilliseconds +
            |scaled.value * u.inMilliseconds - v| := by rw [abs_mul, abs_of_pos hunit]
      _ ≤ 1 / 10 ^ u.places / 2 * u.inMilliseconds + |scaled.value * u.inMilliseconds - v| :=
          add_le_add_left (mul_le_mul_of_nonneg_right hdigits hunit.le) _

/-! ### The printed text -/

private theorem find?_symbol (u : TimeUnit) :
    TimeUnit.all.find? (fun t => t.symbol = u.symbol) = some u := by
  cases u <;> decide

/-- A count of units of the last place with the symbol of its unit. -/
def chars (u : TimeUnit) (n : Nat) : List Char := pointed u.places n ++ ' ' :: u.symbol.toList

/-- A word ends at the first blank. -/
theorem takeWhile_word {word : List Char} (h : ' ' ∉ word) (rest : List Char) :
    (word ++ ' ' :: rest).takeWhile (· ≠ ' ') = word ∧
      (word ++ ' ' :: rest).dropWhile (· ≠ ' ') = ' ' :: rest := by
  have hword : ∀ c ∈ word, decide (c ≠ ' ') = true :=
    fun c hc => decide_eq_true fun hblank => h (hblank ▸ hc)
  rw [List.takeWhile_append_of_pos hword, List.dropWhile_append_of_pos hword,
    List.takeWhile_cons_of_neg (by decide), List.dropWhile_cons_of_neg (by decide)]
  exact ⟨List.append_nil _, rfl⟩

theorem blank_not_mem_pointed {places n : Nat} : ' ' ∉ pointed places n := by
  intro h
  obtain hdigit | hpoint := mem_pointed h <;> contradiction

theorem read?_chars (u : TimeUnit) (n : Nat) : read? (chars u n) = some (ofPlaces u n) := by
  obtain ⟨hnumber, hsymbol⟩ : (chars u n).takeWhile (· ≠ ' ') = pointed u.places n ∧
      (chars u n).dropWhile (· ≠ ' ') = ' ' :: u.symbol.toList :=
    takeWhile_word blank_not_mem_pointed _
  have hread := decimalRead?_pointed u.places_pos n
  have hne : chars u n ≠ Report.tooFast.toList := by
    intro h
    rw [← hnumber, h] at hread
    contradiction
  rw [read?, if_neg hne]
  dsimp only
  rw [hnumber, hsymbol, hread, List.drop_one, List.tail_cons, String.ofList_toList, find?_symbol]
  rfl

/-- A duration that is not zero is printed as the nearest number to its value in the suiting unit,
with the places of the unit. -/
private theorem exists_scaled {x : Binary64} (hx : IsDuration x) (hpos : 0 < x.value) :
    ∃ scaled, IsNearest (x.value / (TimeUnit.suiting x.value).inMilliseconds) scaled ∧
      Report.duration (some x) = scaled.fixed (TimeUnit.suiting x.value).places ++
        ' ' :: (TimeUnit.suiting x.value).symbol.toList := by
  have hzero : ¬x.eq .zero = true := fun h => hpos.ne' (hx.eq_zero_iff.mp h)
  have hone : IsDuration .one := ⟨by decide, by decide⟩
  have hthousand := isDuration_ofNat_thousand
  have hthousandpos : 0 < (Binary64.ofNat 1000).value := by
    rw [value_ofNat_thousand]
    norm_num
  have hlow : x.lt .one = true ↔ x.value < 1 := by
    rw [hx.lt_iff hone, value_one]
  have hhigh : x.lt (.ofNat 1000) = true ↔ x.value < 1000 := by
    rw [hx.lt_iff hthousand, value_ofNat_thousand, Nat.cast_ofNat]
  rw [Report.duration, if_neg hzero]
  obtain ⟨hv, hunit⟩ | ⟨⟨hv, hv'⟩, hunit⟩ | ⟨hv, hunit⟩ := TimeUnit.suiting_cases x.value
  · refine ⟨x * .ofNat 1000, ?_, by rw [if_pos (hlow.mpr hv), hunit]; rfl⟩
    have hnearest := hx.isNearest_mul hthousand hpos hthousandpos
    rw [value_ofNat_thousand] at hnearest
    simpa [hunit, TimeUnit.inMilliseconds] using hnearest
  · have hlow' : ¬x.lt .one = true := hlow.not.mpr hv.not_gt
    refine ⟨x, ?_, by rw [if_neg hlow', if_pos (hhigh.mpr hv'), hunit]; rfl⟩
    simpa [hunit, TimeUnit.inMilliseconds] using hx.isNearest_value hpos
  · have hlow' : ¬x.lt .one = true := hlow.not.mpr (le_trans (by norm_num) hv).not_gt
    have hhigh' : ¬x.lt (.ofNat 1000) = true := hhigh.not.mpr hv.not_gt
    refine ⟨x / .ofNat 1000, ?_, by rw [if_neg hlow', if_neg hhigh', hunit]; rfl⟩
    have hnearest := hx.isNearest_div hthousand hpos hthousandpos
    rw [value_ofNat_thousand] at hnearest
    simpa [hunit, TimeUnit.inMilliseconds] using hnearest

/-- Scaling to the suiting unit does not overflow: only values below one are made larger. -/
private theorem scaled_lt {x : Binary64} (hx : IsDuration x) :
    x.value / (TimeUnit.suiting x.value).inMilliseconds < overflowThreshold := by
  have hthousand : (1000 : ℚ) < overflowThreshold := by
    have hlt := isDuration_ofNat_thousand.value_lt
    rwa [value_ofNat_thousand, Nat.cast_ofNat] at hlt
  have hdiv {c : ℚ} (hc : 1 ≤ c) : x.value / c < overflowThreshold :=
    (div_le_self hx.value_nonneg hc).trans_lt hx.value_lt
  obtain ⟨hv, hunit⟩ | ⟨-, hunit⟩ | ⟨-, hunit⟩ := TimeUnit.suiting_cases x.value
  · have hscaled : x.value / TimeUnit.microseconds.inMilliseconds = x.value * 1000 := by
      simp [TimeUnit.inMilliseconds]
    rw [hunit, hscaled]
    exact (mul_lt_of_lt_one_left (by norm_num) hv).trans hthousand
  · rw [hunit]
    exact hdiv le_rfl
  · rw [hunit]
    exact hdiv (by norm_num [TimeUnit.inMilliseconds])

/-- A duration that is not zero is printed as the suiting unit shows it. -/
theorem exists_chars {x : Binary64} (hx : IsDuration x) (hpos : 0 < x.value) :
    ∃ n, (TimeUnit.suiting x.value).Shows x.value n ∧
      Report.duration (some x) = chars (TimeUnit.suiting x.value) n := by
  obtain ⟨scaled, hnearest, hduration⟩ := exists_scaled hx hpos
  obtain ⟨n, hfixed, hrounded⟩ := hnearest.exists_fixed (scaled_lt hx) _
  refine ⟨n, ⟨scaled, hnearest, hrounded⟩, ?_⟩
  rw [hduration, hfixed, chars]

/-- For every duration the quantity is printed that the value has. -/
theorem exists_prints {x : Binary64} (hx : IsDuration x) :
    ∃ q, read? (Report.duration (some x)) = some q ∧ q.Prints x.value := by
  obtain hpos | hzero := hx.value_nonneg.lt_or_eq
  · obtain ⟨n, hshows, hchars⟩ := exists_chars hx hpos
    exact ⟨ofPlaces _ n, hchars ▸ read?_chars _ n, .inr ⟨hpos, n, hshows, rfl⟩⟩
  · refine ⟨zero, ?_, .inl ⟨hzero.symm, rfl⟩⟩
    rw [Report.duration, if_pos (hx.eq_zero_iff.mpr hzero.symm)]
    rfl

end Quantity

end Timekeeper
