import Timekeeper.Proofs.Binary64.Literal
import Timekeeper.Proofs.Readout.Measurement

/-!
# Amounts of time as they are printed

An **amount** is printed as a literal, a blank and a unit. Behind another blank and at the end of
a line it is a measurement, and what the measurement states is the amount: the number nearest to
the literal, converted to milliseconds.

That a readout takes a converted number at all needs it to be neither infinite nor negative. An
amount comes with the one, and the other holds because literals have no sign and the conversions
keep it so (`Binary64.IsUnsigned`).
-/

namespace Timekeeper

/-! ### Numbers without a minus -/

namespace Binary64

/-- A number that is not negative, nor a negative zero. -/
def IsUnsigned : Binary64 → Prop
  | nan => True
  | signed negative _ _ => negative = false

variable {x y : Binary64}

theorem IsNearest.isUnsigned {q : ℚ} (h : IsNearest q x) : IsUnsigned x := by
  cases x with
  | nan => trivial
  | signed s r hr => exact h.1

theorem isUnsigned_ofNat (n : Nat) : IsUnsigned (ofNat n) := rfl

theorem IsUnsigned.mul (hx : IsUnsigned x) (hy : IsUnsigned y) : IsUnsigned (x * y) := by
  cases x with
  | nan => trivial
  | signed s r hr =>
    cases y with
    | nan => trivial
    | signed t q hq =>
      obtain rfl : s = false := hx
      obtain rfl : t = false := hy
      change IsUnsigned (mul _ _)
      rw [mul]
      split
      · split
        · trivial
        · rfl
      · rfl

theorem IsUnsigned.div (hx : IsUnsigned x) (hy : IsUnsigned y) : IsUnsigned (x / y) := by
  cases x with
  | nan => trivial
  | signed s r hr =>
    cases y with
    | nan => trivial
    | signed t q hq =>
      obtain rfl : s = false := hx
      obtain rfl : t = false := hy
      change IsUnsigned (div _ _)
      rw [div]
      split
      · split
        · trivial
        · rfl
      split
      · rfl
      split
      · split
        · trivial
        · rfl
      · rfl

theorem IsUnsigned.zero_le (hx : IsUnsigned x) (h : x.isFinite = true) : zero.le x = true := by
  cases x with
  | nan => contradiction
  | signed s r hr =>
    obtain rfl : s = false := hx
    exact decide_eq_true (Int.natCast_nonneg r)

end Binary64

theorem TimeUnit.isUnsigned_toMilliseconds (u : TimeUnit) {x : Binary64} (h : x.IsUnsigned) :
    (u.toMilliseconds x).IsUnsigned := by
  cases u with
  | seconds => exact h.mul (Binary64.isUnsigned_ofNat _)
  | milliseconds => exact h
  | microseconds => exact h.div (Binary64.isUnsigned_ofNat _)
  | nanoseconds => exact h.div (Binary64.isUnsigned_ofNat _)

/-! ### Spellings -/

theorem TimeUnit.read_of_mem_spellings (u : TimeUnit) {spelling : String}
    (h : spelling ∈ u.spellings) : TimeUnit.read spelling = .ok u := by
  have hall : ∀ u ∈ all, ∀ spelling ∈ u.spellings, TimeUnit.read spelling = .ok u := by
    decide +kernel
  exact hall u u.mem_all spelling h

/-! ### Literals -/

theorem Decimal.Exponent.isExponent_chars (e : Decimal.Exponent) :
    Measurement.IsExponent e.chars := by
  refine .inr ⟨_, e.sign, e.digits.chars, ?_, ?_, e.digits.ne_nil,
    fun c hc => e.digits.isDigit_of_mem hc, rfl⟩
  · cases e.upper <;> rfl
  · rw [sign]
    rcases e.minus? with _ | _ | _
    · exact .inl rfl
    · exact .inr ⟨'+', rfl, rfl⟩
    · exact .inr ⟨'-', rfl, rfl⟩

/-- A literal is a number as it may stand in a measurement. -/
theorem Decimal.Literal.isNumber_chars (l : Decimal.Literal) : Measurement.IsNumber l.chars := by
  have hdigit {d : Decimal.Digits} {c : Char} (hc : c ∈ d.chars) : Measurement.isFigure c = true :=
    Measurement.isFigure_of_isDigit (d.isDigit_of_mem hc)
  refine ⟨[], l.whole.chars ++ l.fractionChars, l.exponentChars, .inl rfl, ?_, ?_, ?_, ?_⟩
  · simp [l.whole.ne_nil]
  · intro c hc
    obtain hc | hc := List.mem_append.mp hc
    · exact hdigit hc
    rw [fractionChars] at hc
    cases hfraction : l.fraction? with
    | none =>
      rw [hfraction] at hc
      contradiction
    | some d =>
      rw [hfraction] at hc
      obtain rfl | hc := List.mem_cons.mp hc
      · rfl
      · exact hdigit hc
  · rw [exponentChars]
    cases l.exponent? with
    | none => exact .inl rfl
    | some e => exact e.isExponent_chars
  · rw [chars, List.nil_append, List.append_assoc]

/-! ### Amounts -/

/-- An **amount** of time: a literal and the spelling of a unit, with the number nearest to the
literal, of which the duration in milliseconds is finite. -/
structure Amount where
  literal : Decimal.Literal
  unit : TimeUnit
  spelling : String
  spelling_mem : spelling ∈ unit.spellings
  number : Binary64
  nearest : Binary64.IsNearest literal.value number
  finite : (unit.toMilliseconds number).isFinite = true

namespace Amount

/-- The duration of an amount. -/
def milliseconds (a : Amount) : Binary64 := a.unit.toMilliseconds a.number

/-- An amount as it is printed. -/
def chars (a : Amount) : List Char := a.literal.chars ++ ' ' :: a.spelling.toList

/-- The measurement that a printed amount is when there is a blank in front of it. -/
def measurement (a : Amount) : Measurement :=
  ⟨[' '], a.literal.chars, [' '], a.spelling.toList⟩

theorem chars_measurement (a : Amount) : a.measurement.chars = ' ' :: a.chars := rfl

end Amount

namespace Amount

theorem wellFormed_measurement (a : Amount) : a.measurement.WellFormed where
  lead_blank := by simp [measurement]; decide
  number := a.literal.isNumber_chars
  gap_blank := by simp [measurement]; decide
  unit := ⟨_, a.unit.toList_mem_spellings a.spelling_mem, rfl⟩

theorem duration?_measurement (a : Amount) :
    a.measurement.duration? = some a.milliseconds := by
  have hnumber : Binary64.read? a.literal.chars = some a.number := by
    rw [a.literal.read?_chars, a.literal.isNearest_nearest.unique a.nearest]
  have hunit : TimeUnit.read (String.ofList a.spelling.toList) = .ok a.unit := by
    rw [String.ofList_toList]
    exact a.unit.read_of_mem_spellings a.spelling_mem
  have hsign : Binary64.zero.le (a.unit.toMilliseconds a.number) = true :=
    (a.unit.isUnsigned_toMilliseconds a.nearest.isUnsigned).zero_le a.finite
  rw [Measurement.duration?_eq, measurement, Readout.duration?, hnumber, hunit]
  simp [a.finite, hsign, milliseconds]

theorem at?_measurement (a : Amount) (x : List Char) :
    Measurement.at? (a.measurement.chars ++ '\n' :: x) = some a.measurement :=
  Measurement.at?_append a.wellFormed_measurement rfl

end Amount

end Timekeeper
