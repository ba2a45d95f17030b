import Timekeeper.Proofs.Binary64.Nearest
import Mathlib.Data.List.TakeWhile
import Mathlib.Tactic.FieldSimp

/-!
# Decimal literals are read as their nearest numbers

A **literal** is digits, a fraction behind a point if there is one, and an exponent part if there
is one. Its value is read off these parts, and reading its characters yields the number that is
nearest to the value (`Literal.isNearest_nearest`, `Literal.read?_chars`).
-/

namespace Timekeeper

namespace Decimal

theorem ofDigits_eq (x : List Char) : ofDigits x = Nat.ofDigitChars 10 x 0 :=
  Nat.ofDigitChars_eq_foldl.symm

theorem ofDigits_append (x y : List Char) :
    ofDigits (x ++ y) = ofDigits x * 10 ^ y.length + ofDigits y := by
  rw [ofDigits_eq, ofDigits_eq, ofDigits_eq, Nat.ofDigitChars_append,
    Nat.ofDigitChars_eq_ofDigitChars_zero, Nat.mul_comm]

/-- A run of **digits**, at least one. -/
structure Digits where
  chars : List Char
  isDigits : Decimal.isDigits chars = true

namespace Digits

/-- The number that the digits write. -/
def value (d : Digits) : Nat := Decimal.ofDigits d.chars

theorem isDigit_of_mem (d : Digits) {c : Char} (hc : c ∈ d.chars) : c.isDigit = true := by
  have h := d.isDigits
  rw [Decimal.isDigits, Bool.and_eq_true] at h
  exact List.all_eq_true.mp h.2 c hc

theorem ne_nil (d : Digits) : d.chars ≠ [] := by
  have h := d.isDigits
  rw [Decimal.isDigits, Bool.and_eq_true] at h
  simpa using h.1

theorem takeWhile_append (d : Digits) {x : List Char} (hx : x.head?.any Char.isDigit = false) :
    (d.chars ++ x).takeWhile Char.isDigit = d.chars ∧
      (d.chars ++ x).dropWhile Char.isDigit = x := by
  rw [List.takeWhile_append_of_pos fun c hc => d.isDigit_of_mem hc,
    List.dropWhile_append_of_pos fun c hc => d.isDigit_of_mem hc]
  cases x with
  | nil => exact ⟨List.append_nil _, rfl⟩
  | cons c x =>
    have hc : ¬c.isDigit = true := by simpa using hx
    rw [List.takeWhile_cons_of_neg hc, List.dropWhile_cons_of_neg hc]
    exact ⟨List.append_nil _, rfl⟩

/-- A digit is not a sign. -/
theorem splitSign_append (d : Digits) (x : List Char) :
    splitSign (d.chars ++ x) = (false, d.chars ++ x) := by
  obtain ⟨c, rest, hc⟩ := List.exists_cons_of_ne_nil d.ne_nil
  have hdigit := d.isDigit_of_mem (hc ▸ List.mem_cons_self)
  rw [hc, List.cons_append, splitSign]
  · rintro rest' h
    rw [(List.cons.inj h).1] at hdigit
    contradiction
  · rintro rest' h
    rw [(List.cons.inj h).1] at hdigit
    contradiction

end Digits

/-- An **exponent part**: a letter, a sign if there is one, and digits. -/
structure Exponent where
  upper : Bool
  minus? : Option Bool
  digits : Digits

namespace Exponent

/-- The sign as it is written. -/
def sign (e : Exponent) : List Char :=
  match e.minus? with
  | none => []
  | some true => ['-']
  | some false => ['+']

def chars (e : Exponent) : List Char :=
  (if e.upper then 'E' else 'e') :: (e.sign ++ e.digits.chars)

/-- The power of ten that the exponent part stands for. -/
def value (e : Exponent) : Int :=
  if e.minus? = some true then -(e.digits.value : Int) else e.digits.value

theorem splitSign_chars (e : Exponent) :
    splitSign (e.sign ++ e.digits.chars) =
      (decide (e.minus? = some true), e.digits.chars) := by
  rw [sign]
  match e.minus? with
  | none => simpa using e.digits.splitSign_append []
  | some true => rfl
  | some false => rfl

theorem readExponent?_chars (e : Exponent) : readExponent? e.chars = some e.value := by
  have hletter : (if e.upper = true then 'E' else 'e') = 'e' ∨
      (if e.upper = true then 'E' else 'e') = 'E' := by
    cases e.upper <;> simp
  rw [chars, readExponent?, if_pos hletter, splitSign_chars]
  simp [e.digits.isDigits, value, Digits.value]

end Exponent

/-- An unsigned **decimal literal**. -/
structure Literal where
  whole : Digits
  fraction? : Option Digits
  exponent? : Option Exponent

namespace Literal

/-- The digits behind the point. -/
def fractionDigits (l : Literal) : List Char := (l.fraction?.map Digits.chars).getD []

/-- The point and the fraction. -/
def fractionChars (l : Literal) : List Char :=
  match l.fraction? with
  | none => []
  | some d => '.' :: d.chars

def exponentChars (l : Literal) : List Char := (l.exponent?.map Exponent.chars).getD []

def chars (l : Literal) : List Char := l.whole.chars ++ (l.fractionChars ++ l.exponentChars)

/-- The power of ten that the exponent part stands for. -/
def exponent (l : Literal) : Int := (l.exponent?.map Exponent.value).getD 0

/-- The exact **value** of a literal. -/
def value (l : Literal) : ℚ :=
  (l.whole.value + (Decimal.ofDigits l.fractionDigits : ℚ) / 10 ^ l.fractionDigits.length) *
    10 ^ l.exponent

/-- The literal as a coefficient with a power of ten. -/
def decimal (l : Literal) : Decimal where
  negative := false
  coefficient := Decimal.ofDigits (l.whole.chars ++ l.fractionDigits)
  exponent := l.exponent - l.fractionDigits.length

/-- Moving the point behind the last digit does not change the value. -/
theorem value_decimal (l : Literal) : l.decimal.value = l.value := by
  have hten : (10 : ℚ) ≠ 0 := by norm_num
  rw [Decimal.value, decimal, value, ofDigits_append, Nat.cast_add, Nat.cast_mul, Nat.cast_pow,
    Nat.cast_ofNat, zpow_sub₀ hten, zpow_natCast, Digits.value]
  have hpow : (10 : ℚ) ^ l.fractionDigits.length ≠ 0 := pow_ne_zero _ hten
  field_simp

/-- The number that a literal is read as. -/
def nearest (l : Literal) : Binary64 := l.decimal.nearest

theorem isNearest_nearest (l : Literal) : Binary64.IsNearest l.value l.nearest := by
  rw [← l.value_decimal]
  exact Decimal.isNearest_nearest rfl

private theorem head?_exponentChars (l : Literal) :
    l.exponentChars = [] ∨ ∃ c rest, (c = 'e' ∨ c = 'E') ∧ l.exponentChars = c :: rest := by
  rw [exponentChars]
  cases l.exponent? with
  | none => exact .inl rfl
  | some e => exact .inr ⟨_, _, by cases e.upper <;> simp, rfl⟩

theorem readExponent?_exponentChars (l : Literal) :
    readExponent? l.exponentChars = some l.exponent := by
  rw [exponentChars, exponent]
  cases l.exponent? with
  | none => rfl
  | some e => exact e.readExponent?_chars

theorem splitPoint_chars (l : Literal) :
    splitPoint l.chars = (l.whole.chars, l.fractionDigits, l.exponentChars) := by
  have hexponent : l.exponentChars.head?.any Char.isDigit = false ∧
      ∀ rest, l.exponentChars ≠ '.' :: rest := by
    obtain h | ⟨c, rest, hc, h⟩ := l.head?_exponentChars
    · simp [h]
    · rw [h]
      obtain rfl | rfl := hc <;> exact ⟨rfl, by simp⟩
  rw [splitPoint, chars, fractionChars, fractionDigits]
  cases l.fraction? with
  | none =>
    obtain ⟨htake, hdrop⟩ := l.whole.takeWhile_append hexponent.1
    rw [List.nil_append, htake, hdrop]
    split
    · rename_i h
      exact absurd h (hexponent.2 _)
    · rfl
  | some d =>
    obtain ⟨htake, hdrop⟩ := l.whole.takeWhile_append (x := '.' :: (d.chars ++ l.exponentChars)) rfl
    obtain ⟨htake', hdrop'⟩ := d.takeWhile_append hexponent.1
    rw [List.cons_append, htake, hdrop]
    simp only [htake', hdrop']
    rfl

theorem decimalRead?_chars (l : Literal) : Decimal.read? l.chars = some l.decimal := by
  have hsign : splitSign l.chars = (false, l.chars) := l.whole.splitSign_append _
  rw [Decimal.read?, hsign]
  simp [l.splitPoint_chars, l.whole.ne_nil, l.readExponent?_exponentChars, decimal]

/-- A literal is read as the number nearest to its value. -/
theorem read?_chars (l : Literal) : Binary64.read? l.chars = some l.nearest := by
  rw [Binary64.read?, l.decimalRead?_chars]
  rfl

end Literal

end Decimal

end Timekeeper
