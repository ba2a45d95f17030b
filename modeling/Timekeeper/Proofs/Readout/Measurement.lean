import Timekeeper.Proofs.Readout.Scanner
import Timekeeper.Proofs.Unicode.Folding
import Mathlib.Data.List.TakeWhile

/-!
# Measurements as they are written

The parts of a measurement are told apart by their characters: white space, the signs, figures
and exponent letters of a number, and the letters of units are kinds that do not meet. So a
measurement that is **well formed**, made of parts that are what they are called, is found in
front of anything that does not continue its last word (`Measurement.at?_append`), and what is
found is well formed and stands in front of such a rest (`Measurement.wellFormed_of_at?`).

The kinds are told apart by folds where units are concerned, because case does not count in
units. That is harmless: no sign, figure, exponent letter or white space folds to a letter of a
unit.
-/

namespace Timekeeper

namespace Measurement

/-! ### Kinds of characters -/

theorem eq_of_isSign {d : Char} (h : isSign d = true) : d = '-' ∨ d = '+' := by
  rwa [isSign, Bool.or_eq_true, beq_iff_eq, beq_iff_eq] at h

theorem eq_of_isExponentLetter {d : Char} (h : isExponentLetter d = true) : d = 'e' ∨ d = 'E' := by
  rwa [isExponentLetter, Bool.or_eq_true, beq_iff_eq, beq_iff_eq] at h

theorem toNat_lt_of_isDigit {d : Char} (h : d.isDigit = true) : d.toNat < 128 := by
  simp only [Char.isDigit, Bool.and_eq_true, decide_eq_true_eq, UInt32.le_iff_toNat_le] at h
  exact Nat.lt_of_le_of_lt h.2 (by decide)

theorem fold_of_isDigit {d : Char} (h : d.isDigit = true) : Unicode.fold d = d := by
  rw [Unicode.fold_of_ascii (toNat_lt_of_isDigit h)]
  exact Unicode.forall_ascii (P := fun d => d.isDigit = true → d.toLower = d) (by decide)
    (toNat_lt_of_isDigit h) h

theorem toNat_lt_of_isFigure {d : Char} (h : isFigure d = true) : d.toNat < 128 := by
  rw [isFigure, Bool.or_eq_true, beq_iff_eq] at h
  obtain h | rfl := h
  · exact toNat_lt_of_isDigit h
  · decide

theorem not_isFigure_of_isSign {d : Char} (h : isSign d = true) : isFigure d = false := by
  obtain rfl | rfl := eq_of_isSign h <;> rfl

theorem not_isFigure_of_isExponentLetter {d : Char} (h : isExponentLetter d = true) :
    isFigure d = false := by
  obtain rfl | rfl := eq_of_isExponentLetter h <;> rfl

theorem not_isExponentLetter_of_isFigure {d : Char} (h : isFigure d = true) :
    isExponentLetter d = false := by
  rw [Bool.eq_false_iff]
  intro hd
  rw [not_isFigure_of_isExponentLetter hd] at h
  contradiction

theorem not_isSign_of_isFigure {d : Char} (h : isFigure d = true) : isSign d = false := by
  rw [Bool.eq_false_iff]
  intro hd
  rw [not_isFigure_of_isSign hd] at h
  contradiction

theorem not_isBlank_of_isSign {d : Char} (h : isSign d = true) : Text.isBlank d = false := by
  obtain rfl | rfl := eq_of_isSign h <;> rfl

theorem not_isBlank_of_isFigure {d : Char} (h : isFigure d = true) : Text.isBlank d = false :=
  Unicode.forall_ascii (P := fun d => isFigure d = true → Text.isBlank d = false) (by decide)
    (toNat_lt_of_isFigure h) h

theorem not_isBlank_of_isExponentLetter {d : Char} (h : isExponentLetter d = true) :
    Text.isBlank d = false := by
  obtain rfl | rfl := eq_of_isExponentLetter h <;> rfl

/-- The folds of the characters that units are spelled with. -/
def unitLetters : List Char := ['m', 'μ', 'u', 'n', 's']

/-- A kind of characters that folding keeps, and to which no letter of a unit belongs, has no
character that stands for a letter of a unit. -/
theorem not_of_fold_mem_unitLetters {f : Char → Bool}
    (hfold : ∀ d, f d = true → f (Unicode.fold d) = true) (hletters : unitLetters.any f = false)
    {d : Char} (hd : Unicode.fold d ∈ unitLetters) : f d = false := by
  rw [Bool.eq_false_iff]
  exact fun h => List.any_eq_false.mp hletters _ hd (hfold d h)

theorem not_isBlank_of_fold_mem {d : Char} (h : Unicode.fold d ∈ unitLetters) :
    Text.isBlank d = false :=
  not_of_fold_mem_unitLetters (fun d hd => by rwa [Text.fold_of_isBlank hd]) (by decide) h

theorem not_isFigure_of_fold_mem {d : Char} (h : Unicode.fold d ∈ unitLetters) :
    isFigure d = false := by
  refine not_of_fold_mem_unitLetters (fun d hd => ?_) (by decide) h
  rw [Unicode.fold_of_ascii (toNat_lt_of_isFigure hd)]
  exact Unicode.forall_ascii (P := fun d => isFigure d = true → isFigure d.toLower = true)
    (by decide) (toNat_lt_of_isFigure hd) hd

theorem not_isExponentLetter_of_fold_mem {d : Char} (h : Unicode.fold d ∈ unitLetters) :
    isExponentLetter d = false := by
  refine not_of_fold_mem_unitLetters (fun d hd => ?_) (by decide) h
  obtain rfl | rfl := eq_of_isExponentLetter hd <;> decide

/-! ### Numbers -/

section Number

variable {x : List Char}

/-- The longest run of a kind ends where something of another kind follows. -/
theorem takeWhile_append_eq {f : Char → Bool} {l : List Char} (hl : ∀ c ∈ l, f c = true)
    (hx : x.head?.any f = false) : (l ++ x).takeWhile f = l := by
  rw [List.takeWhile_append_of_pos hl]
  cases x with
  | nil => simp
  | cons d x => rw [List.takeWhile_cons_of_neg (by simpa using hx), List.append_nil]

/-- Nothing, or one sign. -/
def IsSigns (sign : List Char) : Prop := sign = [] ∨ ∃ c, isSign c = true ∧ sign = [c]

/-- Nothing, or a complete **exponent part**. -/
def IsExponent (exponent : List Char) : Prop :=
  exponent = [] ∨ ∃ c sign digits, isExponentLetter c = true ∧ IsSigns sign ∧ digits ≠ [] ∧
    (∀ d ∈ digits, d.isDigit = true) ∧ exponent = c :: (sign ++ digits)

/-- A **number** as it may stand in a measurement. -/
def IsNumber (number : List Char) : Prop :=
  ∃ sign figures exponent, IsSigns sign ∧ figures ≠ [] ∧ (∀ d ∈ figures, isFigure d = true) ∧
    IsExponent exponent ∧ number = sign ++ (figures ++ exponent)

theorem isSigns_signOf (text : List Char) : IsSigns (signOf text) := by
  cases text with
  | nil => exact .inl rfl
  | cons c text =>
    rw [signOf_cons]
    by_cases h : isSign c = true
    · exact .inr ⟨c, h, if_pos h⟩
    · exact .inl (if_neg h)

theorem signOf_append {sign : List Char} (h : IsSigns sign) (hx : x.head?.any isSign = false) :
    signOf (sign ++ x) = sign := by
  obtain rfl | ⟨c, hc, rfl⟩ := h
  · cases x with
    | nil => rfl
    | cons d x => exact (signOf_cons d x).trans (if_neg (by simpa using hx))
  · exact (signOf_cons c x).trans (if_pos hc)

theorem isExponent_exponentOf (text : List Char) : IsExponent (exponentOf text) := by
  cases text with
  | nil => exact .inl rfl
  | cons c text =>
    rw [exponentOf_cons]
    split
    · rename_i h
      rw [Bool.and_eq_true, Bool.not_eq_true', List.isEmpty_eq_false_iff] at h
      exact .inr ⟨c, _, _, h.1, isSigns_signOf text, h.2, fun d hd => List.mem_takeWhile_imp hd,
        rfl⟩
    · exact .inl rfl

private theorem any_isSign_of_isFigures {figures : List Char} (hne : figures ≠ [])
    (h : ∀ d ∈ figures, isFigure d = true) : (figures ++ x).head?.any isSign = false := by
  obtain ⟨d, rest, rfl⟩ := List.exists_cons_of_ne_nil hne
  exact not_isSign_of_isFigure (h d List.mem_cons_self)

theorem isFigure_of_isDigit {d : Char} (h : d.isDigit = true) : isFigure d = true := by
  simp [isFigure, h]

theorem exponentOf_append {exponent : List Char} (h : IsExponent exponent)
    (hdigit : x.head?.any isFigure = false) (hletter : x.head?.any isExponentLetter = false) :
    exponentOf (exponent ++ x) = exponent := by
  obtain rfl | ⟨c, sign, digits, hc, hsign, hne, hdigits, rfl⟩ := h
  · cases x with
    | nil => rfl
    | cons d x =>
      have hd : isExponentLetter d = false := hletter
      simp [exponentOf_cons, hd]
  · have hsignOf : signOf (sign ++ (digits ++ x)) = sign :=
      signOf_append hsign
        (any_isSign_of_isFigures hne fun d hd => isFigure_of_isDigit (hdigits d hd))
    have htake : (digits ++ x).takeWhile Char.isDigit = digits := by
      refine takeWhile_append_eq hdigits ?_
      cases x with
      | nil => rfl
      | cons d x =>
        rw [List.head?_cons, Option.any_some, Bool.eq_false_iff]
        intro hd
        rw [List.head?_cons, Option.any_some, isFigure_of_isDigit hd] at hdigit
        contradiction
    rw [List.cons_append, List.append_assoc, exponentOf_cons, hsignOf, List.drop_left, htake]
    simp [hc, hne]

/-- A number is read up to where something follows that cannot continue it. -/
theorem numberOf?_append {number : List Char} (h : IsNumber number)
    (hfigure : x.head?.any isFigure = false) (hletter : x.head?.any isExponentLetter = false) :
    numberOf? (number ++ x) = some number := by
  obtain ⟨sign, figures, exponent, hsign, hne, hfigures, hexponent, rfl⟩ := h
  have hbehind : (exponent ++ x).head?.any isFigure = false := by
    obtain rfl | ⟨c, _, _, hc, -, -, -, rfl⟩ := hexponent
    · exact hfigure
    · exact not_isFigure_of_isExponentLetter hc
  have hsignOf : signOf (sign ++ (figures ++ (exponent ++ x))) = sign :=
    signOf_append hsign (any_isSign_of_isFigures hne hfigures)
  have htake : (figures ++ (exponent ++ x)).takeWhile isFigure = figures :=
    takeWhile_append_eq hfigures hbehind
  rw [List.append_assoc, List.append_assoc, numberOf?, hsignOf, List.drop_left]
  simp only [htake, ← List.drop_drop, List.drop_left, exponentOf_append hexponent hfigure hletter]
  simp [hne]

/-- What is read as a number is one. -/
theorem isNumber_of_numberOf? {text number : List Char} (h : numberOf? text = some number) :
    IsNumber number := by
  obtain ⟨hempty, hnumber⟩ := Option.ite_none_left_eq_some.mp h
  rw [← Option.some.inj hnumber, List.append_assoc]
  exact ⟨_, _, _, isSigns_signOf text, by simpa using hempty, fun d hd => List.mem_takeWhile_imp hd,
    isExponent_exponentOf _, rfl⟩

private theorem IsSigns.isSign_of_mem {sign : List Char} (h : IsSigns sign) {c : Char}
    (hc : c ∈ sign) : isSign c = true := by
  obtain rfl | ⟨d, hd, rfl⟩ := h
  · contradiction
  · rwa [List.mem_singleton.mp hc]

/-- A number is made of signs, figures and letters of an exponent. -/
theorem IsNumber.kind_of_mem {number : List Char} (h : IsNumber number) {c : Char}
    (hc : c ∈ number) : isSign c = true ∨ isFigure c = true ∨ isExponentLetter c = true := by
  obtain ⟨sign, figures, exponent, hsign, -, hfigures, hexponent, rfl⟩ := h
  rw [List.mem_append, List.mem_append] at hc
  obtain hc | hc | hc := hc
  · exact .inl (hsign.isSign_of_mem hc)
  · exact .inr (.inl (hfigures c hc))
  · obtain rfl | ⟨d, sign, digits, hd, hsign, -, hdigits, rfl⟩ := hexponent
    · contradiction
    rw [List.mem_cons, List.mem_append] at hc
    obtain rfl | hc | hc := hc
    · exact .inr (.inr hd)
    · exact .inl (hsign.isSign_of_mem hc)
    · exact .inr (.inl (isFigure_of_isDigit (hdigits c hc)))

end Number

/-! ### Units -/

section Unit

/-- A **unit** as it may stand in a measurement: a spelling when case does not count. -/
def IsUnit (unit : List Char) : Prop :=
  ∃ spelling ∈ spellings, unit.map Unicode.fold = spelling.map Unicode.fold

theorem IsUnit.fold_mem {unit : List Char} (h : IsUnit unit) {d : Char} (hd : d ∈ unit) :
    Unicode.fold d ∈ unitLetters := by
  have hletters : ∀ x ∈ spellings, (x.map Unicode.fold).all (unitLetters.contains ·) = true := by
    decide +kernel
  obtain ⟨x, hx, hfold⟩ := h
  have hmem : Unicode.fold d ∈ x.map Unicode.fold := hfold ▸ List.mem_map_of_mem hd
  simpa using List.all_eq_true.mp (hletters x hx) _ hmem

theorem IsUnit.ne_nil {unit : List Char} (h : IsUnit unit) : unit ≠ [] := by
  rintro rfl
  obtain ⟨x, hx, hfold⟩ := h
  obtain rfl : x = [] := List.map_eq_nil_iff.mp hfold.symm
  exact absurd hx (by decide)

/-- What is read as a unit begins with one of its letters. -/
theorem IsUnit.fold_mem_of_isPrefix {unit rest : List Char} {d : Char}
    (hfront : unit <+: d :: rest) (h : IsUnit unit) : Unicode.fold d ∈ unitLetters := by
  obtain ⟨e, tail, rfl⟩ := List.exists_cons_of_ne_nil h.ne_nil
  rw [← (List.cons_prefix_cons.mp hfront).1]
  exact h.fold_mem List.mem_cons_self

/-- Spellings that occur at the same place are equally long. -/
theorem length_eq_of_occurs {text x y : List Char} (hx : x ∈ spellings)
    (hy : y ∈ spellings) (hox : occurs x text = true) (hoy : occurs y text = true) :
    x.length = y.length := by
  -- two spellings with the same fold of their first letters are equally long
  have hhead : ∀ x ∈ spellings, ∀ y ∈ spellings,
      x.head?.map Unicode.fold = y.head?.map Unicode.fold → x.length = y.length := by
    decide +kernel
  have hfold {z : List Char} (hz : z ∈ spellings) (ho : occurs z text = true) :
      z.head?.map Unicode.fold = text.head?.map Unicode.fold := by
    have hne : z ≠ [] := by
      rintro rfl
      exact absurd hz (by decide)
    obtain ⟨c, z, rfl⟩ := List.exists_cons_of_ne_nil hne
    obtain ⟨d, hd, hfold⟩ := getElem?_of_occurs ho (n := 0) rfl
    rw [List.head?_eq_getElem?, List.head?_eq_getElem?, hd]
    simp [hfold]
  exact hhead x hx y hy ((hfold hx hox).trans (hfold hy hoy).symm)

/-- Where a unit stands, a spelling as long as it is occurs. -/
theorem IsUnit.exists_occurs {unit : List Char} (h : IsUnit unit) (x : List Char) :
    ∃ spelling ∈ spellings, spelling.length = unit.length ∧
      occurs spelling (unit ++ x) = true := by
  obtain ⟨y, hy, hfold⟩ := h
  have hlength : y.length = unit.length := by simpa using congrArg List.length hfold.symm
  refine ⟨y, hy, hlength, ?_⟩
  rw [occurs_iff_fold_take, hlength, List.take_left, hfold]

/-- A unit is read where no word goes on behind it. -/
theorem unitOf?_append {unit x : List Char} (h : IsUnit unit)
    (hx : Pattern.wordSide true x.head? = false) : unitOf? (unit ++ x) = some unit := by
  obtain ⟨y, hy, hlength, ho⟩ := h.exists_occurs x
  -- another spelling may be found first, but then it is equally long
  have hends : endsWord (unit ++ x) y = true := by
    rw [endsWord, ho, hlength, List.drop_left, hx]
    rfl
  rw [unitOf?]
  cases hfind : spellings.find? (endsWord (unit ++ x)) with
  | none => exact absurd hends (List.find?_eq_none.mp hfind y hy)
  | some z =>
    have hz : endsWord (unit ++ x) z = true := List.find?_some hfind
    rw [endsWord, Bool.and_eq_true] at hz
    have hsame := length_eq_of_occurs hy (List.mem_of_find?_eq_some hfind) ho hz.1
    rw [Option.map_some, ← hsame, hlength, List.take_left]

/-- What is read as a unit is one, and no word goes on behind it. -/
theorem isUnit_of_unitOf? {text unit : List Char} (h : unitOf? text = some unit) :
    IsUnit unit ∧ Pattern.wordSide true (text.drop unit.length).head? = false := by
  obtain ⟨x, hfind, rfl⟩ := Option.map_eq_some_iff.mp h
  have hends : endsWord text x = true := List.find?_some hfind
  rw [endsWord, Bool.and_eq_true, Bool.not_eq_true'] at hends
  refine ⟨⟨x, List.mem_of_find?_eq_some hfind, occurs_iff_fold_take.mp hends.1⟩, ?_⟩
  rw [List.length_take_of_le (length_le_of_occurs hends.1)]
  exact hends.2

end Unit

/-! ### Measurements -/

/-- The characters of a measurement. -/
def chars (m : Measurement) : List Char := m.lead ++ (m.number ++ (m.gap ++ m.unit))

/-- A measurement is **well formed** when its parts are what they are called. -/
structure WellFormed (m : Measurement) : Prop where
  lead_blank : ∀ c ∈ m.lead, Text.isBlank c = true
  number : IsNumber m.number
  gap_blank : ∀ c ∈ m.gap, Text.isBlank c = true
  unit : IsUnit m.unit

/-- A character of none of the kinds that the parts are made of is not in a measurement. -/
theorem WellFormed.not_mem {m : Measurement} (h : m.WellFormed) {c : Char}
    (hblank : Text.isBlank c = false)
    (hkind : ¬(isSign c = true ∨ isFigure c = true ∨ isExponentLetter c = true))
    (hunit : Unicode.fold c ∉ unitLetters) : c ∉ m.chars := by
  intro hmem
  simp only [chars, List.mem_append] at hmem
  obtain hmem | hmem | hmem | hmem := hmem
  · exact absurd (h.lead_blank c hmem) (Bool.eq_false_iff.mp hblank)
  · exact hkind (h.number.kind_of_mem hmem)
  · exact absurd (h.gap_blank c hmem) (Bool.eq_false_iff.mp hblank)
  · exact hunit (h.unit.fold_mem hmem)

theorem WellFormed.colon_not_mem {m : Measurement} (h : m.WellFormed) : ':' ∉ m.chars :=
  h.not_mem (by decide) (by decide) (by decide)

theorem length_chars (m : Measurement) : m.chars.length = m.length := by
  simp only [chars, length, List.length_append]
  omega

/-- A number does not begin with white space. -/
theorem IsNumber.exists_cons {number : List Char} (h : IsNumber number) :
    ∃ d rest, number = d :: rest ∧ Text.isBlank d = false := by
  obtain ⟨sign, figures, exponent, hsign, hne, hfigures, -, rfl⟩ := h
  obtain rfl | ⟨c, hc, rfl⟩ := hsign
  · obtain ⟨d, rest, rfl⟩ := List.exists_cons_of_ne_nil hne
    exact ⟨d, rest ++ exponent, rfl, not_isBlank_of_isFigure (hfigures d List.mem_cons_self)⟩
  · exact ⟨c, figures ++ exponent, rfl, not_isBlank_of_isSign hc⟩

private theorem IsUnit.exists_cons {unit : List Char} (h : IsUnit unit) :
    ∃ d rest, unit = d :: rest ∧ Unicode.fold d ∈ unitLetters := by
  obtain ⟨d, rest, rfl⟩ := List.exists_cons_of_ne_nil h.ne_nil
  exact ⟨d, rest, rfl, h.fold_mem List.mem_cons_self⟩

/-- A measurement ends with a letter of a unit. -/
theorem WellFormed.exists_getLast? {m : Measurement} (h : m.WellFormed) :
    ∃ c, m.chars.getLast? = some c ∧ Unicode.fold c ∈ unitLetters := by
  obtain ⟨c, hc⟩ : ∃ c, m.unit.getLast? = some c :=
    Option.ne_none_iff_exists'.mp (by simpa using h.unit.ne_nil)
  refine ⟨c, ?_, h.unit.fold_mem (List.mem_of_getLast? hc)⟩
  rw [chars, List.getLast?_append, List.getLast?_append, List.getLast?_append, hc]
  rfl

/-- The parts of a measurement in front of its unit are scanned as they are, whatever follows. -/
theorem WellFormed.scan_append {m : Measurement} (h : m.WellFormed) (x : List Char) :
    (m.chars ++ x).takeWhile Text.isBlank = m.lead ∧
    numberOf? ((m.chars ++ x).drop m.lead.length) = some m.number ∧
    ((m.chars ++ x).drop (m.lead.length + m.number.length)).takeWhile Text.isBlank = m.gap := by
  obtain ⟨lead, number, gap, unit⟩ := m
  obtain ⟨hlead, hnumber, hgap, hunit⟩ := h
  dsimp only at hlead hnumber hgap hunit
  obtain ⟨d, drest, hd, hdblank⟩ := hnumber.exists_cons
  obtain ⟨e, erest, he, hefold⟩ := hunit.exists_cons
  -- what stands behind the number is white space or begins the unit
  have hbehind {f : Char → Bool} (hblank : ∀ c, f c = true → Text.isBlank c = false)
      (hfe : f e = false) : (gap ++ (unit ++ x)).head?.any f = false := by
    cases gap with
    | nil => simpa [he] using hfe
    | cons c gap =>
      rw [List.cons_append, List.head?_cons, Option.any_some, Bool.eq_false_iff]
      intro hc
      have hc' := hblank c hc
      rw [hgap c List.mem_cons_self] at hc'
      contradiction
  have hfigure := hbehind (fun _ => not_isBlank_of_isFigure) (not_isFigure_of_fold_mem hefold)
  have hletter := hbehind (fun _ => not_isBlank_of_isExponentLetter)
    (not_isExponentLetter_of_fold_mem hefold)
  have hlead' : (lead ++ (number ++ (gap ++ (unit ++ x)))).takeWhile Text.isBlank = lead :=
    takeWhile_append_eq hlead (by simpa [hd] using hdblank)
  have hgap' : (gap ++ (unit ++ x)).takeWhile Text.isBlank = gap :=
    takeWhile_append_eq hgap (by simpa [he] using not_isBlank_of_fold_mem hefold)
  rw [chars, List.append_assoc, List.append_assoc, List.append_assoc]
  simp only [← List.drop_drop, List.drop_left, hgap']
  exact ⟨hlead', numberOf?_append hnumber hfigure hletter, trivial⟩

/-- Behind these parts the unit comes. -/
theorem drop_chars_append (m : Measurement) (x : List Char) :
    (m.chars ++ x).drop (m.lead.length + m.number.length + m.gap.length) = m.unit ++ x := by
  rw [chars, List.append_assoc, List.append_assoc, List.append_assoc]
  simp only [← List.drop_drop, List.drop_left]

/-- A measurement is found in front of anything that does not continue its last word. -/
theorem at?_append {m : Measurement} (h : m.WellFormed) {x : List Char}
    (hx : Pattern.wordSide true x.head? = false) : at? (m.chars ++ x) = some m := by
  obtain ⟨hlead, hnumber, hgap⟩ := h.scan_append x
  refine at?_eq_some_iff.mpr ⟨hlead, hnumber, hgap, ?_⟩
  rw [drop_chars_append]
  exact unitOf?_append h.unit hx

/-- Two measurements at the front of one text are one, whatever follows them. -/
theorem WellFormed.eq_of_append {m n : Measurement} (hm : m.WellFormed) (hn : n.WellFormed)
    {x y : List Char} (h : m.chars ++ x = n.chars ++ y) : m = n := by
  obtain ⟨hlead, hnumber, hgap⟩ := hm.scan_append x
  obtain ⟨hlead', hnumber', hgap'⟩ := hn.scan_append y
  have hunit := m.drop_chars_append x
  rw [h] at hlead hnumber hgap hunit
  have h₁ : m.lead = n.lead := hlead.symm.trans hlead'
  rw [h₁] at hnumber hgap hunit
  have h₂ : m.number = n.number := Option.some.inj (hnumber.symm.trans hnumber')
  rw [h₂] at hgap hunit
  have h₃ : m.gap = n.gap := hgap.symm.trans hgap'
  rw [h₃, drop_chars_append] at hunit
  -- both units stand at one place, so they are equally long
  have h₄ : n.unit.length = m.unit.length := by
    obtain ⟨u, hu, hulength, huoccurs⟩ := hm.unit.exists_occurs x
    obtain ⟨v, hv, hvlength, hvoccurs⟩ := hn.unit.exists_occurs y
    rw [hunit] at hvoccurs
    rw [← hulength, ← hvlength, length_eq_of_occurs hv hu hvoccurs huoccurs]
  have h₅ : m.unit = n.unit := (List.append_inj hunit h₄).1.symm
  cases m
  cases n
  simp only at h₁ h₂ h₃ h₅
  rw [h₁, h₂, h₃, h₅]

/-- A measurement that is found is well formed, stands at the front of the text, and nothing
continues its last word. -/
theorem wellFormed_of_at? {text : List Char} {m : Measurement} (h : at? text = some m) :
    m.WellFormed ∧ ∃ x, text = m.chars ++ x ∧ Pattern.wordSide true x.head? = false := by
  obtain ⟨hlead, hnumber, hgap, hunit⟩ := at?_eq_some_iff.mp h
  obtain ⟨hisUnit, hword⟩ := isUnit_of_unitOf? hunit
  refine ⟨⟨?_, isNumber_of_numberOf? hnumber, ?_, hisUnit⟩, text.drop m.chars.length, ?_, ?_⟩
  · rw [← hlead]
    exact fun c hc => List.mem_takeWhile_imp hc
  · rw [← hgap]
    exact fun c hc => List.mem_takeWhile_imp hc
  · have hfront : m.chars <+: text := by
      have h₁ : m.lead <+: text := hlead ▸ List.takeWhile_prefix _
      have h₂ := isPrefix_append h₁ (numberOf?_isPrefix hnumber)
      have h₃ : m.lead ++ m.number ++ m.gap <+: text := by
        refine isPrefix_append h₂ ?_
        rw [List.length_append, ← hgap]
        exact List.takeWhile_prefix _
      have h₄ : m.lead ++ m.number ++ m.gap ++ m.unit <+: text := by
        refine isPrefix_append h₃ ?_
        rw [List.length_append, List.length_append]
        exact unitOf?_isPrefix hunit
      simpa only [chars, List.append_assoc] using h₄
    exact (List.prefix_iff_eq_append.mp hfront).symm
  · rwa [List.drop_drop, ← length, ← length_chars] at hword

end Measurement

end Timekeeper
