import Timekeeper.Proofs.Binary64.Literal
import Timekeeper.Proofs.Readout.Extraction
import Timekeeper.Proofs.Readout.Measurement
import Timekeeper.Proofs.Unicode.LetterCase

/-!
# The case of letters does not count

A program may print its measurements in any case. A text and the same text in small letters have
one readout, and so have any two texts that differ in the case of letters only
(`Readout.ofText_eq_of_sameButForCase`).

The scanner is followed from the parts of a measurement up to a whole search, and everything it does
**commutes** with writing the text in small letters: phrases and spellings of units are compared by
their folds, and the other classes of characters do not tell the cases apart
(`Measurement.at?_map_toLower`, `PlainMarker.find?_map_toLower`). What is found is then written in
small letters too, and that states the same duration: a number has no letter but that of its
exponent, for which either case is read, and the spelling of a unit is looked up in lower case
(`Measurement.duration?_lowered`).
-/

namespace Timekeeper

open Unicode

/-! ### Numbers -/

namespace Decimal

private theorem isDigit_toLower (c : Char) : c.toLower.isDigit = c.isDigit :=
  apply_toLower (by decide) c

/-- A digit has no case. -/
private theorem map_toLower_of_isDigit {digits : List Char} (h : ∀ c ∈ digits, c.isDigit = true) :
    digits.map Char.toLower = digits := by
  refine (List.map_congr_left fun c hc => ?_).trans (List.map_id _)
  have hascii := Measurement.toNat_lt_of_isDigit (h c hc)
  exact forall_ascii (P := fun c => c.isDigit = true → c.toLower = c) (by decide) hascii (h c hc)

private theorem splitSign_map_toLower (text : List Char) : splitSign (text.map Char.toLower) =
    ((splitSign text).1, (splitSign text).2.map Char.toLower) := by
  cases text with
  | nil => rfl
  | cons c rest =>
    have hminus := toLower_iff (P := (· = '-')) (by decide) c
    have hplus := toLower_iff (P := (· = '+')) (by decide) c
    rw [List.map_cons]
    by_cases hm : c = '-'
    · subst hm
      rfl
    by_cases hp : c = '+'
    · subst hp
      rfl
    have hsign {d : Char} {x : List Char} (hm : d ≠ '-') (hp : d ≠ '+') :
        splitSign (d :: x) = (false, d :: x) := by
      rw [splitSign]
      · exact fun _ h => hm (List.cons.inj h).1
      · exact fun _ h => hp (List.cons.inj h).1
    rw [hsign hm hp, hsign (mt hminus.mp hm) (mt hplus.mp hp), List.map_cons]

private theorem isDigits_map_toLower (text : List Char) :
    isDigits (text.map Char.toLower) = isDigits text := by
  rw [isDigits, isDigits, List.isEmpty_map, List.all_map,
    show Char.isDigit ∘ Char.toLower = Char.isDigit from funext isDigit_toLower]

private theorem readExponent?_map_toLower (text : List Char) :
    readExponent? (text.map Char.toLower) = readExponent? text := by
  cases text with
  | nil => rfl
  | cons c rest =>
    have hletter := toLower_iff (P := fun c => c = 'e' ∨ c = 'E') (by decide) c
    rw [List.map_cons, readExponent?, readExponent?, splitSign_map_toLower]
    simp only [hletter, isDigits_map_toLower]
    by_cases hdigits : isDigits (splitSign rest).2 = true
    · have hall : ∀ d ∈ (splitSign rest).2, d.isDigit = true :=
        fun d hd => (⟨_, hdigits⟩ : Digits).isDigit_of_mem hd
      rw [map_toLower_of_isDigit hall]
    · simp only [hdigits]
      rfl

private theorem splitPoint_map_toLower (text : List Char) : splitPoint (text.map Char.toLower) =
    ((splitPoint text).1, (splitPoint text).2.1, (splitPoint text).2.2.map Char.toLower) := by
  have htake (x : List Char) : (x.map Char.toLower).takeWhile Char.isDigit =
      x.takeWhile Char.isDigit := by
    rw [Text.takeWhile_map_toLower isDigit_toLower]
    exact map_toLower_of_isDigit fun c hc => List.mem_takeWhile_imp hc
  have hdrop (x : List Char) : (x.map Char.toLower).dropWhile Char.isDigit =
      (x.dropWhile Char.isDigit).map Char.toLower := by
    rw [List.dropWhile_map, show Char.isDigit ∘ Char.toLower = Char.isDigit from
      funext isDigit_toLower]
  rw [splitPoint, splitPoint, htake, hdrop]
  cases text.dropWhile Char.isDigit with
  | nil => rfl
  | cons c rest =>
    rw [List.map_cons]
    by_cases hc : c = '.'
    · subst hc
      change (_, (rest.map Char.toLower).takeWhile Char.isDigit,
        (rest.map Char.toLower).dropWhile Char.isDigit) = _
      rw [htake, hdrop]
      rfl
    · have hpoint := mt (toLower_iff (P := (· = '.')) (by decide) c).mp hc
      split
      · rename_i heq
        exact absurd (List.cons.inj heq).1 hpoint
      split
      · rename_i heq
        exact absurd (List.cons.inj heq).1 hc
      · rfl

/-- A literal writes the same number in either case. -/
theorem read?_map_toLower (text : List Char) : read? (text.map Char.toLower) = read? text := by
  rw [read?, read?, splitSign_map_toLower]
  simp only [splitPoint_map_toLower, readExponent?_map_toLower]

end Decimal

/-- A number is read in either case. -/
theorem Binary64.read?_map_toLower (text : List Char) :
    read? (text.map Char.toLower) = read? text := by
  have hname (name : List Char) : (name.map Char.toLower).map Char.toLower =
      name.map Char.toLower := by
    rw [List.map_map]
    exact List.map_congr_left fun c _ => apply_toLower (f := Char.toLower) (by decide) c
  rw [read?, read?, Decimal.read?_map_toLower, Decimal.splitSign_map_toLower]
  simp only [named?, hname]

/-! ### Durations -/

/-- What a number and a unit state does not depend on the case in which they are written. -/
theorem Readout.duration?_map_toLower (value unit : List Char) :
    duration? (value.map Char.toLower) (unit.map Char.toLower) = duration? value unit := by
  have hunit : TimeUnit.read (String.ofList (unit.map Char.toLower)) =
      TimeUnit.read (String.ofList unit) := by
    rw [TimeUnit.read, TimeUnit.read, String.toList_ofList, String.toList_ofList,
      lowerText_map_toLower]
  rw [duration?, duration?, Binary64.read?_map_toLower, hunit]

theorem occurs_map_toLower (literal text : List Char) :
    occurs literal (text.map Char.toLower) = occurs literal text := by
  rw [occurs, occurs, map_fold_toLower]

namespace Measurement

/-- A measurement written in small letters. -/
def lowered (m : Measurement) : Measurement :=
  ⟨m.lead.map Char.toLower, m.number.map Char.toLower, m.gap.map Char.toLower,
    m.unit.map Char.toLower⟩

/-- In small letters a measurement states the same. -/
theorem duration?_lowered (m : Measurement) : m.lowered.duration? = m.duration? := by
  rw [duration?_eq, duration?_eq]
  exact Readout.duration?_map_toLower m.number m.unit

private theorem signOf_map_toLower (text : List Char) :
    signOf (text.map Char.toLower) = (signOf text).map Char.toLower := by
  rw [signOf, ← List.map_take, Text.takeWhile_map_toLower (apply_toLower (by decide))]
  rfl

private theorem exponentOf_map_toLower (text : List Char) :
    exponentOf (text.map Char.toLower) = (exponentOf text).map Char.toLower := by
  cases text with
  | nil => rfl
  | cons c text =>
    have hletter : isExponentLetter c.toLower = isExponentLetter c :=
      apply_toLower (by decide) c
    rw [List.map_cons, exponentOf_cons, exponentOf_cons, signOf_map_toLower, List.length_map,
      ← List.map_drop, Text.takeWhile_map_toLower (apply_toLower (by decide)), List.isEmpty_map,
      hletter, apply_ite (List.map Char.toLower)]
    simp only [List.map_cons, List.map_append, List.map_nil]

private theorem numberOf?_map_toLower (text : List Char) :
    numberOf? (text.map Char.toLower) = (numberOf? text).map (List.map Char.toLower) := by
  rw [numberOf?, numberOf?, signOf_map_toLower]
  simp only [List.length_map, ← List.map_drop, List.isEmpty_map, exponentOf_map_toLower,
    Text.takeWhile_map_toLower (f := isFigure) (apply_toLower (by decide)), ← List.map_append]
  split <;> rfl

private theorem unitOf?_map_toLower (text : List Char) :
    unitOf? (text.map Char.toLower) = (unitOf? text).map (List.map Char.toLower) := by
  have hends : endsWord (text.map Char.toLower) = endsWord text := by
    funext spelling
    rw [endsWord, endsWord, occurs_map_toLower, ← List.map_drop, List.head?_map, Pattern.wordSide,
      Pattern.wordSide, Option.any_map]
    simp only [Pattern.isWord_toLower]
  rw [unitOf?, unitOf?, hends, Option.map_map]
  congr 1
  funext spelling
  exact (List.map_take ..).symm

/-- In small letters the same measurement is found, in small letters. -/
theorem at?_map_toLower (text : List Char) :
    at? (text.map Char.toLower) = (at? text).map lowered := by
  rw [at?, at?]
  simp only [Text.takeWhile_map_toLower Text.isBlank_toLower, List.length_map, ← List.map_drop,
    numberOf?_map_toLower]
  cases numberOf? (text.drop (text.takeWhile Text.isBlank).length) with
  | none => rfl
  | some number =>
    simp only [List.length_map, unitOf?_map_toLower, Option.map_map, Option.map_some]
    rfl

end Measurement

/-! ### Markers -/

namespace PlainMarker

private theorem here_map_toLower (p : Phrase) (text : List Char) :
    here p (text.map Char.toLower) = (here p text).map Measurement.lowered := by
  rw [here, here, occurs_map_toLower, ← List.map_drop, Measurement.at?_map_toLower]
  split <;> rfl

private theorem findSome?_here_map_toLower (p : Phrase) (text : List Char) :
    (text.map Char.toLower).tails.findSome? (here p) =
      (text.tails.findSome? (here p)).map Measurement.lowered := by
  rw [List.map_tails, List.findSome?_map, List.map_findSome?]
  congr 1
  exact funext (here_map_toLower p)

/-- In small letters a marker leads to the same measurement, in small letters. -/
theorem find?_map_toLower (text : List Char) (m : PlainMarker) :
    m.find? (text.map Char.toLower) = (m.find? text).map Measurement.lowered := by
  cases m with
  | direct p => rw [find?_direct, find?_direct, findSome?_here_map_toLower]
  | across p q =>
    have hoccurs : occurs p.chars ∘ List.map Char.toLower = occurs p.chars :=
      funext (occurs_map_toLower p.chars)
    rw [find?_across, find?_across, List.map_tails, List.find?_map, hoccurs]
    cases text.tails.find? (occurs p.chars) with
    | none => rfl
    | some behind =>
      rw [Option.map_some, Option.bind_some, Option.bind_some, ← List.map_drop,
        findSome?_here_map_toLower]

/-- In small letters a marker leads to the same duration. -/
theorem duration?_map_toLower (text : List Char) (m : PlainMarker) :
    m.duration? (text.map Char.toLower) = m.duration? text := by
  rw [duration?, duration?, find?_map_toLower, Option.bind_map]
  congr 1
  exact funext Measurement.duration?_lowered

end PlainMarker

/-! ### Readouts -/

/-- In small letters a text has the same readout by a plain table. -/
theorem PlainTable.scan_map_toLower (t : PlainTable) (text : List Char) :
    t.scan (text.map Char.toLower) = t.scan text := by
  simp only [scan, PlainMarker.duration?_map_toLower]

/-- Two texts are the **same but for case** when at each place they have the same character, or an
ASCII letter in its two cases. -/
def SameButForCase (x y : List Char) : Prop :=
  List.Forall₂ (fun c d => c = d ∨ c.isAlpha = true ∧ d.isAlpha = true ∧ c.toLower = d.toLower) x y

theorem SameButForCase.map_toLower_eq {x y : List Char} (h : SameButForCase x y) :
    x.map Char.toLower = y.map Char.toLower := by
  induction h with
  | nil => rfl
  | cons hcd _ ih =>
    rw [List.map_cons, List.map_cons, ih]
    obtain rfl | ⟨-, -, hlower⟩ := hcd
    · rfl
    · rw [hlower]

/-- Texts that are the same but for the case of letters have one readout. -/
theorem Readout.ofText_eq_of_sameButForCase : ∃ g, Grammar.standard = .ok g ∧
    ∀ x y : List Char, SameButForCase x y → Readout.ofText g x = Readout.ofText g y := by
  refine ⟨PlainTable.standard.grammar, PlainTable.standard_eq, fun x y h => ?_⟩
  calc Readout.ofText PlainTable.standard.grammar x
      = PlainTable.standard.scan x := PlainTable.ofText_grammar _ x
    _ = PlainTable.standard.scan (x.map Char.toLower) := (PlainTable.scan_map_toLower _ x).symm
    _ = PlainTable.standard.scan (y.map Char.toLower) := by rw [h.map_toLower_eq]
    _ = PlainTable.standard.scan y := PlainTable.scan_map_toLower _ y
    _ = Readout.ofText PlainTable.standard.grammar y := (PlainTable.ofText_grammar _ y).symm

/-- Here the cases of the two phrases, of the exponent and of the unit differ. -/
theorem Readout.ofText_eq_of_sameButForCase_exponent :
    let x := "Test 1: Sure: 1.5e1 ms".toList
    let y := "tEST 1: sURE: 1.5E1 MS".toList
    ∃ g, Grammar.standard = .ok g ∧ SameButForCase x y ∧
      Readout.ofText g x = Readout.ofText g y ∧
      (Readout.ofText g y).measurements = [("fibonacci", .ofNat 15)] := by
  intro x y
  have hcase : SameButForCase x y := by
    unfold SameButForCase
    decide
  obtain ⟨g, hg, h⟩ := ofText_eq_of_sameButForCase
  refine ⟨g, hg, hcase, h x y hcase, ?_⟩
  obtain rfl := Except.ok.inj (PlainTable.standard_eq.symm.trans hg)
  rw [PlainTable.ofText_grammar]
  decide +kernel

end Timekeeper
