import Timekeeper.Proofs.Grammar.Standard
import Timekeeper.Readout
import Mathlib.Data.List.Infix

/-!
# The plain scanner

What a grammar of plain markers finds in a text, said without patterns. A **plain marker** is
a phrase of letters, digits, spaces and colons, or two such phrases with any text between
them. It leads to a **measurement**: white space, a number, white space and a unit, of which
each part is as long as it can be.

`PlainMarker.find?` looks for the first place at which the phrase occurs with a measurement
right behind it. Of two phrases, the first is taken where it first occurs, and the second is
looked for behind that place only. `PlainTable.scan` does so for every test of a table and for
the total. Nothing here goes back on a choice.
-/

namespace Timekeeper

/-! ### Occurrences -/

/-- Whether a text begins with a literal when case does not count. -/
def occurs (literal text : List Char) : Bool :=
  (literal.map Unicode.fold).isPrefixOf (text.map Unicode.fold)

theorem occurs_cons (c d : Char) (literal text : List Char) :
    occurs (c :: literal) (d :: text) = (Unicode.fold c == Unicode.fold d && occurs literal text) :=
  rfl

theorem length_le_of_occurs {literal text : List Char} (h : occurs literal text = true) :
    literal.length ≤ text.length := by
  simpa using (List.isPrefixOf_iff_prefix.mp h).length_le

theorem occurs_iff_fold_take {literal text : List Char} :
    occurs literal text = true ↔
      (text.take literal.length).map Unicode.fold = literal.map Unicode.fold := by
  rw [occurs, List.isPrefixOf_iff_prefix, List.prefix_iff_eq_take, List.length_map, List.map_take,
    eq_comm]

/-- Whether a literal occurs in a text that is long enough does not depend on what follows. -/
theorem occurs_append {literal text : List Char} (h : literal.length ≤ text.length)
    (behind : List Char) : occurs literal (text ++ behind) = occurs literal text := by
  rw [Bool.eq_iff_iff, occurs_iff_fold_take, occurs_iff_fold_take, List.take_append_of_le_length h]

/-- Where a literal occurs, the text has a character of the same fold for each of its own. -/
theorem getElem?_of_occurs {literal text : List Char} (h : occurs literal text = true) {n : Nat}
    {c : Char} (hc : literal[n]? = some c) :
    ∃ d, text[n]? = some d ∧ Unicode.fold d = Unicode.fold c := by
  obtain ⟨rest, hrest⟩ := List.isPrefixOf_iff_prefix.mp h
  have hfold : (text.map Unicode.fold)[n]? = some (Unicode.fold c) := by
    rw [← hrest]
    simp [List.getElem?_append_left (show n < (literal.map Unicode.fold).length by
      simpa using (List.getElem?_eq_some_iff.mp hc).1), hc]
  simpa using hfold

theorem occurs_self_append (literal text : List Char) :
    occurs literal (literal ++ text) = true := by
  rw [occurs_iff_fold_take, List.take_left]

theorem occurs_append_append (front literal text : List Char) :
    occurs (front ++ literal) (front ++ text) = occurs literal text := by
  induction front with
  | nil => rfl
  | cons c front ih =>
    rw [List.cons_append, List.cons_append, occurs_cons, ih, beq_self_eq_true, Bool.true_and]

theorem occurs_drop_of_append {front literal text : List Char}
    (h : occurs (front ++ literal) text = true) :
    occurs literal (text.drop front.length) = true := by
  obtain ⟨rest, hrest⟩ := List.isPrefixOf_iff_prefix.mp h
  refine List.isPrefixOf_iff_prefix.mpr ⟨rest, ?_⟩
  rw [List.map_drop, ← hrest, List.map_append, List.append_assoc, List.drop_left' (by simp)]

/-! ### Measurements -/

/-- A **measurement** as it stands in a text. -/
structure Measurement where
  lead : List Char
  number : List Char
  gap : List Char
  unit : List Char
deriving DecidableEq

namespace Measurement

/-- The two signs. -/
def isSign (c : Char) : Bool := c == '-' || c == '+'

/-- What the digits of a number are: figures and points, in any order. -/
def isFigure (c : Char) : Bool := c.isDigit || c == '.'

/-- The letters that begin an exponent part. -/
def isExponentLetter (c : Char) : Bool := c == 'e' || c == 'E'

/-- The sign at the front of a text, if there is one. -/
def signOf (text : List Char) : List Char := (text.take 1).takeWhile isSign

theorem signOf_cons (c : Char) (text : List Char) :
    signOf (c :: text) = if isSign c then [c] else [] := by
  by_cases h : isSign c = true <;> simp [signOf, h]

/-- The exponent part at the front of a text if it is complete: a letter, an optional sign and
at least one digit. -/
def exponentOf : List Char → List Char
  | [] => []
  | c :: rest =>
    let sign := signOf rest
    let digits := (rest.drop sign.length).takeWhile Char.isDigit
    if isExponentLetter c && !digits.isEmpty then c :: sign ++ digits else []

/-- The number at the front of a text: an optional sign, as many figures as there are but at
least one, and the exponent part behind them. -/
def numberOf? (text : List Char) : Option (List Char) :=
  let sign := signOf text
  let figures := (text.drop sign.length).takeWhile isFigure
  if figures.isEmpty then none
  else some (sign ++ figures ++ exponentOf (text.drop (sign.length + figures.length)))

theorem exponentOf_cons (c : Char) (text : List Char) :
    exponentOf (c :: text) =
      if isExponentLetter c &&
        !((text.drop (signOf text).length).takeWhile Char.isDigit).isEmpty then
        c :: signOf text ++ (text.drop (signOf text).length).takeWhile Char.isDigit
      else [] := rfl

theorem isPrefix_append {x y text : List Char} (hx : x <+: text)
    (hy : y <+: text.drop x.length) : x ++ y <+: text := by
  obtain ⟨rest, rfl⟩ := hx
  rw [List.drop_left] at hy
  exact (List.prefix_append_right_inj x).mpr hy

theorem signOf_isPrefix (text : List Char) : signOf text <+: text :=
  (List.takeWhile_prefix _).trans (List.take_prefix _ _)

theorem exponentOf_isPrefix (text : List Char) : exponentOf text <+: text := by
  cases text with
  | nil => exact List.prefix_rfl
  | cons c rest =>
    rw [exponentOf_cons]
    split
    · exact (List.prefix_append_right_inj [c]).mpr
        (isPrefix_append (signOf_isPrefix rest) (List.takeWhile_prefix _))
    · exact List.nil_prefix

/-- The number is what the text begins with. -/
theorem numberOf?_isPrefix {text number : List Char} (h : numberOf? text = some number) :
    number <+: text := by
  obtain ⟨-, hnumber⟩ := Option.ite_none_left_eq_some.mp h
  rw [← Option.some.inj hnumber]
  refine isPrefix_append (isPrefix_append (signOf_isPrefix text) (List.takeWhile_prefix _)) ?_
  rw [List.length_append]
  exact exponentOf_isPrefix _

/-- The spellings of the units. -/
def spellings : List (List Char) :=
  [['m', 's'], ['µ', 's'], ['μ', 's'], ['u', 's'], ['n', 's'], ['s']]

/-- Whether a spelling occurs at the front of a text and no word goes on behind it. -/
def endsWord (text spelling : List Char) : Bool :=
  occurs spelling text && !Pattern.wordSide true (text.drop spelling.length).head?

/-- The unit at the front of a text. -/
def unitOf? (text : List Char) : Option (List Char) :=
  (spellings.find? (endsWord text)).map fun spelling => text.take spelling.length

theorem unitOf?_isPrefix {text unit : List Char} (h : unitOf? text = some unit) :
    unit <+: text := by
  obtain ⟨spelling, -, rfl⟩ := Option.map_eq_some_iff.mp h
  exact List.take_prefix _ _

/-- The measurement at the front of a text. -/
def at? (text : List Char) : Option Measurement :=
  let lead := text.takeWhile Text.isBlank
  match numberOf? (text.drop lead.length) with
  | none => none
  | some number =>
    let behind := text.drop (lead.length + number.length)
    let gap := behind.takeWhile Text.isBlank
    (unitOf? (behind.drop gap.length)).map fun unit => ⟨lead, number, gap, unit⟩

/-- A measurement is made of its four parts, each of them the one that stands at its place. -/
theorem at?_eq_some_iff {text : List Char} {m : Measurement} :
    at? text = some m ↔
      text.takeWhile Text.isBlank = m.lead ∧ numberOf? (text.drop m.lead.length) = some m.number ∧
      (text.drop (m.lead.length + m.number.length)).takeWhile Text.isBlank = m.gap ∧
      unitOf? (text.drop (m.lead.length + m.number.length + m.gap.length)) = some m.unit := by
  obtain ⟨lead, number, gap, unit⟩ := m
  rw [at?]
  constructor
  · intro h
    split at h
    · contradiction
    · rename_i number' hnumber
      obtain ⟨unit', hunit, heq⟩ := Option.map_eq_some_iff.mp h
      rw [Measurement.mk.injEq] at heq
      obtain ⟨rfl, rfl, rfl, rfl⟩ := heq
      rw [List.drop_drop] at hunit
      exact ⟨rfl, hnumber, rfl, hunit⟩
  · rintro ⟨rfl, hnumber, hgap, hunit⟩
    dsimp only at hnumber hgap hunit
    subst hgap
    rw [← List.drop_drop] at hunit
    simp only [hnumber, hunit, Option.map_some]

/-- How many characters a measurement takes up. -/
def length (m : Measurement) : Nat :=
  m.lead.length + m.number.length + m.gap.length + m.unit.length

end Measurement

/-! ### Durations -/

theorem TimeUnit.toList_mem_spellings (u : TimeUnit) {spelling : String}
    (h : spelling ∈ u.spellings) : spelling.toList ∈ Measurement.spellings := by
  have hall : ∀ u ∈ all, ∀ spelling ∈ u.spellings,
      spelling.toList ∈ Measurement.spellings := by
    decide
  exact hall u u.mem_all spelling h

namespace Measurement

/-- A number in the unit that a text spells in any case, brought to milliseconds. There are three
spellings of microseconds. -/
def inMilliseconds? (number : Binary64) (unit : List Char) : Option Binary64 :=
  match Unicode.lowerText unit with
  | ['s'] => some (number * .ofNat 1000)
  | ['m', 's'] => some number
  | ['µ', 's'] | ['μ', 's'] | ['u', 's'] => some (number / .ofNat 1000)
  | ['n', 's'] => some (number / .ofNat 1000000)
  | _ => none

/-- The duration in milliseconds that a measurement states, if it states one: the number is read and
brought to milliseconds, and what is then below zero or not finite is none. -/
def duration? (m : Measurement) : Option Binary64 := do
  let number ← Binary64.read? m.number
  let ms ← inMilliseconds? number m.unit
  if ms.isFinite && Binary64.zero.le ms then some ms else none

theorem inMilliseconds?_eq (number : Binary64) (unit : List Char) :
    inMilliseconds? number unit =
      (TimeUnit.read (String.ofList unit)).toOption.map (·.toMilliseconds number) := by
  rw [inMilliseconds?, TimeUnit.read, String.toList_ofList]
  split
  case h_7 =>
    have hnot : Unicode.lowerText unit ∉ spellings := by simp_all [spellings]
    have hnone : TimeUnit.all.find?
        (·.spellings.contains (String.ofList (Unicode.lowerText unit))) = none := by
      refine List.find?_eq_none.mpr fun u _ hcontains => hnot ?_
      have hmem := u.toList_mem_spellings (List.contains_iff_mem.mp hcontains)
      rwa [String.toList_ofList] at hmem
    rw [hnone]
    rfl
  all_goals
    rename_i hlower
    rw [hlower]
    rfl

theorem duration?_eq (m : Measurement) : m.duration? = Readout.duration? m.number m.unit := by
  rw [duration?, Readout.duration?]
  simp only [inMilliseconds?_eq]
  cases Binary64.read? m.number <;> cases TimeUnit.read (String.ofList m.unit) <;> rfl

end Measurement

/-! ### Plain markers -/

/-- Letters and digits of ASCII, spaces and colons. -/
def isPlain (c : Char) : Bool := c.isAlphanum || c == ' ' || c == ':'

/-- A **phrase**: a text of plain characters, at least one. -/
structure Phrase where
  chars : List Char
  ne_nil : chars ≠ []
  plain : ∀ c ∈ chars, isPlain c = true

/-- A **plain marker**: a phrase in front of the measurement, or a phrase and, somewhere behind
it, another one in front of the measurement. -/
inductive PlainMarker where
  | direct (phrase : Phrase)
  | across (first last : Phrase)

namespace PlainMarker

/-- The marker as a pattern. -/
def pattern : PlainMarker → String
  | direct p => String.ofList p.chars
  | across p q => String.ofList (p.chars ++ ['.', '*', '?'] ++ q.chars)

/-- What is found at the first of the places of a text, from one on, at which anything is. -/
def least (text : List Char) (start : Nat) (found? : Nat → Option α) : Option α :=
  (List.range' start (text.length + 1 - start)).findSome? found?

/-- The measurement right behind a phrase that occurs at a place. -/
def behind? (p : Phrase) (text : List Char) (place : Nat) : Option Measurement :=
  if occurs p.chars (text.drop place) then Measurement.at? (text.drop (place + p.chars.length))
  else none

/-- The first place at which a phrase occurs. -/
def place? (p : Phrase) (text : List Char) : Option Nat :=
  (List.range (text.length + 1)).find? fun place => occurs p.chars (text.drop place)

/-- The measurement that a marker leads to. -/
def find? (text : List Char) : PlainMarker → Option Measurement
  | direct p => least text 0 (behind? p text)
  | across p q =>
    match place? p text with
    | none => none
    | some place => least text (place + p.chars.length) (behind? q text)

/-- The duration that a marker leads to. -/
def duration? (text : List Char) (m : PlainMarker) : Option Binary64 :=
  (m.find? text).bind Measurement.duration?

end PlainMarker

/-! ### Plain tables -/

/-- A test of a plain table. -/
structure PlainEntry where
  id : String
  label : String
  marker : PlainMarker

/-- A table whose markers are plain. -/
structure PlainTable where
  tests : List PlainEntry
  total : PlainMarker

namespace PlainTable

/-- The table with its markers as patterns. -/
def toTable (t : PlainTable) : Table where
  tests := t.tests.map fun e => ⟨e.id, e.label, e.marker.pattern⟩
  total := t.total.pattern

/-- What the scanner finds in a text. -/
def scan (t : PlainTable) (text : List Char) : Readout where
  measurements := .ofList <| t.tests.filterMap fun e =>
    (e.marker.duration? text).map fun ms => (e.id, ms)
  total := t.total.duration? text

end PlainTable

/-! ### The standard table -/

namespace Phrase

private theorem isPlain_of_mem_test {n : Nat} {c : Char}
    (h : c ∈ ['T', 'e', 's', 't', ' '] ++ Nat.toDigits 10 n ++ [':']) : isPlain c = true := by
  rw [List.mem_append, List.mem_append, List.mem_singleton] at h
  obtain (h | h) | rfl := h
  · have hword : ['T', 'e', 's', 't', ' '].all isPlain = true := by decide
    exact List.all_eq_true.mp hword c h
  · have hdigit := Nat.isDigit_of_mem_toDigits (by decide) (by decide) h
    simp [isPlain, Char.isAlphanum, hdigit]
  · rfl

/-- The phrase with the number of a test. -/
def test (n : Nat) : Phrase where
  chars := ['T', 'e', 's', 't', ' '] ++ Nat.toDigits 10 n ++ [':']
  ne_nil := by simp
  plain _ := isPlain_of_mem_test

theorem chars_test (n : Nat) :
    (test n).chars = ['T', 'e', 's', 't', ' '] ++ (Nat.toDigits 10 n ++ [':']) :=
  List.append_assoc _ _ _

/-- The phrase in front of the duration of a test. -/
def sure : Phrase :=
  ⟨['S', 'u', 'r', 'e', ':'], by decide, List.all_eq_true.mp (by decide)⟩

/-- The phrase in front of the total. -/
def total : Phrase :=
  ⟨['T', 'O', 'P', 'L', 'A', 'M', ' ', 'S', 'U', 'R', 'E', ':'], by decide,
    List.all_eq_true.mp (by decide)⟩

end Phrase

namespace PlainTable

/-- The identifiers and labels of the standard tests, which are numbered from one on. -/
def standardTests : List (String × String) := [
  ("fibonacci", "Fibonacci(30)"), ("factorial", "Factorial(20)"), ("loop", "Loop 1M"),
  ("nested", "Nested 1000x1000"), ("string", "String 100K"), ("ackermann", "Ackermann(2,3)"),
  ("tak", "Tak(18,12,6)"), ("sieve", "Sieve 100K"), ("bubble_sort", "Bubble Sort 1000"),
  ("array_memory", "Array 100K"), ("string_alloc", "String Alloc 10K"),
  ("struct_build", "Struct Build 10K")]

/-- The standard table as a plain table. -/
def standard : PlainTable where
  tests := standardTests.mapIdx fun i test =>
    ⟨test.1, test.2, .across (.test (i + 1)) .sure⟩
  total := .direct .total

theorem toTable_standard : standard.toTable = Table.standard := by rfl

theorem nodup_ids_standard : (standard.tests.map PlainEntry.id).Nodup := by decide

theorem mem_tests_standard {e : PlainEntry} : e ∈ standard.tests ↔
    ∃ i : Fin standardTests.length,
      e = ⟨standardTests[i].1, standardTests[i].2, .across (.test (i + 1)) .sure⟩ := by
  rw [standard, List.mem_mapIdx]
  constructor
  · rintro ⟨i, hi, rfl⟩
    exact ⟨⟨i, hi⟩, rfl⟩
  · rintro ⟨i, rfl⟩
    exact ⟨i, i.isLt, rfl⟩

end PlainTable

end Timekeeper
