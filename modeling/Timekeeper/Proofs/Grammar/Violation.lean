import Timekeeper.Proofs.Grammar.Accepted
import Mathlib.Data.List.Nodup

/-!
# The first violation of a table

What a table has to satisfy, and which of its violations is told, both said without the loop that
checks the entries one by one. A table comes to a grammar exactly if it is **valid**, and otherwise
the error is that of its **first violation**: that there are no tests, what is wrong with the least
entry at fault, or, if no entry is at fault, the flaw of the total's marker
(`Grammar.ofTable_tells_first_violation`).

Of one entry a blank identifier is told before a repeated one, and that before a flaw of its marker.
An identifier is repeated if an entry before has it, so of two equal ones the second is at fault.
The total has no entry, and its flaw is told under a name that an entry may have as well.

Which markers are patterns is a matter of the compiler alone. All of this holds for any compiler,
which is given the marker with its flags in front and the tail behind it.
-/

namespace Timekeeper

namespace Grammar

/-- The **whole pattern** of a marker: case does not count and a point stands for any character, and
behind the marker there are a number and a unit, each remembered under its name. -/
def wholePattern (marker : String) : String :=
  "(?is)" ++ marker ++
    "\\s*(?P<value>[-+]?[0-9.]+(?:[eE][-+]?[0-9]+)?)\\s*(?P<unit>ms|µs|μs|us|ns|s)\\b"

theorem patternOf_eq (marker : String) : patternOf marker = wholePattern marker := rfl

/-- What it is for a table to be **valid** where a compiler says which patterns there are. -/
structure IsValid (compiler : Pattern.Compiler) (table : Table) : Prop where
  tests_ne_nil : table.tests ≠ []
  not_blank : ∀ e ∈ table.tests, Text.trim e.id.toList ≠ []
  distinct : table.tests.Pairwise fun a b => a.id ≠ b.id
  compiles : ∀ e ∈ table.tests, ∃ plan, compiler (wholePattern e.marker).toList = .ok plan
  total_compiles : ∃ plan, compiler (wholePattern table.total).toList = .ok plan

/-- What is wrong with an entry at a place of a table, given the entries before it. -/
inductive Violates (compiler : Pattern.Compiler) (earlier : List Entry) (index : Nat)
    (entry : Entry) : GrammarError → Prop
  | blank (h : Text.trim entry.id.toList = []) :
    Violates compiler earlier index entry (.blankId index)
  | repeated (hnot : Text.trim entry.id.toList ≠ []) (h : ∃ e ∈ earlier, e.id = entry.id) :
    Violates compiler earlier index entry (.repeatedId entry.id)
  | marker {flaw : Pattern.Flaw} (hnot : Text.trim entry.id.toList ≠ [])
    (hnew : ∀ e ∈ earlier, e.id ≠ entry.id)
    (h : compiler (wholePattern entry.marker).toList = .error flaw) :
    Violates compiler earlier index entry (.marker entry.id (wholePattern entry.marker) flaw)

/-- The entry at a place is **at fault**. -/
def AtFault (compiler : Pattern.Compiler) (entries : List Entry) (i : Nat) (error : GrammarError) :
    Prop :=
  ∃ entry, entries[i]? = some entry ∧ Violates compiler (entries.take i) i entry error

/-- What the **first violation** of a table is. -/
inductive FirstViolation (compiler : Pattern.Compiler) (table : Table) : GrammarError → Prop
  | noTests (h : table.tests = []) : FirstViolation compiler table .noTests
  | entry {i : Nat} {error : GrammarError} (h : AtFault compiler table.tests i error)
    (hfirst : ∀ j < i, ∀ other, ¬AtFault compiler table.tests j other) :
    FirstViolation compiler table error
  | total {flaw : Pattern.Flaw} (hne : table.tests ≠ [])
    (hnone : ∀ i error, ¬AtFault compiler table.tests i error)
    (h : compiler (wholePattern table.total).toList = .error flaw) :
    FirstViolation compiler table (.marker "total" (wholePattern table.total) flaw)

/-- What a grammar **keeps** of its table. -/
structure Keeps (g : Grammar) (table : Table) : Prop where
  tests_eq : g.tests.map (fun t => (t.id, t.label)) = table.tests.map fun e => (e.id, e.label)
  label?_of_mem : ∀ e ∈ table.tests, g.label? e.id = some e.label
  label?_of_not_mem : ∀ id, (∀ e ∈ table.tests, e.id ≠ id) → g.label? id = none

variable {compiler : Pattern.Compiler}

/-! ### One entry -/

theorem isBlankId_iff {id : String} : isBlankId id = true ↔ Text.trim id.toList = [] := by
  rw [isBlankId, List.isEmpty_iff]

theorem compile_eq_ok_iff {id marker : String} {plan : Pattern.Plan} :
    compile id marker compiler = .ok plan ↔ compiler (patternOf marker).toList = .ok plan := by
  rw [compile]
  split <;> simp [*]

theorem compile_eq_error_iff {id marker : String} {error : GrammarError} :
    compile id marker compiler = .error error ↔ ∃ flaw,
      compiler (wholePattern marker).toList = .error flaw ∧
        error = .marker id (wholePattern marker) flaw := by
  rw [compile, patternOf_eq]
  split <;> simp [*, eq_comm]

/-- The error of an entry tells what is wrong with it. -/
theorem testOf_eq_error_iff {earlier : List Entry} {index : Nat} {entry : Entry}
    {error : GrammarError} :
    testOf compiler earlier index entry = .error error ↔
      Violates compiler earlier index entry error := by
  rw [testOf]
  split
  · rename_i hblank
    rw [isBlankId_iff] at hblank
    constructor
    · intro h
      obtain rfl := Except.error.inj h
      exact .blank hblank
    · rintro (_ | ⟨hnot, -⟩ | ⟨hnot, -, -⟩)
      · rfl
      · contradiction
      · contradiction
  rename_i hblank
  rw [isBlankId_iff] at hblank
  split
  · rename_i hany
    have hrepeated : ∃ e ∈ earlier, e.id = entry.id := by simpa using hany
    constructor
    · intro h
      obtain rfl := Except.error.inj h
      exact .repeated hblank hrepeated
    · rintro (h | _ | ⟨-, hnew, -⟩)
      · contradiction
      · rfl
      · obtain ⟨e, he, heq⟩ := hrepeated
        exact absurd heq (hnew e he)
  rename_i hany
  have hnew : ∀ e ∈ earlier, e.id ≠ entry.id := by simpa using hany
  constructor
  · intro h
    cases hcompile : compile entry.id entry.marker compiler with
    | error e =>
      rw [hcompile] at h
      obtain rfl := Except.error.inj h
      obtain ⟨flaw, hflaw, rfl⟩ := compile_eq_error_iff.mp hcompile
      exact .marker hblank hnew hflaw
    | ok plan =>
      rw [hcompile] at h
      contradiction
  · rintro (h | ⟨-, e, he, heq⟩ | ⟨-, -, hflaw⟩)
    · contradiction
    · exact absurd heq (hnew e he)
    · rw [compile_eq_error_iff.mpr ⟨_, hflaw, rfl⟩]
      rfl

/-! ### All entries -/

/-- The error of several entries is that of the first one at fault, the entries before them included
in what is repeated. -/
theorem testsOf_eq_error_iff {entries earlier : List Entry} {error : GrammarError} :
    testsOf compiler earlier entries = .error error ↔ ∃ i, earlier.length ≤ i ∧
      AtFault compiler (earlier ++ entries) i error ∧
      ∀ j, earlier.length ≤ j → j < i →
        ∀ other, ¬AtFault compiler (earlier ++ entries) j other := by
  induction entries generalizing earlier with
  | nil =>
    refine iff_of_false (by rintro ⟨⟩) ?_
    rintro ⟨i, hi, ⟨entry, hentry, -⟩, -⟩
    rw [List.append_nil, List.getElem?_eq_none hi] at hentry
    contradiction
  | cons first rest ih =>
    have hfirst (other : GrammarError) :
        AtFault compiler (earlier ++ first :: rest) earlier.length other ↔
        testOf compiler earlier earlier.length first = .error other := by
      rw [testOf_eq_error_iff, AtFault, List.getElem?_append_right (Nat.le_refl _), Nat.sub_self,
        List.getElem?_cons_zero, List.take_left]
      exact ⟨by rintro ⟨entry, hentry, h⟩; exact Option.some.inj hentry ▸ h,
        fun h => ⟨first, rfl, h⟩⟩
    rw [testsOf]
    cases htest : testOf compiler earlier earlier.length first with
    | error e =>
      constructor
      · intro h
        obtain rfl : e = error := Except.error.inj h
        exact ⟨earlier.length, Nat.le_refl _, (hfirst e).mpr htest, fun j hj hlt => by omega⟩
      · rintro ⟨i, hi, hfault, hnone⟩
        obtain rfl | hlt := Nat.eq_or_lt_of_le hi
        · have hsame := htest.symm.trans ((hfirst error).mp hfault)
          obtain rfl := Except.error.inj hsame
          rfl
        · exact absurd ((hfirst e).mpr htest) (hnone _ (Nat.le_refl _) hlt e)
    | ok test =>
      have hfine (other : GrammarError) :
          ¬AtFault compiler (earlier ++ first :: rest) earlier.length other := by
        rw [hfirst, htest]
        rintro ⟨⟩
      have hrest : (testsOf compiler (earlier ++ [first]) rest >>= fun tests =>
          Except.ok (test :: tests)) = .error error ↔
          testsOf compiler (earlier ++ [first]) rest = .error error := by
        cases testsOf compiler (earlier ++ [first]) rest with
        | error e => rfl
        | ok tests => exact iff_of_false (by rintro ⟨⟩) (by rintro ⟨⟩)
      refine hrest.trans ?_
      rw [ih, List.append_assoc, List.singleton_append, List.length_append, List.length_singleton]
      constructor
      · rintro ⟨i, hi, hfault, hnone⟩
        refine ⟨i, by omega, hfault, fun j hj hlt other => ?_⟩
        obtain rfl | hj := Nat.eq_or_lt_of_le hj
        · exact hfine other
        · exact hnone j hj hlt other
      · rintro ⟨i, hi, hfault, hnone⟩
        obtain rfl | hi := Nat.eq_or_lt_of_le hi
        · exact absurd hfault (hfine error)
        · exact ⟨i, hi, hfault, fun j hj => hnone j (by omega)⟩

/-- The error of all entries is that of the first one at fault. -/
theorem testsOf_nil_eq_error_iff {entries : List Entry} {error : GrammarError} :
    testsOf compiler [] entries = .error error ↔
      ∃ i, AtFault compiler entries i error ∧
        ∀ j < i, ∀ other, ¬AtFault compiler entries j other := by
  rw [testsOf_eq_error_iff]
  simp only [List.length_nil, Nat.zero_le, List.nil_append, true_and, forall_const]

/-- Where the entries come to tests, none is at fault. -/
theorem not_atFault_of_testsOf_eq_ok {entries : List Entry} {tests : List Test}
    (h : testsOf compiler [] entries = .ok tests) (i : Nat) (error : GrammarError) :
    ¬AtFault compiler entries i error := by
  induction i using Nat.strongRecOn generalizing error with
  | ind i ih =>
    intro hfault
    have herror := testsOf_nil_eq_error_iff.mpr ⟨i, hfault, ih⟩
    rw [h] at herror
    contradiction

/-! ### The table -/

/-- The error of a table is its first violation. -/
theorem ofTable_eq_error_iff {table : Table} {error : GrammarError} :
    ofTable table compiler = .error error ↔ FirstViolation compiler table error := by
  rw [ofTable]
  split
  · rename_i hempty
    have hnil : table.tests = [] := List.isEmpty_iff.mp hempty
    constructor
    · intro h
      obtain rfl := Except.error.inj h
      exact .noTests hnil
    · rintro (_ | ⟨⟨entry, hentry, -⟩, -⟩ | ⟨hne, -, -⟩)
      · rfl
      · rw [hnil] at hentry
        contradiction
      · contradiction
  rename_i hempty
  have hne : table.tests ≠ [] := fun hnil => hempty (List.isEmpty_iff.mpr hnil)
  cases htests : testsOf compiler [] table.tests with
  | error e =>
    obtain ⟨i, hfault, hfirst⟩ := testsOf_nil_eq_error_iff.mp htests
    have hviolation : FirstViolation compiler table error ↔ e = error := by
      constructor
      · rintro (hnil | ⟨hfault', hfirst'⟩ | ⟨-, hnone, -⟩)
        · contradiction
        · have herror := testsOf_nil_eq_error_iff.mpr ⟨_, hfault', hfirst'⟩
          exact Except.error.inj (htests.symm.trans herror)
        · exact absurd hfault (hnone i e)
      · rintro rfl
        exact .entry hfault hfirst
    rw [hviolation]
    exact ⟨Except.error.inj, congrArg _⟩
  | ok tests =>
    have hnone := not_atFault_of_testsOf_eq_ok htests
    have hviolation : FirstViolation compiler table error ↔
        compile totalId table.total compiler = .error error := by
      rw [compile_eq_error_iff]
      constructor
      · rintro (hnil | ⟨hfault, -⟩ | ⟨-, -, hflaw⟩)
        · contradiction
        · exact absurd hfault (hnone _ _)
        · exact ⟨_, hflaw, rfl⟩
      · rintro ⟨flaw, hflaw, rfl⟩
        exact .total hne hnone hflaw
    rw [hviolation]
    cases compile totalId table.total compiler with
    | error e =>
      exact ⟨fun h => congrArg _ (Except.error.inj h), fun h => congrArg _ (Except.error.inj h)⟩
    | ok plan => exact iff_of_false (by rintro ⟨⟩) (by rintro ⟨⟩)

/-- A valid table has no violation. -/
theorem IsValid.not_firstViolation {table : Table} (h : IsValid compiler table)
    (error : GrammarError) : ¬FirstViolation compiler table error := by
  rintro (hnil | ⟨⟨entry, hentry, hviolates⟩, -⟩ | ⟨-, -, hflaw⟩)
  · exact h.tests_ne_nil hnil
  · have hmem := List.mem_of_getElem? hentry
    obtain hblank | ⟨-, e, he, heq⟩ | ⟨-, -, hflaw⟩ := hviolates
    · exact h.not_blank entry hmem hblank
    · obtain ⟨j, hj, rfl⟩ := List.mem_take_iff_getElem.mp he
      obtain ⟨hi, rfl⟩ := List.getElem?_eq_some_iff.mp hentry
      have hdistinct := List.pairwise_iff_getElem.mp h.distinct
      exact hdistinct j _ (by omega) hi (by omega) heq
    · obtain ⟨plan, hplan⟩ := h.compiles entry hmem
      rw [hplan] at hflaw
      contradiction
  · obtain ⟨plan, hplan⟩ := h.total_compiles
    rw [hplan] at hflaw
    contradiction

theorem Accepts.isValid {table : Table} {g : Grammar} (h : Accepts table g compiler) :
    IsValid compiler table where
  tests_ne_nil := h.tests_ne_nil
  not_blank e he := by
    rw [ne_eq, ← isBlankId_iff, h.not_blank e he]
    exact Bool.false_ne_true
  distinct := List.pairwise_map.mp h.nodup
  compiles e he := by
    obtain ⟨test, -, hmade, -⟩ := h.exists_alone he
    exact ⟨test.plan, compile_eq_ok_iff.mp hmade.compile_eq⟩
  total_compiles := ⟨g.totalPlan, compile_eq_ok_iff.mp h.compile_total⟩

/-- A grammar keeps the tests of its table. -/
theorem Accepts.keeps {table : Table} {g : Grammar} (h : Accepts table g compiler) :
    Keeps g table where
  tests_eq := by
    have hsame : List.Forall₂ (fun test entry => (Test.id test, Test.label test) =
        (Entry.id entry, Entry.label entry)) g.tests table.tests :=
      h.tests.flip.imp fun _ _ hmade => by rw [hmade.id_eq, hmade.label_eq]
    rw [← List.forall₂_eq_eq_eq, List.forall₂_map_left_iff, List.forall₂_map_right_iff]
    exact hsame
  label?_of_mem e he := by
    obtain ⟨test, htest, hmade, -⟩ := h.exists_alone he
    obtain ⟨found, hfound⟩ : ∃ found, g.tests.find? (·.id = e.id) = some found := by
      rw [← Option.isSome_iff_exists, List.find?_isSome]
      exact ⟨test, htest, decide_eq_true hmade.id_eq⟩
    -- the test found is the only one with this identifier
    have hid : found.id = e.id := by simpa using List.find?_some hfound
    obtain rfl := List.inj_on_of_nodup_map h.nodup_ids (List.mem_of_find?_eq_some hfound) htest
      (hid.trans hmade.id_eq.symm)
    rw [label?, hfound, Option.map_some, hmade.label_eq]
  label?_of_not_mem id hid := by
    rw [label?, Option.map_eq_none_iff, List.find?_eq_none]
    intro test htest
    have hmem : test.id ∈ table.tests.map Entry.id := h.ids_eq ▸ List.mem_map_of_mem htest
    obtain ⟨e, he, heq⟩ := List.mem_map.mp hmem
    rw [decide_eq_true_eq, ← heq]
    exact hid e he

/-- Whatever compiles the markers, a table comes to a grammar exactly if it is valid, which then
keeps its tests, and otherwise the error is that of its first violation. -/
theorem ofTable_tells_first_violation (compiler : Pattern.Compiler) (table : Table) :
    ((∃ g, ofTable table compiler = .ok g) ↔ IsValid compiler table) ∧
      (∀ g, ofTable table compiler = .ok g → Keeps g table) ∧
      ∀ error, ofTable table compiler = .error error ↔ FirstViolation compiler table error := by
  refine ⟨⟨?_, fun hvalid => ?_⟩, fun g hg => (ofTable_eq_ok_iff.mp hg).keeps,
    fun error => ofTable_eq_error_iff⟩
  · rintro ⟨g, hg⟩
    exact (ofTable_eq_ok_iff.mp hg).isValid
  · cases htable : ofTable table compiler with
    | error e => exact absurd (ofTable_eq_error_iff.mp htable) (hvalid.not_firstViolation e)
    | ok g => exact ⟨g, rfl⟩

end Grammar

end Timekeeper
