import Timekeeper.Grammar.Basic
import Mathlib.Data.List.Forall2
import Mathlib.Data.List.Perm.Basic

/-!
# What an accepted table is like

The checks of a table, said without their order. A table comes to a grammar exactly if the grammar
**accepts** it (`Grammar.ofTable_eq_ok_iff`): there are tests, their identifiers are not blank and
all different, and each test of the grammar is made of one entry of the table, in the order of
declaration. Whatever is counted or looked up by identifier rests on this.
-/

namespace Timekeeper

theorem exists_of_bind_eq_ok {ε α β : Type} {x : Except ε α} {f : α → Except ε β} {b : β}
    (h : (x >>= f) = .ok b) : ∃ a, x = .ok a ∧ f a = .ok b := by
  cases x with
  | error e => contradiction
  | ok a => exact ⟨a, rfl, h⟩

namespace Grammar

/-- A test is **made of** an entry if it has its identifier, its label and its marker's pattern,
together with the plan of the pattern. -/
structure MadeOf (compiler : Pattern.Compiler) (entry : Entry) (test : Test) : Prop where
  id_eq : test.id = entry.id
  label_eq : test.label = entry.label
  pattern_eq : test.pattern = patternOf entry.marker
  compile_eq : compile entry.id entry.marker compiler = .ok test.plan

/-- What it is for a table to be **accepted** as a grammar. -/
structure Accepts (table : Table) (g : Grammar) (compiler : Pattern.Compiler := Pattern.compile) :
    Prop where
  tests_ne_nil : table.tests ≠ []
  not_blank : ∀ e ∈ table.tests, isBlankId e.id = false
  nodup : (table.tests.map Entry.id).Nodup
  tests : List.Forall₂ (MadeOf compiler) table.tests g.tests
  totalPattern_eq : g.totalPattern = patternOf table.total
  compile_total : compile totalId table.total compiler = .ok g.totalPlan

variable {compiler : Pattern.Compiler}

/-- An entry that comes to a test has an identifier that is not blank and was not there before. -/
private theorem of_testOf_eq_ok {earlier : List Entry} {index : Nat} {entry : Entry} {test : Test}
    (h : testOf compiler earlier index entry = .ok test) :
    isBlankId entry.id = false ∧ (∀ x ∈ earlier, x.id ≠ entry.id) ∧ MadeOf compiler entry test := by
  rw [testOf] at h
  split at h
  · contradiction
  rename_i hblank
  split at h
  · contradiction
  rename_i hany
  obtain ⟨plan, hplan, h⟩ := exists_of_bind_eq_ok h
  obtain rfl := Except.ok.inj h
  exact ⟨Bool.eq_false_iff.mpr hblank, by simpa using hany, rfl, rfl, rfl, hplan⟩

private theorem of_testsOf_eq_ok {entries earlier : List Entry} {tests : List Test}
    (h : testsOf compiler earlier entries = .ok tests) :
    (∀ e ∈ entries, isBlankId e.id = false) ∧ (∀ e ∈ entries, ∀ x ∈ earlier, x.id ≠ e.id) ∧
      (entries.map Entry.id).Nodup ∧ List.Forall₂ (MadeOf compiler) entries tests := by
  induction entries generalizing earlier tests with
  | nil =>
    obtain rfl := Except.ok.inj h
    exact ⟨by simp, by simp, .nil, .nil⟩
  | cons entry entries ih =>
    obtain ⟨test, htest, h⟩ := exists_of_bind_eq_ok h
    obtain ⟨rest, hrest, h⟩ := exists_of_bind_eq_ok h
    obtain rfl := Except.ok.inj h
    obtain ⟨hblank, hnew, hmade⟩ := of_testOf_eq_ok htest
    obtain ⟨hblanks, hnews, hnodup, hmades⟩ := ih hrest
    -- the entry is among the earlier ones of those behind it
    have hfresh : ∀ e ∈ entries, entry.id ≠ e.id :=
      fun e he => hnews e he entry (List.mem_append_right earlier (List.mem_singleton_self entry))
    refine ⟨List.forall_mem_cons.mpr ⟨hblank, hblanks⟩, List.forall_mem_cons.mpr ⟨hnew, ?_⟩, ?_,
      .cons hmade hmades⟩
    · exact fun e he x hx => hnews e he x (List.mem_append_left [entry] hx)
    · refine List.nodup_cons.mpr ⟨fun hmem => ?_, hnodup⟩
      obtain ⟨e, he, heq⟩ := List.mem_map.mp hmem
      exact hfresh e he heq.symm

private theorem testOf_eq_ok {earlier : List Entry} {entry : Entry} {test : Test}
    (hblank : isBlankId entry.id = false) (hnew : ∀ x ∈ earlier, x.id ≠ entry.id)
    (hmade : MadeOf compiler entry test) (index : Nat) :
    testOf compiler earlier index entry = .ok test := by
  have hany : earlier.any (fun x => decide (x.id = entry.id)) = false :=
    List.any_eq_false.mpr fun x hx => by simp [hnew x hx]
  obtain ⟨id, label, pattern, plan⟩ := test
  obtain ⟨rfl, rfl, rfl, hcompile⟩ := hmade
  rw [testOf, if_neg (by simp [hblank]), hany, hcompile]
  rfl

private theorem testsOf_eq_ok {entries earlier : List Entry} {tests : List Test}
    (hblank : ∀ e ∈ entries, isBlankId e.id = false)
    (hnew : ∀ e ∈ entries, ∀ x ∈ earlier, x.id ≠ e.id) (hnodup : (entries.map Entry.id).Nodup)
    (hmade : List.Forall₂ (MadeOf compiler) entries tests) :
    testsOf compiler earlier entries = .ok tests := by
  induction hmade generalizing earlier with
  | nil => rfl
  | @cons entry test entries tests hmade hmades ih =>
    obtain ⟨hfresh, hnodup⟩ := List.nodup_cons.mp hnodup
    obtain ⟨hblank, hblanks⟩ := List.forall_mem_cons.mp hblank
    obtain ⟨hnew, hnews⟩ := List.forall_mem_cons.mp hnew
    have hnews' : ∀ e ∈ entries, ∀ x ∈ earlier ++ [entry], x.id ≠ e.id := by
      intro e he x hx
      obtain hx | hx := List.mem_append.mp hx
      · exact hnews e he x hx
      · rw [List.mem_singleton.mp hx]
        exact fun heq => hfresh (List.mem_map.mpr ⟨e, he, heq.symm⟩)
    rw [testsOf, testOf_eq_ok hblank hnew hmade]
    change (testsOf _ _ _ >>= _) = _
    rw [ih hblanks hnews' hnodup]
    rfl

/-- A table comes to a grammar exactly if it is accepted as that grammar. -/
theorem ofTable_eq_ok_iff {table : Table} {g : Grammar} :
    ofTable table compiler = .ok g ↔ Accepts table g compiler := by
  constructor
  · intro h
    rw [ofTable] at h
    split at h
    · contradiction
    rename_i hne
    obtain ⟨tests, htests, h⟩ := exists_of_bind_eq_ok h
    obtain ⟨total, htotal, h⟩ := exists_of_bind_eq_ok h
    obtain rfl := Except.ok.inj h
    obtain ⟨hblank, -, hnodup, hmade⟩ := of_testsOf_eq_ok htests
    exact ⟨by simpa using hne, hblank, hnodup, hmade, rfl, htotal⟩
  · intro h
    have htests : testsOf compiler [] table.tests = .ok g.tests :=
      testsOf_eq_ok h.not_blank (by simp) h.nodup h.tests
    rw [ofTable, if_neg (by simpa using h.tests_ne_nil), htests]
    change (compile totalId table.total compiler >>= _) = _
    rw [h.compile_total, ← h.totalPattern_eq]
    rfl

namespace Accepts

variable {table : Table} {g : Grammar}

/-- The tests of a grammar have the identifiers that its table declares. -/
theorem ids_eq (h : Accepts table g compiler) : g.tests.map Test.id = table.tests.map Entry.id := by
  have hids : List.Forall₂ (fun test entry => Test.id test = Entry.id entry) g.tests table.tests :=
    h.tests.flip.imp fun _ _ hmade => hmade.id_eq
  rw [← List.forall₂_eq_eq_eq, List.forall₂_map_left_iff, List.forall₂_map_right_iff]
  exact hids

/-- No two tests of a grammar have the same identifier. -/
theorem nodup_ids (h : Accepts table g compiler) : (g.tests.map Test.id).Nodup := h.ids_eq ▸ h.nodup

/-- An accepted table comes to a grammar with tests. -/
theorem grammar_tests_ne_nil (h : Accepts table g compiler) : g.tests ≠ [] := by
  intro hnil
  have hlength := h.tests.length_eq
  rw [hnil, List.length_nil, List.length_eq_zero_iff] at hlength
  exact h.tests_ne_nil hlength

/-- A table has one grammar. -/
theorem unique {g' : Grammar} (h : Accepts table g compiler) (h' : Accepts table g' compiler) :
    g = g' := by
  rw [← ofTable_eq_ok_iff] at h h'
  exact Except.ok.inj (h.symm.trans h')

/-- With its entries in another order, a table is accepted with the tests in that order. -/
theorem exists_of_perm {table' : Table} (h : Accepts table g compiler)
    (htotal : table.total = table'.total) (hperm : table.tests.Perm table'.tests) :
    ∃ g', Accepts table' g' compiler ∧ g.tests.Perm g'.tests ∧ g.totalPlan = g'.totalPlan := by
  obtain ⟨tests, hmade, htests⟩ := List.perm_comp_forall₂ hperm.symm h.tests
  refine ⟨⟨tests, g.totalPattern, g.totalPlan⟩, ?_, htests.symm, rfl⟩
  constructor
  · intro hnil
    exact h.tests_ne_nil (List.Perm.eq_nil (hnil ▸ hperm))
  · intro e he
    exact h.not_blank e (hperm.mem_iff.mpr he)
  · exact (hperm.map Entry.id).nodup_iff.mp h.nodup
  · exact hmade
  · exact htotal ▸ h.totalPattern_eq
  · exact htotal ▸ h.compile_total

/-- With one of its entries alone, a table is accepted with the test made of that entry. -/
theorem exists_alone (h : Accepts table g compiler) {entry : Entry} (he : entry ∈ table.tests) :
    ∃ test ∈ g.tests, MadeOf compiler entry test ∧
      Accepts ⟨[entry], table.total⟩ ⟨[test], g.totalPattern, g.totalPlan⟩ compiler := by
  -- the entry may as well be declared first
  obtain ⟨before, behind, hsplit⟩ := List.append_of_mem he
  let first : Table := ⟨entry :: (before ++ behind), table.total⟩
  have hperm : table.tests.Perm first.tests := hsplit ▸ List.perm_middle
  have htotal : table.total = first.total := rfl
  obtain ⟨g', h', htests, -⟩ := h.exists_of_perm htotal hperm
  obtain ⟨test, rest, hmade, -, hcons⟩ := List.forall₂_cons_left_iff.mp h'.tests
  have hmem : test ∈ g.tests := htests.mem_iff.mpr (hcons ▸ List.mem_cons_self)
  refine ⟨test, hmem, hmade, ?_⟩
  constructor
  · exact List.cons_ne_nil entry []
  · intro e hsingle
    rw [List.mem_singleton.mp hsingle]
    exact h.not_blank entry he
  · exact List.pairwise_singleton _ _
  · exact .cons hmade .nil
  · exact h.totalPattern_eq
  · exact h.compile_total

end Accepts

end Grammar

end Timekeeper
