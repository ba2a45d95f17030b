import Timekeeper.Proofs.Grammar.Violation
import Timekeeper.Proofs.Json.Passing

/-!
# Loading a stored table

A text **renders** a table if it is a JSON object that has the members of the table once each, in
any order and among any others, and so on for its tests; blanks may stand between any two parts, and
strings may be spelled in every way (`Table.IsRendered`). Each table is rendered by some text
(`Table.exists_isRendered`).

Whatever text renders a table, that table is loaded from it (`Table.ofDocument_eq_ok`), so it comes
to the same grammar, or to the same error, as the table itself, and the form of the text is never at
fault (`Grammar.ofDocument_eq_ofTable`). The loop over members keeps what has been read in a draft;
of each member either that is known, or it is still to come exactly once (`Fills`). One member is
one step (`entryMembers_step`, `tableMembers_step`), and the loop over all of them is an induction
that knows of a draft only that it awaits the rest (`ComesTo.reads`).
-/

namespace Timekeeper

open Json

/-! ### Texts that store a table -/

/-- A text that spells a string. -/
def Spells (s : String) (text : List Char) : Prop := SpellsString s.toList text

/-- The texts of the values that members of an object have under a name. -/
def valuesOf (name : String) (members : List (String × List Char)) : List (List Char) :=
  (members.filter (·.1 = name)).map Prod.snd

/-- Exactly one member has a name, and its value is written in a way. -/
def HasOnce (name : String) (members : List (String × List Char)) (written : List Char → Prop) :
    Prop :=
  ∃ value, valuesOf name members = [value] ∧ written value

/-- The members of an object that stores a test, in any order and among others. -/
structure StoresEntry (e : Entry) (members : List (String × List Char)) : Prop where
  id : HasOnce "id" members (Spells e.id)
  label : HasOnce "label" members (Spells e.label)
  marker : HasOnce "marker" members (Spells e.marker)
  others : ∀ m ∈ members, m.1 ∉ ["id", "label", "marker"] → IsValue m.2

/-- A text that **renders** a test. -/
def Entry.IsRendered (e : Entry) (text : List Char) : Prop :=
  ∃ members, IsObject Spells members text ∧ StoresEntry e members

theorem Entry.IsRendered.begins {e : Entry} {text : List Char} (h : e.IsRendered text) :
    Begins text := by
  obtain ⟨members, hobject, -⟩ := h
  cases hobject <;> exact ⟨'\x7b', _, rfl, by decide⟩

/-- A text that renders a list of tests. -/
def EntriesRendered : List Entry → List Char → Prop := Enclosed '[' ']' Entry.IsRendered

/-- The members of an object that stores a table, in any order and among others. -/
structure StoresTable (table : Table) (members : List (String × List Char)) : Prop where
  tests : HasOnce "tests" members (EntriesRendered table.tests)
  total : HasOnce "total" members (Spells table.total)
  others : ∀ m ∈ members, m.1 ∉ ["tests", "total"] → IsValue m.2

/-- A text that **renders** a table. -/
def Table.IsRendered (table : Table) (text : List Char) : Prop :=
  ∃ before members object behind, Blanks before ∧ IsObject Spells members object ∧
    StoresTable table members ∧ Blanks behind ∧ text = before ++ (object ++ behind)

/-- Any members can be written as an object. -/
theorem exists_isObject (members : List (String × List Char)) :
    ∃ text, IsObject Spells members text := by
  refine exists_enclosed fun m _ => ?_
  obtain ⟨key, hkey⟩ := exists_spellsString m.1.toList
  exact ⟨_, .mk hkey (List.forall_mem_nil _) (List.forall_mem_nil _)⟩

theorem Entry.exists_isRendered (e : Entry) : ∃ text, e.IsRendered text := by
  obtain ⟨id, hid⟩ := exists_spellsString e.id.toList
  obtain ⟨label, hlabel⟩ := exists_spellsString e.label.toList
  obtain ⟨marker, hmarker⟩ := exists_spellsString e.marker.toList
  obtain ⟨text, htext⟩ := exists_isObject [("id", id), ("label", label), ("marker", marker)]
  exact ⟨text, _, htext, ⟨id, rfl, hid⟩, ⟨label, rfl, hlabel⟩, ⟨marker, rfl, hmarker⟩, by simp⟩

/-- Every table is rendered by some text. -/
theorem Table.exists_isRendered (table : Table) :
    ∃ text : String, table.IsRendered text.toList := by
  obtain ⟨tests, htests⟩ : ∃ text, EntriesRendered table.tests text :=
    exists_enclosed fun e _ => e.exists_isRendered
  obtain ⟨total, htotal⟩ := exists_spellsString table.total.toList
  obtain ⟨object, hobject⟩ := exists_isObject [("tests", tests), ("total", total)]
  refine ⟨String.ofList object, [], _, object, [], List.forall_mem_nil _, hobject,
    ⟨⟨tests, rfl, htests⟩, ⟨total, rfl, htotal⟩, by simp⟩, List.forall_mem_nil _, ?_⟩
  rw [String.toList_ofList, List.nil_append, List.append_nil]

namespace Table

variable {s t b : List Char} {name : String}

/-! ### Steps -/

theorem reads_expectString {str : String} {text : List Char} (h : Spells str text)
    (hb : Blanks b) : Reads expectString (b ++ (text ++ s)) s str := by
  refine (reads_skip hb (h.begins.append s).stops).bind ?_
  have hreads := SpellsString.reads h (s := s)
  obtain ⟨pieces, -, rfl⟩ := h
  refine hreads.bind ?_
  rw [String.ofList_toList]
  exact reads_pure str

/-- What comes before an item: blanks, and a comma if it is not the first one. -/
inductive Lead : Bool → List Char → Prop
  | first {b : List Char} (hb : Blanks b) : Lead true b
  | next {b b' : List Char} (hb : Blanks b) (hb' : Blanks b') : Lead false (b ++ ',' :: b')

theorem reads_nextKey? {first : Bool} {lead key : List Char} (hlead : Lead first lead)
    (hkey : Spells name key) : Reads (nextKey? first) (lead ++ (key ++ s)) s (some name) := by
  have hstops := (hkey.begins.append s).stops
  have hreads := SpellsString.reads hkey (s := s)
  obtain ⟨pieces, -, rfl⟩ := hkey
  have hfound : Reads (do return some (String.ofList (← string)))
      ('"' :: (pieces.flatten ++ ['"']) ++ s) s (some name) := by
    refine hreads.bind ?_
    rw [String.ofList_toList]
    exact reads_pure (some name)
  cases hlead with
  | first hb => exact (reads_skip hb hstops).bind hfound
  | next hb hb' =>
    rw [List.append_assoc]
    exact (reads_skip hb (stops_cons rfl)).bind
      ((reads_advance ',').bind ((reads_skip hb' hstops).bind hfound))

theorem reads_nextKey?_none (first : Bool) (hb : Blanks b) :
    Reads (nextKey? first) (b ++ '\x7d' :: s) ('\x7d' :: s) none :=
  (reads_skip hb (stops_cons rfl)).bind (reads_pure none)

theorem reads_nextElement {first : Bool} {lead : List Char} (hlead : Lead first lead)
    (hs : Begins s) : Reads (nextElement first) (lead ++ s) s true := by
  have hne := hs.head?_ne .list
  have hstops := hs.stops
  obtain ⟨c, rest, rfl, -⟩ := hs
  cases hlead with
  | first hb =>
    refine (reads_skip hb hstops).bind ?_
    split
    · contradiction
    · exact absurd ‹_› hne
    · exact reads_pure true
  | next hb hb' =>
    rw [List.append_assoc]
    refine (reads_skip hb (stops_cons rfl)).bind
      ((reads_advance ',').bind ((reads_skip hb' hstops).bind ?_))
    split
    · contradiction
    · exact absurd ‹_› hne
    · exact reads_pure true

theorem reads_nextElement_false (first : Bool) (hb : Blanks b) :
    Reads (nextElement first) (b ++ ']' :: s) (']' :: s) false :=
  (reads_skip hb (stops_cons rfl)).bind (reads_pure false)

theorem reads_member {α : Type} {read : Reading α} {a : α} (hb : Blanks b) (h : Reads read s t a) :
    Reads (member name none read) (b ++ ':' :: s) t (.ok (some a)) :=
  (reads_colon hb).bind (h.bind (reads_pure _))

/-! ### Members -/

/-- What a member has been read to, or will be. -/
inductive Fills {α : Type} (name : String) (written : α → List Char → Prop) (a : α) :
    Option α → List (String × List Char) → Prop
  | done {members : List (String × List Char)} (h : valuesOf name members = []) :
    Fills name written a (some a) members
  | due {members : List (String × List Char)} (h : HasOnce name members (written a)) :
    Fills name written a none members

section Fills

variable {α : Type} {written : α → List Char → Prop} {a : α} {old : Option α}
  {members : List (String × List Char)} {value : List Char}

theorem Fills.eq_some (h : Fills name written a old []) : old = some a := by
  cases h with
  | done => rfl
  | due h =>
    obtain ⟨value, heq, -⟩ := h
    cases heq

theorem Fills.tail_of_ne {other : String} (hne : other ≠ name)
    (h : Fills name written a old ((other, value) :: members)) :
    Fills name written a old members := by
  have hvalues : valuesOf name ((other, value) :: members) = valuesOf name members := by
    rw [valuesOf, List.filter_cons_of_neg (by simpa using hne), valuesOf]
  cases h with
  | done h => exact .done (hvalues ▸ h)
  | due h => exact .due (by rwa [HasOnce, hvalues] at h)

theorem Fills.head (h : Fills name written a old ((name, value) :: members)) :
    old = none ∧ written a value ∧ Fills name written a (some a) members := by
  have hvalues : valuesOf name ((name, value) :: members) = value :: valuesOf name members := by
    rw [valuesOf, List.filter_cons_of_pos (by simp), valuesOf, List.map_cons]
  cases h with
  | done h =>
    rw [hvalues] at h
    contradiction
  | due h =>
    obtain ⟨w, heq, hw⟩ := h
    rw [hvalues] at heq
    obtain ⟨rfl, hnone⟩ := List.cons.inj heq
    exact ⟨rfl, hw, .done hnone⟩

end Fills

/-! ### Objects -/

/-- A loop over the members of an object that **comes to** a result, if drafts await what they
should: it finishes behind the last member, and reads each one to a draft that awaits the others. -/
structure ComesTo {ρ δ : Type} (read : Nat → Bool → δ → Reading (Except Cause ρ)) (result : ρ)
    (Awaits : δ → List (String × List Char) → Prop) : Prop where
  finish : ∀ {n first d b s}, Awaits d [] → Blanks b →
    Reads (read (n + 1) first d) (b ++ '\x7d' :: s) ('\x7d' :: s) (.ok result)
  step : ∀ {first d m members lead text s}, Awaits d (m :: members) → Lead first lead →
    IsMember Spells m text → Ends s → ∃ d', Awaits d' members ∧
      ∀ {n t r}, Reads (read n false d') s t r →
        Reads (read (n + 1) first d) (lead ++ (text ++ s)) t r

section Loop

variable {ρ δ : Type} {read : Nat → Bool → δ → Reading (Except Cause ρ)} {result : ρ}
  {Awaits : δ → List (String × List Char) → Prop} {d : δ} {members : List (String × List Char)}
  {text : List Char} {n : Nat}

theorem ComesTo.reads (h : ComesTo read result Awaits)
    (hmembers : Listed (IsMember Spells) members text) {first : Bool} {lead : List Char}
    (hn : members.length < n) (hd : Awaits d members) (hlead : Lead first lead) :
    Reads (read n first d) (lead ++ (text ++ '\x7d' :: s)) ('\x7d' :: s) (.ok result) := by
  induction hmembers generalizing n first d lead with
  | @last m text b hm hb =>
    obtain ⟨k, rfl⟩ := Nat.exists_eq_add_one.mpr (Nat.zero_lt_of_lt hn)
    obtain ⟨l, rfl⟩ := Nat.exists_eq_add_one.mpr (Nat.lt_of_succ_lt_succ hn)
    have hends : Ends ('\x7d' :: s) := ends_cons (by decide)
    obtain ⟨d', hd', hread⟩ := h.step hd hlead hm (hends.append hb)
    rw [List.append_assoc]
    exact hread (h.finish hd' hb)
  | @cons m members text b b' rest hm hb hb' _ ih =>
    obtain ⟨k, rfl⟩ := Nat.exists_eq_add_one.mpr (Nat.zero_lt_of_lt hn)
    have hends : Ends (',' :: (b' ++ (rest ++ '\x7d' :: s))) := ends_cons (by decide)
    obtain ⟨d', hd', hread⟩ := h.step hd hlead hm (hends.append hb)
    have hrest := ih (Nat.lt_of_succ_lt_succ hn) hd' (.next hb hb')
    simp only [List.append_assoc, List.cons_append] at hrest ⊢
    exact hread hrest

/-- An object is read as the loop over its members comes to a result. -/
theorem ComesTo.reads_record (h : ComesTo read result Awaits) {expected : String}
    {elements : Reading (Except Cause ρ)} (hobject : IsObject Spells members text)
    (hn : text.length ≤ n) (hd : Awaits d members) (hb : Blanks b) :
    Reads (record expected (read n true d) elements) (b ++ (text ++ s)) s result := by
  have hclose {s : List Char} : Reads closeObject ('\x7d' :: s) s PUnit.unit :=
    (reads_skip blanks_nil (stops_cons rfl)).bind (reads_advance _)
  have hread {t : List Char} (hmembers : Reads (read n true d) t ('\x7d' :: s) (.ok result)) :
      Reads (object (read n true d)) ('\x7b' :: t) s result :=
    (reads_advance _).bind (hmembers.bind (hclose.bind (reads_pure result)))
  cases hobject with
  | @empty b' hb' =>
    obtain ⟨k, rfl⟩ := Nat.exists_eq_add_one.mpr (Nat.zero_lt_of_lt hn)
    rw [List.cons_append, List.append_assoc, List.singleton_append]
    exact (reads_skip hb (stops_cons rfl)).bind (hread (h.finish hd hb'))
  | @items _ b' text hb' hitems =>
    have hlength := hitems.length_le fun _ _ hm => hm.length_pos
    simp only [List.length_append, List.length_cons] at hn
    have hlt : members.length < n := by omega
    have hmembers := h.reads hitems (s := s) hlt hd (.first hb')
    simp only [List.append_assoc, List.cons_append, List.nil_append]
    exact (reads_skip hb (stops_cons rfl)).bind (hread hmembers)

end Loop

/-! ### Tests -/

/-- What is left of the members of a test, given what has been read. -/
structure EntryDraft.Awaits (d : EntryDraft) (e : Entry) (members : List (String × List Char)) :
    Prop where
  id : Fills "id" Spells e.id d.id members
  label : Fills "label" Spells e.label d.label members
  marker : Fills "marker" Spells e.marker d.marker members
  others : ∀ m ∈ members, m.1 ∉ ["id", "label", "marker"] → IsValue m.2

theorem EntryDraft.Awaits.finish_eq {d : EntryDraft} {e : Entry} (h : d.Awaits e []) :
    d.finish = .ok e := by
  rw [finish, h.id.eq_some, h.label.eq_some, h.marker.eq_some]
  rfl

theorem entryMembers_step {first : Bool} {d : EntryDraft} {e : Entry}
    {m : String × List Char} {members : List (String × List Char)} {lead text : List Char}
    (h : d.Awaits e (m :: members)) (hlead : Lead first lead) (hm : IsMember Spells m text)
    (hs : Ends s) :
    ∃ d' : EntryDraft, d'.Awaits e members ∧ ∀ {n t r}, Reads (entryMembers n false d') s t r →
      Reads (entryMembers (n + 1) first d) (lead ++ (text ++ s)) t r := by
  obtain @⟨name, key, b, b', value, hkey, hb, hb'⟩ := hm
  simp only [List.append_assoc, List.cons_append, entryMembers]
  have hothers : ∀ m ∈ members, m.1 ∉ ["id", "label", "marker"] → IsValue m.2 :=
    fun m hm => h.others m (List.mem_cons_of_mem _ hm)
  by_cases hid : name = "id"
  · subst hid
    obtain ⟨hnone, hspells, hid⟩ := h.id.head
    refine ⟨{ d with id := some e.id }, ⟨hid, h.label.tail_of_ne (by decide),
      h.marker.tail_of_ne (by decide), hothers⟩, fun hrest => ?_⟩
    rw [hnone]
    exact (reads_nextKey? hlead hkey).bind
      ((reads_member hb (reads_expectString hspells hb')).bind hrest)
  by_cases hlabel : name = "label"
  · subst hlabel
    obtain ⟨hnone, hspells, hlabel⟩ := h.label.head
    refine ⟨{ d with label := some e.label }, ⟨h.id.tail_of_ne (by decide), hlabel,
      h.marker.tail_of_ne (by decide), hothers⟩, fun hrest => ?_⟩
    rw [hnone]
    exact (reads_nextKey? hlead hkey).bind
      ((reads_member hb (reads_expectString hspells hb')).bind hrest)
  by_cases hmarker : name = "marker"
  · subst hmarker
    obtain ⟨hnone, hspells, hmarker⟩ := h.marker.head
    refine ⟨{ d with marker := some e.marker }, ⟨h.id.tail_of_ne (by decide),
      h.label.tail_of_ne (by decide), hmarker, hothers⟩, fun hrest => ?_⟩
    rw [hnone]
    exact (reads_nextKey? hlead hkey).bind
      ((reads_member hb (reads_expectString hspells hb')).bind hrest)
  · have hvalue : IsValue value :=
      h.others _ List.mem_cons_self (by simp [hid, hlabel, hmarker])
    refine ⟨d, ⟨h.id.tail_of_ne hid, h.label.tail_of_ne hlabel, h.marker.tail_of_ne hmarker,
      hothers⟩, fun hrest => (reads_nextKey? hlead hkey).bind ?_⟩
    split
    · contradiction
    · exact absurd (Option.some.inj ‹_›) hid
    · exact absurd (Option.some.inj ‹_›) hlabel
    · exact absurd (Option.some.inj ‹_›) hmarker
    · exact (reads_colon hb).bind ((hvalue.reads hb' hs).bind hrest)

/-- The loop over the members of a test comes to the test. -/
theorem comesTo_entryMembers (e : Entry) :
    ComesTo entryMembers e (EntryDraft.Awaits · e ·) where
  finish hd hb := by
    rw [entryMembers]
    refine (reads_nextKey?_none _ hb).bind ?_
    rw [hd.finish_eq]
    exact reads_pure _
  step hd hlead hm hs := entryMembers_step hd hlead hm hs

theorem reads_entry {e : Entry} {text : List Char} (h : e.IsRendered text) (hb : Blanks b) :
    Reads entry (b ++ (text ++ s)) s e := by
  obtain ⟨members, hobject, hid, hlabel, hmarker, hothers⟩ := h
  refine Reads.bind_get fun p => ?_
  refine (comesTo_entryMembers e).reads_record hobject ?_
    ⟨.due hid, .due hlabel, .due hmarker, hothers⟩ hb
  simp only [List.length_append]
  omega

theorem reads_entriesFrom {es read : List Entry} {text lead : List Char} {n : Nat}
    (h : Listed Entry.IsRendered es text) (hn : es.length < n) (hlead : Lead read.isEmpty lead) :
    Reads (entriesFrom n read) (lead ++ (text ++ ']' :: s)) (']' :: s) (read.reverse ++ es) := by
  induction h generalizing n read lead with
  | @last e text b he hb =>
    obtain ⟨k, rfl⟩ := Nat.exists_eq_add_one.mpr (Nat.zero_lt_of_lt hn)
    obtain ⟨l, rfl⟩ := Nat.exists_eq_add_one.mpr (Nat.lt_of_succ_lt_succ hn)
    rw [entriesFrom, List.append_assoc]
    refine (reads_nextElement hlead (he.begins.append _)).bind
      ((reads_entry he blanks_nil).bind ?_)
    rw [entriesFrom]
    rw [← List.reverse_cons]
    exact (reads_nextElement_false _ hb).bind (reads_pure _)
  | @cons e es text b b' rest he hb hb' _ ih =>
    obtain ⟨k, rfl⟩ := Nat.exists_eq_add_one.mpr (Nat.zero_lt_of_lt hn)
    rw [entriesFrom]
    simp only [List.append_assoc, List.cons_append]
    refine (reads_nextElement hlead (he.begins.append _)).bind
      ((reads_entry he blanks_nil).bind ?_)
    have hnext : Lead (e :: read).isEmpty (b ++ ',' :: b') := .next hb hb'
    have hrest := ih (Nat.lt_of_succ_lt_succ hn) hnext
    simp only [List.append_assoc, List.cons_append, List.reverse_cons, List.nil_append] at hrest
    exact hrest

theorem reads_entries {es : List Entry} {text : List Char} (h : EntriesRendered es text)
    (hb : Blanks b) : Reads entries (b ++ (text ++ s)) s es := by
  have hclose {s : List Char} : Reads closeList (']' :: s) s PUnit.unit :=
    (reads_skip blanks_nil (stops_cons rfl)).bind (reads_advance _)
  have hread {t : List Char} (htests : ∀ n ≥ t.length, Reads (entriesFrom n []) t (']' :: s) es) :
      Reads entries (b ++ '[' :: t) s es := by
    have helements : Reads (do return .ok (← entriesFrom ('[' :: t).length [])) t (']' :: s)
        (.ok es : Except Cause (List Entry)) :=
      (htests _ (Nat.le_succ _)).bind (reads_pure _)
    exact (reads_skip hb (stops_cons rfl)).bind (Reads.bind_get fun _ =>
      (reads_advance _).bind (helements.bind (hclose.bind (reads_pure es))))
  cases h with
  | @empty b' hb' =>
    rw [List.cons_append, List.append_assoc, List.singleton_append]
    refine hread fun n hn => ?_
    rw [List.length_append, List.length_cons] at hn
    obtain ⟨k, rfl⟩ : ∃ k, n = k + 1 := ⟨n - 1, by omega⟩
    exact (reads_nextElement_false _ hb').bind (reads_pure [])
  | @items _ b' text hb' hitems =>
    simp only [List.append_assoc, List.cons_append, List.nil_append]
    refine hread fun n hn => ?_
    have hlength := hitems.length_le fun e _ he => by
      obtain ⟨c, rest, rfl, -⟩ := he.begins
      exact Nat.succ_pos _
    simp only [List.length_append, List.length_cons] at hn
    exact reads_entriesFrom hitems (by omega) (.first hb')

/-! ### Tables -/

/-- What is left of the members of a table, given what has been read. -/
structure Draft.Awaits (d : Draft) (table : Table) (members : List (String × List Char)) :
    Prop where
  tests : Fills "tests" EntriesRendered table.tests d.tests members
  total : Fills "total" Spells table.total d.total members
  others : ∀ m ∈ members, m.1 ∉ ["tests", "total"] → IsValue m.2

theorem Draft.Awaits.finish_eq {d : Draft} {table : Table} (h : d.Awaits table []) :
    d.finish = .ok table := by
  rw [finish, h.tests.eq_some, h.total.eq_some]
  rfl

theorem tableMembers_step {first : Bool} {d : Draft} {table : Table}
    {m : String × List Char} {members : List (String × List Char)} {lead text : List Char}
    (h : d.Awaits table (m :: members)) (hlead : Lead first lead) (hm : IsMember Spells m text)
    (hs : Ends s) :
    ∃ d' : Draft, d'.Awaits table members ∧ ∀ {n t r}, Reads (tableMembers n false d') s t r →
      Reads (tableMembers (n + 1) first d) (lead ++ (text ++ s)) t r := by
  obtain @⟨name, key, b, b', value, hkey, hb, hb'⟩ := hm
  simp only [List.append_assoc, List.cons_append, tableMembers]
  have hothers : ∀ m ∈ members, m.1 ∉ ["tests", "total"] → IsValue m.2 :=
    fun m hm => h.others m (List.mem_cons_of_mem _ hm)
  by_cases htests : name = "tests"
  · subst htests
    obtain ⟨hnone, hrendered, htests⟩ := h.tests.head
    refine ⟨{ d with tests := some table.tests }, ⟨htests, h.total.tail_of_ne (by decide), hothers⟩,
      fun hrest => ?_⟩
    rw [hnone]
    exact (reads_nextKey? hlead hkey).bind
      ((reads_member hb (reads_entries hrendered hb')).bind hrest)
  by_cases htotal : name = "total"
  · subst htotal
    obtain ⟨hnone, hspells, htotal⟩ := h.total.head
    refine ⟨{ d with total := some table.total }, ⟨h.tests.tail_of_ne (by decide), htotal, hothers⟩,
      fun hrest => ?_⟩
    rw [hnone]
    exact (reads_nextKey? hlead hkey).bind
      ((reads_member hb (reads_expectString hspells hb')).bind hrest)
  · have hvalue : IsValue value := h.others _ List.mem_cons_self (by simp [htests, htotal])
    refine ⟨d, ⟨h.tests.tail_of_ne htests, h.total.tail_of_ne htotal, hothers⟩,
      fun hrest => (reads_nextKey? hlead hkey).bind ?_⟩
    split
    · contradiction
    · exact absurd (Option.some.inj ‹_›) htests
    · exact absurd (Option.some.inj ‹_›) htotal
    · exact (reads_colon hb).bind ((hvalue.reads hb' hs).bind hrest)

/-- The loop over the members of a table comes to the table. -/
theorem comesTo_tableMembers (table : Table) :
    ComesTo tableMembers table (Draft.Awaits · table ·) where
  finish hd hb := by
    rw [tableMembers]
    refine (reads_nextKey?_none _ hb).bind ?_
    rw [hd.finish_eq]
    exact reads_pure _
  step hd hlead hm hs := tableMembers_step hd hlead hm hs

/-- **Loading undoes storing**: whatever text renders a table, the table is loaded from it. -/
theorem ofDocument_eq_ok {table : Table} {text : String} (h : table.IsRendered text.toList) :
    ofDocument text = .ok table := by
  obtain ⟨before, members, object, behind, hbefore, hobject, ⟨htests, htotal, hothers⟩, hbehind,
    htext⟩ := h
  have hawaits : Draft.Awaits ⟨none, none⟩ table members :=
    ⟨.due htests, .due htotal, hothers⟩
  have hlength : object.length ≤ text.toList.length := by
    rw [htext]
    simp only [List.length_append]
    omega
  have hend : Reads skip behind [] none := by
    have hskip := reads_skip hbehind (s := []) (by rintro _ ⟨⟩)
    rwa [List.append_nil] at hskip
  have hdocument : Reads document text.toList [] table := by
    refine Reads.bind_get fun p => ?_
    dsimp only
    generalize text.toList.length = n at hlength
    rw [htext]
    exact ((comesTo_tableMembers table).reads_record hobject hlength hawaits hbefore).bind
      (hend.bind (reads_pure table))
  obtain ⟨q, hq⟩ := hdocument .start
  rw [ofDocument, Input.ofText, hq]
  rfl

end Table

namespace Grammar

/-- No table is blamed for the form of a document. -/
theorem ofTable_ne_document (table : Table) (fault : Json.Fault) :
    ofTable table ≠ .error (.document fault) := by
  rw [Ne, ofTable_eq_error_iff]
  rintro (_ | ⟨⟨entry, -, h⟩, -⟩ | _)
  cases h

/-- **Loading** a text that renders a table gives what the table gives, be it a grammar or an error,
and never blames the form of the text. -/
theorem ofDocument_eq_ofTable {table : Table} {text : String} (h : table.IsRendered text.toList) :
    ofDocument text = ofTable table ∧
      ∀ fault, ofDocument text ≠ .error (.document fault) := by
  have heq : ofDocument text = ofTable table := by rw [ofDocument, Table.ofDocument_eq_ok h]
  exact ⟨heq, fun fault => heq ▸ ofTable_ne_document table fault⟩

/-- A text with its members in another order, one member more, whose value holds half a surrogate
pair, a name and an identifier with escapes, and blanks. -/
theorem ofDocument_eq_ofTable_unusual :
    let text := " \x7b\"note\" :[\x7b\"\\uD800\":null\x7d ],\n\"total\":\"t\"," ++
      "\"tests\":[\x7b\"marker\":\"m\",\"label\":\"\\/\"," ++
      "\"i\\u0064\": \"\\uD83D\\ude00\"\x7d]\x7d\t"
    let table : Table := ⟨[⟨"😀", "/", "m"⟩], "t"⟩
    ofDocument text = ofTable table ∧ ∀ fault, ofDocument text ≠ .error (.document fault) := by
  intro text table
  have hspace : Blanks [' '] := by decide
  have hplain {s : String} (h : s.toList.all (IsPlain ·)) :
      Spells s ('"' :: (s.toList ++ ['"'])) :=
    spellsString_plain fun c hc => of_decide_eq_true (List.all_eq_true.mp h c hc)
  -- the value of the member that is not asked for
  have hhalf : IsCodeUnit 0xd800 ['D', '8', '0', '0'] :=
    .mk (a := 13) (b := 8) (c := 0) (d := 0) (.inr rfl) (.inl rfl) (.inl rfl) (.inl rfl)
  have hkey : IsString "\"\\uD800\"".toList :=
    ⟨_, List.forall_mem_singleton.mpr (.unit hhalf), rfl⟩
  have hinner : IsObject (fun (_ : Unit) => IsString) [((), "null".toList)] _ :=
    .items blanks_nil (.last (.mk hkey blanks_nil blanks_nil) blanks_nil)
  have hinner : IsValue "\x7b\"\\uD800\":null\x7d".toList :=
    .object hinner (List.forall_mem_singleton.mpr (.scalar .null))
  have hnote : IsList ["\x7b\"\\uD800\":null\x7d".toList] _ :=
    .items blanks_nil (.last rfl hspace)
  have hnote : IsValue "[\x7b\"\\uD800\":null\x7d ]".toList :=
    .list hnote (List.forall_mem_singleton.mpr hinner)
  -- the test
  have hd : IsCodeUnit 'd'.toNat ['0', '0', '6', '4'] :=
    .mk (a := 0) (b := 0) (c := 6) (d := 4) (.inl rfl) (.inl rfl) (.inl rfl) (.inl rfl)
  have hhigh : IsCodeUnit 0xd83d ['D', '8', '3', 'D'] :=
    .mk (a := 13) (b := 8) (c := 3) (d := 13) (.inr rfl) (.inl rfl) (.inl rfl) (.inr rfl)
  have hlow : IsCodeUnit 0xde00 ['d', 'e', '0', '0'] :=
    .mk (a := 13) (b := 14) (c := 0) (d := 0) (.inl rfl) (.inl rfl) (.inl rfl) (.inl rfl)
  have hname : Spells "id" "\"i\\u0064\"".toList :=
    ⟨[['i'], _], .cons (.plain (by decide)) (.cons (.unit hd) .nil), rfl⟩
  have hid : Spells "😀" "\"\\uD83D\\ude00\"".toList :=
    ⟨[_], .cons (.pair hhigh hlow (by decide) (by decide) rfl) .nil, rfl⟩
  have hlabel : Spells "/" "\"\\/\"".toList := ⟨[_], .cons (.letter (by decide)) .nil, rfl⟩
  have hentry : IsObject Spells [("marker", "\"m\"".toList), ("label", "\"\\/\"".toList),
      ("id", "\"\\uD83D\\ude00\"".toList)] _ :=
    .items blanks_nil
      (.cons (.mk (hplain (by decide)) blanks_nil blanks_nil) blanks_nil blanks_nil
        (.cons (.mk (hplain (by decide)) blanks_nil blanks_nil) blanks_nil blanks_nil
          (.last (.mk hname blanks_nil hspace) blanks_nil)))
  have hentry : Entry.IsRendered ⟨"😀", "/", "m"⟩ _ :=
    ⟨_, hentry, ⟨_, rfl, hid⟩, ⟨_, rfl, hlabel⟩, ⟨_, rfl, hplain (by decide)⟩, by simp⟩
  have htests : EntriesRendered table.tests _ := .items blanks_nil (.last hentry blanks_nil)
  -- the table
  obtain ⟨tests, htext, htests⟩ : ∃ tests, tests = ("[\x7b\"marker\":\"m\",\"label\":\"\\/\"," ++
      "\"i\\u0064\": \"\\uD83D\\ude00\"\x7d]").toList ∧ EntriesRendered table.tests tests :=
    ⟨_, by decide, htests⟩
  have hobject : IsObject Spells [("note", "[\x7b\"\\uD800\":null\x7d ]".toList),
      ("total", "\"t\"".toList), ("tests", tests)] _ :=
    .items blanks_nil
      (.cons (.mk (hplain (by decide)) hspace blanks_nil) blanks_nil (by decide : Blanks ['\n'])
        (.cons (.mk (hplain (by decide)) blanks_nil blanks_nil) blanks_nil blanks_nil
          (.last (.mk (hplain (by decide)) blanks_nil blanks_nil) blanks_nil)))
  have htable : StoresTable table [("note", "[\x7b\"\\uD800\":null\x7d ]".toList),
      ("total", "\"t\"".toList), ("tests", tests)] :=
    ⟨⟨tests, rfl, htests⟩, ⟨_, rfl, hplain (s := "t") (by decide)⟩,
      List.forall_mem_cons.mpr ⟨fun _ => hnote, by simp⟩⟩
  refine ofDocument_eq_ofTable ⟨[' '], _, _, ['\t'], hspace, hobject, htable, by decide, ?_⟩
  rw [htext]
  decide

end Grammar

end Timekeeper
