import Timekeeper.Proofs.Json.Reading

/-!
# Passing values

A value that nobody asks for is passed (`IsValue.reads`). The reader keeps no value, only the lists
and objects that are open, and it goes on to the end of the outermost one. So what it takes is told
of a value inside whatever is open: if the reader goes on well behind the value, it does so from
the front of the value (`IsPassed`). This is an induction on how values are nested, with one step
for the items between two signs (`Listed.isPassed`); the bound on how many values there are is used
up by no more than the characters passed.
-/

namespace Timekeeper

namespace Json

variable {s t u b : List Char}

/-! ### Where values begin -/

/-- A text that **begins** with no blank, no comma and no closing sign. -/
def Begins (text : List Char) : Prop :=
  ∃ c rest, text = c :: rest ∧ c ∉ [' ', '\n', '\t', '\r', ',', ']', '\x7d']

theorem Begins.append (h : Begins s) (t : List Char) : Begins (s ++ t) := by
  obtain ⟨c, rest, rfl, hc⟩ := h
  exact ⟨c, rest ++ t, rfl, hc⟩

theorem Begins.stops (h : Begins s) : Stops isBlank s := by
  obtain ⟨c, rest, rfl, hc⟩ := h
  refine stops_cons (Bool.eq_false_iff.mpr fun hblank => hc ?_)
  simp only [isBlank, Bool.or_eq_true, beq_iff_eq] at hblank
  simp only [List.mem_cons]
  tauto

theorem Begins.head?_ne (h : Begins s) (e : Enclosure) : s.head? ≠ some e.closing := by
  obtain ⟨c, rest, rfl, hc⟩ := h
  rintro heq
  obtain rfl := Option.some.inj heq
  exact hc (by cases e <;> decide)

theorem SpellsString.begins {chars text : List Char} (h : SpellsString chars text) :
    Begins text := by
  obtain ⟨pieces, -, rfl⟩ := h
  exact ⟨'"', _, rfl, by decide⟩

theorem IsString.begins {text : List Char} (h : IsString text) : Begins text := by
  obtain ⟨pieces, -, rfl⟩ := h
  exact ⟨'"', _, rfl, by decide⟩

theorem IsNumber.begins {text : List Char} (h : IsNumber text) : Begins text := by
  obtain ⟨d, rest, rfl | rfl, hd, -⟩ := h.reads
  · refine ⟨d, rest, rfl, fun hmem => ?_⟩
    rw [not_isDigit_of_mem_ends hmem] at hd
    contradiction
  · exact ⟨'-', _, rfl, by decide⟩

theorem IsScalar.begins {text : List Char} (h : IsScalar text) : Begins text := by
  cases h with
  | null => exact ⟨_, _, rfl, by decide⟩
  | true => exact ⟨_, _, rfl, by decide⟩
  | false => exact ⟨_, _, rfl, by decide⟩
  | number h => exact h.begins
  | string h => exact h.begins

theorem IsValue.begins {text : List Char} (h : IsValue text) : Begins text := by
  cases h with
  | scalar h => exact h.begins
  | list h => cases h <;> exact ⟨'[', _, rfl, by decide⟩
  | object h => cases h <;> exact ⟨'\x7b', _, rfl, by decide⟩

/-! ### Values that nobody asked for -/

theorem reads_colon (hb : Blanks b) : Reads colon (b ++ ':' :: s) s PUnit.unit :=
  (reads_skip hb (stops_cons rfl)).bind (reads_advance ':')

theorem IsScalar.reads {text : List Char} (h : IsScalar text) (hb : Blanks b) (hs : Ends s) :
    Reads ignoredHead (b ++ (text ++ s)) s none := by
  refine (reads_skip hb (h.begins.append s).stops).bind ?_
  cases h with
  | null => exact (reads_advance _).bind ((reads_word ['u', 'l', 'l']).bind (reads_pure _))
  | true => exact (reads_advance _).bind ((reads_word ['r', 'u', 'e']).bind (reads_pure _))
  | false => exact (reads_advance _).bind ((reads_word ['a', 'l', 's', 'e']).bind (reads_pure _))
  | number h =>
    obtain ⟨d, rest, rfl | rfl, hd, hreads⟩ := h.reads
    · -- no other value begins with a digit
      rw [List.cons_append, List.head?_cons]
      split <;> rename_i heq <;> cases heq
      case h_9 => exact (if_pos hd) ▸ (hreads s hs).bind (reads_pure _)
      all_goals exact absurd hd (by decide)
    · exact (reads_advance _).bind ((hreads s hs).bind (reads_pure _))
  | string h =>
    have hreads := h.reads (s := s)
    obtain ⟨pieces, -, rfl⟩ := h
    exact hreads.bind (reads_pure _)

section Enclosures

variable {n : Nat} {e : Enclosure} {es : List Enclosure} {after : Bool}

/-- Passes what may follow a value, and everything up to the end of what is open then. -/
private def passOn (n : Nat) (es : List Enclosure) (afterValue : Bool) : Reading PUnit := do
  let still ← ignoredClosings es afterValue
  if still.isEmpty then return else ignoredWithin n still

/-- Passes an item of what is open, and everything up to the end of that. -/
private def passItem (n : Nat) (e : Enclosure) (es : List Enclosure) : Reading PUnit := do
  if e = .object then ignoredKey
  ignoredWithin n (e :: es)

private theorem reads_ignoredWithin_scalar (hb : Blanks b) (hv : IsScalar s) (ht : Ends t)
    (h : Reads (passOn n es true) t u PUnit.unit) :
    Reads (ignoredWithin (n + 1) es) (b ++ (s ++ t)) u PUnit.unit := by
  rw [ignoredWithin]
  exact (hv.reads hb ht).bind h

private theorem reads_passOn_closing (hb : Blanks b)
    (h : Reads (passOn n es true) t u PUnit.unit) :
    Reads (passOn n (e :: es) after) (b ++ e.closing :: t) u PUnit.unit := by
  have hstop : Stops isBlank (e.closing :: t) := stops_cons (by cases e <;> rfl)
  simp only [passOn, ignoredClosings, bind_assoc]
  refine (reads_skip hb hstop).bind ?_
  simp only [List.head?_cons, if_true, bind_assoc]
  exact (reads_advance _).bind h

/-- What is still open behind the key of an item is not empty. -/
private theorem passItem_eq : passItem n e es =
    (if e = .object then ignoredKey >>= fun _ => pure (e :: es) else pure (e :: es)) >>=
      fun still => if still.isEmpty then pure () else ignoredWithin n still := by
  cases e <;> simp [passItem]

private theorem reads_passOn_comma (hb : Blanks b)
    (h : Reads (passItem n e es) t u PUnit.unit) :
    Reads (passOn n (e :: es) true) (b ++ ',' :: t) u PUnit.unit := by
  have hne : ',' ≠ e.closing := by cases e <;> decide
  simp only [passOn, ignoredClosings, bind_assoc]
  refine (reads_skip hb (stops_cons rfl)).bind ?_
  simp only [List.head?_cons, if_neg hne, if_true, ne_eq, not_true_eq_false, if_false, bind_assoc]
  exact (reads_advance _).bind (passItem_eq ▸ h)

private theorem reads_passOn_opening (hb : Blanks b) (ht : Begins t)
    (h : Reads (passItem n e es) t u PUnit.unit) :
    Reads (passOn n (e :: es) false) (b ++ t) u PUnit.unit := by
  have hne := ht.head?_ne e
  have hstop := ht.stops
  obtain ⟨c, rest, rfl, -⟩ := ht
  simp only [passOn, ignoredClosings, bind_assoc]
  refine (reads_skip hb hstop).bind ?_
  have hc : c ≠ e.closing := fun heq => hne (congrArg some heq)
  simp only [List.head?_cons, if_neg hc, Bool.false_eq_true, if_false]
  exact passItem_eq ▸ h

/-- A value that is **passed** inside whatever is open: it uses up as much of the bound as there are
values in it, which are not more than its characters. -/
private def IsPassed (value : List Char) : Prop :=
  ∃ k ≤ value.length, ∀ {n es b t u}, Blanks b → Ends t → Reads (passOn n es true) t u PUnit.unit →
    Reads (ignoredWithin (n + k) es) (b ++ (value ++ t)) u PUnit.unit

/-- An item of a list or of an object that is passed in the same way. -/
private def IsPassedItem (e : Enclosure) (item : List Char) : Prop :=
  Begins item ∧ ∃ k ≤ item.length, ∀ {n es b t u}, Blanks b → Ends t →
    Reads (passOn n (e :: es) true) t u PUnit.unit →
      Reads (passItem (n + k) e es) (b ++ (item ++ t)) u PUnit.unit

private theorem Listed.isPassed {item : α → List Char → Prop} {xs : List α} {text : List Char}
    (h : Listed item xs text) (hitem : ∀ x ∈ xs, ∀ t, item x t → IsPassedItem e t) :
    Begins text ∧ ∃ k ≤ text.length, ∀ {n es b t u}, Blanks b →
      Reads (passOn n es true) t u PUnit.unit →
        Reads (passItem (n + k) e es) (b ++ (text ++ e.closing :: t)) u PUnit.unit := by
  have hends {t : List Char} : Ends (e.closing :: t) := ends_cons (by cases e <;> decide)
  induction h with
  | @last x text b' hx hb' =>
    obtain ⟨hbegins, k, hk, hpass⟩ := hitem x List.mem_cons_self text hx
    refine ⟨hbegins.append b', k, by rw [List.length_append]; omega, fun hb h => ?_⟩
    rw [List.append_assoc]
    exact hpass hb (hends.append hb') (reads_passOn_closing hb' h)
  | @cons x xs text b' b'' rest hx hb' hb'' hrest ih =>
    obtain ⟨hbegins, k, hk, hpass⟩ := hitem x List.mem_cons_self text hx
    obtain ⟨-, l, hl, hpass'⟩ := ih fun y hy => hitem y (List.mem_cons_of_mem x hy)
    refine ⟨hbegins.append _, l + k, ?_, fun hb h => ?_⟩
    · simp only [List.length_append, List.length_cons]
      omega
    · rw [← Nat.add_assoc]
      simp only [List.append_assoc, List.cons_append]
      exact hpass hb (Ends.append (ends_cons (by decide)) hb')
        (reads_passOn_comma hb' (hpass' hb'' h))

private theorem Enclosed.isPassed {opening : Char} {item : α → List Char → Prop} {xs : List α}
    {text : List Char} (h : Enclosed opening e.closing item xs text)
    (hopening : ∀ {b s}, Blanks b → Reads ignoredHead (b ++ opening :: s) s (some e))
    (hitem : ∀ x ∈ xs, ∀ t, item x t → IsPassedItem e t) : IsPassed text := by
  cases h with
  | @empty b' hb' =>
    refine ⟨1, Nat.succ_pos _, fun hb _ h => ?_⟩
    rw [ignoredWithin, List.cons_append, List.append_assoc, List.singleton_append]
    exact (hopening hb).bind (reads_passOn_closing hb' h)
  | @items _ b' text hb' hitems =>
    obtain ⟨hbegins, k, hk, hpass⟩ := hitems.isPassed hitem
    refine ⟨k + 1, ?_, fun hb _ h => ?_⟩
    · simp only [List.length_append, List.length_cons]
      omega
    · rw [← Nat.add_assoc, ignoredWithin]
      simp only [List.append_assoc, List.cons_append, List.nil_append]
      refine (hopening hb).bind (reads_passOn_opening hb' (hbegins.append _) ?_)
      exact hpass blanks_nil h

/-- A value is an item of a list. -/
private theorem IsPassed.item {value : List Char} (h : IsPassed value) (hbegins : Begins value) :
    IsPassedItem .list value := by
  obtain ⟨k, hk, hpass⟩ := h
  exact ⟨hbegins, k, hk, fun hb ht hrest => hpass hb ht hrest⟩

theorem reads_ignoredKey {key b' : List Char} (hkey : IsString key) (hb : Blanks b)
    (hb' : Blanks b') :
    Reads ignoredKey (b ++ (key ++ (b' ++ ':' :: s))) s PUnit.unit := by
  refine (reads_skip hb (hkey.begins.append _).stops).bind ?_
  have hreads := hkey.reads (s := b' ++ ':' :: s)
  obtain ⟨pieces, -, rfl⟩ := hkey
  exact hreads.bind (reads_colon hb')

/-- A value with a name is an item of an object. -/
private theorem IsPassed.member {m : Unit × List Char} {item : List Char} (h : IsPassed m.2)
    (hmember : IsMember (fun _ => IsString) m item) : IsPassedItem .object item := by
  obtain ⟨k, hk, hpass⟩ := h
  obtain @⟨_, key, b', b'', value, hkey, hb', hb''⟩ := hmember
  refine ⟨hkey.begins.append _, k, Nat.le_trans hk ?_, fun hb ht hrest => ?_⟩
  · simp only [List.length_append, List.length_cons]
    omega
  · simp only [List.append_assoc, List.cons_append]
    exact (reads_ignoredKey hkey hb hb').bind (hpass hb'' ht hrest)

end Enclosures

/-- Every value that nobody asks for is passed, however deep lists and objects are nested in it. -/
private theorem IsValue.isPassed {text : List Char} (h : IsValue text) : IsPassed text := by
  induction h with
  | @scalar text h =>
    obtain ⟨c, rest, rfl, -⟩ := h.begins
    exact ⟨1, Nat.succ_pos _, fun hb ht hrest => reads_ignoredWithin_scalar hb h ht hrest⟩
  | list h hvalues ih =>
    refine Enclosed.isPassed (e := .list) h (fun hb => ?_) fun v hv t heq => ?_
    · exact (reads_skip hb (stops_cons rfl)).bind ((reads_advance _).bind (reads_pure _))
    · exact heq ▸ (ih v hv).item (hvalues v hv).begins
  | object h _ ih =>
    refine Enclosed.isPassed (e := .object) h (fun hb => ?_) fun m hm t hmember => ?_
    · exact (reads_skip hb (stops_cons rfl)).bind ((reads_advance _).bind (reads_pure _))
    · exact (ih m hm).member hmember

/-- A value that nobody asks for is passed. -/
theorem IsValue.reads {text : List Char} (h : IsValue text) (hb : Blanks b) (hs : Ends s) :
    Reads ignored (b ++ (text ++ s)) s PUnit.unit := by
  obtain ⟨k, hk, hpass⟩ := h.isPassed
  refine Reads.bind_get fun p => ?_
  have hbound : (b ++ (text ++ s)).length + 1 = (b ++ (text ++ s)).length + 1 - k + k := by
    simp only [List.length_append]
    omega
  dsimp only
  rw [hbound]
  exact hpass hb hs (reads_pure _)

end Json

end Timekeeper
