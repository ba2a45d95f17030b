import Timekeeper.Proofs.Readout.Extension
import Timekeeper.Proofs.Readout.Printing

/-!
# The layout of measurements does not count

A program may put its numbers on a line of their own, or its units right behind the numbers. The
white space behind the phrase in front of durations, and that between a number and its unit, can be
any other white space, and the readout stays the same (`Readout.ofText_eq_of_relaid`).

Both are places of one kind. A place is **loose** if a colon stands in front of it, or a figure in
front of it and a letter of a unit behind it. Three facts carry the search from one layout to the
other:

* A measurement in front of a loose place or across it **states** the same, which is its number and
  its unit (`Measurement.map_stated_at?`). It ends in front of a colon; and if a figure ends the
  part in front of the place, then either the measurement has ended before or its gap is there.
* The phrases of the standard markers are **firm**: their colons are at the end, and behind a figure
  there are only figures and the colon. So none of them occurs across a loose place
  (`Phrase.Firm.occurs_append`).
* No firm phrase begins with white space, so the search goes past the place itself
  (`Phrase.Firm.free_of_blank`).
-/

namespace Timekeeper

open Unicode

/-- A text of white space. -/
def Blank (gap : List Char) : Prop := ∀ c ∈ gap, Text.isBlank c = true

instance : DecidablePred Blank :=
  fun gap => decidable_of_iff (gap.all Text.isBlank = true) List.all_eq_true

/-- The place between two texts is **loose** if white space there is of no account: the first text
ends with a colon, or it ends with a figure and the second one begins with a letter of a unit. -/
def Loose (x y : List Char) : Prop :=
  x.getLast? = some ':' ∨
    (∃ c, x.getLast? = some c ∧ Measurement.isFigure c = true) ∧
      ∃ d, y.head? = some d ∧ fold d ∈ Measurement.unitLetters

/-- Behind part of a text that does not end with it, a text ends as the whole one does. -/
private theorem getLast?_of_suffix {x z : List Char} (hz : z <:+ x) (hne : z ≠ []) :
    z.getLast? = x.getLast? := by
  obtain ⟨before, rfl⟩ := hz
  obtain ⟨c, hc⟩ : ∃ c, z.getLast? = some c := Option.ne_none_iff_exists'.mp (by simpa using hne)
  rw [List.getLast?_append, hc]
  rfl

namespace Measurement

/-! ### What a measurement states -/

/-- What a measurement **states**: its number and its unit. -/
def stated (m : Measurement) : List Char × List Char := (m.number, m.unit)

theorem not_isFigure_of_isBlank {c : Char} (h : Text.isBlank c = true) : isFigure c = false := by
  rw [Bool.eq_false_iff]
  intro hc
  rw [not_isBlank_of_isFigure hc] at h
  contradiction

/-- Figures have no case. -/
theorem fold_of_isFigure {c : Char} (h : isFigure c = true) : fold c = c := by
  rw [fold_of_ascii (toNat_lt_of_isFigure h)]
  exact forall_ascii (P := fun c => isFigure c = true → c.toLower = c) (by decide)
    (toNat_lt_of_isFigure h) h

/-- What folds as a figure does is that figure. -/
theorem eq_of_fold_eq_of_isFigure {c d : Char} (hd : isFigure d = true) (h : fold c = fold d) :
    c = d := by
  have hk : d ≠ 'k' := by
    rintro rfl
    contradiction
  have hs : d ≠ 's' := by
    rintro rfl
    contradiction
  have hupper : d.toUpper = d :=
    forall_ascii (P := fun d => isFigure d = true → d.toUpper = d) (by decide)
      (toNat_lt_of_isFigure hd) hd
  rw [fold_of_isFigure hd] at h
  obtain hc | hc := eq_of_fold_eq (toNat_lt_of_isFigure hd) hk hs h
  · exact hc
  · exact hc.trans hupper

/-- A number ends with a figure. -/
theorem IsNumber.exists_getLast? {number : List Char} (h : IsNumber number) :
    ∃ c, number.getLast? = some c ∧ isFigure c = true := by
  obtain ⟨sign, figures, exponent, -, hne, hfigures, hexponent, rfl⟩ := h
  have hlast {x : List Char} (hx : x ≠ []) (hall : ∀ c ∈ x, isFigure c = true)
      (before : List Char) : ∃ c, (before ++ x).getLast? = some c ∧ isFigure c = true := by
    obtain ⟨c, hc⟩ : ∃ c, x.getLast? = some c := Option.ne_none_iff_exists'.mp (by simpa using hx)
    refine ⟨c, ?_, hall c (List.mem_of_getLast? hc)⟩
    rw [List.getLast?_append, hc]
    rfl
  obtain rfl | ⟨c, esign, digits, -, -, hdigits, hall, rfl⟩ := hexponent
  · rw [List.append_nil]
    exact hlast hne hfigures sign
  · have hcut : sign ++ (figures ++ c :: (esign ++ digits)) =
        (sign ++ figures ++ c :: esign) ++ digits := by simp
    rw [hcut]
    exact hlast hdigits (fun d hd => isFigure_of_isDigit (hall d hd)) _

/-- White space in front of a measurement goes to its lead. -/
theorem at?_append_of_blank {gap : List Char} (hgap : Blank gap) (y : List Char) :
    at? (gap ++ y) = (at? y).map fun m => { m with lead := gap ++ m.lead } := by
  rw [at?, at?]
  simp only [List.takeWhile_append_of_pos hgap, List.length_append, ← List.drop_drop,
    List.drop_left]
  cases numberOf? (y.drop (y.takeWhile Text.isBlank).length) with
  | none => rfl
  | some number => simp only [Option.map_map]; rfl

/-- A part of a measurement that ends with a figure ends inside the number. -/
private theorem WellFormed.exists_number_eq {m : Measurement} (h : m.WellFormed)
    {z behind : List Char} {c : Char} (hchars : m.chars = z ++ behind)
    (hz : z.getLast? = some c) (hc : isFigure c = true) :
    ∃ front rest, m.number = front ++ rest ∧ z = m.lead ++ front ∧
      behind = rest ++ (m.gap ++ m.unit) := by
  have hmem : c ∈ z := List.mem_of_getLast? hz
  obtain ⟨front, rfl, hnumber⟩ | ⟨rest, hlead, -⟩ := List.append_eq_append_iff.mp hchars
  · obtain ⟨past, rfl, hpast⟩ | ⟨rest, hrest, rfl⟩ := List.append_eq_append_iff.mp hnumber
    · -- nothing is left of the part behind the number, as no figure stands there
      have hnone : past = [] := by
        by_contra hne
        rw [← List.append_assoc] at hz
        have hlast := (getLast?_of_suffix (List.suffix_append _ past) hne).trans hz
        have hpast' : c ∈ m.gap ++ m.unit :=
          hpast ▸ List.mem_append_left _ (List.mem_of_getLast? hlast)
        obtain hgap | hunit := List.mem_append.mp hpast'
        · rw [not_isFigure_of_isBlank (h.gap_blank c hgap)] at hc
          contradiction
        · rw [not_isFigure_of_fold_mem (h.unit.fold_mem hunit)] at hc
          contradiction
      subst hnone
      exact ⟨m.number, [], (List.append_nil _).symm, by rw [List.append_nil], hpast.symm⟩
    · exact ⟨front, rest, hrest, rfl, rfl⟩
  · have hblank := h.lead_blank c (hlead ▸ List.mem_append_left rest hmem)
    rw [not_isFigure_of_isBlank hblank] at hc
    contradiction

/-- A number has no white space and no letter of a unit. -/
private theorem IsNumber.kind_not_of_mem {number : List Char} (h : IsNumber number) {c : Char}
    (hc : c ∈ number) : Text.isBlank c = false ∧ fold c ∉ unitLetters := by
  obtain hkind | hkind | hkind := h.kind_of_mem hc
  · refine ⟨not_isBlank_of_isSign hkind, ?_⟩
    obtain rfl | rfl := eq_of_isSign hkind <;> decide
  · refine ⟨not_isBlank_of_isFigure hkind, fun hmem => ?_⟩
    rw [not_isFigure_of_fold_mem hmem] at hkind
    contradiction
  · refine ⟨not_isBlank_of_isExponentLetter hkind, fun hmem => ?_⟩
    rw [not_isExponentLetter_of_fold_mem hmem] at hkind
    contradiction

private theorem IsUnit.not_isBlank_head {unit : List Char} (h : IsUnit unit) (x : List Char) :
    (unit ++ x).head?.any Text.isBlank = false := by
  obtain ⟨d, rest, rfl⟩ := List.exists_cons_of_ne_nil h.ne_nil
  exact not_isBlank_of_fold_mem (h.fold_mem List.mem_cons_self)

/-- White space is told apart from what stands behind it. -/
private theorem append_inj_of_blank {x y gap gap' : List Char} (hgap : Blank gap)
    (hgap' : Blank gap') (hx : x.head?.any Text.isBlank = false)
    (hy : y.head?.any Text.isBlank = false) (h : gap ++ x = gap' ++ y) : gap = gap' ∧ x = y := by
  have hsame : gap = gap' := by
    have htake := congrArg (List.takeWhile Text.isBlank) h
    rwa [takeWhile_append_eq hgap hx, takeWhile_append_eq hgap' hy] at htake
  subst hsame
  exact ⟨rfl, List.append_cancel_left h⟩

/-- Between a number and its unit there can be other white space. -/
private theorem exists_at?_of_figure {z y gap gap' : List Char} {c d : Char} {m : Measurement}
    (hz : z.getLast? = some c) (hc : isFigure c = true) (hy : y.head? = some d)
    (hd : fold d ∈ unitLetters) (hgap : Blank gap) (hgap' : Blank gap')
    (h : at? (z ++ (gap ++ y)) = some m) :
    ∃ m', at? (z ++ (gap' ++ y)) = some m' ∧ m'.stated = m.stated := by
  obtain ⟨hform, r, hr, hword⟩ := wellFormed_of_at? h
  obtain ⟨behind, hchars, hbehind⟩ | ⟨between, rfl, rfl⟩ := List.append_eq_append_iff.mp hr
  · obtain ⟨front, rest, hnumber, rfl, rfl⟩ := hform.exists_number_eq hchars hz hc
    obtain ⟨y, rfl⟩ : ∃ tail, y = d :: tail := List.head?_eq_some_iff.mp hy
    -- the number does not go on behind the part, where there is white space or the unit begins
    have hrest : rest = [] := by
      by_contra hne
      obtain ⟨e, rest, rfl⟩ := List.exists_cons_of_ne_nil hne
      obtain ⟨hblank, hletter⟩ := hform.number.kind_not_of_mem
        (hnumber ▸ List.mem_append_right front (List.mem_cons_self (l := rest)))
      cases gap with
      | nil =>
        obtain rfl : d = e := (List.cons.inj hbehind).1
        exact hletter hd
      | cons g gap =>
        obtain rfl : g = e := (List.cons.inj hbehind).1
        exact absurd (hgap g List.mem_cons_self) (Bool.eq_false_iff.mp hblank)
    subst hrest
    rw [List.append_nil] at hnumber
    subst hnumber
    rw [List.nil_append, List.append_assoc] at hbehind
    have hhead : (d :: y).head?.any Text.isBlank = false := not_isBlank_of_fold_mem hd
    obtain ⟨rfl, hunit⟩ := append_inj_of_blank hgap hform.gap_blank hhead
      (hform.unit.not_isBlank_head r) hbehind
    rw [hunit]
    have hform' : WellFormed { m with gap := gap' } :=
      ⟨hform.lead_blank, hform.number, hgap', hform.unit⟩
    refine ⟨{ m with gap := gap' }, ?_, rfl⟩
    simpa only [chars, List.append_assoc] using at?_append hform' hword
  · -- the measurement ends in front of the part's last figure, which no unit has
    have hne : between ≠ [] := by
      rintro rfl
      obtain ⟨e, he, hletter⟩ := hform.exists_getLast?
      rw [List.append_nil] at hz
      obtain rfl := Option.some.inj (hz.symm.trans he)
      rw [not_isFigure_of_fold_mem hletter] at hc
      contradiction
    rw [wordSide_append hne] at hword
    refine ⟨m, ?_, rfl⟩
    rw [List.append_assoc]
    exact at?_append hform ((wordSide_append hne _).trans hword)

section Place

variable {x y gap gap' : List Char}

/-- White space in a loose place changes nothing of what is stated by a measurement in front of the
place or across it. -/
theorem map_stated_at? (h : Loose x y) (hgap : Blank gap) (hgap' : Blank gap') {z : List Char}
    (hz : z <:+ x) :
    (at? (z ++ (gap ++ y))).map stated = (at? (z ++ (gap' ++ y))).map stated := by
  by_cases hne : z = []
  · subst hne
    rw [List.nil_append, List.nil_append, at?_append_of_blank hgap, at?_append_of_blank hgap',
      Option.map_map, Option.map_map]
    rfl
  obtain hcolon | ⟨⟨c, hlast, hc⟩, d, hy, hd⟩ := h
  · have hmem : ':' ∈ z :=
      List.mem_of_getLast? ((getLast?_of_suffix hz hne).trans hcolon)
    rw [at?_append_of_colon hmem, at?_append_of_colon hmem]
  · have hlast' := (getLast?_of_suffix hz hne).trans hlast
    refine Option.ext fun s => ?_
    rw [Option.map_eq_some_iff, Option.map_eq_some_iff]
    constructor
    · rintro ⟨m, hm, rfl⟩
      exact exists_at?_of_figure hlast' hc hy hd hgap hgap' hm
    · rintro ⟨m, hm, rfl⟩
      exact exists_at?_of_figure hlast' hc hy hd hgap' hgap hm

end Place

end Measurement

/-! ### Firm phrases -/

/-- A phrase is **firm** if it does not begin with white space, has a colon at its end only, and has
nothing but figures and the colon behind a figure. -/
def Phrase.Firm (p : Phrase) : Prop :=
  p.chars.head?.any (fun c => Text.isBlank (fold c)) = false ∧
    p.chars.IsChain fun c d =>
      c ≠ ':' ∧ (Measurement.isFigure c = true → Measurement.isFigure d = true ∨ d = ':')

instance : DecidablePred Phrase.Firm := fun p => inferInstanceAs <| Decidable <|
  p.chars.head?.any (fun c => Text.isBlank (fold c)) = false ∧
    p.chars.IsChain fun c d =>
      c ≠ ':' ∧ (Measurement.isFigure c = true → Measurement.isFigure d = true ∨ d = ':')

namespace Phrase.Firm

variable {p : Phrase} {x y z gap : List Char}

/-- White space is free of a firm phrase. -/
theorem free_of_blank (hp : p.Firm) (hgap : Blank gap) : p.Free gap y := by
  obtain ⟨h, rest, hchars⟩ := List.exists_cons_of_ne_nil p.ne_nil
  have hhead : p.chars.head? = some h := by rw [hchars]; rfl
  have hblank : Text.isBlank (fold h) = false := by simpa [hhead] using hp.1
  refine .of_fold_ne hhead fun c hc heq => ?_
  rw [← heq, Text.fold_of_isBlank (hgap c hc), hgap c hc] at hblank
  contradiction

/-- Two characters that follow one another in a firm phrase are not found on the two sides of a
loose place. -/
private theorem not_across (h : Loose x y) (hgap : Blank gap) {a b c d : Char} (hcolon : a ≠ ':')
    (hfigure : Measurement.isFigure a = true → Measurement.isFigure b = true ∨ b = ':')
    (hc : x.getLast? = some c) (hd : (gap ++ y).head? = some d) (hfoldc : fold c = fold a)
    (hfoldd : fold d = fold b) : False := by
  obtain hlast | ⟨⟨c', hlast, hc'⟩, d', hhead, hd'⟩ := h
  · obtain rfl : c = ':' := Option.some.inj (hc.symm.trans hlast)
    obtain heq | heq :=
      eq_of_fold_eq (by decide) (by decide) (by decide) (hfoldc.symm.trans rfl) <;>
      exact hcolon heq
  · obtain rfl : c = c' := Option.some.inj (hc.symm.trans hlast)
    obtain rfl := Measurement.eq_of_fold_eq_of_isFigure hc' hfoldc.symm
    -- what follows the figure in the phrase is neither in white space nor in a unit
    have hnext : Text.isBlank (fold d) = false ∧ fold d ∉ Measurement.unitLetters := by
      rw [hfoldd]
      obtain hb | rfl := hfigure hc'
      · refine ⟨?_, fun hmem => ?_⟩
        · rw [Measurement.fold_of_isFigure hb]
          exact Measurement.not_isBlank_of_isFigure hb
        · rw [Measurement.not_isFigure_of_fold_mem hmem] at hb
          contradiction
      · decide
    cases gap with
    | nil =>
      obtain rfl : d = d' := Option.some.inj (hd.symm.trans hhead)
      exact hnext.2 hd'
    | cons g gap =>
      obtain rfl : g = d := Option.some.inj hd
      have hg := hgap g List.mem_cons_self
      rw [Text.fold_of_isBlank hg, hg] at hnext
      exact absurd hnext.1 (by decide)

/-- A firm phrase does not occur across a loose place. -/
theorem occurs_append (hp : p.Firm) (h : Loose x y) (hgap : Blank gap) (hz : z <:+ x)
    (hne : z ≠ []) : occurs p.chars (z ++ (gap ++ y)) = occurs p.chars z := by
  by_cases hle : p.chars.length ≤ z.length
  · exact Timekeeper.occurs_append hle _
  have hnone : occurs p.chars z = false :=
    Bool.eq_false_iff.mpr fun ho => hle (length_le_of_occurs ho)
  rw [hnone, Bool.eq_false_iff]
  intro ho
  -- the phrase goes on past the place, so two of its characters meet those on both sides
  obtain ⟨n, hn⟩ : ∃ n, z.length = n + 1 := Nat.exists_eq_succ_of_ne_zero (by simpa using hne)
  have hlt : n + 1 < p.chars.length := by omega
  obtain ⟨hcolon, hfigure⟩ := List.isChain_iff_getElem.mp hp.2 n hlt
  obtain ⟨c, hc, hfoldc⟩ := getElem?_of_occurs ho (List.getElem?_eq_getElem (Nat.lt_of_succ_lt hlt))
  obtain ⟨d, hd, hfoldd⟩ := getElem?_of_occurs ho (List.getElem?_eq_getElem hlt)
  have hlast : x.getLast? = some c := by
    rw [← getLast?_of_suffix hz hne, List.getLast?_eq_getElem?, hn, Nat.add_sub_cancel, ← hc,
      List.getElem?_append_left (by omega)]
  have hhead : (gap ++ y).head? = some d := by
    rw [← hd, ← hn, List.getElem?_append_right le_rfl, Nat.sub_self, List.head?_eq_getElem?]
  exact not_across h hgap hcolon hfigure hlast hhead hfoldc hfoldd

end Phrase.Firm

/-! ### Searching past a loose place -/

namespace PlainMarker

variable {x y gap gap' : List Char} {p q : Phrase}

/-- A firm phrase leads to a measurement that states the same when white space in a loose place is
another one. -/
private theorem map_stated_findSome?_here (hq : q.Firm) (h : Loose x y) (hgap : Blank gap)
    (hgap' : Blank gap') {z : List Char} (hz : z <:+ x) :
    ((z ++ (gap ++ y)).tails.findSome? (here q)).map Measurement.stated =
      ((z ++ (gap' ++ y)).tails.findSome? (here q)).map Measurement.stated := by
  induction z with
  | nil =>
    rw [List.nil_append, List.nil_append, (hq.free_of_blank hgap).findSome?_here,
      (hq.free_of_blank hgap').findSome?_here]
  | cons c z ih =>
    have hhere : (here q (c :: z ++ (gap ++ y))).map Measurement.stated =
        (here q (c :: z ++ (gap' ++ y))).map Measurement.stated := by
      rw [here, here, hq.occurs_append h hgap hz (List.cons_ne_nil c z),
        hq.occurs_append h hgap' hz (List.cons_ne_nil c z)]
      by_cases ho : occurs q.chars (c :: z) = true
      · have hle := length_le_of_occurs ho
        rw [if_pos ho, if_pos ho, List.drop_append_of_le_length hle,
          List.drop_append_of_le_length hle]
        exact Measurement.map_stated_at? h hgap hgap' ((List.drop_suffix _ _).trans hz)
      · rw [if_neg ho, if_neg ho]
    have hrest := ih ((List.suffix_cons c z).trans hz)
    rw [List.map_findSome?, List.map_findSome?] at hrest ⊢
    rw [List.cons_append, List.cons_append] at hhere ⊢
    rw [List.tails_cons, List.tails_cons, List.findSome?_cons, List.findSome?_cons, hrest,
      Function.comp_apply, Function.comp_apply, hhere]

/-- Where a firm phrase first occurs, and with it what another one leads to behind it, does not
depend on the white space in a loose place. -/
private theorem map_stated_find?_occurs (hp : p.Firm) (hq : q.Firm) (h : Loose x y)
    (hgap : Blank gap) (hgap' : Blank gap') {z : List Char} (hz : z <:+ x) :
    (((z ++ (gap ++ y)).tails.find? (occurs p.chars)).bind fun behind =>
        (behind.drop p.chars.length).tails.findSome? (here q)).map Measurement.stated =
      (((z ++ (gap' ++ y)).tails.find? (occurs p.chars)).bind fun behind =>
        (behind.drop p.chars.length).tails.findSome? (here q)).map Measurement.stated := by
  induction z with
  | nil =>
    rw [List.nil_append, List.nil_append, (hp.free_of_blank hgap).find?_occurs,
      (hp.free_of_blank hgap').find?_occurs]
  | cons c z ih =>
    have ho := hp.occurs_append h hgap hz (List.cons_ne_nil c z)
    have ho' := hp.occurs_append h hgap' hz (List.cons_ne_nil c z)
    rw [List.cons_append] at ho ho'
    rw [List.cons_append, List.cons_append, List.tails_cons, List.tails_cons, List.find?_cons,
      List.find?_cons, ho, ho']
    by_cases hoccurs : occurs p.chars (c :: z) = true
    · have hle := length_le_of_occurs hoccurs
      rw [hoccurs, Option.bind_some, Option.bind_some, ← List.cons_append, ← List.cons_append,
        List.drop_append_of_le_length hle, List.drop_append_of_le_length hle]
      exact map_stated_findSome?_here hq h hgap hgap' ((List.drop_suffix _ _).trans hz)
    · rw [Bool.eq_false_iff.mpr hoccurs]
      exact ih ((List.suffix_cons c z).trans hz)

/-- A marker is **firm** if its phrases are. -/
def Firm : PlainMarker → Prop
  | direct p => p.Firm
  | across p q => p.Firm ∧ q.Firm

instance : DecidablePred Firm
  | direct p => inferInstanceAs (Decidable p.Firm)
  | across p q => inferInstanceAs (Decidable (p.Firm ∧ q.Firm))

/-- A firm marker leads to the same duration when white space in a loose place is another one. -/
theorem Firm.duration?_eq {m : PlainMarker} (hm : m.Firm) (h : Loose x y) (hgap : Blank gap)
    (hgap' : Blank gap') : m.duration? (x ++ (gap ++ y)) = m.duration? (x ++ (gap' ++ y)) := by
  have hfind : (m.find? (x ++ (gap ++ y))).map Measurement.stated =
      (m.find? (x ++ (gap' ++ y))).map Measurement.stated := by
    cases m with
    | direct p =>
      rw [find?_direct, find?_direct]
      exact map_stated_findSome?_here hm h hgap hgap' List.suffix_rfl
    | across p q =>
      rw [find?_across, find?_across]
      exact map_stated_find?_occurs hm.1 hm.2 h hgap hgap' List.suffix_rfl
  have hduration (text : List Char) : m.duration? text =
      ((m.find? text).map Measurement.stated).bind fun s => Readout.duration? s.1 s.2 := by
    rw [Option.bind_map, duration?]
    exact congrArg (m.find? text).bind (funext Measurement.duration?_eq)
  rw [hduration, hduration, hfind]

end PlainMarker

/-! ### Readouts -/

theorem PlainTable.firm_standard :
    (∀ e ∈ standard.tests, e.marker.Firm) ∧ standard.total.Firm := by
  decide

/-- By a table of firm markers, the readout does not depend on the white space in a loose place. -/
theorem PlainTable.scan_eq_of_loose {t : PlainTable} (htests : ∀ e ∈ t.tests, e.marker.Firm)
    (htotal : t.total.Firm) {x y gap gap' : List Char} (h : Loose x y) (hgap : Blank gap)
    (hgap' : Blank gap') : t.scan (x ++ (gap ++ y)) = t.scan (x ++ (gap' ++ y)) := by
  have hentries : (t.tests.filterMap fun e =>
        (e.marker.duration? (x ++ (gap ++ y))).map fun ms => (e.id, ms)) =
      t.tests.filterMap fun e =>
        (e.marker.duration? (x ++ (gap' ++ y))).map fun ms => (e.id, ms) :=
    List.filterMap_congr fun e he => by rw [(htests e he).duration?_eq h hgap hgap']
  rw [scan, scan, hentries, htotal.duration?_eq h hgap hgap']

/-- A text is **relaid** by putting other white space behind an occurrence of the phrase in front
of durations, or between the number and the unit of a measurement. Either may be none at all. -/
inductive Relaid : List Char → List Char → Prop
  | behind {before phrase gap gap' rest : List Char} :
    phrase.map fold = Phrase.sure.chars.map fold → Blank gap → Blank gap' →
    Relaid (before ++ (phrase ++ (gap ++ rest))) (before ++ (phrase ++ (gap' ++ rest)))
  | within {before : List Char} {m : Measurement} {gap' rest : List Char} :
    Measurement.at? (m.chars ++ rest) = some m → Blank gap' →
    Relaid (before ++ (m.chars ++ rest)) (before ++ ({ m with gap := gap' }.chars ++ rest))

/-- What is relaid is white space in a loose place. -/
theorem Relaid.exists_loose {text text' : List Char} (h : Relaid text text') :
    ∃ x y gap gap', Loose x y ∧ Blank gap ∧ Blank gap' ∧ text = x ++ (gap ++ y) ∧
      text' = x ++ (gap' ++ y) := by
  cases h with
  | @behind before phrase gap gap' rest hphrase hgap hgap' =>
    have hcolon : phrase.getLast? = some ':' := by
      have hlast := congrArg List.getLast? hphrase
      rw [List.getLast?_map] at hlast
      obtain ⟨c, hc, hfold⟩ := Option.map_eq_some_iff.mp (hlast.trans rfl)
      obtain rfl | rfl := eq_of_fold_eq (by decide) (by decide) (by decide) hfold <;> exact hc
    have hlast : (before ++ phrase).getLast? = some ':' := by
      rw [List.getLast?_append, hcolon]
      rfl
    exact ⟨before ++ phrase, rest, gap, gap', .inl hlast, hgap, hgap', by simp, by simp⟩
  | @within before m gap' rest hat hgap' =>
    obtain ⟨hform, -⟩ := Measurement.wellFormed_of_at? hat
    obtain ⟨c, hc, hfigure⟩ := hform.number.exists_getLast?
    obtain ⟨d, unit, hunit⟩ := List.exists_cons_of_ne_nil hform.unit.ne_nil
    have hlast : (before ++ (m.lead ++ m.number)).getLast? = some c := by
      rw [List.getLast?_append, List.getLast?_append, hc]
      rfl
    have hhead : (m.unit ++ rest).head? = some d := by
      rw [hunit]
      rfl
    have hletter := hform.unit.fold_mem (hunit ▸ List.mem_cons_self)
    exact ⟨before ++ (m.lead ++ m.number), m.unit ++ rest, m.gap, gap',
      .inr ⟨⟨c, hlast, hfigure⟩, d, hhead, hletter⟩, hform.gap_blank, hgap',
      by simp [Measurement.chars], by simp [Measurement.chars]⟩

/-- The readout of a text does not depend on how its measurements are laid out. -/
theorem Readout.ofText_eq_of_relaid : ∃ g, Grammar.standard = .ok g ∧
    ∀ x y : List Char, Relaid x y → Readout.ofText g x = Readout.ofText g y := by
  refine ⟨PlainTable.standard.grammar, PlainTable.standard_eq, fun text text' h => ?_⟩
  obtain ⟨x, y, gap, gap', hloose, hgap, hgap', rfl, rfl⟩ := h.exists_loose
  obtain ⟨htests, htotal⟩ := PlainTable.firm_standard
  rw [PlainTable.ofText_grammar, PlainTable.ofText_grammar]
  exact PlainTable.scan_eq_of_loose htests htotal hloose hgap hgap'

/-- Here a line break comes between the phrase and the number, and then the unit is put right behind
the number. -/
theorem Readout.ofText_eq_of_relaid_lines :
    let x := "Test 1: SURE: 5 ms, and on".toList
    let y := "Test 1: SURE:\n5 ms, and on".toList
    let z := "Test 1: SURE:\n5ms, and on".toList
    ∃ g, Grammar.standard = .ok g ∧ Relaid x y ∧ Relaid y z ∧
      Readout.ofText g x = Readout.ofText g y ∧ Readout.ofText g y = Readout.ofText g z ∧
      (Readout.ofText g z).measurements = [("fibonacci", .ofNat 5)] := by
  intro x y z
  let m : Measurement := ⟨['\n'], ['5'], [' '], ['m', 's']⟩
  have hxy : Relaid x y :=
    @Relaid.behind "Test 1: ".toList "SURE:".toList [' '] ['\n'] "5 ms, and on".toList
      (by decide) (by decide) (by decide)
  have hyz : Relaid y z :=
    @Relaid.within "Test 1: SURE:".toList m [] ", and on".toList (by decide) (by decide)
  obtain ⟨g, hg, h⟩ := ofText_eq_of_relaid
  refine ⟨g, hg, hxy, hyz, h x y hxy, h y z hyz, ?_⟩
  obtain rfl := Except.ok.inj (PlainTable.standard_eq.symm.trans hg)
  rw [PlainTable.ofText_grammar]
  decide +kernel

end Timekeeper
