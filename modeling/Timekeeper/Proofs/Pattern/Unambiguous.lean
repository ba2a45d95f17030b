import Timekeeper.Proofs.Grammar.Marker
import Timekeeper.Proofs.Pattern.Tail
import Timekeeper.Proofs.Pattern.Unit

/-!
# The tail of a measurement is unambiguous

Repetitions, an optional sign and alternatives offer many ways to match the tail, and a search looks
at them in order. All ways that succeed are one: whatever the order, a match of the tail takes a
well-formed measurement (`exists_of_matches_tailPlan`), and two well-formed measurements at the
front of one text are equal (`Measurement.WellFormed.eq_of_append`). Behind the flags of every
marker this measurement is the one that the plain scanner finds, and it is matched whenever the
scanner finds one (`matches_tailPlan_iff`).

A marker may change the mode in which the tail is read, and so what counts as white space, as a
letter of a unit or as the end of a word. That decides whether the tail matches, never how. Of a
marker with alternatives only the last one has the tail behind it, and a match of an earlier one
(`Grammar.MatchesAlone`) has no measurement to remember.
-/

namespace Timekeeper

namespace Pattern

open Measurement

variable {m m' : Mode} {c c' : Cursor} {s s' : Captures}

/-! ### Matches go forward -/

private theorem exists_advance_of_times {w : Way}
    (hw : ∀ c s c' s', w c s c' s' → ∃ n ≤ c.left, c' = c.advance n) {n : Nat}
    (h : w.times n c s c' s') : ∃ n ≤ c.left, c' = c.advance n := by
  induction n generalizing c s with
  | zero => exact ⟨0, Nat.zero_le _, h.1⟩
  | succ n ih =>
    obtain ⟨c₁, s₁, hfirst, hrest⟩ := h
    obtain ⟨k, hk, rfl⟩ := hw c s c₁ s₁ hfirst
    obtain ⟨l, hl, rfl⟩ := ih hrest
    rw [Cursor.left_advance] at hl
    exact ⟨k + l, by omega, (Cursor.advance_add k l c).symm⟩

/-- A match ends at a place of the text that is not in front of where it began. -/
theorem Plan.Matches.exists_advance {p : Plan} (h : p.Matches c s c' s') :
    ∃ n ≤ c.left, c' = c.advance n := by
  induction p generalizing c s c' s' with
  | empty => exact ⟨0, Nat.zero_le _, h.1⟩
  | one test =>
    obtain ⟨-, d, hnext, -⟩ := h
    have hrest := Cursor.rest_eq_of_next? hnext
    have hleft : 1 ≤ c.left := by
      rw [c.left_eq, hrest, List.length_cons]
      omega
    refine ⟨1, hleft, ?_⟩
    rw [Cursor.next?_eq_some hrest] at hnext
    exact (Prod.mk.inj (Option.some.inj hnext)).2.symm
  | condition q => exact ⟨0, Nat.zero_le _, h.1⟩
  | repeated least most greedy body ih =>
    obtain ⟨n, -, -, hrounds⟩ := h
    exact exists_advance_of_times (fun _ _ _ _ => ih) hrounds
  | capture name body ih =>
    obtain ⟨s₁, hbody, -⟩ := h
    exact ih hbody
  | sequence first second ih₁ ih₂ =>
    obtain ⟨c₁, s₁, hfirst, hsecond⟩ := h
    obtain ⟨k, hk, rfl⟩ := ih₁ hfirst
    obtain ⟨l, hl, rfl⟩ := ih₂ hsecond
    rw [Cursor.left_advance] at hl
    exact ⟨k + l, by omega, (Cursor.advance_add k l c).symm⟩
  | choice first second ih₁ ih₂ =>
    obtain hfirst | hsecond := h
    · exact ih₁ hfirst
    · exact ih₂ hsecond

/-- What a match takes tells where it ends. -/
theorem Plan.Matches.eq_advance {p : Plan} (h : p.Matches c s c' s') {x : List Char}
    (hx : c.rest = x ++ c'.rest) : c' = c.advance x.length := by
  obtain ⟨n, hn, rfl⟩ := h.exists_advance
  have hlength := congrArg List.length hx
  rw [List.length_append, Cursor.rest_advance, List.length_drop, ← c.left_eq] at hlength
  obtain rfl : n = x.length := by omega
  rfl

/-! ### The tail in a mode -/

/-- White space. -/
private def blanksPlan (m : Mode) : Plan :=
  .repeated 0 none (true != m.swapGreed) (.one fun c => ShortClass.holds m.unicode c .space)

/-- An optional sign. -/
private def signPlan (m : Mode) : Plan :=
  .repeated 0 (some 1) (true != m.swapGreed) (.one (m.folded isSign))

/-- At least one character of a kind. -/
private def runPlan (m : Mode) (kind : Char → Bool) : Plan :=
  .repeated 1 none (true != m.swapGreed) (.one (m.folded kind))

/-- An optional exponent part. -/
private def exponentPlan (m : Mode) : Plan :=
  .repeated 0 (some 1) (true != m.swapGreed) <| .sequence (.one (m.folded isExponentLetter)) <|
    .sequence (signPlan m) (runPlan m Char.isDigit)

/-- The group of the number. -/
private def valuePlan (m : Mode) : Plan :=
  .capture Grammar.valueName.toList <| .sequence (signPlan m) <|
    .sequence (runPlan m isFigure) (exponentPlan m)

/-- The plan of the tail in a mode. -/
def tailPlan (m : Mode) : Plan :=
  .sequence (blanksPlan m) <| .sequence (valuePlan m) <| .sequence (blanksPlan m) <|
    .sequence (unitPlan m) (.condition (.boundary m.unicode))

/-! ### What the parts take -/

section Parts

variable {test : Char → Bool} {least : Nat} {most : Option Nat} {greedy : Bool}

private theorem exists_of_times_one {n : Nat} (h : (Plan.one test).Matches.times n c s c' s') :
    s' = s ∧ ∃ x, x.length = n ∧ (∀ d ∈ x, test d = true) ∧ c.rest = x ++ c'.rest := by
  induction n generalizing c s with
  | zero =>
    obtain ⟨rfl, rfl⟩ := h
    exact ⟨rfl, [], rfl, by simp, rfl⟩
  | succ n ih =>
    obtain ⟨c₁, s₁, ⟨rfl, d, hnext, hd⟩, hrest⟩ := h
    obtain ⟨rfl, x, rfl, hx, heq⟩ := ih hrest
    refine ⟨rfl, d :: x, rfl, List.forall_mem_cons.mpr ⟨hd, hx⟩, ?_⟩
    rw [Cursor.rest_eq_of_next? hnext, heq, List.cons_append]

/-- A repeated test takes characters that pass it, as many as it may. -/
theorem exists_of_matches_repeated_one
    (h : (Plan.repeated least most greedy (.one test)).Matches c s c' s') :
    s' = s ∧ ∃ x, least ≤ x.length ∧ (∀ n ∈ most, x.length ≤ max least n) ∧
      (∀ d ∈ x, test d = true) ∧ c.rest = x ++ c'.rest := by
  obtain ⟨n, hleast, hmost, hrounds⟩ := h
  obtain ⟨rfl, x, rfl, hx, heq⟩ := exists_of_times_one hrounds
  exact ⟨rfl, x, hleast, hmost, hx, heq⟩

private theorem isBlank_of_holds_space {u : Bool} {d : Char}
    (h : ShortClass.holds u d .space = true) : Text.isBlank d = true := by
  rw [← ShortClass.holds_space]
  cases u with
  | true => exact h
  | false =>
    simp only [ShortClass.holds, Bool.false_and] at h ⊢
    split at h
    · rename_i hd
      rwa [if_pos hd]
    · contradiction

private theorem exists_of_matches_blanksPlan (h : (blanksPlan m).Matches c s c' s') :
    s' = s ∧ ∃ x, (∀ d ∈ x, Text.isBlank d = true) ∧ c.rest = x ++ c'.rest := by
  obtain ⟨rfl, x, -, -, hx, heq⟩ := exists_of_matches_repeated_one h
  exact ⟨rfl, x, fun d hd => isBlank_of_holds_space (hx d hd), heq⟩

private theorem exists_of_matches_signPlan (h : (signPlan m).Matches c s c' s') :
    s' = s ∧ ∃ x, IsSigns x ∧ c.rest = x ++ c'.rest := by
  rw [signPlan, m.folded_isSign] at h
  obtain ⟨rfl, x, -, hmost, hx, heq⟩ := exists_of_matches_repeated_one h
  refine ⟨rfl, x, ?_, heq⟩
  have hlength : x.length ≤ 1 := hmost 1 rfl
  match x with
  | [] => exact .inl rfl
  | [d] => exact .inr ⟨d, hx d List.mem_cons_self, rfl⟩

private theorem exists_of_matches_runPlan {kind : Char → Bool} (hkind : m.folded kind = kind)
    (h : (runPlan m kind).Matches c s c' s') :
    s' = s ∧ ∃ x, x ≠ [] ∧ (∀ d ∈ x, kind d = true) ∧ c.rest = x ++ c'.rest := by
  rw [runPlan, hkind] at h
  obtain ⟨rfl, x, hleast, -, hx, heq⟩ := exists_of_matches_repeated_one h
  exact ⟨rfl, x, List.ne_nil_of_length_pos hleast, hx, heq⟩

/-- What is optional is left out or matched once. -/
private theorem of_matches_optional {p : Plan}
    (h : (Plan.repeated 0 (some 1) greedy p).Matches c s c' s') :
    (c' = c ∧ s' = s) ∨ p.Matches c s c' s' := by
  obtain ⟨n, -, hmost, hrounds⟩ := h
  have hn : n ≤ 1 := hmost 1 rfl
  obtain rfl | rfl : n = 0 ∨ n = 1 := by omega
  · exact .inl hrounds
  · obtain ⟨c₁, s₁, hfirst, rfl, rfl⟩ := hrounds
    exact .inr hfirst

private theorem exists_of_matches_exponentPlan (h : (exponentPlan m).Matches c s c' s') :
    s' = s ∧ ∃ x, IsExponent x ∧ c.rest = x ++ c'.rest := by
  obtain ⟨rfl, rfl⟩ | ⟨c₁, s₁, ⟨rfl, d, hnext, hd⟩, c₂, s₂, hsign, hdigits⟩ :=
    of_matches_optional h
  · exact ⟨rfl, [], .inl rfl, rfl⟩
  · rw [m.folded_isExponentLetter] at hd
    obtain ⟨rfl, sign, hissigns, hrest₁⟩ := exists_of_matches_signPlan hsign
    obtain ⟨rfl, digits, hne, hisdigits, hrest₂⟩ :=
      exists_of_matches_runPlan m.folded_isDigit hdigits
    refine ⟨rfl, d :: (sign ++ digits),
      .inr ⟨d, sign, digits, hd, hissigns, hne, hisdigits, rfl⟩, ?_⟩
    rw [Cursor.rest_eq_of_next? hnext, hrest₁, hrest₂, List.cons_append, List.append_assoc]

/-- The group of the number takes a number and remembers it. -/
private theorem exists_of_matches_valuePlan (h : (valuePlan m).Matches c s c' s') :
    ∃ x, IsNumber x ∧ c.rest = x ++ c'.rest ∧
      s' = ⟨Grammar.valueName.toList, c.rest, x.length⟩ :: s := by
  obtain ⟨s₁, ⟨c₁, s₂, hsign, c₂, s₃, hfigures, hexponent⟩, rfl⟩ := h
  obtain ⟨rfl, sign, hissigns, hrest₁⟩ := exists_of_matches_signPlan hsign
  obtain ⟨rfl, figures, hne, hisfigures, hrest₂⟩ :=
    exists_of_matches_runPlan m.folded_isFigure hfigures
  obtain ⟨rfl, exponent, hisexponent, hrest₃⟩ := exists_of_matches_exponentPlan hexponent
  have hrest : c.rest = (sign ++ (figures ++ exponent)) ++ c'.rest := by
    rw [hrest₁, hrest₂, hrest₃, List.append_assoc, List.append_assoc]
  refine ⟨_, ⟨sign, figures, exponent, hissigns, hne, hisfigures, hisexponent, rfl⟩, hrest, ?_⟩
  rw [c.left_eq, c'.left_eq, hrest, List.length_append, Nat.add_sub_cancel]

end Parts

/-! ### What the tail takes -/

/-- In every mode, a match of the tail takes a well-formed measurement and remembers its number and
its unit. Where all of Unicode counts, no word goes on behind the measurement. -/
theorem exists_of_matches_tailPlan (h : (tailPlan m).Matches c s c' s') :
    ∃ x : Measurement, x.WellFormed ∧ c.rest = x.chars ++ c'.rest ∧
      s' = captured c.rest x ++ s ∧
      (m.unicode = true → wordSide true c'.rest.head? = false) := by
  obtain ⟨c₁, s₁, hlead, c₂, s₂, hvalue, c₃, s₃, hgap, c₄, s₄, hunit, rfl, rfl, hborder⟩ := h
  obtain ⟨rfl, lead, hleadblank, hrest₁⟩ := exists_of_matches_blanksPlan hlead
  obtain ⟨number, hnumber, hrest₂, rfl⟩ := exists_of_matches_valuePlan hvalue
  obtain ⟨rfl, gap, hgapblank, hrest₃⟩ := exists_of_matches_blanksPlan hgap
  obtain ⟨unit, hisunit, hrest₄, rfl⟩ := exists_of_matches_unitPlan hunit
  let x : Measurement := ⟨lead, number, gap, unit⟩
  have hrest : c.rest = x.chars ++ c'.rest := by
    rw [hrest₁, hrest₂, hrest₃, hrest₄, chars]
    simp only [x, List.append_assoc]
  refine ⟨x, ⟨hleadblank, hnumber, hgapblank, hisunit⟩, hrest, ?_, fun hunicode => ?_⟩
  · have hafterLead : c.rest.drop lead.length = c₁.rest := by rw [hrest₁, List.drop_left]
    have hafterGap : c.rest.drop (lead.length + number.length + gap.length) = c₃.rest := by
      rw [← List.drop_drop, ← List.drop_drop, hafterLead, hrest₂, List.drop_left, hrest₃,
        List.drop_left]
    simp only [captured, x, hafterLead, hafterGap, List.cons_append, List.nil_append]
  · -- the unit ends with a letter, so the border of a word is where no word goes on
    obtain ⟨y, hy, hlength, hoccurs⟩ := hisunit.exists_occurs c'.rest
    have hbefore : wordSide true c'.before = true := by
      rw [hunit.eq_advance hrest₄, ← hlength]
      exact wordSide_before_of_occurs hy (hrest₄ ▸ hoccurs)
    rw [hunicode, Condition.holds, hbefore] at hborder
    simpa using hborder

/-! ### The tail as it is written -/

/-- The tree of the tail, without its spans. -/
private def tailTree : Tree :=
  let literal (d : Char) : ClassTree := .literal ⟨d, .nowhere, false⟩
  let digit : ClassTree := .range ⟨'0', .nowhere, false⟩ ⟨'9', .nowhere, false⟩
  let oneOf (first second : ClassTree) : Tree :=
    .bracketed .nowhere false (.union .nowhere (.pair first second))
  let optional : Tree → Tree := .repetition .nowhere 0 (some 1) true
  let onceOrMore : Tree → Tree := .repetition .nowhere 1 none true
  let blanks : Tree := .repetition .nowhere 0 none true (.short .space false .nowhere)
  let sign : Tree := optional (oneOf (literal '-') (literal '+'))
  let exponent : Tree := optional <| .group .nowhere (.plain []) <| .sequence .nowhere <|
    .pair (oneOf (literal 'e') (literal 'E')) <|
    .pair sign (onceOrMore (.bracketed .nowhere false digit))
  let value : Tree := .group .nowhere (.named Grammar.valueName.toList) <| .sequence .nowhere <|
    .pair sign (.pair (onceOrMore (oneOf digit (literal '.'))) exponent)
  .sequence .nowhere <| .pair blanks <| .pair value <| .pair blanks <|
    .pair unitTree (.anchor .boundary .nowhere)

private theorem tailTree_spec :
    (Tree.read Grammar.tail.toList).toOption.any (fun t => decide (t.bare = tailTree.bare)) =
      true := by
  decide +kernel

private theorem plan_tailTree (m : Mode) : tailTree.plan m = .ok (tailPlan m, m) := by
  obtain ⟨caseInsensitive, multiLine, dotAll, swapGreed, unicode, carriageReturn⟩ := m
  cases unicode <;> rfl

/-- In every mode the tail comes to its plan, and leaves the mode as it is. -/
theorem fragment_tail (m : Mode) : fragment m Grammar.tail.toList = .ok (tailPlan m, m) := by
  obtain ⟨t, hread, hbare⟩ := (Option.any_eq_true ..).mp tailTree_spec
  rw [fragment, eq_ok_iff_toOption.mpr hread]
  exact Tree.plan_eq_ok_of_bare_eq (of_decide_eq_true hbare).symm (plan_tailTree m)

/-- Behind the flags of every marker, the tail comes to its plan in the mode of a marker. -/
theorem compile_tail : compile (Grammar.flags.toList ++ Grammar.tail.toList) =
    .ok (.sequence .empty (tailPlan .marker)) := by
  have hread : ReadsAs [] [] [] [] := .nil
  have hcompile := compile_of_readsAs hread (by decide)
  rw [List.append_nil] at hcompile
  rw [hcompile]
  rfl

/-! ### One way only -/

/-- In the mode of a marker the tail matches where a measurement stands, in one way: it takes the
measurement that the plain scanner finds, and remembers its number and its unit. -/
theorem matches_tailPlan_iff : (tailPlan .marker).Matches c s c' s' ↔
    ∃ x, Measurement.at? c.rest = some x ∧ c' = c.advance x.length ∧
      s' = captured c.rest x ++ s := by
  constructor
  · intro h
    obtain ⟨x, hx, hrest, hs', hword⟩ := exists_of_matches_tailPlan h
    refine ⟨x, ?_, ?_, hs'⟩
    · rw [hrest]
      exact at?_append hx (hword rfl)
    · rw [h.eq_advance hrest, length_chars]
  · rintro ⟨x, hx, rfl, rfl⟩
    -- the run that hands over where it has come to ends at that place only
    let arrive : Goal (Cursor × Captures) := fun c s => some (c, s)
    have hrun : (tailPlan .marker).run arrive c s =
        some (c.advance x.length, captured c.rest x ++ s) := by
      have hchain : (tailPlan .marker).run arrive = runAll Part.tail arrive :=
        run_chain Part.blanks [.value, .blanks, .unit, .boundary] arrive
      rw [hchain, runAll_tail, hx]
    obtain ⟨c₁, s₁, hmatches, heq⟩ := Plan.exists_matches_of_run hrun
    obtain ⟨rfl, rfl⟩ := Prod.mk.inj (Option.some.inj heq)
    exact hmatches

/-- What two matches of the tail remember from one place on is the same, in whatever modes and
behind whatever captures. -/
theorem exists_same_of_matches_tailPlan {n : Mode} {d' : Cursor} {t t' : Captures}
    (h : (tailPlan m).Matches c s c' s') (h' : (tailPlan n).Matches c t d' t') :
    ∃ x : Measurement, x.WellFormed ∧ x.chars <+: c.rest ∧
      s' = captured c.rest x ++ s ∧ t' = captured c.rest x ++ t := by
  obtain ⟨x, hx, hrest, hs', -⟩ := exists_of_matches_tailPlan h
  obtain ⟨y, hy, hrest', ht', -⟩ := exists_of_matches_tailPlan h'
  obtain rfl := hx.eq_of_append hy (hrest.symm.trans hrest')
  exact ⟨x, hx, ⟨_, hrest.symm⟩, hs', ht'⟩

end Pattern

/-! ### Markers in front of the tail -/

namespace Grammar

open Pattern

variable {marker : String} {start c : Cursor} {captures : Captures}

/-- A match of a marker and, from a cursor on, of the tail in the mode that the marker leaves. -/
inductive MeetsTail (marker : String) (c : Cursor) (captures : Captures) : Prop
  | intro {start c' : Cursor} {a b : Plan} {m m' : Mode} {s : Captures}
    (marker_plan : fragment .marker marker.toList = .ok (a, m))
    (tail_plan : fragment m tail.toList = .ok (b, m'))
    (marker_matches : a.Matches start [] c s) (tail_matches : b.Matches c s c' captures) :
    MeetsTail marker c captures

/-- A match of a marker with alternatives that has nothing of the tail behind it. -/
inductive MatchesAlone (marker : String) (start c' : Cursor) (captures : Captures) : Prop
  | intro {tree : Tree} {a : Plan} {m : Mode} (marker_read : Tree.read marker.toList = .ok tree)
    (alternatives : tree.isAlternatives = true)
    (marker_plan : fragment .marker marker.toList = .ok (a, m))
    (marker_matches : a.Matches start [] c' captures) : MatchesAlone marker start c' captures

/-- Captures **remember** a measurement of a text when the last two of them are its unit and its
number, at their places of the text. -/
structure Remembers (captures : Captures) (text : List Char) (m : Measurement) : Prop where
  spans : captured text m <+: captures
  number : captures.text? valueName.toList = some m.number
  unit : captures.text? unitName.toList = some m.unit

private theorem remembers_append {m : Measurement} {text : List Char} (h : m.chars <+: text)
    (s : Captures) : Remembers (captured text m ++ s) text m := by
  obtain ⟨rest, rfl⟩ := h
  refine ⟨List.prefix_append _ _, ?_, ?_⟩
  · have hnumber : ((m.chars ++ rest).drop m.lead.length).take m.number.length = m.number := by
      simp [Measurement.chars]
    exact congrArg some hnumber
  · have hunit : ((m.chars ++ rest).drop (m.lead.length + m.number.length + m.gap.length)).take
        m.unit.length = m.unit := by
      rw [Measurement.drop_chars_append, List.take_left]
    exact congrArg some hunit

/-- What is found by a run of a marker that comes to a place, and of the tail from there on. -/
private def meeting? (marker : String) (start : Cursor) (n : Nat) : Option Captures := do
  let (a, m) ← (fragment .marker marker.toList).toOption
  a.run (fun c s => if c.left = start.left - n then (tailPlan m).run (fun _ t => some t) c s
    else none) start []

private theorem meetsTail_of_meeting? {n : Nat} (hn : n ≤ start.left)
    (h : meeting? marker start n = some captures) :
    MeetsTail marker (start.advance n) captures := by
  obtain ⟨⟨a, m⟩, hplan, hrun⟩ := Option.bind_eq_some_iff.mp h
  obtain ⟨c₁, s₁, hmarker, h₁⟩ := Plan.exists_matches_of_run hrun
  obtain ⟨hleft, htail⟩ := Option.ite_none_right_eq_some.mp h₁
  obtain ⟨k, hk, rfl⟩ := hmarker.exists_advance
  obtain rfl : k = n := by
    rw [Cursor.left_advance] at hleft
    omega
  obtain ⟨c', s', hmatches, hs'⟩ := Plan.exists_matches_of_run htail
  obtain rfl := Option.some.inj hs'
  exact .intro (eq_ok_iff_toOption.mpr hplan) (fragment_tail m) hmarker hmatches

/-- The tail behind the flags of every marker matches at any place of any text in at most one way,
which is the one that the plain scanner finds. Two matches of which the tail begins at one place
remember the same number and the same unit, whatever markers stand in front of it; and the matches
of the pattern of a finished marker are such matches, but for those of its alternatives that the
tail does not belong to. -/
theorem tail_matches_in_one_way :
    (∃ plan, Pattern.compile (flags.toList ++ tail.toList) = .ok plan ∧ ∀ c s c' s',
      plan.Matches c s c' s' ↔ ∃ m, Measurement.at? c.rest = some m ∧
        c' = c.advance m.length ∧ s' = captured c.rest m ++ s) ∧
    (∀ {first second : String} {c : Cursor} {s t : Captures}, MeetsTail first c s →
      MeetsTail second c t → ∃ m, Remembers s c.rest m ∧ Remembers t c.rest m) ∧
    (∀ {marker : String} {plan : Plan}, Finished marker →
      Pattern.compile (patternOf marker).toList = .ok plan →
      ∀ {start c' : Cursor} {s : Captures}, plan.Matches start [] c' s →
        (∃ c, MeetsTail marker c s) ∨ MatchesAlone marker start c' s) := by
  refine ⟨⟨_, compile_tail, fun c s c' s' => ?_⟩, ?_, ?_⟩
  · rw [Plan.matches_empty_sequence]
    exact matches_tailPlan_iff
  · rintro first second c s t ⟨-, hplan, -, hs⟩ ⟨-, hplan', -, ht⟩
    rw [fragment_tail] at hplan hplan'
    obtain ⟨rfl, rfl⟩ := Prod.mk.inj (Except.ok.inj hplan)
    obtain ⟨rfl, rfl⟩ := Prod.mk.inj (Except.ok.inj hplan')
    obtain ⟨m, -, hfront, rfl, rfl⟩ := exists_same_of_matches_tailPlan hs ht
    exact ⟨m, remembers_append hfront _, remembers_append hfront _⟩
  · intro marker plan hfinished hplan start c' s h
    obtain ⟨tree, a, b, m, m', hread, ha, hb, hmatches⟩ := hfinished.exists_fragments hplan
    obtain ⟨c, s₁, hmarker, htail⟩ | ⟨halternatives, halone⟩ := hmatches h
    · exact .inl ⟨c, .intro ha hb hmarker htail⟩
    · exact .inr (.intro hread halternatives ha halone)

/-- The tail behind a marker and behind another one that ends where it does but leaves only ASCII
to count, and a match of a marker with alternatives. -/
theorem tail_matches_in_one_way_across_modes :
    let text := "Loop A: -1.5E+3 µS.".toList
    let place := (Cursor.ofText text).advance 7
    (∃ s t m, MeetsTail "Loop A:" place s ∧ MeetsTail "(?-u)\\w:" place t ∧
      Remembers s place.rest m ∧ Remembers t place.rest m ∧
      m.number = "-1.5E+3".toList ∧ m.unit = "µS".toList) ∧
    let marker := "Loop B:|Loop A:"
    Finished marker ∧ ∃ plan c' s, Pattern.compile (patternOf marker).toList = .ok plan ∧
      plan.Matches (.ofText text) [] c' s ∧
      ((∃ c, MeetsTail marker c s) ∨ MatchesAlone marker (.ofText text) c' s) := by
  intro text place
  obtain ⟨-, hsame, hmeets⟩ := tail_matches_in_one_way
  constructor
  · let states (s : Captures) : Bool :=
      s.text? valueName.toList == some "-1.5E+3".toList &&
        s.text? unitName.toList == some "µS".toList
    obtain ⟨s, hs, hstates⟩ := (Option.any_eq_true ..).mp
      (show (meeting? "Loop A:" (.ofText text) 7).any states = true by decide +kernel)
    obtain ⟨t, ht, -⟩ := (Option.any_eq_true ..).mp
      (show (meeting? "(?-u)\\w:" ((Cursor.ofText text).advance 5) 2).any states = true by
        decide +kernel)
    have hfirst : MeetsTail "Loop A:" place s := meetsTail_of_meeting? (by decide +kernel) hs
    have hplace : place = ((Cursor.ofText text).advance 5).advance 2 :=
      Cursor.advance_add 5 2 (.ofText text)
    have hsecond : MeetsTail "(?-u)\\w:" place t := by
      rw [hplace]
      exact meetsTail_of_meeting? (by decide +kernel) ht
    obtain ⟨m, hms, hmt⟩ := hsame hfirst hsecond
    rw [Bool.and_eq_true, beq_iff_eq, beq_iff_eq, hms.number, hms.unit] at hstates
    exact ⟨s, t, m, hfirst, hsecond, hms, hmt, Option.some.inj hstates.1,
      Option.some.inj hstates.2⟩
  · have hfinished : Finished "Loop B:|Loop A:" := by decide +kernel
    obtain ⟨plan, hplan, hfound⟩ := (Option.any_eq_true ..).mp
      (show (Pattern.compile (patternOf "Loop B:|Loop A:").toList).toOption.any (fun plan =>
        (plan.captures? (.ofText text)).isSome) = true by decide +kernel)
    obtain ⟨captures, hcaptures⟩ := Option.isSome_iff_exists.mp hfound
    obtain ⟨c', s, hmatches, -⟩ := Plan.exists_matches_of_run hcaptures
    have hcompile := eq_ok_iff_toOption.mpr hplan
    exact ⟨hfinished, plan, c', s, hcompile, hmatches, hmeets hfinished hcompile hmatches⟩

end Grammar

end Timekeeper
