import Timekeeper.Proofs.Pattern.Reading

/-!
# What a marker's pattern comes to

The pattern of a marker stands between flags and the tail of a measurement. The tail is read
piece by piece into the parts `Part.tail`, with the names of its two groups remembered on the
way. If the marker itself reads as some parts and remembers no names, then the whole pattern
comes to the flags, these parts and the tail, unless that is too large
(`compile_of_readsAs`).
-/

namespace Timekeeper

namespace Pattern

/-! ### The parts of the tail -/

namespace Part

/-- One character of a class between brackets. -/
def bracketed (test : Char → Bool) (weight height : Nat) : Part :=
  ⟨.one (Mode.marker.folded test), weight + 64, height + 1⟩

/-- White space, as much as there is. -/
def blanks : Part := repeated 0 none ⟨.one fun c => ShortClass.holds true c .space, 700, 0⟩

/-- An optional sign. -/
def sign : Part := (bracketed (fun c => c == '-' || c == '+') 80 1).repeated 0 (some 1)

/-- Digits and points. -/
def figures : Part :=
  (bracketed (fun c => ('0' ≤ c && c ≤ '9') || c == '.') 80 1).repeated 1 none

/-- The letter of an exponent part. -/
def exponentLetter : Part := bracketed (fun c => c == 'e' || c == 'E') 80 1

/-- The digits of an exponent part. -/
def exponentDigits : Part := (bracketed (fun c => '0' ≤ c && c ≤ '9') 40 0).repeated 1 none

/-- An optional exponent part. -/
def exponent : Part :=
  ((exponentLetter.sequence [sign, exponentDigits]).group (.plain [])).repeated 0 (some 1)

/-- The number of a measurement. -/
def value : Part := (sign.sequence [figures, exponent]).group (.named Grammar.valueName.toList)

/-- The unit of a measurement. -/
def unit : Part :=
  (((literal 'm').sequence [literal 's']).alternatives [(literal 'µ').sequence [literal 's'],
    (literal 'μ').sequence [literal 's'], (literal 'u').sequence [literal 's'],
    (literal 'n').sequence [literal 's'], (literal 's').sequence []]).group
      (.named Grammar.unitName.toList)

/-- The border of a word. -/
def boundary : Part := ⟨.condition (.boundary true), 32, 0⟩

/-- The parts of the **tail**. -/
def tail : List Part := [blanks, value, blanks, unit, boundary]

/-- The flags in front of a marker, which match nothing themselves. -/
def flags : Part := ⟨.empty, 32, 0⟩

/-- A whole pattern: the parts of a marker between the flags and the tail. -/
def whole (parts : List Part) : Part := (flags.chain (parts ++ tail)).inside

end Part

/-! ### Reading the tail -/

section Tail

variable {names : List (List Char)}

private theorem readsAs_blanks : ReadsAs names ['\\', 's', '*'] [.blanks] names :=
  ReadsOne.space.repeated (by decide)

private theorem readsAs_sign : ReadsAs names ['[', '-', '+', ']', '?'] [.sign] names := by
  have hclass : ReadsOne names ['[', '-', '+', ']']
      (.bracketed (fun c => c == '-' || c == '+') 80 1) names := by
    refine .bracketed fun rest place names =>
      ⟨_, .union _ (.pair (.literal _) (.literal _)), _, rfl, rfl, rfl, fun depth hd => ?_⟩
    rw [ClassTree.checkDepth, deeper_eq hd]
    rfl
  exact hclass.repeated (by decide)

private theorem readsAs_figures :
    ReadsAs names ['[', '0', '-', '9', '.', ']', '+'] [.figures] names := by
  have hclass : ReadsOne names ['[', '0', '-', '9', '.', ']']
      (.bracketed (fun c => ('0' ≤ c && c ≤ '9') || c == '.') 80 1) names := by
    refine .bracketed fun rest place names =>
      ⟨_, .union _ (.pair (.range _ _) (.literal _)), _, rfl, rfl, rfl, fun depth hd => ?_⟩
    rw [ClassTree.checkDepth, deeper_eq hd]
    rfl
  exact hclass.repeated (by decide)

private theorem readsAs_exponentLetter :
    ReadsAs names ['[', 'e', 'E', ']'] [.exponentLetter] names := by
  have hclass : ReadsOne names ['[', 'e', 'E', ']'] .exponentLetter names := by
    refine .bracketed fun rest place names =>
      ⟨_, .union _ (.pair (.literal _) (.literal _)), _, rfl, rfl, rfl, fun depth hd => ?_⟩
    rw [ClassTree.checkDepth, deeper_eq hd]
    rfl
  exact hclass.readsAs

private theorem readsAs_exponentDigits :
    ReadsAs names ['[', '0', '-', '9', ']', '+'] [.exponentDigits] names := by
  have hclass : ReadsOne names ['[', '0', '-', '9', ']']
      (.bracketed (fun c => '0' ≤ c && c ≤ '9') 40 0) names :=
    .bracketed fun rest place names => ⟨_, .range _ _, _, rfl, rfl, rfl, fun _ _ => rfl⟩
  exact hclass.repeated (by decide)

/-- The exponent part as it is written in the tail. -/
def exponentText : List Char :=
  '(' :: ['?', ':'] ++ (['[', 'e', 'E', ']'] ++ (['[', '-', '+', ']', '?'] ++
    ['[', '0', '-', '9', ']', '+'])) ++ [')'] ++ ['?']

private theorem readsAs_exponent : ReadsAs names exponentText [.exponent] names := by
  have hinside : ReadsAs names (['[', 'e', 'E', ']'] ++ (['[', '-', '+', ']', '?'] ++
      ['[', '0', '-', '9', ']', '+'])) [.exponentLetter, .sign, .exponentDigits] names :=
    readsAs_exponentLetter.append
      (readsAs_sign.append readsAs_exponentDigits (by simp [Calm])) (by simp [Calm])
  exact (ReadsOne.group rfl opens_plain hinside).repeated (by decide)

/-- The number as it is written in the tail. -/
def valueText : List Char :=
  '(' :: "?P<value>".toList ++ (['[', '-', '+', ']', '?'] ++
    (['[', '0', '-', '9', '.', ']', '+'] ++ exponentText)) ++ [')']

private theorem readsAs_value : ReadsAs [] valueText [.value] [Grammar.valueName.toList] := by
  have hinside : ReadsAs [Grammar.valueName.toList] (['[', '-', '+', ']', '?'] ++
      (['[', '0', '-', '9', '.', ']', '+'] ++ exponentText)) [.sign, .figures, .exponent]
      [Grammar.valueName.toList] :=
    readsAs_sign.append (readsAs_figures.append readsAs_exponent (by simp [Calm, exponentText]))
      (by simp [Calm])
  exact (ReadsOne.group rfl opens_value hinside).readsAs

/-- The unit as it is written in the tail. -/
def unitText : List Char :=
  '(' :: "?P<unit>".toList ++ ['m', 's'] ++ '|' :: (['µ', 's'] ++ '|' :: (['μ', 's'] ++
    '|' :: (['u', 's'] ++ '|' :: (['n', 's'] ++ '|' :: ['s'])))) ++ [')']

private theorem readsAs_unit : ReadsAs [Grammar.valueName.toList] unitText [.unit]
    [Grammar.unitName.toList, Grammar.valueName.toList] := by
  have word (x : List Char) (h : x.any isMeta = false) :
      ReadsAs [Grammar.unitName.toList, Grammar.valueName.toList] x (x.map .literal)
        [Grammar.unitName.toList, Grammar.valueName.toList] :=
    .literals fun d hd => by simpa using List.any_eq_false.mp h d hd
  exact (ReadsOne.alternatives rfl opens_unit (word ['m', 's'] (by decide))
    (.cons (word ['µ', 's'] (by decide)) (.cons (word ['μ', 's'] (by decide))
      (.cons (word ['u', 's'] (by decide)) (.cons (word ['n', 's'] (by decide))
        (.last (word ['s'] (by decide)))))))).readsAs

/-- The tail without the border of a word at its end. -/
def measuredText : List Char := ['\\', 's', '*'] ++ (valueText ++ (['\\', 's', '*'] ++ unitText))

theorem tail_eq : Grammar.tail.toList = measuredText ++ ['\\', 'b'] := by decide

private theorem readsAs_measured : ReadsAs [] measuredText [.blanks, .value, .blanks, .unit]
    [Grammar.unitName.toList, Grammar.valueName.toList] :=
  readsAs_blanks.append (readsAs_value.append (readsAs_blanks.append readsAs_unit
    (by simp [Calm, unitText])) (by simp [Calm])) (by simp [Calm, valueText])

end Tail

/-! ### Reading a whole pattern -/

section Ends

variable {n : Nat} {r : Run} {rest : List Char} {place : Place} {names : List (List Char × Span)}

private theorem run_patternBody_end : (patternBody n r []).run ⟨[], place, false, names⟩ =
    .ok (r.close place, ⟨[], place, false, names⟩) := by
  cases n <;> rfl

private theorem run_patternBody_boundary :
    (patternBody (n + 1) r []).run ⟨['\\', 'b'], place, false, names⟩ =
      .ok ((r.push (.anchor .boundary ⟨place, (place.after '\\').after 'b'⟩)).close
        ((place.after '\\').after 'b'), ⟨[], (place.after '\\').after 'b', false, names⟩) := by
  have hstep : (patternBody (n + 1) r []).run ⟨['\\', 'b'], place, false, names⟩ =
      (patternBody n (r.push (.anchor .boundary ⟨place, (place.after '\\').after 'b'⟩)) []).run
        ⟨[], (place.after '\\').after 'b', false, names⟩ := rfl
  rw [hstep, run_patternBody_end]

/-- The flags in front of every marker. -/
def flagsTree : Tree := .flags [⟨.caseInsensitive, true⟩, ⟨.dotAll, true⟩]

theorem run_patternBody_flags : ∃ place',
    (patternBody (n + 1) (.startingAt place) []).run
        ⟨'(' :: '?' :: 'i' :: 's' :: ')' :: rest, place, false, names⟩ =
      (patternBody n ⟨place, [flagsTree]⟩ []).run ⟨rest, place', false, names⟩ :=
  ⟨_, rfl⟩

end Ends

theorem Run.close_reverse {t : Tree} {ts : List Tree} (h : ts ≠ []) (first last : Place) :
    Run.close ⟨first, (t :: ts).reverse⟩ last = .sequence ⟨first, last⟩ (Tree.chain t ts) := by
  rw [Run.close, List.reverse_reverse]
  cases ts with
  | nil => contradiction
  | cons u us => rfl

/-- The reader makes one sequence of the flags, the marker and the tail, and then checks how
deep it is nested. -/
theorem read_of_readsAs {x : List Char} {parts : List Part} (h : ReadsAs [] x parts []) :
    ∃ (ts : List Tree) (span : Span), List.Forall₂ Tree.Yields ts (parts ++ Part.tail) ∧
      Tree.read (Grammar.flags.toList ++ x ++ Grammar.tail.toList) =
        (do
          let tree := Tree.sequence span (Tree.chain flagsTree ts)
          tree.checkDepth 0
          return tree) := by
  let whole := Grammar.flags.toList ++ x ++ Grammar.tail.toList
  have htext : whole = '(' :: '?' :: 'i' :: 's' :: ')' :: (x ++ measuredText ++ ['\\', 'b']) := by
    simp [whole, tail_eq, Grammar.flags]
  have hlength : whole.length + 1 = 7 + (x ++ measuredText).length + 1 := by
    rw [htext]
    simp
    omega
  obtain ⟨place, hflags⟩ := run_patternBody_flags (n := 7 + (x ++ measuredText).length)
  -- the marker and the tail up to the border, behind the flags
  obtain ⟨m, ts, place', names', -, hts, hrun⟩ :=
    h.append readsAs_measured (by simp [Calm, measuredText]) 7 ⟨.start, [flagsTree]⟩ []
      ['\\', 'b'] place [] (by simp [Calm]) rfl
  let stop := (place'.after '\\').after 'b'
  let border := Tree.anchor .boundary ⟨place', stop⟩
  have hborder : border.Yields .boundary := ⟨rfl, rfl, fun _ _ => rfl, by simp [border],
    by simp [border]⟩
  have hmembers : border :: (ts.reverse ++ [flagsTree]) =
      (flagsTree :: (ts ++ [border])).reverse := by simp
  have hbody : (patternBody (whole.length + 1) (.startingAt .start) []).run (.ofText whole) =
      .ok (.sequence ⟨.start, stop⟩ (Tree.chain flagsTree (ts ++ [border])),
        ⟨[], stop, false, names'⟩) := by
    rw [hlength, htext, Source.ofText, hflags, hrun, show 7 + m = 6 + m + 1 by omega,
      run_patternBody_boundary, Run.push, hmembers, Run.close_reverse (by simp)]
  refine ⟨ts ++ [border], ⟨.start, stop⟩, ?_, ?_⟩
  · simpa [Part.tail] using List.rel_append hts (.cons hborder .nil)
  · rw [Tree.read]
    dsimp only
    rw [hbody]
    rfl

/-- A pattern comes to its parts unless it is too large. -/
theorem compile_of_readsAs {x : List Char} {parts : List Part} (h : ReadsAs [] x parts [])
    (hd : (Part.whole parts).height ≤ nestingLimit) :
    compile (Grammar.flags.toList ++ x ++ Grammar.tail.toList) =
      if sizeLimit < (Part.whole parts).weight then .error (.tooLarge sizeLimit)
      else .ok (Part.whole parts).plan := by
  obtain ⟨ts, span, hts, hread⟩ := read_of_readsAs h
  obtain ⟨q, qs, hparts⟩ : ∃ q qs, parts ++ Part.tail = q :: qs :=
    List.exists_cons_of_ne_nil (by simp [Part.tail])
  rw [hparts] at hts
  obtain ⟨u, us, hu, hus, rfl⟩ := List.forall₂_cons_right_iff.mp hts
  have hchain := hu.chain hus
  rw [Part.whole, hparts] at hd ⊢
  -- the flags come to nothing themselves, but what follows is read in their mode
  have hplan : (Tree.sequence span (Tree.chain flagsTree (u :: us))).plan .initial =
      .ok (.sequence .empty (q.chain qs).plan, .marker) := by
    simp only [Tree.chain, Tree.plan, flagsTree]
    change ((Tree.chain u us).plan .marker >>= _) = _
    rw [hchain.plan_eq]
    rfl
  have hweight : (Tree.sequence span (Tree.chain flagsTree (u :: us))).weight =
      32 + (q.chain qs).weight := by
    rw [Tree.weight, Tree.chain, Tree.weight, hchain.weight_eq, flagsTree, Tree.weight]
  have hdepth : (Tree.sequence span (Tree.chain flagsTree (u :: us))).checkDepth 0 = .ok ⟨⟩ := by
    simp only [Part.inside, Part.chain, Part.pair, Part.flags] at hd
    rw [Tree.checkDepth, show deeper 0 span = .ok 1 from rfl]
    exact hchain.checkDepth_eq 1 (by omega)
  have hok : Tree.read (Grammar.flags.toList ++ x ++ Grammar.tail.toList) =
      .ok (.sequence span (Tree.chain flagsTree (u :: us))) := by
    rw [hread]
    dsimp only
    rw [hdepth]
    rfl
  rw [compile, hok]
  dsimp only
  rw [hplan]
  dsimp only
  rw [hweight]
  rfl

end Pattern

end Timekeeper
