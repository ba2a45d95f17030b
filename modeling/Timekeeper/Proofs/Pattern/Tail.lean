import Timekeeper.Proofs.Pattern.Measured
import Timekeeper.Proofs.Pattern.Runs
import Timekeeper.Proofs.Readout.Measurement

/-!
# The tail of a measurement matches in one way

The tail of a marker's pattern could be matched in many ways: its repetitions may stop early,
its sign and its exponent part may be left out, and several spellings may fit a unit. From the
unit backwards, every part **rejects** the characters that the part in front of it repeats, so
that only the longest repetition can lead to a match, and whatever is optional is taken where it
can be. Two spellings of microseconds have the same fold; they lead to the same match.

Running the whole tail is thus a plain scan of a measurement, for every goal behind it
(`runAll_tail`).
-/

namespace Timekeeper

namespace Pattern

open Measurement

/-! ### Runs of parts -/

section Parts

variable {α : Type} {k : Goal α} {c : Cursor} {s : Captures} {f g : Char → Bool}

/-- Parts behind one another, run in front of a goal. -/
def runAll (parts : List Part) (k : Goal α) : Goal α := parts.foldr (·.plan.run) k

theorem runAll_append (ps qs : List Part) (k : Goal α) :
    runAll (ps ++ qs) k = runAll ps (runAll qs k) := List.foldr_append

theorem run_chain (p : Part) (ps : List Part) (k : Goal α) :
    (p.chain ps).plan.run k = runAll (p :: ps) k := by
  induction ps generalizing p with
  | nil => rfl
  | cons q ps ih =>
    change p.plan.run ((q.chain ps).plan.run k) = _
    rw [ih]
    rfl

theorem run_sequence (p : Part) (ps : List Part) (k : Goal α) :
    (p.sequence ps).plan.run k = runAll (p :: ps) k := by
  cases ps with
  | nil => rfl
  | cons q ps => exact run_chain p (q :: ps) k

/-- Of several parts the first one that leads to an answer counts. -/
theorem run_choices (p : Part) (ps : List Part) (k : Goal α) (c : Cursor) (s : Captures) :
    (p.choices ps).plan.run k c s = (p :: ps).findSome? fun q => q.plan.run k c s := by
  induction ps generalizing p with
  | nil =>
    rw [List.findSome?_cons, List.findSome?_nil]
    change p.plan.run k c s = _
    cases p.plan.run k c s <;> rfl
  | cons q ps ih =>
    change (p.plan.or (q.choices ps).plan).run k c s = _
    rw [Plan.run_or, List.findSome?_cons, ← ih]
    simp only [Plan.run, Goal.prefer, if_true]
    rfl

/-- A run of literals matches where they occur when case does not count. -/
theorem runAll_literals (x : List Char) (k : Goal α) (c : Cursor) (s : Captures) :
    runAll (x.map .literal) k c s = if occurs x c.rest then k (c.advance x.length) s else none := by
  induction x generalizing c with
  | nil => rfl
  | cons d x ih =>
    change (Plan.one (Mode.marker.single d)).run (runAll (x.map .literal) k) c s = _
    rw [run_one]
    cases hrest : c.rest with
    | nil => rfl
    | cons e rest =>
      have hnext := Cursor.rest_advance_one hrest
      have hsingle : Mode.marker.single d e = (Unicode.fold e == Unicode.fold d) := rfl
      simp only [ih, hnext, hsingle, occurs, List.map_cons, List.isPrefixOf, List.length_cons]
      rw [Nat.add_comm x.length, Cursor.advance_add]
      by_cases hfold : Unicode.fold d = Unicode.fold e
      · simp [hfold]
      · simp [hfold, Ne.symm hfold]

end Parts

/-! ### Classes of the tail -/

theorem ShortClass.holds_space (c : Char) : ShortClass.holds true c .space = Text.isBlank c := by
  by_cases hc : c.toNat < 128
  · have hascii : AsciiClass.space.holds c = Text.isBlank c :=
      Unicode.forall_ascii (P := fun c => AsciiClass.space.holds c = Text.isBlank c) (by decide) hc
    simpa [ShortClass.holds, hc] using hascii
  · simp [ShortClass.holds, hc]

private theorem toNat_lt_of_isAlpha {c : Char} (h : c.isAlpha = true) : c.toNat < 128 := by
  obtain hupper | hlower := Bool.or_eq_true_iff.mp h
  · have hle := UInt32.le_iff_toNat_le.mp (of_decide_eq_true hupper).2
    exact Nat.lt_of_le_of_lt hle (by decide)
  · have hle := UInt32.le_iff_toNat_le.mp (of_decide_eq_true (Bool.and_eq_true_iff.mp hlower).2)
    exact Nat.lt_of_le_of_lt hle (by decide)

/-- The classes of the tail have neither `k` nor `s`, so that in every mode they are what they are
where case counts. -/
private theorem folded_eq {f : Char → Bool} (hascii : ∀ d, f d = true → d.toNat < 128)
    (hlower : ∀ n < 128, f (Char.ofNat n).toLower = f (Char.ofNat n))
    (hupper : ∀ n < 128, f (Char.ofNat n).toUpper = f (Char.ofNat n))
    (hk : f 'k' = false) (hs : f 's' = false) (m : Mode) : m.folded f = f := by
  rw [Mode.folded]
  split
  · rename_i hcase
    funext c
    rw [Mode.variants, hcase]
    split
    · contradiction
    split
    · exact Unicode.any_caseVariants hascii hlower hupper hk hs c
    split
    · rename_i halpha
      have hc : c.toNat < 128 := toNat_lt_of_isAlpha halpha
      simp [Unicode.forall_ascii (P := fun d => f d.toLower = f d) hlower hc,
        Unicode.forall_ascii (P := fun d => f d.toUpper = f d) hupper hc]
    · simp
  · rfl

theorem Mode.folded_isSign (m : Mode) : m.folded isSign = isSign := by
  refine folded_eq (fun d hd => ?_) (by decide) (by decide) rfl rfl m
  obtain rfl | rfl := eq_of_isSign hd <;> decide

theorem Mode.folded_isDigit (m : Mode) : m.folded Char.isDigit = Char.isDigit :=
  folded_eq (fun _ => toNat_lt_of_isDigit) (by decide) (by decide) rfl rfl m

theorem Mode.folded_isFigure (m : Mode) : m.folded isFigure = isFigure :=
  folded_eq (fun _ => toNat_lt_of_isFigure) (by decide) (by decide) rfl rfl m

theorem Mode.folded_isExponentLetter (m : Mode) : m.folded isExponentLetter = isExponentLetter := by
  refine folded_eq (fun d hd => ?_) (by decide) (by decide) rfl rfl m
  obtain rfl | rfl := eq_of_isExponentLetter hd <;> decide

/-! ### Repetitions of the tail -/

section Repetitions

variable {α : Type} {k : Goal α} {f g : Char → Bool}

theorem Goal.Rejects.mono (hk : k.Rejects f) (h : ∀ d, g d = true → f d = true) : k.Rejects g :=
  fun c s d rest hrest hd => hk c s d rest hrest (h d hd)

/-- In front of a goal that fails at white space, all white space is passed over. -/
theorem run_blanks (hk : k.Rejects Text.isBlank) (c : Cursor) (s : Captures) :
    Part.blanks.plan.run k c s = k (c.advance (c.rest.takeWhile Text.isBlank).length) s := by
  have hplan : Part.blanks.plan = .repeated 0 none true (.one Text.isBlank) := by
    simp only [Part.blanks, Part.repeated, ShortClass.holds_space]
  rw [hplan, run_star_of_rejects hk]

/-- A class that is needed once is passed over with all of its characters that there are. -/
private theorem run_bracketed_plus {weight height : Nat} (hfold : Mode.marker.folded f = f)
    (hk : k.Rejects f) (c : Cursor) (s : Captures) :
    ((Part.bracketed f weight height).repeated 1 none).plan.run k c s =
      if (c.rest.takeWhile f).isEmpty then none
      else k (c.advance (c.rest.takeWhile f).length) s := by
  have hplan : ((Part.bracketed f weight height).repeated 1 none).plan =
      .repeated 1 none true (.one f) :=
    congrArg (fun f => Plan.repeated 1 none true (.one f)) hfold
  rw [hplan, run_plus_of_rejects hk]

theorem run_figures (hk : k.Rejects isFigure) (c : Cursor) (s : Captures) :
    Part.figures.plan.run k c s =
      if (c.rest.takeWhile isFigure).isEmpty then none
      else k (c.advance (c.rest.takeWhile isFigure).length) s :=
  run_bracketed_plus Mode.marker.folded_isFigure hk c s

theorem run_exponentDigits (hk : k.Rejects Char.isDigit) (c : Cursor) (s : Captures) :
    Part.exponentDigits.plan.run k c s =
      if (c.rest.takeWhile Char.isDigit).isEmpty then none
      else k (c.advance (c.rest.takeWhile Char.isDigit).length) s :=
  run_bracketed_plus Mode.marker.folded_isDigit hk c s

/-- In front of a goal that fails at a sign, a sign is passed over. -/
theorem run_sign (hk : k.Rejects isSign) (c : Cursor) (s : Captures) :
    Part.sign.plan.run k c s = k (c.advance (signOf c.rest).length) s := by
  have hrun : Part.sign.plan.run k = Goal.prefer true ((Plan.one isSign).run k) k :=
    congrArg (fun f => Goal.prefer true ((Plan.one f).run k) k) Mode.marker.folded_isSign
  rw [hrun, Goal.prefer, run_one]
  cases hrest : c.rest with
  | nil => rfl
  | cons d rest =>
    rw [signOf_cons]
    by_cases hd : isSign d = true
    · -- without the sign the goal fails, so only the match with it counts
      have hfail : k c s = none := hk c s d rest hrest hd
      simp only [hd, if_true, hfail, List.length_singleton]
      cases k (c.advance 1) s <;> rfl
    · simp only [hd, if_true]
      rfl

/-- An exponent part is passed over if it is complete. Where it is, the goal fails in front of
its letter. -/
theorem run_exponent (hdigit : k.Rejects Char.isDigit) (hletter : k.Rejects isExponentLetter)
    (c : Cursor) (s : Captures) :
    Part.exponent.plan.run k c s = k (c.advance (exponentOf c.rest).length) s := by
  have hsign : (Part.exponentDigits.plan.run k).Rejects isSign := by
    intro c s d rest hrest hd
    have hdigit' : d.isDigit = false := by
      obtain rfl | rfl := eq_of_isSign hd <;> rfl
    rw [run_exponentDigits hdigit, hrest, List.takeWhile_cons_of_neg (by simp [hdigit'])]
    rfl
  have hrun : Part.exponent.plan.run k = Goal.prefer true ((Plan.one isExponentLetter).run
      (Part.sign.plan.run (Part.exponentDigits.plan.run k))) k :=
    congrArg (fun f => Goal.prefer true ((Plan.one f).run
      (Part.sign.plan.run (Part.exponentDigits.plan.run k))) k) Mode.marker.folded_isExponentLetter
  rw [hrun, Goal.prefer, run_one]
  cases hrest : c.rest with
  | nil => rfl
  | cons d rest =>
    have hnext := Cursor.rest_advance_one hrest
    let digits := (rest.drop (signOf rest).length).takeWhile Char.isDigit
    have hmore : Part.sign.plan.run (Part.exponentDigits.plan.run k) (c.advance 1) s =
        if digits.isEmpty then none
        else k (c.advance (1 + ((signOf rest).length + digits.length))) s := by
      rw [run_sign hsign, run_exponentDigits hdigit, Cursor.rest_advance, hnext,
        Cursor.advance_add 1, Cursor.advance_add]
    simp only [hmore, if_true, exponentOf_cons]
    by_cases hd : isExponentLetter d = true
    · have hfail : k c s = none := hletter c s d rest hrest hd
      by_cases hempty : digits.isEmpty = true
      · -- a letter without digits is no exponent part: it is left to the goal, which fails
        simp only [hd, digits, hempty, if_true]
        rfl
      · have hlength : (d :: signOf rest ++ digits).length =
            1 + ((signOf rest).length + digits.length) := by
          simp only [List.length_append, List.length_cons]
          omega
        rw [Bool.not_eq_true] at hempty
        simp only [hd, digits, hempty, if_true, hfail, Bool.not_false, Bool.and_self, hlength]
        cases k (c.advance (1 + ((signOf rest).length + digits.length))) s <;> rfl
    · simp only [hd]
      rfl

end Repetitions

/-! ### The number -/

section Value

variable {α : Type} {k : Goal α}

/-- The number is remembered as it stands in the text. -/
theorem run_value (hfigure : k.Rejects isFigure) (hletter : k.Rejects isExponentLetter)
    (c : Cursor) (s : Captures) :
    Part.value.plan.run k c s =
      match numberOf? c.rest with
      | none => none
      | some number =>
        k (c.advance number.length) (⟨Grammar.valueName.toList, c.rest, number.length⟩ :: s) := by
  let remember : Goal α := fun c' s =>
    k c' (⟨Grammar.valueName.toList, c.rest, c.left - c'.left⟩ :: s)
  -- remembering changes the captures only, so what was rejected still is
  have hfigure' : remember.Rejects isFigure := fun c' _ d rest => hfigure c' _ d rest
  have hletter' : remember.Rejects isExponentLetter := fun c' _ d rest => hletter c' _ d rest
  -- from the exponent part to the sign, each part rejects what the one in front of it repeats
  have hexponent := run_exponent
    (hfigure'.mono fun d hd => by simp [isFigure, hd]) hletter'
  have hfigures : (Part.exponent.plan.run remember).Rejects isFigure := by
    intro c s d rest hrest hd
    rw [hexponent, hrest, exponentOf_cons, not_isExponentLetter_of_isFigure hd]
    exact hfigure' c s d rest hrest hd
  have hsign : (Part.figures.plan.run (Part.exponent.plan.run remember)).Rejects isSign := by
    intro c s d rest hrest hd
    rw [run_figures hfigures, hrest,
      List.takeWhile_cons_of_neg (by simp [not_isFigure_of_isSign hd])]
    rfl
  have hrun : Part.value.plan.run k c s =
      runAll [.sign, .figures, .exponent] remember c s := congrFun (congrFun (run_sequence ..) c) s
  let sign := signOf c.rest
  let figures := (c.rest.drop sign.length).takeWhile isFigure
  let exponent := exponentOf (c.rest.drop (sign.length + figures.length))
  have hall : Part.value.plan.run k c s =
      if figures.isEmpty then none
      else remember (c.advance (sign.length + figures.length + exponent.length)) s := by
    rw [hrun]
    change Part.sign.plan.run (Part.figures.plan.run (Part.exponent.plan.run remember)) c s = _
    rw [run_sign hsign, run_figures hfigures, hexponent, Cursor.rest_advance, Cursor.rest_advance,
      Cursor.rest_advance, Cursor.advance_add, Cursor.advance_add, List.drop_drop]
  rw [hall]
  by_cases hempty : figures.isEmpty = true
  · have hnone : numberOf? c.rest = none := if_pos hempty
    rw [hnone, if_pos hempty]
  · have hsome : numberOf? c.rest = some (sign ++ figures ++ exponent) := if_neg hempty
    have hlength : (sign ++ figures ++ exponent).length =
        sign.length + figures.length + exponent.length := by
      rw [List.length_append, List.length_append]
    have hle := (numberOf?_isPrefix hsome).length_le
    rw [← c.left_eq, hlength] at hle
    simp only [hsome, if_neg hempty, hlength, remember, Cursor.left_advance]
    rw [Nat.sub_sub_self hle]

end Value

/-! ### The unit -/

section Unit

variable {α : Type}

private theorem isWord_of_fold_eq_s {d : Char} (h : Unicode.fold d = 's') :
    isWord true d = true := by
  obtain rfl | rfl | rfl := Unicode.eq_of_fold_eq_s h <;> decide +kernel

/-- Behind a spelling the last character is one of a word. -/
theorem wordSide_before_of_occurs {x : List Char} (hx : x ∈ spellings) {c : Cursor}
    (ho : occurs x c.rest = true) : wordSide true (c.advance x.length).before = true := by
  have hlast : ∀ x ∈ spellings, ∃ n, x.length = n + 1 ∧ x[n]? = some 's' := by
    intro x hx
    refine ⟨x.length - 1, ?_, ?_⟩ <;> revert x <;> decide
  obtain ⟨n, hlength, hn⟩ := hlast x hx
  obtain ⟨d, hd, hfold⟩ := getElem?_of_occurs ho hn
  rw [hlength, Cursor.before_advance hd]
  exact isWord_of_fold_eq_s hfold

/-- So the border of a word is where no word goes on. -/
private theorem run_boundary {x : List Char} (hx : x ∈ spellings) {c : Cursor}
    (ho : occurs x c.rest = true) (k : Goal α) (s : Captures) :
    Part.boundary.plan.run k (c.advance x.length) s =
      if !wordSide true (c.rest.drop x.length).head? then k (c.advance x.length) s else none := by
  have hholds : (Condition.boundary true).holds (c.advance x.length).before
      (c.advance x.length).rest.head? = !wordSide true (c.rest.drop x.length).head? := by
    rw [Condition.holds, wordSide_before_of_occurs hx ho, Cursor.rest_advance]
    cases wordSide true (c.rest.drop x.length).head? <;> rfl
  change (if _ then _ else _) = _
  rw [hholds]

/-- A spelling as a part. -/
private def word : List Char → Part
  | [] => .flags
  | d :: x => (Part.literal d).sequence (x.map .literal)

/-- The unit is remembered as it stands in the text. -/
theorem run_unit (k : Goal α) (c : Cursor) (s : Captures) :
    Part.unit.plan.run (Part.boundary.plan.run k) c s =
      match unitOf? c.rest with
      | none => none
      | some unit =>
        k (c.advance unit.length) (⟨Grammar.unitName.toList, c.rest, unit.length⟩ :: s) := by
  let remember : Goal α := fun c' s =>
    Part.boundary.plan.run k c' (⟨Grammar.unitName.toList, c.rest, c.left - c'.left⟩ :: s)
  let found (n : Nat) : Option α :=
    k (c.advance n) (⟨Grammar.unitName.toList, c.rest, n⟩ :: s)
  have hrun : Part.unit.plan.run (Part.boundary.plan.run k) c s =
      (spellings.map word).findSome? fun q => q.plan.run remember c s := run_choices ..
  have hword : ∀ x ∈ spellings, (word x).plan.run remember c s =
      if endsWord c.rest x then found x.length else none := by
    intro x hx
    have hall : (word x).plan.run remember c s = runAll (x.map .literal) remember c s := by
      cases x with
      | nil => rfl
      | cons d x => exact congrFun (congrFun (run_sequence ..) c) s
    rw [hall, runAll_literals, endsWord]
    by_cases ho : occurs x c.rest = true
    · have hle : x.length ≤ c.left := c.left_eq ▸ length_le_of_occurs ho
      simp only [ho, if_true, Bool.true_and, remember, found, run_boundary hx ho,
        Cursor.left_advance, Nat.sub_sub_self hle]
    · simp [ho]
  -- spellings that occur at one place are equally long, so they lead to the same match
  have hsame : spellings.Pairwise fun x y => endsWord c.rest x = true →
      endsWord c.rest y = true → found x.length = none → found y.length = none := by
    refine List.pairwise_of_forall_mem_list fun x hx y hy hpx hpy hnone => ?_
    rw [endsWord, Bool.and_eq_true] at hpx hpy
    rwa [← length_eq_of_occurs hx hy hpx.1 hpy.1]
  have hfound : (spellings.map word).findSome? (fun q => q.plan.run remember c s) =
      (spellings.find? (endsWord c.rest)).bind fun x => found x.length := by
    rw [List.findSome?_map]
    exact findSome?_eq_bind hword hsame
  rw [hrun, hfound, unitOf?]
  cases hfind : spellings.find? (endsWord c.rest) with
  | none => rfl
  | some x =>
    have hends : endsWord c.rest x = true := List.find?_some hfind
    rw [endsWord, Bool.and_eq_true] at hends
    have hlength : (c.rest.take x.length).length = x.length :=
      List.length_take_of_le (length_le_of_occurs hends.1)
    simp only [Option.map_some, Option.bind_some, hlength, found]

end Unit

/-! ### The whole tail -/

section Whole

variable {α : Type} {k : Goal α} {f : Char → Bool}

/-- No unit begins with a character that is no letter of one. -/
private theorem rejects_unit (hf : ∀ d, Unicode.fold d ∈ unitLetters → f d = false) (k : Goal α) :
    (Part.unit.plan.run (Part.boundary.plan.run k)).Rejects f := by
  intro c s d rest hrest hd
  rw [run_unit, hrest]
  cases hunit : unitOf? (d :: rest) with
  | none => rfl
  | some unit =>
    rw [hf d ((isUnit_of_unitOf? hunit).1.fold_mem_of_isPrefix (unitOf?_isPrefix hunit))] at hd
    contradiction

private theorem rejects_blanks (hblank : k.Rejects Text.isBlank) (hk : k.Rejects f)
    (hf : ∀ d, f d = true → Text.isBlank d = false) : (Part.blanks.plan.run k).Rejects f := by
  intro c s d rest hrest hd
  rw [run_blanks hblank, hrest, List.takeWhile_cons_of_neg (by simp [hf d hd])]
  exact hk c s d rest hrest hd

private theorem numberOf?_cons_eq_none {d : Char} (hd : Text.isBlank d = true) (rest : List Char) :
    numberOf? (d :: rest) = none := by
  cases hnumber : numberOf? (d :: rest) with
  | none => rfl
  | some number =>
    obtain ⟨e, tail, rfl, he⟩ := (isNumber_of_numberOf? hnumber).exists_cons
    rw [(List.cons_prefix_cons.mp (numberOf?_isPrefix hnumber)).1, hd] at he
    contradiction

/-- What the tail remembers of a measurement at the front of a text. -/
def captured (text : List Char) (m : Measurement) : Captures :=
  [⟨Grammar.unitName.toList, text.drop (m.lead.length + m.number.length + m.gap.length),
      m.unit.length⟩,
    ⟨Grammar.valueName.toList, text.drop m.lead.length, m.number.length⟩]

/-- The tail matches where a measurement stands, in one way only, and remembers its number and
its unit. -/
theorem runAll_tail (k : Goal α) (c : Cursor) (s : Captures) :
    runAll Part.tail k c s =
      match Measurement.at? c.rest with
      | none => none
      | some m => k (c.advance m.length) (captured c.rest m ++ s) := by
  let behind := Part.unit.plan.run (Part.boundary.plan.run k)
  -- the unit rejects white space and all that may end a number
  have hblank : behind.Rejects Text.isBlank := rejects_unit (fun _ => not_isBlank_of_fold_mem) k
  have hfigure : behind.Rejects isFigure := rejects_unit (fun _ => not_isFigure_of_fold_mem) k
  have hletter : behind.Rejects isExponentLetter :=
    rejects_unit (fun _ => not_isExponentLetter_of_fold_mem) k
  have hunit : ∀ c s, behind c s = _ := run_unit k
  have hvalue := run_value (k := Part.blanks.plan.run behind)
    (rejects_blanks hblank hfigure fun _ => not_isBlank_of_isFigure)
    (rejects_blanks hblank hletter fun _ => not_isBlank_of_isExponentLetter)
  -- and the number rejects white space, so that both runs of white space are as long as can be
  have hreject : (Part.value.plan.run (Part.blanks.plan.run behind)).Rejects Text.isBlank := by
    intro c s d rest hrest hd
    rw [hvalue, hrest, numberOf?_cons_eq_none hd]
  change Part.blanks.plan.run (Part.value.plan.run (Part.blanks.plan.run behind)) c s = _
  rw [run_blanks hreject, hvalue, Cursor.rest_advance, at?]
  cases hnumber : numberOf? (c.rest.drop (c.rest.takeWhile Text.isBlank).length) with
  | none => rfl
  | some number =>
    dsimp only
    rw [run_blanks hblank, hunit]
    simp only [← Cursor.advance_add, Cursor.rest_advance, List.drop_drop]
    cases unitOf? _ with
    | none => rfl
    | some unit => rfl

end Whole

end Pattern

end Timekeeper
