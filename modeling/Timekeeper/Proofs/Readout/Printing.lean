import Timekeeper.Proofs.Readout.Amount
import Timekeeper.Proofs.Readout.Extraction

/-!
# Reading undoes printing

A **transcript** is what a benchmark program prints: about each of its tests a block with the number
of the test, a title, and the time it took on a line of its own; and perhaps the total on the last
line. Whatever the tests, their order, the titles and the amounts are, the readout of a transcript
has the amounts that were printed and nothing else (`Readout.ofText_transcript`).

Three phrases are looked for, and all that matters is where they begin to occur. A part of the
text is **free** of a phrase when that is nowhere in the part, and a search goes past free parts
(`Phrase.Free.find?_occurs`, `Phrase.Free.findSome?_here`). Blocks of other tests are free of the
phrase of a test, since the numbers end in a colon (`Phrase.eq_of_occurs_test`), and all blocks
are free of the phrase of the total. Behind the phrase of its test, a block is free of the next
phrase up to the amount. Titles must not have the phrases in them, but they need no care at their
ends: no phrase goes on past the end of a line.
-/

namespace Timekeeper

/-! ### Transcripts -/

/-- A **title**: text of any number of lines in which neither the phrase of a standard test nor
the one in front of its duration occurs. -/
structure Title where
  chars : List Char
  clear : ∀ rest ∈ chars.tails, occurs Phrase.sure.chars rest = false ∧
    ∀ n < PlainTable.standardTests.length, occurs (Phrase.test (n + 1)).chars rest = false

/-- What a program prints about one test. -/
structure Block where
  test : Fin PlainTable.standardTests.length
  title : Title
  amount : Amount

namespace Block

/-- The number of the test; the numbers begin at one. -/
def number (b : Block) : Nat := b.test + 1

/-- The identifier of the test. -/
def id (b : Block) : String := PlainTable.standardTests[b.test].1

/-- A block as it is printed. -/
def chars (b : Block) : List Char :=
  ['T', 'e', 's', 't', ' '] ++ Nat.toDigits 10 b.number ++ [':', ' '] ++ b.title.chars ++
    ['\n', ' ', ' ', 'S', 'u', 'r', 'e', ':', ' '] ++ b.amount.chars ++ ['\n']

/-- What stands between the two phrases of a block. -/
def between (b : Block) : List Char := ' ' :: (b.title.chars ++ ['\n', ' ', ' '])

/-- A block is the phrase of its test, and further on another phrase in front of a measurement. -/
theorem chars_eq (b : Block) : b.chars = (Phrase.test b.number).chars ++
    (b.between ++ (Phrase.sure.chars ++ (b.amount.measurement.chars ++ ['\n']))) := by
  simp [chars, between, Phrase.test, Phrase.sure, b.amount.chars_measurement]

end Block

/-- What a program prints: blocks about different tests, and the total if it states one. -/
structure Transcript where
  blocks : List Block
  nodup : (blocks.map Block.test).Nodup
  total? : Option Amount

namespace Transcript

/-- The line with the total. -/
def footer (out : Transcript) : List Char :=
  match out.total? with
  | none => []
  | some a =>
    ['T', 'O', 'P', 'L', 'A', 'M', ' ', 'S', 'U', 'R', 'E', ':', ' '] ++ a.chars ++ ['\n']

/-- A transcript as text. -/
def chars (out : Transcript) : List Char := out.blocks.flatMap Block.chars ++ out.footer

theorem footer_eq {out : Transcript} {a : Amount} (h : out.total? = some a) :
    out.footer = Phrase.total.chars ++ (a.measurement.chars ++ ['\n']) := by
  simp [footer, h, Phrase.total, a.chars_measurement]

end Transcript

/-! ### Parts of a text without an occurrence -/

/-- A part of a text is **free** of a phrase if the phrase occurs at none of its places. What
stands behind the part counts, since a phrase may begin in the part and end behind it. -/
def Phrase.Free (p : Phrase) (part behind : List Char) : Prop :=
  ∀ rest, rest <:+ part → rest ≠ [] → occurs p.chars (rest ++ behind) = false

namespace Phrase.Free

variable {p : Phrase} {x y z : List Char} {c : Char}

theorem nil : p.Free [] y := fun _ hrest hne => absurd (List.suffix_nil.mp hrest) hne

theorem cons (hc : occurs p.chars (c :: (x ++ y)) = false) (hx : p.Free x y) :
    p.Free (c :: x) y := by
  intro rest hrest hne
  obtain rfl | hrest := List.suffix_cons_iff.mp hrest
  · exact hc
  · exact hx rest hrest hne

theorem head (h : p.Free (c :: x) y) : occurs p.chars (c :: (x ++ y)) = false :=
  h _ List.suffix_rfl (List.cons_ne_nil c x)

theorem tail (h : p.Free (c :: x) y) : p.Free x y :=
  fun rest hrest hne => h rest (hrest.trans (List.suffix_cons c x)) hne

theorem append (hx : p.Free x (z ++ y)) (hz : p.Free z y) : p.Free (x ++ z) y := by
  induction x with
  | nil => exact hz
  | cons c x ih =>
    rw [List.cons_append]
    refine cons ?_ (ih hx.tail)
    rw [List.append_assoc]
    exact hx.head

/-- A part is free of a phrase if no character of it begins the phrase. -/
theorem of_fold_ne {h : Char} (hp : p.chars.head? = some h)
    (hx : ∀ c ∈ x, Unicode.fold c ≠ Unicode.fold h) : p.Free x y := by
  intro rest hrest hne
  obtain ⟨c, rest, rfl⟩ := List.exists_cons_of_ne_nil hne
  rw [Bool.eq_false_iff]
  intro ho
  rw [List.head?_eq_getElem?] at hp
  obtain ⟨d, hd, hfold⟩ := getElem?_of_occurs ho hp
  obtain rfl : c = d := by simpa using hd
  exact hx c (hrest.subset List.mem_cons_self) hfold

theorem of_all {h : Char} (hp : p.chars.head? = some h)
    (hx : (x.all fun c => Unicode.fold c != Unicode.fold h) = true) : p.Free x y :=
  of_fold_ne hp fun c hc => by simpa using List.all_eq_true.mp hx c hc

private theorem fold_ne_of_isPlain (hc : isPlain c = true) :
    Unicode.fold '\n' ≠ Unicode.fold c := by
  intro h
  have hline : c = '\n' := by
    obtain h | h := Unicode.eq_of_fold_eq (by decide) (by decide) (by decide) (h.symm.trans rfl) <;>
      exact h
  rw [hline] at hc
  contradiction

/-- A phrase does not go on past the end of a line. -/
theorem of_not_occurs (hx : ∀ rest ∈ x.tails, occurs p.chars rest = false) :
    p.Free x ('\n' :: y) := by
  intro rest hrest _
  have hrest' := hx rest ((List.mem_tails _ _).mpr hrest)
  by_cases hle : p.chars.length ≤ rest.length
  · rwa [occurs_append hle]
  -- otherwise one of the characters of the phrase would meet the end of the line
  rw [Bool.eq_false_iff]
  intro ho
  obtain ⟨c, hc⟩ : ∃ c, p.chars[rest.length]? = some c :=
    ⟨_, List.getElem?_eq_getElem (Nat.not_le.mp hle)⟩
  obtain ⟨d, hd, hfold⟩ := getElem?_of_occurs ho hc
  obtain rfl : d = '\n' := by simpa using hd.symm
  exact fold_ne_of_isPlain (p.plain c (List.mem_of_getElem? hc)) hfold

/-! ### Searching past free parts -/

theorem findSome?_here (hx : p.Free x y) :
    (x ++ y).tails.findSome? (PlainMarker.here p) = y.tails.findSome? (PlainMarker.here p) := by
  induction x with
  | nil => rfl
  | cons c x ih =>
    have hnone : PlainMarker.here p (c :: (x ++ y)) = none := by
      rw [PlainMarker.here, hx.head]
      rfl
    rw [List.cons_append, List.tails_cons, List.findSome?_cons, hnone]
    exact ih hx.tail

theorem find?_occurs (hx : p.Free x y) :
    (x ++ y).tails.find? (occurs p.chars) = y.tails.find? (occurs p.chars) := by
  induction x with
  | nil => rfl
  | cons c x ih =>
    rw [List.cons_append, List.tails_cons, List.find?_cons, hx.head]
    exact ih hx.tail

end Phrase.Free

theorem tails_find?_of_occurs {p : Phrase} {x : List Char} (h : occurs p.chars x = true) :
    x.tails.find? (occurs p.chars) = some x := by
  cases x with
  | nil => exact List.find?_cons_of_pos h
  | cons c x => rw [List.tails_cons, List.find?_cons_of_pos h]

/-! ### Phrases against one another -/

/-- Where the phrase of one test occurs at the front of the phrase of another, they are the same
test: the digits end in front of the colon in both. -/
theorem Phrase.eq_of_occurs_test {n k : Nat} {x : List Char}
    (h : occurs (test n).chars ((test k).chars ++ x) = true) : n = k := by
  have hdigits (m : Nat) : ∀ d ∈ Nat.toDigits 10 m, d.isDigit = true :=
    fun d hd => Nat.isDigit_of_mem_toDigits (by decide) (by decide) hd
  have hfold (m : Nat) : (Nat.toDigits 10 m).map Unicode.fold = Nat.toDigits 10 m :=
    (List.map_congr_left fun d hd => Measurement.fold_of_isDigit (hdigits m d hd)).trans
      (List.map_id _)
  rw [chars_test, chars_test, List.append_assoc, occurs_append_append] at h
  obtain ⟨rest, hrest⟩ := List.isPrefixOf_iff_prefix.mp h
  simp only [List.map_append, List.append_assoc, hfold] at hrest
  have htake := congrArg (List.takeWhile Char.isDigit) hrest
  rw [Measurement.takeWhile_append_eq (hdigits n) rfl,
    Measurement.takeWhile_append_eq (hdigits k) rfl] at htake
  have hvalue := congrArg (Nat.ofDigitChars 10 · 0) htake
  simpa using hvalue

theorem Phrase.not_occurs_test {n k : Nat} (h : n ≠ k) (x : List Char) :
    occurs (test n).chars ((test k).chars ++ x) = false := by
  rw [Bool.eq_false_iff]
  exact fun ho => h (eq_of_occurs_test ho)

theorem Phrase.not_occurs_total_test (k : Nat) (x : List Char) :
    occurs total.chars ((test k).chars ++ x) = false := rfl

theorem Phrase.not_occurs_test_total (n : Nat) (x : List Char) :
    occurs (test n).chars (total.chars ++ x) = false := rfl

/-- The phrase in front of the total ends as the one in front of a duration does. -/
theorem Phrase.not_occurs_total {x : List Char}
    (h : ∀ rest ∈ x.tails, occurs sure.chars rest = false) :
    ∀ rest ∈ x.tails, occurs total.chars rest = false := by
  intro rest hrest
  rw [Bool.eq_false_iff]
  intro ho
  let front : List Char := ['T', 'O', 'P', 'L', 'A', 'M', ' ']
  have htotal : occurs (front ++ sure.chars) rest = true := ho
  have hsure := occurs_drop_of_append htotal
  have hsuffix := (List.drop_suffix front.length rest).trans ((List.mem_tails _ _).mp hrest)
  rw [h _ ((List.mem_tails _ _).mpr hsuffix)] at hsure
  contradiction

/-! ### What is free of which phrase -/

namespace Phrase.Free

variable {p : Phrase} {x y : List Char} {c : Char}

/-- Amounts have no `t`, with which the phrases of tests and of the total begin. -/
theorem amount (a : Amount) (hp : p.chars.head? = some 'T') : p.Free a.measurement.chars y := by
  refine of_fold_ne hp fun c hc h => ?_
  have hform := a.wellFormed_measurement
  have hlower : 't' ∉ a.measurement.chars := hform.not_mem (by decide) (by decide) (by decide)
  have hupper : 'T' ∉ a.measurement.chars := hform.not_mem (by decide) (by decide) (by decide)
  obtain rfl | rfl := Unicode.eq_of_fold_eq (by decide) (by decide) (by decide) (h.trans rfl)
  · exact hlower hc
  · exact hupper hc

/-- The phrase of a test has a second `t`, but a blank behind it. So another phrase that begins
with the letter and no blank does not begin to occur there, unless at the front. -/
theorem test {n : Nat} (hp : ∃ rest, p.chars = 'T' :: c :: rest)
    (hc : Unicode.fold c ≠ Unicode.fold ' ')
    (hfront : occurs p.chars ((Phrase.test n).chars ++ y) = false) :
    p.Free (Phrase.test n).chars y := by
  obtain ⟨rest, hp⟩ := hp
  have hhead : p.chars.head? = some 'T' := by rw [hp]; rfl
  have hnumber : p.Free (' ' :: (Nat.toDigits 10 n ++ [':'])) y := by
    refine of_fold_ne hhead fun d hd => ?_
    obtain rfl | hd := List.mem_cons.mp hd
    · decide
    obtain hd | hd := List.mem_append.mp hd
    · have hdigit := Nat.isDigit_of_mem_toDigits (by decide) (by decide) hd
      rw [Measurement.fold_of_isDigit hdigit]
      rintro rfl
      exact absurd hdigit (by decide)
    · rw [List.mem_singleton.mp hd]
      decide
  -- the second letter of the phrase meets the blank
  have hsecond : occurs p.chars ('t' :: (' ' :: (Nat.toDigits 10 n ++ [':']) ++ y)) = false := by
    rw [hp, List.cons_append, occurs_cons, occurs_cons, beq_false_of_ne hc]
    simp
  have hword : p.Free ['e', 's'] ('t' :: (' ' :: (Nat.toDigits 10 n ++ [':'])) ++ y) :=
    of_all hhead (by decide)
  exact cons hfront (hword.append (cons hsecond hnumber))

/-- What stands between the phrases of a block is free of a phrase of which the title is. -/
theorem between (b : Block) {h : Char} (hp : p.chars.head? = some h)
    (hblank : Unicode.fold ' ' ≠ Unicode.fold h) (hline : Unicode.fold '\n' ≠ Unicode.fold h)
    (htitle : ∀ rest ∈ b.title.chars.tails, occurs p.chars rest = false) :
    p.Free b.between y := by
  have hlead : p.Free [' '] (b.title.chars ++ ['\n', ' ', ' '] ++ y) :=
    of_fold_ne hp fun c hc => by rwa [List.mem_singleton.mp hc]
  have hindent : p.Free ['\n', ' ', ' '] y := by
    refine of_fold_ne hp fun c hc => ?_
    obtain rfl | rfl | rfl : c = '\n' ∨ c = ' ' ∨ c = ' ' := by simpa using hc
    · exact hline
    · exact hblank
    · exact hblank
  exact hlead.append ((of_not_occurs htitle).append hindent)

/-- A block is free of a phrase that begins with the letter of its first phrase, if the phrase
occurs neither at the front of the block nor in the title. -/
theorem block (b : Block) (hp : ∃ rest, p.chars = 'T' :: c :: rest)
    (hc : Unicode.fold c ≠ Unicode.fold ' ')
    (hfront : ∀ x, occurs p.chars ((Phrase.test b.number).chars ++ x) = false)
    (htitle : ∀ rest ∈ b.title.chars.tails, occurs p.chars rest = false) :
    p.Free b.chars y := by
  have hhead : p.chars.head? = some 'T' := by
    obtain ⟨rest, hp⟩ := hp
    rw [hp]
    rfl
  have hsure : p.Free Phrase.sure.chars (b.amount.measurement.chars ++ ['\n'] ++ y) :=
    of_all hhead (by decide)
  have hline : p.Free ['\n'] y := of_all hhead (by decide)
  rw [b.chars_eq]
  exact (test hp hc (hfront _)).append
    ((between b hhead (by decide) (by decide) htitle).append
      (hsure.append ((amount b.amount hhead).append hline)))

theorem blocks {bs : List Block} (h : ∀ b ∈ bs, ∀ x, p.Free b.chars x) :
    p.Free (bs.flatMap Block.chars) y := by
  induction bs with
  | nil => exact nil
  | cons b bs ih =>
    rw [List.flatMap_cons]
    exact (h b List.mem_cons_self _).append (ih fun b' hb' => h b' (List.mem_cons_of_mem b hb'))

end Phrase.Free

/-! ### Readouts of transcripts -/

namespace Transcript

open PlainMarker

/-- A phrase with an amount behind it leads to the amount. -/
private theorem findSome?_here_amount (p : Phrase) (a : Amount) (x : List Char) :
    (p.chars ++ (a.measurement.chars ++ '\n' :: x)).tails.findSome? (here p) =
      some a.measurement := by
  have hhere : here p (p.chars ++ (a.measurement.chars ++ '\n' :: x)) = some a.measurement := by
    rw [here, if_pos (occurs_self_append _ _), List.drop_left, a.at?_measurement]
  obtain ⟨c, rest, hp⟩ := List.exists_cons_of_ne_nil p.ne_nil
  rw [hp, List.cons_append] at hhere ⊢
  rw [List.tails_cons, List.findSome?_cons, hhere]

private theorem free_test {bs : List Block} {n : Nat} {x : List Char}
    (hn : n < PlainTable.standardTests.length) (h : ∀ b ∈ bs, b.test.val ≠ n) :
    (Phrase.test (n + 1)).Free (bs.flatMap Block.chars) x :=
  .blocks fun b hb _ => .block b ⟨_, rfl⟩ (by decide)
    (Phrase.not_occurs_test fun heq => h b hb (Nat.succ.inj heq).symm)
    fun rest hrest => (b.title.clear rest hrest).2 n hn

private theorem free_total {bs : List Block} {x : List Char} :
    Phrase.total.Free (bs.flatMap Block.chars) x :=
  .blocks fun b _ _ => .block b ⟨_, rfl⟩ (by decide) (Phrase.not_occurs_total_test _)
    (Phrase.not_occurs_total fun rest hrest => (b.title.clear rest hrest).1)

/-- The total is read off the last line. -/
theorem duration?_total (out : Transcript) :
    (direct .total).duration? out.chars = out.total?.map Amount.milliseconds := by
  rw [duration?, find?_direct, chars, free_total.findSome?_here]
  cases htotal : out.total? with
  | none =>
    rw [footer, htotal]
    rfl
  | some a =>
    rw [footer_eq htotal, findSome?_here_amount]
    exact a.duration?_measurement

/-- The duration of a test is read off its block: no other block and nothing in front of the
amount leads to another one. -/
theorem duration?_of_mem {out : Transcript} {b : Block} (hb : b ∈ out.blocks) :
    (across (.test b.number) .sure).duration? out.chars = some b.amount.milliseconds := by
  obtain ⟨before, behind, hblocks⟩ := List.append_of_mem hb
  have hbefore : ∀ b' ∈ before, b'.test.val ≠ b.test.val := by
    intro b' hb' heq
    have hnodup := out.nodup
    rw [hblocks, List.map_append, List.map_cons, List.nodup_append] at hnodup
    exact hnodup.2.2 _ (List.mem_map_of_mem hb') _ List.mem_cons_self (Fin.ext heq)
  have hchars : out.chars = before.flatMap Block.chars ++ ((Phrase.test b.number).chars ++
      (b.between ++ (Phrase.sure.chars ++
        (b.amount.measurement.chars ++ '\n' :: (behind.flatMap Block.chars ++ out.footer))))) := by
    simp [chars, hblocks, Block.chars_eq]
  -- the phrase of the test occurs first at its block, and behind it the next one at the amount
  have hbetween : Phrase.sure.Free b.between (Phrase.sure.chars ++
      (b.amount.measurement.chars ++ '\n' :: (behind.flatMap Block.chars ++ out.footer))) :=
    .between b rfl (by decide) (by decide) fun rest hrest => (b.title.clear rest hrest).1
  rw [duration?, find?_across, hchars, Block.number, (free_test b.test.isLt hbefore).find?_occurs,
    tails_find?_of_occurs (occurs_self_append _ _), Option.bind_some, List.drop_left,
    hbetween.findSome?_here, findSome?_here_amount]
  exact b.amount.duration?_measurement

/-- A test without a block has no duration. -/
theorem duration?_of_not_mem (out : Transcript) {n : Nat}
    (hn : n < PlainTable.standardTests.length) (h : ∀ b ∈ out.blocks, b.test.val ≠ n) :
    (across (.test (n + 1)) .sure).duration? out.chars = none := by
  have hfooter : (Phrase.test (n + 1)).Free out.footer [] := by
    cases htotal : out.total? with
    | none =>
      rw [footer, htotal]
      exact .nil
    | some a =>
      have hphrase : (Phrase.test (n + 1)).Free Phrase.total.chars
          (a.measurement.chars ++ ['\n'] ++ []) :=
        .cons (Phrase.not_occurs_test_total _ _) (.of_all rfl (by decide))
      rw [footer_eq htotal]
      exact hphrase.append (.append (.amount a rfl) (.of_all rfl (by decide)))
  rw [duration?, find?_across, chars, (free_test hn h).find?_occurs, ← List.append_nil out.footer,
    hfooter.find?_occurs]
  rfl

end Transcript

/-- Reading undoes printing: the tests that have a duration are those that were printed, with the
amounts that were printed, and there is a total if one was printed. -/
theorem Readout.ofText_transcript : ∃ g, Grammar.standard = .ok g ∧ ∀ out : Transcript,
    (∀ b ∈ out.blocks,
      (Readout.ofText g out.chars).measurements.get? b.id = some b.amount.milliseconds) ∧
    (∀ id, (∀ b ∈ out.blocks, b.id ≠ id) →
      (Readout.ofText g out.chars).measurements.get? id = none) ∧
    (Readout.ofText g out.chars).total = out.total?.map Amount.milliseconds := by
  refine ⟨PlainTable.standard.grammar, PlainTable.standard_eq, fun out => ?_⟩
  rw [PlainTable.ofText_grammar]
  refine ⟨fun b hb => ?_, fun id hid => ?_, out.duration?_total⟩
  · have he := PlainTable.mem_tests_standard.mpr ⟨b.test, rfl⟩
    exact (PlainTable.get?_scan PlainTable.nodup_ids_standard he out.chars).trans
      (Transcript.duration?_of_mem hb)
  · by_contra hsome
    obtain ⟨value, hvalue⟩ := Option.ne_none_iff_exists'.mp hsome
    obtain ⟨e, he, rfl⟩ := PlainTable.exists_of_get?_scan hvalue
    have hscan := PlainTable.get?_scan PlainTable.nodup_ids_standard he out.chars
    obtain ⟨i, rfl⟩ := PlainTable.mem_tests_standard.mp he
    refine hsome (hscan.trans (out.duration?_of_not_mem i.isLt fun b hb heq => ?_))
    obtain rfl : b.test = i := Fin.ext heq
    exact hid b hb rfl

/-- A printout of one test, whose title has two lines, and of the total. -/
theorem Readout.ofText_transcript_factorial :
    let text := "Test 2: n!\nof 20\n  Sure: 0.5 s\nTOPLAM SURE: 1e3 us\n".toList
    ∃ g, Grammar.standard = .ok g ∧
      (Readout.ofText g text).measurements.get? "factorial" = some (.ofNat 500) ∧
      (Readout.ofText g text).total = some .one := by
  intro text
  let half : Decimal.Literal := ⟨⟨['0'], rfl⟩, some ⟨['5'], rfl⟩, none⟩
  let thousand : Decimal.Literal := ⟨⟨['1'], rfl⟩, none, some ⟨false, none, ⟨['3'], rfl⟩⟩⟩
  let block : Block :=
    ⟨⟨1, by decide⟩, ⟨"n!\nof 20".toList, by decide⟩, ⟨half, .seconds, "s", by decide, half.nearest,
      half.isNearest_nearest, by decide +kernel⟩⟩
  let out : Transcript :=
    ⟨[block], by decide, some ⟨thousand, .microseconds, "us", by decide, thousand.nearest,
      thousand.isNearest_nearest, by decide +kernel⟩⟩
  have htext : out.chars = text := by decide +kernel
  have hblock : block.amount.milliseconds = .ofNat 500 := by decide +kernel
  have htotal : out.total?.map Amount.milliseconds = some .one := by decide +kernel
  obtain ⟨g, hg, h⟩ := ofText_transcript
  obtain ⟨hblocks, -, hsum⟩ := h out
  rw [htext] at hblocks hsum
  exact ⟨g, hg, (hblocks block List.mem_cons_self).trans (congrArg some hblock),
    hsum.trans htotal⟩

end Timekeeper
