import Timekeeper.Proofs.Grammar.Accepted
import Timekeeper.Proofs.Pattern.Tail
import Timekeeper.Proofs.Readout.Measurements

/-!
# Reading with plain markers is scanning

The pattern of a plain marker reads as its phrases, with a lazy gap between two of them, and so
it is compiled to a plan that does not depend on how it was read (`PlainMarker.plan`). At one
place that plan matches if the phrase occurs there and a measurement stands behind it; across a
gap, the first tail of the text behind the first phrase that begins so is taken. Searching a
text for the plan is therefore what the scanner does, up to one difference: the search goes on
from every place at which the first phrase occurs, the scanner only from the first one. But what
stands behind a later place stands behind the first one too.

An accepted table comes to a grammar of these plans (`PlainTable.grammar`), and its readout of
any text is the scanner's (`Readout.ofText_eq_scan`). The standard table is one that is accepted
(`PlainTable.standard_eq`).
-/

namespace Timekeeper

open Pattern

/-! ### Where markers lead -/

namespace PlainMarker

/-- The measurement behind a phrase with which a text begins. -/
def here (p : Phrase) (text : List Char) : Option Measurement :=
  if occurs p.chars text then Measurement.at? (text.drop p.chars.length) else none

private theorem least_behind? (p : Phrase) {text : List Char} {start : Nat}
    (h : start ≤ text.length) :
    least text start (behind? p text) = (text.drop start).tails.findSome? (here p) := by
  have hbehind (n : Nat) : behind? p text (start + n) = here p ((text.drop start).drop n) := by
    rw [behind?, here, List.drop_drop, List.drop_drop, Nat.add_assoc]
  have hlength : text.length + 1 - start = (text.drop start).length + 1 := by
    rw [List.length_drop]
    omega
  rw [least, tails_eq_map_drop, List.findSome?_map, List.range'_eq_map_range, List.findSome?_map,
    hlength]
  congr 1
  exact funext hbehind

/-- A direct marker leads to what stands behind the first tail of the text of its form. -/
theorem find?_direct (p : Phrase) (text : List Char) :
    (direct p).find? text = text.tails.findSome? (here p) :=
  least_behind? p (Nat.zero_le _)

/-- A marker with a gap leads from the first occurrence of its first phrase to what stands behind
the first tail of its second form from there on. -/
theorem find?_across (p q : Phrase) (text : List Char) :
    (across p q).find? text = (text.tails.find? (occurs p.chars)).bind fun behind =>
      (behind.drop p.chars.length).tails.findSome? (here q) := by
  have hplace : text.tails.find? (occurs p.chars) = (place? p text).map fun n => text.drop n := by
    rw [tails_eq_map_drop, List.find?_map, place?]
    rfl
  rw [hplace, find?]
  cases hfound : place? p text with
  | none => rfl
  | some place =>
    have hocc : occurs p.chars (text.drop place) = true := by
      simpa using List.find?_some hfound
    have hle := length_le_of_occurs hocc
    have hpos := List.length_pos_iff.mpr p.ne_nil
    rw [List.length_drop] at hle
    simp only [Option.map_some, Option.bind_some, List.drop_drop]
    exact least_behind? q (by omega)

/-! ### Plans of plain markers -/

/-- Any text, as little as possible. -/
def gap : Part := ⟨.repeated 0 none false (.one fun _ => true), 596, 1⟩

/-- What a plain marker comes to. -/
def parts : PlainMarker → List Part
  | direct p => p.chars.map .literal
  | across p q => p.chars.map .literal ++ (gap :: q.chars.map .literal)

/-- The plan of a plain marker with the tail behind it. -/
def plan (m : PlainMarker) : Plan := (Part.whole m.parts).plan

private theorem not_isMeta_of_isPlain {c : Char} (h : isPlain c = true) : isMeta c = false := by
  have hplain : ∀ d, isMeta d = true → isPlain d = false := by simp [isMeta, isPlain]
  rw [Bool.eq_false_iff]
  intro hmeta
  rw [hplain c hmeta] at h
  contradiction

private theorem readsAs_pattern (m : PlainMarker) : ReadsAs [] m.pattern.toList m.parts [] := by
  have phrase (p : Phrase) : ReadsAs [] p.chars (p.chars.map .literal) [] :=
    .literals fun c hc => not_isMeta_of_isPlain (p.plain c hc)
  have calm (p : Phrase) : Calm p.chars :=
    calm_of_not_isMeta fun c hc => not_isMeta_of_isPlain (p.plain c hc)
  cases m with
  | direct p =>
    rw [pattern, String.toList_ofList]
    exact phrase p
  | across p q =>
    rw [pattern, String.toList_ofList, List.append_assoc]
    exact (phrase p).append (ReadsAs.lazyDots.append (phrase q) (calm q)) (by simp [Calm])

/-- The depth does not grow with the length of a marker. -/
private theorem height_whole_le (m : PlainMarker) : (Part.whole m.parts).height ≤ nestingLimit := by
  have hliterals (x : List Char) : ∀ q ∈ x.map Part.literal, q.height ≤ 10 := by
    intro q hq
    obtain ⟨c, -, rfl⟩ := List.mem_map.mp hq
    exact Nat.zero_le _
  have hparts : ∀ q ∈ m.parts, q.height ≤ 10 := by
    cases m with
    | direct p => exact hliterals _
    | across p q =>
      intro r hr
      obtain hr | hr := List.mem_append.mp hr
      · exact hliterals _ r hr
      obtain rfl | hr := List.mem_cons.mp hr
      · decide
      · exact hliterals _ r hr
  have htail : ∀ q ∈ Part.tail, q.height ≤ 10 := by decide
  have hchain : (Part.flags.chain (m.parts ++ Part.tail)).height ≤ 10 :=
    Part.height_chain_le (by decide) fun q hq => (List.mem_append.mp hq).elim (hparts q) (htail q)
  exact Nat.le_trans (Nat.succ_le_succ hchain) (by decide)

private theorem toList_patternOf (marker : String) : (Grammar.patternOf marker).toList =
    Grammar.flags.toList ++ marker.toList ++ Grammar.tail.toList := by
  rw [Grammar.patternOf, String.toList_append, String.toList_append]

/-- A plain marker is compiled to its plan unless it is too long. -/
theorem compile_pattern {id : String} {m : PlainMarker} {plan : Plan}
    (h : Grammar.compile id m.pattern = .ok plan) : plan = m.plan := by
  rw [Grammar.compile, toList_patternOf, compile_of_readsAs (readsAs_pattern m)
    (height_whole_le m)] at h
  by_cases hsize : sizeLimit < (Part.whole m.parts).weight
  · rw [if_pos hsize] at h
    contradiction
  · rw [if_neg hsize] at h
    exact (Except.ok.inj h).symm

/-- A plain marker that is not too long is compiled. -/
theorem compile_eq_plan {id : String} {m : PlainMarker}
    (h : (Part.whole m.parts).weight ≤ sizeLimit) :
    Grammar.compile id m.pattern = .ok m.plan := by
  rw [Grammar.compile, toList_patternOf, compile_of_readsAs (readsAs_pattern m)
    (height_whole_le m), if_neg (Nat.not_lt.mpr h)]
  rfl

/-! ### Matches of plain markers -/

/-- What a marker's pattern matches at the front of a text: the measurement, and the text that
it stands in front of. -/
def matched (text : List Char) : PlainMarker → Option (List Char × Measurement)
  | direct p => (here p text).map fun m => (text.drop p.chars.length, m)
  | across p q =>
    if occurs p.chars text then
      (text.drop p.chars.length).tails.findSome? fun behind =>
        (here q behind).map fun m => (behind.drop q.chars.length, m)
    else none

private theorem runAll_phrase (p : Phrase) (c : Cursor) (s : Captures) :
    runAll (p.chars.map .literal) (runAll Part.tail fun _ s => some s) c s =
      (here p c.rest).map fun m => captured (c.rest.drop p.chars.length) m ++ s := by
  rw [runAll_literals, here]
  by_cases ho : occurs p.chars c.rest = true
  · rw [if_pos ho, if_pos ho, runAll_tail, Cursor.rest_advance]
    cases Measurement.at? _ <;> rfl
  · rw [if_neg ho, if_neg ho]
    rfl

/-- The pattern of a marker matches where the scanner says and remembers what it says. -/
theorem captures?_plan (m : PlainMarker) (c : Cursor) :
    m.plan.captures? c = (m.matched c.rest).map fun x => captured x.1 x.2 := by
  have hrun : m.plan.captures? c =
      runAll (m.parts ++ Part.tail) (fun _ s => some s) c [] := by
    change (Part.flags.chain (m.parts ++ Part.tail)).plan.run _ c [] = _
    rw [run_chain]
    rfl
  rw [hrun, runAll_append]
  cases m with
  | direct p =>
    rw [parts, runAll_phrase, matched, Option.map_map]
    simp only [List.append_nil]
    rfl
  | across p q =>
    rw [parts, runAll_append, runAll_literals, matched]
    by_cases ho : occurs p.chars c.rest = true
    · rw [if_pos ho, if_pos ho]
      let answer (behind : List Char) (s : Captures) : Option Captures :=
        (here q behind).map fun m => captured (behind.drop q.chars.length) m ++ s
      -- behind the first phrase the gap is lazy, so the goal is tried at one tail after the other
      have hgap : gap.plan.run (runAll (q.chars.map .literal) (runAll Part.tail fun _ s => some s))
          (c.advance p.chars.length) [] =
          (c.advance p.chars.length).rest.tails.findSome? (answer · []) :=
        run_lazyDots (g := answer) (runAll_phrase q) _ _
      refine hgap.trans ?_
      rw [Cursor.rest_advance, List.map_findSome?]
      congr 1
      funext behind
      simp only [Function.comp_apply, answer, List.append_nil, Option.map_map]
      rfl
    · rw [if_neg ho, if_neg ho]
      rfl

private theorem at?_of_matched {m : PlainMarker} {text : List Char} {x : List Char × Measurement}
    (h : m.matched text = some x) : Measurement.at? x.1 = some x.2 := by
  have phrase {p : Phrase} {text : List Char} {x : List Char × Measurement}
      (h : (here p text).map (fun m => (text.drop p.chars.length, m)) = some x) :
      Measurement.at? x.1 = some x.2 := by
    obtain ⟨m, hm, rfl⟩ := Option.map_eq_some_iff.mp h
    exact (Option.ite_none_right_eq_some.mp hm).2
  cases m with
  | direct p => exact phrase h
  | across p q =>
    obtain ⟨-, h⟩ := Option.ite_none_right_eq_some.mp h
    obtain ⟨behind, -, h⟩ := List.exists_of_findSome?_eq_some h
    exact phrase h

/-- Of the tails of a text, the first one that a marker's pattern matches is the one to which
the marker leads. Where nothing is found behind the first place of the first phrase, nothing is
found behind any later one, since there is less text behind it. -/
private theorem findSome?_matched (m : PlainMarker) (text : List Char) :
    (text.tails.findSome? m.matched).map Prod.snd = m.find? text := by
  cases m with
  | direct p =>
    rw [find?_direct, List.map_findSome?]
    congr 1
    funext rest
    rw [Function.comp_apply, matched]
    cases here p rest <;> rfl
  | across p q =>
    let leads (rest : List Char) : Option Measurement :=
      (rest.drop p.chars.length).tails.findSome? (here q)
    have hmatched : ∀ rest ∈ text.tails, (Option.map Prod.snd ∘ (across p q).matched) rest =
        if occurs p.chars rest then leads rest else none := by
      intro rest _
      rw [Function.comp_apply, matched]
      by_cases ho : occurs p.chars rest = true
      · rw [if_pos ho, if_pos ho, List.map_findSome?]
        congr 1
        funext behind
        rw [Function.comp_apply]
        cases here q behind <;> rfl
      · rw [if_neg ho, if_neg ho]
        rfl
    -- what stands behind a later place stands behind an earlier one too
    have hlater : text.tails.Pairwise fun x y => occurs p.chars x = true →
        occurs p.chars y = true → leads x = none → leads y = none := by
      refine (pairwise_tails text).imp fun {x y} hsuffix _ _ hnone => ?_
      have hdrop : y.drop p.chars.length <:+ x.drop p.chars.length := by
        rw [List.suffix_iff_eq_drop.mp hsuffix, List.drop_drop]
        exact List.drop_suffix_drop_left x (Nat.le_add_left _ _)
      rw [List.findSome?_eq_none_iff] at hnone ⊢
      intro z hz
      refine hnone z ((List.mem_tails _ _).mpr ?_)
      exact ((List.mem_tails _ _).mp hz).trans hdrop
    rw [find?_across, List.map_findSome?]
    exact findSome?_eq_bind hmatched hlater

private theorem text?_captured {text : List Char} {m : Measurement}
    (h : Measurement.at? text = some m) :
    (captured text m).text? Grammar.valueName.toList = some m.number ∧
      (captured text m).text? Grammar.unitName.toList = some m.unit := by
  obtain ⟨-, hnumber, -, hunit⟩ := Measurement.at?_eq_some_iff.mp h
  have hnumber' := List.prefix_iff_eq_take.mp (Measurement.numberOf?_isPrefix hnumber)
  have hunit' := List.prefix_iff_eq_take.mp (Measurement.unitOf?_isPrefix hunit)
  exact ⟨congrArg some hnumber'.symm, congrArg some hunit'.symm⟩

/-- Reading a text with the pattern of a marker is scanning it. -/
theorem find?_plan (m : PlainMarker) (text : List Char) :
    Readout.find? m.plan text = m.duration? text := by
  have hsearch : m.plan.search? text =
      (text.tails.findSome? m.matched).map fun x => captured x.1 x.2 := by
    rw [List.map_findSome?]
    exact Plan.search?_eq (g := Option.map (fun x => captured x.1 x.2) ∘ m.matched)
      m.captures?_plan text
  rw [Readout.find?, hsearch, duration?, ← findSome?_matched]
  cases hfound : text.tails.findSome? m.matched with
  | none => rfl
  | some x =>
    obtain ⟨rest, -, hmatched⟩ := List.exists_of_findSome?_eq_some hfound
    obtain ⟨hvalue, hunit⟩ := text?_captured (at?_of_matched hmatched)
    simp only [Option.map_some, Option.bind_some, hvalue, hunit, Measurement.duration?_eq]

end PlainMarker

/-! ### Grammars of plain tables -/

namespace PlainTable

/-- The grammar that a plain table comes to. -/
def grammar (t : PlainTable) : Grammar where
  tests := t.tests.map fun e => ⟨e.id, e.label, Grammar.patternOf e.marker.pattern, e.marker.plan⟩
  totalPattern := Grammar.patternOf t.total.pattern
  totalPlan := t.total.plan

private theorem ids_toTable (t : PlainTable) :
    t.toTable.tests.map Entry.id = t.tests.map PlainEntry.id := by
  rw [toTable, List.map_map]
  rfl

/-- A plain table is accepted if it has tests, their identifiers are not blank and differ, and
no marker is too long. -/
theorem ofTable_toTable {t : PlainTable} (hne : t.tests ≠ [])
    (hblank : ∀ e ∈ t.tests, Grammar.isBlankId e.id = false)
    (hids : (t.tests.map PlainEntry.id).Nodup)
    (hsize : ∀ e ∈ t.tests, (Part.whole e.marker.parts).weight ≤ sizeLimit)
    (htotal : (Part.whole t.total.parts).weight ≤ sizeLimit) :
    Grammar.ofTable t.toTable = .ok t.grammar := by
  have htests : List.Forall₂ (Grammar.MadeOf Pattern.compile) t.toTable.tests t.grammar.tests := by
    rw [toTable, grammar, List.forall₂_map_left_iff, List.forall₂_map_right_iff, List.forall₂_same]
    exact fun e he => ⟨rfl, rfl, rfl, PlainMarker.compile_eq_plan (hsize e he)⟩
  refine Grammar.ofTable_eq_ok_iff.mpr ⟨by simpa [toTable] using hne, ?_, ?_, htests, rfl,
    PlainMarker.compile_eq_plan htotal⟩
  · exact List.forall_mem_map.mpr hblank
  · rwa [ids_toTable]

/-- A plain table that is accepted has identifiers that differ, and comes to its grammar. -/
theorem of_ofTable_eq_ok {t : PlainTable} {g : Grammar} (h : Grammar.ofTable t.toTable = .ok g) :
    (t.tests.map PlainEntry.id).Nodup ∧ g = t.grammar := by
  have haccepts := Grammar.ofTable_eq_ok_iff.mp h
  refine ⟨ids_toTable t ▸ haccepts.nodup, ?_⟩
  obtain ⟨tests, pattern, plan⟩ := g
  -- the plan of a marker does not depend on how it was compiled
  have htests : tests = t.grammar.tests := by
    have hmade := haccepts.tests
    rw [toTable, List.forall₂_map_left_iff] at hmade
    rw [← List.forall₂_eq_eq_eq, grammar, List.forall₂_map_right_iff]
    refine hmade.flip.imp fun test e he => ?_
    obtain ⟨id, label, pattern, plan⟩ := test
    obtain ⟨rfl, rfl, rfl, hcompile⟩ := he
    obtain rfl : plan = e.marker.plan := PlainMarker.compile_pattern hcompile
    rfl
  have hpattern : pattern = t.grammar.totalPattern := haccepts.totalPattern_eq
  have hplan : plan = t.grammar.totalPlan := PlainMarker.compile_pattern haccepts.compile_total
  rw [htests, hpattern, hplan]

/-- A scan of a table whose identifiers differ has under each what its marker leads to. -/
theorem get?_scan {t : PlainTable} (hids : (t.tests.map PlainEntry.id).Nodup) {e : PlainEntry}
    (he : e ∈ t.tests) (text : List Char) :
    (t.scan text).measurements.get? e.id = e.marker.duration? text :=
  Measurements.get?_ofList hids he

/-- A scan has something only under the identifiers of its table. -/
theorem exists_of_get?_scan {t : PlainTable} {id : String} {text : List Char} {value : Binary64}
    (h : (t.scan text).measurements.get? id = some value) : ∃ e ∈ t.tests, e.id = id := by
  by_contra hnone
  have hnone' : (t.scan text).measurements.get? id = none :=
    Measurements.get?_ofList_eq_none fun e he hid => hnone ⟨e, he, hid⟩
  rw [hnone'] at h
  contradiction

/-- Reading a text with the grammar of a plain table is scanning it. -/
theorem ofText_grammar (t : PlainTable) (text : List Char) :
    Readout.ofText t.grammar text = t.scan text := by
  simp only [Readout.ofText, grammar, scan, List.filterMap_map, Function.comp_def,
    PlainMarker.find?_plan]

/-- The standard table is accepted. -/
theorem ofTable_standard : Grammar.ofTable .standard = .ok standard.grammar := by
  rw [← toTable_standard]
  exact ofTable_toTable (by decide) (by decide) (by decide) (by decide) (by decide)

theorem standard_eq : Grammar.standard = .ok standard.grammar :=
  Grammar.standard_eq_ofTable.trans ofTable_standard

end PlainTable

/-! ### The readout of a plain table -/

/-- What an accepted grammar of plain markers finds in a text is what the plain scanner finds:
under the identifier of every test, and for the total, the duration that its marker leads to. -/
theorem Readout.ofText_eq_scan (t : PlainTable) (g : Grammar)
    (h : Grammar.ofTable t.toTable = .ok g) (text : List Char) :
    Readout.ofText g text = t.scan text ∧
      ∀ e ∈ t.tests, (Readout.ofText g text).measurements.get? e.id = e.marker.duration? text := by
  obtain ⟨hids, rfl⟩ := PlainTable.of_ofTable_eq_ok h
  have hscan := PlainTable.ofText_grammar t text
  refine ⟨hscan, fun e he => ?_⟩
  rw [hscan]
  exact PlainTable.get?_scan hids he text

/-- In this text the first `Sure:` behind the marker of the first test stands in front of no
measurement, the marker of the eleventh test is not the one of the first, and the unit is
written in capitals. -/
theorem Readout.ofText_standard_eq_scan :
    let text := "Test 11: Test 1: Sure: soon, SURE: 1.5e1 MS\nToplam sure: 2 s".toList
    Grammar.ofTable PlainTable.standard.toTable = .ok PlainTable.standard.grammar ∧
      (Readout.ofText PlainTable.standard.grammar text = PlainTable.standard.scan text ∧
        ∀ e ∈ PlainTable.standard.tests,
          (Readout.ofText PlainTable.standard.grammar text).measurements.get? e.id =
            e.marker.duration? text) ∧
      Readout.ofText PlainTable.standard.grammar text =
        ⟨[("fibonacci", .ofNat 15), ("string_alloc", .ofNat 15)], some (.ofNat 2000)⟩ := by
  intro text
  have haccepted : Grammar.ofTable PlainTable.standard.toTable =
      .ok PlainTable.standard.grammar := by
    rw [PlainTable.toTable_standard]
    exact PlainTable.ofTable_standard
  have hscan := ofText_eq_scan _ _ haccepted text
  refine ⟨haccepted, hscan, ?_⟩
  rw [hscan.1]
  decide +kernel

end Timekeeper
