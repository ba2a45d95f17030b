import Timekeeper.Proofs.Report.Rows

/-!
# The views of a ranking agree

A ranking is told three times: by the rows of the table, by the numbered lines of the file, and by
the summary of one language, the subject. They are put together separately, one from the placings,
one from the first placing of a name and one from where a language stands. Read from their texts,
they tell the same (`Report.views_agree`).

* The file has an entry for every score that takes part, in the order of the positions.
* The table, if there is one, has a row for every entry, with the same position, the same language
  and the same total.
* The summary speaks of the first entry that bears the name of the subject, and of the row beside
  it. Whether the subject is the fastest, and if not, how much slower it is, is told as in that
  row.

Names may repeat and totals may tie or be infinite. Only a line feed in the name of a language would
break the lines.
-/

namespace Timekeeper

open Binary64

/-! ### Placings -/

namespace Ranking

variable {scores : List Score} {p : Placing}

theorem map_position (scores : List Score) :
    (ofScores scores).placings.map Placing.position =
      List.range' 1 (ofScores scores).placings.length := by
  refine List.ext_getElem? fun i => ?_
  rw [List.getElem?_map]
  cases hp : (ofScores scores).placings[i]? with
  | none =>
    rw [List.getElem?_eq_none_iff] at hp
    simp [hp]
  | some p =>
    have hlt := (List.getElem?_eq_some_iff.mp hp).1
    obtain ⟨first, hfirst⟩ := exists_fastest?_of_mem (List.mem_of_getElem? hp)
    have hposition := (of_getElem?_placings hfirst hp).1
    rw [List.getElem?_range' hlt, Option.map_some, hposition]
    congr 1
    omega

theorem of_get?_eq_some {r : Ranking} {language : String} (hp : r.get? language = some p) :
    p ∈ r.placings ∧ p.language = language := by
  have hfound := List.find?_some hp
  exact ⟨List.mem_of_find?_eq_some hp, of_decide_eq_true hfound⟩

/-- A placing is the fastest and marked so, or it has a ratio and is marked with it. -/
theorem slowdown_cases (hp : p ∈ (ofScores scores).placings) :
    (p.isFastest = true ∧ Report.slowdown p = Report.fastestMark) ∨
      ∃ ratio, p.isFastest = false ∧ p.ratio = some ratio ∧
        Report.slowdown p = "📉 ".toList ++ ratio.fixed 2 ++ "x slower".toList := by
  obtain ⟨i, hi⟩ := List.mem_iff_getElem?.mp hp
  obtain ⟨first, hfirst⟩ := exists_fastest?_of_mem hp
  obtain ⟨hposition, hratio⟩ := of_getElem?_placings hfirst hi
  cases i with
  | zero =>
    rw [if_pos rfl] at hratio
    refine .inl ⟨?_, ?_⟩
    · rw [Placing.isFastest, hposition]
      rfl
    · rw [Report.slowdown, hratio]
  | succ i =>
    rw [if_neg (Nat.succ_ne_zero i)] at hratio
    have hnot : p.isFastest = false := by
      rw [Placing.isFastest, hposition]
      simp
    refine .inr ⟨_, hnot, hratio, ?_⟩
    rw [Report.slowdown, hratio, hnot]
    rfl

end Ranking

namespace Report

/-! ### What is read -/

/-- The rows that are read in the text of the table, below two lines of headings. -/
def readRows (r : Report) : List TableRow :=
  ((linesOf (closed (podium r.ranking))).drop 2).map TableRow.read

/-- The entries that are read in the file. -/
def readEntries (r : Report) : List FileEntry :=
  (numberedPart (linesOf r.file.toList)).map FileEntry.read

/-- The text of the summary. -/
def summary (r : Report) : List Char := closed (narrative r.ranking r.subject r.baseline)

variable {r : Report} {p : Placing}

private theorem lineFeed_not_mem_numberedLine (h : '\n' ∉ p.language.toList) :
    '\n' ∉ numberedLine p := by
  have hpoint : '\n' ∉ ". ".toList := by decide
  have hcolon : '\n' ∉ ": ".toList := by decide
  have hposition := lineFeed_not_mem_numeral p.position
  have htotal := lineFeed_not_mem_duration p.total
  simp only [numberedLine, List.mem_append, not_or]
  exact ⟨⟨⟨⟨hposition, hpoint⟩, h⟩, hcolon⟩, htotal⟩

private theorem lineFeed_not_mem_slowdown (p : Placing) : '\n' ∉ slowdown p := by
  have hmark : '\n' ∉ fastestMark := by decide
  have hslower : '\n' ∉ "📉 ".toList ∧ '\n' ∉ "x slower".toList := by decide
  rw [slowdown]
  split
  · split
    · exact hmark
    · exact List.not_mem_append (List.not_mem_append hslower.1 (lineFeed_not_mem_fixed _ 2))
        hslower.2
  · exact hmark

private theorem lineFeed_not_mem_podiumRow (h : '\n' ∉ p.language.toList) :
    '\n' ∉ podiumRow p := by
  have hblank : '\n' ∉ [' '] := by decide
  have hblanks : '\n' ∉ [' ', ' '] := by decide
  have hmedal : '\n' ∉ medal p.position := by
    unfold medal
    split <;> decide
  have hposition := lineFeed_not_mem_padRight (lineFeed_not_mem_numeral p.position) 3
  have hlanguage := lineFeed_not_mem_padRight h 15
  have htotal := lineFeed_not_mem_padRight (lineFeed_not_mem_duration p.total) 18
  have hslowdown := lineFeed_not_mem_slowdown p
  simp only [podiumRow, List.mem_append, not_or]
  exact ⟨⟨⟨⟨⟨⟨⟨⟨⟨hblanks, hmedal⟩, hblank⟩, hposition⟩, hblank⟩, hlanguage⟩, hblank⟩, htotal⟩,
    hblank⟩, hslowdown⟩

/-- The rows that are read in the table are those of the placings. -/
theorem readRows_eq (h : ∀ p ∈ r.ranking.placings, '\n' ∉ p.language.toList)
    (hne : r.ranking.isEmpty = false) : r.readRows = r.ranking.placings.map TableRow.of := by
  have hlines : linesOf (closed (podium r.ranking)) = podium r.ranking := by
    rw [linesOf_closed]
    refine flatMap_splitLines ?_
    rw [podium, hne, if_neg Bool.false_ne_true]
    refine List.forall_mem_cons.mpr ⟨by decide, List.forall_mem_cons.mpr ⟨by decide, ?_⟩⟩
    refine List.forall_mem_map.mpr fun p hp => ?_
    exact lineFeed_not_mem_podiumRow (h p hp)
  rw [readRows, hlines, podium, hne, if_neg Bool.false_ne_true, List.drop_succ_cons,
    List.drop_succ_cons, List.drop_zero, List.map_map]
  refine List.map_congr_left fun p _ => ?_
  rw [Function.comp_apply, TableRow.read_podiumRow]

/-- The entries that are read in the file are those of the placings. -/
theorem readEntries_eq (h : ∀ p ∈ r.ranking.placings, '\n' ∉ p.language.toList) :
    r.readEntries = r.ranking.placings.map FileEntry.of := by
  let numbered := r.ranking.placings.map numberedLine
  have hfeed : ∀ line ∈ numbered, '\n' ∉ line :=
    List.forall_mem_map.mpr fun p hp => lineFeed_not_mem_numberedLine (h p hp)
  have hne : ∀ line ∈ numbered, line ≠ [] := by
    refine List.forall_mem_map.mpr fun p _ hnil => numeral_ne_nil p.position ?_
    simp only [numberedLine, List.append_eq_nil_iff] at hnil
    exact hnil.1.1.1.1
  -- whatever stands above the numbered lines, an empty line ends it
  obtain ⟨front, hfront⟩ :
      ∃ front, r.fileLines = front ++ [] :: (numbered ++ [[], rule width '=']) :=
    ⟨[rule width '=', title.toList, r.languages, rule width '='] ++ r.occasionLines ++
      [[], rule width '-', "TOTAL TIMES (RANKED)".toList, rule width '-'],
      by simp [fileLines, numbered]⟩
  have hlast : ([[], rule width '='] : List Line).flatMap Text.splitLines = [[], rule width '='] :=
    flatMap_splitLines (by decide)
  have hlines : linesOf r.file.toList =
      front.flatMap Text.splitLines ++ [] :: (numbered ++ [[], rule width '=']) := by
    rw [file, String.toList_ofList, linesOf_closed, hfront, List.flatMap_append, List.flatMap_cons,
      List.flatMap_append, flatMap_splitLines hfeed, hlast]
    rfl
  rw [readEntries, hlines, numberedPart_append hne, List.map_map]
  refine List.map_congr_left fun p _ => ?_
  rw [Function.comp_apply, FileEntry.read_numberedLine]

/-! ### The summary -/

/-- The third line of the summary of a placing, given the fastest one. -/
def verdict (subject : String) (first p : Placing) : Line :=
  if p.isFastest then "  ".toList ++ subject.toList ++ " is the fastest language.".toList
  else
    "  Against the fastest (".toList ++ first.language.toList ++ "): ".toList ++
      (p.ratio.getD .one).fixed 2 ++ "x slower".toList

/-- A subject without a placing is told to have no rank. -/
theorem summary_of_none (hne : r.ranking.isEmpty = false) (hp : r.ranking.get? r.subject = none) :
    r.summary =
      "  ".toList ++ r.subject.toList ++ " has no rank: no valid total was reported.\n".toList := by
  have hstanding : r.ranking.standing? r.subject = none := by
    rw [Ranking.standing?, hp]
    cases r.ranking.fastest? <;> rfl
  rw [summary, narrative, hne, if_neg Bool.false_ne_true, hstanding]
  simp [closed]

/-- A subject with a placing is told its position, its total and whether it is the fastest. -/
theorem summary_of_some (hp : r.ranking.get? r.subject = some p) :
    ∃ first, r.ranking.placings.head? = some first ∧ ∃ rest, r.summary =
      "  ".toList ++ r.subject.toList ++ " rank: ".toList ++ numeral p.position ++
        '/' :: numeral r.ranking.placings.length ++
      "\n  ".toList ++ r.subject.toList ++ " total: ".toList ++ duration (some p.total) ++
      '\n' :: verdict r.subject first p ++ '\n' :: rest := by
  obtain ⟨hmem, -⟩ := Ranking.of_get?_eq_some hp
  obtain ⟨first, behind, hplacings⟩ := List.exists_cons_of_ne_nil (List.ne_nil_of_mem hmem)
  have hfirst : r.ranking.fastest? = some first := by
    rw [Ranking.fastest?, hplacings]
    rfl
  have hne : r.ranking.isEmpty = false := by
    rw [Ranking.isEmpty, hplacings]
    rfl
  have hstanding : r.ranking.standing? r.subject = some ⟨p.position, r.ranking.placings.length,
      p.total, first.language, p.ratio.getD .one⟩ := by
    rw [Ranking.standing?, hfirst, hp]
    rfl
  refine ⟨first, hfirst, closed [againstBaseline r.ranking r.subject r.baseline], ?_⟩
  rw [summary, narrative, hne, if_neg Bool.false_ne_true, hstanding]
  simp [closed, againstFastest, verdict, Standing.isFastest, Placing.isFastest]

/-- Whether there is a rank is told right behind the name of the subject. -/
theorem summary_ne_of_some (hp : r.ranking.get? r.subject = some p) : r.summary ≠
    "  ".toList ++ r.subject.toList ++ " has no rank: no valid total was reported.\n".toList := by
  obtain ⟨first, -, rest, hsummary⟩ := summary_of_some hp
  rw [hsummary]
  simp

theorem verdict_eq_iff {scores : List Score} (hp : p ∈ (Ranking.ofScores scores).placings)
    (subject : String) (first : Placing) :
    verdict subject first p =
        "  ".toList ++ subject.toList ++ " is the fastest language.".toList ↔
      slowdown p = fastestMark := by
  obtain ⟨hfastest, hmark⟩ | ⟨ratio, hnot, -, hslower⟩ := Ranking.slowdown_cases hp
  · rw [verdict, if_pos hfastest]
    exact iff_of_true rfl hmark
  · refine iff_of_false ?_ ?_
    · -- the two lines end in different signs
      rw [verdict, hnot, if_neg Bool.false_ne_true]
      intro h
      have hlast := congrArg List.getLast? h
      rw [List.getLast?_append_of_ne_nil _ (by decide),
        List.getLast?_append_of_ne_nil _ (by decide)] at hlast
      exact absurd hlast (by decide)
    · rw [hslower]
      simp [fastestMark]

private theorem lineFeed_not_mem_verdict {subject : String} {first : Placing}
    (hsubject : '\n' ∉ subject.toList) (hfirst : '\n' ∉ first.language.toList) :
    '\n' ∉ verdict subject first p := by
  have hfixed := lineFeed_not_mem_fixed (p.ratio.getD .one) 2
  rw [verdict]
  split
  · simp [hsubject]
  · simp [hfirst, hfixed]

/-- The first row and entry that name the subject are those of its placing. -/
private theorem find?_zip_eq (h : ∀ p ∈ r.ranking.placings, '\n' ∉ p.language.toList)
    (hne : r.ranking.isEmpty = false) :
    (r.readRows.zip r.readEntries).find? (fun x => x.2.language = r.subject.toList) =
      (r.ranking.get? r.subject).map fun p => (TableRow.of p, FileEntry.of p) := by
  have hname : ((fun x : TableRow × FileEntry => decide (x.2.language = r.subject.toList)) ∘
      fun p => (TableRow.of p, FileEntry.of p)) =
        fun p : Placing => decide (p.language = r.subject) := by
    funext p
    simp [FileEntry.of, String.toList_inj]
  rw [readRows_eq h hne, readEntries_eq h, List.zip_map', List.find?_map, hname, Ranking.get?]

/-! ### Agreement -/

/-- A row and an entry are **alike** when they show the same position, the same language and the
same total. -/
structure Alike (row : TableRow) (entry : FileEntry) : Prop where
  position_eq : row.position = entry.position
  language_eq : row.language = Text.padRight 15 entry.language
  total_eq : row.total = entry.total

/-- The **views** of a ranking agree when what is read in the table, in the file and in the summary
is the same. -/
structure ViewsAgree (r : Report) : Prop where
  /-- The file has an entry for every score with a total above zero. -/
  length_entries : r.readEntries.length = (r.scores.filter Score.isRanked).length
  /-- Entries are numbered through from one. -/
  positions : r.readEntries.map FileEntry.position = List.range' 1 r.readEntries.length
  /-- The table has a row for every entry that is alike. -/
  rows_alike : r.ranking.isEmpty = false → List.Forall₂ Alike r.readRows r.readEntries
  /-- The subject is told to have no rank exactly if no entry names it. -/
  unranked_iff : r.ranking.isEmpty = false →
    (r.summary = "  ".toList ++ r.subject.toList ++
        " has no rank: no valid total was reported.\n".toList ↔
      ∀ entry ∈ r.readEntries, entry.language ≠ r.subject.toList)
  /-- Otherwise the summary repeats the first entry that names the subject, and tells in its third
  line what the row beside that entry tells. -/
  ranked : r.ranking.isEmpty = false → ∀ row entry,
    (r.readRows.zip r.readEntries).find? (fun x => x.2.language = r.subject.toList) =
      some (row, entry) →
    ∃ line rest, '\n' ∉ line ∧ r.summary =
        "  ".toList ++ r.subject.toList ++ " rank: ".toList ++ numeral entry.position ++
          '/' :: numeral r.readRows.length ++
        "\n  ".toList ++ r.subject.toList ++ " total: ".toList ++ entry.total ++
        '\n' :: line ++ '\n' :: rest ∧
      (line = "  ".toList ++ r.subject.toList ++ " is the fastest language.".toList ↔
        row.comparison = fastestMark) ∧
      (row.comparison ≠ fastestMark → ∃ (first : FileEntry) (ratio : Binary64),
        r.readEntries.head? = some first ∧
        row.comparison = "📉 ".toList ++ ratio.fixed 2 ++ "x slower".toList ∧
        line = "  Against the fastest (".toList ++ first.language ++ "): ".toList ++
          ratio.fixed 2 ++ "x slower".toList)

/-- The table, the file and the summary of a ranking agree if no language has a line feed in its
name. -/
theorem views_agree (r : Report) (hr : r.ranking = .ofScores r.scores)
    (hnames : ∀ s ∈ r.scores, '\n' ∉ s.language.toList) : ViewsAgree r := by
  have hplacings : ∀ p ∈ r.ranking.placings, '\n' ∉ p.language.toList := by
    intro p hp
    obtain ⟨s, hs, hlanguage⟩ := Ranking.exists_score_of_mem (hr ▸ hp)
    exact hlanguage ▸ hnames s hs
  have hentries := readEntries_eq hplacings
  constructor
  · rw [hentries, List.length_map, hr, Ranking.length_placings]
  -- the file and the table are read as the placings, one by one
  · rw [hentries, List.map_map, List.length_map, hr]
    exact Ranking.map_position r.scores
  · intro hne
    rw [hentries, readRows_eq hplacings hne, List.forall₂_map_left_iff,
      List.forall₂_map_right_iff, List.forall₂_same]
    exact fun p _ => ⟨rfl, rfl, rfl⟩
  · intro hne
    rw [hentries, List.forall_mem_map]
    -- the summary looks the subject up among the placings
    cases hp : r.ranking.get? r.subject with
    | none =>
      refine iff_of_true (summary_of_none hne hp) fun p hmem hname => ?_
      have hother := List.find?_eq_none.mp hp p hmem
      exact hother (decide_eq_true (String.toList_inj.mp hname))
    | some p =>
      refine iff_of_false (summary_ne_of_some hp) fun h => ?_
      obtain ⟨hmem, hname⟩ := Ranking.of_get?_eq_some hp
      exact h p hmem (congrArg String.toList hname)
  · intro hne row entry hfind
    rw [find?_zip_eq hplacings hne] at hfind
    -- what the first row and entry that name the subject show is that of its first placing
    obtain ⟨p, hp, heq⟩ := Option.map_eq_some_iff.mp hfind
    obtain ⟨rfl, rfl⟩ := Prod.mk.injEq .. ▸ heq
    obtain ⟨first, hfirst, rest, hsummary⟩ := summary_of_some hp
    obtain ⟨hmem, hname⟩ := Ranking.of_get?_eq_some hp
    refine ⟨verdict r.subject first p, rest, ?_, ?_, ?_, ?_⟩
    · exact lineFeed_not_mem_verdict (hname ▸ hplacings p hmem)
        (hplacings first (List.mem_of_head? hfirst))
    · rw [hsummary, readRows_eq hplacings hne, List.length_map]
      rfl
    · exact verdict_eq_iff (hr ▸ hmem) r.subject first
    · intro hslower
      obtain ⟨-, hmark⟩ | ⟨ratio, hnot, hratio, hrow⟩ := Ranking.slowdown_cases (hr ▸ hmem)
      · exact absurd hmark hslower
      · refine ⟨FileEntry.of first, ratio, ?_, hrow, ?_⟩
        · rw [hentries, List.head?_map, hfirst, Option.map_some]
        · rw [verdict, hnot, if_neg Bool.false_ne_true, hratio, Option.getD_some]
          rfl

/-- Here two languages tie, one name stands twice and looks like an entry of its own, and a program
failed. The subject is not the fastest, although no total is below its own. -/
theorem views_agree_tie :
    let scores : List Score := [⟨"C: 2. C", .measured [] (some (.ofNat 7))⟩,
      ⟨"Zig", .failed "timed out"⟩, ⟨"C: 2. C", .measured [] (some (.ofNat 5))⟩,
      ⟨"Go", .measured [] (some (.ofNat 5))⟩]
    let report : Ranking → Report := fun ranking =>
      ⟨⟨[], "", .empty⟩, scores, ranking, ⟨⟨0, 0⟩, ⟨1, 0⟩, "linux"⟩, "Go", "Zig"⟩
    let r := report (.ofScores scores)
    ViewsAgree r ∧ r.ranking.isEmpty = false ∧
      r.readEntries = [⟨1, "C: 2. C".toList, "5.000 ms".toList⟩,
        ⟨2, "Go".toList, "5.000 ms".toList⟩, ⟨3, "C: 2. C".toList, "7.000 ms".toList⟩] ∧
      r.readRows.map TableRow.comparison =
        [fastestMark, "📉 1.00x slower".toList, "📉 1.40x slower".toList] := by
  intro scores report r
  have hnames : ∀ s ∈ r.scores, '\n' ∉ s.language.toList := by decide
  have hsorted : Ranking.sorted scores =
      [("C: 2. C", .ofNat 5), ("Go", .ofNat 5), ("C: 2. C", .ofNat 7)] := by
    have hfive : (Binary64.ofNat 5).isPositive = true := by decide +kernel
    have hseven : (Binary64.ofNat 7).isPositive = true := by decide +kernel
    have htie : (Binary64.ofNat 5).totalLe (.ofNat 5) = true := by decide +kernel
    have hless : (Binary64.ofNat 7).totalLe (.ofNat 5) = false := by decide +kernel
    simp [scores, Ranking.sorted, Ranking.contenders, Score.total?, List.mergeSort,
      List.MergeSort.Internal.splitInTwo, hfive, hseven, htie, hless]
  have hr : r = report ⟨[⟨1, "C: 2. C", .ofNat 5, none⟩, ⟨2, "Go", .ofNat 5, some .one⟩,
      ⟨3, "C: 2. C", .ofNat 7, some (.ofNat 7 / .ofNat 5)⟩]⟩ := by
    have hone : Binary64.ofNat 5 / .ofNat 5 = .one := by decide +kernel
    simp [r, Ranking.ofScores, hsorted, Ranking.placing, hone]
  refine ⟨views_agree r rfl hnames, ?_, ?_, ?_⟩
  · rw [hr]
    rfl
  · rw [hr, readEntries_eq (by decide)]
    decide +kernel
  · rw [hr]
    decide +kernel

end Report

end Timekeeper
