import Timekeeper.Proofs.Report.Rows
import Timekeeper.Proofs.Score.Coverage
import Timekeeper.Proofs.Text.Blank
import Timekeeper.Report.Document
import Mathlib.Data.List.Forall2

/-!
# Diagnoses as they are read

What a report says went wrong is read from its text. The text of the diagnoses is that of the
languages one after another, and the block of each language says all that is known about it
(`Report.Block`).

* A failed program has an error of any number of lines. Its block has as many, and they are read off
  it as they were (`errorLines?`): the first one behind the name, the others behind blanks. An empty
  error leaves an empty line.
* Of a program that ran to its end the tests are listed that it did not report, on one line.

Names and labels must have no line feed in them; the error and the output of a compiler may have as
many as they like. Its diagnostic loses the white space at its end and nothing else.
-/

namespace Timekeeper

theorem Score.missingTests_of_error? {g : Grammar} {s : Score} (h : s.error? = none) :
    s.missingTests g = g.tests.filter fun t => (s.measurement? t.id).isNone := by
  obtain ⟨language, outcome⟩ := s
  cases outcome with
  | measured m total => rfl
  | failed error => contradiction

namespace Report

variable {g : Grammar} {s : Score}

/-! ### Closed lines -/

theorem closed_eq_nil_iff {lines : List Line} : closed lines = [] ↔ lines = [] := by
  cases lines with
  | nil => exact iff_of_true rfl rfl
  | cons line lines => simp [closed]

theorem closed_flatMap {α : Type} (f : α → List Line) (xs : List α) :
    closed (xs.flatMap f) = (xs.map fun x => closed (f x)).flatten := by
  rw [closed, List.flatMap_assoc, List.flatMap_def]
  rfl

theorem of_mem_joined {separator : String} {texts : List String} {c : Char}
    (h : c ∈ joined separator texts) : c ∈ separator.toList ∨ ∃ text ∈ texts, c ∈ text.toList := by
  rw [joined, String.toList_intercalate] at h
  induction texts with
  | nil => contradiction
  | cons text texts ih =>
    cases texts with
    | nil =>
      rw [List.map_singleton, List.intercalate_singleton] at h
      exact .inr ⟨text, List.mem_singleton_self text, h⟩
    | cons next texts =>
      rw [List.map_cons, List.map_cons, List.intercalate_cons_cons, List.append_assoc,
        List.mem_append, List.mem_append] at h
      obtain htext | hseparator | hothers := h
      · exact .inr ⟨text, List.mem_cons_self, htext⟩
      · exact .inl hseparator
      · obtain hseparator | ⟨other, hother, hc⟩ := ih hothers
        · exact .inl hseparator
        · exact .inr ⟨other, List.mem_cons_of_mem _ hother, hc⟩

/-! ### Reading the block of an error -/

/-- Reads the lines of an error off its block: the first behind the name of the language, the others
behind six blanks. -/
def errorLines? (language : String) : List Line → Option (List Line)
  | [] => none
  | first :: others => do
    let line ← first.dropPrefix? ("  " ++ language ++ ": skipped, ").toList
    let lines ← others.mapM fun line => line.dropPrefix? (List.replicate 6 ' ')
    return line :: lines

private theorem toList_heading (language heading : String) :
    ("  " ++ language ++ heading).toList = [' ', ' '] ++ language.toList ++ heading.toList := by
  rw [String.toList_append, String.toList_append]
  rfl

private theorem mapM_dropPrefix? (front : Line) (lines : List Line) :
    (lines.map (front ++ ·)).mapM (fun line => line.dropPrefix? front) = some lines := by
  induction lines with
  | nil => rfl
  | cons line lines ih =>
    rw [List.map_cons, List.mapM_cons, ih, List.dropPrefix?_append_of_beq line (beq_self_eq_true _)]
    rfl

/-- The lines of an error, of which an empty one has an empty line too. -/
def errorLines (error : List Char) : List Line :=
  if error = [] then [[]] else Text.lines error

theorem errorLines_eq (error : List Char) :
    errorLines error = (Text.lines error).headD [] :: (Text.lines error).tail := by
  rw [errorLines]
  split
  · rename_i hempty
    rw [hempty]
    rfl
  · rename_i hne
    obtain ⟨first, others, heq⟩ := List.exists_cons_of_ne_nil (mt Text.lines_eq_nil_iff.mp hne)
    rw [heq]
    rfl

theorem length_errorLines (error : List Char) :
    (errorLines error).length = max 1 (Text.lines error).length := by
  rw [errorLines_eq, List.length_cons, List.length_tail]
  omega

theorem length_errorBlock (language : String) (error : List Char) :
    (errorBlock language error).length = max 1 (Text.lines error).length := by
  rw [← length_errorLines, errorLines_eq, errorBlock, List.length_cons, List.length_cons,
    List.length_map]

/-- The lines of an error are read off its block as they were. -/
theorem errorLines?_errorBlock (language : String) (error : List Char) :
    errorLines? language (errorBlock language error) = some (errorLines error) := by
  rw [errorBlock, errorLines?, toList_heading, mapM_dropPrefix?,
    List.dropPrefix?_append_of_beq _ (beq_self_eq_true _), errorLines_eq]
  rfl

/-! ### Blocks -/

/-- What the **block** of a language tells of its score. -/
structure Block (g : Grammar) (s : Score) (block : List Char) : Prop where
  closed_linesOf : closed (linesOf block) = block
  /-- A block of a failed program has the lines of the error. -/
  of_error : ∀ error, s.error? = some error →
    (linesOf block).length = max 1 (Text.lines error.toList).length ∧
      errorLines? s.language (linesOf block) = some (errorLines error.toList)
  /-- The error of a program that could not be built or run has the lines of the diagnostic behind a
  heading, up to the white space at its end. -/
  of_execution : ∀ e, Score.ofExecution g e = s → ∀ heading diagnostic,
    (e.status = .buildFailed diagnostic ∧ heading = "build failed: " ∨
      e.status = .runtimeFailure diagnostic ∧ heading = "runtime failure: ") →
    ∃ kept blanks, diagnostic.toList = kept ++ blanks ∧
      (∀ c ∈ blanks, Text.isBlank c = true) ∧
      (∀ c, kept.getLast? = some c → Text.isBlank c = false) ∧
      errorLines? s.language (linesOf block) = some (Text.lines (heading.toList ++ kept))
  /-- Tests that were not reported stand on one line, in the order of declaration. -/
  of_missing : s.error? = none → ∀ missing,
    (g.tests.filter fun t => (s.measurement? t.id).isNone) = missing → missing ≠ [] →
    linesOf block = [("  " ++ s.language ++ ": not reported: ").toList ++
      joined ", " (missing.map Test.label)]
  /-- Nothing is said about a language of which all is known. -/
  of_known : s.error? = none → (∀ t ∈ g.tests, s.measurement? t.id ≠ none) → block = []

theorem diagnosisOf_of_error {error : String} (h : s.error? = some error) :
    diagnosisOf g s = errorBlock s.language error.toList := by
  rw [diagnosisOf, h]

theorem diagnosisOf_of_missing (h : s.error? = none) (hmissing : s.missingTests g ≠ []) :
    diagnosisOf g s = missingBlock s.language ((s.missingTests g).map Test.label) := by
  rw [diagnosisOf, h]
  split
  · contradiction
  · split
    · contradiction
    · rfl

private theorem not_mem_errorBlock {language : String} (h : '\n' ∉ language.toList)
    (error : List Char) : ∀ line ∈ errorBlock language error, '\n' ∉ line := by
  have hkept : ∀ kept ∈ (Text.lines error).headD [] :: (Text.lines error).tail, '\n' ∉ kept := by
    rw [← errorLines_eq, errorLines]
    split
    · exact List.forall_mem_singleton.mpr List.not_mem_nil
    · exact fun kept hmem => Text.not_mem_of_mem_lines hmem
  obtain ⟨hfirst, hothers⟩ := List.forall_mem_cons.mp hkept
  intro line hline
  obtain rfl | hother := List.mem_cons.mp hline
  · simp only [List.mem_append, h, hfirst]
    decide
  · obtain ⟨other, hmem, rfl⟩ := List.mem_map.mp hother
    simp only [List.mem_append, hothers other hmem]
    decide

private theorem not_mem_missingBlock {language : String} {labels : List String}
    (h : '\n' ∉ language.toList) (hlabels : ∀ label ∈ labels, '\n' ∉ label.toList) :
    ∀ line ∈ missingBlock language labels, '\n' ∉ line := by
  intro line hline
  have hjoined : '\n' ∉ joined ", " labels := by
    intro hmem
    obtain hseparator | ⟨label, hlabel, hmem⟩ := of_mem_joined hmem
    · exact absurd hseparator (by decide)
    · exact hlabels label hlabel hmem
  obtain rfl := List.mem_singleton.mp hline
  simp only [List.mem_append, h, hjoined]
  decide

/-- The lines of a block are read again. -/
theorem linesOf_diagnosisOf (hlanguage : '\n' ∉ s.language.toList)
    (hlabels : ∀ t ∈ g.tests, '\n' ∉ t.label.toList) :
    linesOf (closed (diagnosisOf g s)) = diagnosisOf g s := by
  rw [linesOf_closed]
  refine flatMap_splitLines fun line hline => ?_
  cases herror : s.error? with
  | some error =>
    rw [diagnosisOf_of_error herror] at hline
    exact not_mem_errorBlock hlanguage _ line hline
  | none =>
    by_cases hmissing : s.missingTests g = []
    · rw [diagnosisOf_eq_nil_iff.mpr ⟨herror, hmissing⟩] at hline
      contradiction
    · rw [diagnosisOf_of_missing herror hmissing] at hline
      refine not_mem_missingBlock hlanguage ?_ line hline
      intro label hlabel
      obtain ⟨t, ht, rfl⟩ := List.mem_map.mp hlabel
      exact hlabels t ((Score.missingTests_sublist g s).subset ht)

/-- A program that could not be built or run has an error of a heading and a diagnostic. -/
private theorem error?_ofExecution {e : Execution} {heading diagnostic : String}
    (h : e.status = .buildFailed diagnostic ∧ heading = "build failed: " ∨
      e.status = .runtimeFailure diagnostic ∧ heading = "runtime failure: ") :
    heading ≠ "" ∧ (Score.ofExecution g e).error? = some (Status.headed heading diagnostic) := by
  obtain ⟨hstatus, rfl⟩ | ⟨hstatus, rfl⟩ := h
  · rw [Score.ofExecution_of_failed (by simp [hstatus]), hstatus]
    exact ⟨by decide, rfl⟩
  · rw [Score.ofExecution_of_failed (by simp [hstatus]), hstatus]
    exact ⟨by decide, rfl⟩

/-- The block of a language tells all of its score. -/
theorem block_diagnosisOf (hlanguage : '\n' ∉ s.language.toList)
    (hlabels : ∀ t ∈ g.tests, '\n' ∉ t.label.toList) :
    Block g s (closed (diagnosisOf g s)) := by
  have hlines := linesOf_diagnosisOf hlanguage hlabels
  have hread : ∀ error, s.error? = some error →
      errorLines? s.language (linesOf (closed (diagnosisOf g s))) =
        some (errorLines error.toList) := by
    intro error herror
    rw [hlines, diagnosisOf_of_error herror]
    exact errorLines?_errorBlock s.language error.toList
  constructor
  · rw [hlines]
  · intro error herror
    refine ⟨?_, hread error herror⟩
    rw [hlines, diagnosisOf_of_error herror, length_errorBlock]
  · rintro e rfl heading diagnostic hstatus
    obtain ⟨hheading, herror⟩ := error?_ofExecution (g := g) hstatus
    obtain ⟨blanks, hdiagnostic, hblanks⟩ := Text.exists_append_trimEnd diagnostic.toList
    refine ⟨_, blanks, hdiagnostic, hblanks, fun c hc => Text.not_isBlank_getLast_trimEnd hc, ?_⟩
    have hne : heading.toList ++ Text.trimEnd diagnostic.toList ≠ [] :=
      List.append_ne_nil_of_left_ne_nil (mt String.toList_eq_nil_iff.mp hheading) _
    rw [hread _ herror, Status.headed, String.toList_append, String.toList_ofList, errorLines,
      if_neg hne]
  · intro herror missing hmissing hne
    rw [← Score.missingTests_of_error? herror] at hmissing
    rw [hlines, diagnosisOf_of_missing herror (hmissing ▸ hne), missingBlock, toList_heading,
      hmissing]
  · intro herror hall
    have hmissing : s.missingTests g = [] := by
      rw [Score.missingTests_of_error? herror, List.filter_eq_nil_iff]
      intro t ht hnone
      exact hall t ht (Option.isNone_iff_eq_none.mp hnone)
    rw [diagnosisOf_eq_nil_iff.mpr ⟨herror, hmissing⟩]
    rfl

/-! ### The whole text -/

/-- The lines of a report in front of its diagnoses. -/
def linesBeforeDiagnosis (r : Report) : List Line :=
  banner title ++ [r.languages] ++ r.occasionLines ++ [[]] ++
    banner "DETAILED RESULTS" ++ [[]] ++ matrix r.grammar r.scores ++ [[]] ++
    banner "TOTAL TIME COMPARISON" ++ [[]] ++ podium r.ranking ++ [[]] ++
    banner "SUMMARY" ++ [[]] ++ narrative r.ranking r.subject r.baseline ++ [[]]

/-- The part of a report with some diagnoses. -/
def diagnosisSection (text : List Char) : List Char :=
  closed (banner "DIAGNOSTICS") ++ '\n' :: text ++ ['\n']

/-- The diagnoses lose nothing. Their text is that of the blocks of all languages, each of which
tells all that is known, and the report that is shown has a part with this text exactly if there is
something to say. -/
theorem diagnosis_keeps_lines (r : Report) (hlanguages : ∀ s ∈ r.scores, '\n' ∉ s.language.toList)
    (hlabels : ∀ t ∈ r.grammar.tests, '\n' ∉ t.label.toList) :
    let text := closed (diagnosis r.grammar r.scores)
    (∃ blocks, List.Forall₂ (Block r.grammar) r.scores blocks ∧ text = blocks.flatten) ∧
    (nothingToSay r.grammar r.scores = true ↔ text = []) ∧
    r.console.toList = closed r.linesBeforeDiagnosis ++
      (if nothingToSay r.grammar r.scores then [] else diagnosisSection text) ++
      closed [rule width '='] := by
  intro text
  refine ⟨⟨_, ?_, closed_flatMap (diagnosisOf r.grammar) r.scores⟩, ?_, ?_⟩
  · refine List.forall₂_map_right_iff.mpr (List.forall₂_same.mpr fun s hs => ?_)
    exact block_diagnosisOf (hlanguages s hs) hlabels
  · rw [nothingToSay_iff, closed_eq_nil_iff, diagnosis, List.flatMap_eq_nil_iff]
  · have hconsole : r.consoleLines =
        r.linesBeforeDiagnosis ++ r.diagnosisPart ++ [rule width '='] := rfl
    have hpart : closed r.diagnosisPart =
        if nothingToSay r.grammar r.scores then [] else diagnosisSection text := by
      rw [diagnosisPart]
      split
      · rfl
      · rw [closed_append, closed_append, closed_append, diagnosisSection]
        simp [closed, text]
    rw [console, String.toList_ofList, hconsole, closed_append, closed_append, hpart]

/-- Here a diagnostic has an empty line and two sorts of line ends, another one is all white space,
and a program does not report the first and the last test. -/
theorem diagnosis_keeps_lines_returns :
    let g : Grammar := ⟨[⟨"a", "A", "", .empty⟩, ⟨"b", "B", "", .empty⟩, ⟨"c", "C", "", .empty⟩],
      "", .empty⟩
    let scores : List Score := [
      .ofExecution g (.failed "Rust" (.buildFailed "error: a\r\n\n --> b\n \n")),
      .ofExecution g (.failed "Go" (.runtimeFailure "\r\n")),
      ⟨"Zig", .measured [("a", .one), ("b", .one), ("c", .one)] none⟩,
      ⟨"PHP", .measured [("b", .one)] none⟩]
    (∃ blocks, List.Forall₂ (Block g) scores blocks ∧
      closed (diagnosis g scores) = blocks.flatten) ∧
    nothingToSay g scores = false ∧
    closed (diagnosis g scores) =
      ("  Rust: skipped, build failed: error: a\n      \n       --> b\n" ++
        "  Go: skipped, runtime failure: \n  PHP: not reported: A, C\n").toList := by
  intro g scores
  let r : Report := ⟨g, scores, ⟨[]⟩, ⟨⟨0, 0⟩, ⟨1, 0⟩, "linux"⟩, "Go", "Zig"⟩
  have hlanguages : ∀ s ∈ r.scores, '\n' ∉ s.language.toList := by decide
  have hlabels : ∀ t ∈ r.grammar.tests, '\n' ∉ t.label.toList := by decide
  refine ⟨(diagnosis_keeps_lines r hlanguages hlabels).1, ?_, ?_⟩
  · decide +kernel
  · decide +kernel

end Report

end Timekeeper
