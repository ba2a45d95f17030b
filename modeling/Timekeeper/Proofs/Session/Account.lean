import Timekeeper.Proofs.Readout.Extraction
import Timekeeper.Proofs.Runner.Execute
import Timekeeper.Proofs.Score.Coverage
import Timekeeper.Proofs.Text.Lines
import Timekeeper.Session

/-!
# A session accounts for every language once

Whatever the programs of its languages do, a session comes to an end with one score for each
language, in the order of the languages. What it prints is put together from the lines that are
**due** to each execution (`Session.Due`): its language is running, and then it is skipped for the
first line of an error, or finished; and if it is finished, the tests that it did not report are
counted. The lines are given word by word, with the colours of their verbs.

The count closes because the identifiers of a grammar differ: every declared test has a measurement
under its own identifier or is missing, and there are no other measurements
(`Score.missing_add_measured`).
-/

namespace Timekeeper

/-! ### Scores of executions -/

namespace Score

theorem language_ofExecution (g : Grammar) (e : Execution) :
    (ofExecution g e).language = e.language := by
  rw [ofExecution]
  split <;> rfl

/-- Of an execution that completed, each declared test is either missing or measured. -/
theorem missing_add_measured {g : Grammar} (hids : (g.tests.map Test.id).Nodup) {e : Execution}
    (h : e.status = .completed) :
    ((ofExecution g e).missingTests g).length + (ofExecution g e).measurements.length =
      g.tests.length := by
  have hlength := (perm_declared hids e.language e.output.toList).length_eq
  rw [List.length_append, List.length_map, List.length_map, List.length_map] at hlength
  rw [ofExecution_of_completed h, Nat.add_comm]
  exact hlength

end Score

/-! ### Words in colour -/

namespace Style

/-- A word in bold and bright green, where colours are shown. -/
def green : Style → String → String
  | plain, word => word
  | coloured, word => "\x1b[1;92m" ++ word ++ "\x1b[0m"

/-- A word in bold and bright yellow, where colours are shown. -/
def yellow : Style → String → String
  | plain, word => word
  | coloured, word => "\x1b[1;93m" ++ word ++ "\x1b[0m"

theorem paint_good (style : Style) (word : String) : style.paint .good word = style.green word := by
  cases style with
  | plain => rfl
  | coloured =>
    have hcode : "\x1b[1;" ++ Tone.good.code ++ "m" = "\x1b[1;92m" := by decide
    rw [paint, hcode]
    rfl

theorem paint_poor (style : Style) (word : String) :
    style.paint .poor word = style.yellow word := by
  cases style with
  | plain => rfl
  | coloured =>
    have hcode : "\x1b[1;" ++ Tone.poor.code ++ "m" = "\x1b[1;93m" := by decide
    rw [paint, hcode]
    rfl

end Style

namespace Session

/-! ### The lines of a session -/

/-- The line of a language that is about to run. -/
def runningLine (style : Style) (language : String) : String :=
  "     " ++ style.green "Running" ++ " " ++ language ++ " benchmark"

/-- The line of a language that could not be measured. -/
def skippedLine (style : Style) (language reason : String) : String :=
  "     " ++ style.yellow "Skipped" ++ " " ++ language ++ ": " ++ reason

/-- The line of a language that was measured. The milliseconds have three digits. -/
def finishedLine (style : Style) (language : String) (seconds milliseconds : Nat) : String :=
  "    " ++ style.green "Finished" ++ " " ++ language ++ " in " ++ Nat.repr seconds ++ "." ++
    String.ofList ((Nat.toDigits 10 milliseconds).leftpad 3 '0') ++ "s"

/-- The line of a language that did not report some of the declared tests. -/
def incompleteLine (style : Style) (language : String) (missing declared : Nat) : String :=
  "     " ++ style.yellow "Warning" ++ " " ++ language ++ " did not report " ++
    Nat.repr missing ++ " of " ++ Nat.repr declared ++ " tests"

theorem line_running (style : Style) (language : String) :
    (Notice.running language).line style = runningLine style language := by
  rw [Notice.line, Style.paint_good]
  rfl

theorem line_skipped (style : Style) (language reason : String) :
    (Notice.skipped language reason).line style = skippedLine style language reason := by
  rw [Notice.line, Style.paint_poor]
  rfl

theorem line_finished (style : Style) (language : String) (seconds milliseconds : Nat) :
    (Notice.finished language seconds milliseconds).line style =
      finishedLine style language seconds milliseconds := by
  rw [Notice.line, Style.paint_good]
  rfl

theorem line_incomplete (style : Style) (language : String) (missing declared : Nat) :
    (Notice.incomplete language missing declared).line style =
      incompleteLine style language missing declared := by
  rw [Notice.line, Style.paint_poor]
  rfl

/-- The lines that are **due** to an execution, in one style and in the other. -/
inductive Due (g : Grammar) (e : Execution) : (Style → List String) → Prop
  /-- The execution did not complete, and the reason is the first line of its error. -/
  | skipped {reason : String} : e.status ≠ .completed →
    Text.FirstLine e.status.message.toList reason.toList →
    Due g e fun style => [runningLine style e.language, skippedLine style e.language reason]
  /-- The execution completed, and every declared test has a measurement. -/
  | finished {seconds milliseconds : Nat} : milliseconds < 1000 → e.status = .completed →
    (∀ t ∈ g.tests, ((Score.ofExecution g e).measurement? t.id).isSome = true) →
    (Score.ofExecution g e).measurements.length = g.tests.length →
    Due g e fun style =>
      [runningLine style e.language, finishedLine style e.language seconds milliseconds]
  /-- The execution completed, and some of the declared tests have no measurement. -/
  | incomplete {seconds milliseconds missing : Nat} : milliseconds < 1000 →
    e.status = .completed → 0 < missing →
    missing = (g.tests.filter fun t =>
      ((Score.ofExecution g e).measurement? t.id).isNone).length →
    missing + (Score.ofExecution g e).measurements.length = g.tests.length →
    Due g e fun style =>
      [runningLine style e.language, finishedLine style e.language seconds milliseconds,
        incompleteLine style e.language missing g.tests.length]

variable {σ : Type} {m : Machine σ} {w : Workplace} {g : Grammar}

/-- The lines of a session, without their line feeds. -/
def lines (s : Session) (style : Style) : List String := s.notices.map (Notice.line style)

theorem transcript_eq (s : Session) (style : Style) :
    s.transcript style = String.join ((s.lines style).map (· ++ "\n")) := by
  rw [transcript, lines, List.map_map]
  rfl

theorem lines_append (first second : Session) (style : Style) :
    (first.append second).lines style = first.lines style ++ second.lines style := List.map_append

theorem lines_of_failed {e : Execution} (h : e.status ≠ .completed) (seconds milliseconds : Nat) :
    (ofExecution g e seconds milliseconds).lines = fun style =>
      [runningLine style e.language,
        skippedLine style e.language (Notice.reason e.status.message)] := by
  funext style
  rw [lines, ofExecution, Score.ofExecution_of_failed h, ← line_running, ← line_skipped]
  rfl

theorem lines_of_completed {e : Execution} (h : e.status = .completed)
    (seconds milliseconds : Nat) :
    let missing := ((Score.ofExecution g e).missingTests g).length
    (ofExecution g e seconds milliseconds).lines = fun style =>
      runningLine style e.language :: finishedLine style e.language seconds milliseconds ::
        if missing = 0 then [] else [incompleteLine style e.language missing g.tests.length] := by
  intro missing
  have hnotices : (ofExecution g e seconds milliseconds).notices =
      .running e.language :: .finished e.language seconds milliseconds ::
        if missing = 0 then [] else [.incomplete e.language missing g.tests.length] := by
    simp only [ofExecution, missing, Score.ofExecution_of_completed h]
    rfl
  funext style
  rw [lines, hnotices, List.map_cons, List.map_cons, line_running, line_finished]
  split
  · rfl
  · rw [List.map_singleton, line_incomplete]

/-- The lines of one execution are due to it. -/
theorem due_ofExecution (hids : (g.tests.map Test.id).Nodup) (e : Execution) (seconds : Nat)
    {milliseconds : Nat} (hlt : milliseconds < 1000) :
    Due g e (ofExecution g e seconds milliseconds).lines := by
  by_cases hstatus : e.status = .completed
  · have hcount := Score.missing_add_measured hids hstatus
    have hmissing : (Score.ofExecution g e).missingTests g = g.tests.filter fun t =>
        ((Score.ofExecution g e).measurement? t.id).isNone := by
      rw [Score.ofExecution_of_completed hstatus]
      rfl
    rw [lines_of_completed hstatus]
    by_cases hnone : ((Score.ofExecution g e).missingTests g).length = 0
    · simp only [hnone, if_true]
      rw [hnone, Nat.zero_add] at hcount
      rw [hmissing, List.length_eq_zero_iff, List.filter_eq_nil_iff] at hnone
      have hmeasured : ∀ t ∈ g.tests,
          ((Score.ofExecution g e).measurement? t.id).isSome = true := by
        intro t ht
        have hsome := hnone t ht
        rwa [Option.isNone_iff_eq_none, ← ne_eq, ← Option.isSome_iff_ne_none] at hsome
      exact .finished hlt hstatus hmeasured hcount
    · simp only [hnone, if_false]
      exact .incomplete hlt hstatus (Nat.pos_of_ne_zero hnone) (congrArg List.length hmissing)
        hcount
  · have hreason : Text.FirstLine e.status.message.toList
        (Notice.reason e.status.message).toList := by
      rw [Notice.reason, String.toList_ofList]
      exact Text.firstLine_headD _
    rw [lines_of_failed hstatus]
    exact .skipped hstatus hreason

/-! ### Runs -/

/-- The **executions** that languages come to one after another. -/
def executions (m : Machine σ) (w : Workplace) (languages : List Language) :
    StateM σ (List Execution) := languages.mapM (m.execute w)

theorem run_executions_cons (language : Language) (rest : List Language) (s : σ) :
    (executions m w (language :: rest)).run s =
      let first := (m.execute w language).run s
      let others := (executions m w rest).run first.2
      (first.1 :: others.1, others.2) := by
  rw [executions, List.mapM_cons]
  rfl

theorem run_cons (language : Language) (rest : List Language) (s : σ) :
    (run m w g (language :: rest)).run s =
      let first := (measure m w g language).run s
      let others := (run m w g rest).run first.2
      (first.1.append others.1, others.2) := rfl

/-- Measuring a language leaves the machine as its execution does. -/
theorem measure_state (language : Language) (s : σ) :
    ((measure m w g language).run s).2 = ((m.execute w language).run s).2 := rfl

theorem scores_measure (language : Language) (s : σ) :
    ((measure m w g language).run s).1.scores =
      [Score.ofExecution g ((m.execute w language).run s).1] := rfl

/-- The lines of measuring a language are due to its execution. -/
theorem due_measure (hids : (g.tests.map Test.id).Nodup) (language : Language) (s : σ) :
    Due g ((m.execute w language).run s).1 ((measure m w g language).run s).1.lines :=
  due_ofExecution hids _ _ (Nat.mod_lt _ (by decide))

/-- A session leaves the machine as its executions do. -/
theorem run_state (languages : List Language) (s : σ) :
    ((run m w g languages).run s).2 = ((executions m w languages).run s).2 := by
  induction languages generalizing s with
  | nil => rfl
  | cons language rest ih =>
    simp only [run_cons, run_executions_cons, measure_state, ih]

/-- A session has the score of each execution, in their order. -/
theorem scores_run (languages : List Language) (s : σ) :
    ((run m w g languages).run s).1.scores =
      ((executions m w languages).run s).1.map (Score.ofExecution g) := by
  induction languages generalizing s with
  | nil => rfl
  | cons language rest ih =>
    simp only [run_cons, run_executions_cons, append, scores_measure, measure_state, ih,
      List.map_cons, List.singleton_append]

/-- The lines of a session are those due to each execution, in their order. -/
theorem exists_due_run (hids : (g.tests.map Test.id).Nodup) (languages : List Language) (s : σ) :
    ∃ told, List.Forall₂ (Due g) ((executions m w languages).run s).1 told ∧
      ∀ style, ((run m w g languages).run s).1.lines style = told.flatMap (· style) := by
  induction languages generalizing s with
  | nil => exact ⟨[], .nil, fun _ => rfl⟩
  | cons language rest ih =>
    obtain ⟨told, hdue, hlines⟩ := ih ((m.execute w language).run s).2
    rw [run_cons, run_executions_cons]
    refine ⟨_ :: told, .cons (due_measure hids language s) hdue, fun style => ?_⟩
    rw [List.flatMap_cons, ← hlines]
    exact lines_append _ _ style

/-- Executions bear the names of their languages. -/
theorem languages_executions (languages : List Language) (s : σ) :
    ((executions m w languages).run s).1.map Execution.language = languages.map Language.name := by
  induction languages generalizing s with
  | nil => rfl
  | cons language rest ih =>
    rw [run_executions_cons, List.map_cons, List.map_cons, ih, m.language_execute]

end Session

/-- A session accounts for every language once: it has the score of each execution, in the order of
the languages and under their names, and it prints the lines that are due to each of them, in the
same order, and nothing else. -/
theorem Session.run_accounts {table : Table} {g : Grammar} (h : Grammar.ofTable table = .ok g)
    {σ : Type} (m : Machine σ) (w : Workplace) (languages : List Language) (s : σ) :
    ((run m w g languages).run s).2 = ((executions m w languages).run s).2 ∧
      ((executions m w languages).run s).1.map Execution.language =
        languages.map Language.name ∧
      ((run m w g languages).run s).1.scores =
        ((executions m w languages).run s).1.map (Score.ofExecution g) ∧
      ((run m w g languages).run s).1.scores.map Score.language = languages.map Language.name ∧
      ∃ told, List.Forall₂ (Due g) ((executions m w languages).run s).1 told ∧
        ∀ style, ((run m w g languages).run s).1.transcript style =
          String.join ((told.flatMap fun lines => lines style).map fun line => line ++ "\n") := by
  have hids := (Grammar.ofTable_eq_ok_iff.mp h).nodup_ids
  have hnames := languages_executions (m := m) (w := w) languages s
  have hscores := scores_run (m := m) (w := w) (g := g) languages s
  obtain ⟨told, hdue, hlines⟩ := exists_due_run (m := m) (w := w) hids languages s
  refine ⟨run_state languages s, hnames, hscores, ?_, told, hdue, fun style => ?_⟩
  · rw [hscores, List.map_map, ← hnames]
    exact List.map_congr_left fun e _ => Score.language_ofExecution g e
  · rw [transcript_eq, hlines]

/-- Here one program reports one test of twelve, the compiler of another one is stopped by a signal
and prints nothing, and the source of the last one is not there. -/
theorem Session.run_accounts_unreported :
    let m : Machine Unit := {
      isFile := fun _ path => path != "./fib.rs"
      tool? := fun _ name => some ("/bin/" ++ name)
      run := fun command _ =>
        return .ok (if command.program = "/bin/gcc"
          then .exited ⟨false, "signal: 11 (SIGSEGV) (core dumped)"⟩ "" ""
          else .exited ⟨true, "exit status: 0"⟩ "Test 1: Sure: 5 ms\n" "")
      discard := fun _ s => s
      save := fun _ _ => return .ok ()
      now := fun _ => ⟨0, 0⟩
      stopwatch := fun _ look => 2999999999 * look
      platform := "" }
    let w : Workplace := ⟨"./", "./", 1, 1⟩
    let languages : List Language :=
      [⟨"Python", .interpreted ["python"] "fib.py"⟩, ⟨"C", .compiled "gcc" [] "fib.c" "fib"⟩,
        ⟨"Rust", .compiled "rustc" [] "fib.rs" "fib"⟩]
    ∃ g, Grammar.ofTable .standard = .ok g ∧
      ((run m w g languages).run ()).1.scores.map Score.language = ["Python", "C", "Rust"] ∧
      ((run m w g languages).run ()).1.transcript .plain =
        "     Running Python benchmark\n" ++
        "    Finished Python in 0.999s\n" ++
        "     Warning Python did not report 11 of 12 tests\n" ++
        "     Running C benchmark\n" ++
        "     Skipped C: build failed: signal: 11 (SIGSEGV) (core dumped)\n" ++
        "     Running Rust benchmark\n" ++
        "     Skipped Rust: \"./fib.rs\" not found\n" := by
  intro m w languages
  obtain ⟨-, -, -, hnames, -⟩ := run_accounts PlainTable.ofTable_standard m w languages ()
  refine ⟨PlainTable.standard.grammar, PlainTable.ofTable_standard, hnames, ?_⟩
  decide +kernel

end Timekeeper
