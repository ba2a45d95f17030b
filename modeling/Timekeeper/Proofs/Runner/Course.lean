import Timekeeper.Runner
import Mathlib.Data.List.TakeWhile

/-!
# The course of running a language

A **course** is what there is to do for a language: a step, and for each answer of the step what
comes next, until the output is there. The rules `Step.Ends` say how one step ends, one rule for
each way in which it can, and `Course.Goes` says how a course goes: step after step, as long as each
of them succeeds.

A step ends in one way only (`Step.ends_iff`), so a course goes in one way only (`Goes.unique`).
Every course that is made for a toolchain follows the **order** of the toolchain, whatever the
answers are, and how far it gets is told by its result (`Goes.kinds`).
-/

namespace Timekeeper

/-! ### Attempts -/

namespace Attempt

variable {σ α β : Type}

theorem run_bind (x : Attempt σ α) (f : α → Attempt σ β) (s : σ) :
    (x >>= f).run.run s = match x.run.run s with
      | (.ok a, s') => (f a).run.run s'
      | (.error status, s') => (.error status, s') := by
  rw [ExceptT.run_bind, StateT.run_bind]
  generalize x.run.run s = outcome
  obtain ⟨_ | _, s'⟩ := outcome <;> rfl

theorem run_get_bind (f : σ → Attempt σ α) (s : σ) :
    ((get : Attempt σ σ) >>= f).run.run s = (f s).run.run s := rfl

theorem run_lift_bind (x : StateM σ α) (f : α → Attempt σ β) (s : σ) :
    ((liftM x : Attempt σ α) >>= f).run.run s = (f (x.run s).1).run.run (x.run s).2 := rfl

end Attempt

/-! ### Steps -/

/-- A **step** of running a language: looking for its source, for a tool or for an executable of
the project, building, and running a benchmark program. -/
inductive Step where
  | source (name : String)
  | tool (candidates : List String)
  | executable (candidates : List String)
  | build (command : Command)
  | program (command : Command)

namespace Step

/-- What a step is, apart from what it is done with. -/
inductive Kind where
  | source
  | tool
  | executable
  | build
  | program
deriving DecidableEq

def kind : Step → Kind
  | source _ => .source
  | tool _ => .tool
  | executable _ => .executable
  | build _ => .build
  | program _ => .program

/-- The child that a step starts, if it starts one, and the bound of the child. -/
def child? (w : Workplace) : Step → Option (Command × Nat)
  | build command => some (command, w.buildBound)
  | program command => some (command, w.runBound)
  | _ => none

/-- What a process printed on both channels. -/
def printed (output errors : String) : String :=
  String.ofList (Captured.combine output.toList errors.toList)

/-- How a step **ends** on a machine: with an answer or with the status of its failure, and in
which state. -/
inductive Ends {σ : Type} (m : Machine σ) (w : Workplace) :
    Step → σ → Except Status String → σ → Prop
  | sourceFound {name : String} {s : σ} :
    m.isFile s (FileTree.join w.benchmarks name) = true →
    Ends m w (.source name) s (.ok (FileTree.join w.benchmarks name)) s
  | sourceMissing {name : String} {s : σ} :
    m.isFile s (FileTree.join w.benchmarks name) = false →
    Ends m w (.source name) s (.error (.notFound (FileTree.join w.benchmarks name))) s
  | toolFound {earlier later : List String} {candidate path : String} {s : σ} :
    (∀ c ∈ earlier, m.tool? s c = none) → m.tool? s candidate = some path →
    Ends m w (.tool (earlier ++ candidate :: later)) s (.ok path) s
  | toolMissing {candidates : List String} {s : σ} :
    (∀ c ∈ candidates, m.tool? s c = none) →
    Ends m w (.tool candidates) s (.error (.toolMissing (" or ".intercalate candidates))) s
  | executableFound {earlier later : List String} {candidate : String} {s : σ} :
    (∀ c ∈ earlier, m.isFile s (FileTree.join w.project c) = false) →
    m.isFile s (FileTree.join w.project candidate) = true →
    Ends m w (.executable (earlier ++ candidate :: later)) s
      (.ok (FileTree.join w.project candidate)) s
  | executableMissing {first : String} {later : List String} {s : σ} :
    (∀ c ∈ first :: later, m.isFile s (FileTree.join w.project c) = false) →
    Ends m w (.executable (first :: later)) s
      (.error (.notFound (FileTree.join w.project first))) s
  | noExecutable {s : σ} :
    Ends m w (.executable []) s (.error (.notFound w.project)) s
  | built {command : Command} {status output errors : String} {s s' : σ} :
    (m.run command w.buildBound).run s = (.ok (.exited ⟨true, status⟩ output errors), s') →
    Ends m w (.build command) s (.ok "") s'
  | buildFailed {command : Command} {status output errors : String} {s s' : σ} :
    (m.run command w.buildBound).run s = (.ok (.exited ⟨false, status⟩ output errors), s') →
    (¬∀ c ∈ (printed output errors).toList, Text.isBlank c = true) →
    Ends m w (.build command) s (.error (.buildFailed (printed output errors))) s'
  | buildFailedSilently {command : Command} {status output errors : String} {s s' : σ} :
    (m.run command w.buildBound).run s = (.ok (.exited ⟨false, status⟩ output errors), s') →
    (∀ c ∈ (printed output errors).toList, Text.isBlank c = true) →
    Ends m w (.build command) s (.error (.buildFailed status)) s'
  | buildTimedOut {command : Command} {s s' : σ} :
    (m.run command w.buildBound).run s = (.ok .timedOut, s') →
    Ends m w (.build command) s (.error (.timedOut w.buildBound)) s'
  | buildNotRun {command : Command} {e : RunError} {s s' : σ} :
    (m.run command w.buildBound).run s = (.error e, s') →
    Ends m w (.build command) s (.error (.buildFailed e.message)) s'
  | completed {command : Command} {status output errors : String} {s s' : σ} :
    (m.run command w.runBound).run s = (.ok (.exited ⟨true, status⟩ output errors), s') →
    Ends m w (.program command) s (.ok (printed output errors)) s'
  | failed {command : Command} {status output errors : String} {s s' : σ} :
    (m.run command w.runBound).run s = (.ok (.exited ⟨false, status⟩ output errors), s') →
    Ends m w (.program command) s
      (.error (.runtimeFailure (printed (status ++ "\n") errors))) s'
  | programTimedOut {command : Command} {s s' : σ} :
    (m.run command w.runBound).run s = (.ok .timedOut, s') →
    Ends m w (.program command) s (.error (.timedOut w.runBound)) s'
  | programNotRun {command : Command} {e : RunError} {s s' : σ} :
    (m.run command w.runBound).run s = (.error e, s') →
    Ends m w (.program command) s (.error (.runtimeFailure e.message)) s'

/-- How a step is done. -/
def perform {σ : Type} (m : Machine σ) (w : Workplace) : Step → Attempt σ String
  | source name => m.source w name
  | tool candidates => m.tool candidates
  | executable candidates => m.executable w candidates
  | build command => do
    m.build w command
    return ""
  | program command => m.program w command

variable {σ : Type} {m : Machine σ} {w : Workplace}

open Attempt

/-! ### How a step ends -/

theorem run_source (name : String) (s : σ) : (m.source w name).run.run s =
    (if m.isFile s (FileTree.join w.benchmarks name) then .ok (FileTree.join w.benchmarks name)
      else .error (.notFound (FileTree.join w.benchmarks name)), s) := by
  rw [Machine.source, run_get_bind]
  split <;> rfl

theorem run_tool (candidates : List String) (s : σ) :
    (m.tool candidates).run.run s = (match candidates.findSome? (m.tool? s) with
      | some path => .ok path
      | none => .error (.toolMissing (" or ".intercalate candidates)), s) := by
  rw [Machine.tool, run_get_bind]
  cases candidates.findSome? (m.tool? s) <;> rfl

theorem run_executable (candidates : List String) (s : σ) :
    (m.executable w candidates).run.run s =
      (match (candidates.map (FileTree.join w.project)).find? (m.isFile s) with
        | some path => .ok path
        | none => .error (.notFound ((candidates.map (FileTree.join w.project)).headD w.project)),
        s) := by
  rw [Machine.executable, run_get_bind]
  cases (candidates.map (FileTree.join w.project)).find? (m.isFile s) <;> rfl

/-- What a build comes to by what comes of the compiler. -/
def buildResult (w : Workplace) : Except RunError (Ending ExitStatus) → Except Status String
  | .ok (.exited ⟨true, _⟩ _ _) => .ok ""
  | .ok (.exited ⟨false, status⟩ output errors) =>
    .error (.buildFailed (Machine.complaint status output errors))
  | .ok .timedOut => .error (.timedOut w.buildBound)
  | .error e => .error (.buildFailed e.message)

theorem run_build {command : Command} {s s' : σ} {result : Except RunError (Ending ExitStatus)}
    (h : (m.run command w.buildBound).run s = (result, s')) :
    ((build command).perform m w).run.run s = (buildResult w result, s') := by
  rw [perform, run_bind, Machine.build, run_lift_bind, h]
  obtain e | ⟨⟨_ | _, status⟩, output, errors⟩ | _ := result <;> rfl

/-- What a benchmark program comes to by what comes of its process. -/
def programResult (w : Workplace) : Except RunError (Ending ExitStatus) → Except Status String
  | .ok (.exited ⟨true, _⟩ output errors) => .ok (printed output errors)
  | .ok (.exited ⟨false, status⟩ _ errors) =>
    .error (.runtimeFailure (printed (status ++ "\n") errors))
  | .ok .timedOut => .error (.timedOut w.runBound)
  | .error e => .error (.runtimeFailure e.message)

theorem run_program {command : Command} {s s' : σ} {result : Except RunError (Ending ExitStatus)}
    (h : (m.run command w.runBound).run s = (result, s')) :
    ((program command).perform m w).run.run s = (programResult w result, s') := by
  rw [perform, Machine.program, run_lift_bind, h]
  obtain e | ⟨⟨_ | _, status⟩, output, errors⟩ | _ := result <;> rfl

private theorem find?_project_eq_some {candidates : List String} {s : σ} {path : String} :
    (candidates.map (FileTree.join w.project)).find? (m.isFile s) = some path ↔
      ∃ earlier candidate later, candidates = earlier ++ candidate :: later ∧
        FileTree.join w.project candidate = path ∧ m.isFile s path = true ∧
        ∀ c ∈ earlier, m.isFile s (FileTree.join w.project c) = false := by
  rw [List.find?_map, Option.map_eq_some_iff]
  simp only [List.find?_eq_some_iff_append, Function.comp_apply, Bool.not_eq_true']
  constructor
  · rintro ⟨candidate, ⟨hfile, earlier, later, rfl, hearlier⟩, rfl⟩
    exact ⟨earlier, candidate, later, rfl, rfl, hfile, hearlier⟩
  · rintro ⟨earlier, candidate, later, rfl, rfl, hfile, hearlier⟩
    exact ⟨candidate, ⟨hfile, earlier, later, rfl, hearlier⟩, rfl⟩

private theorem trim_eq_nil_iff {text : List Char} :
    Text.trim text = [] ↔ ∀ c ∈ text, Text.isBlank c = true := by
  rw [Text.trim, Text.trimEnd, List.reverse_eq_nil_iff, List.dropWhile_eq_nil_iff]
  constructor
  · intro h
    refine List.dropWhile_eq_nil_iff.mp ?_
    by_contra hne
    have hhead := List.head_dropWhile_not Text.isBlank hne
    rw [h _ (List.mem_reverse.mpr (List.head_mem hne))] at hhead
    contradiction
  · intro h c hc
    exact h c ((List.dropWhile_sublist _).subset (List.mem_reverse.mp hc))

private theorem complaint_eq (status output errors : String) :
    Machine.complaint status output errors =
      if (printed output errors).toList.all Text.isBlank = true then status
      else printed output errors := by
  have hblank : (Text.trim (Captured.combine output.toList errors.toList)).isEmpty = true ↔
      (printed output errors).toList.all Text.isBlank = true := by
    rw [List.isEmpty_iff, trim_eq_nil_iff, printed, String.toList_ofList, List.all_eq_true]
  rw [Machine.complaint]
  exact if_congr hblank rfl rfl

/-- Whatever a step is and does, one of the rules says how it ends. -/
theorem perform_ends (step : Step) (s : σ) : step.Ends m w s
    ((step.perform m w).run.run s).1 ((step.perform m w).run.run s).2 := by
  cases step with
  | source name =>
    rw [perform, run_source]
    cases hfile : m.isFile s (FileTree.join w.benchmarks name) with
    | true => exact .sourceFound hfile
    | false => exact .sourceMissing hfile
  | tool candidates =>
    rw [perform, run_tool]
    cases hfind : candidates.findSome? (m.tool? s) with
    | some path =>
      obtain ⟨earlier, candidate, later, rfl, hpath, hearlier⟩ :=
        List.findSome?_eq_some_iff.mp hfind
      exact .toolFound hearlier hpath
    | none => exact .toolMissing (List.findSome?_eq_none_iff.mp hfind)
  | executable candidates =>
    rw [perform, run_executable]
    cases hfind : (candidates.map (FileTree.join w.project)).find? (m.isFile s) with
    | some path =>
      obtain ⟨earlier, candidate, later, rfl, rfl, hfile, hearlier⟩ :=
        find?_project_eq_some.mp hfind
      exact .executableFound hearlier hfile
    | none =>
      cases candidates with
      | nil => exact .noExecutable
      | cons first later =>
        refine .executableMissing fun c hc => ?_
        have hmissing := List.find?_eq_none.mp hfind _ (List.mem_map_of_mem hc)
        exact Bool.eq_false_iff.mpr hmissing
  | build command =>
    rcases hrun : (m.run command w.buildBound).run s with
      ⟨e | ⟨⟨success, status⟩, output, errors⟩ | _, s'⟩
    · rw [run_build hrun]
      exact .buildNotRun hrun
    · rw [run_build hrun]
      cases success with
      | true => exact .built hrun
      | false =>
        rw [buildResult, complaint_eq]
        by_cases hblank : (printed output errors).toList.all Text.isBlank = true
        · rw [if_pos hblank]
          exact .buildFailedSilently hrun (List.all_eq_true.mp hblank)
        · rw [if_neg hblank]
          rw [List.all_eq_true] at hblank
          exact .buildFailed hrun hblank
    · rw [run_build hrun]
      exact .buildTimedOut hrun
  | program command =>
    rcases hrun : (m.run command w.runBound).run s with
      ⟨e | ⟨⟨success, status⟩, output, errors⟩ | _, s'⟩
    · rw [run_program hrun]
      exact .programNotRun hrun
    · rw [run_program hrun]
      cases success with
      | true => exact .completed hrun
      | false => exact .failed hrun
    · rw [run_program hrun]
      exact .programTimedOut hrun

/-- The rules allow a step to end as it does when it is done, and not otherwise. -/
theorem ends_iff {step : Step} {s s' : σ} {result : Except Status String} :
    step.Ends m w s result s' ↔ (step.perform m w).run.run s = (result, s') := by
  constructor
  · intro h
    cases h with
    | sourceFound hfile => rw [perform, run_source, if_pos hfile]
    | sourceMissing hfile => rw [perform, run_source, if_neg (Bool.eq_false_iff.mp hfile)]
    | toolFound hearlier hpath =>
      rw [perform, run_tool,
        List.findSome?_eq_some_iff.mpr ⟨_, _, _, rfl, hpath, hearlier⟩]
    | toolMissing hmissing =>
      rw [perform, run_tool, List.findSome?_eq_none_iff.mpr hmissing]
    | executableFound hearlier hfile =>
      rw [perform, run_executable,
        find?_project_eq_some.mpr ⟨_, _, _, rfl, rfl, hfile, hearlier⟩]
    | executableMissing hmissing =>
      have hnone := List.find?_eq_none.mpr <| List.forall_mem_map.mpr fun c hc =>
        Bool.eq_false_iff.mp (hmissing c hc)
      rw [perform, run_executable, hnone]
      rfl
    | noExecutable => rw [perform, run_executable]; rfl
    | built hrun => rw [run_build hrun]; rfl
    | buildFailed hrun hprinted =>
      rw [run_build hrun, buildResult, complaint_eq, if_neg (mt List.all_eq_true.mp hprinted)]
    | buildFailedSilently hrun hblank =>
      rw [run_build hrun, buildResult, complaint_eq, if_pos (List.all_eq_true.mpr hblank)]
    | buildTimedOut hrun => rw [run_build hrun]; rfl
    | buildNotRun hrun => rw [run_build hrun]; rfl
    | completed hrun => rw [run_program hrun]; rfl
    | failed hrun => rw [run_program hrun]; rfl
    | programTimedOut hrun => rw [run_program hrun]; rfl
    | programNotRun hrun => rw [run_program hrun]; rfl
  · intro h
    have hends := step.perform_ends (m := m) (w := w) s
    rwa [h] at hends

theorem Ends.unique {step : Step} {s t t' : σ} {result result' : Except Status String}
    (h : step.Ends m w s result t) (h' : step.Ends m w s result' t') :
    result = result' ∧ t = t' :=
  Prod.mk.inj ((ends_iff.mp h).symm.trans (ends_iff.mp h'))

/-- A build has an answer only if the compiler exited with success. -/
theorem Ends.exited_of_build {command : Command} {answer : String} {s s' : σ}
    (h : (build command).Ends m w s (.ok answer) s') :
    ∃ status output errors,
      (m.run command w.buildBound).run s = (.ok (.exited ⟨true, status⟩ output errors), s') := by
  cases h with
  | built hrun => exact ⟨_, _, _, hrun⟩

/-- Failing is never completion. -/
theorem Ends.ne_completed {step : Step} {s s' : σ} {status : Status}
    (h : step.Ends m w s (.error status) s') : status ≠ .completed := by
  rintro rfl
  cases h

end Step

/-! ### Courses -/

/-- A **course**: the last step, which gives the output, or a step and for each of its answers
what comes next. -/
inductive Course where
  | last (only : Step)
  | step (first : Step) (next : String → Course)

namespace Course

/-- The course of a toolchain. -/
def ofToolchain (w : Workplace) : Toolchain → Course
  | .compiled compiler flags source binary =>
    .step (.source source) fun source =>
    .step (.tool [compiler]) fun compiler =>
    .step (.build ⟨compiler, flags ++ [source, "-o", FileTree.join w.benchmarks binary]⟩) fun _ =>
    .last (.program ⟨FileTree.join w.benchmarks binary, []⟩)
  | .interpreted interpreters source =>
    .step (.source source) fun source =>
    .step (.tool interpreters) fun interpreter =>
    .last (.program ⟨interpreter, [source]⟩)
  | .project executables source =>
    .step (.executable executables) fun executable =>
    .step (.source source) fun source =>
    .last (.program ⟨executable, [source]⟩)

/-- The order of the steps of a toolchain. -/
def order : Toolchain → List Step.Kind
  | .compiled .. => [.source, .tool, .build, .program]
  | .interpreted .. => [.source, .tool, .program]
  | .project .. => [.executable, .source, .program]

/-- How a course **goes** on a machine: the steps that are attempted with what each of them gives,
the result, and the final state. A step that fails is the last one to be attempted. -/
inductive Goes {σ : Type} (m : Machine σ) (w : Workplace) :
    Course → σ → List (Step × Except Status String) → Except Status String → σ → Prop
  | ends {step : Step} {result : Except Status String} {s s' : σ} :
    step.Ends m w s result s' →
    Goes m w (.last step) s [(step, result)] result s'
  | fails {first : Step} {next : String → Course} {status : Status} {s s' : σ} :
    first.Ends m w s (.error status) s' →
    Goes m w (.step first next) s [(first, .error status)] (.error status) s'
  | goesOn {first : Step} {next : String → Course} {answer : String}
      {later : List (Step × Except Status String)} {result : Except Status String} {s s' s'' : σ} :
    first.Ends m w s (.ok answer) s' → Goes m w (next answer) s' later result s'' →
    Goes m w (.step first next) s ((first, .ok answer) :: later) result s''

/-- How a course is gone through. -/
def perform {σ : Type} (m : Machine σ) (w : Workplace) : Course → Attempt σ String
  | last only => only.perform m w
  | step first next => do
    let answer ← first.perform m w
    (next answer).perform m w

variable {σ : Type} {m : Machine σ} {w : Workplace} {c : Course} {s t t' : σ}
variable {steps steps' : List (Step × Except Status String)} {result result' : Except Status String}

/-- Every course goes as it is gone through. -/
theorem exists_goes (c : Course) (s : σ) : ∃ steps, c.Goes m w s steps
    ((c.perform m w).run.run s).1 ((c.perform m w).run.run s).2 := by
  induction c generalizing s with
  | last only => exact ⟨_, .ends (only.perform_ends s)⟩
  | step first next ih =>
    rcases hfirst : (first.perform m w).run.run s with ⟨status | answer, s'⟩
    · rw [perform, Attempt.run_bind, hfirst]
      exact ⟨_, .fails (Step.ends_iff.mpr hfirst)⟩
    · rw [perform, Attempt.run_bind, hfirst]
      obtain ⟨later, hlater⟩ := ih answer s'
      exact ⟨_, .goesOn (Step.ends_iff.mpr hfirst) hlater⟩

/-- A course goes in one way only. -/
theorem Goes.unique (h : c.Goes m w s steps result t) (h' : c.Goes m w s steps' result' t') :
    steps = steps' ∧ result = result' ∧ t = t' := by
  induction h generalizing steps' with
  | ends hends =>
    cases h' with
    | ends hends' =>
      obtain ⟨rfl, rfl⟩ := hends.unique hends'
      exact ⟨rfl, rfl, rfl⟩
  | fails hends =>
    cases h' with
    | fails hends' =>
      obtain ⟨hresult, rfl⟩ := hends.unique hends'
      cases hresult
      exact ⟨rfl, rfl, rfl⟩
    -- a step that fails has no answer to go on with
    | goesOn hends' _ => exact nomatch (hends.unique hends').1
  | goesOn hends _ ih =>
    cases h' with
    | fails hends' => exact nomatch (hends.unique hends').1
    | goesOn hends' hlater' =>
      obtain ⟨hresult, rfl⟩ := hends.unique hends'
      cases hresult
      obtain ⟨rfl, rfl, rfl⟩ := ih hlater'
      exact ⟨rfl, rfl, rfl⟩

/-- Every step but the last succeeds, and the last one gives the result. -/
theorem Goes.exists_last (h : c.Goes m w s steps result t) :
    ∃ earlier last, steps = earlier ++ [(last, result)] ∧
      ∀ e ∈ earlier, ∃ answer, e.2 = .ok answer := by
  induction h with
  | ends _ => exact ⟨[], _, rfl, fun e he => absurd he List.not_mem_nil⟩
  | fails _ => exact ⟨[], _, rfl, fun e he => absurd he List.not_mem_nil⟩
  | @goesOn first next answer later result s s' s'' _ _ ih =>
    obtain ⟨earlier, last, rfl, hearlier⟩ := ih
    refine ⟨(first, .ok answer) :: earlier, last, rfl, fun e he => ?_⟩
    obtain rfl | he := List.mem_cons.mp he
    · exact ⟨answer, rfl⟩
    · exact hearlier e he

/-- A course that fails does not fail with completion. -/
theorem Goes.ne_completed {status : Status} (h : c.Goes m w s steps (.error status) t) :
    status ≠ .completed := by
  generalize hresult : (Except.error status : Except Status String) = result at h
  induction h with
  | ends hends => exact (hresult ▸ hends).ne_completed
  | fails hends => exact (hresult ▸ hends).ne_completed
  | goesOn _ _ ih => exact ih hresult

/-- Whatever is attempted ends by the rules. -/
theorem Goes.ends_of_mem (h : c.Goes m w s steps result t) :
    ∀ e ∈ steps, ∃ s₁ s₂, e.1.Ends m w s₁ e.2 s₂ := by
  induction h with
  | ends hends => exact fun e he => List.mem_singleton.mp he ▸ ⟨_, _, hends⟩
  | fails hends => exact fun e he => List.mem_singleton.mp he ▸ ⟨_, _, hends⟩
  | goesOn hends _ ih =>
    intro e he
    obtain rfl | he := List.mem_cons.mp he
    · exact ⟨_, _, hends⟩
    · exact ih e he

/-! ### The order of a course -/

theorem nodup_order (toolchain : Toolchain) : (order toolchain).Nodup := by
  cases toolchain <;> simp [order]

/-- The kinds of the steps that were **attempted**. -/
def attempted (steps : List (Step × Except Status String)) : List Step.Kind :=
  steps.map fun e => e.1.kind

/-- A course **follows** an order when its steps are of these kinds, whatever their answers are. -/
def Follows : Course → List Step.Kind → Prop
  | last only, kinds => kinds = [only.kind]
  | step _ _, [] => False
  | step first next, kind :: kinds => first.kind = kind ∧ ∀ answer, (next answer).Follows kinds

theorem follows_ofToolchain (w : Workplace) (toolchain : Toolchain) :
    (ofToolchain w toolchain).Follows (order toolchain) := by
  cases toolchain with
  | compiled => exact ⟨rfl, fun _ => ⟨rfl, fun _ => ⟨rfl, fun _ => rfl⟩⟩⟩
  | interpreted => exact ⟨rfl, fun _ => ⟨rfl, fun _ => rfl⟩⟩
  | project => exact ⟨rfl, fun _ => ⟨rfl, fun _ => rfl⟩⟩

/-- The steps that are attempted are the first ones of the order, and the course has an output
exactly if all steps of the order are attempted and succeed. -/
theorem Goes.kinds (h : c.Goes m w s steps result t) {kinds : List Step.Kind}
    (hc : c.Follows kinds) : attempted steps <+: kinds ∧ ((∃ output, result = .ok output) ↔
      attempted steps = kinds ∧ ∀ e ∈ steps, ∃ answer, e.2 = .ok answer) := by
  induction h generalizing kinds with
  | ends _ =>
    obtain rfl : kinds = _ := hc
    exact ⟨List.prefix_rfl, by simp [attempted]⟩
  | @fails first next status s s' _ =>
    cases kinds with
    | nil => exact hc.elim
    | cons kind kinds =>
      obtain ⟨rfl, -⟩ := hc
      exact ⟨⟨kinds, rfl⟩, by simp [attempted]⟩
  | @goesOn first next answer later result s s' s'' _ _ ih =>
    cases kinds with
    | nil => exact hc.elim
    | cons kind kinds =>
      obtain ⟨rfl, hnext⟩ := hc
      obtain ⟨hinitial, hiff⟩ := ih (hnext answer)
      exact ⟨(List.prefix_cons_inj _).mpr hinitial, by simpa [attempted] using hiff⟩

/-- Where there is something to build, a program is attempted only if a build has an answer. -/
theorem Goes.exists_build {toolchain : Toolchain}
    (h : (ofToolchain w toolchain).Goes m w s steps result t) (hbuild : .build ∈ order toolchain)
    (hprogram : .program ∈ attempted steps) :
    ∃ command answer, (.build command, .ok answer) ∈ steps := by
  obtain ⟨⟨rest, hrest⟩, -⟩ := h.kinds (follows_ofToolchain w toolchain)
  obtain ⟨earlier, last, rfl, hearlier⟩ := h.exists_last
  cases toolchain with
  | interpreted => simp [order] at hbuild
  | project => simp [order] at hbuild
  | compiled compiler flags source binary =>
    have horder : order (.compiled compiler flags source binary) =
        [.source, .tool, .build] ++ [.program] := rfl
    -- the program is the last step of the order, so nothing is left of it
    obtain rfl : rest = [] := by
      obtain rfl | ⟨front, final, rfl⟩ := List.eq_nil_or_concat rest
      · rfl
      · rw [horder, List.concat_eq_append, ← List.append_assoc] at hrest
        have hmem := List.mem_append_left front hprogram
        rw [(List.append_inj' hrest rfl).1] at hmem
        contradiction
    rw [horder, List.append_nil, attempted, List.map_append] at hrest
    have hmem : Step.Kind.build ∈ earlier.map fun e => e.1.kind := by
      rw [(List.append_inj' hrest rfl).1]
      decide
    obtain ⟨⟨step, given⟩, he, hkind⟩ := List.mem_map.mp hmem
    obtain ⟨answer, rfl⟩ := hearlier _ he
    cases step with
    | build command => exact ⟨command, answer, List.mem_append_left _ he⟩
    | _ => contradiction

end Course

end Timekeeper
