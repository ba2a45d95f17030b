import Timekeeper.Bench.Basic
import Timekeeper.Proofs.FileTree.Discard
import Timekeeper.Proofs.Runner.Execute

/-!
# What is done to a machine

While a language is run, two kinds of **deeds** change the state of the machine: a child is run, and
a file is removed. The deeds that a toolchain comes to are told by rules (`Machine.Deeds`), and an
execution leaves the machine as its deeds do (`Machine.exists_deeds`).

The rules put the one removal last. So a program that was built is started in the state that its
compiler left, and what it leaves is changed by the removal alone. A compiled language of which the
source or the compiler is missing has no deeds, and no other language has a removal.
-/

namespace Timekeeper

variable {σ : Type}

/-- What can be **done** to a machine while a language is run. -/
inductive Deed where
  | child (command : Command) (bound : Nat)
  | removal (path : String)

/-- Where a toolchain puts the program that it builds, if it builds one. -/
def Toolchain.artifact? (w : Workplace) : Toolchain → Option String
  | .compiled _ _ _ binary => some (FileTree.join w.benchmarks binary)
  | _ => none

/-- The command that compiles a source of a workplace into an artifact there. -/
def Workplace.buildCommand (w : Workplace) (compiler : String) (flags : List String)
    (source binary : String) : Command :=
  Machine.buildCommand compiler flags (FileTree.join w.benchmarks source)
    (FileTree.join w.benchmarks binary)

namespace Machine

/-- The state behind a deed. -/
def done (m : Machine σ) (s : σ) : Deed → σ
  | .child command bound => ((m.run command bound).run s).2
  | .removal path => m.discard path s

/-- The state behind some deeds, one after another. -/
def after (m : Machine σ) (deeds : List Deed) (s : σ) : σ := deeds.foldl m.done s

theorem after_append (m : Machine σ) (first second : List Deed) (s : σ) :
    m.after (first ++ second) s = m.after second (m.after first s) := List.foldl_append

/-- The **deeds** that a toolchain comes to in a state. -/
inductive Deeds (m : Machine σ) (w : Workplace) : Toolchain → σ → List Deed → Prop
  /-- There is nothing to build, as the source or the compiler is missing. -/
  | unready {compiler source binary : String} {flags : List String} {s : σ} :
    m.isFile s (FileTree.join w.benchmarks source) = false ∨ m.tool? s compiler = none →
    Deeds m w (.compiled compiler flags source binary) s []
  /-- The compiler does not exit with success. -/
  | unbuilt {compiler source binary path : String} {flags : List String} {s : σ} :
    m.isFile s (FileTree.join w.benchmarks source) = true → m.tool? s compiler = some path →
    (∀ status output errors,
      ((m.run (w.buildCommand path flags source binary) w.buildBound).run s).1 ≠
        .ok (.exited ⟨true, status⟩ output errors)) →
    Deeds m w (.compiled compiler flags source binary) s
      [.child (w.buildCommand path flags source binary) w.buildBound,
        .removal (FileTree.join w.benchmarks binary)]
  /-- The compiler exits with success, and what it has built is started. -/
  | built {compiler source binary path status output errors : String} {flags : List String}
      {s : σ} :
    m.isFile s (FileTree.join w.benchmarks source) = true → m.tool? s compiler = some path →
    ((m.run (w.buildCommand path flags source binary) w.buildBound).run s).1 =
      .ok (.exited ⟨true, status⟩ output errors) →
    Deeds m w (.compiled compiler flags source binary) s
      [.child (w.buildCommand path flags source binary) w.buildBound,
        .child ⟨FileTree.join w.benchmarks binary, []⟩ w.runBound,
        .removal (FileTree.join w.benchmarks binary)]
  /-- Nothing is built, and no program is started. -/
  | idle {toolchain : Toolchain} {s : σ} : toolchain.artifact? w = none →
    Deeds m w toolchain s []
  /-- Nothing is built, and a program is started. -/
  | started {toolchain : Toolchain} {command : Command} {s : σ} : toolchain.artifact? w = none →
    Deeds m w toolchain s [.child command w.runBound]

variable {m : Machine σ} {w : Workplace}

open Attempt Step

/-- Running a benchmark program leaves the machine as its child does. -/
private theorem run_program_state (command : Command) (s : σ) :
    ((m.program w command).run.run s).2 = m.after [.child command w.runBound] s := by
  rcases hrun : (m.run command w.runBound).run s with ⟨result, s'⟩
  have hprogram : (m.program w command).run.run s = (programResult w result, s') :=
    run_program hrun
  have hafter : m.after [.child command w.runBound] s = s' := congrArg Prod.snd hrun
  rw [hprogram, hafter]

/-- Building and running what was built, if the compiler exits with success, leaves the machine as
the children do and without the artifact. -/
private theorem exists_deeds_of_compiled {compiler source binary path : String}
    {flags : List String} {s : σ} (hsource : m.isFile s (FileTree.join w.benchmarks source) = true)
    (htool : m.tool? s compiler = some path) :
    ∃ deeds, m.Deeds w (.compiled compiler flags source binary) s deeds ∧
      ((m.without (FileTree.join w.benchmarks binary) do
        m.build w (w.buildCommand path flags source binary)
        m.program w ⟨FileTree.join w.benchmarks binary, []⟩ : Attempt σ String).run.run s).2 =
        m.after deeds s := by
  let command := w.buildCommand path flags source binary
  let artifact := FileTree.join w.benchmarks binary
  rcases hrun : (m.run command w.buildBound).run s with ⟨result, s'⟩
  -- the build is a step, of which it is known how it ends
  have hstep : (m.build w command >>= fun _ => m.program w ⟨artifact, []⟩) =
      (Step.build command).perform m w >>= fun _ => m.program w ⟨artifact, []⟩ := by
    rw [perform, bind_assoc]
    rfl
  have hstate : m.after [.child command w.buildBound] s = s' := congrArg Prod.snd hrun
  rw [run_without, hstep, run_bind, run_build hrun]
  by_cases hexited : ∃ status output errors, result = .ok (.exited ⟨true, status⟩ output errors)
  · obtain ⟨status, output, errors, rfl⟩ := hexited
    refine ⟨_, .built hsource htool (congrArg Prod.fst hrun), ?_⟩
    have hprogram := run_program_state (m := m) (w := w) ⟨artifact, []⟩ s'
    exact congrArg (m.discard artifact) (hprogram.trans (hstate ▸ rfl))
  · have hfailed : ∃ status, buildResult w result = .error status := by
      obtain e | ⟨⟨_ | _, status⟩, output, errors⟩ | _ := result
      · exact ⟨_, rfl⟩
      · exact ⟨_, rfl⟩
      · exact absurd ⟨status, output, errors, rfl⟩ hexited
      · exact ⟨_, rfl⟩
    obtain ⟨status, hstatus⟩ := hfailed
    rw [hstatus]
    refine ⟨_, .unbuilt hsource htool fun exit output errors heq =>
      hexited ⟨exit, output, errors, ?_⟩, ?_⟩
    · exact (congrArg Prod.fst hrun).symm.trans heq
    · exact congrArg (m.discard artifact) hstate.symm

/-- An attempt leaves the machine as the deeds of its toolchain do. -/
theorem exists_deeds_attempt (m : Machine σ) (w : Workplace) (toolchain : Toolchain) (s : σ) :
    ∃ deeds, m.Deeds w toolchain s deeds ∧
      ((m.attempt w toolchain).run.run s).2 = m.after deeds s := by
  cases toolchain with
  | compiled compiler flags source binary =>
    -- nothing is to be removed before the source and the compiler are found
    rw [attempt, compiled, run_bind, run_source]
    by_cases hsource : m.isFile s (FileTree.join w.benchmarks source) = true
    · rw [if_pos hsource]
      dsimp only
      rw [run_bind, run_tool]
      cases htool : m.tool? s compiler with
      | none =>
        refine ⟨[], .unready (.inr htool), ?_⟩
        rw [List.findSome?_cons, htool]
        rfl
      | some path =>
        rw [List.findSome?_cons, htool]
        exact exists_deeds_of_compiled hsource htool
    · refine ⟨[], .unready (.inl (Bool.eq_false_iff.mpr hsource)), ?_⟩
      rw [if_neg hsource]
      rfl
  | interpreted interpreters source =>
    rw [attempt, interpreted, run_bind, run_source]
    by_cases hsource : m.isFile s (FileTree.join w.benchmarks source) = true
    · rw [if_pos hsource]
      dsimp only
      rw [run_bind, run_tool]
      cases interpreters.findSome? (m.tool? s) with
      | none => exact ⟨[], .idle rfl, rfl⟩
      | some path => exact ⟨_, .started rfl, run_program_state _ s⟩
    · rw [if_neg hsource]
      exact ⟨[], .idle rfl, rfl⟩
  | project executables source =>
    rw [attempt, ownExecutable, run_bind, run_executable]
    cases (executables.map (FileTree.join w.project)).find? (m.isFile s) with
    | none => exact ⟨[], .idle rfl, rfl⟩
    | some path =>
      dsimp only
      rw [run_bind, run_source]
      by_cases hsource : m.isFile s (FileTree.join w.benchmarks source) = true
      · rw [if_pos hsource]
        exact ⟨_, .started rfl, run_program_state _ s⟩
      · rw [if_neg hsource]
        exact ⟨[], .idle rfl, rfl⟩

/-- An execution leaves the machine as the deeds of its toolchain do. -/
theorem exists_deeds (m : Machine σ) (w : Workplace) (language : Language) (s : σ) :
    ∃ deeds, m.Deeds w language.toolchain s deeds ∧
      ((m.execute w language).run s).2 = m.after deeds s := by
  rw [run_execute]
  exact m.exists_deeds_attempt w language.toolchain s

/-- No child is run behind a removal. -/
theorem Deeds.removal_not_mem {toolchain : Toolchain} {s : σ} {before behind : List Deed}
    {command : Command} {bound : Nat}
    (h : m.Deeds w toolchain s (before ++ .child command bound :: behind)) (path : String) :
    .removal path ∉ before := by
  generalize hdeeds : before ++ .child command bound :: behind = deeds at h
  intro hmem
  -- the removal and the child behind it would be among the deeds in this order
  have hsub : [Deed.removal path, .child command bound].Sublist deeds := by
    rw [← hdeeds]
    exact (List.singleton_sublist.mpr hmem).append (List.singleton_sublist.mpr List.mem_cons_self)
  cases h <;> simp [List.sublist_cons_iff] at hsub

/-! ### Files -/

/-- The **files** of a machine: a tree in each of its states, and the directory from which paths are
followed. A regular file that is to be removed can be removed. -/
structure Files (m : Machine σ) where
  directory : Location
  tree : σ → FileTree
  isFile_eq : ∀ s path, m.isFile s path = (tree s).isFile directory path
  discard_eq : ∀ s path, tree (m.discard path s) = (tree s).discard directory path

/-- One of the children among some deeds **puts** a regular file at a path where none was. -/
def Puts (m : Machine σ) (path : String) (deeds : List Deed) (s : σ) : Prop :=
  ∃ earlier command bound later, deeds = earlier ++ .child command bound :: later ∧
    m.isFile (m.after earlier s) path = false ∧
    m.isFile (m.after (earlier ++ [.child command bound]) s) path = true

namespace Files

theorem isCleared_discard (files : m.Files) (path : String) (s : σ) :
    FileTree.IsCleared files.directory path (files.tree s) (files.tree (m.discard path s)) := by
  rw [files.discard_eq]
  exact FileTree.isCleared_discard _ _ path

/-- Where a regular file is found behind some deeds and was not before, a child has put it there. -/
theorem puts_of_isFile (files : m.Files) {deeds : List Deed} {s : σ} {path : String}
    (hbefore : m.isFile s path = false) (hafter : m.isFile (m.after deeds s) path = true) :
    m.Puts path deeds s := by
  induction deeds generalizing s with
  | nil =>
    rw [after, List.foldl_nil, hbefore] at hafter
    contradiction
  | cons deed deeds ih =>
    by_cases hdone : m.isFile (m.done s deed) path = true
    · cases deed with
      | child command bound => exact ⟨[], command, bound, deeds, rfl, hbefore, hdone⟩
      | removal other =>
        -- a removal does not put a file anywhere
        rw [done, files.isFile_eq, files.discard_eq] at hdone
        have hfile := FileTree.isFile_of_discard hdone
        rw [← files.isFile_eq, hbefore] at hfile
        contradiction
    · obtain ⟨earlier, command, bound, later, rfl, hnot, hfile⟩ :=
        ih (Bool.eq_false_iff.mpr hdone) hafter
      exact ⟨deed :: earlier, command, bound, later, rfl, hnot, hfile⟩

end Files

end Machine

/-- The bench removes files as its tree does. -/
def Machine.Files.bench : Bench.machine.Files where
  directory := Bench.home
  tree := Bench.tree
  isFile_eq _ _ := rfl
  discard_eq _ _ := rfl

end Timekeeper
