import Timekeeper.Proofs.Runner.Deeds
import Timekeeper.Proofs.Session.Account

/-!
# What a session leaves

A session leaves a machine as the deeds of its languages do, one language after another: the effects
of the children, and between them the removals of what was built. Nothing else changes a file.
-/

namespace Timekeeper

variable {σ : Type}

namespace Session

/-- The **deeds** that languages come to one after another. -/
inductive Deeds (m : Machine σ) (w : Workplace) : List Language → σ → List (List Deed) → Prop
  | nil {s : σ} : Deeds m w [] s []
  | cons {language : Language} {rest : List Language} {s : σ} {deeds : List Deed}
      {others : List (List Deed)} :
    m.Deeds w language.toolchain s deeds → Deeds m w rest (m.after deeds s) others →
    Deeds m w (language :: rest) s (deeds :: others)

/-- A session leaves the machine as the deeds of its languages do. -/
theorem exists_deeds (m : Machine σ) (w : Workplace) (g : Grammar) (languages : List Language)
    (s : σ) : ∃ deeds, Deeds m w languages s deeds ∧
      ((run m w g languages).run s).2 = m.after deeds.flatten s := by
  induction languages generalizing s with
  | nil => exact ⟨[], .nil, rfl⟩
  | cons language rest ih =>
    obtain ⟨deeds, hdeeds, hstate⟩ := m.exists_deeds w language s
    obtain ⟨others, hothers, hrest⟩ := ih (m.after deeds s)
    refine ⟨deeds :: others, .cons hdeeds hothers, ?_⟩
    simp only [run_cons, measure_state, hstate, hrest, List.flatten_cons, m.after_append]

end Session

/-- What is built does not survive, and nothing else is touched.

A language leaves a machine as its deeds do. No child is run behind a removal, so that a program
that was built is still in place when it is started. If the language is compiled and its build is
reached, the last of the deeds clears the path of the artifact of what the children have left there,
and nothing else. A session leaves a machine as the deeds of its languages do, one after another.
Each removal clears the path of an artifact; and if in the end there is a regular file at that path,
a child that was run later has put it there. -/
theorem Session.run_clears_artifacts (m : Machine σ) (files : m.Files) (w : Workplace) :
    (∀ language s, ∃ deeds, m.Deeds w language.toolchain s deeds ∧
      ((m.execute w language).run s).2 = m.after deeds s ∧
      (∀ before command bound behind path, deeds = before ++ .child command bound :: behind →
        .removal path ∉ before) ∧
      ∀ children path, deeds = children ++ [.removal path] →
        FileTree.IsCleared files.directory path (files.tree (m.after children s))
          (files.tree ((m.execute w language).run s).2)) ∧
    ∀ g languages s, ∃ deeds, Deeds m w languages s deeds ∧
      ((run m w g languages).run s).2 = m.after deeds.flatten s ∧
      ∀ before path behind, deeds.flatten = before ++ .removal path :: behind →
        FileTree.IsCleared files.directory path (files.tree (m.after before s))
          (files.tree (m.after (before ++ [.removal path]) s)) ∧
        (m.isFile ((run m w g languages).run s).2 path = true →
          m.Puts path behind (m.after (before ++ [.removal path]) s)) := by
  have hclears (before : List Deed) (path : String) (s : σ) :
      FileTree.IsCleared files.directory path (files.tree (m.after before s))
        (files.tree (m.after (before ++ [.removal path]) s)) := by
    rw [m.after_append]
    exact files.isCleared_discard path _
  refine ⟨fun language s => ?_, fun g languages s => ?_⟩
  · obtain ⟨deeds, hdeeds, hstate⟩ := m.exists_deeds w language s
    refine ⟨deeds, hdeeds, hstate, ?_, ?_⟩
    · rintro before command bound behind path rfl
      exact hdeeds.removal_not_mem path
    · rintro children path rfl
      rw [hstate]
      exact hclears children path s
  · obtain ⟨deeds, hdeeds, hstate⟩ := exists_deeds m w g languages s
    refine ⟨deeds, hdeeds, hstate, fun before path behind hflatten => ?_⟩
    refine ⟨hclears before path s, fun hfile => ?_⟩
    have hgone := (hclears before path s).gone
    rw [← files.isFile_eq] at hgone
    rw [hstate, hflatten, List.append_cons, m.after_append] at hfile
    exact files.puts_of_isFile hgone hfile

/-- Here the compiler puts a program where it is told to, and the program writes a log. The log
stays and the program does not. -/
theorem Session.run_clears_artifacts_log :
    let m : Machine FileTree := {
      isFile := fun t path => t.isFile [] path
      tool? := fun _ name => some name
      run := fun command _ t => (.ok (.exited ⟨true, "exit status: 0"⟩ "" ""),
        t.put [command.arguments.getLastD "log"] (.file [] true))
      discard := fun path t => t.discard [] path
      save := fun _ _ => return .ok ()
      now := fun _ => ⟨0, 0⟩
      stopwatch := fun _ _ => 0
      platform := "" }
    let w : Workplace := ⟨"", "", 1, 1⟩
    let language : Language := ⟨"C", .compiled "cc" [] "x.c" "x"⟩
    let left := ((m.execute w language).run ⟨[(["x.c"], .file [] false)]⟩).2
    left.isFile [] "x" = false ∧ left.isFile [] "log" = true ∧ left.isFile [] "x.c" = true := by
  intro m w language left
  let files : m.Files := ⟨[], id, fun _ _ => rfl, fun _ _ => rfl⟩
  obtain ⟨deeds, hdeeds, -, -, hclears⟩ :=
    (run_clears_artifacts m files w).1 language ⟨[(["x.c"], .file [] false)]⟩
  have hgone : left.isFile [] "x" = false := by
    cases hdeeds with
    | unready hmissing => exact absurd hmissing (by decide +kernel)
    | unbuilt => exact (hclears [_] _ rfl).gone
    | built => exact (hclears [_, _] _ rfl).gone
    | idle hnone => contradiction
    | started hnone => contradiction
  exact ⟨hgone, by decide +kernel, by decide +kernel⟩

end Timekeeper
