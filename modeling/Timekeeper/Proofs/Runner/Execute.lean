import Timekeeper.Proofs.Runner.Course
import Mathlib.Data.List.Nodup

/-!
# Running a language is going its course

An execution goes the course of its toolchain. A file that a build leaves is removed at the end,
which changes the state and nothing else.

Which children are started is told by a machine that **records** them. Recording leaves a course as
it is, and the children that are recorded are those of the steps that are attempted
(`Course.Goes.of_recorded`). As no step comes after one that failed, no child is ever started in
vain.
-/

namespace Timekeeper

variable {σ : Type}

/-! ### Recorded children -/

namespace Machine

/-- The same machine, with a record of the children that are started and of their bounds. -/
def recorded (m : Machine σ) : Machine (σ × List (Command × Nat)) where
  isFile s path := m.isFile s.1 path
  tool? s name := m.tool? s.1 name
  run command bound s :=
    let (result, s') := m.run command bound s.1
    (result, s', s.2 ++ [(command, bound)])
  discard path s := (m.discard path s.1, s.2)
  save path text s :=
    let (result, s') := m.save path text s.1
    (result, s', s.2)
  now s := m.now s.1
  stopwatch s := m.stopwatch s.1
  platform := m.platform

end Machine

variable {m : Machine σ} {w : Workplace}

private theorem run_of_recorded {command : Command} {bound : Nat}
    {s s' : σ × List (Command × Nat)} {result : Except RunError (Ending ExitStatus)}
    (h : (m.recorded.run command bound).run s = (result, s')) :
    (m.run command bound).run s.1 = (result, s'.1) ∧ s'.2 = s.2 ++ [(command, bound)] := by
  obtain ⟨hresult, hstate⟩ := Prod.mk.inj h
  subst hstate
  exact ⟨Prod.ext hresult rfl, rfl⟩

/-- A step ends as it does without a record, and its child is recorded. -/
theorem Step.Ends.of_recorded {step : Step} {s s' : σ × List (Command × Nat)}
    {result : Except Status String} (h : step.Ends m.recorded w s result s') :
    step.Ends m w s.1 result s'.1 ∧ s'.2 = s.2 ++ (step.child? w).toList := by
  cases h with
  | sourceFound hfile => exact ⟨.sourceFound hfile, (List.append_nil _).symm⟩
  | sourceMissing hfile => exact ⟨.sourceMissing hfile, (List.append_nil _).symm⟩
  | toolFound hearlier hpath => exact ⟨.toolFound hearlier hpath, (List.append_nil _).symm⟩
  | toolMissing hmissing => exact ⟨.toolMissing hmissing, (List.append_nil _).symm⟩
  | executableFound hearlier hfile =>
    exact ⟨.executableFound hearlier hfile, (List.append_nil _).symm⟩
  | executableMissing hmissing => exact ⟨.executableMissing hmissing, (List.append_nil _).symm⟩
  | noExecutable => exact ⟨.noExecutable, (List.append_nil _).symm⟩
  | built hrun => exact (run_of_recorded hrun).imp_left .built
  | buildFailed hrun hprinted =>
    exact (run_of_recorded hrun).imp_left fun hrun => .buildFailed hrun hprinted
  | buildFailedSilently hrun hblank =>
    exact (run_of_recorded hrun).imp_left fun hrun => .buildFailedSilently hrun hblank
  | buildTimedOut hrun => exact (run_of_recorded hrun).imp_left .buildTimedOut
  | buildNotRun hrun => exact (run_of_recorded hrun).imp_left .buildNotRun
  | completed hrun => exact (run_of_recorded hrun).imp_left .completed
  | failed hrun => exact (run_of_recorded hrun).imp_left .failed
  | programTimedOut hrun => exact (run_of_recorded hrun).imp_left .programTimedOut
  | programNotRun hrun => exact (run_of_recorded hrun).imp_left .programNotRun

/-- A course goes as it does without a record, and the children of its steps are recorded. -/
theorem Course.Goes.of_recorded {c : Course} {s s' : σ × List (Command × Nat)}
    {steps : List (Step × Except Status String)} {result : Except Status String}
    (h : c.Goes m.recorded w s steps result s') :
    c.Goes m w s.1 steps result s'.1 ∧
      s'.2 = s.2 ++ steps.filterMap fun e => e.1.child? w := by
  have hone (step : Step) (result : Except Status String) :
      [(step, result)].filterMap (fun e => e.1.child? w) = (step.child? w).toList := by
    rw [List.filterMap_cons]
    cases step.child? w <;> rfl
  induction h with
  | ends hends =>
    obtain ⟨hends, hchild⟩ := hends.of_recorded
    exact ⟨.ends hends, by rw [hone, hchild]⟩
  | fails hends =>
    obtain ⟨hends, hchild⟩ := hends.of_recorded
    exact ⟨.fails hends, by rw [hone, hchild]⟩
  | @goesOn first next answer later result s s' s'' hends _ ih =>
    obtain ⟨hends, hchild⟩ := hends.of_recorded
    obtain ⟨hlater, hchildren⟩ := ih
    refine ⟨.goesOn hends hlater, ?_⟩
    rw [← List.singleton_append, List.filterMap_append, hone, hchildren, hchild,
      List.append_assoc]

/-! ### Executions -/

namespace Machine

theorem run_without (m : Machine σ) (path : String) (x : Attempt σ String) (s : σ) :
    (m.without path x).run.run s = ((x.run.run s).1, m.discard path (x.run.run s).2) := rfl

/-- An attempt goes the course of the toolchain, but for a file that is removed at the end. -/
theorem run_attempt {toolchain : Toolchain} {s t : σ} {result : Except Status String}
    (h : ((Course.ofToolchain w toolchain).perform m w).run.run s = (result, t)) :
    ∃ s', (m.attempt w toolchain).run.run s = (result, s') ∧
      (s' = t ∨ ∃ path, s' = m.discard path t) := by
  cases toolchain with
  | interpreted interpreters source => exact ⟨t, h, .inl rfl⟩
  | project executables source => exact ⟨t, h, .inl rfl⟩
  | compiled compiler flags source binary =>
    rw [Course.ofToolchain, Course.perform, Step.perform, Attempt.run_bind] at h
    rw [attempt, compiled, Attempt.run_bind]
    rcases hsource : (m.source w source).run.run s with ⟨status | path, s₁⟩ <;>
      rw [hsource] at h <;> dsimp only at h ⊢
    · exact ⟨t, h, .inl rfl⟩
    rw [Course.perform, Step.perform, Attempt.run_bind] at h
    rw [Attempt.run_bind]
    rcases htool : (m.tool [compiler]).run.run s₁ with ⟨status | tool, s₂⟩ <;>
      rw [htool] at h <;> dsimp only at h ⊢
    · exact ⟨t, h, .inl rfl⟩
    -- only now is there something to build, and what is built is removed whatever comes of it
    rw [Course.perform, Step.perform, bind_assoc] at h
    refine ⟨m.discard (FileTree.join w.benchmarks binary) t, ?_, .inr ⟨_, rfl⟩⟩
    rw [run_without]
    exact congrArg (fun gone => (gone.1, m.discard _ gone.2)) h

/-- The execution of a language with a result. -/
def concluded (language : Language) : Except Status String → Execution
  | .ok output => ⟨language.name, output, .completed⟩
  | .error status => ⟨language.name, "", status⟩

/-- An execution concludes the attempt at its toolchain. -/
theorem run_execute (m : Machine σ) (w : Workplace) (language : Language) (s : σ) :
    (m.execute w language).run s =
      (concluded language ((m.attempt w language.toolchain).run.run s).1,
        ((m.attempt w language.toolchain).run.run s).2) := by
  rw [execute, StateT.run_bind]
  rcases (m.attempt w language.toolchain).run.run s with ⟨status | output, t⟩ <;> rfl

theorem exists_goes (m : Machine σ) (w : Workplace) (language : Language) (s : σ) :
    ∃ steps result s', (Course.ofToolchain w language.toolchain).Goes m w s steps result s' ∧
      ((m.execute w language).run s).1 = concluded language result ∧
      (((m.execute w language).run s).2 = s' ∨
        ∃ path, ((m.execute w language).run s).2 = m.discard path s') := by
  rcases hperform : ((Course.ofToolchain w language.toolchain).perform m w).run.run s with
    ⟨result, s'⟩
  obtain ⟨steps, hgoes⟩ := (Course.ofToolchain w language.toolchain).exists_goes (m := m) (w := w) s
  rw [hperform] at hgoes
  obtain ⟨t, hattempt, ht⟩ := run_attempt hperform
  rw [run_execute, hattempt]
  exact ⟨steps, result, s', hgoes, rfl, ht⟩

/-- An execution bears the name of its language. -/
theorem language_execute (m : Machine σ) (w : Workplace) (language : Language) (s : σ) :
    ((m.execute w language).run s).1.language = language.name := by
  obtain ⟨-, result, -, -, hexecution, -⟩ := m.exists_goes w language s
  rw [hexecution]
  cases result <;> rfl

/-- A language is executed by going the course of its toolchain up to the first step that fails:

* the steps are attempted in the order of the toolchain, and all but the last of them succeed;
* the execution is that of the last step, and it completes exactly if all steps succeed;
* the children that are started are those of the steps, with their bounds, so at most one compiler
  and one program;
* a program that is built is started only if its compiler exited with success. -/
theorem execute_stops_at_first_failure (m : Machine σ) (w : Workplace) (language : Language)
    (s : σ) :
    ∃ steps result s', (Course.ofToolchain w language.toolchain).Goes m w s steps result s' ∧
      (Course.attempted steps <+: Course.order language.toolchain ∧
        ∃ earlier last, steps = earlier ++ [(last, result)] ∧
          ∀ e ∈ earlier, ∃ answer, e.2 = .ok answer) ∧
      (((m.execute w language).run s).1 = concluded language result ∧
        (((m.execute w language).run s).1.status = .completed ↔
          Course.attempted steps = Course.order language.toolchain ∧
            ∀ e ∈ steps, ∃ answer, e.2 = .ok answer)) ∧
      (((m.recorded.execute w language).run (s, [])).1 = ((m.execute w language).run s).1 ∧
        ((m.recorded.execute w language).run (s, [])).2.2 =
          steps.filterMap (fun e => e.1.child? w) ∧
        (Course.attempted steps).count .build ≤ 1 ∧
        (Course.attempted steps).count .program ≤ 1) ∧
      (.build ∈ Course.order language.toolchain → .program ∈ Course.attempted steps →
        ∃ command answer s₁ s₂ status output errors, (.build command, .ok answer) ∈ steps ∧
          (m.run command w.buildBound).run s₁ =
            (.ok (.exited ⟨true, status⟩ output errors), s₂)) := by
  obtain ⟨steps, result, s', hgoes, hexecution, -⟩ := m.exists_goes w language s
  obtain ⟨steps', result', q, hrecorded, hexecution', hstate⟩ :=
    m.recorded.exists_goes w language (s, [])
  -- the course goes the same way under a record, so the record is about the same steps
  obtain ⟨hgoes', hchildren⟩ := hrecorded.of_recorded
  obtain ⟨rfl, rfl, hq⟩ := hgoes.unique hgoes'
  obtain ⟨hinitial, hcompleted⟩ := hgoes.kinds (Course.follows_ofToolchain w language.toolchain)
  have hrecord : ((m.recorded.execute w language).run (s, [])).2.2 =
      steps.filterMap fun e => e.1.child? w := by
    obtain hq | ⟨path, hq⟩ := hstate <;> rw [hq] <;> exact hchildren
  have hstatus : (concluded language result).status = .completed ↔
      ∃ output, result = .ok output := by
    cases result with
    | ok output => exact iff_of_true rfl ⟨output, rfl⟩
    | error status => exact iff_of_false hgoes.ne_completed fun h => nomatch h
  have hcount (kind : Step.Kind) : (Course.attempted steps).count kind ≤ 1 :=
    List.nodup_iff_count_le_one.mp ((Course.nodup_order _).sublist hinitial.sublist) kind
  refine ⟨steps, result, s', hgoes, ⟨hinitial, hgoes.exists_last⟩,
    ⟨hexecution, hexecution ▸ hstatus.trans hcompleted⟩,
    ⟨hexecution'.trans hexecution.symm, hrecord, hcount _, hcount _⟩, fun hbuild hprogram => ?_⟩
  obtain ⟨command, answer, hmem⟩ := hgoes.exists_build hbuild hprogram
  obtain ⟨s₁, s₂, hends⟩ := hgoes.ends_of_mem _ hmem
  obtain ⟨status, output, errors, hrun⟩ := hends.exited_of_build
  exact ⟨command, answer, s₁, s₂, status, output, errors, hmem, hrun⟩

end Machine

end Timekeeper
