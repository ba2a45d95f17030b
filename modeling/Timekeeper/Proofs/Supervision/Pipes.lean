import Timekeeper.Proofs.Supervision.Verdict
import Timekeeper.Scene

/-!
# Who is waited for

What the run is about to do follows the verdict of a watch on the looks it has made, in every scene
that acts lead to (`Scene.Sound`). A look is **late** if the bound had passed when it was made.
Behind a late look the run needs at most three steps to return, and it is never kept from them
unless the child exited by itself (`Scene.bounded_of_runs`): the readers of a killed child are left
alone. But those of a child that exited are waited for, and as long as a descendant holds a pipe
open, the run goes on, be the look late or the bound passed since
(`Scene.exited_child_keeps_run_waiting`).
-/

namespace Timekeeper

variable {α : Type} {bound : Nat}

/-! ### Processes -/

namespace Child

theorem held_kill (child : Child α) : child.kill.held = fun _ => false := by
  cases child <;> rfl

theorem isRunning_kill (child : Child α) : child.kill.isRunning = false := by
  cases child <;> rfl

end Child

namespace Move

variable {move : Move} {held other : Holding} {pipe : Pipe}

theorem of_kept (h : move.kept held pipe = true) : held pipe = true := by
  cases move with
  | fork => exact h
  | close closed => exact (Bool.and_eq_true_iff.mp h).1

theorem of_started (h : other ∈ move.started held) (hother : other pipe = true) :
    held pipe = true := by
  cases move with
  | fork => exact List.mem_singleton.mp h ▸ hother
  | close closed => contradiction

end Move

/-! ### Steps -/

namespace Scene

variable {s s' : Scene α} {act : Act α}

/-- How the run **advances**, one rule for each thing it can be about to do and find. -/
inductive Advances (bound : Nat) (s : Scene α) : Scene α → Prop
  | foundRunning {held : Holding} : s.phase = .looking → s.child = .running held →
    Advances bound s { s.look bound with phase := .comparing }
  | foundExited {status : α} : s.phase = .looking → s.child = .exited status →
    Advances bound s { s.look bound with
      looks := s.looks ++ [.exited status], phase := .collecting status .output }
  | early : s.phase = .comparing → s.clock < bound →
    Advances bound s { s with looks := s.looks ++ [.running s.clock], phase := .looking }
  | passed : s.phase = .comparing → bound ≤ s.clock →
    Advances bound s { s with looks := s.looks ++ [.running s.clock], phase := .killing }
  | kills : s.phase = .killing →
    Advances bound s { s with child := s.child.kill, phase := .awaiting }
  | awaited : s.phase = .awaiting → s.child.isRunning = false →
    Advances bound s { s with phase := .returned .expired }
  | collected {status : α} {pipe : Pipe} : s.phase = .collecting status pipe →
    s.ended pipe = true → Advances bound s { s with phase := .afterReader status pipe }

theorem advance_eq_some_iff : s.advance bound = some s' ↔ Advances bound s s' := by
  constructor
  · intro h
    unfold advance at h
    split at h
    · rename_i hphase
      split at h
      · rename_i held hchild
        exact Option.some.inj h ▸ .foundRunning hphase hchild
      · rename_i status hchild
        exact Option.some.inj h ▸ .foundExited hphase hchild
      · contradiction
    · rename_i hphase
      obtain rfl := Option.some.inj h
      rw [conclude, Look.verdict?]
      split
      · rename_i hpassed
        exact .passed hphase hpassed
      · rename_i hearly
        exact .early hphase (Nat.lt_of_not_le hearly)
    · rename_i hphase
      exact Option.some.inj h ▸ .kills hphase
    · rename_i hphase
      split at h
      · contradiction
      · rename_i hover
        exact Option.some.inj h ▸ .awaited hphase (eq_false_of_ne_true hover)
    · rename_i status pipe hphase
      split at h
      · rename_i hended
        exact Option.some.inj h ▸ .collected hphase hended
      · contradiction
    · contradiction
  · intro h
    cases h with
    | foundRunning hphase hchild => simp only [advance, hphase, hchild]
    | foundExited hphase hchild =>
      simp only [advance, hphase, hchild]
      rfl
    | early hphase hearly =>
      simp only [advance, hphase, conclude, Look.verdict?, if_neg (Nat.not_le_of_lt hearly)]
      rfl
    | passed hphase hpassed =>
      simp only [advance, hphase, conclude, Look.verdict?, if_pos hpassed]
      rfl
    | kills hphase => simp only [advance, hphase]
    | awaited hphase hover =>
      simp only [advance, hphase, hover, Bool.false_eq_true, if_false]
    | collected hphase hended => simp only [advance, hphase, hended, if_true]

/-- What **happens** in a scene by an act, one rule for each act. -/
inductive Happens (bound : Nat) (s : Scene α) : Act α → Scene α → Prop
  | pass : Happens bound s .pass { s with clock := s.clock + 1 }
  | child {held : Holding} {move : Move} : s.child = .running held →
    Happens bound s (.child move) { s with
      child := .running (move.kept held), descendants := s.descendants ++ move.started held }
  | exit {held : Holding} {status : α} : s.child = .running held →
    Happens bound s (.exit status) { s with child := .exited status }
  | descendant {index : Nat} {held : Holding} {move : Move} : s.descendants[index]? = some held →
    Happens bound s (.descendant index move) { s with
      descendants := s.descendants.set index (move.kept held) ++ move.started held }
  | finish {pipe : Pipe} : s.isHeld pipe = false →
    Happens bound s (.finish pipe) { s with ended := fun p => s.ended p || p = pipe }
  | run {s' : Scene α} : Advances bound s s' → Happens bound s .run s'
  | fail {fault : Fault} : s.phase = .looking →
    Happens bound s (.fail fault) { s.look bound with
      looks := s.looks ++ [.failed fault], phase := .returned (.failed fault) }

theorem happens_of_step (h : s.step bound act = some s') : Happens bound s act s' := by
  cases act with
  | pass => exact Option.some.inj h ▸ .pass
  | child move =>
    rw [step] at h
    split at h
    · rename_i held hchild
      exact Option.some.inj h ▸ .child hchild
    · contradiction
  | exit status =>
    rw [step] at h
    split at h
    · rename_i held hchild
      exact Option.some.inj h ▸ .exit hchild
    · contradiction
  | descendant index move =>
    obtain ⟨held, hindex, rfl⟩ := Option.map_eq_some_iff.mp h
    exact .descendant hindex
  | finish pipe =>
    rw [step] at h
    split at h
    · contradiction
    · rename_i hfree
      exact Option.some.inj h ▸ .finish (eq_false_of_ne_true hfree)
  | run => exact .run (advance_eq_some_iff.mp h)
  | fail fault =>
    rw [step] at h
    split at h
    · rename_i hphase
      exact Option.some.inj h ▸ .fail hphase
    · contradiction

end Scene

/-! ### What all scenes have in common -/

/-- A phase **fits** a child if the run can have come to it with this child. -/
def Phase.Fits (child : Child α) : Phase α → Prop
  | .looking => child ≠ .killed
  | .comparing => child ≠ .killed
  | .killing => child ≠ .killed
  | .awaiting => child.isRunning = false
  | .collecting status _ => child = .exited status
  | .returned (.exited status) => child = .exited status
  | .returned .expired => child.isRunning = false
  | .returned (.failed _) => True

namespace Phase

variable {phase : Phase α}

/-- What a running child does to its pipes does not matter. -/
theorem Fits.of_running {held : Holding} (h : phase.Fits (.running held)) (held' : Holding) :
    phase.Fits (.running held') := by
  cases phase with
  | returned verdict => cases verdict <;> simp_all [Fits, Child.isRunning]
  | _ => simp_all [Fits, Child.isRunning]

/-- A running child can exit at any time. -/
theorem Fits.of_exit {held : Holding} (h : phase.Fits (.running held)) (status : α) :
    phase.Fits (.exited status) := by
  cases phase with
  | returned verdict => cases verdict <;> simp_all [Fits, Child.isRunning]
  | _ => simp_all [Fits, Child.isRunning]

/-- The verdict that the run has come to, if it has. -/
def verdict? : Phase α → Option (Verdict α)
  | .looking => none
  | .comparing => none
  | .killing => some .expired
  | .awaiting => some .expired
  | .collecting status _ => some (.exited status)
  | .returned verdict => some verdict

/-- With a verdict the run looks no more. -/
theorem ne_looking {verdict : Verdict α} (h : phase.verdict? = some verdict) :
    phase ≠ .looking := by
  rintro rfl
  contradiction

theorem verdict?_afterReader (status : α) (pipe : Pipe) :
    (afterReader status pipe).verdict? = some (.exited status) := by
  cases pipe <;> rfl

/-- How many steps the run can still make without another look. -/
def toGo : Phase α → Nat
  | .looking => 4
  | .comparing => 3
  | .killing => 2
  | .awaiting => 1
  | .collecting _ .output => 2
  | .collecting _ .errors => 1
  | .returned _ => 0

theorem toGo_le (h : phase ≠ .looking) : phase.toGo ≤ 3 := by
  cases phase with
  | looking => contradiction
  | collecting status pipe => cases pipe <;> simp [toGo]
  | _ => simp [toGo]

end Phase

namespace Scene

variable {s s' : Scene α} {act : Act α}

/-- What is true in every scene that acts lead to. -/
structure Sound (bound : Nat) (s : Scene α) : Prop where
  fits : s.phase.Fits s.child
  verdict : s.phase.verdict? = (Watch.ofLooks bound s.looks).verdict
  released : ∀ pipe, s.ended pipe = true → s.isHeld pipe = false
  clock_of_late : s.late = true → bound ≤ s.clock
  phase_of_late : s.late = true → s.phase ≠ .looking

theorem sound_start (bound : Nat) : Sound bound (start : Scene α) where
  fits h := by contradiction
  verdict := rfl
  released _ h := absurd h Bool.false_ne_true
  clock_of_late h := absurd h Bool.false_ne_true
  phase_of_late h := absurd h Bool.false_ne_true

theorem isHeld_iff {pipe : Pipe} : s.isHeld pipe = true ↔
    s.child.held pipe = true ∨ ∃ held ∈ s.descendants, held pipe = true := by
  rw [isHeld, isHeldBelow, Bool.or_eq_true, List.any_eq_true]

/-- Nobody comes to hold a pipe that nobody held. -/
theorem Happens.isHeld (h : Happens bound s act s') {pipe : Pipe} (hheld : s'.isHeld pipe = true) :
    s.isHeld pipe = true := by
  rw [isHeld_iff] at hheld ⊢
  cases h with
  | pass => exact hheld
  | child hchild =>
    rw [hchild]
    obtain hkept | ⟨other, hother, hmem⟩ := hheld
    · exact .inl (Move.of_kept hkept)
    · obtain hother | hstarted := List.mem_append.mp hother
      · exact .inr ⟨other, hother, hmem⟩
      · exact .inl (Move.of_started hstarted hmem)
  | exit hchild => exact .inr (hheld.resolve_left Bool.false_ne_true)
  | @descendant index held move hindex =>
    obtain hchild | ⟨other, hother, hmem⟩ := hheld
    · exact .inl hchild
    · have hdescendant := List.mem_of_getElem? hindex
      refine .inr ?_
      obtain hset | hstarted := List.mem_append.mp hother
      · obtain hother | rfl := List.mem_or_eq_of_mem_set hset
        · exact ⟨other, hother, hmem⟩
        · exact ⟨held, hdescendant, Move.of_kept hmem⟩
      · exact ⟨held, hdescendant, Move.of_started hstarted hmem⟩
  | finish hfree => exact hheld
  | run hadvance =>
    cases hadvance with
    | kills hphase =>
      refine .inr (hheld.resolve_left ?_)
      rw [Child.held_kill]
      exact Bool.false_ne_true
    | _ => exact hheld
  | fail hphase => exact hheld

theorem clock_of_look (h : s.late = true → bound ≤ s.clock) (hlate : (s.look bound).late = true) :
    bound ≤ s.clock := by
  obtain hlate | hpassed := Bool.or_eq_true_iff.mp hlate
  · exact h hlate
  · exact of_decide_eq_true hpassed

theorem Sound.advance (h : Sound bound s) (hadvance : Advances bound s s')
    (hheld : ∀ pipe, s.isHeld pipe = false → s'.isHeld pipe = false) : Sound bound s' := by
  obtain ⟨hfits, hverdict, hreleased, hclock, hlate⟩ := h
  have hreleased' : ∀ pipe, s.ended pipe = true → s'.isHeld pipe = false :=
    fun pipe hended => hheld pipe (hreleased pipe hended)
  cases hadvance with
  | foundRunning hphase hchild =>
    rw [hphase] at hfits hverdict
    refine ⟨hfits, hverdict, hreleased', clock_of_look hclock, fun _ hlooking => ?_⟩
    contradiction
  | @foundExited status hphase hchild =>
    rw [hphase] at hverdict
    refine ⟨hchild, ?_, hreleased', clock_of_look hclock, fun _ => Phase.ne_looking rfl⟩
    exact (Watch.verdict_concat hverdict.symm (.exited status)).symm
  | early hphase hearly =>
    rw [hphase] at hfits hverdict
    refine ⟨hfits, ?_, hreleased', hclock, fun h => absurd (hclock h) (Nat.not_le_of_lt hearly)⟩
    rw [Watch.verdict_concat hverdict.symm, Look.verdict?, if_neg (Nat.not_le_of_lt hearly)]
    rfl
  | passed hphase hpassed =>
    rw [hphase] at hfits hverdict
    refine ⟨hfits, ?_, hreleased', hclock, fun _ => Phase.ne_looking rfl⟩
    rw [Watch.verdict_concat hverdict.symm, Look.verdict?, if_pos hpassed]
    rfl
  | kills hphase =>
    rw [hphase] at hverdict
    have hover := Child.isRunning_kill s.child
    exact ⟨hover, hverdict, hreleased', hclock, fun _ => Phase.ne_looking rfl⟩
  | awaited hphase hover =>
    rw [hphase] at hverdict
    exact ⟨hover, hverdict, hreleased', hclock, fun _ => Phase.ne_looking rfl⟩
  | @collected status pipe hphase hended =>
    rw [hphase] at hfits hverdict
    have hafter := Phase.verdict?_afterReader status pipe
    refine ⟨?_, hafter.trans hverdict, hreleased', hclock, fun _ => Phase.ne_looking hafter⟩
    cases pipe <;> exact hfits

theorem Sound.step (h : Sound bound s) (hstep : Happens bound s act s') : Sound bound s' := by
  have hheld : ∀ pipe, s.isHeld pipe = false → s'.isHeld pipe = false := by
    intro pipe hfree
    refine eq_false_of_ne_true fun hheld => ?_
    rw [hstep.isHeld hheld] at hfree
    contradiction
  have hreleased : ∀ pipe, s.ended pipe = true → s'.isHeld pipe = false :=
    fun pipe hended => hheld pipe (h.released pipe hended)
  have hfits := h.fits
  have hverdict := h.verdict
  cases hstep with
  | pass =>
    exact ⟨hfits, hverdict, hreleased, fun hlate => Nat.le_succ_of_le (h.clock_of_late hlate),
      h.phase_of_late⟩
  | child hchild =>
    rw [hchild] at hfits
    exact ⟨hfits.of_running _, hverdict, hreleased, h.clock_of_late, h.phase_of_late⟩
  | exit hchild =>
    rw [hchild] at hfits
    exact ⟨hfits.of_exit _, hverdict, hreleased, h.clock_of_late, h.phase_of_late⟩
  | descendant hindex => exact ⟨hfits, hverdict, hreleased, h.clock_of_late, h.phase_of_late⟩
  | finish hfree =>
    refine ⟨hfits, hverdict, fun other hended => ?_, h.clock_of_late, h.phase_of_late⟩
    obtain hended | hother := Bool.or_eq_true_iff.mp hended
    · exact h.released other hended
    · rw [of_decide_eq_true hother]
      exact hfree
  | run hadvance => exact h.advance hadvance hheld
  | @fail fault hphase =>
    rw [hphase] at hverdict
    refine ⟨trivial, ?_, hreleased, clock_of_look h.clock_of_late, fun _ => Phase.ne_looking rfl⟩
    exact (Watch.verdict_concat hverdict.symm (.failed fault)).symm

/-! ### Runs -/

variable {acts : List (Act α)}

theorem runs_nil_iff : s.runs bound [] = some s' ↔ s = s' := Option.some_inj

theorem runs_cons_iff : s.runs bound (act :: acts) = some s' ↔
    ∃ between, s.step bound act = some between ∧ between.runs bound acts = some s' := by
  rw [runs, List.foldlM_cons]
  exact Option.bind_eq_some_iff

theorem Sound.runs (h : Sound bound s) (hruns : s.runs bound acts = some s') : Sound bound s' := by
  induction acts generalizing s with
  | nil => exact runs_nil_iff.mp hruns ▸ h
  | cons act acts ih =>
    obtain ⟨between, hstep, hrest⟩ := runs_cons_iff.mp hruns
    exact ih (h.step (happens_of_step hstep)) hrest

/-- A look that was late stays so. -/
theorem Happens.late (h : Happens bound s act s') (hlate : s.late = true) : s'.late = true := by
  have hlook : (s.look bound).late = true := Bool.or_eq_true_iff.mpr (.inl hlate)
  cases h with
  | run hadvance =>
    cases hadvance with
    | foundRunning hphase hchild => exact hlook
    | foundExited hphase hchild => exact hlook
    | _ => exact hlate
  | fail hphase => exact hlook
  | _ => exact hlate

theorem Advances.toGo_lt (h : Advances bound s s') (hphase' : s'.phase ≠ .looking) :
    s'.phase.toGo < s.phase.toGo := by
  cases h with
  | foundRunning hphase hchild => simp [hphase, Phase.toGo]
  | foundExited hphase hchild => simp [hphase, Phase.toGo]
  | early hphase hearly => contradiction
  | passed hphase hpassed => simp [hphase, Phase.toGo]
  | kills hphase => simp [hphase, Phase.toGo]
  | awaited hphase hover => simp [hphase, Phase.toGo]
  | @collected status pipe hphase hended =>
    cases pipe <;> simp [hphase, Phase.toGo, Phase.afterReader]

/-- Only the run itself makes steps of the run. -/
theorem Happens.toGo_le (h : Happens bound s act s') (hphase' : s'.phase ≠ .looking) :
    s'.phase.toGo + (if act.isRun then 1 else 0) ≤ s.phase.toGo := by
  cases h with
  | run hadvance => exact hadvance.toGo_lt hphase'
  | fail hphase => exact Nat.zero_le _
  | _ => exact Nat.le_refl _

/-- Without another look, the steps that are still to go are an upper bound for those that are
made. -/
theorem Sound.count_le (h : Sound bound s) (hlate : s.late = true)
    (hruns : s.runs bound acts = some s') :
    s'.phase.toGo + acts.countP Act.isRun ≤ s.phase.toGo := by
  induction acts generalizing s with
  | nil =>
    obtain rfl := runs_nil_iff.mp hruns
    exact Nat.le_refl _
  | cons act acts ih =>
    obtain ⟨between, hstep, hrest⟩ := runs_cons_iff.mp hruns
    have hhappens := happens_of_step hstep
    have hbetween : Sound bound between := h.step hhappens
    have hfirst := hhappens.toGo_le (hbetween.phase_of_late (hhappens.late hlate))
    have hothers := ih hbetween (hhappens.late hlate) hrest
    rw [List.countP_cons]
    omega

/-! ### Who is waited for -/

/-- What a bound is good for in a scene. -/
structure Bounded (bound : Nat) (s : Scene α) : Prop where
  /-- What the run is about to do follows from its looks. -/
  verdict : s.phase.verdict? = (Watch.ofLooks bound s.looks).verdict
  /-- No reader is waited for unless the child exited by itself. -/
  exited_of_waits : ∀ pipe, s.WaitsFor pipe → ∃ status, s.child = .exited status
  /-- The readers of a killed child are left alone, whoever holds the pipes. -/
  not_waits_of_killed : s.child = .killed → ∀ pipe, ¬s.WaitsFor pipe
  /-- But if a child exited and its output is collected, whoever holds the pipe is waited for. -/
  waits_of_held : ∀ status pipe, s.phase = .collecting status pipe →
    s.isHeldBelow pipe = true → s.WaitsFor pipe
  /-- Nothing else keeps the run from its next step. -/
  goes_on : (∀ pipe, ¬s.WaitsFor pipe) → (∀ verdict, s.phase ≠ .returned verdict) →
    ∃ s', s.step bound .run = some s'
  /-- Behind a late look it makes at most three, whatever happens between them. -/
  few_steps : s.late = true → ∀ acts s', s.runs bound acts = some s' → acts.countP Act.isRun ≤ 3

theorem Sound.exited_of_waits (h : Sound bound s) {pipe : Pipe} (hwaits : s.WaitsFor pipe) :
    ∃ status, s.child = .exited status := by
  obtain ⟨status, hphase, -⟩ := hwaits
  have hfits := h.fits
  rw [hphase] at hfits
  exact ⟨status, hfits⟩

theorem Sound.goes_on (h : Sound bound s) (hwaits : ∀ pipe, ¬s.WaitsFor pipe)
    (hreturned : ∀ verdict, s.phase ≠ .returned verdict) : ∃ s', Advances bound s s' := by
  have hfits := h.fits
  cases hphase : s.phase with
  | looking =>
    rw [hphase] at hfits
    cases hchild : s.child with
    | running held => exact ⟨_, .foundRunning hphase hchild⟩
    | exited status => exact ⟨_, .foundExited hphase hchild⟩
    | killed => exact absurd hchild hfits
  | comparing =>
    obtain hearly | hpassed := Nat.lt_or_ge s.clock bound
    · exact ⟨_, .early hphase hearly⟩
    · exact ⟨_, .passed hphase hpassed⟩
  | killing => exact ⟨_, .kills hphase⟩
  | awaiting =>
    rw [hphase] at hfits
    exact ⟨_, .awaited hphase hfits⟩
  | collecting status pipe =>
    cases hended : s.ended pipe with
    | true => exact ⟨_, .collected hphase hended⟩
    | false => exact absurd ⟨status, hphase, hended⟩ (hwaits pipe)
  | returned verdict => exact absurd hphase (hreturned verdict)

/-- Whatever happens to a child and the pipes, the bound holds as long as the child does not exit by
itself. -/
theorem bounded_of_runs (h : start.runs bound acts = some s) : Bounded bound s := by
  have hsound : Sound bound s := (sound_start bound).runs h
  constructor
  · exact hsound.verdict
  · exact fun pipe => hsound.exited_of_waits
  · intro hkilled pipe hwaits
    obtain ⟨status, hexited⟩ := hsound.exited_of_waits hwaits
    rw [hkilled] at hexited
    contradiction
  · intro status pipe hphase hheld
    refine ⟨status, hphase, eq_false_of_ne_true fun hended => ?_⟩
    have hfree := hsound.released pipe hended
    rw [isHeld, hheld, Bool.or_true] at hfree
    contradiction
  · intro hwaits hreturned
    obtain ⟨s', hadvance⟩ := hsound.goes_on hwaits hreturned
    exact ⟨s', advance_eq_some_iff.mpr hadvance⟩
  · intro hlate acts s' hruns
    have hcount := hsound.count_le hlate hruns
    have hthree := Phase.toGo_le (hsound.phase_of_late hlate)
    omega

/-- Here a child is killed while its descendant holds both pipes, and the run returns. -/
theorem bounded_of_runs_killed :
    let acts : List (Act Nat) := [.child .fork, .pass, .pass, .run, .run, .run, .run]
    let s : Scene Nat :=
      ⟨.killed, [fun _ => true], fun _ => false, 2, [.running 2], true, .returned .expired⟩
    start.runs 2 acts = some s ∧ Bounded 2 s ∧ s.isHeldBelow .output = true := by
  intro acts s
  have hruns : start.runs 2 acts = some s := rfl
  exact ⟨hruns, bounded_of_runs hruns, rfl⟩

/-- A child that exits before its bound keeps the run waiting for a descendant that holds a pipe.
In the first scene the next look comes after the bound, in the second one it comes before. -/
theorem exited_child_keeps_run_waiting :
    let begun : List (Act Nat) := [.run, .run, .child .fork, .exit 0]
    (∃ s, start.runs 2 (begun ++ [.pass, .pass, .run]) = some s ∧ s.late = true ∧
      s.child = .exited 0 ∧ s.WaitsFor .output ∧ s.isHeldBelow .output = true) ∧
    (∃ s, start.runs 2 (begun ++ [.run, .pass, .pass]) = some s ∧ 2 ≤ s.clock ∧
      s.child = .exited 0 ∧ s.WaitsFor .output ∧ s.isHeldBelow .output = true) :=
  ⟨⟨_, rfl, rfl, rfl, ⟨0, rfl, rfl⟩, rfl⟩, ⟨_, rfl, by decide, rfl, ⟨0, rfl, rfl⟩, rfl⟩⟩

end Scene

end Timekeeper
