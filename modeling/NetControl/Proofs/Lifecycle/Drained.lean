import NetControl.Proofs.Lifecycle.Counting

/-!
# Drains at rest

A drain is at rest when nothing happens in it any more unless somebody asks for it. Whatever was
asked before, and in whatever order, every drain comes to rest (`Drain.atRest_settle`), and
`Drain.drain_settles` says what is the case then: who has a blocker, with which mode, and whether
the wait for the end is over.
-/

namespace NetControl.Lifecycle

/-- Whether somebody waits for the end of the drain. -/
def DrainTrigger.isAwaited : DrainTrigger → Bool
  | draining _ => true
  | _ => false

namespace Drain

variable {d d' : Drain} {m : Move} {moves : List Move}

/-! ## Rest -/

/-- Nothing happens any more unless somebody asks for it. -/
def AtRest (d : Drain) : Prop :=
  ∀ m ∈ d.ownMoves, d.step m = none

instance (d : Drain) : Decidable d.AtRest :=
  inferInstanceAs (Decidable (∀ m ∈ d.ownMoves, d.step m = none))

/-- How many moves may still happen without anybody asking for them: one for every task that waits,
and one for whoever waits for the end. -/
def pending (d : Drain) : Nat :=
  d.tasks.countP DrainTask.isWaiting + d.trigger.isAwaited.toNat

theorem pending_lt (own : m ∈ d.ownMoves) (step : d.step m = some d') : d'.pending < d.pending := by
  unfold pending
  cases transition_of_step step with
  | @wake i mode waiting learnt =>
    have fewer : (d.tasks.set i (.holding mode)).countP DrainTask.isWaiting + 1 =
        d.tasks.countP DrainTask.isWaiting := countP_set_add _ waiting _
    dsimp only
    omega
  | finish draining isOver => simp [DrainTrigger.isAwaited, draining]
  | clone | drop | watch | release | start | dropTrigger => simp [ownMoves] at own

/-- What the drain does by itself leads it to rest. -/
theorem atRest_settle (d : Drain) : d.settle.AtRest := by
  refine rest_of_settle pending pending_lt _ ?_
  have waiting : d.tasks.countP DrainTask.isWaiting ≤ d.tasks.length := List.countP_le_length
  have last : d.trigger.isAwaited.toNat ≤ 1 := Bool.toNat_le _
  unfold pending
  omega

/-- At rest no task waits that could learn something. -/
theorem mode?_of_atRest (rest : d.AtRest) {i : Nat} (waiting : d.tasks[i]? = some .waiting) :
    d.channels.mode? = none := by
  have inside : i < d.tasks.length := (List.getElem?_eq_some_iff.mp waiting).1
  have own : .wake i ∈ d.ownMoves :=
    List.mem_append_left _ (List.mem_map_of_mem (List.mem_range.mpr inside))
  rw [Option.eq_none_iff_forall_not_mem]
  intro mode learnt
  cases (rest _ own).symm.trans (step_of_transition (.wake waiting learnt))

/-- At rest nobody waits for an end that has come. -/
theorem isOver_of_atRest (rest : d.AtRest) {mode : DrainMode}
    (draining : d.trigger = .draining mode) : d.channels.isOver = false := by
  have own : .finish ∈ d.ownMoves := List.mem_append_right _ (List.mem_singleton_self _)
  rw [Bool.eq_false_iff]
  intro isOver
  cases (rest _ own).symm.trans (step_of_transition (.finish draining isOver))

/-! ## The trigger -/

/-- The trigger remembers what was done with it. -/
theorem trigger_of_run (run : runMoves Drain.step {} moves = some d) :
    (∀ mode, .start mode ∈ moves ↔ d.trigger = .draining mode ∨ d.trigger = .finished mode) ∧
      (.dropTrigger ∈ moves ↔ d.trigger = .gone) := by
  refine runMoves_induction (P := fun moves d =>
    (∀ mode, .start mode ∈ moves ↔ d.trigger = .draining mode ∨ d.trigger = .finished mode) ∧
      (.dropTrigger ∈ moves ↔ d.trigger = .gone)) (by simp) ?_ run
  rintro before d d' m ⟨started, dropped⟩ step
  simp only [List.mem_append, List.mem_singleton, started, dropped]
  cases transition_of_step step with
  | clone | drop | watch | wake | release => simp
  | start armed => simp [armed, eq_comm]
  | finish draining isOver => simp [draining]
  | dropTrigger armed => simp [armed]

theorem isFinished?_eq_some_true_iff :
    d.isFinished? = some true ↔ ∃ mode, d.trigger = .finished mode := by
  unfold isFinished?
  cases d.trigger <;> simp

/-! ## What is left -/

/-- Nothing holds the drain open: no watcher is idle, no task waits, and every blocker is
released. -/
def IsReleased (d : Drain) : Prop :=
  (∀ w ∈ d.watchers, w = false) ∧ ∀ t ∈ d.tasks, ∃ mode, t = .released mode

theorem isReleased_iff :
    d.IsReleased ↔ listening d.watchers d.tasks = 0 ∧ blocking d.tasks = 0 := by
  have task (t : DrainTask) :
      (∃ mode, t = .released mode) ↔ ¬t.isWaiting = true ∧ ¬t.isHolding = true := by
    cases t <;> simp [DrainTask.isWaiting, DrainTask.isHolding]
  simp only [IsReleased, listening, blocking, Nat.add_eq_zero_iff, List.countP_eq_zero, task,
    forall_and, id, Bool.not_eq_true, and_assoc]

namespace Counted

/-- When the wait for the end is over, nothing can be done any more. -/
theorem step_eq_none (counted : d.Counted) {mode : DrainMode}
    (finished : d.trigger = .finished mode) (m : Move) : d.step m = none := by
  obtain ⟨unwatched, released⟩ := isReleased_iff.mpr (counted.finished mode finished)
  have unidle {i : Nat} (idle : d.watchers[i]? = some true) : False :=
    Bool.false_ne_true (unwatched _ (List.mem_of_getElem? idle)).symm
  rw [Option.eq_none_iff_forall_not_mem]
  intro d' step
  cases transition_of_step step with
  | clone idle => exact unidle idle
  | drop idle => exact unidle idle
  | watch idle => exact unidle idle
  | wake waiting learnt => exact nomatch released _ (List.mem_of_getElem? waiting)
  | release holding => exact nomatch released _ (List.mem_of_getElem? holding)
  | start armed => exact nomatch armed.symm.trans finished
  | finish draining isOver => exact nomatch draining.symm.trans finished
  | dropTrigger armed => exact nomatch armed.symm.trans finished

/-- At rest every task has got its blocker, unless there is nothing to learn from the trigger. -/
theorem mode?_isSome_iff (counted : d.Counted) (rest : d.AtRest) {t : DrainTask}
    (member : t ∈ d.tasks) : t.mode?.isSome ↔ d.trigger ≠ .armed := by
  constructor
  · intro has armed
    obtain ⟨mode, mine⟩ := Option.isSome_iff_exists.mp has
    exact counted.no_mode_of_armed armed t member mode mine
  · intro told
    cases t with
    | holding mode => rfl
    | released mode => rfl
    | waiting =>
      obtain ⟨i, waiting⟩ := List.mem_iff_getElem?.mp member
      have learnt : d.trigger.mode? = none :=
        (counted.mode?_of_waiting waiting).symm.trans (mode?_of_atRest rest waiting)
      cases trigger : d.trigger with
      | armed => exact (told trigger).elim
      | draining | finished | gone =>
        rw [trigger] at learnt
        cases learnt

end Counted

/-- Every order of moves, at every moment: whoever has a blocker has it with the mode that the drain
was started with, or for an immediate stop if the trigger has gone without a start; and once the
wait for the end is over, nobody can get hold of a watcher or a blocker again. At rest a task has
got its blocker just if the drain was started or the trigger has gone, and the wait for the end is
over just if the drain was started and nothing is left that holds it open. -/
theorem drain_settles (run : runMoves Drain.step {} moves = some d) :
    (∀ mode, .start mode ∈ moves →
        ∀ t ∈ d.tasks, ∀ mode', t.mode? = some mode' → mode' = mode) ∧
      (.dropTrigger ∈ moves → (∀ mode, .start mode ∉ moves) ∧
        ∀ t ∈ d.tasks, ∀ mode, t.mode? = some mode → mode = .immediate) ∧
      (d.isFinished? = some true → ∀ m, d.step m = none) ∧
      (d.AtRest →
        (∀ t ∈ d.tasks, t.mode?.isSome ↔
          (∃ mode, .start mode ∈ moves) ∨ .dropTrigger ∈ moves) ∧
        (d.isFinished? = some true ↔ (∃ mode, .start mode ∈ moves) ∧ d.IsReleased)) := by
  have counted := counted_of_run run
  obtain ⟨started, dropped⟩ := trigger_of_run run
  simp only [started, dropped, isFinished?_eq_some_true_iff]
  refine ⟨?_, ?_, ?_, fun rest => ⟨fun t member => ?_, ?_⟩⟩
  · intro mode signalled t member mode' mine
    have told := counted.modes t member mode' mine
    rcases signalled with draining | finished
    · rw [draining] at told
      exact (Option.some.inj told).symm
    · rw [finished] at told
      exact (Option.some.inj told).symm
  · intro gone
    refine ⟨by simp [gone], fun t member mode mine => ?_⟩
    have told := counted.modes t member mode mine
    rw [gone] at told
    exact (Option.some.inj told).symm
  · rintro ⟨mode, finished⟩
    exact counted.step_eq_none finished
  · rw [counted.mode?_isSome_iff rest member]
    cases d.trigger <;> simp
  · constructor
    · rintro ⟨mode, finished⟩
      exact ⟨⟨mode, Or.inr finished⟩, isReleased_iff.mpr (counted.finished mode finished)⟩
    · rintro ⟨⟨mode, draining | finished⟩, released⟩
      · have isOver := counted.account.isOver_iff.mpr (isReleased_iff.mp released)
        rw [isOver_of_atRest rest draining] at isOver
        cases isOver
      · exact ⟨mode, finished⟩

/-- Watchers are copied, dropped and made to wait before and after the start. -/
def staggered : List Move :=
  [.clone 0, .watch 0, .clone 1, .start .graceful, .clone 1, .wake 0, .drop 1, .watch 2, .wake 1,
    .release 0, .watch 3, .wake 2, .release 2, .release 1, .finish]

theorem drain_settles_staggered :
    ∃ d, runMoves Drain.step {} staggered = some d ∧ d.AtRest ∧ d.tasks.length = 3 ∧
      (∀ t ∈ d.tasks, t.mode?.isSome ∧ ∀ mode, t.mode? = some mode → mode = .graceful) ∧
      d.isFinished? = some true ∧ ∀ m, d.step m = none := by
  obtain ⟨d, run, rest, three, isOver⟩ : ∃ d, runMoves Drain.step {} staggered = some d ∧ d.AtRest ∧
      d.tasks.length = 3 ∧ d.isFinished? = some true := ⟨_, rfl, by decide, rfl, rfl⟩
  obtain ⟨modes, -, last, atRest⟩ := drain_settles run
  have started : .start .graceful ∈ staggered := by decide
  exact ⟨d, run, rest, three, fun t member => ⟨((atRest rest).1 t member).mpr (Or.inl ⟨_, started⟩),
    modes _ started t member⟩, isOver, last isOver⟩

end Drain

end NetControl.Lifecycle
