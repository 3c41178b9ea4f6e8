import Mathlib.Data.List.Count
import NetControl.Proofs.Lifecycle.Channels
import NetControl.Proofs.Runs

/-!
# What a drain keeps in step

`Drain.Transition` lists, case by case, what each move of a drain finds and where it leads;
`Drain.transition_of_step` and `Drain.step_of_transition` show that `Drain.step` does this and
nothing else. `Drain.Counted` ties the channels to the watchers, tasks and trigger around them;
every move keeps it, whatever the order of the moves (`Drain.counted_of_run`).
-/

namespace NetControl.Lifecycle

/-- Changing one element changes a count by what that element counts. -/
theorem countP_set_add {α : Type} (p : α → Bool) {l : List α} {i : Nat} {a : α}
    (found : l[i]? = some a) (b : α) :
    (l.set i b).countP p + (p a).toNat = l.countP p + (p b).toNat := by
  obtain ⟨inside, rfl⟩ := List.getElem?_eq_some_iff.mp found
  have counted : (if p l[i] = true then 1 else 0) ≤ l.countP p :=
    List.boole_getElem_le_countP inside
  rw [List.countP_set inside]
  cases was : p l[i] <;> cases p b <;>
    simp only [was, Bool.toNat_true, Bool.toNat_false, if_true, if_false, Bool.false_eq_true] at counted ⊢ <;>
    omega

namespace Drain

variable {d d' : Drain} {m : Move} {moves : List Move}

/-! ## One move -/

/-- `d.Transition m d'`: the move `m` can lead from `d` to `d'`. -/
inductive Transition (d : Drain) : Move → Drain → Prop
  | clone {i : Nat} (idle : d.watchers[i]? = some true) :
    Transition d (.clone i)
      { d with watchers := d.watchers ++ [true], channels := d.channels.cloneWatcher }
  | drop {i : Nat} (idle : d.watchers[i]? = some true) :
    Transition d (.drop i)
      { d with watchers := d.watchers.set i false, channels := d.channels.dropWatcher }
  | watch {i : Nat} (idle : d.watchers[i]? = some true) :
    Transition d (.watch i)
      { d with watchers := d.watchers.set i false, tasks := d.tasks ++ [.waiting] }
  | wake {i : Nat} {mode : DrainMode} (waiting : d.tasks[i]? = some .waiting)
    (learnt : d.channels.mode? = some mode) :
    Transition d (.wake i)
      { d with tasks := d.tasks.set i (.holding mode), channels := d.channels.toBlocker }
  | release {i : Nat} {mode : DrainMode} (holding : d.tasks[i]? = some (.holding mode)) :
    Transition d (.release i)
      { d with tasks := d.tasks.set i (.released mode), channels := d.channels.dropBlocker }
  | start {mode : DrainMode} (armed : d.trigger = .armed) :
    Transition d (.start mode)
      { d with trigger := .draining mode, channels := d.channels.start mode }
  | finish {mode : DrainMode} (draining : d.trigger = .draining mode)
    (isOver : d.channels.isOver = true) :
    Transition d .finish
      { d with trigger := .finished mode, channels := d.channels.dropTrigger }
  | dropTrigger (armed : d.trigger = .armed) :
    Transition d .dropTrigger
      { d with trigger := .gone, channels := d.channels.dropTrigger }

/-- A drain does nothing but what the cases list. -/
theorem transition_of_step (step : d.step m = some d') : d.Transition m d' := by
  cases m with
  | clone i =>
    simp only [Drain.step] at step
    split at step
    · next idle =>
      cases step
      exact .clone idle
    · cases step
  | drop i =>
    simp only [Drain.step] at step
    split at step
    · next idle =>
      cases step
      exact .drop idle
    · cases step
  | watch i =>
    simp only [Drain.step] at step
    split at step
    · next idle =>
      cases step
      exact .watch idle
    · cases step
  | wake i =>
    simp only [Drain.step] at step
    split at step
    · next waiting learnt =>
      cases step
      exact .wake waiting learnt
    · cases step
  | release i =>
    simp only [Drain.step] at step
    split at step
    · next holding =>
      cases step
      exact .release holding
    · cases step
  | start mode =>
    simp only [Drain.step] at step
    split at step
    · next armed =>
      cases step
      exact .start armed
    · cases step
  | finish =>
    simp only [Drain.step] at step
    split at step
    · next draining =>
      split at step
      · next isOver =>
        cases step
        exact .finish draining isOver
      · cases step
    · cases step
  | dropTrigger =>
    simp only [Drain.step] at step
    split at step
    · next armed =>
      cases step
      exact .dropTrigger armed
    · cases step

/-- Whatever the cases list, a drain can do. -/
theorem step_of_transition (step : d.Transition m d') : d.step m = some d' := by
  cases step with
  | clone idle | drop idle | watch idle => exact if_pos idle
  | wake waiting learnt => simp only [Drain.step, waiting, learnt]
  | release holding => simp only [Drain.step, holding]
  | start armed | dropTrigger armed => simp only [Drain.step, armed]
  | finish draining isOver => simp only [Drain.step, draining, isOver, if_true]

/-! ## Counts -/

end Drain

/-- Whether the task holds a blocker. -/
def DrainTask.isHolding : DrainTask → Bool
  | holding _ => true
  | _ => false

/-- Whether the task waits for the drain. -/
def DrainTask.isWaiting : DrainTask → Bool
  | waiting => true
  | _ => false

/-- The mode of the signal, if it was sent. -/
def DrainTrigger.sent : DrainTrigger → Option DrainMode
  | draining mode => some mode
  | finished mode => some mode
  | _ => none

/-- Whether the trigger is still there. -/
def DrainTrigger.isThere : DrainTrigger → Bool
  | armed => true
  | draining _ => true
  | _ => false

/-- What a waiting task learns. -/
def DrainTrigger.mode? (t : DrainTrigger) : Option DrainMode :=
  DrainChannels.Account.learntMode t.sent t.isThere

namespace Drain

variable {d d' : Drain} {m : Move} {moves : List Move}

/-- How many watchers are idle or wait. -/
def listening (watchers : List Bool) (tasks : List DrainTask) : Nat :=
  watchers.countP id + tasks.countP DrainTask.isWaiting

/-- How many blockers are left. -/
def blocking (tasks : List DrainTask) : Nat :=
  tasks.countP DrainTask.isHolding

section Counts

variable {watchers : List Bool} {tasks : List DrainTask} {i : Nat} {mode : DrainMode}

theorem listening_clone : listening (watchers ++ [true]) tasks = listening watchers tasks + 1 := by
  simp only [listening, List.countP_append, List.countP_singleton, id, if_true]
  omega

theorem listening_drop (idle : watchers[i]? = some true) :
    listening watchers tasks = listening (watchers.set i false) tasks + 1 := by
  have fewer : (watchers.set i false).countP id + 1 = watchers.countP id :=
    countP_set_add id idle false
  simp only [listening]
  omega

theorem listening_watch :
    listening watchers (tasks ++ [.waiting]) = listening watchers tasks + 1 := by
  simp only [listening, List.countP_append, List.countP_singleton, DrainTask.isWaiting, if_true]
  omega

theorem blocking_watch : blocking (tasks ++ [.waiting]) = blocking tasks := by
  simp only [blocking, List.countP_append, List.countP_singleton, DrainTask.isHolding]
  rfl

theorem listening_wake (waiting : tasks[i]? = some .waiting) :
    listening watchers tasks = listening watchers (tasks.set i (.holding mode)) + 1 := by
  have fewer : (tasks.set i (.holding mode)).countP DrainTask.isWaiting + 1 =
      tasks.countP DrainTask.isWaiting := countP_set_add _ waiting _
  simp only [listening]
  omega

theorem blocking_wake (waiting : tasks[i]? = some .waiting) :
    blocking (tasks.set i (.holding mode)) = blocking tasks + 1 :=
  countP_set_add DrainTask.isHolding waiting (.holding mode)

theorem listening_release (holding : tasks[i]? = some (.holding mode)) :
    listening watchers (tasks.set i (.released mode)) = listening watchers tasks :=
  congrArg (watchers.countP id + ·)
    (countP_set_add DrainTask.isWaiting holding (.released mode))

theorem blocking_release (holding : tasks[i]? = some (.holding mode)) :
    blocking tasks = blocking (tasks.set i (.released mode)) + 1 :=
  (countP_set_add DrainTask.isHolding holding (.released mode)).symm

end Counts

/-- The channels are those of the watchers, tasks and trigger. -/
structure Counted (d : Drain) : Prop where
  account : d.channels.Account (listening d.watchers d.tasks) (blocking d.tasks)
    d.trigger.sent d.trigger.isThere
  /-- Whoever holds a blocker, or has released one, has it with the mode of the trigger. -/
  modes : ∀ t ∈ d.tasks, ∀ mode, t.mode? = some mode → d.trigger.mode? = some mode
  /-- The wait for the end is over only when nothing is left. -/
  finished : ∀ mode, d.trigger = .finished mode →
    listening d.watchers d.tasks = 0 ∧ blocking d.tasks = 0

namespace Counted

theorem new : Counted {} where
  account := .new
  modes := List.forall_mem_nil _
  finished := nofun

/-- While something listens or blocks, the wait for the end is not over. -/
theorem not_finished (counted : d.Counted)
    (left : listening d.watchers d.tasks ≠ 0 ∨ blocking d.tasks ≠ 0) (mode : DrainMode) :
    d.trigger ≠ .finished mode := by
  intro finished
  obtain ⟨unheard, unblocked⟩ := counted.finished mode finished
  exact left.elim (fun present => present unheard) fun present => present unblocked

/-- A task that waits learns what the trigger tells. -/
theorem mode?_of_waiting (counted : d.Counted) {i : Nat} (waiting : d.tasks[i]? = some .waiting) :
    d.channels.mode? = d.trigger.mode? := by
  have present : listening d.watchers d.tasks =
      listening d.watchers (d.tasks.set i (.holding .immediate)) + 1 := listening_wake waiting
  have account := counted.account
  rw [present] at account
  exact account.mode?_eq

/-- As long as the trigger has told nothing, nobody has a mode. -/
theorem no_mode_of_armed (counted : d.Counted) (armed : d.trigger = .armed) :
    ∀ t ∈ d.tasks, ∀ mode, t.mode? ≠ some mode := by
  intro t member mode mine
  have impossible := counted.modes t member mode mine
  rw [armed] at impossible
  cases impossible

/-- A task that comes to hold a blocker, or releases it, keeps to the mode of the trigger. -/
theorem modes_set (counted : d.Counted) {i : Nat} {t : DrainTask}
    (mine : ∀ mode, t.mode? = some mode → d.trigger.mode? = some mode) :
    ∀ t' ∈ d.tasks.set i t, ∀ mode, t'.mode? = some mode → d.trigger.mode? = some mode := by
  intro t' member
  rcases List.mem_or_eq_of_mem_set member with old | rfl
  · exact counted.modes t' old
  · exact mine

/-- Every move keeps the channels in step. -/
theorem of_transition (counted : d.Counted) (step : d.Transition m d') : d'.Counted := by
  have account := counted.account
  cases step with
  | @clone i idle =>
    have present : listening d.watchers d.tasks =
        listening (d.watchers.set i false) d.tasks + 1 := listening_drop idle
    rw [present] at account
    refine ⟨?_, counted.modes, fun mode finished => ?_⟩
    · rw [listening_clone, present]
      exact account.cloneWatcher
    · exact (counted.not_finished (Or.inl (present ▸ Nat.succ_ne_zero _)) mode finished).elim
  | @drop i idle =>
    have present : listening d.watchers d.tasks =
        listening (d.watchers.set i false) d.tasks + 1 := listening_drop idle
    rw [present] at account
    refine ⟨account.dropWatcher, counted.modes, fun mode finished => ?_⟩
    exact (counted.not_finished (Or.inl (present ▸ Nat.succ_ne_zero _)) mode finished).elim
  | @watch i idle =>
    have same : listening (d.watchers.set i false) (d.tasks ++ [.waiting]) =
        listening d.watchers d.tasks := by
      rw [listening_watch, ← listening_drop idle]
    refine ⟨?_, ?_, ?_⟩
    · rw [same, blocking_watch]
      exact account
    · rw [List.forall_mem_append]
      exact ⟨counted.modes, by simp [DrainTask.mode?]⟩
    · rw [same, blocking_watch]
      exact counted.finished
  | @wake i mode waiting learnt =>
    have present : listening d.watchers d.tasks =
        listening d.watchers (d.tasks.set i (.holding mode)) + 1 := listening_wake waiting
    rw [present] at account
    refine ⟨?_, counted.modes_set fun mode' same => ?_, fun mode finished => ?_⟩
    · rw [blocking_wake waiting]
      exact account.toBlocker
    · cases same
      rw [← counted.mode?_of_waiting waiting, learnt]
    · exact (counted.not_finished (Or.inl (present ▸ Nat.succ_ne_zero _)) mode finished).elim
  | @release i mode holding =>
    have present := blocking_release holding
    rw [present] at account
    refine ⟨?_, counted.modes_set fun mode' same => ?_, fun mode finished => ?_⟩
    · rw [listening_release holding]
      exact account.dropBlocker
    · exact counted.modes _ (List.mem_of_getElem? holding) mode' same
    · exact (counted.not_finished (Or.inr (present ▸ Nat.succ_ne_zero _)) mode finished).elim
  | @start mode armed =>
    have signalled := account.start mode
    rw [armed] at signalled
    exact ⟨signalled, fun t member mode mine =>
      (counted.no_mode_of_armed armed t member mode mine).elim, nofun⟩
  | finish draining isOver =>
    have gone := account.dropTrigger
    have modes := counted.modes
    rw [draining] at gone modes
    exact ⟨gone, modes, fun _ _ => account.isOver_iff.mp isOver⟩
  | dropTrigger armed =>
    have gone := account.dropTrigger
    rw [armed] at gone
    exact ⟨gone, fun t member mode mine =>
      (counted.no_mode_of_armed armed t member mode mine).elim, nofun⟩

end Counted

theorem counted_of_run (run : runMoves Drain.step {} moves = some d) : d.Counted :=
  runMoves_induction (P := fun _ d => d.Counted) .new
    (fun counted step => counted.of_transition (transition_of_step step)) run

end Drain

end NetControl.Lifecycle
