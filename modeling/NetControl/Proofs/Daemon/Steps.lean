import NetControl.Daemon.Life

/-!
# What a move in the life of a daemon can do

`Life.Transition` lists, case by case, what each move finds and where it leads.
`Life.transition_of_step` and `Life.step_of_transition` show that `Life.step` does this and nothing
else. Only a request and the end of the forwarding daemon reach the controller.
-/

namespace NetControl.Daemon

open Lifecycle Tether

namespace Life

variable {ω : Type} {answer : (c : Call) → ω → c.Answer × ω} {l l' : Life ω} {m : Move}

@[simp] theorem setStage_drain (stage : ListenerStage) (side : Side) :
    (l.setStage stage side).drain = l.drain := by
  cases side <;> rfl

@[simp] theorem setStage_controller (stage : ListenerStage) (side : Side) :
    (l.setStage stage side).controller = l.controller := by
  cases side <;> rfl

@[simp] theorem setStage_waiting (stage : ListenerStage) (side : Side) :
    (l.setStage stage side).waiting = l.waiting := by
  cases side <;> rfl

/-- `l.Transition answer m l'`: the move `m` can lead from `l` to `l'`. -/
inductive Transition (answer : (c : Call) → ω → c.Answer × ω) (l : Life ω) : Move → Life ω → Prop
  | accept {side : Side} (accepting : l.stage side = .accepting) :
    Transition answer l (.accept side)
      { l with accepted := fun s => if s = side then l.accepted s + 1 else l.accepted s }
  | notice {side : Side} {d : Drain} (accepting : l.stage side = .accepting)
    (woken : l.drain.step (.wake side.task) = some d) :
    Transition answer l (.notice side) { l.setStage .closing side with drain := d }
  | close {side : Side} (closing : l.stage side = .closing) :
    Transition answer l (.close side) (l.setStage .closed side)
  | clear {side : Side} (closed : l.stage side = .closed) :
    Transition answer l (.clear side) (l.setStage .cleared side)
  | release {side : Side} {d : Drain} (cleared : l.stage side = .cleared)
    (released : l.drain.step (.release side.task) = some d) :
    Transition answer l (.release side) { l.setStage .released side with drain := d }
  | finish {side : Side} {d : Drain} (released : l.stage side = .released)
    (dropped : l.drain.step (.drop side.watcher) = some d) :
    Transition answer l (.finish side) { l.setStage .ended side with drain := d }
  | request {op : Controller.Operation} (connected : 0 < l.accepted .control) :
    Transition answer l (.request op) (l.carryOut answer op.plan)
  | trigger {d : Drain} (running : l.waiting = .running)
    (started : l.drain.step (.start .graceful) = some d) :
    Transition answer l .trigger { l with waiting := .draining, drain := d }
  | complete {d : Drain} (draining : l.waiting = .draining)
    (finished : l.drain.step .finish = some d) :
    Transition answer l .complete { l with waiting := .drained true, drain := d }
  | expire (draining : l.waiting = .draining) :
    Transition answer l .expire { l with waiting := .drained false }
  | stop {inTime : Bool} (drained : l.waiting = .drained inTime) :
    Transition answer l .stop
      { l.carryOut answer Controller.stop with waiting := .stopped inTime }
  | leave {inTime : Bool} (stopped : l.waiting = .stopped inTime) :
    Transition answer l .leave { l with waiting := .returned inTime }

theorem of_onDrain {d : Drain.Move} (step : l.onDrain d = some l') :
    ∃ drain, l.drain.step d = some drain ∧ l' = { l with drain } := by
  obtain ⟨drain, moved, rfl⟩ := Option.map_eq_some_iff.mp step
  exact ⟨drain, moved, rfl⟩

theorem of_advance {side : Side} {before after : ListenerStage}
    (step : l.advance side before after = some l') :
    l.stage side = before ∧ l' = l.setStage after side := by
  unfold advance at step
  split at step
  · next here =>
    cases step
    exact ⟨here, rfl⟩
  · cases step

/-- A listener that goes on and has its part in the drain. -/
theorem of_advance_onDrain {side : Side} {before after : ListenerStage} {d : Drain.Move}
    (step : (l.advance side before after).bind (onDrain d) = some l') :
    l.stage side = before ∧
      ∃ drain, l.drain.step d = some drain ∧ l' = { l.setStage after side with drain } := by
  obtain ⟨next, advanced, drained⟩ := Option.bind_eq_some_iff.mp step
  obtain ⟨here, rfl⟩ := of_advance advanced
  obtain ⟨drain, moved, rfl⟩ := of_onDrain drained
  rw [setStage_drain] at moved
  exact ⟨here, drain, moved, rfl⟩

/-- The life of a daemon does nothing but what the cases list. -/
theorem transition_of_step (step : l.step answer m = some l') : l.Transition answer m l' := by
  cases m with
  | accept side =>
    simp only [Life.step] at step
    split at step
    · next accepting =>
      cases step
      exact .accept accepting
    · cases step
  | notice side =>
    obtain ⟨here, d, woken, rfl⟩ := of_advance_onDrain step
    exact .notice here woken
  | close side =>
    obtain ⟨here, rfl⟩ := of_advance step
    exact .close here
  | clear side =>
    obtain ⟨here, rfl⟩ := of_advance step
    exact .clear here
  | release side =>
    obtain ⟨here, d, released, rfl⟩ := of_advance_onDrain step
    exact .release here released
  | finish side =>
    obtain ⟨here, d, dropped, rfl⟩ := of_advance_onDrain step
    exact .finish here dropped
  | request op =>
    simp only [Life.step] at step
    split at step
    · next connected =>
      cases step
      exact .request connected
    · cases step
  | trigger =>
    simp only [Life.step] at step
    split at step
    · next running =>
      obtain ⟨d, started, rfl⟩ := of_onDrain step
      exact .trigger running started
    · cases step
  | complete =>
    simp only [Life.step] at step
    split at step
    · next draining =>
      obtain ⟨d, finished, rfl⟩ := of_onDrain step
      exact .complete draining finished
    · cases step
  | expire =>
    simp only [Life.step] at step
    split at step
    · next draining =>
      cases step
      exact .expire draining
    · cases step
  | stop =>
    simp only [Life.step] at step
    split at step
    · next drained =>
      cases step
      exact .stop drained
    · cases step
  | leave =>
    simp only [Life.step] at step
    split at step
    · next stopped =>
      cases step
      exact .leave stopped
    · cases step

/-- Whatever the cases list, the life of a daemon can do. -/
theorem step_of_transition (step : l.Transition answer m l') : l.step answer m = some l' := by
  cases step with
  | accept accepting => exact if_pos accepting
  | notice accepting woken =>
    simp only [Life.step, advance, if_pos accepting, Option.bind_some, onDrain, setStage_drain,
      woken, Option.map_some]
  | close closing => exact if_pos closing
  | clear closed => exact if_pos closed
  | release cleared released =>
    simp only [Life.step, advance, if_pos cleared, Option.bind_some, onDrain, setStage_drain,
      released, Option.map_some]
  | finish released dropped =>
    simp only [Life.step, advance, if_pos released, Option.bind_some, onDrain, setStage_drain,
      dropped, Option.map_some]
  | request connected => exact if_pos connected
  | trigger running started =>
    simp only [Life.step, if_pos running, onDrain, started, Option.map_some]
  | complete draining finished =>
    simp only [Life.step, if_pos draining, onDrain, finished, Option.map_some]
  | expire draining => exact if_pos draining
  | stop drained => simp only [Life.step, drained]
  | leave stopped => simp only [Life.step, stopped]

/-! ## Runs -/

theorem run_nil : l.run answer [] = some l' ↔ l' = l := by
  change some l = some l' ↔ l' = l
  rw [Option.some.injEq, eq_comm]

/-- A run makes its first move and goes on from where that leads. -/
theorem run_cons {moves : List Move} :
    l.run answer (m :: moves) = some l' ↔
      ∃ next, l.Transition answer m next ∧ l.step answer m = some next ∧
        next.run answer moves = some l' := by
  change ((l.step answer m).bind fun next => next.run answer moves) = some l' ↔ _
  rw [Option.bind_eq_some_iff]
  constructor
  · rintro ⟨next, step, rest⟩
    exact ⟨next, transition_of_step step, step, rest⟩
  · rintro ⟨next, -, step, rest⟩
    exact ⟨next, step, rest⟩

theorem run_append {before after : List Move} :
    l.run answer (before ++ after) = some l' ↔
      ∃ mid, l.run answer before = some mid ∧ mid.run answer after = some l' := by
  induction before generalizing l with
  | nil => simp [run_nil]
  | cons m rest ih =>
    simp only [List.cons_append, run_cons, ih]
    constructor
    · rintro ⟨next, moved, step, mid, led, rest⟩
      exact ⟨mid, ⟨next, moved, step, led⟩, rest⟩
    · rintro ⟨mid, ⟨next, moved, step, led⟩, rest⟩
      exact ⟨next, moved, step, mid, led, rest⟩

end Life

end NetControl.Daemon
