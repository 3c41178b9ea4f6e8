import NetControl.Proofs.Daemon.Tasks
import NetControl.Proofs.Tether.Lifetime

/-!
# The order of a graceful end

The wait for the end tells the forwarding daemon to end when the drain is over, or when the grace
period is. `Service.sockets_gone_before_stop` says for every order in which the tasks run that a
drain which is over in time finds both sockets closed and the removal of both paths attempted, and
that no listener accepts a connection from then on.

What a listener has done to end can be read off its point, because it does so in one order only
(`Service.ending_of_run`). What is left is that the drain is not over before the listeners are, and
this is a matter of counts (`Service.Orderly`).
-/

namespace NetControl.Daemon

open Lifecycle Tether

namespace Service

/-- What a listener does to end, in this order. -/
def endingMoves (side : Side) : List Move :=
  [.close side, .clear side, .release side, .finish side]

end Service

/-- How many moves to its end a listener has made. -/
def ListenerPoint.progress : ListenerPoint → Nat
  | closed => 1
  | cleared => 2
  | released => 3
  | ended => 4
  | _ => 0

/-- What a listener has done to end. -/
def ListenerPoint.ending (p : ListenerPoint) (side : Side) : List Service.Move :=
  (Service.endingMoves side).take p.progress

theorem Passage.ending {c : DrainChannels} {m : Service.Move} {side : Side}
    {before after : ListenerPoint} {act : DrainChannels → DrainChannels}
    (passage : Passage c m side before after act) :
    after.ending side = before.ending side ++ [m].filter (· ∈ Service.endingMoves side) := by
  cases passage <;>
    simp [ListenerPoint.ending, ListenerPoint.progress, Service.endingMoves]

/-- A listener does nothing for the other one. -/
theorem Passage.not_mem_endingMoves {c : DrainChannels} {m : Service.Move} {side other : Side}
    {before after : ListenerPoint} {act : DrainChannels → DrainChannels}
    (passage : Passage c m side before after act) (different : other ≠ side) :
    m ∉ Service.endingMoves other := by
  cases passage <;> simp [Service.endingMoves, different.symm]

/-- Whether the grace period was over before the drain. -/
def Waiting.isOverdue : Waiting → Bool
  | drained inTime => !inTime
  | stopped inTime => !inTime
  | returned inTime => !inTime
  | _ => false

namespace Service

variable {ω : Type} {answer : (c : Call) → ω → c.Answer × ω} {s s' : Service ω} {m : Move}
  {moves : List Move} {c : Controller} {w : ω}

/-! ## One move -/

theorem ending_of_transition (step : s.Transition answer m s') (side : Side) :
    (s'.point side).ending side =
      (s.point side).ending side ++ [m].filter (· ∈ endingMoves side) := by
  cases step with
  | @spawn other next =>
    change ((s.setPoint .looping other).point side).ending side = _
    rw [point_setPoint]
    split
    · next same =>
      rw [same, point_of_isNext next]
      simp [ListenerPoint.ending, ListenerPoint.progress, endingMoves]
    · simp [endingMoves]
  | @listener m other before after act passage here =>
    change ((s.setPoint after other).point side).ending side = _
    rw [point_setPoint]
    split
    · next same =>
      subst same
      rw [here, passage.ending]
    · next different =>
      simp [passage.not_mem_endingMoves different]
  | build | request | trigger | complete | expire | stop | leave =>
    cases side <;> simp [endingMoves, Service.point, carryOut]

theorem isOverdue_of_transition (step : s.Transition answer m s') :
    s'.waiting.isOverdue = true ↔ s.waiting.isOverdue = true ∨ m = .expire := by
  cases step with
  | spawn next => simp
  | listener passage here => cases passage <;> simp
  | request connected => simp [carryOut]
  | build | trigger built running | complete draining isOver | expire draining | stop drained
  | leave stopped => simp_all [Waiting.isOverdue]

/-- Only a listener that goes round its loop accepts connections. -/
theorem accepting_of_accept {side : Side} (step : s.Transition answer (.accept side) s') :
    s.point side = .accepting := by
  cases step with
  | listener passage here =>
    cases passage
    exact here

/-! ## Runs -/

/-- What a listener has done to end, it has done in its order. -/
theorem ending_of_run (run : (start c w).run answer moves = some s) (side : Side) :
    moves.filter (· ∈ endingMoves side) = (s.point side).ending side := by
  refine runMoves_induction
    (P := fun moves s => moves.filter (· ∈ endingMoves side) = (s.point side).ending side) ?_ ?_ run
  · cases side <;> rfl
  · intro before s s' m done step
    rw [List.filter_append, done, ending_of_transition (transition_of_step step)]

theorem isOverdue_of_run (run : (start c w).run answer moves = some s) :
    s.waiting.isOverdue = true ↔ .expire ∈ moves := by
  refine runMoves_induction
    (P := fun moves s => s.waiting.isOverdue = true ↔ .expire ∈ moves) ?_ ?_ run
  · simp [start, Waiting.isOverdue]
  · intro before s s' m overdue step
    rw [isOverdue_of_transition (transition_of_step step), overdue, List.mem_append,
      List.mem_singleton, eq_comm (a := m)]

theorem mem_iff_mem_ending (run : (start c w).run answer moves = some s) {side : Side}
    (ends : m ∈ endingMoves side) : m ∈ moves ↔ m ∈ (s.point side).ending side := by
  rw [← ending_of_run run side, List.mem_filter, decide_eq_true_iff]
  exact (and_iff_left ends).symm

theorem mem_of_ended (run : (start c w).run answer moves = some s) {side : Side}
    (ended : s.point side = .ended) (ends : m ∈ endingMoves side) : m ∈ moves := by
  rw [mem_iff_mem_ending run ends, ended]
  exact ends

/-- A listener that is over stays so, and accepts nothing any more. -/
theorem not_mem_accept {before after : List Move} {mid : Service ω}
    (first : (start c w).run answer before = some mid)
    (run : (start c w).run answer (before ++ after) = some s) {side : Side}
    (ended : mid.point side = .ended) : .accept side ∉ after := by
  intro late
  obtain ⟨between, later, rfl⟩ := List.append_of_mem late
  rw [← List.append_assoc] at run
  obtain ⟨last, next, led, step, -⟩ := runMoves_split.mp run
  have accepting := accepting_of_accept (transition_of_step step)
  have finish : .finish side ∈ endingMoves side := by simp [endingMoves]
  have finished : .finish side ∈ before ++ between :=
    List.mem_append_left _ (mem_of_ended first ended finish)
  rw [mem_iff_mem_ending led finish, accepting] at finished
  cases finished

/-- At a moment when both listeners are over, each has closed its socket and tried to remove its
path, and accepts nothing from then on. -/
theorem gone_of_ended {before after : List Move} {mid : Service ω}
    (first : (start c w).run answer before = some mid)
    (run : (start c w).run answer (before ++ after) = some s)
    (ended : ∀ side, mid.point side = .ended) (side : Side) :
    .close side ∈ before ∧ .clear side ∈ before ∧ .accept side ∉ after :=
  ⟨mem_of_ended first (ended side) (by simp [endingMoves]),
    mem_of_ended first (ended side) (by simp [endingMoves]),
    not_mem_accept first run (ended side)⟩

/-- In every order of the moves of all tasks: when the drain is over before the grace period, both
listeners have closed their sockets and tried to remove the paths, and accept nothing from then on.
So it is when the forwarding daemon is told to end, unless the grace period was over first. -/
theorem sockets_gone_before_stop (run : (start c w).run answer moves = some s) :
    (∀ before after, moves = before ++ .complete :: after → ∀ side,
        .close side ∈ before ∧ .clear side ∈ before ∧ .accept side ∉ after) ∧
      ∀ before after, moves = before ++ .stop :: after →
        (∀ side, .close side ∈ before ∧ .clear side ∈ before ∧ .accept side ∉ after) ∨
          .expire ∈ before := by
  constructor
  · rintro before after rfl side
    obtain ⟨mid, next, first, step, -⟩ := runMoves_split.mp run
    have ended (side : Side) : mid.point side = .ended := by
      have orderly := (orderly_of_run first).of_transition (transition_of_step step)
      cases transition_of_step step with
      | listener passage here => cases passage
      | complete draining isOver => exact orderly.ended rfl side
    obtain ⟨closed, cleared, unaccepted⟩ := gone_of_ended first run ended side
    exact ⟨closed, cleared, fun late => unaccepted (List.mem_cons_of_mem _ late)⟩
  · rintro before after rfl
    obtain ⟨mid, next, first, step, -⟩ := runMoves_split.mp run
    obtain ⟨inTime, drained⟩ : ∃ inTime, mid.waiting = .drained inTime := by
      cases transition_of_step step with
      | listener passage here => cases passage
      | stop drained => exact ⟨_, drained⟩
    cases inTime with
    | true =>
      refine Or.inl fun side => ?_
      have ended := (orderly_of_run first).ended (by rw [drained]; rfl)
      obtain ⟨closed, cleared, unaccepted⟩ := gone_of_ended first run ended side
      exact ⟨closed, cleared, fun late => unaccepted (List.mem_cons_of_mem _ late)⟩
    | false => exact Or.inr ((isOverdue_of_run first).mp (by rw [drained]; rfl))

/-- The lookup listener accepts a connection after the drain has started, in a round that began
before, while the control listener ends. -/
def intertwined : List Move :=
  [.spawn .control, .select .control, .spawn .lookup, .proceed .control, .accept .control, .build,
    .select .lookup, .proceed .lookup, .sleep .lookup, .select .control, .proceed .lookup,
    .request (.start []), .trigger, .notice .control, .accept .lookup, .close .control,
    .select .lookup, .clear .control, .notice .lookup, .release .control, .close .lookup,
    .finish .control, .clear .lookup, .release .lookup, .finish .lookup, .complete, .stop, .leave]

theorem sockets_gone_intertwined :
    ∃ s, (start {} ()).run Controller.willing intertwined = some s ∧
      ∀ before after, intertwined = before ++ .stop :: after →
        ∀ side, .close side ∈ before ∧ .clear side ∈ before ∧ .accept side ∉ after := by
  obtain ⟨s, run⟩ : ∃ s, (start {} ()).run Controller.willing intertwined = some s := ⟨_, rfl⟩
  refine ⟨s, run, fun before after split => ?_⟩
  have unexpired : .expire ∉ intertwined := by decide
  refine ((sockets_gone_before_stop run).2 before after split).resolve_right fun expired => ?_
  exact unexpired (split ▸ List.mem_append_left _ expired)

end Service

end NetControl.Daemon
