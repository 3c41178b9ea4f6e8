import NetControl.Proofs.Daemon.Steps
import NetControl.Proofs.Tether.Lifetime

/-!
# The forwarding daemon after the end

The wait for the end tells the forwarding daemon to end once, and then returns. Connections that the
control socket accepted before go on, and nothing keeps their requests from the controller: a
request to start the forwarding daemon that comes after that one stop starts it again, and nobody is
left to stop it.

`Life.daemon_after_shutdown` says for every life of a daemon which requests leave a forwarding
daemon behind, and `Life.daemon_outlives_shutdown` is a life in which one is left, although nothing
fails in it.
-/

namespace NetControl.Daemon

open Lifecycle Tether

/-- Whether the forwarding daemon was told to end. -/
def Waiting.hasStopped : Waiting → Bool
  | .stopped _ => true
  | .returned _ => true
  | _ => false

namespace Life

variable {ω : Type} {answer : (c : Call) → ω → c.Answer × ω} {l l' : Life ω} {m : Move}
  {moves : List Move}

/-- Whether the move tells the forwarding daemon to end. -/
def Move.endsDaemon : Move → Bool
  | .stop => true
  | .request op => op = .stop
  | _ => false

/-- The move is a request that starts a forwarding daemon. -/
def Launches (answer : (c : Call) → ω → c.Answer × ω) (l : Life ω) (m : Move) : Prop :=
  ∃ ranges, m = .request (.start ranges) ∧
    ((Controller.start ranges).run answer l.controller l.world).value = .ok ()

/-! ## One move -/

/-- Only requests start a forwarding daemon. -/
theorem not_launches (other : ∀ op, m ≠ .request op) : ¬l.Launches answer m := by
  rintro ⟨ranges, request, -⟩
  exact other _ request

theorem daemon_of_request {op : Controller.Operation} :
    (l.carryOut answer op.plan).controller.daemon.isSome ↔
      op ≠ .stop ∧ (l.controller.daemon.isSome ∨ l.Launches answer (.request op)) := by
  have step := Controller.transition_of_follows
    (Plan.follows_run answer op.plan l.controller l.world)
  refine (Controller.daemon_of_transition step).trans (and_congr_right fun _ => or_congr_right ?_)
  constructor
  · rintro ⟨⟨ranges, rfl⟩, launched⟩
    exact ⟨ranges, rfl, launched⟩
  · rintro ⟨ranges, same, launched⟩
    cases same
    exact ⟨⟨ranges, rfl⟩, launched⟩

/-- A forwarding daemon runs after a move if the move did not end it, and it ran before or the move
started it. -/
theorem daemon_of_transition (step : l.Transition answer m l') :
    l'.controller.daemon.isSome ↔
      m.endsDaemon = false ∧ (l.controller.daemon.isSome ∨ l.Launches answer m) := by
  cases step with
  | @request op connected =>
    rw [daemon_of_request]
    exact and_congr_left' (by simp [Move.endsDaemon])
  | stop drained =>
    have gone : ¬(l.carryOut answer Controller.stop).controller.daemon.isSome :=
      fun left => (daemon_of_request.mp left).1 rfl
    exact ⟨fun left => (gone left).elim, fun possible => nomatch possible.1⟩
  | accept | notice | close | clear | release | finish | trigger | complete | expire | leave =>
    simp [Move.endsDaemon, not_launches]

/-- The forwarding daemon is told to end in one move only, and that move comes once. -/
theorem hasStopped_of_transition (step : l.Transition answer m l') :
    (l'.waiting.hasStopped ↔ l.waiting.hasStopped ∨ m = .stop) ∧
      (l.waiting.hasStopped → m ≠ .stop) := by
  cases step with
  | request connected => simp [carryOut]
  | stop drained => simp [Waiting.hasStopped, drained]
  | accept | notice | close | clear | release | finish => simp
  | trigger running started => simp [Waiting.hasStopped, running]
  | complete draining finished => simp [Waiting.hasStopped, draining]
  | expire draining => simp [Waiting.hasStopped, draining]
  | leave stopped => simp [Waiting.hasStopped, stopped]

/-! ## Runs -/

/-- A forwarding daemon runs at the end if no move has ended the one from the beginning, or no move
has ended the last one that was started. -/
theorem daemon_of_run (run : l.run answer moves = some l') :
    l'.controller.daemon.isSome ↔
      (l.controller.daemon.isSome ∧ ∀ m ∈ moves, m.endsDaemon = false) ∨
        ∃ before m after mid, moves = before ++ m :: after ∧ l.run answer before = some mid ∧
          mid.Launches answer m ∧ ∀ m ∈ after, m.endsDaemon = false := by
  induction moves generalizing l with
  | nil =>
    cases run_nil.mp run
    simp
  | cons m rest ih =>
    obtain ⟨next, moved, step, run⟩ := run_cons.mp run
    rw [ih run, daemon_of_transition moved, List.forall_mem_cons]
    -- If the first move is the start, the rest of the run begins with a daemon that runs.
    constructor
    · rintro (⟨⟨kept, daemon | launched⟩, quiet⟩ | ⟨before, m', after, mid, rfl, led, found⟩)
      · exact Or.inl ⟨daemon, kept, quiet⟩
      · exact Or.inr ⟨[], m, rest, l, rfl, run_nil.mpr rfl, launched, quiet⟩
      · exact Or.inr ⟨m :: before, m', after, mid, rfl,
          run_cons.mpr ⟨next, moved, step, led⟩, found⟩
    · rintro (⟨daemon, kept, quiet⟩ | ⟨before, m', after, mid, split, led, launched, quiet⟩)
      · exact Or.inl ⟨⟨kept, Or.inl daemon⟩, quiet⟩
      · cases before with
        | nil =>
          cases split
          cases run_nil.mp led
          obtain ⟨ranges, rfl, value⟩ := launched
          exact Or.inl ⟨⟨rfl, Or.inr ⟨ranges, rfl, value⟩⟩, quiet⟩
        | cons first before =>
          cases split
          obtain ⟨next', -, step', led⟩ := run_cons.mp led
          cases Option.some.inj (step.symm.trans step')
          exact Or.inr ⟨before, m', after, mid, rfl, led, launched, quiet⟩

theorem hasStopped_of_run (run : l.run answer moves = some l') :
    (l'.waiting.hasStopped ↔ l.waiting.hasStopped ∨ .stop ∈ moves) ∧
      (l.waiting.hasStopped → .stop ∉ moves) := by
  induction moves generalizing l with
  | nil =>
    cases run_nil.mp run
    simp
  | cons m rest ih =>
    obtain ⟨next, moved, -, run⟩ := run_cons.mp run
    obtain ⟨now, once⟩ := hasStopped_of_transition moved
    obtain ⟨later, onceLater⟩ := ih run
    rw [List.mem_cons]
    refine ⟨?_, fun stopped => ?_⟩
    · rw [later, now, or_assoc, @eq_comm _ m]
    · rintro (here | there)
      · exact once stopped here.symm
      · exact onceLater (now.mpr (Or.inl stopped)) there

/-- When the wait is over, the forwarding daemon was told to end. -/
theorem hasStopped_of_isOver {w : Waiting} (returned : w.isOver = true) : w.hasStopped = true := by
  cases w with
  | returned inTime => rfl
  | _ => cases returned

/-! ## The end -/

/-- A life of a daemon whose wait for the end is over, in that state and in every later one: a
forwarding daemon runs just if some request started one after the wait had told the forwarding
daemon to end, and no request after that has ended it. -/
theorem daemon_after_shutdown {c : Controller} {w : ω}
    (run : (Life.start c w).run answer moves = some l) (returned : l.waiting.isOver = true) :
    l.controller.daemon.isSome ↔
      ∃ before m after mid, moves = before ++ m :: after ∧
        (Life.start c w).run answer before = some mid ∧ mid.waiting.hasStopped = true ∧
          mid.Launches answer m ∧ .request .stop ∉ after := by
  have stopping : .stop ∈ moves := by
    have stopped := (hasStopped_of_run run).1.mp (hasStopped_of_isOver returned)
    exact stopped.resolve_left Bool.false_ne_true
  rw [daemon_of_run run]
  constructor
  · rintro (⟨-, quiet⟩ | ⟨before, m, after, mid, rfl, led, launched, quiet⟩)
    · exact nomatch quiet _ stopping
    · refine ⟨before, m, after, mid, rfl, led, ?_, launched, fun late => nomatch quiet _ late⟩
      -- The stop is no start and comes not after the start, so it comes before.
      obtain ⟨ranges, rfl, -⟩ := launched
      rcases List.mem_append.mp stopping with early | late
      · exact (hasStopped_of_run led).1.mpr (Or.inr early)
      · rcases List.mem_cons.mp late with same | late
        · cases same
        · exact nomatch quiet _ late
  · rintro ⟨before, m, after, mid, rfl, led, stopped, launched, unstopped⟩
    refine Or.inr ⟨before, m, after, mid, rfl, led, launched, fun late inside => ?_⟩
    have rest : mid.run answer (m :: after) = some l := by
      obtain ⟨mid', led', rest⟩ := run_append.mp run
      cases Option.some.inj (led.symm.trans led')
      exact rest
    have single := (hasStopped_of_run rest).2 stopped
    cases late with
    | stop => exact (single (List.mem_cons_of_mem _ inside)).elim
    | request op =>
      refine decide_eq_false fun stop => ?_
      subst stop
      exact unstopped inside
    | _ => rfl

/-- The grace period is over first, and a request comes between the stop and the return. -/
theorem daemon_after_impatient_shutdown :
    ∃ l, (Life.start {} ()).run Controller.willing
        [.accept .control, .trigger, .expire, .stop, .request (.start []), .leave,
          .request (.tether "wlan0")] = some l ∧
      l.waiting.isOver = true ∧ l.controller.daemon.isSome := by
  obtain ⟨mid, led, stopped, launched⟩ : ∃ mid, (Life.start {} ()).run Controller.willing
      [.accept .control, .trigger, .expire, .stop] = some mid ∧ mid.waiting.hasStopped = true ∧
        mid.Launches Controller.willing (.request (.start [])) :=
    ⟨_, rfl, rfl, [], rfl, rfl⟩
  obtain ⟨l, run, returned⟩ : ∃ l, (Life.start {} ()).run Controller.willing
      [.accept .control, .trigger, .expire, .stop, .request (.start []), .leave,
        .request (.tether "wlan0")] = some l ∧ l.waiting.isOver = true :=
    ⟨_, rfl, rfl⟩
  have unstopped : Move.request .stop ∉ [.leave, .request (.tether "wlan0")] := by decide
  exact ⟨l, run, returned, (daemon_after_shutdown run returned).mpr
    ⟨_, _, _, mid, rfl, led, stopped, launched, unstopped⟩⟩

/-- Nothing fails, and both listeners end before the grace period is over. A request on a connection
that was accepted before the drain comes after the stop, and the wait returns with a forwarding
daemon running. -/
theorem daemon_outlives_shutdown :
    ∃ l, (Life.start {} ()).run Controller.willing
        [.accept .control, .request (.start []), .trigger,
          .notice .control, .close .control, .clear .control, .release .control, .finish .control,
          .notice .lookup, .close .lookup, .clear .lookup, .release .lookup, .finish .lookup,
          .complete, .stop, .request (.start []), .leave] = some l ∧
      l.waiting = .returned true ∧ l.controller.daemon = some 1 :=
  ⟨_, rfl, rfl, rfl⟩

end Life

end NetControl.Daemon
