import NetControl.Proofs.Daemon.Steps
import NetControl.Proofs.Daemon.Tasks
import NetControl.Proofs.Lifecycle.Counting

/-!
# The life of a daemon, and its tasks

`Life` leaves out the rounds of the listeners' loops and how the daemon is built: there each
listener has from the beginning one task of the drain that waits. `Service.exists_life_run` says
that nothing is lost in this. What the tasks of a daemon do, with these moves left out, is a life of
the daemon that leads to the same controller, the same connections and the same stage of each
listener, so that whatever holds of every life holds of every order of the tasks.
-/

namespace NetControl.Daemon

open Lifecycle Tether

/-- The stage in the life of a daemon that a point belongs to. -/
def ListenerPoint.stage : ListenerPoint → ListenerStage
  | closing => .closing
  | closed => .closed
  | cleared => .cleared
  | released => .released
  | ended => .ended
  | _ => .accepting

/-- Whether the listener is not over. -/
def ListenerPoint.goesOn : ListenerPoint → Bool
  | ended => false
  | _ => true

/-- The task of the drain that stands for a listener. -/
def ListenerPoint.task : ListenerPoint → DrainTask
  | closing => .holding .graceful
  | closed => .holding .graceful
  | cleared => .holding .graceful
  | released => .released .graceful
  | ended => .released .graceful
  | _ => .waiting

/-- The trigger of the drain, which stays where it is when the grace period is over. -/
def Waiting.trigger : Waiting → DrainTrigger
  | running => .armed
  | draining => .draining .graceful
  | drained inTime => if inTime then .finished .graceful else .draining .graceful
  | stopped inTime => if inTime then .finished .graceful else .draining .graceful
  | returned inTime => if inTime then .finished .graceful else .draining .graceful

theorem set_of_getElem? {α : Type} {l : List α} {i : Nat} {a : α} (found : l[i]? = some a) :
    l.set i a = l := by
  obtain ⟨inside, rfl⟩ := List.getElem?_eq_some_iff.mp found
  exact List.set_getElem_self inside

namespace Service

/-- The move in the life of a daemon that a move of its tasks stands for. -/
def Move.inLife? : Move → Option Life.Move
  | notice side => some (.notice side)
  | accept side => some (.accept side)
  | close side => some (.close side)
  | clear side => some (.clear side)
  | release side => some (.release side)
  | finish side => some (.finish side)
  | request operation => some (.request operation)
  | trigger => some .trigger
  | complete => some .complete
  | expire => some .expire
  | stop => some .stop
  | leave => some .leave
  | _ => none

variable {ω : Type} {answer : (c : Call) → ω → c.Answer × ω} {s s' : Service ω} {l : Life ω}
  {m : Move} {moves : List Move}

/-- The watchers of the drain in the life of a daemon. -/
def lifeWatchers (s : Service ω) : List Bool :=
  [false, s.control.goesOn, s.lookup.goesOn, false, false]

/-- The tasks of the drain in the life of a daemon. -/
def lifeTasks (s : Service ω) : List DrainTask :=
  [s.control.task, s.lookup.task]

/-- The daemon is at the moment `l` of its life. -/
structure IsAt (s : Service ω) (l : Life ω) : Prop where
  controller : l.controller = s.controller
  world : l.world = s.world
  accepted : l.accepted = s.accepted
  waiting : l.waiting = s.waiting
  stages : ∀ side, l.stage side = (s.point side).stage
  counted : l.drain.Counted
  trigger : l.drain.trigger = s.waiting.trigger
  watchers : l.drain.watchers = s.lifeWatchers
  tasks : l.drain.tasks = s.lifeTasks

namespace IsAt

theorem start (c : Controller) (w : ω) : (Service.start c w).IsAt (Life.start c w) where
  controller := rfl
  world := rfl
  accepted := rfl
  waiting := rfl
  stages side := by cases side <;> rfl
  counted := by
    refine ⟨⟨rfl, rfl, rfl, fun _ => rfl⟩, ?_, nofun⟩
    simp [Life.start, DrainTask.mode?]
  trigger := rfl
  watchers := rfl
  tasks := rfl

theorem watcher (isAt : s.IsAt l) (side : Side) :
    l.drain.watchers[side.watcher]? = some (s.point side).goesOn := by
  rw [isAt.watchers]
  cases side <;> rfl

theorem task (isAt : s.IsAt l) (side : Side) :
    l.drain.tasks[side.task]? = some (s.point side).task := by
  rw [isAt.tasks]
  cases side <;> rfl

/-- A listener goes on, and its part in the drain with it. -/
theorem setPoint (isAt : s.IsAt l) {side : Side} {p : ListenerPoint} {d : Drain}
    {channels : DrainChannels} {accepted : Side → Nat} (same : accepted = s.accepted)
    (counted : d.Counted) (trigger : d.trigger = l.drain.trigger)
    (watchers : d.watchers = l.drain.watchers.set side.watcher p.goesOn)
    (tasks : d.tasks = l.drain.tasks.set side.task p.task) :
    IsAt { s.setPoint p side with channels, accepted }
      { l.setStage p.stage side with drain := d } := by
  obtain ⟨controller, world, counts, waiting, stages, -, armed, lists, drainTasks⟩ := isAt
  rw [lists] at watchers
  rw [drainTasks] at tasks
  rw [armed] at trigger
  have control := stages .control
  have lookup := stages .lookup
  subst same
  cases side with
  | control =>
    refine ⟨controller, world, counts, waiting, fun other => ?_, counted, trigger, watchers, tasks⟩
    cases other
    · rfl
    · exact lookup
  | lookup =>
    refine ⟨controller, world, counts, waiting, fun other => ?_, counted, trigger, watchers, tasks⟩
    cases other
    · exact control
    · rfl

/-- A listener that goes on alone, without a part in the drain. -/
theorem setPoint_alone (isAt : s.IsAt l) {side : Side} {p : ListenerPoint}
    {channels : DrainChannels} {accepted : Side → Nat} (same : accepted = s.accepted)
    (task : p.task = (s.point side).task) (goesOn : p.goesOn = (s.point side).goesOn) :
    IsAt { s.setPoint p side with channels, accepted } (l.setStage p.stage side) := by
  have watchers : l.drain.watchers = l.drain.watchers.set side.watcher p.goesOn :=
    (set_of_getElem? (goesOn ▸ isAt.watcher side)).symm
  have tasks : l.drain.tasks = l.drain.tasks.set side.task p.task :=
    (set_of_getElem? (task ▸ isAt.task side)).symm
  have next : IsAt { s.setPoint p side with channels, accepted }
      { l.setStage p.stage side with drain := l.drain } :=
    isAt.setPoint same isAt.counted rfl watchers tasks
  rw [← Life.setStage_drain p.stage side] at next
  exact next

/-- A listener goes on in its loop, which leaves no trace in the life of the daemon. -/
theorem goOn (isAt : s.IsAt l) {side : Side} {p : ListenerPoint} {channels : DrainChannels}
    {accepted : Side → Nat} (stage : p.stage = (s.point side).stage)
    (task : p.task = (s.point side).task) (goesOn : p.goesOn = (s.point side).goesOn) :
    IsAt { s.setPoint p side with channels, accepted } { l with accepted } := by
  have unmoved : l.setStage p.stage side = l := by
    rw [stage, ← isAt.stages side]
    cases side <;> rfl
  have next : IsAt { s.setPoint p side with channels, accepted := s.accepted } l := by
    rw [← unmoved]
    exact isAt.setPoint_alone rfl task goesOn
  exact ⟨next.controller, next.world, rfl, next.waiting, next.stages, next.counted, next.trigger,
    next.watchers, next.tasks⟩

end IsAt

/-- A watcher learns nothing before the signal. -/
theorem Orderly.signalled_of_learnt (orderly : s.Orderly) {side : Side} {mode : DrainMode}
    (here : s.point side = .selecting) (learnt : s.channels.mode? = some mode) :
    s.waiting ≠ .running := by
  intro running
  obtain ⟨w, b, watchers, -, -⟩ := s.exists_others side
  have account := orderly.account
  rw [watchers, here, running] at account
  cases learnt.symm.trans account.mode?_eq

/-- What a move of the tasks is in the life of the daemon. -/
def Follows (answer : (c : Call) → ω → c.Answer × ω) (l : Life ω) (m : Move) (s' : Service ω) :
    Prop :=
  match m.inLife? with
  | some m' => ∃ l', l.step answer m' = some l' ∧ s'.IsAt l'
  | none => s'.IsAt l

namespace IsAt

/-- After the signal, a task that waits in the life of the daemon learns of it. -/
theorem mode?_eq (isAt : s.IsAt l) (signalled : s.waiting ≠ .running) {i : Nat}
    (waiting : l.drain.tasks[i]? = some .waiting) : l.drain.channels.mode? = some .graceful := by
  rw [isAt.counted.mode?_of_waiting waiting, isAt.trigger]
  cases told : s.waiting with
  | running => exact (signalled told).elim
  | draining => rfl
  | drained inTime | stopped inTime | returned inTime => cases inTime <;> rfl

theorem listener (isAt : s.IsAt l) (orderly : s.Orderly) {side : Side}
    {before after : ListenerPoint} {act : DrainChannels → DrainChannels}
    (passage : Passage s.channels m side before after act) (here : s.point side = before) :
    Follows answer l m
      { s.setPoint after side with channels := act s.channels, accepted := s.acceptedAfter m } := by
  have stage := isAt.stages side
  have task := isAt.task side
  have watcher := isAt.watcher side
  have same (quiet : ∀ side, m ≠ .accept side) : s.acceptedAfter m = s.accepted :=
    acceptedAfter_of_ne quiet
  rw [here] at stage task watcher
  cases passage with
  | select | proceed | sleep | fail | resume =>
    rw [same (by simp), ← isAt.accepted]
    refine isAt.goOn ?_ ?_ ?_ <;> rw [here] <;> rfl
  | notice learnt =>
    have signalled := orderly.signalled_of_learnt here learnt
    have woken := Drain.Transition.wake task (isAt.mode?_eq signalled task)
    refine ⟨_, Life.step_of_transition (.notice stage (Drain.step_of_transition woken)), ?_⟩
    exact isAt.setPoint (same (by simp)) (isAt.counted.of_transition woken) rfl
      (set_of_getElem? watcher).symm rfl
  | accept =>
    refine ⟨_, Life.step_of_transition (.accept stage), ?_⟩
    rw [acceptedAfter_accept, ← isAt.accepted]
    refine isAt.goOn ?_ ?_ ?_ <;> rw [here] <;> rfl
  | close =>
    refine ⟨_, Life.step_of_transition (.close stage), ?_⟩
    exact isAt.setPoint_alone (same (by simp)) (by rw [here]; rfl) (by rw [here]; rfl)
  | clear =>
    refine ⟨_, Life.step_of_transition (.clear stage), ?_⟩
    exact isAt.setPoint_alone (same (by simp)) (by rw [here]; rfl) (by rw [here]; rfl)
  | release =>
    have released := Drain.Transition.release task
    refine ⟨_, Life.step_of_transition (.release stage (Drain.step_of_transition released)), ?_⟩
    exact isAt.setPoint (same (by simp)) (isAt.counted.of_transition released) rfl
      (set_of_getElem? watcher).symm rfl
  | finish =>
    have dropped := Drain.Transition.drop watcher
    refine ⟨_, Life.step_of_transition (.finish stage (Drain.step_of_transition dropped)), ?_⟩
    exact isAt.setPoint (same (by simp)) (isAt.counted.of_transition dropped) rfl rfl
      (set_of_getElem? task).symm

/-- A move of whoever waits for the end, which leaves the listeners where they are. -/
theorem waits (isAt : s.IsAt l) {v : Waiting} {d : Drain} {channels : DrainChannels}
    (counted : d.Counted) (trigger : d.trigger = v.trigger)
    (watchers : d.watchers = l.drain.watchers) (tasks : d.tasks = l.drain.tasks) :
    IsAt { s with waiting := v, channels } { l with waiting := v, drain := d } where
  controller := isAt.controller
  world := isAt.world
  accepted := isAt.accepted
  waiting := rfl
  stages := isAt.stages
  counted := counted
  trigger := trigger
  watchers := watchers.trans isAt.watchers
  tasks := tasks.trans isAt.tasks

theorem carryOut (isAt : s.IsAt l) {α : Type} (p : Plan Controller α) :
    (s.carryOut answer p).IsAt (l.carryOut answer p) := by
  obtain ⟨controller, world, accepted, waiting, stages, counted, trigger, watchers, tasks⟩ := isAt
  unfold Service.carryOut Life.carryOut
  rw [controller, world]
  exact ⟨rfl, rfl, accepted, waiting, stages, counted, trigger, watchers, tasks⟩

/-- Where both listeners are over, the drain is over in the life of the daemon. -/
theorem isOver (isAt : s.IsAt l) (ended : ∀ side, s.point side = .ended) :
    l.drain.channels.isOver = true := by
  have control : s.control = .ended := ended .control
  have lookup : s.lookup = .ended := ended .lookup
  have account := isAt.counted.account
  rw [isAt.watchers, isAt.tasks, lifeWatchers, lifeTasks, control, lookup] at account
  exact account.isOver_iff.mpr ⟨rfl, rfl⟩

/-- What a task does is a step in the life of the daemon, or nothing at all. -/
theorem follows (isAt : s.IsAt l) (orderly : s.Orderly) (step : s.Transition answer m s') :
    Follows answer l m s' := by
  cases step with
  | @spawn side next =>
    have spawned : IsAt { s.setPoint .looping side with
        channels := s.channels.cloneWatcher, accepted := s.accepted } l := by
      rw [← isAt.accepted]
      refine isAt.goOn ?_ ?_ ?_ <;> rw [point_of_isNext next] <;> rfl
    rw [← setPoint_accepted .looping side] at spawned
    exact spawned
  | build control lookup unbuilt =>
    exact ⟨isAt.controller, isAt.world, isAt.accepted, isAt.waiting, isAt.stages, isAt.counted,
      isAt.trigger, isAt.watchers, isAt.tasks⟩
  | listener passage here => exact isAt.listener orderly passage here
  | request connected =>
    rw [← isAt.accepted] at connected
    exact ⟨_, Life.step_of_transition (.request connected), isAt.carryOut _⟩
  | trigger built running =>
    have armed : l.drain.trigger = .armed := isAt.trigger.trans (congrArg Waiting.trigger running)
    have started : l.drain.Transition (.start .graceful) _ := .start armed
    refine ⟨_, Life.step_of_transition (.trigger (isAt.waiting.trans running)
      (Drain.step_of_transition started)), ?_⟩
    exact isAt.waits (isAt.counted.of_transition started) rfl rfl rfl
  | complete draining isOver =>
    have completed : s.Transition answer .complete _ := .complete draining isOver
    have ended : ∀ side, s.point side = .ended := (orderly.of_transition completed).ended rfl
    have told : l.drain.trigger = .draining .graceful :=
      isAt.trigger.trans (congrArg Waiting.trigger draining)
    have finished := Drain.Transition.finish told (isAt.isOver ended)
    refine ⟨_, Life.step_of_transition (.complete (isAt.waiting.trans draining)
      (Drain.step_of_transition finished)), ?_⟩
    exact isAt.waits (isAt.counted.of_transition finished) rfl rfl rfl
  | expire draining =>
    have told : l.drain.trigger = Waiting.trigger .draining :=
      isAt.trigger.trans (congrArg Waiting.trigger draining)
    refine ⟨_, Life.step_of_transition (.expire (isAt.waiting.trans draining)), ?_⟩
    exact isAt.waits isAt.counted told rfl rfl
  | @stop inTime drained =>
    have told : l.drain.trigger = Waiting.trigger (.drained inTime) :=
      isAt.trigger.trans (congrArg Waiting.trigger drained)
    refine ⟨_, Life.step_of_transition (.stop (isAt.waiting.trans drained)), ?_⟩
    exact (isAt.carryOut Controller.stop).waits isAt.counted told rfl rfl
  | @leave inTime stopped =>
    have told : l.drain.trigger = Waiting.trigger (.stopped inTime) :=
      isAt.trigger.trans (congrArg Waiting.trigger stopped)
    refine ⟨_, Life.step_of_transition (.leave (isAt.waiting.trans stopped)), ?_⟩
    exact isAt.waits isAt.counted told rfl rfl

end IsAt

/-- Whatever the tasks of a daemon do, in whatever order, is a life of the daemon. -/
theorem exists_life_run {c : Controller} {w : ω}
    (run : (start c w).run answer moves = some s) :
    ∃ l, (Life.start c w).run answer (moves.filterMap Move.inLife?) = some l ∧ s.IsAt l := by
  have led : s.Orderly ∧
      ∃ l, (Life.start c w).run answer (moves.filterMap Move.inLife?) = some l ∧ s.IsAt l := by
    refine runMoves_induction (P := fun moves s => s.Orderly ∧
      ∃ l, (Life.start c w).run answer (moves.filterMap Move.inLife?) = some l ∧ s.IsAt l)
      ⟨.start c w, _, rfl, .start c w⟩ ?_ run
    rintro before s s' m ⟨orderly, l, led, isAt⟩ step
    have moved := transition_of_step step
    have follows := isAt.follows orderly moved
    refine ⟨orderly.of_transition moved, ?_⟩
    unfold Follows at follows
    cases found : m.inLife? with
    | none =>
      rw [found] at follows
      refine ⟨l, ?_, follows⟩
      rw [List.filterMap_append, List.filterMap_cons_none found, List.filterMap_nil,
        List.append_nil]
      exact led
    | some m' =>
      rw [found] at follows
      obtain ⟨l', stepped, isAt'⟩ := follows
      refine ⟨l', ?_, isAt'⟩
      rw [List.filterMap_append, List.filterMap_cons_some found, List.filterMap_nil]
      exact runMoves_split.mpr ⟨l, l', led, stepped, rfl⟩
  exact led.2

end Service

end NetControl.Daemon
