import NetControl.Daemon.Life

/-!
A running daemon, task by task. Whoever builds the daemon has a watcher of the drain, spawns a
listener on each socket with a copy of it, and drops its own. In each round of its loop a listener
makes another copy, which waits for the drain. The listener asks it first and its socket after that,
so that a round ends with a blocker, with a connection, or with an error of the socket, and in the
last two cases the copy is dropped. With a blocker the listener closes its socket, tries to remove
the path and drops the blocker; its own watcher goes with the task.

`Service.step` says which moves are possible and where they lead. Tasks run in any order, and one
task may stop between any two of its moves while the others go on.
-/

namespace NetControl.Daemon

open Lifecycle Tether

/-- Where the task of a listener stands. -/
inductive ListenerPoint where
  /-- Its socket is bound. -/
  | unspawned
  /-- Before a round of its loop. -/
  | looping
  /-- It is about to ask the watcher that waits for the drain. -/
  | selecting
  /-- That watcher has learnt nothing, and it is about to ask its socket. -/
  | accepting
  /-- Its socket has failed, and it lets some time pass. -/
  | pausing
  /-- It has a blocker; its socket is still open. -/
  | closing
  /-- Its socket is closed; its path was not touched. -/
  | closed
  /-- The removal of its path was attempted. -/
  | cleared
  /-- Its blocker is dropped. -/
  | released
  /-- It is over. -/
  | ended
deriving Repr, DecidableEq

/-- The state of a daemon whose requests reach the world `ω`. -/
structure Service (ω : Type) where
  controller : Controller
  world : ω
  control : ListenerPoint := .unspawned
  lookup : ListenerPoint := .unspawned
  /-- How many connections each listener has accepted. -/
  accepted : Side → Nat := fun _ => 0
  channels : DrainChannels := {}
  /-- Whether both listeners are spawned and the watcher of whoever spawned them is dropped. -/
  isBuilt : Bool := false
  waiting : Waiting := .running

namespace Service

variable {ω : Type}

def point (s : Service ω) : Side → ListenerPoint
  | .control => s.control
  | .lookup => s.lookup

/-- Moves the task of a listener to another point. -/
def setPoint (s : Service ω) (point : ListenerPoint) : Side → Service ω
  | .control => { s with control := point }
  | .lookup => { s with lookup := point }

/-- One step of one task. -/
inductive Move where
  /-- Spawns a listener. -/
  | spawn (side : Side)
  /-- The daemon is built. -/
  | build
  /-- A listener begins a round. -/
  | select (side : Side)
  /-- The watcher of a listener that waits for the drain has learnt of it. -/
  | notice (side : Side)
  /-- That watcher has nothing to learn yet. -/
  | proceed (side : Side)
  /-- Nobody connects: a listener waits for something to ask for. -/
  | sleep (side : Side)
  /-- A listener accepts a connection. -/
  | accept (side : Side)
  /-- A listener gets an error of its socket. -/
  | fail (side : Side)
  /-- A listener has let enough time pass. -/
  | resume (side : Side)
  /-- A listener closes its socket. -/
  | close (side : Side)
  /-- A listener tries to remove its path. -/
  | clear (side : Side)
  /-- A listener drops its blocker. -/
  | release (side : Side)
  /-- A listener ends. -/
  | finish (side : Side)
  /-- A request on a connection of the control socket reaches the controller. -/
  | request (operation : Controller.Operation)
  /-- The end is triggered. -/
  | trigger
  /-- The drain is over. -/
  | complete
  /-- The grace period is over. -/
  | expire
  /-- The forwarding daemon is told to end. -/
  | stop
  /-- The wait is over. -/
  | leave
deriving Repr, DecidableEq

/-- Follows a plan of the controller as one step. -/
def carryOut {α : Type} (answer : (c : Call) → ω → c.Answer × ω) (p : Plan Controller α)
    (s : Service ω) : Service ω :=
  let o := p.run answer s.controller s.world
  { s with controller := o.state, world := o.world }

/-- The state after the task of a listener has gone from one point to the next, with what it does to
the channels. -/
def advance (s : Service ω) (side : Side) (before after : ListenerPoint)
    (act : DrainChannels → DrainChannels) : Option (Service ω) :=
  if s.point side = before then some { s.setPoint after side with channels := act s.channels }
  else none

/-- Whether it is a listener's turn to be spawned. -/
def isNext (s : Service ω) : Side → Bool
  | .control => s.control = .unspawned
  | .lookup => s.control ≠ .unspawned ∧ s.lookup = .unspawned

/-- The state after a move, where the move is possible. -/
def step (answer : (c : Call) → ω → c.Answer × ω) (s : Service ω) : Move → Option (Service ω)
  | .spawn side =>
    if s.isNext side then
      some { s.setPoint .looping side with channels := s.channels.cloneWatcher }
    else none
  | .build =>
    if s.control ≠ .unspawned ∧ s.lookup ≠ .unspawned ∧ s.isBuilt = false then
      some { s with channels := s.channels.dropWatcher, isBuilt := true }
    else none
  | .select side => s.advance side .looping .selecting .cloneWatcher
  | .notice side =>
    match s.channels.mode? with
    | some _ => s.advance side .selecting .closing .toBlocker
    | none => none
  | .proceed side =>
    match s.channels.mode? with
    | some _ => none
    | none => s.advance side .selecting .accepting id
  | .sleep side => s.advance side .accepting .selecting id
  | .accept side =>
    (s.advance side .accepting .looping .dropWatcher).map fun s =>
      { s with accepted := fun s' => if s' = side then s.accepted s' + 1 else s.accepted s' }
  | .fail side => s.advance side .accepting .pausing .dropWatcher
  | .resume side => s.advance side .pausing .looping id
  | .close side => s.advance side .closing .closed id
  | .clear side => s.advance side .closed .cleared id
  | .release side => s.advance side .cleared .released .dropBlocker
  | .finish side => s.advance side .released .ended .dropWatcher
  | .request operation =>
    if 0 < s.accepted .control then some (s.carryOut answer operation.plan) else none
  | .trigger =>
    if s.isBuilt ∧ s.waiting = .running then
      some { s with waiting := .draining, channels := s.channels.start .graceful }
    else none
  | .complete =>
    if s.waiting = .draining ∧ s.channels.isOver then
      some { s with waiting := .drained true, channels := s.channels.dropTrigger }
    else none
  | .expire =>
    if s.waiting = .draining then
      some { s with waiting := .drained false, channels := s.channels.dropTrigger }
    else none
  | .stop =>
    match s.waiting with
    | .drained inTime =>
      some { s.carryOut answer Controller.stop with waiting := .stopped inTime }
    | _ => none
  | .leave =>
    match s.waiting with
    | .stopped inTime => some { s with waiting := .returned inTime }
    | _ => none

/-- The state after a list of moves, where each is possible. -/
def run (answer : (c : Call) → ω → c.Answer × ω) (s : Service ω) (moves : List Move) :
    Option (Service ω) :=
  runMoves (step answer) s moves

def start (controller : Controller) (world : ω) : Service ω :=
  { controller, world }

end Service

end NetControl.Daemon
