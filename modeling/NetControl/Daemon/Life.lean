import NetControl.Control.Request
import NetControl.Lifecycle.Drain

/-!
The life of a running daemon, from the start of its listeners to the end.

Each listener accepts connections until it learns of the drain. Then it closes its socket, tries to
remove the path, releases what held the drain open, and ends. Meanwhile the daemon waits: for a
trigger, then for the end of the drain or of the grace period, whichever comes first. It ends the
forwarding daemon and returns. Requests on connections of the control socket go on throughout, one
call of the controller at a time.

`Life.step` says which moves are possible and where they lead; their order is left open.
-/

namespace NetControl.Daemon

open Lifecycle Tether

/-- The two sockets. -/
inductive Side where
  | control
  | lookup
deriving Repr, DecidableEq

namespace Side

/-- Which watcher of the drain the listener holds. -/
def watcher : Side → Nat
  | control => 1
  | lookup => 2

/-- Which task of the drain waits for the listener. -/
def task : Side → Nat
  | control => 0
  | lookup => 1

end Side

/-- Where a listener stands. -/
inductive ListenerStage where
  /-- It accepts connections. -/
  | accepting
  /-- It has learnt of the drain; its socket is still open. -/
  | closing
  /-- Its socket is closed; its path was not touched. -/
  | closed
  /-- The removal of its path was attempted. -/
  | cleared
  /-- It holds the drain open only by its watcher. -/
  | released
  /-- It is over. -/
  | ended
deriving Repr, DecidableEq

/-- Whether the socket is closed and the removal of its path was attempted. -/
def ListenerStage.isCleared : ListenerStage → Bool
  | accepting => false
  | closing => false
  | closed => false
  | cleared => true
  | released => true
  | ended => true

/-- Where the wait for the end stands. -/
inductive Waiting where
  /-- Nothing has triggered the end. -/
  | running
  /-- The drain has started. -/
  | draining
  /-- The drain is over, or the grace period was over before it. -/
  | drained (inTime : Bool)
  /-- The forwarding daemon was told to end. -/
  | stopped (inTime : Bool)
  /-- The wait is over. -/
  | returned (inTime : Bool)
deriving Repr, DecidableEq

namespace Waiting

/-- Whether the drain was over before the grace period. -/
def isDrainedInTime : Waiting → Bool
  | drained inTime => inTime
  | stopped inTime => inTime
  | returned inTime => inTime
  | _ => false

/-- Whether the wait is over. -/
def isOver : Waiting → Bool
  | returned _ => true
  | _ => false

end Waiting

/-- The state of a daemon whose requests reach the world `ω`. -/
structure Life (ω : Type) where
  controller : Controller
  world : ω
  control : ListenerStage := .accepting
  lookup : ListenerStage := .accepting
  /-- How many connections each listener has accepted. -/
  accepted : Side → Nat := fun _ => 0
  /-- The drain, in which each listener holds a watcher and has a task that waits. -/
  drain : Drain :=
    { watchers := [false, true, true, false, false], tasks := [.waiting, .waiting],
      channels := ⟨{ value := none, receivers := 4 }, { senders := 4 }⟩ }
  waiting : Waiting := .running

namespace Life

variable {ω : Type}

def stage (l : Life ω) : Side → ListenerStage
  | .control => l.control
  | .lookup => l.lookup

/-- Moves the listener of a side to another stage. -/
def setStage (l : Life ω) (stage : ListenerStage) : Side → Life ω
  | .control => { l with control := stage }
  | .lookup => { l with lookup := stage }

/-- One step in the life of a daemon. -/
inductive Move where
  /-- A listener accepts a connection. -/
  | accept (side : Side)
  /-- A listener learns of the drain. -/
  | notice (side : Side)
  /-- A listener closes its socket. -/
  | close (side : Side)
  /-- A listener tries to remove its path. -/
  | clear (side : Side)
  /-- A listener releases what held the drain open. -/
  | release (side : Side)
  /-- A listener ends. -/
  | finish (side : Side)
  /-- A request on a connection of the control socket reaches the controller. -/
  | request (operation : Controller.Operation)
  /-- The end is triggered. -/
  | trigger
  /-- The drain is over. -/
  | complete
  /-- The grace period is over. -/
  | expire
  /-- The forwarding daemon is told to end. -/
  | stop
  /-- The wait is over. -/
  | leave
deriving Repr, DecidableEq

/-- Follows a plan of the controller as one step. -/
def carryOut {α : Type} (answer : (c : Call) → ω → c.Answer × ω) (p : Plan Controller α)
    (l : Life ω) : Life ω :=
  let o := p.run answer l.controller l.world
  { l with controller := o.state, world := o.world }

/-- The life after a listener has gone from one stage to the next. -/
def advance (l : Life ω) (side : Side) (before after : ListenerStage) : Option (Life ω) :=
  if l.stage side = before then some (l.setStage after side) else none

/-- The life after a step of the drain. -/
def onDrain (m : Drain.Move) (l : Life ω) : Option (Life ω) :=
  (l.drain.step m).map fun drain => { l with drain }

/-- The state after a move, where the move is possible. -/
def step (answer : (c : Call) → ω → c.Answer × ω) (l : Life ω) : Move → Option (Life ω)
  | .accept side =>
    if l.stage side = .accepting then
      some { l with accepted := fun s => if s = side then l.accepted s + 1 else l.accepted s }
    else none
  | .notice side => (l.advance side .accepting .closing).bind (onDrain (.wake side.task))
  | .close side => l.advance side .closing .closed
  | .clear side => l.advance side .closed .cleared
  | .release side => (l.advance side .cleared .released).bind (onDrain (.release side.task))
  | .finish side => (l.advance side .released .ended).bind (onDrain (.drop side.watcher))
  | .request operation =>
    if 0 < l.accepted .control then some (l.carryOut answer operation.plan) else none
  | .trigger =>
    if l.waiting = .running then
      { l with waiting := .draining }.onDrain (.start .graceful)
    else none
  | .complete =>
    if l.waiting = .draining then { l with waiting := .drained true }.onDrain .finish else none
  | .expire => if l.waiting = .draining then some { l with waiting := .drained false } else none
  | .stop =>
    match l.waiting with
    | .drained inTime =>
      some { l.carryOut answer Controller.stop with waiting := .stopped inTime }
    | _ => none
  | .leave =>
    match l.waiting with
    | .stopped inTime => some { l with waiting := .returned inTime }
    | _ => none

/-- The state after a list of moves, where each is possible. -/
def run (answer : (c : Call) → ω → c.Answer × ω) (l : Life ω) (moves : List Move) :
    Option (Life ω) :=
  runMoves (step answer) l moves

def start (controller : Controller) (world : ω) : Life ω :=
  { controller, world }

end Life

end NetControl.Daemon
