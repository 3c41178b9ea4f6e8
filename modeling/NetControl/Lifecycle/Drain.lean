import NetControl.Lifecycle.Channel
import NetControl.Lifecycle.Moves

/-!
Draining. Every part of the daemon that takes part in a drain holds a watcher. A watcher may be
turned into a task that waits for the drain; once the drain is signalled the task holds a blocker,
which it releases when its part is done. Whoever starts the drain waits until no watcher, no
waiting task and no blocker is left.

Nobody keeps a list of these. The signal goes over one channel, and the other one, over which no
message can ever be sent, ends when the last of them has dropped its sender.
-/

namespace NetControl.Lifecycle

/-- How parts should stop. -/
inductive DrainMode where
  | immediate
  | graceful
deriving Repr, DecidableEq

/-- The two channels of a drain. A watcher has a receiver of the signal and a sender of the
releases; a blocker has the sender alone. -/
structure DrainChannels where
  signal : Watch (Option DrainMode) := { value := none }
  /-- A channel for messages of which there are none. -/
  releases : Queue Empty := {}
deriving Repr, DecidableEq

namespace DrainChannels

/-- Copies a watcher. -/
def cloneWatcher (c : DrainChannels) : DrainChannels :=
  ⟨c.signal.addReceiver, c.releases.addSender⟩

/-- Drops a watcher, idle or waiting. -/
def dropWatcher (c : DrainChannels) : DrainChannels :=
  ⟨c.signal.dropReceiver, c.releases.dropSender⟩

/-- The mode that a watcher learns which waits for the drain, once there is something to learn. A
trigger that has gone without a signal stands for an immediate drain. -/
def mode? (c : DrainChannels) : Option DrainMode :=
  match c.signal.waitFor Option.isSome with
  | .value mode => some (mode.getD .immediate)
  | .ended => some .immediate
  | .nothing => none

/-- Makes a blocker of a watcher. -/
def toBlocker (c : DrainChannels) : DrainChannels :=
  { c with signal := c.signal.dropReceiver }

def dropBlocker (c : DrainChannels) : DrainChannels :=
  { c with releases := c.releases.dropSender }

/-- Sends the signal. -/
def start (mode : DrainMode) (c : DrainChannels) : DrainChannels :=
  { c with signal := c.signal.send (some mode) }

/-- Whether the one who started the drain learns that it is over. -/
def isOver (c : DrainChannels) : Bool :=
  match c.releases.receive with
  | .value never => nomatch never
  | .ended => true
  | .nothing => false

/-- Drops the trigger. -/
def dropTrigger (c : DrainChannels) : DrainChannels :=
  { c with signal := c.signal.dropSender }

end DrainChannels

/-- A task made of a watcher. -/
inductive DrainTask where
  /-- It waits for the drain. -/
  | waiting
  /-- It holds a blocker with this mode. -/
  | holding (mode : DrainMode)
  /-- It has released its blocker, which had this mode. -/
  | released (mode : DrainMode)
deriving Repr, DecidableEq

def DrainTask.mode? : DrainTask → Option DrainMode
  | waiting => none
  | holding mode => some mode
  | released mode => some mode

/-- Whoever may start the drain. -/
inductive DrainTrigger where
  /-- Has not started it. -/
  | armed
  /-- Has started it and waits. -/
  | draining (mode : DrainMode)
  /-- Has started it and waits no more. -/
  | finished (mode : DrainMode)
  /-- Has gone without starting it. -/
  | gone
deriving Repr, DecidableEq

/-- The state of a drain. -/
structure Drain where
  trigger : DrainTrigger := .armed
  /-- Whether each watcher ever made is still idle. -/
  watchers : List Bool := [true]
  /-- The tasks made of watchers, in order. -/
  tasks : List DrainTask := []
  channels : DrainChannels := {}
deriving Repr, DecidableEq

namespace Drain

/-- One step of a drain. -/
inductive Move where
  /-- Copies an idle watcher. -/
  | clone (watcher : Nat)
  /-- Drops an idle watcher. -/
  | drop (watcher : Nat)
  /-- Turns an idle watcher into a waiting task. -/
  | watch (watcher : Nat)
  /-- A waiting task gets its blocker. -/
  | wake (task : Nat)
  /-- A task releases its blocker. -/
  | release (task : Nat)
  /-- Starts the drain. -/
  | start (mode : DrainMode)
  /-- The drain is over for whoever started it. -/
  | finish
  /-- The trigger goes without starting the drain. -/
  | dropTrigger
deriving Repr, DecidableEq

/-- The state after a move, where the move is possible. -/
def step (d : Drain) : Move → Option Drain
  | .clone i =>
    if d.watchers[i]? = some true then
      some { d with watchers := d.watchers ++ [true], channels := d.channels.cloneWatcher }
    else none
  | .drop i =>
    if d.watchers[i]? = some true then
      some { d with watchers := d.watchers.set i false, channels := d.channels.dropWatcher }
    else none
  | .watch i =>
    if d.watchers[i]? = some true then
      some { d with watchers := d.watchers.set i false, tasks := d.tasks ++ [.waiting] }
    else none
  | .wake i =>
    match d.tasks[i]?, d.channels.mode? with
    | some .waiting, some mode =>
      some { d with tasks := d.tasks.set i (.holding mode), channels := d.channels.toBlocker }
    | _, _ => none
  | .release i =>
    match d.tasks[i]? with
    | some (.holding mode) =>
      some { d with tasks := d.tasks.set i (.released mode), channels := d.channels.dropBlocker }
    | _ => none
  | .start mode =>
    match d.trigger with
    | .armed => some { d with trigger := .draining mode, channels := d.channels.start mode }
    | _ => none
  | .finish =>
    match d.trigger with
    | .draining mode =>
      if d.channels.isOver then
        some { d with trigger := .finished mode, channels := d.channels.dropTrigger }
      else none
    | _ => none
  | .dropTrigger =>
    match d.trigger with
    | .armed => some { d with trigger := .gone, channels := d.channels.dropTrigger }
    | _ => none

/-- The moves that happen without anybody asking for them. -/
def ownMoves (d : Drain) : List Move :=
  (List.range d.tasks.length).map .wake ++ [.finish]

/-- Lets everything happen that happens without anybody asking for it. -/
def settle (d : Drain) : Drain :=
  Lifecycle.settle step ownMoves (d.tasks.length + 1) d

/-- Whether the one who started the drain still waits; nothing before the start. -/
def isFinished? (d : Drain) : Option Bool :=
  match d.trigger with
  | .draining _ => some false
  | .finished _ => some true
  | _ => none

/-- The trigger in diagnostic output. -/
def describeTrigger : String := "DrainTrigger \x7b .. \x7d"

/-- A watcher in diagnostic output. -/
def describeWatcher : String := "DrainWatcher \x7b .. \x7d"

end Drain

end NetControl.Lifecycle
