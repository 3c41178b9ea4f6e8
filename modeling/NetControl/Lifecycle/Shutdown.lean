import NetControl.Lifecycle.Channel
import NetControl.Lifecycle.Moves

/-!
The shutdown trigger. One owner waits for the first trigger or for a signal of the system; any
number of triggers may be pulled before or after. A pulled trigger is handed over through a channel with
room for one message: the first pull finds it empty, and later ones wait, in the order in which they
were made, until there is room again or the owner has gone.

The owner has a sender of the channel as well. While it is there the channel cannot end, whatever
becomes of the triggers.
-/

namespace NetControl.Lifecycle

/-- The one who waits for a trigger. -/
inductive ShutdownOwner where
  /-- Does not wait yet. -/
  | idle
  /-- Waits. -/
  | waiting
  /-- Waits no more, and has not let go of the channel yet. -/
  | leaving
  /-- Has waited and is gone. -/
  | returned
  /-- Has gone without waiting. -/
  | dropped
deriving Repr, DecidableEq

/-- The state of the shutdown trigger. There is one trigger at first. -/
structure Shutdown where
  owner : ShutdownOwner := .idle
  /-- How many triggers there are. -/
  triggers : Nat := 1
  /-- The channel from the triggers to the owner. -/
  channel : BoundedQueue Unit := { room := 1, senders := 2 }
  /-- For each pull, in order, whether it is over. -/
  pulls : List Bool := []
deriving Repr, DecidableEq

namespace Shutdown

/-- An owner from whom no trigger was taken yet. -/
def new : Shutdown :=
  { triggers := 0, channel := { room := 1 } }

/-- Whether nobody will look into the channel any more. -/
def isGone (s : Shutdown) : Bool :=
  s.owner = .returned || s.owner = .dropped

/-- One step of the shutdown trigger. -/
inductive Move where
  /-- The owner begins to wait. -/
  | wait
  /-- The owner goes without waiting. -/
  | drop
  /-- A trigger is taken from the owner that does not wait yet, or copied from another trigger. -/
  | addTrigger
  /-- A trigger that is not pulled at the moment goes. -/
  | dropTrigger
  /-- A trigger is pulled. -/
  | pull
  /-- A pull finds room in the channel, or nobody to wait for. -/
  | deliver (pull : Nat)
  /-- The waiting owner finds a trigger in the channel, or the end of the channel. -/
  | receive
  /-- The waiting owner gets a signal of the system. -/
  | signal
  /-- The owner that waits no more lets go of the channel. -/
  | leave
deriving Repr, DecidableEq

/-- The channel when the owner has let go of both its ends. -/
def release (c : BoundedQueue Unit) : BoundedQueue Unit :=
  c.dropSender.dropReceiver

/-- The state after a move, where the move is possible. -/
def step (s : Shutdown) : Move → Option Shutdown
  | .wait => if s.owner = .idle then some { s with owner := .waiting } else none
  | .drop =>
    if s.owner = .idle then some { s with owner := .dropped, channel := release s.channel }
    else none
  | .addTrigger =>
    if s.owner = .idle ∨ 0 < s.triggers then
      some { s with triggers := s.triggers + 1, channel := s.channel.addSender }
    else none
  | .dropTrigger =>
    if 1 < s.triggers ∨ (s.triggers = 1 ∧ s.pulls.all id) then
      some { s with triggers := s.triggers - 1, channel := s.channel.dropSender }
    else none
  | .pull => if 0 < s.triggers then some { s with pulls := s.pulls ++ [false] } else none
  | .deliver i =>
    -- Whoever waits for room gets it in turn. Nobody waits for one who has gone.
    if s.pulls[i]? = some false ∧ (s.channel.hasReceiver = false ∨ (s.pulls.take i).all id) then
      (s.channel.send ()).map fun channel => { s with channel, pulls := s.pulls.set i true }
    else none
  | .receive =>
    if s.owner = .waiting then
      match s.channel.receive with
      | .value _ => some { s with owner := .leaving, channel := s.channel.takeFirst }
      | .ended => some { s with owner := .leaving }
      | .nothing => none
    else none
  | .signal => if s.owner = .waiting then some { s with owner := .leaving } else none
  | .leave =>
    if s.owner = .leaving then some { s with owner := .returned, channel := release s.channel }
    else none

/-- The moves that happen without anybody asking for them; earlier pulls are served first. -/
def ownMoves (s : Shutdown) : List Move :=
  [.receive, .leave] ++ (List.range s.pulls.length).map .deliver

/-- Lets everything happen that happens without anybody asking for it. -/
def settle (s : Shutdown) : Shutdown :=
  Lifecycle.settle step ownMoves (s.pulls.length + 2) s

/-- Whether the owner has waited to the end; nothing before it waits. -/
def hasWaited? (s : Shutdown) : Option Bool :=
  match s.owner with
  | .waiting => some false
  | .leaving => some false
  | .returned => some true
  | _ => none

end Shutdown

end NetControl.Lifecycle
