/-!
Channels between tasks. A watch channel holds the last value sent, and every receiver may look at
it; a queue hands each message to its one receiver, and a bounded queue makes whoever sends wait for
room. Either end of a channel can go, and the other end can learn that.
-/

namespace NetControl.Lifecycle

/-- What a task learns from a channel. -/
inductive Learnt (α : Type) where
  | value (a : α)
  /-- The other end has gone, and no value will come. -/
  | ended
  /-- There is nothing to learn yet: the task waits. -/
  | nothing
deriving Repr, DecidableEq

/-- A channel that holds one value, with one sender and any number of receivers. -/
structure Watch (α : Type) where
  value : α
  /-- Whether the sender is still there. -/
  hasSender : Bool := true
  receivers : Nat := 1
deriving Repr, DecidableEq

namespace Watch

variable {α : Type}

def addReceiver (c : Watch α) : Watch α :=
  { c with receivers := c.receivers + 1 }

def dropReceiver (c : Watch α) : Watch α :=
  { c with receivers := c.receivers - 1 }

def dropSender (c : Watch α) : Watch α :=
  { c with hasSender := false }

/-- Sends a value. Where nobody receives, the value is lost and the channel keeps its old one. -/
def send (a : α) (c : Watch α) : Watch α :=
  if c.receivers = 0 then c else { c with value := a }

/-- What a receiver learns that waits for a value with a property. The value that the channel holds
counts, also when the sender has gone. -/
def waitFor (p : α → Bool) (c : Watch α) : Learnt α :=
  if p c.value then .value c.value
  else if c.hasSender then .nothing
  else .ended

end Watch

/-- A channel of messages, with any number of senders and one receiver. -/
structure Queue (α : Type) where
  messages : List α := []
  senders : Nat := 1
deriving Repr, DecidableEq

namespace Queue

variable {α : Type}

def addSender (c : Queue α) : Queue α :=
  { c with senders := c.senders + 1 }

def dropSender (c : Queue α) : Queue α :=
  { c with senders := c.senders - 1 }

/-- What the receiver learns. Messages come first; the channel ends with its last sender. -/
def receive (c : Queue α) : Learnt α :=
  match c.messages with
  | a :: _ => .value a
  | [] => if c.senders = 0 then .ended else .nothing

end Queue

/-- A queue with room for so many messages. -/
structure BoundedQueue (α : Type) extends Queue α where
  room : Nat
  /-- Whether the receiver is still there. -/
  hasReceiver : Bool := true
deriving Repr, DecidableEq

namespace BoundedQueue

variable {α : Type}

def addSender (c : BoundedQueue α) : BoundedQueue α :=
  { c with toQueue := c.toQueue.addSender }

def dropSender (c : BoundedQueue α) : BoundedQueue α :=
  { c with toQueue := c.toQueue.dropSender }

/-- The receiver goes, and what it did not receive is lost. -/
def dropReceiver (c : BoundedQueue α) : BoundedQueue α :=
  { c with messages := [], hasReceiver := false }

/-- Sends a message: it goes into the queue, or is lost because nobody receives any more. While
there is no room, whoever sends it waits. -/
def send (a : α) (c : BoundedQueue α) : Option (BoundedQueue α) :=
  if c.hasReceiver = false then some c
  else if c.messages.length < c.room then some { c with messages := c.messages ++ [a] }
  else none

/-- The receiver takes the first message. -/
def takeFirst (c : BoundedQueue α) : BoundedQueue α :=
  { c with messages := c.messages.tail }

end BoundedQueue

end NetControl.Lifecycle
