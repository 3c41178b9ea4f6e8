import NetControl.Command.Inbox
import NetControl.Control.Request

/-!
One connection to the control socket. Request lines are carried out one after another: all responses
to a line are sent before the next line is read. A line that is too long is answered and ends the
connection, and so does a peer that takes no more responses.
-/

namespace NetControl.Control

open Command Tether

/-- A connection, with what its requests work on. -/
structure Conversation where
  service : Service := {}
  client : Client := Client.new true
  /-- The responses that the peer took, in order. -/
  sent : List Response := []
deriving DecidableEq

namespace Conversation

/-- All bytes that the peer took. -/
def output (c : Conversation) : Bytes :=
  c.sent.flatMap Response.encode

/-- Carries out a request line and answers its responses. -/
def hear (line : String) : Plan Conversation (List Response) := do
  let c ← Plan.get
  let (client, responses) ←
    (executeLine c.client line).zoom service fun s c => { c with service := s }
  let c ← Plan.get
  Plan.put { c with client }
  pure responses

/-- Sends responses to a peer that takes them. -/
def send (responses : List Response) : Plan Conversation Unit := do
  let c ← Plan.get
  Plan.put { c with sent := c.sent ++ responses }

/-- Ends the connection. -/
def close : Plan Conversation Unit :=
  Plan.log (Notes.closed serviceName)

/-- Serves what arrives on the connection until nothing more arrives. A deaf peer takes no
response, so that the connection ends with the first one. -/
def serve (deaf : Bool) : List Arrival → Plan Conversation Unit
  | [] => close
  | .tooLong :: _ => do
    let c ← Plan.get
    unless deaf do send [(Dispatch.lineRejection .tooLong).response c.client]
    close
  | .line text :: rest => do
    let responses ← hear text
    if deaf then
      Plan.log (Notes.unwritten serviceName .brokenPipe)
      close
    else
      send responses
      serve deaf rest

/-- Accepts a connection on which a whole stream arrives. -/
def accept (deaf : Bool) (stream : Bytes) : Plan Conversation Unit := do
  Plan.log (Notes.accepted serviceName)
  serve deaf (Inbox.arrivals stream)

end Conversation

end NetControl.Control
