import NetControl.OsError
import NetControl.Command.Response
import NetControl.Lifecycle.Moves

/-!
The writing side of a connection: which sequence number its responses carry, and how responses
reach the peer when several calls share the connection and the peer takes bytes in pieces.

A call puts its response together when it begins, and then waits for the connection. One call writes
at a time. It holds the connection until all bytes of its response are taken and flushed, or until
the peer takes nothing, which fails the call.
-/

namespace NetControl.Command

/-- What a connection remembers between its requests. -/
structure Client where
  /-- Whether text responses carry the sequence number. -/
  withSequence : Bool
  /-- The sequence number of the last request that had one. -/
  sequence : Int32
deriving Repr, DecidableEq

namespace Client

/-- A new connection. -/
def new (withSequence : Bool) : Client := ⟨withSequence, 0⟩

/-- The number that text responses carry. -/
def sequence? (client : Client) : Option Int32 :=
  if client.withSequence then some client.sequence else none

/-- A text response, with the description of an error number where there is one. -/
def message (client : Client) (code : Code) (text : String) (errno : Option Int) : Response :=
  match errno with
  | some number =>
    .text code client.sequence? (text ++ " (" ++ OsError.describe number ++ ")")
  | none => .text code client.sequence? text

/-- What a call has to send. -/
inductive Sending where
  /-- A text response, with an error number to describe where there is one. -/
  | message (code : Code) (text : String) (errno : Option Int)
  /-- A code alone. -/
  | code (code : Code)
  /-- A code and data. -/
  | binary (code : Code) (data : Bytes)
  /-- The bytes of a response that is framed already. -/
  | framed (data : Bytes)
deriving Repr, DecidableEq

/-- All bytes of the response that a call sends if it begins now. -/
def bytes (client : Client) : Sending → Bytes
  | .message code text errno => (client.message code text errno).encode
  | .code code => (Response.code code).encode
  | .binary code data => (Response.binary code data).encode
  | .framed data => data

/-- The connection in diagnostic output. -/
def describe (client : Client) : String :=
  "SocketClient \x7b use_cmd_num: " ++ toString client.withSequence ++ ", cmd_num: "
    ++ Text.decimal client.sequence.toInt ++ ", .. \x7d"

end Client

/-- A response that a call writes. -/
structure Writing where
  /-- The number of the call, in the order in which calls begin. -/
  call : Nat
  /-- The bytes that the peer took. -/
  taken : Bytes := []
  /-- The bytes that the peer did not take yet. -/
  left : Bytes
  /-- Whether the call has succeeded, once it is over. -/
  result? : Option Bool := none
deriving Repr, DecidableEq

namespace Writing

/-- All bytes of the response. -/
def response (w : Writing) : Bytes :=
  w.taken ++ w.left

/-- Whether the peer took the whole response. -/
def isWhole (w : Writing) : Bool :=
  w.left.isEmpty

end Writing

/-- A connection that several calls write to. -/
structure Outbox where
  client : Client := Client.new false
  /-- How many calls have begun. -/
  begun : Nat := 0
  /-- What the peer took, in order. -/
  sent : Bytes := []
  /-- The calls that wait for the connection. -/
  waiting : List Writing := []
  /-- The call that holds the connection. -/
  active : Option Writing := none
  /-- The calls that have left the connection, in the order in which they held it. -/
  ended : List Writing := []
deriving Repr, DecidableEq

namespace Outbox

/-- One step of a connection that calls share. -/
inductive Move where
  /-- Sets the sequence number that text responses carry from now on. -/
  | setSequence (number : Int32)
  /-- A call begins: it puts its response together and waits for the connection. -/
  | begin (sending : Client.Sending)
  /-- A waiting call gets the connection. -/
  | hold (call : Nat)
  /-- The peer takes some of the bytes offered. -/
  | take (count : Nat)
  /-- The peer takes nothing of the bytes offered, which fails the call. -/
  | refuse
  /-- All bytes are taken, and flushing what was written succeeds or fails. -/
  | flush (succeeds : Bool)
  /-- The call that is over leaves the connection to the next one. -/
  | leave
deriving Repr, DecidableEq

/-- The state after a move, where the move is possible. -/
def step (o : Outbox) : Move → Option Outbox
  | .setSequence number => some { o with client := { o.client with sequence := number } }
  | .begin sending =>
    some { o with
      begun := o.begun + 1
      waiting := o.waiting ++ [{ call := o.begun, left := o.client.bytes sending }] }
  | .hold call =>
    match o.active, o.waiting.find? (·.call = call) with
    | none, some w => some { o with waiting := o.waiting.erase w, active := some w }
    | _, _ => none
  | .take count =>
    match o.active with
    | some w =>
      if w.result? = none ∧ 0 < count ∧ count ≤ w.left.length then
        some { o with
          sent := o.sent ++ w.left.take count
          active := some { w with
            taken := w.taken ++ w.left.take count, left := w.left.drop count } }
      else none
    | none => none
  | .refuse =>
    match o.active with
    | some w =>
      if w.result? = none ∧ w.isWhole = false then
        some { o with active := some { w with result? := some false } }
      else none
    | none => none
  | .flush succeeds =>
    match o.active with
    | some w =>
      if w.result? = none ∧ w.isWhole then
        some { o with active := some { w with result? := some succeeds } }
      else none
    | none => none
  | .leave =>
    match o.active with
    | some w =>
      if w.result? = none then none
      else some { o with active := none, ended := o.ended ++ [w] }
    | none => none

/-- The state after a list of moves, where each is possible. -/
def run (o : Outbox) (moves : List Move) : Option Outbox :=
  Lifecycle.runMoves step o moves

/-- The moves of one call that has the connection to itself and whose peer takes at most `limit`
bytes: nothing is taken beyond them. -/
def alone (data : Bytes) (limit : Option Nat) : List Move :=
  let taken := match limit with
    | some n => min n data.length
    | none => data.length
  [.begin (.framed data), .hold 0] ++ (if taken = 0 then [] else [.take taken])
    ++ [if taken = data.length then .flush true else .refuse, .leave]

/-- Writes one response to a peer that takes at most `limit` bytes. Answers what the peer took, and
whether that was all. -/
def write (data : Bytes) (limit : Option Nat) : Bytes × Bool :=
  match run {} (alone data limit) with
  | some o => (o.sent, o.ended.all (·.result? = some true))
  | none => ([], false)

end Outbox

end NetControl.Command
