import NetControl.Command.Inbox
import NetControl.Command.Notes
import NetControl.Lookup.Request

/-!
How the lookups of all connections share a limited number of permits.

The loop of a connection takes its request lines in order. It answers a line that is no lookup at
once; for a lookup it waits until the lookup has a permit, and goes on with the next line while the
lookup is worked on. A lookup that holds a permit chooses its interface, is given to the resolver,
and writes its one response to its connection; then the permit is free again.

`Pool.step` says which moves are possible and where they lead. What the resolver finds, when it
breaks down, and in which order the moves happen is left open.
-/

namespace NetControl.Lookup

open Command

/-- Where a lookup stands. -/
inductive Stage where
  /-- It waits for a permit, and the loop of its connection with it. -/
  | queued
  /-- It holds a permit. -/
  | admitted
  /-- The resolver works on it, bound to this interface if there is one. -/
  | resolving (interface : Option String)
  /-- Its answer is known and has to be written. -/
  | answered (answer : Answer)
  /-- The answer was written, or could not be. -/
  | ended (answer : Answer) (delivered : Bool)
deriving DecidableEq

namespace Stage

/-- Whether a lookup at this stage holds a permit. -/
def holdsPermit : Stage → Bool
  | queued => false
  | admitted => true
  | resolving _ => true
  | answered _ => true
  | ended .. => false

/-- Whether the resolver works on a lookup at this stage. -/
def isResolving : Stage → Bool
  | resolving _ => true
  | _ => false

def isEnded : Stage → Bool
  | ended .. => true
  | _ => false

end Stage

/-- A lookup that was accepted on a connection. -/
structure Job where
  connection : Nat
  /-- Which line of its connection it is. -/
  line : Nat
  request : Request
  stage : Stage := .queued
deriving DecidableEq

/-- One connection to the lookup socket. -/
structure Connection where
  /-- What has arrived and was not taken yet. -/
  arrivals : List Arrival := []
  /-- How much was taken. -/
  taken : Nat := 0
  /-- Whether nothing more will arrive. -/
  hungUp : Bool := false
  /-- Whether the peer takes no responses. -/
  deaf : Bool := false
  /-- Whether the loop is over. -/
  stopped : Bool := false
  /-- The responses that the peer took, in order, each with the line that it belongs to. -/
  sent : List (Nat × Bytes) := []
deriving DecidableEq

namespace Connection

/-- All bytes that the peer took. -/
def output (k : Connection) : Bytes :=
  k.sent.flatMap (·.2)

/-- The connection after a response was offered to the peer. -/
def offer (k : Connection) (line : Nat) (response : Bytes) : Connection :=
  if k.deaf then k else { k with sent := k.sent ++ [(line, response)] }

/-- The connection after its loop has answered the line it took. The loop ends where the answer
cannot be written. -/
def reject (k : Connection) (rest : List Arrival) (r : Rejection) : Connection :=
  { k.offer k.taken (r.response (Client.new false)).encode with
    arrivals := rest, taken := k.taken + 1, stopped := k.deaf }

end Connection

/-- The lookup socket: its connections, the lookups of all of them, and the permits. -/
structure Pool where
  /-- The permits that no lookup holds. -/
  free : Nat
  /-- Whether no permit is given out any more. No move closes the permits. -/
  closed : Bool := false
  associations : Associations := {}
  connections : List Connection := []
  /-- The lookups in the order in which they were accepted. -/
  jobs : List Job := []
  /-- What the resolver was asked, in order. -/
  calls : List Seen := []
  /-- The most lookups that were ever with the resolver at once. -/
  peak : Nat := 0
  /-- The log events, in order. -/
  events : List Log.Event := []

namespace Pool

/-- How many lookups may hold a permit at once: at least one. -/
def capacity (limit : Nat) : Nat := max 1 limit

/-- The most permits that a pool can have: three bits of a word are left for other things. -/
def permitLimit : Nat := UInt64.size / 8 - 1

/-- A pool without connections. -/
def new (limit : Nat) : Pool := { free := capacity limit }

def serviceName : String := "dnsproxyd"

/-- The rejection of a line that is too long. -/
def tooLong : Rejection :=
  Dispatch.lineRejection .tooLong

/-- Whether the loop of a connection waits for a permit. -/
def isStalled (p : Pool) (connection : Nat) : Bool :=
  p.jobs.any fun j => j.connection = connection && j.stage = .queued

/-- How many lookups the resolver works on. -/
def busy (p : Pool) : Nat :=
  p.jobs.countP fun j => j.stage.isResolving

/-- How many lookups hold a permit. -/
def held (p : Pool) : Nat :=
  p.jobs.countP fun j => j.stage.holdsPermit

def log (p : Pool) (events : List Log.Event) : Pool :=
  { p with events := p.events ++ events }

/-- Replaces a connection. -/
def setConnection (p : Pool) (i : Nat) (k : Connection) : Pool :=
  { p with connections := p.connections.set i k }

/-- Moves a lookup to another stage. -/
def setStage (p : Pool) (i : Nat) (j : Job) (stage : Stage) : Pool :=
  { p with jobs := p.jobs.set i { j with stage } }

/-- One step of the pool. -/
inductive Move where
  /-- A peer connects. -/
  | connect
  /-- Something arrives on a connection. -/
  | arrive (connection : Nat) (arrivals : List Arrival)
  /-- Nothing more will arrive on a connection. -/
  | hangUp (connection : Nat)
  /-- The peer takes no more responses. -/
  | deafen (connection : Nat)
  /-- The loop of a connection takes what arrived next, or ends after the last. -/
  | take (connection : Nat)
  /-- Changes the interfaces of processes. -/
  | associate (change : Associations.Change)
  /-- A waiting lookup gets a permit. -/
  | grant (job : Nat)
  /-- A waiting lookup learns that the permits are closed, and its loop answers it. -/
  | giveUp (job : Nat)
  /-- A lookup chooses its interface and is given to the resolver. -/
  | ask (job : Nat)
  /-- The resolver answers a lookup as this resolver would. -/
  | resolve (job : Nat) (resolver : Resolver)
  /-- The resolver breaks down over a lookup. -/
  | breakDown (job : Nat)
  /-- A lookup writes its response and gives its permit back. -/
  | respond (job : Nat)

/-- What is noted when a line is given to its command. -/
def dispatchNotes (arguments : List String) : List Log.Event :=
  Notes.dispatched serviceName arguments
    :: (Request.notes arguments).map (Log.Event.within serviceName)

/-- What is noted after the loop of a connection has answered a line itself. -/
def rejectionNotes (k : Connection) : List Log.Event :=
  if k.deaf then [Notes.unwritten serviceName .brokenPipe, Notes.closed serviceName] else []

/-- What is noted after a lookup has offered its response to the peer. -/
def responseNotes (k : Connection) (q : Query) : List Log.Event :=
  if k.deaf then
    [(Log.of .debug "netd::dnsproxy" "dnsproxy"
      ("failed to send response: " ++ OsError.brokenPipe.message)
      [("op", .text q.command)]).within serviceName]
  else []

/-- What is noted when the resolver breaks down over a lookup. -/
def breakdownNote (q : Query) : Log.Event :=
  (Log.of .warn "netd::dnsproxy" "dnsproxy" "lookup worker failed"
    [("op", .text q.command)]).within serviceName

/-- The pool after the loop of a connection has taken a line. -/
def takeLine (p : Pool) (i : Nat) (k : Connection) (rest : List Arrival) (line : String) : Pool :=
  match (Dispatch.accept Request.commands (Client.new false) line).2 with
  | .error r => (p.setConnection i (k.reject rest r)).log (rejectionNotes k)
  | .ok arguments =>
    let p := p.log (dispatchNotes arguments)
    match Request.parse arguments with
    | .error r => (p.setConnection i (k.reject rest r)).log (rejectionNotes k)
    | .ok request =>
      { p.setConnection i { k with arrivals := rest, taken := k.taken + 1 } with
        jobs := p.jobs ++ [{ connection := i, line := k.taken, request }] }

/-- The state after a move, where the move is possible. -/
def step (p : Pool) : Move → Option Pool
  | .connect =>
    let connections := p.connections ++ [({} : Connection)]
    some ({ p with connections }.log [Notes.accepted serviceName])
  | .arrive i arrivals =>
    p.connections[i]?.bind fun k =>
      if k.hungUp then none
      else some (p.setConnection i { k with arrivals := k.arrivals ++ arrivals })
  | .hangUp i => p.connections[i]?.map fun k => p.setConnection i { k with hungUp := true }
  | .deafen i => p.connections[i]?.map fun k => p.setConnection i { k with deaf := true }
  | .take i =>
    p.connections[i]?.bind fun k =>
      if k.stopped || p.isStalled i then none
      else
        match k.arrivals with
        | [] =>
          if k.hungUp then
            some ((p.setConnection i { k with stopped := true }).log [Notes.closed serviceName])
          else none
        | .tooLong :: rest =>
          some ((p.setConnection i { k.reject rest tooLong with stopped := true }).log
            [Notes.closed serviceName])
        | .line text :: rest => some (p.takeLine i k rest text)
  | .associate change => some { p with associations := p.associations.change change }
  | .grant i =>
    p.jobs[i]?.bind fun j =>
      if j.stage = .queued ∧ p.closed = false ∧ 0 < p.free then
        some { p.setStage i j .admitted with free := p.free - 1 }
      else none
  | .giveUp i =>
    p.jobs[i]?.bind fun j =>
      if j.stage = .queued ∧ p.closed then
        p.connections[j.connection]?.map fun k =>
          let a := Answer.failed j.request.query.breakdownCode
          let ended := (p.setStage i j (.ended a (!k.deaf))).setConnection j.connection
            { k.offer j.line a.encode with stopped := k.deaf }
          ended.log (rejectionNotes k)
      else none
  | .ask i =>
    p.jobs[i]?.bind fun j =>
      match j.stage with
      | .admitted =>
        let interface := j.request.effectiveInterface p.associations
        some { p.setStage i j (.resolving interface) with
          calls := p.calls ++ [⟨j.request.query, interface⟩]
          peak := max p.peak (p.busy + 1) }
      | _ => none
  | .resolve i resolver =>
    p.jobs[i]?.bind fun j =>
      match j.stage with
      | .resolving interface =>
        let q := j.request.query
        let failed := match q.failure? resolver interface with
          | some e => [q.failureNote e]
          | none => []
        some ((p.setStage i j (.answered (q.answer resolver interface))).log
          (resolver.remarks q interface ++ failed))
      | _ => none
  | .breakDown i =>
    p.jobs[i]?.bind fun j =>
      match j.stage with
      | .resolving _ =>
        some ((p.setStage i j (.answered (.failed j.request.query.breakdownCode))).log
          [breakdownNote j.request.query])
      | _ => none
  | .respond i =>
    p.jobs[i]?.bind fun j =>
      match j.stage with
      | .answered a =>
        p.connections[j.connection]?.map fun k =>
          let ended := (p.setStage i j (.ended a (!k.deaf))).setConnection j.connection
            (k.offer j.line a.encode)
          { ended with free := p.free + 1 }.log (responseNotes k j.request.query)
      | _ => none

/-- Whether the daemon has closed its side of a connection: the loop is over and every lookup of
the connection has ended. -/
def isClosed (p : Pool) (connection : Nat) : Bool :=
  (p.connections[connection]?.any (·.stopped))
    && p.jobs.all fun j => j.connection ≠ connection || j.stage.isEnded

/-- The state after a list of moves, where each is possible. -/
def run (p : Pool) (moves : List Move) : Option Pool :=
  moves.foldlM step p

/-- The pool in diagnostic output. -/
def describe (p : Pool) : String :=
  "WorkerContext \x7b available_permits: " ++ Text.decimal p.free ++ ", .. \x7d"

end Pool

end NetControl.Lookup
