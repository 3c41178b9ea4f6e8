import NetControl.Lifecycle.Moves
import NetControl.Lookup.Pool

/-!
A rehearsed lookup socket: a pool whose resolver gives prepared answers, holds lookups back or
breaks down as it is told, and in which everything that can happen on its own happens in a fixed
order. Lookups go in the order in which they were accepted.
-/

namespace NetControl.Rehearsal

open Lookup

/-- What the resolver has been told. -/
structure Script where
  resolver : Resolver
  /-- Whether it keeps the lookups it is given. -/
  holds : Bool := false
  /-- Whether it breaks down over every lookup it is given. -/
  breaks : Bool := false

/-- A resolver with one answer for address lookups and one for host lookups. -/
def preparedResolver (addresses : Except Int32 (List AddressInfo)) (host : Except Int32 HostEntry) :
    Resolver where
  addresses _ _ _ _ := addresses.mapError Failure.addresses
  hostByName _ _ _ := host.mapError Failure.host
  hostByAddress _ _ _ := host.mapError Failure.host

/-- What the resolver answers before it is told otherwise: no addresses, and no such host. -/
def unpreparedResolver : Resolver :=
  preparedResolver (.ok []) (.error hostNotFound)

/-- The moves that a lookup makes next by itself. -/
def jobMoves (s : Script) (i : Nat) (j : Job) : List Pool.Move :=
  match j.stage with
  | .queued => [.grant i]
  | .admitted => if s.breaks then [.ask i, .breakDown i] else [.ask i]
  | .resolving _ => if s.holds then [] else [.resolve i s.resolver]
  | .answered _ => [.respond i]
  | .ended .. => []

/-- Everything that can happen next by itself: lookups first, then the loops of connections. -/
def poolMoves (s : Script) (p : Pool) : List (List Pool.Move) :=
  (p.jobs.zipIdx.map fun (j, i) => jobMoves s i j).filter (· ≠ [])
    ++ (List.range p.connections.length).map fun i => [.take i]

/-- No more than this many moves are possible by themselves. -/
def moveBound (p : Pool) : Nat :=
  6 * p.jobs.length + 2 * p.connections.length
    + 8 * (p.connections.flatMap (·.arrivals)).length

/-- Lets everything happen that happens by itself. -/
def settlePool (s : Script) (p : Pool) : Pool :=
  Lifecycle.settle Pool.run (poolMoves s) (moveBound p) p

/-- The state after moves that somebody asks for and everything that follows by itself. -/
def advancePool (s : Script) (p : Pool) (moves : List Pool.Move) : Pool :=
  settlePool s ((p.run moves).getD p)

/-! ## Clients -/

/-- The answers that the resolver is told to give. -/
structure Prepared where
  addresses : Except Int32 (List AddressInfo) := .ok []
  host : Except Int32 HostEntry := .error hostNotFound

def Prepared.resolver (p : Prepared) : Resolver :=
  preparedResolver p.addresses p.host

/-- A lookup socket and its clients. -/
structure Exchange where
  pool : Pool
  script : Script
  /-- What came of incomplete lines, connection by connection. -/
  inboxes : List Command.Inbox := []
  /-- How much of their output the clients have read, connection by connection. -/
  read : List Nat := []

namespace Exchange

/-- A lookup socket without clients. -/
def new (limit : Nat) : Exchange :=
  { pool := Pool.new limit, script := { resolver := unpreparedResolver } }

/-- The exchange after moves and everything that follows by itself. -/
def advance (e : Exchange) (moves : List Pool.Move) : Exchange :=
  { e with pool := advancePool e.script e.pool moves }

/-- A client connects. -/
def connect (e : Exchange) : Exchange :=
  { e with inboxes := e.inboxes ++ [Command.Inbox.empty], read := e.read ++ [0] }.advance [.connect]

/-- A client leaves. -/
def leave (e : Exchange) (i : Nat) : Exchange :=
  e.advance [.hangUp i, .deafen i]

/-- A client sends a piece of its stream. -/
def send (e : Exchange) (i : Nat) (piece : Bytes) : Exchange :=
  let (inbox, arrivals) := ((e.inboxes[i]?).getD .empty).receive piece
  { e with inboxes := e.inboxes.set i inbox }.advance [.arrive i arrivals]

def tell (e : Exchange) (change : Script → Script) : Exchange :=
  { e with script := change e.script }.advance []

/-- What a client has not read yet. -/
def unread (e : Exchange) (i : Nat) : Bytes :=
  (((e.pool.connections[i]?).map (·.output)).getD []).drop ((e.read[i]?).getD 0)

/-- A client reads so many bytes. -/
def take (e : Exchange) (i count : Nat) : Exchange :=
  { e with read := e.read.set i ((e.read[i]?).getD 0 + count) }

/-- A client reads up to `count` items, as far as they have arrived. -/
def readMany {α : Type} (readItem : Bytes → Option (α × Bytes)) (e : Exchange) (i : Nat) :
    Nat → List α × Exchange
  | 0 => ([], e)
  | count + 1 =>
    let bytes := e.unread i
    match readItem bytes with
    | some (item, rest) =>
      let (items, e) := readMany readItem (e.take i (bytes.length - rest.length)) i count
      (item :: items, e)
    | none => ([], e)

end Exchange

end NetControl.Rehearsal
