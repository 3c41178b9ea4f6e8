import NetControl.Control.Conversation
import NetControl.Rehearsal.Lookups
import NetControl.Rehearsal.Paths

/-!
A rehearsed run of the daemon on a rehearsed host: its controller is set up, its sockets are bound,
clients connect one after another and send what they have to say, and in the end it is shut down.
-/

namespace NetControl.Rehearsal

open Command Daemon Tether

/-- A running daemon and the host it runs on. -/
structure Session where
  host : Host
  controller : Controller
  pool : Lookup.Pool
  script : Script
  paths : Paths
  control : Listener
  lookup : Listener
  /-- The log events so far, in order, without those of lookups. -/
  events : List Log.Event := []

namespace Session

/-- All log events so far. -/
def allEvents (s : Session) : List Log.Event :=
  s.events ++ s.pool.events

def log (s : Session) (events : List Log.Event) : Session :=
  { s with events := s.events ++ events }

/-- What control requests work on. -/
def service (s : Session) : Control.Service :=
  ⟨s.controller, s.pool.associations⟩

/-- The session after control requests have worked on it. -/
def setService (s : Session) (service : Control.Service) : Session :=
  { s with
    controller := service.controller
    pool := { s.pool with associations := service.associations } }

/-- Follows a plan of the controller. Nothing is answered where the host breaks off. -/
def carryOut {α : Type} (s : Session) (p : Plan Control.Service α) : Session × Option α :=
  let o := p.attempt Host.answer s.service s.host
  ({ (s.setService o.state).log o.events with host := o.world }, o.value)

/-! ## Starting -/

/-- Sets up the controller. -/
def boot (s : Session) (mode : String) : Session :=
  (s.carryOut (Control.Service.onController (Controller.boot mode))).1

/-- Binds one socket. Answers the failure, if there is one. -/
def bindSocket (s : Session) (l : Listener) : Option BindError × Session :=
  match l.bind (s.paths.answers l.path) with
  | (.ok _, events) => (none, { s.log events with paths := s.paths.put l.path (.file "") })
  | (.error e, events) => (some e, s.log events)

/-- Binds both sockets, the control socket first. Answers the failure, if there is one, and the
session as far as it got. -/
def bindSockets (s : Session) : Option BindError × Session :=
  match s.bindSocket s.control with
  | (some e, s) => (some e, s)
  | (none, s) => s.bindSocket s.lookup

/-! ## Connections -/

/-- One connection to the control socket that sends all its bytes at once. Answers the bytes of all
responses that the peer took. -/
def exchangeControl (s : Session) (input : Bytes) (deaf : Bool := false) : Session × Bytes :=
  let o := (Control.Conversation.accept deaf input).attempt Host.answer { service := s.service }
    s.host
  ({ (s.setService o.state.service).log o.events with host := o.world }, o.state.output)

/-- One connection to the lookup socket that sends all its bytes at once. -/
def exchangeLookups (s : Session) (input : Bytes) (deaf : Bool := false) : Session × Bytes :=
  let i := s.pool.connections.length
  let moves : List Lookup.Pool.Move :=
    [.connect] ++ (if deaf then [.deafen i] else []) ++ [.arrive i (Inbox.arrivals input), .hangUp i]
  let pool := advancePool s.script s.pool moves
  ({ s with pool }, ((pool.connections[i]?).map (·.output)).getD [])

/-! ## Stopping -/

/-- Closes one socket and removes its path. -/
def closeSocket (s : Session) (l : Listener) : Session :=
  let removal := s.paths.removal l.path
  let paths := match removal with
    | .ok _ => s.paths.put l.path .missing
    | .error _ => s.paths
  { s.log (l.closingNotes removal) with paths }

/-- Ends the forwarding daemon, as the last thing the daemon does. -/
def stopTethering (s : Session) : Session :=
  let failed (text : String) : Log.Event :=
    Log.of .error "netd::app" "tether" ("failed to stop tethering: " ++ text)
  match s.carryOut (Control.Service.onController Controller.stop) with
  | (s, some (.ok _)) => s
  | (s, some (.error e)) => s.log [failed e.message]
  | (s, none) => s.log [failed "task panicked"]

/-- Shuts the daemon down: closes both sockets and ends the forwarding daemon. -/
def shutDown (s : Session) : Session :=
  ((s.closeSocket s.control).closeSocket s.lookup).stopTethering

/-- Whether there is something at a path. -/
def isPresent (s : Session) (path : String) : Bool :=
  s.paths.node (Paths.namesOf path) ≠ .missing

end Session

end NetControl.Rehearsal
