import NetControl.Control.Request
import NetControl.Lookup.Pool

/-!
The two command sockets of the daemon. Each has a path; what a path held before, a stale socket
for instance, gives way to the socket.
-/

namespace NetControl.Daemon

/-- A command socket. -/
structure Listener where
  /-- The name of the service behind the socket. -/
  name : String
  path : String
deriving Repr, DecidableEq

/-- What the system answers when a socket takes its path. -/
structure PathAnswers where
  /-- To the removal of what is at the path. -/
  removal : Except OsError Unit
  /-- To the binding of the socket. -/
  binding : Except OsError Unit

/-- A socket that could not take its path. -/
structure BindError where
  path : String
  cause : OsError
deriving Repr, DecidableEq

namespace BindError

/-- What was attempted. -/
def message (e : BindError) : String :=
  "bind " ++ e.path

/-- What was attempted and why it failed. -/
def fullMessage (e : BindError) : String :=
  e.message ++ ": " ++ e.cause.message

end BindError

namespace Listener

/-- The control socket at a path. -/
def control (path : String) : Listener := ⟨Control.serviceName, path⟩

/-- The lookup socket at a path. -/
def lookup (path : String) : Listener := ⟨Lookup.Pool.serviceName, path⟩

/-- An event of the socket. -/
def event (l : Listener) (level : Log.Level) (message : String)
    (fields : List (String × Log.Value) := []) : Log.Event :=
  Log.of level Command.Notes.target l.name message fields

/-- Takes the path: removes what is there and binds. That nothing is there is no failure. -/
def bind (l : Listener) (answers : PathAnswers) : Except BindError Unit × List Log.Event :=
  let bound (before : List Log.Event) : Except BindError Unit × List Log.Event :=
    match answers.binding with
    | .error e => (.error ⟨l.path, e⟩, before)
    | .ok _ =>
      (.ok (), before ++ [l.event .info "listening for commands" [("path", .shown l.path)]])
  match answers.removal with
  | .ok _ => bound [l.event .debug ("removed stale socket " ++ l.path)]
  | .error e => if e = OsError.notFound then bound [] else (.error ⟨l.path, e⟩, [])

/-- What is noted when the socket is closed and its path removed. -/
def closingNotes (l : Listener) (removal : Except OsError Unit) : List Log.Event :=
  let failed := match removal with
    | .ok _ => []
    | .error e => [l.event .debug ("failed to remove " ++ l.path ++ ": " ++ e.message)]
  (failed ++ [l.event .info "listener stopped"]).map (Log.Event.within l.name)

end Listener

end NetControl.Daemon
