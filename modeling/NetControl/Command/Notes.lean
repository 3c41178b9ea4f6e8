import NetControl.Log.Event
import NetControl.OsError

/-!
What is noted about the connections of a command socket. Every note is part of the work of the
socket's listener.
-/

namespace NetControl.Command.Notes

/-- The part of the program that keeps command sockets. -/
def target : String := "netd::command::listener"

/-- A note about a socket, by the name of its service. -/
def note (service : String) (level : Log.Level) (message : String)
    (fields : List (String × Log.Value) := []) : Log.Event :=
  (Log.of level target service message fields).within service

/-- A peer connects. -/
def accepted (service : String) : Log.Event :=
  note service .trace "accepted connection"

/-- A line is given to the command it names. -/
def dispatched (service : String) (arguments : List String) : Log.Event :=
  note service .trace "dispatching" [("argv", .shown (Text.quotedList arguments))]

/-- A response of the loop of a connection cannot be written. -/
def unwritten (service : String) (cause : OsError) : Log.Event :=
  note service .debug ("failed to write response: " ++ cause.message)

/-- The loop of a connection is over. -/
def closed (service : String) : Log.Event :=
  note service .trace "connection closed"

end NetControl.Command.Notes
