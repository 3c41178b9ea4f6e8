import NetControl.Daemon.Listener
import NetControl.Log.Logging
import NetControl.Settings.Listing
import NetControl.Version

/-!
The program: what its arguments ask for, what it writes and how it ends when it does not run the
daemon, and the state in which it starts to run it.
-/

namespace NetControl.Daemon

open Settings

/-- What the program is asked to do. -/
inductive Task where
  /-- To run the daemon. -/
  | run
  /-- To write its version. -/
  | version
  /-- To write its commands. -/
  | help
  /-- Something that it does not know. -/
  | unknown (word : String)
deriving Repr, DecidableEq

/-- The task that the arguments name. Only the first one counts. -/
def Task.ofArguments : List String → Task
  | [] => run
  | word :: _ =>
    if word = "run" then run
    else if word = "version" then version
    else if word = "help" then help
    else unknown word

/-- How a process ends: the lines on its two outputs and its status. -/
structure Finish where
  output : List String := []
  errors : List String := []
  status : Nat := 0
deriving Repr, DecidableEq

namespace Finish

/-- The end after an error. A cause follows below it. -/
def failed (message : String) (cause : Option String := none) : Finish :=
  let causes := match cause with
    | some text => ["", "Caused by:", "    " ++ text]
    | none => []
  { errors := ("Error: " ++ message) :: causes, status := 1 }

/-- The end after a socket could not take its path. -/
def unbound (e : BindError) : Finish :=
  failed e.message (some e.cause.message)

/-- The end after a breakdown. -/
def brokenDown (message : String) : Finish :=
  { errors := [message], status := 101 }

end Finish

/-- The lines that tell the commands of the program. -/
def helpLines : List String :=
  ["", Version.current.text, "", "Commands:",
    "run (default) - Start the tethering and DNS proxy daemon",
    "version       - Print the version of netd",
    "help          - Print commands and version of netd"]

/-- A start of the program. -/
inductive Start where
  /-- The program ends. -/
  | finished (f : Finish)
  /-- The daemon is to run. -/
  | run (c : Config)
deriving Repr, DecidableEq

/-- What becomes of a task when the configuration is known. -/
def Task.start (task : Task) (c : Config) : Start :=
  match task with
  | run => .run c
  | version => .finished { output := [Version.current.text] }
  | help => .finished { output := helpLines }
  | unknown word =>
    .finished { output := helpLines, errors := ["unknown command: " ++ word], status := 1 }

/-- The start of the program. The configuration comes first: an error in it counts whatever the
arguments ask for. -/
def Start.ofInvocation (env : Environment) (files : String → Except OsError (Option Bytes))
    (arguments : List String) : Start :=
  match Config.load env files with
  | .error e => .finished (Finish.failed e.message)
  | .ok c => (Task.ofArguments arguments).start c

/-! ## Running the daemon -/

/-- What is noted before the daemon is set up. -/
def startNotes (c : Config) : List Log.Event :=
  [⟨.info, "netd", "version: " ++ Version.current.text, [], none⟩,
    ⟨.info, "netd", "running with config: " ++ c.listing, [], none⟩]

/-- A signal that ends the daemon. -/
inductive Signal where
  | interrupt
  | terminate
deriving Repr, DecidableEq

def Signal.name : Signal → String
  | interrupt => "SIGINT"
  | terminate => "SIGTERM"

/-- What is noted when a signal arrives. -/
def signalNote (s : Signal) : Log.Event :=
  ⟨.info, "netd::signal::imp", "received signal " ++ s.name ++ ", starting shutdown", [], none⟩

/-- What is noted when both sockets are closed, or when the grace period is over before that. -/
def drainNote (grace : Period) (isComplete : Bool) : Log.Event :=
  if isComplete then ⟨.info, "netd::app", "Shutdown completed gracefully", [], none⟩
  else
    ⟨.warn, "netd::app", "Graceful shutdown did not complete in " ++ grace.text
      ++ ", terminating now", [], none⟩

/-- How many threads work for the daemon: at least one. -/
def threads (c : Config) : Nat :=
  max c.workers.toNat 1

/-- The initial state of the controller. -/
def controller (c : Config) : Tether.Controller :=
  { forwarding := ⟨[], ⟨c.ipv4Switch, c.ipv6Switch⟩⟩, places := ⟨c.knobRoot, c.daemonPath⟩ }

/-- How many permits the lookups share. -/
def permits (c : Config) : Nat :=
  Lookup.Pool.capacity c.maxLookups.toNat

/-- Why the daemon breaks down between the binding of its two sockets, if it does. -/
def breakdown? (c : Config) : Option String :=
  if Lookup.Pool.permitLimit < permits c then
    some ("a semaphore may not have more than MAX_PERMITS permits ("
      ++ toString Lookup.Pool.permitLimit ++ ")")
  else none

/-- The initial state of the lookup socket's pool. -/
def pool (c : Config) : Lookup.Pool :=
  Lookup.Pool.new c.maxLookups.toNat

end NetControl.Daemon
