import NetControl.Daemon.Program
import NetControl.Control.Conversation
import Std.Time

/-!
The command line. It reads the environment and the settings file, carries out what the arguments ask
for, and writes what the program says. The sockets of the daemon are refused: no system function for
local sockets is at hand here, and the daemon ends as on a system without them.
-/

namespace NetControl.Main

open Daemon Settings Tether

/-- The variables that the program looks at. -/
def variableNames : List String :=
  ["NETD_CONFIG", "NETD_SOCKET", "DNSPROXYD_SOCKET", "TETHER_DAEMON_PATH", "IPV4_FORWARDING_PATH",
    "IPV6_FORWARDING_PATH", "IPV6_CONF_ROOT", "BOOT_MODE", "DNSPROXY_MAX_CONCURRENT_QUERIES",
    "TERMINATION_GRACE_PERIOD", "NETD_WORKER_THREADS", "RUST_LOG", "LOG_FORMAT"]

/-- The environment of this process. -/
def environment : IO Environment := do
  let values ← variableNames.mapM fun name => do
    return (← IO.getEnv name).map fun value => (name, Bytes.ofString value)
  return ⟨values.filterMap id⟩

/-- The failure of a system function. -/
def toOsError : IO.Error → OsError
  | .noFileOrDirectory _ code _ => .errno code.toNat
  | .permissionDenied _ code _ => .errno code.toNat
  | .inappropriateType _ code _ => .errno code.toNat
  | .invalidArgument _ code _ => .errno code.toNat
  | .noSuchThing _ code _ => .errno code.toNat
  | .resourceBusy code _ => .errno code.toNat
  | .otherError code _ => .errno code.toNat
  | e => .other (toString e)

/-- Opens the settings file and reads it. -/
def settingsFile (env : Environment) : IO (String → Except OsError (Option Bytes)) := do
  match env.get? "NETD_CONFIG" with
  | none => return fun _ => .error OsError.notFound
  | some path =>
    let opened ← (IO.FS.Handle.mk path .read).toBaseIO
    match opened with
    | .error e => return fun _ => .error (toOsError e)
    | .ok file =>
      let content ← file.readBinToEnd.toBaseIO
      return fun _ => .ok (content.toOption.map fun b => b.data.toList)

/-- The time of now. -/
def timeText : IO String := do
  let now := Std.Time.DateTime.ofTimestamp (← Std.Time.Timestamp.now) .UTC
  return now.format "uuuu-MM-dd'T'HH:mm:ss.SSSSSS'Z'"

/-- Writes a log event, if it is shown. -/
def log (g : Log.Logging) (e : Log.Event) : IO Unit := do
  let time ← timeText
  (g.write time [e]).forM fun line => IO.print line

/-- What the host answers a request. Only the switches of forwarding are within reach. -/
def answer (c : Config) : (call : Call) → IO call.Answer
  | .switch family on => do
    let path := match family with
      | .ipv4 => c.ipv4Switch
      | .ipv6 => c.ipv6Switch
    let written ← (do
      let file ← IO.FS.Handle.mk path .readWrite
      file.putStr (Setting.flag on) : IO Unit).toBaseIO
    return written.mapError toOsError
  | .set _ _ => return .error OsError.notImplemented
  | .launch _ => return .error OsError.notImplemented
  | .send _ => return .error OsError.notImplemented
  | .terminate => return .error OsError.notImplemented

def follow {σ α : Type} (g : Log.Logging) (c : Config) : Plan σ α → σ → IO σ
  | .done _, s => return s
  | .read next, s => follow g c (next s) s
  | .write s next, _ => follow g c next s
  | .ask call next, s => do follow g c (next (← answer c call)) s
  | .note e next, s => do
    log g e
    follow g c next s

/-- Runs the daemon as far as the host lets it. -/
def run (g : Log.Logging) (c : Config) : IO Finish := do
  (startNotes c).forM (log g)
  let _ ← follow g c (Controller.boot c.bootMode) (controller c)
  let refused : PathAnswers := ⟨.error OsError.notFound, .error OsError.notImplemented⟩
  let (bound, notes) := (Listener.control c.controlSocket).bind refused
  notes.forM (log g)
  match bound with
  | .ok _ => return {}
  | .error e => return .unbound e

/-- Starts the program and tells how it ended. -/
def start (arguments : List String) : IO Finish := do
  let env ← environment
  let (g, complaints) := Log.Logging.ofEnvironment env
  complaints.forM fun line => IO.eprintln line
  match Start.ofInvocation env (← settingsFile env) arguments with
  | .finished f => return f
  | .run c => run g c

end NetControl.Main

def main (arguments : List String) : IO UInt32 := do
  let f ← NetControl.Main.start arguments
  f.errors.forM fun line => IO.eprintln line
  f.output.forM fun line => IO.println line
  return UInt32.ofNat f.status
