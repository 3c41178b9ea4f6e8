import NetControl.Tether.Daemon
import NetControl.Tether.Error
import NetControl.Tether.Frame

/-!
The tethering controller: who needs forwarding, which interfaces are tethered, which name servers
the tethered network uses, and the forwarding daemon that serves them.

Each operation is a plan on the controller. The controller is serialized by its owner: an operation
sees every earlier one whole.
-/

namespace NetControl.Tether

/-- Where the controller's parts of the system are. -/
structure Places where
  /-- The directory with the knobs of all interfaces. -/
  knobs : String := "/proc/sys/net/ipv6/conf"
  /-- The program of the forwarding daemon. -/
  daemon : String := "/system/bin/dnsmasq"
deriving Repr, DecidableEq

/-- The state of tethering. -/
structure Controller where
  forwarding : Forwarding := {}
  /-- The tethered interfaces, in the order in which they were tethered. -/
  interfaces : List String := []
  /-- The network of the name servers. -/
  netId : UInt32 := 0
  /-- The name servers of the tethered network. -/
  servers : List String := []
  /-- The number of the daemon's process, while one runs. -/
  daemon : Option Nat := none
  places : Places := {}
deriving Repr, DecidableEq

namespace Controller

/-- The part of the program that speaks. -/
def target : String := "netd::tether"

/-- The boot mode in which forwarding is on from the start. -/
def forcedMode : String := "bp-tools"

/-- An operation on the forwarding of packets. -/
def onForwarding {α : Type} (p : Plan Forwarding α) : Plan Controller α :=
  p.zoom forwarding fun f c => { c with forwarding := f }

/-- A path below a directory. A name that is a path from the root stands alone. -/
def joinPath (directory name : String) : String :=
  if directory = "" || name.toList.head? = some '/' then name
  else if directory.toList.getLast? = some '/' then directory ++ name
  else directory ++ "/" ++ name

/-- The file of a knob. -/
def knobPath (root interface : String) (knob : Knob) : String :=
  joinPath (joinPath root interface) knob.fileName

/-! ## Interfaces -/

def set (interface : String) (setting : Setting) : Plan Controller (Except OsError Unit) := do
  let c ← Plan.get
  Plan.log ⟨.trace, "netd::tether::interface",
    "writing " ++ setting.text ++ " to " ++ knobPath c.places.knobs interface setting.knob, [], none⟩
  Plan.request (.set interface setting)

/-- Writes settings in order, up to the first that fails. -/
def setAll (interface : String) : List Setting → Plan Controller (Except OsError Unit)
  | [] => pure (.ok ())
  | setting :: rest => do
    match ← set interface setting with
    | .error e => pure (.error e)
    | .ok _ => setAll interface rest

/-- Writes settings in order, whether or not they fail, and tells which failed. -/
def setEach (interface : String) : List (String × Setting) → Plan Controller (List (String × OsError))
  | [] => pure []
  | (step, setting) :: rest => do
    let answer ← set interface setting
    let failed ← setEach interface rest
    match answer with
    | .error e => pure ((step, e) :: failed)
    | .ok _ => pure failed

/-- Puts an interface into router mode. -/
def configureRouter (interface : String) : Plan Controller (Except OsError Unit) :=
  setAll interface Setting.router

/-- Puts an interface back into client mode. Failures are only noted. -/
def configureClient (interface : String) : Plan Controller Unit := do
  let failed ← setEach interface Setting.client
  Plan.logAll <| failed.map fun (step, e) =>
    Log.of .warn "netd::tether::interface" "tether" ("failed to restore client mode: " ++ e.message)
      [("iface", .text interface), ("step", .text step)]

/-! ## The daemon -/

/-- Sends a frame to the daemon, if one runs. -/
def send (frame : Frame) : Plan Controller (Except OsError Unit) := do
  let c ← Plan.get
  match c.daemon with
  | none => pure (.ok ())
  | some _ =>
    Plan.log (Log.of .debug target "tether" ("sending update msg to daemon [" ++ frame.text ++ "]"))
    match ← Plan.request (.send frame.bytes) with
    | .ok _ => pure (.ok ())
    | .error e =>
      Plan.log (Log.of .error target "tether"
        ("failed to send update command to daemon: " ++ e.message))
      pure (.error e)

/-- What is noted about a list of interfaces that does not fit into its frame. -/
def interfaceNotes (interfaces : List String) : List Log.Event :=
  if (fillInterfaces interfaces).ending = .full then
    [⟨.debug, "netd::tether::protocol", "too many DNS ifaces listed", [], none⟩]
  else []

/-- Tells the daemon the tethered interfaces. No daemon or no interface is no failure. -/
def pushInterfaces : Plan Controller (Except OsError Unit) := do
  let c ← Plan.get
  Plan.logAll (interfaceNotes c.interfaces)
  match updateInterfaces c.interfaces with
  | none => pure (.ok ())
  | some frame => send frame

/-- What is noted about a list of name servers: each server that is looked at, and whether one does
not fit. -/
def serverNotes (mark : Mark) (servers : List String) : List Log.Event :=
  let filled := fillServers mark servers
  let seen := if filled.ending = .complete then filled.added.length else filled.added.length + 1
  let note (message : String) : Log.Event := ⟨.debug, "netd::tether::protocol", message, [], none⟩
  (servers.take seen).zipIdx.map (fun (server, i) =>
      note ("set dns forwarder (0x" ++ mark.hex ++ " " ++ Text.decimal i ++ " = '" ++ server ++ "')"))
    ++ (if filled.ending = .full then [note "too many DNS servers listed"] else [])

/-! ## Operations -/

/-- Sets the switches for the first time. In the forced mode the mode itself is a requester. -/
def boot (mode : String) : Plan Controller Unit := do
  let result ←
    if mode = forcedMode then do
      Plan.log (Log.of .info target "tether"
        ("in " ++ forcedMode ++ " mode, forcing IP forwarding on"))
      onForwarding (Forwarding.enable forcedMode)
    else onForwarding Forwarding.apply
  match result with
  | .ok _ => pure ()
  | .error e =>
    Plan.log (Log.of .warn target "tether" ("failed to initialize IP forwarding: " ++ e.message))

def enableForwarding (requester : String) : Plan Controller (Except Error Unit) := do
  return (← onForwarding (Forwarding.enable requester)).mapError .forwarding

def disableForwarding (requester : String) : Plan Controller (Except Error Unit) := do
  return (← onForwarding (Forwarding.disable requester)).mapError .forwarding

/-- Starts the daemon for ranges of addresses, given as pairs of a lowest and a highest address,
and tells it the interfaces that are tethered already. -/
def start (ranges : List String) : Plan Controller (Except Error Unit) := do
  let c ← Plan.get
  if c.daemon.isSome then
    Plan.log (Log.of .error target "tether" "tethering already started")
    return .error .alreadyRunning
  if ranges.length % 2 ≠ 0 then
    return .error (.oddRanges ranges.length)
  Plan.log (Log.of .debug target "tether" "starting tethering services")
  let arguments := daemonArguments ranges
  Plan.log (Log.of .debug "netd::tether::daemon" "tether" "spawning daemon"
    [("binary", .shown c.places.daemon), ("args", .shown (Text.quotedList arguments))])
  match ← Plan.request (.launch arguments) with
  | .error e =>
    Plan.log (Log.of .error target "tether" ("failed to spawn daemon: " ++ e.message))
    return .error (.launch e)
  | .ok pid =>
    let pid : Nat := pid
    Plan.put { c with daemon := some pid }
    match ← pushInterfaces with
    | .ok _ => pure ()
    | .error e =>
      Plan.log (Log.of .warn target "tether"
        ("failed to push interfaces to new daemon: " ++ e.message))
    Plan.log (Log.of .info target "tether" "tethering services running" [("pid", .number pid)])
    return .ok ()

/-- Ends the daemon. It counts as ended even if that fails; ending none is no failure.

Two events belong to the answer of `Call.terminate` and are left out: a warning where the process
cannot be told to end, and a note of the status with which it exited. Each of them has fixed words,
the number of the process, and a description by the system, which no request has a part in and on
which nothing else here depends. The note on a launch is another matter: it repeats the arguments of
the client, and is made before the outside is asked. -/
def stop : Plan Controller (Except Error Unit) := do
  let c ← Plan.get
  match c.daemon with
  | none =>
    Plan.log (Log.of .debug target "tether" "tethering already stopped")
    return .ok ()
  | some pid =>
    Plan.put { c with daemon := none }
    Plan.log (Log.of .debug target "tether" "stopping tethering services" [("pid", .number pid)])
    match ← Plan.request .terminate with
    | .error e => return .error (.terminate e)
    | .ok _ =>
      Plan.log (Log.of .info target "tether" "tethering services stopped")
      return .ok ()

/-- Tethers an interface: puts it into router mode and tells the daemon. If either fails, the
interface goes back into client mode and is not tethered. -/
def tether (interface : String) : Plan Controller (Except Error Unit) := do
  Plan.log (Log.of .debug target "tether" "tether interface" [("iface", .text interface)])
  let c ← Plan.get
  if !isInterfaceName interface then
    return .error (.invalidName interface)
  if interface ∈ c.interfaces then
    return .error (.alreadyTethered interface)
  match ← configureRouter interface with
  | .error e =>
    configureClient interface
    return .error (.configure interface e)
  | .ok _ =>
    Plan.put { c with interfaces := c.interfaces ++ [interface] }
    match ← pushInterfaces with
    | .error e =>
      Plan.put c
      configureClient interface
      return .error (.update e)
    | .ok _ => return .ok ()

/-- Releases an interface: puts it back into client mode and tells the daemon. It stays released if
the daemon cannot be told. -/
def untether (interface : String) : Plan Controller (Except Error Unit) := do
  Plan.log (Log.of .debug target "tether" "untether interface" [("iface", .text interface)])
  let c ← Plan.get
  if interface ∉ c.interfaces then
    return .error (.notTethered interface)
  Plan.put { c with interfaces := c.interfaces.erase interface }
  configureClient interface
  return (← pushInterfaces).mapError .update

/-- Replaces the name servers of the tethered network and tells the daemon. Servers that do not fit
into one frame are left out. If a server is no literal address, or the daemon cannot be told, no
name server is left. -/
def setServers (netId : UInt32) (servers : List String) : Plan Controller (Except Error Unit) := do
  let c ← Plan.get
  Plan.put { c with servers := [] }
  Plan.logAll (serverNotes (Mark.forDns netId) servers)
  match updateServers (Mark.forDns netId) servers with
  | .error server =>
    Plan.log (Log.of .error target "tether" (Error.serverMessage server))
    return .error (.invalidServer server)
  | .ok update =>
    Plan.put { c with servers := update.servers, netId }
    match ← send update.frame with
    | .error e =>
      Plan.put { c with servers := [], netId }
      return .error (.update e)
    | .ok _ => return .ok ()

/-- An operation of the controller, with its arguments. -/
inductive Operation where
  | enable (requester : String)
  | disable (requester : String)
  | start (ranges : List String)
  | stop
  | tether (interface : String)
  | untether (interface : String)
  | setServers (netId : UInt32) (servers : List String)
deriving Repr, DecidableEq

def Operation.plan : Operation → Plan Controller (Except Error Unit)
  | enable requester => enableForwarding requester
  | disable requester => disableForwarding requester
  | start ranges => Controller.start ranges
  | stop => Controller.stop
  | tether interface => Controller.tether interface
  | untether interface => Controller.untether interface
  | setServers netId servers => Controller.setServers netId servers

/-- The controller in diagnostic output. -/
def describe (c : Controller) : String :=
  let daemon := match c.daemon with
    | some pid => "Some(" ++ Text.decimal pid ++ ")"
    | none => "None"
  "TetherController \x7b forwarding: " ++ c.forwarding.describe ++ ", interfaces: "
    ++ Text.quotedList c.interfaces ++ ", dns_net_id: " ++ Text.decimal c.netId.toNat
    ++ ", dns_forwarders: " ++ Text.quotedList c.servers ++ ", daemon: " ++ daemon ++ ", .. \x7d"

/-- The controller, shared and locked, in diagnostic output. -/
def describeShared (c : Controller) : String :=
  "TetherService \x7b inner: Mutex \x7b data: " ++ c.describe ++ ", poisoned: false, .. \x7d \x7d"

end Controller

end NetControl.Tether
