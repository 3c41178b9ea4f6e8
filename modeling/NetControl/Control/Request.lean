import NetControl.Command.Dispatch
import NetControl.Command.Notes
import NetControl.Lookup.Associations
import NetControl.Tether.Controller

/-!
Requests of the control socket: tethering, forwarding and the interfaces of processes. Reading a
request decides what it asks for; carrying it out answers with the responses to send.
-/

namespace NetControl.Control

open Command Tether

/-- What a control request asks for. -/
inductive Request where
  /-- Carries out an operation of the controller. -/
  | operate (operation : Controller.Operation)
  /-- Whether tethering runs. -/
  | tetherStatus
  /-- The tethered interfaces. -/
  | listInterfaces
  /-- The name servers of the tethered network. -/
  | listServers
  /-- Whether packets are forwarded. -/
  | forwardingStatus
  /-- Changes the interface of a process, or the default. -/
  | associate (change : Lookup.Associations.Change)
deriving Repr, DecidableEq

namespace Request

/-- The words that begin control requests. -/
def commands : List String := ["tether", "ipfwd", "resolver"]

/-- The rejection of a request of no known form. -/
def unknown (message : String) : Rejection :=
  ⟨Code.syntaxError, message, none⟩

/-- The rejection of a request that lacks an argument. -/
def missingArgument : Rejection :=
  unknown "Missing argument"

/-! ## Tethering -/

def parseInterface : List String → Except Rejection Request
  | ["list"] => .ok .listInterfaces
  | ["add", interface] => .ok (.operate (.tether interface))
  | ["remove", interface] => .ok (.operate (.untether interface))
  | operation :: _ =>
    if operation ∈ ["list", "add", "remove"] then .error missingArgument
    else .error (unknown "Unknown tether interface operation")
  | [] => .error missingArgument

/-- The request about name servers. -/
def parseServers : List String → Except Rejection Request
  | ["list"] => .ok .listServers
  | "set" :: netId :: server :: servers =>
    match Text.readUInt32? netId with
    | some n => .ok (.operate (.setServers n (server :: servers)))
    | none => .error ⟨Code.parameterError, "Invalid netId", none⟩
  | operation :: _ =>
    if operation ∈ ["list", "set"] then .error missingArgument
    else .error (unknown "Unknown tether dns operation")
  | [] => .error missingArgument

def parseTether : List String → Except Rejection Request
  | "start" :: ranges => .ok (.operate (.start ranges))
  | ["stop"] => .ok (.operate .stop)
  | ["status"] => .ok .tetherStatus
  | "interface" :: arguments => parseInterface arguments
  | "dns" :: arguments => parseServers arguments
  | operation :: _ =>
    if operation ∈ ["stop", "status"] then .error missingArgument
    else .error (unknown "Unknown tether cmd")
  | [] => .error missingArgument

/-! ## Forwarding -/

def parseForwarding : List String → Except Rejection Request
  | ["status"] => .ok .forwardingStatus
  | ["enable", requester] => .ok (.operate (.enable requester))
  | ["disable", requester] => .ok (.operate (.disable requester))
  | _ => .error (unknown "Unknown ipfwd cmd")

/-! ## Interfaces of processes -/

/-- The rejection of a request with a wrong number of arguments. -/
def wrongArity (operation : String) : Rejection :=
  unknown ("Wrong number of arguments to resolver " ++ operation)

/-- The change for the process that an argument names. -/
def withPid (argument : String) (change : Int32 → Lookup.Associations.Change) :
    Except Rejection Request :=
  match Text.readInt32? argument with
  | some pid => .ok (.associate (change pid))
  | none => .error ⟨Code.parameterError, "Invalid pid", none⟩

/-- The request about the interfaces of processes. -/
def parseResolver : List String → Except Rejection Request
  | ["setifaceforpid", interface, pid] => withPid pid (.associate interface)
  | ["clearifaceforpid", pid] => withPid pid .clear
  | ["setdefaultif", interface] => .ok (.associate (.setDefault interface))
  | operation :: _ =>
    if operation ∈ ["setifaceforpid", "clearifaceforpid", "setdefaultif"] then
      .error (wrongArity operation)
    else .error (unknown "Resolver unknown command")
  | [] => .error missingArgument

/-- The request of an argument list that begins with one of the command words. -/
def parse : List String → Except Rejection Request
  | "tether" :: arguments => parseTether arguments
  | "ipfwd" :: arguments => parseForwarding arguments
  | "resolver" :: arguments => parseResolver arguments
  | _ => .error Dispatch.commandRejection

end Request

/-! ## Carrying out requests -/

/-- What control requests work on. -/
structure Service where
  controller : Controller := {}
  associations : Lookup.Associations := {}
deriving Repr, DecidableEq

namespace Service

/-- An operation of the controller. -/
def onController {α : Type} (p : Plan Controller α) : Plan Service α :=
  p.zoom controller fun c s => { s with controller := c }

end Service

/-- The part of the program that answers operations. -/
def target : String := "netd::tether::commands"

/-- What an operation is called in responses. -/
def operationName : Controller.Operation → String
  | .enable _ => "ipfwd"
  | .disable _ => "ipfwd"
  | _ => "Tether"

/-- What an operation is called in log events. -/
def operationLabel : Controller.Operation → String
  | .enable _ => "ipfwd"
  | .disable _ => "ipfwd"
  | _ => "tether"

/-- What is noted about a change of the associations. -/
def changeNote : Lookup.Associations.Change → Log.Event
  | .associate interface pid =>
    Log.of .debug "netd::dnsproxy::iface" "dnsproxy" "associating pid with interface"
      [("iface", .text interface), ("pid", .number pid.toInt)]
  | .clear pid =>
    Log.of .debug "netd::dnsproxy::iface" "dnsproxy" "clearing pid interface"
      [("pid", .number pid.toInt)]
  | .setDefault interface =>
    Log.of .debug "netd::dnsproxy::iface" "dnsproxy" "setting default interface"
      [("iface", .text interface)]

def serviceName : String := "netd"

def succeeded (client : Client) (name : String) : Response :=
  client.message Code.okay (name ++ " operation succeeded") none

/-- Carries out a request and answers the responses to send, in order. -/
def Request.perform (client : Client) : Request → Plan Service (List Response)
  | .operate operation => do
    match ← Service.onController operation.plan with
    | .ok _ => pure [succeeded client (operationName operation)]
    | .error e =>
      Plan.log ((Log.of .warn target "tether"
        (operationLabel operation ++ " operation failed: " ++ e.message)).within serviceName)
      pure [client.message Code.operationFailed (operationName operation ++ " operation failed")
        (some e.number)]
  | .tetherStatus => do
    let s ← Plan.get
    pure [client.message Code.tetherStatus
      ("Tethering services " ++ if s.controller.daemon.isSome then "started" else "stopped") none]
  | .listInterfaces => do
    let s ← Plan.get
    pure (s.controller.interfaces.map (client.message Code.tetherInterface · none)
      ++ [succeeded client "Tether"])
  | .listServers => do
    let s ← Plan.get
    let netId := Text.decimal s.controller.netId.toNat
    pure (s.controller.servers.map (fun server =>
        client.message Code.tetherServer (netId ++ " " ++ server) none)
      ++ [succeeded client "Tether"])
  | .forwardingStatus => do
    let s ← Plan.get
    pure [client.message Code.forwardingStatus
      ("Forwarding " ++ if s.controller.forwarding.isEnabled then "enabled" else "disabled") none]
  | .associate change => do
    Plan.log ((changeNote change).within serviceName)
    let s ← Plan.get
    Plan.put { s with associations := s.associations.change change }
    pure [client.message Code.okay "Resolver command succeeded" none]

/-- What is noted about an argument list before it is read. -/
def argumentNotes : List String → List Log.Event
  | arguments@("tether" :: _ :: _) =>
    [(Log.of .debug target "tether" "tether command"
      [("argv", .shown (Text.quotedList arguments))]).within serviceName]
  | _ => []

/-- Carries out an argument list that begins with one of the command words. -/
def execute (client : Client) (arguments : List String) : Plan Service (List Response) := do
  Plan.logAll (argumentNotes arguments)
  match Request.parse arguments with
  | .error r => pure [r.response client]
  | .ok request => request.perform client

/-- Carries out a request line. Answers the connection with the sequence number that responses
carry from then on, and the responses to send. -/
def executeLine (client : Client) (line : String) : Plan Service (Client × List Response) :=
  match Dispatch.accept Request.commands client line with
  | (client, .error r) => pure (client, [r.response client])
  | (client, .ok arguments) => do
    Plan.log (Notes.dispatched serviceName arguments)
    let responses ← execute client arguments
    pure (client, responses)

end NetControl.Control
