import NetControl.Command.Dispatch
import NetControl.Log.Event
import NetControl.Lookup.Associations
import NetControl.Lookup.Wire

/-!
Lookup requests. The arguments of a lookup stand at fixed places; a caret stands for an absent one,
and numbers are read leniently.
-/

namespace NetControl.Lookup

open Command Net

/-- A lookup request. -/
structure Request where
  query : Query
  /-- The interface to use, if the request names one. -/
  interface : Option String
  /-- The process that asks. -/
  pid : Int32
deriving Repr, DecidableEq

/-- A lookup as the resolver sees it. -/
structure Seen where
  query : Query
  interface : Option String
deriving Repr, DecidableEq

/-- Hints that may be absent, in diagnostic output. -/
def Hints.describeOption : Option Hints → String
  | some h =>
    "Some(Hints \x7b flags: " ++ Text.decimal h.flags.toInt ++ ", family: "
      ++ Text.decimal h.family.toInt ++ ", socktype: " ++ Text.decimal h.socketType.toInt
      ++ ", protocol: " ++ Text.decimal h.protocol.toInt ++ " \x7d)"
  | none => "None"

namespace Query

/-- The word that begins requests of the kind. -/
def command : Query → String
  | addresses .. => "getaddrinfo"
  | hostByName .. => "gethostbyname"
  | hostByAddress .. => "gethostbyaddr"

/-- The code of the answer where the resolver breaks down. -/
def breakdownCode : Query → UInt32
  | addresses .. => eaiFail.toUInt32
  | hostByName .. => noRecovery.toUInt32
  | hostByAddress .. => noRecovery.toUInt32

/-- The answer of a result. -/
def answerOf {α : Type} (present : α → Answer) : Except Failure α → Answer
  | .ok found => present found
  | .error failure => .failed failure.code

def answer (r : Resolver) (interface : Option String) : Query → Answer
  | addresses host service hints =>
    answerOf .addresses (r.addresses host service hints interface)
  | hostByName name family => answerOf .host (r.hostByName name family interface)
  | hostByAddress address family =>
    answerOf (fun h => .hostName h.name) (r.hostByAddress address family interface)

def failure? (r : Resolver) (interface : Option String) : Query → Option Failure
  | addresses host service hints =>
    match r.addresses host service hints interface with
    | .error e => some e
    | .ok _ => none
  | hostByName name family =>
    match r.hostByName name family interface with
    | .error e => some e
    | .ok _ => none
  | hostByAddress address family =>
    match r.hostByAddress address family interface with
    | .error e => some e
    | .ok _ => none

end Query

namespace Request

/-- The words that begin lookup requests. -/
def commands : List String := ["getaddrinfo", "gethostbyname", "gethostbyaddr"]

/-- The text of an argument, absent where a caret stands. -/
def optional (argument : String) : Option String :=
  if argument = "^" then none else some argument

/-- The hints of four numbers; four times minus one stands for none. -/
def hintsOf (flags family socketType protocol : Int32) : Option Hints :=
  if flags = -1 ∧ family = -1 ∧ socketType = -1 ∧ protocol = -1 then none
  else some ⟨flags, family, socketType, protocol⟩

/-- The rejection of a request with a wrong number of arguments. -/
def arityRejection (command : String) (count : Nat) : Rejection :=
  ⟨Code.parameterError,
    "Invalid number of arguments to " ++ command ++ ": " ++ Text.decimal count, none⟩

/-- The rejection of an address that is no literal of its family. -/
def addressRejection (text : String) (errno : Option Int) : Rejection :=
  ⟨Code.operationFailed, "inet_pton(\"" ++ text ++ "\") failed", errno⟩

/-- The octets of a literal of the family, filled up with zeros to the size of the largest. -/
def addressOctets (family : Int32) (text : String) : Except Rejection Bytes :=
  if family = afInet then
    match parseV4 text.toList with
    | some octets => .ok (octets.val ++ List.replicate 12 0)
    | none => .error (addressRejection text none)
  else if family = afInet6 then
    match parseV6 text.toList with
    | some octets => .ok octets.val
    | none => .error (addressRejection text none)
  else .error (addressRejection text (some eafnosupport))

/-- As many octets as the caller says, out of those there are. -/
def takeOctets (count : Int32) (octets : Bytes) : Bytes :=
  octets.take count.toInt.toNat

/-- The request of an argument list that begins with one of the command words. -/
def parse : List String → Except Rejection Request
  | ["getaddrinfo", host, service, flags, family, socketType, protocol, interface, pid] =>
    .ok ⟨.addresses (optional host) (optional service)
      (hintsOf (Text.lenientInt32 flags) (Text.lenientInt32 family) (Text.lenientInt32 socketType)
        (Text.lenientInt32 protocol)),
      optional interface, Text.lenientInt32 pid⟩
  | ["gethostbyname", pid, interface, name, family] =>
    .ok ⟨.hostByName (optional name) (Text.lenientInt32 family), optional interface,
      Text.lenientInt32 pid⟩
  | ["gethostbyaddr", text, size, family, pid, interface] =>
    (addressOctets (Text.lenientInt32 family) text).map fun octets =>
      ⟨.hostByAddress (takeOctets (Text.lenientInt32 size) octets) (Text.lenientInt32 family),
        optional interface, Text.lenientInt32 pid⟩
  | command :: arguments => .error (arityRejection command (arguments.length + 1))
  | [] => .error Dispatch.commandRejection

/-- The interface of a lookup: the one the request names, or else the one of its process. -/
def effectiveInterface (table : Associations) (q : Request) : Option String :=
  match q.interface with
  | some interface => some interface
  | none => table.interfaceFor q.pid

/-! ## Log events -/

def event (level : Log.Level) (target message : String) (fields : List (String × Log.Value)) :
    Log.Event :=
  Log.of level target "dnsproxy" message fields

/-- What is noted about a request when it is read. -/
def notes : List String → List Log.Event
  | ["getaddrinfo", host, service, flags, family, socketType, protocol, interface, pid] =>
    let hints := Hints.describeOption (hintsOf (Text.lenientInt32 flags) (Text.lenientInt32 family)
      (Text.lenientInt32 socketType) (Text.lenientInt32 protocol))
    [event .debug "netd::dnsproxy::getaddrinfo" "getaddrinfo"
      [("host", .shown (Text.quotedOption (optional host))),
        ("service", .shown (Text.quotedOption (optional service))), ("hints", .shown hints),
        ("iface", .shown (Text.quotedOption (optional interface))),
        ("pid", .number (Text.lenientInt32 pid).toInt)]]
  | ["gethostbyname", pid, interface, name, family] =>
    [event .debug "netd::dnsproxy::gethostbyname" "gethostbyname"
      [("name", .shown (Text.quotedOption (optional name))),
        ("family", .number (Text.lenientInt32 family).toInt),
        ("iface", .shown (Text.quotedOption (optional interface))),
        ("pid", .number (Text.lenientInt32 pid).toInt)]]
  | ["gethostbyaddr", text, size, family, pid, interface] =>
    match addressOctets (Text.lenientInt32 family) text with
    | .ok _ =>
      [event .debug "netd::dnsproxy::gethostbyaddr" "gethostbyaddr"
        [("addr", .shown text), ("addr_len", .number (Text.lenientInt32 size).toInt),
          ("family", .number (Text.lenientInt32 family).toInt),
          ("iface", .shown (Text.quotedOption (optional interface))),
          ("pid", .number (Text.lenientInt32 pid).toInt)]]
    | .error _ =>
      [event .warn "netd::dnsproxy::gethostbyaddr" "unparsable address"
        [("addr", .shown text), ("family", .number (Text.lenientInt32 family).toInt)]]
  | command :: arguments =>
    [event .warn "netd::dnsproxy" "invalid number of arguments"
      [("cmd", .text command), ("argc", .number (arguments.length + 1))]]
  | [] => []

end Request

def Query.failureNote (q : Query) (e : Failure) : Log.Event :=
  Request.event .debug ("netd::dnsproxy::" ++ q.command) (q.command ++ " failed: " ++ e.message) []

end NetControl.Lookup
