import NetControl.Tether.Plan

/-!
Who needs packets to be forwarded. Packets are forwarded while at least one requester is
registered; the two switches are written when the set of requesters becomes empty or stops being
empty, and whenever `apply` is asked for.
-/

namespace NetControl.Tether

/-- A switch that could not be written. -/
structure SwitchError where
  path : String
  /-- What should have been written. -/
  on : Bool
  cause : OsError
deriving Repr, DecidableEq

namespace SwitchError

/-- The digit that should have been written. -/
def value (e : SwitchError) : String :=
  Setting.flag e.on

/-- The error as one line. -/
def message (e : SwitchError) : String :=
  "failed to write " ++ e.value ++ " to " ++ e.path ++ ": " ++ e.cause.message

end SwitchError

/-- The files that turn forwarding on and off. -/
structure Switches where
  ipv4 : String := "/proc/sys/net/ipv4/ip_forward"
  ipv6 : String := "/proc/sys/net/ipv6/conf/all/forwarding"
deriving Repr, DecidableEq

/-- The file of one protocol. -/
def Switches.path (s : Switches) : Family → String
  | .ipv4 => s.ipv4
  | .ipv6 => s.ipv6

/-- Puts a name into a sorted list without repeats. -/
def insertName (name : String) : List String → List String
  | [] => [name]
  | first :: rest =>
    if name = first then first :: rest
    else if name < first then name :: first :: rest
    else first :: insertName name rest

/-- The requesters of forwarding. -/
structure Forwarding where
  /-- The requesters, sorted and without repeats. -/
  requesters : List String := []
  switches : Switches := {}
deriving Repr, DecidableEq

namespace Forwarding

/-- Whether packets should be forwarded. -/
def isEnabled (f : Forwarding) : Bool :=
  !f.requesters.isEmpty

/-- The part of the program that writes switches. -/
def target : String := "netd::tether::forwarding"

def writeSwitch (family : Family) (on : Bool) : Plan Forwarding (Except SwitchError Unit) := do
  let f ← Plan.get
  match ← Plan.request (.switch family on) with
  | .ok _ => pure (.ok ())
  | .error cause =>
    let e : SwitchError := ⟨f.switches.path family, on, cause⟩
    Plan.log (Log.of .error target "tether" e.message)
    pure (.error e)

/-- Writes the state to both switches. Both are tried; the first failure is the result. -/
def apply : Plan Forwarding (Except SwitchError Unit) := do
  let f ← Plan.get
  Plan.log (Log.of .debug target "tether"
    ("setting IP forward enable = " ++ Setting.flag f.isEnabled))
  let first ← writeSwitch .ipv4 f.isEnabled
  let second ← writeSwitch .ipv6 f.isEnabled
  pure (match first with
    | .ok _ => second
    | .error e => .error e)

/-- Registers a requester. It stays registered if the switches cannot be written. -/
def enable (requester : String) : Plan Forwarding (Except SwitchError Unit) := do
  let f ← Plan.get
  Plan.put { f with requesters := insertName requester f.requesters }
  if f.isEnabled then pure (.ok ()) else apply

/-- Removes a requester. It stays removed if the switches cannot be written. -/
def disable (requester : String) : Plan Forwarding (Except SwitchError Unit) := do
  let f ← Plan.get
  let left := f.requesters.erase requester
  Plan.put { f with requesters := left }
  if f.isEnabled && left.isEmpty then apply else pure (.ok ())

/-- The requesters and switches in diagnostic output. -/
def describe (f : Forwarding) : String :=
  "ForwardingRefCounter \x7b requests: " ++ Text.quotedSet f.requesters
    ++ ", switches: ForwardingSwitches \x7b ipv4: " ++ Text.quoted f.switches.ipv4
    ++ ", ipv6: " ++ Text.quoted f.switches.ipv6 ++ " \x7d \x7d"

end Forwarding

end NetControl.Tether
