import NetControl.Tether.KnobTree

/-!
A rehearsed host: a world outside the controller that holds its files in memory, records what the
controller asks of it, and fails where it is told to.
-/

namespace NetControl.Rehearsal

open Tether

/-- What is at a path. -/
inductive FileState where
  /-- A file with this text. -/
  | file (text : String)
  /-- Nothing. -/
  | missing
  /-- A directory. -/
  | directory
  /-- Something that cannot be reached, for this reason. -/
  | refused (e : OsError)
deriving Repr, DecidableEq

/-- Writes a text to what is at a path. -/
def FileState.write (text : String) : FileState → Except OsError FileState
  | file _ => .ok (file text)
  | missing => .error OsError.notFound
  | directory => .error OsError.isDirectory
  | refused e => .error e

/-- The text at a path, if it can be read. -/
def FileState.text? : FileState → Option String
  | file text => some text
  | _ => none

/-- A request that can be told to fail. -/
inductive Target where
  | launch
  | send
  | terminate
  | knob (k : Knob)
deriving Repr, DecidableEq

/-- How a request is told to fail. -/
inductive Fault where
  /-- It answers with a failure. -/
  | failure (e : OsError)
  /-- It breaks off without an answer. -/
  | breakdown
deriving Repr, DecidableEq

/-- Where knobs are written. -/
inductive Knobs where
  /-- Every write succeeds. -/
  | recorded
  /-- Writes go to files. -/
  | files (tree : KnobTree)
deriving Repr, DecidableEq

/-- What starts when the daemon is launched. -/
inductive Program where
  /-- A daemon that takes every frame. -/
  | willing
  /-- A daemon that has closed its input, so that no frame reaches it. -/
  | deaf
  /-- Nothing: the launch fails. -/
  | none (e : OsError)
deriving Repr, DecidableEq

/-- A rehearsed host. -/
structure Host where
  ipv4 : FileState := .file "x"
  ipv6 : FileState := .file "x"
  knobs : Knobs := .recorded
  program : Program := .willing
  /-- The number of the next process. -/
  nextPid : Nat := 1
  faults : List (Target × Fault) := []
  /-- The settings that were written, in order, and whether each write succeeded. -/
  settings : List (String × Setting × Bool) := []
  /-- The frames that daemons took, in order. -/
  frames : List Bytes := []
  /-- The arguments of the daemons that started, in order. -/
  launches : List (List String) := []
  /-- How often a daemon was told to end. -/
  terminations : Nat := 0
deriving Repr, DecidableEq

namespace Host

/-- Tells a request how to fail, or not to fail any more. -/
def setFault (h : Host) (target : Target) (fault : Option Fault) : Host :=
  let others := h.faults.filter fun entry => entry.1 ≠ target
  { h with faults := match fault with
      | some f => (target, f) :: others
      | none => others }

/-- Lets the writes of one knob fail, and those of the others succeed. -/
def failOnly (h : Host) (k : Knob) (fault : Fault) : Host :=
  (Knob.all.foldl (fun h k => h.setFault (.knob k) none) h).setFault (.knob k) (some fault)

/-- Puts something else at the path of a switch. -/
def setSwitch (h : Host) (family : Family) (state : FileState) : Host :=
  match family with
  | .ipv4 => { h with ipv4 := state }
  | .ipv6 => { h with ipv6 := state }

/-- The texts of both switches. -/
def switches (h : Host) : Option String × Option String :=
  (h.ipv4.text?, h.ipv6.text?)

def writeSwitch (h : Host) (family : Family) (on : Bool) : Except OsError Unit × Host :=
  let written := (match family with
    | .ipv4 => h.ipv4
    | .ipv6 => h.ipv6).write (Setting.flag on)
  match written with
  | .ok state => (.ok (), h.setSwitch family state)
  | .error e => (.error e, h)

def writeSetting (h : Host) (interface : String) (s : Setting) : Except OsError Unit × Host :=
  match h.knobs with
  | .recorded => (.ok (), h)
  | .files tree =>
    let (result, tree) := KnobTree.writeSetting KnobTree.overwrite tree.root interface s tree
    (result, { h with knobs := .files tree })

def record (h : Host) (interface : String) (s : Setting) (succeeded : Bool) : Host :=
  { h with settings := h.settings ++ [(interface, s, succeeded)] }

/-- Starts the daemon. -/
def launch (h : Host) (arguments : List String) : Except OsError Nat × Host :=
  match h.program with
  | .none e => (.error e, h)
  | _ => (.ok h.nextPid, { h with launches := h.launches ++ [arguments] })

def send (h : Host) (frame : Bytes) : Except OsError Unit × Host :=
  match h.program with
  | .deaf => (.error (.errno 32), h)
  | _ => (.ok (), { h with frames := h.frames ++ [frame] })

/-- How the host answers a request; no answer where it breaks off. -/
def answer : (c : Call) → Host → Option c.Answer × Host
  | .switch family on, h =>
    let (result, h) := h.writeSwitch family on
    (some result, h)
  | .set interface s, h =>
    match h.faults.lookup (.knob s.knob) with
    | some (.failure e) => (some (.error e), h.record interface s false)
    | some .breakdown => (none, h)
    | none =>
      let (result, h) := h.writeSetting interface s
      (some result, h.record interface s (match result with
        | .ok _ => true
        | .error _ => false))
  | .launch arguments, h =>
    match h.faults.lookup .launch with
    | some (.failure e) => (some (.error e), h)
    | some .breakdown => (none, h)
    | none =>
      let (result, h) := h.launch arguments
      (some result, h)
  | .send frame, h =>
    match h.faults.lookup .send with
    | some (.failure e) => (some (.error e), h)
    | some .breakdown => (none, h)
    | none =>
      let (result, h) := h.send frame
      (some result, h)
  | .terminate, h =>
    let h := { h with terminations := h.terminations + 1 }
    match h.faults.lookup .terminate with
    | some (.failure e) => (some (.error e), h)
    | some .breakdown => (none, h)
    | none => (some (.ok ()), h)

/-- The last text that was written to a knob with success. -/
def lastText (h : Host) (interface : String) (knob : Knob) : Option String :=
  (h.settings.reverse.find? fun (name, s, succeeded) =>
    name = interface && s.knob = knob && succeeded).map fun (_, s, _) => s.text

/-- Whether the last texts of the interface's knobs are those of client mode. -/
def inClientMode (h : Host) (interface : String) : Bool :=
  Setting.client.all fun (_, s) => h.lastText interface s.knob = some s.text

end Host

end NetControl.Rehearsal
