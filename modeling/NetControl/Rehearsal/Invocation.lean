import NetControl.Daemon.Program
import NetControl.Rehearsal.Session

/-!
A rehearsed invocation of the program: it is started on a host that has only the files it is given.
If it runs the daemon, that serves visits of clients and ends with a signal.
-/

namespace NetControl.Rehearsal

open Daemon Settings

/-- What the program finds when it is started. -/
structure Invocation where
  environment : Environment
  arguments : List String := []
  paths : Paths := .bare
  /-- The path and the content of the settings file, if there is one. -/
  settings : Option (String × Bytes) := none
  /-- The directory with the knobs of interfaces, and the knobs. -/
  knobRoot : String := "conf"
  knobs : Tether.KnobTree := {}

namespace Invocation

/-- The paths with the settings file. -/
def allPaths (p : Invocation) : Paths :=
  match p.settings with
  | some (path, _) => p.paths.put path (.file "")
  | none => p.paths

/-- What opening a file answers: an error, or its content, if that can be read. -/
def read (p : Invocation) (path : String) : Except OsError (Option Bytes) :=
  (p.allPaths.opening path).map fun state =>
    let isSettings := p.settings.any fun (own, _) => Paths.namesOf own = Paths.namesOf path
    if isSettings then p.settings.map (·.2) else state.text?.map Bytes.ofString

/-- The configuration of the program. -/
def config (p : Invocation) : Except ConfigError Config :=
  Config.load p.environment p.read

/-- The host that a configuration finds: its files are those at the configured paths, and none of
them is a program. -/
def host (p : Invocation) (c : Config) : Host :=
  { ipv4 := p.allPaths.state c.ipv4Switch
    ipv6 := p.allPaths.state c.ipv6Switch
    knobs := .files (if Paths.namesOf c.knobRoot = Paths.namesOf p.knobRoot then p.knobs else {})
    program := .none (p.allPaths.launchError c.daemonPath) }

end Invocation

namespace Session

/-- A daemon with a configuration, before it has done anything. -/
def ofConfig (c : Config) (host : Host) (paths : Paths) (script : Script) : Session :=
  { host, paths, script
    controller := Daemon.controller c
    pool := Daemon.pool c
    control := .control c.controlSocket
    lookup := .lookup c.lookupSocket }

/-- Ends the daemon on a signal. No connection is open, so both sockets are closed within every
grace period that is not zero. -/
def receive (s : Session) (signal : Signal) (grace : Period) : Session :=
  let s := s.log [signalNote signal]
  let s := (s.closeSocket s.control).closeSocket s.lookup
  (s.log [drainNote grace (grace.nanoseconds ≠ 0)]).stopTethering

/-- The text of a file. A switch that is there has the text that was written to it last. -/
def fileText (s : Session) (path : String) : Option String :=
  let switches := s.controller.forwarding.switches
  let isAt (p : String) : Bool := Paths.namesOf p = Paths.namesOf path
  if isAt switches.ipv4 then s.host.ipv4.text?
  else if isAt switches.ipv6 then s.host.ipv6.text?
  else (s.paths.node (Paths.namesOf path)).text?

end Session

/-- One connection of a client, which sends all its bytes at once. -/
inductive Visit where
  | control (input : Bytes)
  | lookup (input : Bytes)
deriving Repr, DecidableEq

/-- Serves a visit and answers the bytes that the client gets. -/
def Visit.serve (s : Session) : Visit → Session × Bytes
  | control input => s.exchangeControl input
  | lookup input => s.exchangeLookups input

/-- Serves visits, one after another. -/
def serveAll (s : Session) : List Visit → Session × List Bytes
  | [] => (s, [])
  | v :: rest =>
    let (s, output) := v.serve s
    let (s, outputs) := serveAll s rest
    (s, output :: outputs)

/-- What became of a process. -/
structure Transcript where
  finish : Finish
  /-- The texts of the log events, all at the same time. -/
  log : List String := []
  /-- What the clients got, visit by visit. -/
  responses : List Bytes := []

namespace Invocation

/-- Runs the daemon until the signal comes. Answers the end of the process, what the clients got,
and the state of the daemon when it was over. -/
def live (p : Invocation) (c : Config) (resolver : Lookup.Resolver) (visits : List Visit)
    (signal : Signal) : Finish × List Bytes × Session :=
  let s := Session.ofConfig c (p.host c) p.allPaths { resolver }
  let s := (s.log (startNotes c)).boot c.bootMode
  match s.bindSocket s.control, breakdown? c with
  | (some e, s), _ => (.unbound e, [], s)
  | (none, s), some message => (.brokenDown message, [], s)
  | (none, s), none =>
    match s.bindSocket s.lookup with
    | (some e, s) => (.unbound e, [], s)
    | (none, s) =>
      let (s, outputs) := serveAll s visits
      ({}, outputs, s.receive signal c.gracePeriod)

/-- Runs the program. Answers what became of it, and the texts of some files in the end. -/
def run (p : Invocation) (resolver : Lookup.Resolver) (visits : List Visit) (signal : Signal)
    (time : String) (files : List String) : Transcript × List (Option String) :=
  let (logging, complaints) := Log.Logging.ofEnvironment p.environment
  let after (f : Finish) : Finish := { f with errors := complaints ++ f.errors }
  match Start.ofInvocation p.environment p.read p.arguments with
  | .finished f =>
    ({ finish := after f }, files.map fun path => (p.paths.node (Paths.namesOf path)).text?)
  | .run c =>
    let (f, responses, s) := p.live c resolver visits signal
    ({ finish := after f, log := logging.write time s.allEvents, responses },
      files.map s.fileText)

end Invocation

end NetControl.Rehearsal
