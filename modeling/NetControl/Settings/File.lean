import NetControl.Bytes
import NetControl.Yaml.Value

/-!
Settings files. A file is a YAML document with a mapping from the names of settings to their values.
A setting that is missing, or whose value means nothing, is not set. Unknown names and names that
appear twice are refused, and so is every value of a wrong kind.
-/

namespace NetControl.Settings

/-- The settings that a file may set. -/
structure FileSettings where
  controlSocket : Option String := none
  lookupSocket : Option String := none
  daemonPath : Option String := none
  ipv4Switch : Option String := none
  ipv6Switch : Option String := none
  knobRoot : Option String := none
  bootMode : Option String := none
  maxLookups : Option UInt64 := none
  /-- The grace period, as it is written. -/
  gracePeriod : Option String := none
  workers : Option UInt64 := none
deriving Repr, DecidableEq

namespace FileSettings

def names : List String :=
  ["netdSocket", "dnsproxySocket", "tetherDaemonPath", "ipv4ForwardingPath", "ipv6ForwardingPath",
    "ipv6ConfRoot", "bootMode", "maxConcurrentQueries", "terminationGracePeriod", "workerThreads"]

/-- Reads the value of a setting, if there is one and it is not nothing. -/
def valueOf {α : Type} (read : Yaml.Scalar → Option α) (entries : List (Yaml.Scalar × Yaml.Scalar))
    (name : String) : Option (Option α) :=
  match entries.find? (·.1.text = name) with
  | none => some none
  | some (_, s) => do
    if ← s.isNull? then some none else some (some (← read s))

/-- The settings that the entries of a document set. -/
def ofEntries? (entries : List (Yaml.Scalar × Yaml.Scalar)) : Option FileSettings := do
  let keys := entries.map (·.1.text)
  guard (keys.all names.contains && keys.Nodup)
  let text := valueOf (fun s => some s.text) entries
  let count := valueOf Yaml.Scalar.count? entries
  some {
    controlSocket := ← text "netdSocket"
    lookupSocket := ← text "dnsproxySocket"
    daemonPath := ← text "tetherDaemonPath"
    ipv4Switch := ← text "ipv4ForwardingPath"
    ipv6Switch := ← text "ipv6ForwardingPath"
    knobRoot := ← text "ipv6ConfRoot"
    bootMode := ← text "bootMode"
    maxLookups := ← count "maxConcurrentQueries"
    gracePeriod := ← text "terminationGracePeriod"
    workers := ← count "workerThreads" }

/-- The settings that the content of a file sets. -/
def parse? (content : Bytes) : Option FileSettings := do
  let document ← Yaml.Document.parse? (← Bytes.toString? content)
  ofEntries? (← document.entries?)

end FileSettings

end NetControl.Settings
