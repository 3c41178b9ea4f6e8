import NetControl.Log.Filter
import NetControl.Log.Layout
import NetControl.Settings.Environment

/-!
How a process logs. The environment says which events are shown and how they are written.
-/

namespace NetControl.Log

/-- Which log events are shown and how they are written. -/
structure Logging where
  filter : Filter := .upTo .info
  layout : Layout := .columns
deriving Repr, DecidableEq

namespace Logging

/-- The filter that the environment names, and a complaint if that is no filter. -/
def filterOf (env : Settings.Environment) : Filter × List String :=
  match env.get? "RUST_LOG" with
  | none => (.upTo .info, [])
  | some text =>
    match Filter.parse? text with
    | some filter => (filter, [])
    | none => (.upTo .info, ["ignoring invalid RUST_LOG=" ++ text])

/-- The logging that the environment asks for, and complaints about it. -/
def ofEnvironment (env : Settings.Environment) : Logging × List String :=
  let (filter, complaints) := filterOf env
  ({ filter, layout := if env.get? "LOG_FORMAT" = some "json" then .json else .columns },
    complaints)

/-- The texts of the events that are shown, where every event has the same time. -/
def write (g : Logging) (time : String) (events : List Event) : List String :=
  (g.filter.select events).map (g.layout.write time)

end Logging

end NetControl.Log
