import NetControl.Log.Event
import NetControl.Text.Json

/-!
How log events are written: as lines of columns, or as JSON objects.
-/

namespace NetControl.Log

/-- A way to write log events. -/
inductive Layout where
  | columns
  | json
deriving Repr, DecidableEq

namespace Layout

/-- Fields as `name=value`, with blanks between them. -/
def fieldsText (fields : List (String × Value)) : String :=
  " ".intercalate (fields.map fun (name, value) => name ++ "=" ++ value.written)

/-- The start of every target, which columns leave out. -/
def targetStem : String := "netd::"

/-- A target without its common start. -/
def shortTarget (target : String) : String :=
  if targetStem.toList.isPrefixOf target.toList then
    String.ofList (target.toList.drop targetStem.length)
  else target

/-- A span after the target. -/
def spanText (s : Span) : String :=
  let fields := fieldsText s.fields
  ":" ++ s.name ++ (if fields = "" then "" else "\x7b" ++ fields ++ "\x7d")

def contentText (message : String) (fields : List (String × Value)) : String :=
  if message = "" then fieldsText fields
  else if fields = [] then message
  else message ++ "\t" ++ fieldsText fields

/-- An event as columns with tabs between them: time, level, target with span, message, fields. -/
def columnsText (time : String) (e : Event) : String :=
  time ++ "\t" ++ e.level.name.toLower ++ "\t" ++ shortTarget e.target
    ++ e.span?.elim "" spanText ++ "\t" ++ contentText e.message e.fields ++ "\n"

def valueJson : Value → Text.Json
  | .text s => .text s
  | .shown s => .text s
  | .number n => .number n

def spanJson (s : Span) : Text.Json :=
  .object (s.fields.map (fun (name, v) => (name, valueJson v)) ++ [("name", .text s.name)])

/-- The members of an event after its time. -/
def members (e : Event) : List (String × Text.Json) :=
  [("level", .text e.level.name), ("message", .text e.message)]
    ++ e.fields.map (fun (name, v) => (name, valueJson v))
    ++ [("target", .text e.target)]
    ++ match e.span? with
      | some s => [("span", spanJson s), ("spans", .list [spanJson s])]
      | none => []

def jsonText (time : String) (e : Event) : String :=
  (Text.Json.object (("timestamp", .text time) :: members e)).render ++ "\n"

/-- An event as text. -/
def write (layout : Layout) (time : String) (e : Event) : String :=
  match layout with
  | columns => columnsText time e
  | json => jsonText time e

end Layout

end NetControl.Log
