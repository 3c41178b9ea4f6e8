import NetControl.Text.Quoted
import NetControl.Text.Number

/-!
Log events: a level, the part of the program that speaks, a message and named fields. Layouts and
filters of events are in modules of their own.
-/

namespace NetControl.Log

/-- How much an event matters. -/
inductive Level where
  | error
  | warn
  | info
  | debug
  | trace
deriving Repr, DecidableEq

/-- Lower ranks matter more. -/
def Level.rank : Level → Nat
  | error => 1
  | warn => 2
  | info => 3
  | debug => 4
  | trace => 5

/-- The level in capital letters. -/
def Level.name : Level → String
  | error => "ERROR"
  | warn => "WARN"
  | info => "INFO"
  | debug => "DEBUG"
  | trace => "TRACE"

/-- The value of a field. -/
inductive Value where
  /-- A text, which layouts quote. -/
  | text (s : String)
  /-- A text that is written as it is. -/
  | shown (s : String)
  /-- A number. -/
  | number (n : Int)
deriving Repr, DecidableEq

/-- The text of a value. -/
def Value.written : Value → String
  | text s => Text.quoted s
  | shown s => s
  | number n => Text.decimal n

/-- A stretch of work in which events arise. -/
structure Span where
  level : Level
  /-- The part of the program that does the work. -/
  target : String
  name : String
  /-- Named values, in the order given. -/
  fields : List (String × Value)
deriving Repr, DecidableEq

def Span.listener (service : String) : Span :=
  ⟨.info, "netd::app", "listener", [("name", .text service)]⟩

/-- One log event. -/
structure Event where
  level : Level
  /-- The part of the program that speaks. -/
  target : String
  message : String
  /-- Named values, in the order given. -/
  fields : List (String × Value)
  /-- The listener in whose work the event arises, where there is one. -/
  listener : Option String := none
deriving Repr, DecidableEq

namespace Event

/-- The event as part of the work of a listener. -/
def within (listener : String) (e : Event) : Event :=
  { e with listener := some listener }

/-- The work in which the event arises, where it is known. -/
def span? (e : Event) : Option Span :=
  e.listener.map Span.listener

end Event

def of (level : Level) (target component message : String)
    (fields : List (String × Value) := []) : Event :=
  { level, target, message, fields := ("component", .text component) :: fields }

end NetControl.Log
