/-!
Which interface the lookups of a process use: the interface associated with the process, or else a
default.
-/

namespace NetControl.Lookup

/-- Interfaces by process, and the default. -/
structure Associations where
  /-- At most one interface for each process. -/
  byPid : List (Int32 × String) := []
  fallback : Option String := none
deriving Repr, DecidableEq

namespace Associations

/-- A change of the associations. -/
inductive Change where
  /-- Associates an interface with a process. -/
  | associate (interface : String) (pid : Int32)
  /-- Removes the association of a process. -/
  | clear (pid : Int32)
  /-- Sets the default; an empty name removes it. -/
  | setDefault (interface : String)
deriving Repr, DecidableEq

/-- Removes the association of a process. -/
def without (a : Associations) (pid : Int32) : List (Int32 × String) :=
  a.byPid.filter fun entry => entry.1 ≠ pid

def change (a : Associations) : Change → Associations
  | .associate interface pid => { a with byPid := (pid, interface) :: a.without pid }
  | .clear pid => { a with byPid := a.without pid }
  | .setDefault interface =>
    { a with fallback := if interface = "" then none else some interface }

/-- The interface that the lookups of a process use. -/
def interfaceFor (a : Associations) (pid : Int32) : Option String :=
  match a.byPid.lookup pid with
  | some interface => some interface
  | none => a.fallback

end Associations

end NetControl.Lookup
