import NetControl.Bytes

/-!
The environment of a process.
-/

namespace NetControl.Settings

/-- The environment of a process: variables and their values. -/
structure Environment where
  entries : List (String × Bytes) := []
deriving Repr, DecidableEq

/-- The value of a variable. A value that is no text counts as unset. -/
def Environment.get? (env : Environment) (name : String) : Option String :=
  (env.entries.lookup name).bind Bytes.toString?

end NetControl.Settings
