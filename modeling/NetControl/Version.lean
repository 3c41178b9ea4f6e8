/-!
Which build of the program this is.
-/

namespace NetControl

/-- What identifies a build. -/
structure Version where
  number : String
  /-- The revision of the sources. -/
  revision : String := "unknown"
  /-- The state of the sources. -/
  status : String := "unknown"
deriving Repr, DecidableEq

namespace Version

/-- This build. -/
def current : Version := { number := "0.0.0" }

/-- The build as one line. -/
def text (v : Version) : String :=
  "netd " ++ v.number ++ " (revision " ++ v.revision ++ ", " ++ v.status ++ ")"

end Version

end NetControl
