import NetControl.Tether.Controller

/-!
The directory with the knobs of all interfaces. Each interface has a directory, named for it, with
one file for each knob. A text that would leave that directory is refused before any file is
opened.
-/

namespace NetControl.Tether

/-- The knob files of interfaces, with their texts. -/
structure KnobTree where
  root : String := ({} : Places).knobs
  interfaces : List (String × List (Knob × String)) := []
deriving Repr, DecidableEq

namespace KnobTree

/-! ## Writing below a root -/

/-- Whether a text is one directory name below the root. -/
def isDirectoryName (name : String) : Bool :=
  name ≠ "" && !name.toList.contains '/' && name ≠ "." && name ≠ ".."

/-- The failure of a text that is no directory name. -/
def nameError (name : String) : OsError :=
  .other ("invalid interface name " ++ Text.quoted name)

/-- The file of a knob, unless the text is no directory name. -/
def file? (root interface : String) (knob : Knob) : Except OsError String :=
  if isDirectoryName interface then .ok (Controller.knobPath root interface knob)
  else .error (nameError interface)

/-- Writes a setting to its knob's file, where `overwrite` opens the file at a path of the world and
replaces its text. -/
def writeSetting {ω : Type} (overwrite : (path text : String) → ω → Except OsError Unit × ω)
    (root interface : String) (s : Setting) (w : ω) : Except OsError Unit × ω :=
  match file? root interface s.knob with
  | .error e => (.error e, w)
  | .ok path =>
    if path.toList.contains '\x00' then (.error OsError.nulInPath, w)
    else overwrite path s.text w

/-! ## The files -/

/-- The greatest size of one name in a path, in bytes. -/
def nameLimit : Nat := 255

/-- Replaces the text of the knob at a path, if it is in the directory. -/
def replace (path text directory : String) :
    List (Knob × String) → Option (List (Knob × String))
  | [] => none
  | (k, old) :: rest =>
    if Controller.joinPath directory k.fileName = path then some ((k, text) :: rest)
    else (replace path text directory rest).map ((k, old) :: ·)

/-- Replaces the text of the knob at a path, if it is below the root. -/
def replaceBelow (path text root : String) :
    List (String × List (Knob × String)) → Option (List (String × List (Knob × String)))
  | [] => none
  | (name, knobs) :: rest =>
    match replace path text (Controller.joinPath root name) knobs with
    | some knobs => some ((name, knobs) :: rest)
    | none => (replaceBelow path text root rest).map ((name, knobs) :: ·)

def overwrite (path text : String) (t : KnobTree) : Except OsError Unit × KnobTree :=
  if (path.splitOn "/").any fun name => nameLimit < name.utf8ByteSize then (.error (.errno 36), t)
  else
    match replaceBelow path text t.root t.interfaces with
    | some interfaces => (.ok (), { t with interfaces })
    | none => (.error OsError.notFound, t)

/-- Adds an interface whose knob files all hold the same text. -/
def add (t : KnobTree) (interface : String) (knobs : List Knob) (text : String) : KnobTree :=
  { t with interfaces := t.interfaces ++ [(interface, knobs.map (·, text))] }

/-- The writer of knob files in diagnostic output. -/
def describeWriter (root : String) : String :=
  "ProcSysConfigurator \x7b root: " ++ Text.quoted root ++ " \x7d"

end KnobTree

end NetControl.Tether
