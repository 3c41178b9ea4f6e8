import NetControl.Daemon.Listener
import NetControl.Rehearsal.Host

/-!
Paths of a rehearsed host: which directories and files there are, and what removing a file or
binding a socket at a path answers. Paths are relative to the working directory.
-/

namespace NetControl.Rehearsal

open Daemon Tether

/-- The directories and files below the working directory, by the names on the way to them. -/
structure Paths where
  nodes : List (List String × FileState) := []
deriving Repr, DecidableEq

namespace Paths

def namesOf (path : String) : List String :=
  (path.splitOn "/").filter fun name => name ≠ "" && name ≠ "."

/-- What is at the end of a way. -/
def node (p : Paths) (names : List String) : FileState :=
  if names = [] then .directory else (p.nodes.lookup names).getD .missing

def put (p : Paths) (path : String) (state : FileState) : Paths :=
  let names := namesOf path
  ⟨(names, state) :: p.nodes.filter fun node => node.1 ≠ names⟩

/-- Why the way to a name cannot be walked: something before it is missing or no directory, or a
name is too long. -/
def walkError? (p : Paths) : (walked : List String) → List String → Option OsError
  | _, [] => none
  | walked, name :: rest =>
    match p.node walked with
    | .missing => some OsError.notFound
    | .file _ => some (.errno 20)
    | .refused e => some e
    | .directory =>
      if KnobTree.nameLimit < name.utf8ByteSize then some (.errno 36)
      else walkError? p (walked ++ [name]) rest

/-- The greatest size of a path, in bytes. -/
def pathLimit : Nat := 4095

/-- The greatest size of the path of a socket, in bytes. -/
def socketPathLimit : Nat := 107

/-- Whether the path can only be that of a directory. -/
def asksForDirectory (path : String) : Bool :=
  path.endsWith "/" || path.endsWith "/."

/-- What the opening of a file answers: a failure, or what is there. -/
def opening (p : Paths) (path : String) : Except OsError FileState :=
  if path = "" then .error OsError.notFound
  else if pathLimit < path.utf8ByteSize then .error (.errno 36)
  else
    match p.walkError? [] (namesOf path) with
    | some e => .error e
    | none =>
      match p.node (namesOf path) with
      | .missing => .error OsError.notFound
      | .file text => if asksForDirectory path then .error (.errno 20) else .ok (.file text)
      | .directory => .ok .directory
      | .refused e => .error e

/-- What is at the end of a path, as far as opening it tells. -/
def state (p : Paths) (path : String) : FileState :=
  match p.opening path with
  | .ok state => state
  | .error e => .refused e

/-- Why a program cannot be launched: no file here is a program. A name alone is looked for
elsewhere. -/
def launchError (p : Paths) (path : String) : OsError :=
  if path.toList.contains '/' then
    match p.opening path with
    | .ok _ => .errno 13
    | .error e => e
  else OsError.notFound

/-- What the removal of a file answers. -/
def removal (p : Paths) (path : String) : Except OsError Unit :=
  if path.toList.contains '\x00' then .error OsError.nulInPath
  else if path = "" then .error OsError.notFound
  else if pathLimit < path.utf8ByteSize then .error (.errno 36)
  else
    match p.walkError? [] (namesOf path) with
    | some e => .error e
    | none =>
      match p.node (namesOf path) with
      | .file _ => .ok ()
      | .missing => .error OsError.notFound
      | .directory => .error OsError.isDirectory
      | .refused e => .error e

/-- What the binding of a socket answers where nothing is left at its path. -/
def binding (p : Paths) (path : String) : Except OsError Unit :=
  if socketPathLimit < path.utf8ByteSize then .error (.other "path must be shorter than SUN_LEN")
  else
    match p.walkError? [] (namesOf path) with
    | some e => .error e
    | none => .ok ()

def answers (p : Paths) (path : String) : PathAnswers :=
  ⟨p.removal path, p.binding path⟩

/-- What is on every host: a device that is always empty. -/
def bare : Paths :=
  ⟨[(["dev"], .directory), (["dev", "null"], .file "")]⟩

/-- The directory with the knobs of interfaces. -/
def ofKnobs (root : String) (t : KnobTree) : Paths :=
  t.interfaces.foldl (fun p (name, knobs) =>
      knobs.foldl (fun p (k, text) => p.put (root ++ "/" ++ name ++ "/" ++ k.fileName) (.file text))
        (p.put (root ++ "/" ++ name) .directory))
    (({} : Paths).put root .directory)

end Paths

end NetControl.Rehearsal
