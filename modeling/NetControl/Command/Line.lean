/-!
Request lines and their arguments. Arguments are separated by single blanks, double quotes group an
argument that holds blanks, and a backslash may stand before a backslash or a double quote only.

`Line.parse` reads a line and `Line.quote` writes an argument so that it reads back.
-/

namespace NetControl.Command

/-- Why a request line has no argument list. -/
inductive LineError where
  /-- A double quote opens and none closes. -/
  | unclosedQuote
  /-- A backslash stands before neither a backslash nor a double quote. -/
  | badEscape
  /-- The line is longer than a request may be. -/
  | tooLong
deriving Repr, DecidableEq

/-- The wording sent to the client. -/
def LineError.message : LineError → String
  | unclosedQuote => "Unclosed quotes error"
  | badEscape => "Received unsupported escape sequence"
  | tooLong => "Command too large for buffer"

namespace Line

/-- Puts a character in front of the first field. -/
def extend (c : Char) : List (List Char) → List (List Char)
  | [] => [[c]]
  | field :: fields => (c :: field) :: fields

/-- The fields of a line, at least one of them; `quoted` says whether a quote is open. -/
def fields : (quoted : Bool) → List Char → Except LineError (List (List Char))
  | true, [] => .error .unclosedQuote
  | false, [] => .ok [[]]
  | _, ['\\'] => .error .badEscape
  | quoted, '\\' :: c :: rest =>
    if c = '\\' ∨ c = '"' then (fields quoted rest).map (extend c) else .error .badEscape
  | quoted, '"' :: rest => fields (!quoted) rest
  | quoted, c :: rest =>
    if c = ' ' ∧ quoted = false then (fields quoted rest).map ([] :: ·)
    else (fields quoted rest).map (extend c)

/-- The arguments of a line of characters: its fields, or none where a single empty field is all
there is. -/
def arguments (line : List Char) : Except LineError (List (List Char)) :=
  (fields false line).map fun found => if found = [[]] then [] else found

/-- The arguments of a line. -/
def parse (line : String) : Except LineError (List String) :=
  (arguments line.toList).map (·.map String.ofList)

/-- One character inside quotes. -/
def escape (c : Char) : List Char :=
  if c = '\\' ∨ c = '"' then ['\\', c] else [c]

/-- An argument between double quotes. -/
def quote (argument : List Char) : List Char :=
  '"' :: argument.flatMap escape ++ ['"']

end Line

end NetControl.Command
