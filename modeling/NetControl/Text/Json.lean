import NetControl.Text.Quoted

/-!
JSON texts on one line, without blanks. Members of an object stay in the order given.
-/

namespace NetControl.Text

/-- A JSON value without truth values, fractions and null. -/
inductive Json where
  | text (s : String)
  | number (n : Int)
  | list (items : List Json)
  | object (members : List (String × Json))
deriving Repr, Inhabited

namespace Json

/-- One character between double quotes. -/
def escape (c : Char) : List Char :=
  if c = '"' then ['\\', '"']
  else if c = '\\' then ['\\', '\\']
  else if c = '\x08' then ['\\', 'b']
  else if c = '\x0c' then ['\\', 'f']
  else if c = '\n' then ['\\', 'n']
  else if c = '\r' then ['\\', 'r']
  else if c = '\t' then ['\\', 't']
  else if c.toNat < 0x20 then
    let digits := hexDigits c.toNat
    ['\\', 'u'] ++ List.replicate (4 - digits.length) '0' ++ digits
  else [c]

/-- A text between double quotes. -/
def quote (s : String) : String :=
  String.ofList ('"' :: s.toList.flatMap escape ++ ['"'])

mutual

/-- The text of a value. -/
def render : Json → String
  | text s => quote s
  | number n => toString n
  | list items => "[" ++ renderItems items ++ "]"
  | object members => "\x7b" ++ renderMembers members ++ "\x7d"

/-- The texts of values, with commas between them. -/
def renderItems : List Json → String
  | [] => ""
  | [x] => x.render
  | x :: rest => x.render ++ "," ++ renderItems rest

/-- The texts of members, with commas between them. -/
def renderMembers : List (String × Json) → String
  | [] => ""
  | [(name, x)] => quote name ++ ":" ++ x.render
  | (name, x) :: rest => quote name ++ ":" ++ x.render ++ "," ++ renderMembers rest

end

end Json

end NetControl.Text
