import NetControl.Text.Printable

/-!
Quoted text: a text between double quotes, on one line and free of characters that do not show.
Quotes and backslashes get a backslash before them, the common controls have a letter, and every
other character that does not show is written by its code point.
-/

namespace NetControl.Text

/-- The lower-case hexadecimal digits of a number, without leading zeros. -/
def hexDigits (n : Nat) : List Char :=
  Nat.toDigits 16 n

/-- One character as it is written between double quotes. -/
def quoteChar (c : Char) : List Char :=
  if c = '\x00' then ['\\', '0']
  else if c = '\t' then ['\\', 't']
  else if c = '\r' then ['\\', 'r']
  else if c = '\n' then ['\\', 'n']
  else if c = '"' then ['\\', '"']
  else if c = '\\' then ['\\', '\\']
  else if isPlain c then [c]
  else ['\\', 'u', '\x7b'] ++ hexDigits c.toNat ++ ['\x7d']

/-- A text between double quotes. -/
def quoted (s : String) : String :=
  String.ofList ('"' :: s.toList.flatMap quoteChar ++ ['"'])

/-- An optional text: `None`, or the quoted text inside `Some( )`. -/
def quotedOption : Option String → String
  | none => "None"
  | some s => "Some(" ++ quoted s ++ ")"

/-- Items between brackets, separated by a comma and a blank. -/
def bracketed (items : List String) : String :=
  "[" ++ String.intercalate ", " items ++ "]"

/-- A list of texts, each quoted. -/
def quotedList (items : List String) : String :=
  bracketed (items.map quoted)

/-- A set of texts between braces, each quoted, in the order given. -/
def quotedSet (items : List String) : String :=
  "\x7b" ++ String.intercalate ", " (items.map quoted) ++ "\x7d"

end NetControl.Text
