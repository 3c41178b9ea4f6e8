/-!
A place in a YAML text: what lies ahead, and the line and column reached. Lines and columns count
from zero, and a column is a number of characters.
-/

namespace NetControl.Yaml

/-- Whether the character ends a line. -/
def isBreak (c : Char) : Bool :=
  c = '\n' || c = '\r' || c = '\u0085' || c = '\u2028' || c = '\u2029'

/-- Whether the character is a blank within a line. -/
def isBlank (c : Char) : Bool :=
  c = ' ' || c = '\t'

/-- Whether the character may be part of a name. -/
def isNameChar (c : Char) : Bool :=
  ('0' ≤ c && c ≤ '9') || ('a' ≤ c && c ≤ 'z') || ('A' ≤ c && c ≤ 'Z') || c = '_' || c = '-'

/-- Whether the character may stand in a YAML text. -/
def isAllowed (c : Char) : Bool :=
  let n := c.toNat
  n = 9 || n = 10 || n = 13 || (0x20 ≤ n && n ≤ 0x7e) || n = 0x85
    || (0xa0 ≤ n && n ≤ 0xd7ff) || (0xe000 ≤ n && n ≤ 0xfffd) || 0x10000 ≤ n

/-- A place in a text. -/
structure Cursor where
  /-- What lies ahead. -/
  ahead : List Char
  /-- How many characters lie behind. -/
  index : Nat := 0
  line : Nat := 0
  column : Nat := 0
deriving Repr, DecidableEq

namespace Cursor

/-- The character some places ahead. -/
def peek (k : Cursor) (n : Nat := 0) : Option Char :=
  k.ahead[n]?

/-- Whether the next character is this one. -/
def isAt (k : Cursor) (c : Char) : Bool :=
  k.peek = some c

/-- Whether a blank, a line break or the end of the text is some places ahead. -/
def isSeparatedAt (k : Cursor) (n : Nat := 0) : Bool :=
  match k.peek n with
  | some c => isBlank c || isBreak c
  | none => true

def isLineEnd (k : Cursor) : Bool :=
  match k.peek with
  | some c => isBreak c
  | none => true

/-- Passes over one character of the line. -/
def skip (k : Cursor) : Cursor :=
  { k with ahead := k.ahead.drop 1, index := k.index + 1, column := k.column + 1 }

/-- Passes over some characters of the line. -/
def skipMany (k : Cursor) (n : Nat) : Cursor :=
  { k with ahead := k.ahead.drop n, index := k.index + n, column := k.column + n }

/-- Passes over the characters of the line while they satisfy a condition. -/
def skipWhile (k : Cursor) (p : Char → Bool) : Cursor :=
  k.skipMany (k.ahead.takeWhile p).length

/-- Begins a new line after passing over some characters. -/
def newLine (k : Cursor) (n : Nat) : Cursor :=
  { ahead := k.ahead.drop n, index := k.index + n, line := k.line + 1, column := 0 }

/-- Takes a line break, if one is here, and what it stands for in a scalar. -/
def takeBreak (k : Cursor) : List Char × Cursor :=
  match k.ahead with
  | '\r' :: '\n' :: _ => (['\n'], k.newLine 2)
  | c :: _ =>
    if isBreak c then
      ([if c = '\u2028' || c = '\u2029' then c else '\n'], k.newLine 1)
    else ([], k)
  | [] => ([], k)

/-- Whether the line begins with a mark that separates documents. -/
def isAtDocumentMark (k : Cursor) : Bool :=
  k.column = 0 && (k.ahead.take 3 = ['-', '-', '-'] || k.ahead.take 3 = ['.', '.', '.'])
    && k.isSeparatedAt 3

end Cursor

end NetControl.Yaml
