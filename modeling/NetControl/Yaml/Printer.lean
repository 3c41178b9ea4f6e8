import NetControl.Yaml.Number

/-!
Printed texts. `entry key text` is the entry of a mapping whose value is the text, in the plainest
style in which it is read back unchanged: plain, between single quotes, as a literal block where it
has several lines, and between double quotes where characters have to be escaped.
-/

namespace NetControl.Yaml

/-! ## What a text allows -/

/-- Whether the character may be printed as it is. -/
def isPrintable (c : Char) : Bool :=
  let n := c.toNat
  n = 10 || (0x20 ≤ n && n ≤ 0x7e) || (0xa0 ≤ n && n ≠ 0xfeff && n ≠ 0xfffe && n ≠ 0xffff)

/-- Whether the character breaks a line where it is printed as it is. -/
def isPrintedBreak (c : Char) : Bool :=
  c = '\n' || c = '\u2028' || c = '\u2029'

/-- Whether two neighbours in a text satisfy a condition. -/
def hasNeighbours (p : Char → Char → Bool) : List Char → Bool
  | a :: b :: rest => p a b || hasNeighbours p (b :: rest)
  | _ => false

/-- Whether a text has to be escaped, whatever its style. -/
def needsEscape (s : List Char) : Bool :=
  s.any (!isPrintable ·) || hasNeighbours (fun a b => a = ' ' && isPrintedBreak b) s

/-- Whether a text cannot stand between single quotes. -/
def needsDoubleQuotes (s : List Char) : Bool :=
  needsEscape s || hasNeighbours (fun a b => isPrintedBreak a && b = ' ') s

/-- Whether a text cannot be a literal block. -/
def refusesBlock (s : List Char) : Bool :=
  needsEscape s || s.getLast? = some ' '

/-- Whether the next character, if there is one, separates words. -/
def separates (next : Option Char) : Bool :=
  next.all fun c => isBlank c || isBreak c

/-- Whether a plain scalar must not begin with a character before another. -/
def isFirstMark (c : Char) (next : Option Char) : Bool :=
  isFlowMark c || c = '#' || c = '&' || c = '*' || c = '!' || c = '|' || c = '>' || c = '\''
    || c = '"' || c = '%' || c = '@' || c = '`'
    || ((c = '?' || c = ':' || c = '-') && separates next)

/-- Whether a character inside a plain scalar would end it. -/
def hasInnerMark : (before : Char) → List Char → Bool
  | _, [] => false
  | before, c :: rest =>
    (c = ':' && separates rest.head?) || (c = '#' && separates (some before))
      || hasInnerMark c rest

/-- Whether a text cannot be plain. -/
def refusesPlain (s : List Char) : Bool :=
  match s with
  | [] => true
  | c :: rest =>
    c = ' ' || s.getLast? = some ' ' || s.any isPrintedBreak
      || s.take 3 = ['-', '-', '-'] || s.take 3 = ['.', '.', '.']
      || isFirstMark c rest.head? || hasInnerMark c rest

/-! ## Styles -/

/-- Hexadecimal digits in capital letters, filled up with zeros to a width. -/
def capitalHex (width n : Nat) : List Char :=
  let digits := (Nat.toDigits 16 n).map Char.toUpper
  List.replicate (width - digits.length) '0' ++ digits

/-- One character between double quotes. -/
def escape (c : Char) : List Char :=
  if c = '\x00' then ['\\', '0']
  else if c = '\x07' then ['\\', 'a']
  else if c = '\x08' then ['\\', 'b']
  else if c = '\t' then ['\\', 't']
  else if c = '\n' then ['\\', 'n']
  else if c = '\x0b' then ['\\', 'v']
  else if c = '\x0c' then ['\\', 'f']
  else if c = '\r' then ['\\', 'r']
  else if c = '\x1b' then ['\\', 'e']
  else if c = '"' then ['\\', '"']
  else if c = '\\' then ['\\', '\\']
  else if c = '\u0085' then ['\\', 'N']
  else if c = '\u2028' then ['\\', 'L']
  else if c = '\u2029' then ['\\', 'P']
  else if isPrintable c then [c]
  else if c.toNat < 0x100 then ['\\', 'x'] ++ capitalHex 2 c.toNat
  else if c.toNat < 0x10000 then ['\\', 'u'] ++ capitalHex 4 c.toNat
  else ['\\', 'U'] ++ capitalHex 8 c.toNat

/-- A text between double quotes. -/
def doubleQuoted (s : List Char) : List Char :=
  '"' :: s.flatMap escape ++ ['"']

/-- How far the value of an entry is indented on a line of its own. -/
def indentation : List Char := [' ', ' ']

/-- A text with indentation at the start of each line that is not empty. The flag says whether a
line starts here. -/
def indented (quote : Char → List Char) : (startsLine : Bool) → List Char → List Char
  | _, [] => []
  | startsLine, c :: rest =>
    if isPrintedBreak c then c :: indented quote true rest
    else (if startsLine then indentation else []) ++ quote c ++ indented quote false rest

/-- Whether the text ends with a character that breaks a line. -/
def endsLine (s : List Char) : Bool :=
  s.getLast?.any isPrintedBreak

/-- A text between single quotes; a quote inside is doubled. -/
def singleQuoted (s : List Char) : List Char :=
  let body := indented (fun c => if c = '\'' then ['\'', '\''] else [c]) false s
  '\'' :: body ++ (if endsLine s then indentation else []) ++ ['\'']

/-- The header of a literal block: how far it is indented, where its first character would hide
that, and what becomes of its last line breaks. -/
def blockHeader (s : List Char) : List Char :=
  let hint := if s.head?.any fun c => c = ' ' || isPrintedBreak c then ['2'] else []
  let chomping :=
    match s.reverse with
    | [] => ['-']
    | [c] => if isPrintedBreak c then ['+'] else ['-']
    | last :: previous :: _ =>
      if !isPrintedBreak last then ['-'] else if isPrintedBreak previous then ['+'] else []
  '|' :: hint ++ chomping ++ ['\n']

/-- A text as the value of an entry, up to the end of its last line. -/
def printed (text : String) : List Char :=
  let s := text.toList
  if s.contains '\n' && !refusesBlock s then
    blockHeader s ++ indented (fun c => [c]) true s ++ (if endsLine s then [] else ['\n'])
  else if needsDoubleQuotes s || s.contains '\n' then doubleQuoted s ++ ['\n']
  else if isAmbiguous text || refusesPlain s then singleQuoted s ++ ['\n']
  else s ++ ['\n']

/-- An entry of a mapping whose value is a text. -/
def entry (key text : String) : String :=
  key ++ ": " ++ String.ofList (printed text)

/-- An entry of a mapping whose value is a number. -/
def numberEntry (key : String) (n : Nat) : String :=
  key ++ ": " ++ toString n ++ "\n"

end NetControl.Yaml
