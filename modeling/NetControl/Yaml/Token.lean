import NetControl.Text.Number
import NetControl.Yaml.Scalar

/-!
Tokens of a YAML text. `Token.scan` reads a whole text. The key of an entry shows only at the colon
after it, so a token that may begin a key is kept as a candidate, and the colon puts the tokens that
announce the key before it. Sequences are not read, and neither are collections inside collections.
-/

namespace NetControl.Yaml

/-- The handle and the suffix of a tag. -/
structure TagText where
  handle : List Char
  suffix : List Char
deriving Repr, DecidableEq

/-- A token of a YAML text. -/
inductive Token where
  /-- The version that a document asks for. -/
  | version (major minor : Nat)
  /-- What a tag handle of a document stands for. -/
  | handle (name stem : List Char)
  | documentStart
  | documentEnd
  /-- The start of a mapping whose entries are on lines of their own. -/
  | blockStart
  | blockEnd
  | flowStart
  | flowEnd
  | comma
  | key
  | value
  | alias (name : List Char)
  | anchor (name : List Char)
  | tag (t : TagText)
  | scalar (style : Style) (text : List Char)
deriving Repr, DecidableEq

/-! ## Names, tags and directives -/

/-- Whether the character may follow the name of an anchor or an alias. -/
def endsName (c : Char) : Bool :=
  c = '?' || c = ':' || c = ',' || c = ']' || c = '}' || c = '%' || c = '@' || c = '`'

/-- Reads the name of an anchor or an alias after its mark. -/
def readName (k : Cursor) : Option (List Char × Cursor) := do
  let name := k.ahead.takeWhile isNameChar
  let k := k.skipMany name.length
  guard (name ≠ [] && (k.isSeparatedAt || k.peek.any endsName))
  some (name, k)

/-- The octet that two hexadecimal digits after a percent sign denote. -/
def readOctet (k : Cursor) : Option (Nat × Cursor) := do
  guard (k.isAt '%')
  let digits := (k.ahead.drop 1).take 2
  guard (digits.length = 2)
  some (← naturalIn? 16 digits, k.skipMany 3)

def readLaterOctets : Nat → Nat → Cursor → Option (Nat × Cursor)
  | 0, n, k => some (n, k)
  | count + 1, n, k => do
    let (octet, k) ← readOctet k
    guard (0x80 ≤ octet && octet < 0xc0)
    readLaterOctets count (n * 64 + (octet - 0x80)) k

/-- Reads a character that is written as percent signs and octets. A code point without character
becomes the replacement character. -/
def readEncoded (k : Cursor) : Option (Char × Cursor) := do
  let (octet, k) ← readOctet k
  let (count, start) ←
    if octet < 0x80 then some (0, octet)
    else if 0xc0 ≤ octet && octet < 0xe0 then some (1, octet - 0xc0)
    else if 0xe0 ≤ octet && octet < 0xf0 then some (2, octet - 0xe0)
    else if 0xf0 ≤ octet && octet < 0xf8 then some (3, octet - 0xf0)
    else none
  let (n, k) ← readLaterOctets count start k
  some ((charAt? n).getD '\uFFFD', k)

/-- Whether the character may stand in a tag; brackets and commas may only where a tag is written
in full. -/
def isTagChar (isFull : Bool) (c : Char) : Bool :=
  isNameChar c || c = ';' || c = '/' || c = '?' || c = ':' || c = '@' || c = '&' || c = '='
    || c = '+' || c = '$' || c = '.' || c = '%' || c = '!' || c = '~' || c = '*' || c = '\''
    || c = '(' || c = ')' || (isFull && (c = ',' || c = '[' || c = ']'))

/-- Reads the characters of a tag on from here. -/
def readTagFrom (isFull : Bool) : Nat → Cursor → Option (List Char × Cursor)
  | 0, _ => none
  | fuel + 1, k =>
    match k.peek with
    | some c =>
      if !isTagChar isFull c then some ([], k)
      else do
        let (char, k) ← if c = '%' then readEncoded k else some (c, k.skip)
        let (text, k) ← readTagFrom isFull fuel k
        some (char :: text, k)
    | none => some ([], k)

def readTagText (isFull : Bool) (k : Cursor) : Option (List Char × Cursor) :=
  readTagFrom isFull (k.ahead.length + 1) k

/-- The part of a tag that counts: what stands before its first null character. -/
def beforeNull (text : List Char) : List Char :=
  text.takeWhile (· ≠ '\x00')

/-- Reads a tag handle: an exclamation mark, a name and perhaps a second mark. -/
def readHandle (k : Cursor) : Option (List Char × Cursor) := do
  guard (k.isAt '!')
  let name := (k.ahead.drop 1).takeWhile isNameChar
  let k := k.skipMany (1 + name.length)
  some (if k.isAt '!' then ('!' :: name ++ ['!'], k.skip) else ('!' :: name, k))

/-- Reads a tag that begins with a handle. -/
def readShortTag (k : Cursor) : Option (TagText × Cursor) := do
  let (handle, k) ← readHandle k
  if handle.length > 1 && handle.getLast? = some '!' then
    let (suffix, k) ← readTagText false k
    guard (suffix ≠ [])
    some (⟨handle, beforeNull suffix⟩, k)
  else
    let (rest, k) ← readTagText false k
    let suffix := beforeNull (handle.drop 1 ++ rest)
    some (if suffix = [] then ⟨[], ['!']⟩ else ⟨['!'], suffix⟩, k)

/-- Reads a tag that stands in full between angle brackets. -/
def readFullTag (k : Cursor) : Option (TagText × Cursor) := do
  let (suffix, k) ← readTagText true (k.skipMany 2)
  guard (suffix ≠ [] && k.isAt '>')
  some (⟨[], beforeNull suffix⟩, k.skip)

def readTag (inFlow : Bool) (k : Cursor) : Option (TagText × Cursor) := do
  let (t, k) ← if k.peek 1 = some '<' then readFullTag k else readShortTag k
  guard (k.isSeparatedAt || (inFlow && k.isAt ','))
  some (t, k)

/-- Reads a part of a version number: at most nine digits. -/
def readVersionPart (k : Cursor) : Option (Nat × Cursor) := do
  let digits := k.ahead.takeWhile Text.isDigit
  guard (digits.length ≤ 9)
  some (← Text.readDigits? digits, k.skipMany digits.length)

/-- Reads what a version directive says. -/
def readVersion (k : Cursor) : Option (Token × Cursor) := do
  let (major, k) ← readVersionPart (k.skipWhile isBlank)
  guard (k.isAt '.')
  let (minor, k) ← readVersionPart k.skip
  some (.version major minor, k)

/-- Reads what a tag directive says. -/
def readHandleMeaning (k : Cursor) : Option (Token × Cursor) := do
  let (name, k) ← readHandle (k.skipWhile isBlank)
  guard (name = ['!'] || name.getLast? = some '!')
  guard (k.peek.any isBlank)
  let (stem, k) ← readTagText true (k.skipWhile isBlank)
  guard (stem ≠ [] && k.isSeparatedAt)
  some (.handle name (beforeNull stem), k)

/-- Reads a directive from its percent sign through the end of its line. -/
def readDirective (k : Cursor) : Option (Token × Cursor) := do
  let name := (k.ahead.drop 1).takeWhile isNameChar
  let k := k.skipMany (1 + name.length)
  guard k.isSeparatedAt
  let (token, k) ←
    if name = ['Y', 'A', 'M', 'L'] then readVersion k
    else if name = ['T', 'A', 'G'] then readHandleMeaning k
    else none
  let k := k.skipWhile isBlank
  let k := if k.isAt '#' then k.skipWhile (!isBreak ·) else k
  guard k.isLineEnd
  some (token, k.takeBreak.2)

/-! ## The scanner -/

/-- A token that may begin the key of an entry. -/
structure Candidate where
  /-- How many tokens stand before it. -/
  position : Nat
  index : Nat
  line : Nat
  column : Nat
  /-- Whether the text is wrong if no key begins here. -/
  isRequired : Bool
deriving Repr, DecidableEq

/-- The state of a scan. -/
structure Scanner where
  cursor : Cursor
  tokens : List Token := []
  /-- The column of the open mapping whose entries are on lines of their own. -/
  indent : Option Nat := none
  inFlow : Bool := false
  /-- Whether a key may begin here. -/
  isKeyAllowed : Bool := true
  /-- The candidate outside a flow mapping. -/
  outer : Option Candidate := none
  /-- The candidate inside a flow mapping. -/
  inner : Option Candidate := none
deriving Repr

namespace Scanner

/-- The candidate at the current level. -/
def candidate (s : Scanner) : Option Candidate :=
  if s.inFlow then s.inner else s.outer

/-- Replaces the candidate at the current level. -/
def withCandidate (s : Scanner) (c : Option Candidate) : Scanner :=
  if s.inFlow then { s with inner := c } else { s with outer := c }

/-- Drops the candidate at the current level, unless it is required. -/
def dropCandidate (s : Scanner) : Option Scanner :=
  if s.candidate.any (·.isRequired) then none else some (s.withCandidate none)

/-- Makes the token to come a candidate, if a key may begin here. -/
def saveCandidate (s : Scanner) : Option Scanner :=
  if !s.isKeyAllowed then some s
  else do
    let k := s.cursor
    let isRequired := !s.inFlow && s.indent = some k.column
    let s ← s.dropCandidate
    some (s.withCandidate (some ⟨s.tokens.length, k.index, k.line, k.column, isRequired⟩))

/-- How many characters a key may be away from its colon. -/
def keyReach : Nat := 1024

/-- Whether a key that begins at the candidate could no longer end here. -/
def isStale (k : Cursor) (c : Candidate) : Bool :=
  c.line < k.line || c.index + keyReach < k.index

/-- Drops the candidates that became stale. -/
def dropStale (s : Scanner) : Option Scanner :=
  let stale (c : Option Candidate) : Bool := c.any (isStale s.cursor)
  let isWrong (c : Option Candidate) : Bool := stale c && c.any (·.isRequired)
  if isWrong s.outer || isWrong s.inner then none
  else
    some { s with
      outer := if stale s.outer then none else s.outer
      inner := if stale s.inner then none else s.inner }

/-- Appends a token and moves on. -/
def push (s : Scanner) (t : Token) (k : Cursor) : Scanner :=
  { s with tokens := s.tokens ++ [t], cursor := k }

/-- Closes the open mapping if the text has left its column. -/
def leaveColumn (s : Scanner) (column : Option Nat) : Scanner :=
  match s.indent with
  | some n =>
    if !s.inFlow && (column.all (· < n)) then
      { s with indent := none, tokens := s.tokens ++ [.blockEnd] }
    else s
  | none => s

/-- Opens a mapping whose entries begin at a column, with its start put at a position among the
tokens. A mapping inside an open one is refused. -/
def enterColumn (s : Scanner) (column position : Nat) : Option Scanner :=
  if s.inFlow || s.indent.any (column ≤ ·) then some s
  else if s.indent.isSome then none
  else
    some { s with
      indent := some column
      tokens := s.tokens.take position ++ .blockStart :: s.tokens.drop position }

/-- Passes over blanks, comments and line breaks before a token. -/
def skipSpace : Nat → Scanner → Scanner
  | 0, s => s
  | fuel + 1, s =>
    let k := s.cursor
    let k := if k.column = 0 && k.isAt '\uFEFF' then k.skip else k
    let k := k.skipWhile fun c => c = ' ' || ((s.inFlow || !s.isKeyAllowed) && c = '\t')
    let k := if k.isAt '#' then k.skipWhile (!isBreak ·) else k
    if k.peek.any isBreak then
      skipSpace fuel { s with
        cursor := k.takeBreak.2
        isKeyAllowed := s.isKeyAllowed || !s.inFlow }
    else { s with cursor := k }

/-- Whether a plain scalar may begin here. -/
def isPlainStart (inFlow : Bool) (k : Cursor) : Bool :=
  match k.peek with
  | none => false
  | some c =>
    if c = '-' then !(k.peek 1).any isBlank
    else if c = '?' || c = ':' then !inFlow && !k.isSeparatedAt 1
    else !(k.isSeparatedAt || isFlowMark c || c = '#' || c = '&' || c = '*' || c = '!' || c = '|'
      || c = '>' || c = '\'' || c = '"' || c = '%' || c = '@' || c = '`')

/-- Reads a directive or a mark between documents. -/
def readBetween (s : Scanner) (t : Token) (k : Cursor) : Option Scanner := do
  let s ← (s.leaveColumn none).dropCandidate
  some ({ s with isKeyAllowed := false }.push t k)

def readKeyMark (s : Scanner) : Option Scanner := do
  guard (s.inFlow || s.isKeyAllowed)
  let s ← s.enterColumn s.cursor.column s.tokens.length
  let s ← s.dropCandidate
  some ({ s with isKeyAllowed := !s.inFlow }.push .key s.cursor.skip)

/-- Reads the mark of a value. A candidate becomes a key. -/
def readValueMark (s : Scanner) : Option Scanner := do
  let s ←
    match s.candidate with
    | some c => do
      let tokens := s.tokens.take c.position ++ .key :: s.tokens.drop c.position
      let s ← { s with tokens }.enterColumn c.column c.position
      some { s.withCandidate none with isKeyAllowed := false }
    | none => do
      guard (s.inFlow || s.isKeyAllowed)
      let s ← s.enterColumn s.cursor.column s.tokens.length
      some { s with isKeyAllowed := !s.inFlow }
  some (s.push .value s.cursor.skip)

/-- Reads a token that may begin a key. -/
def readCandidate (s : Scanner) (read : Cursor → Option (Token × Cursor)) : Option Scanner := do
  let s ← s.saveCandidate
  let (t, k) ← read s.cursor
  some ({ s with isKeyAllowed := false }.push t k)

/-- Reads a plain scalar. A key may follow it on a new line. -/
def readPlainToken (s : Scanner) : Option Scanner := do
  let s ← s.saveCandidate
  let (p, k) ← readPlain s.inFlow (s.indent.elim 0 (· + 1)) s.cursor
  some ({ s with isKeyAllowed := p.endsLine }.push (.scalar .plain p.text) k)

def readFlowStart (s : Scanner) : Option Scanner := do
  guard (!s.inFlow)
  let s ← s.saveCandidate
  some ({ s with inFlow := true, inner := none, isKeyAllowed := true }.push .flowStart s.cursor.skip)

def readFlowEnd (s : Scanner) : Option Scanner := do
  guard s.inFlow
  let s ← s.dropCandidate
  some ({ s with inFlow := false, isKeyAllowed := false }.push .flowEnd s.cursor.skip)

/-- Reads the mark between the entries of a flow mapping. -/
def readComma (s : Scanner) : Option Scanner := do
  guard s.inFlow
  let s ← s.dropCandidate
  some ({ s with isKeyAllowed := true }.push .comma s.cursor.skip)

/-- Reads a literal or folded block. -/
def readBlockToken (s : Scanner) (style : Style) : Option Scanner := do
  let s ← s.dropCandidate
  let (text, k) ← readBlock style s.indent s.cursor
  some ({ s with isKeyAllowed := true }.push (.scalar style text) k)

/-- Whether a mark of three characters, at the start of a line, stands here. -/
def isAtMark (mark : Char) (k : Cursor) : Bool :=
  k.isAtDocumentMark && k.isAt mark

def readToken (s : Scanner) (c : Char) : Option Scanner :=
  let k := s.cursor
  let isApart := k.isSeparatedAt 1
  if k.column = 0 && c = '%' then do
    let (t, k) ← readDirective k
    s.readBetween t k
  else if isAtMark '-' k then s.readBetween .documentStart (k.skipMany 3)
  else if isAtMark '.' k then s.readBetween .documentEnd (k.skipMany 3)
  else if c = '{' then s.readFlowStart
  else if c = '}' then s.readFlowEnd
  else if c = ',' then s.readComma
  else if c = '-' && isApart then none
  else if c = '?' && (s.inFlow || isApart) then s.readKeyMark
  else if c = ':' && (s.inFlow || isApart) then s.readValueMark
  else if c = '*' then
    s.readCandidate fun k => (readName k.skip).map fun (name, k) => (.alias name, k)
  else if c = '&' then
    s.readCandidate fun k => (readName k.skip).map fun (name, k) => (.anchor name, k)
  else if c = '!' then
    s.readCandidate fun k => (readTag s.inFlow k).map fun (t, k) => (.tag t, k)
  else if c = '|' && !s.inFlow then s.readBlockToken .literal
  else if c = '>' && !s.inFlow then s.readBlockToken .folded
  else if c = '\'' || c = '"' then
    s.readCandidate fun k => (readQuoted k).map fun (text, k) => (.scalar .quoted text, k)
  else if isPlainStart s.inFlow k then s.readPlainToken
  else none

/-- Reads the tokens that are left. -/
def run : Nat → Scanner → Option (List Token)
  | 0, _ => none
  | fuel + 1, s => do
    let s ← (skipSpace (s.cursor.ahead.length + 1) s).dropStale
    let s := s.leaveColumn (some s.cursor.column)
    match s.cursor.peek with
    | none => some (← (s.leaveColumn none).dropCandidate).tokens
    | some c => run fuel (← s.readToken c)

end Scanner

/-- The tokens of a text, if it is well formed and every character may stand in such a text. -/
def Token.scan (text : List Char) : Option (List Token) :=
  if text.all isAllowed then Scanner.run (text.length + 1) { cursor := { ahead := text } } else none

end NetControl.Yaml
