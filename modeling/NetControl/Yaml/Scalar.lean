import NetControl.Yaml.Cursor

/-!
Scalars of a YAML text: plain words, quoted texts and literal or folded blocks, each read at a
cursor. A line break inside a plain or quoted scalar counts as one blank, further breaks stand for
themselves, and a block keeps or folds its lines as its header says.
-/

namespace NetControl.Yaml

/-- How a scalar is written. -/
inductive Style where
  | plain
  | quoted
  | literal
  | folded
deriving Repr, DecidableEq

/-! ## Gaps between the words of a scalar -/

/-- The blanks and line breaks between two words of a scalar. -/
structure Gap where
  /-- The blanks before the first line break. -/
  blanks : List Char := []
  /-- Whether the line is left. -/
  isBroken : Bool := false
  /-- What the first line break stands for. -/
  first : List Char := []
  /-- What the further line breaks stand for. -/
  more : List Char := []
deriving Repr, DecidableEq

namespace Gap

/-- What a gap stands for: one line break is a blank, and further ones are kept. -/
def text (g : Gap) : List Char :=
  if !g.isBroken then g.blanks
  else if g.first = ['\n'] then
    if g.more = [] then [' '] else g.more
  else g.first ++ g.more

/-- Reads a gap on from here. On a new line a tab must not stand before column `indent`. -/
def read (indent : Nat) : Nat → Gap → Cursor → Option (Gap × Cursor)
  | 0, _, _ => none
  | fuel + 1, g, k =>
    match k.peek with
    | none => some (g, k)
    | some c =>
      if isBlank c then
        if g.isBroken then
          if c = '\t' && k.column < indent then none else read indent fuel g k.skip
        else read indent fuel { g with blanks := g.blanks ++ [c] } k.skip
      else if isBreak c then
        let (ending, k') := k.takeBreak
        if g.isBroken then read indent fuel { g with more := g.more ++ ending } k'
        else read indent fuel { g with blanks := [], isBroken := true, first := ending } k'
      else some (g, k)

end Gap

/-! ## Plain scalars -/

/-- Whether the character separates the entries of a flow collection. -/
def isFlowMark (c : Char) : Bool :=
  c = ',' || c = '[' || c = ']' || c = '{' || c = '}'

/-- Reads the characters of a plain scalar up to a blank, a line break or a character that ends the
scalar. In a flow collection a colon must not be followed by a mark. -/
def readPlainWord (inFlow : Bool) : Nat → Cursor → Option (List Char × Cursor)
  | 0, _ => none
  | fuel + 1, k =>
    match k.peek with
    | none => some ([], k)
    | some c =>
      let next := k.peek 1
      if k.isSeparatedAt then some ([], k)
      else if inFlow && c = ':' && (next.any fun d => d = '?' || isFlowMark d) then none
      else if (c = ':' && k.isSeparatedAt 1) || (inFlow && isFlowMark c) then some ([], k)
      else do
        let (word, k) ← readPlainWord inFlow fuel k.skip
        some (c :: word, k)

/-- A plain scalar as far as it is read. -/
structure Plain where
  text : List Char
  /-- Whether line breaks follow the last word. -/
  endsLine : Bool
deriving Repr, DecidableEq

/-- Reads a plain scalar on from here: words and the gaps between them. Outside flow collections
every further line must be indented by `indent` columns. -/
def readPlainFrom (inFlow : Bool) (indent : Nat) :
    Nat → List Char → Gap → Cursor → Option (Plain × Cursor)
  | 0, _, _, _ => none
  | fuel + 1, text, gap, k =>
    if k.isAtDocumentMark || k.isAt '#' then some (⟨text, gap.isBroken⟩, k)
    else do
      let (word, k) ← readPlainWord inFlow (k.ahead.length + 1) k
      let (text, gap) := if word = [] then (text, gap) else (text ++ gap.text ++ word, {})
      if k.ahead = [] || !k.isSeparatedAt then some (⟨text, gap.isBroken⟩, k)
      else do
        let (gap, k) ← Gap.read indent (k.ahead.length + 1) {} k
        if !inFlow && k.column < indent then some (⟨text, gap.isBroken⟩, k)
        else readPlainFrom inFlow indent fuel text gap k

def readPlain (inFlow : Bool) (indent : Nat) (k : Cursor) : Option (Plain × Cursor) :=
  readPlainFrom inFlow indent (k.ahead.length + 1) [] {} k

/-! ## Quoted scalars -/

/-- The value of a hexadecimal digit. -/
def hexValue? (c : Char) : Option Nat :=
  if '0' ≤ c && c ≤ '9' then some (c.toNat - 48)
  else if 'a' ≤ c && c ≤ 'f' then some (c.toNat - 87)
  else if 'A' ≤ c && c ≤ 'F' then some (c.toNat - 55)
  else none

/-- The number that digits of a base up to sixteen denote, if there are any. -/
def naturalIn? (base : Nat) (digits : List Char) : Option Nat := do
  guard (digits ≠ [])
  digits.foldlM (fun n c => ((hexValue? c).filter (· < base)).map (n * base + ·)) 0

/-- The character with a code point, if there is one. -/
def charAt? (n : Nat) : Option Char :=
  if n.isValidChar then some (Char.ofNat n) else none

/-- The character that a letter after a backslash stands for. -/
def escapeLetter? : Char → Option Char
  | '0' => some '\x00'
  | 'a' => some '\x07'
  | 'b' => some '\x08'
  | 't' => some '\t'
  | '\t' => some '\t'
  | 'n' => some '\n'
  | 'v' => some '\x0b'
  | 'f' => some '\x0c'
  | 'r' => some '\r'
  | 'e' => some '\x1b'
  | ' ' => some ' '
  | '"' => some '"'
  | '/' => some '/'
  | '\\' => some '\\'
  | 'N' => some '\u0085'
  | '_' => some '\u00a0'
  | 'L' => some '\u2028'
  | 'P' => some '\u2029'
  | _ => none

/-- How many hexadecimal digits follow a letter after a backslash. -/
def escapeWidth? : Char → Option Nat
  | 'x' => some 2
  | 'u' => some 4
  | 'U' => some 8
  | _ => none

/-- Reads an escape after its backslash. -/
def readEscape (k : Cursor) : Option (Char × Cursor) := do
  let c ← k.peek
  match escapeWidth? c with
  | some width =>
    let digits := (k.ahead.drop 1).take width
    guard (digits.length = width)
    let char ← charAt? (← naturalIn? 16 digits)
    some (char, k.skipMany (1 + width))
  | none => some (← escapeLetter? c, k.skip)

/-- Reads the characters of a quoted scalar up to a blank, a line break or the closing quote. The
flag says whether the word ends with a line break after a backslash, which stands for nothing. -/
def readQuotedWord (quote : Char) : Nat → Cursor → Option (List Char × Bool × Cursor)
  | 0, _ => none
  | fuel + 1, k =>
    match k.peek with
    | none => some ([], false, k)
    | some c =>
      let more (c : Char) (k : Cursor) : Option (List Char × Bool × Cursor) :=
        (readQuotedWord quote fuel k).map fun (word, isBroken, k) => (c :: word, isBroken, k)
      if k.isSeparatedAt then some ([], false, k)
      else if quote = '\'' && c = '\'' && k.peek 1 = some '\'' then more '\'' (k.skipMany 2)
      else if c = quote then some ([], false, k)
      else if quote = '"' && c = '\\' then
        if (k.peek 1).any isBreak then some ([], true, k.skip.takeBreak.2)
        else do
          let (char, k) ← readEscape k.skip
          more char k
      else more c k.skip

/-- Reads a quoted scalar on from here, through its closing quote. It must not run into a document
mark or the end of the text. -/
def readQuotedFrom (quote : Char) : Nat → List Char → Cursor → Option (List Char × Cursor)
  | 0, _, _ => none
  | fuel + 1, text, k =>
    if k.isAtDocumentMark || k.ahead = [] then none
    else do
      let (word, isBroken, k) ← readQuotedWord quote (k.ahead.length + 1) k
      if k.isAt quote then some (text ++ word, k.skip)
      else do
        let (gap, k) ← Gap.read 0 (k.ahead.length + 1) { isBroken } k
        readQuotedFrom quote fuel (text ++ word ++ gap.text) k

/-- Reads a quoted scalar, from its opening quote through its closing one. -/
def readQuoted (k : Cursor) : Option (List Char × Cursor) := do
  readQuotedFrom (← k.peek) (k.ahead.length + 1) [] k.skip

/-! ## Block scalars -/

/-- What becomes of the line breaks at the end of a block. -/
inductive Chomping where
  /-- None is kept. -/
  | strip
  /-- One is kept. -/
  | clip
  /-- All are kept. -/
  | keep
deriving Repr, DecidableEq

/-- Reads the mark that says what becomes of the last line breaks, if one is here. -/
def readChomping (k : Cursor) : Option Chomping × Cursor :=
  match k.peek with
  | some '+' => (some .keep, k.skip)
  | some '-' => (some .strip, k.skip)
  | _ => (none, k)

/-- Reads the digit that says by how much a block is indented, if one is here. It must not be
zero. -/
def readIncrement (k : Cursor) : Option (Option Nat × Cursor) :=
  match k.peek with
  | some c =>
    if c = '0' then none
    else if '1' ≤ c && c ≤ '9' then some (some (c.toNat - 48), k.skip)
    else some (none, k)
  | none => some (none, k)

/-- Reads the header of a block, up to the end of its line: the two marks in either order, then
perhaps a comment. -/
def readBlockHeader (k : Cursor) : Option (Chomping × Option Nat × Cursor) := do
  let (before, k) := readChomping k
  let (increment, k) ← readIncrement k
  let (chomping, k) :=
    if before.isNone && increment.isSome then readChomping k else (before, k)
  let k := k.skipWhile isBlank
  let k := if k.isAt '#' then k.skipWhile (!isBreak ·) else k
  guard k.isLineEnd
  some (chomping.getD .clip, increment, k.takeBreak.2)

/-- Passes over the blanks that indent a line, up to column `indent` where that is known. -/
def skipIndent (indent : Option Nat) : Nat → Cursor → Cursor
  | 0, k => k
  | fuel + 1, k =>
    if (indent.all fun n => k.column < n) && k.isAt ' ' then skipIndent indent fuel k.skip else k

/-- Reads empty lines and the indentation of the line after them. The number is the largest column
reached. No tab may stand for indentation. -/
def readEmptyLines (indent : Option Nat) :
    Nat → Nat → List Char → Cursor → Option (Nat × List Char × Cursor)
  | 0, _, _, _ => none
  | fuel + 1, widest, breaks, k =>
    let k := skipIndent indent k.ahead.length k
    let widest := max widest k.column
    if (indent.all fun n => k.column < n) && k.isAt '\t' then none
    else if k.peek.any isBreak then
      let (ending, k) := k.takeBreak
      readEmptyLines indent fuel widest (breaks ++ ending) k
    else some (widest, breaks, k)

/-- A block as far as it is read. -/
structure Block where
  text : List Char := []
  /-- Whether the last line begins with a blank. -/
  isIndented : Bool := false
  /-- What the line break after the last line stands for. -/
  first : List Char := []
  /-- What the empty lines after it stand for. -/
  more : List Char := []
deriving Repr, DecidableEq

namespace Block

/-- What the line breaks after the last line stand for before another line. In a folded block the
break between two lines without further indentation is a blank. -/
def gap (style : Style) (b : Block) (isIndented : Bool) : List Char :=
  if style = .folded && b.first = ['\n'] && !b.isIndented && !isIndented then
    if b.more = [] then [' '] else b.more
  else b.first ++ b.more

/-- The text of the whole block. -/
def close (chomping : Chomping) (b : Block) : List Char :=
  match chomping with
  | .strip => b.text
  | .clip => b.text ++ b.first
  | .keep => b.text ++ b.first ++ b.more

end Block

/-- Reads the lines of a block that stand at column `indent`. -/
def readBlockLines (style : Style) (indent : Nat) : Nat → Block → Cursor → Option (Block × Cursor)
  | 0, _, _ => none
  | fuel + 1, b, k =>
    if k.column = indent && k.ahead ≠ [] then do
      let isIndented := k.peek.any isBlank
      let line := k.ahead.takeWhile (!isBreak ·)
      let text := b.text ++ b.gap style isIndented ++ line
      let (first, k) := (k.skipMany line.length).takeBreak
      let (_, more, k) ← readEmptyLines (some indent) (k.ahead.length + 1) 0 [] k
      readBlockLines style indent fuel { text, isIndented, first, more } k
    else some (b, k)

/-- Reads a literal or folded block from its first mark. The block is indented more than its
parent, whose column is `parent`, if it has one. -/
def readBlock (style : Style) (parent : Option Nat) (k : Cursor) :
    Option (List Char × Cursor) := do
  let (chomping, increment, k) ← readBlockHeader k.skip
  let known := increment.map (parent.getD 0 + ·)
  let (widest, more, k) ← readEmptyLines known (k.ahead.length + 1) 0 [] k
  let least := max (parent.elim 0 (· + 1)) 1
  let indent := known.getD (max widest least)
  let (b, k) ← readBlockLines style indent (k.ahead.length + 1) { more } k
  some (b.close chomping, k)

end NetControl.Yaml
