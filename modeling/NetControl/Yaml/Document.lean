import NetControl.Yaml.Token

/-!
YAML documents that hold a flat mapping. A text has at most one document, and its root is a scalar
or a mapping from scalars to scalars. A scalar keeps its style, its text and its resolved tag; an
alias is replaced by the scalar it names. Every other text has no document here.
-/

namespace NetControl.Yaml

/-- A scalar of a document. -/
structure Scalar where
  text : String
  style : Style := .plain
  /-- The tag, with its handle resolved. -/
  tag : Option String := none
deriving Repr, DecidableEq

/-- The root of a document. -/
inductive Document where
  /-- A text without document. -/
  | void
  | scalar (s : Scalar)
  /-- The entries of a mapping, in order of appearance and with repeats. -/
  | mapping (entries : List (Scalar × Scalar))
deriving Repr, DecidableEq

/-! ## Directives -/

/-- The directives of a document. -/
structure Directives where
  hasVersion : Bool := false
  /-- What tag handles stand for. -/
  handles : List (List Char × List Char) := []
deriving Repr, DecidableEq

/-- The meaning of the handles that need no directive. -/
def defaultHandles : List (List Char × List Char) :=
  [(['!'], ['!']), (['!', '!'], "tag:yaml.org,2002:".toList)]

/-- The tag with its handle replaced by what it stands for. -/
def Directives.resolve (d : Directives) (t : TagText) : Option String :=
  if t.handle = [] then some (String.ofList t.suffix)
  else ((d.handles ++ defaultHandles).lookup t.handle).map fun stem =>
    String.ofList (stem ++ t.suffix)

/-- Reads the directives before a document. Nothing may be said twice, and the version must be 1.1
or 1.2. -/
def readDirectives (d : Directives) : List Token → Option (Directives × List Token)
  | .version major minor :: rest =>
    if d.hasVersion || major ≠ 1 || (minor ≠ 1 && minor ≠ 2) then none
    else readDirectives { d with hasVersion := true } rest
  | .handle name stem :: rest =>
    if (d.handles.lookup name).isSome then none
    else readDirectives { d with handles := d.handles ++ [(name, stem)] } rest
  | rest => some (d, rest)

/-! ## Scalars -/

/-- What stands before the content of a node. -/
structure Properties where
  anchor : Option (List Char) := none
  tag : Option String := none
deriving Repr, DecidableEq

/-- Whether nothing stands before the content. -/
def Properties.isEmpty (p : Properties) : Bool :=
  p.anchor.isNone && p.tag.isNone

/-- Reads an anchor and a tag, in either order, each at most once. -/
def readProperties (d : Directives) : List Token → Option (Properties × List Token)
  | .anchor a :: .tag t :: rest => (d.resolve t).map fun tag => (⟨some a, some tag⟩, rest)
  | .tag t :: .anchor a :: rest => (d.resolve t).map fun tag => (⟨some a, some tag⟩, rest)
  | .anchor a :: rest => some (⟨some a, none⟩, rest)
  | .tag t :: rest => (d.resolve t).map fun tag => (⟨none, some tag⟩, rest)
  | rest => some ({}, rest)

/-- The scalars that anchors name, latest first. -/
abbrev Anchors := List (List Char × Scalar)

/-- The scalar with the anchor of its properties, if it has one. -/
def Anchors.note (names : Anchors) (p : Properties) (s : Scalar) : Anchors :=
  match p.anchor with
  | some a => (a, s) :: names
  | none => names

/-- The scalar that a written scalar denotes. The tag `!` says no more than the style does. -/
def Properties.scalar (p : Properties) (style : Style) (text : List Char) : Scalar :=
  { text := String.ofList text, style, tag := p.tag.filter (· ≠ "!") }

/-- The scalar that stands where nothing is written. -/
def Properties.emptyScalar (p : Properties) : Scalar :=
  { text := "", tag := p.tag }

/-- Reads a scalar or an alias of one. After properties the scalar itself may be missing. -/
def readScalar (d : Directives) (names : Anchors) (tokens : List Token) :
    Option (Scalar × Anchors × List Token) := do
  match tokens with
  | .alias a :: rest => some (← names.lookup a, names, rest)
  | _ => do
    let (p, rest) ← readProperties d tokens
    match rest with
    | .scalar style text :: rest =>
      let s := p.scalar style text
      some (s, names.note p s, rest)
    | .blockStart :: _ | .flowStart :: _ => none
    | _ =>
      guard !p.isEmpty
      some (p.emptyScalar, names.note p p.emptyScalar, rest)

/-- Reads a scalar, or takes nothing if a token of a kind is next. -/
def readScalarUnless (stops : Token → Bool) (d : Directives) (names : Anchors)
    (tokens : List Token) : Option (Scalar × Anchors × List Token) :=
  if tokens.head?.any stops then some ({ text := "" }, names, tokens)
  else readScalar d names tokens

/-! ## Mappings -/

/-- Whether the token ends an entry on a line of its own, or a part of it. -/
def endsBlockPart : Token → Bool
  | .key | .value | .blockEnd => true
  | _ => false

/-- Reads the value of an entry on a line of its own, if it has one. -/
def readBlockValue (d : Directives) (names : Anchors) :
    List Token → Option (Scalar × Anchors × List Token)
  | .value :: rest => readScalarUnless endsBlockPart d names rest
  | rest => some ({ text := "" }, names, rest)

/-- Reads the entries of a mapping on lines of their own, through its end. -/
def readBlockEntries (d : Directives) :
    Nat → Anchors → List Token → Option (List (Scalar × Scalar) × List Token)
  | _, _, .blockEnd :: rest => some ([], rest)
  | fuel + 1, names, .key :: rest => do
    let (key, names, rest) ← readScalarUnless endsBlockPart d names rest
    let (value, names, rest) ← readBlockValue d names rest
    let (entries, rest) ← readBlockEntries d fuel names rest
    some ((key, value) :: entries, rest)
  | _, _, _ => none

/-- Whether the token ends an entry of a flow mapping. -/
def endsFlowEntry : Token → Bool
  | .comma | .flowEnd => true
  | _ => false

/-- Whether the token ends the key of an entry of a flow mapping. -/
def endsFlowKey : Token → Bool
  | .value => true
  | t => endsFlowEntry t

/-- Reads the value of an entry of a flow mapping, if it has one. -/
def readFlowValue (d : Directives) (names : Anchors) :
    List Token → Option (Scalar × Anchors × List Token)
  | .value :: rest => readScalarUnless endsFlowEntry d names rest
  | rest => some ({ text := "" }, names, rest)

/-- Reads an entry of a flow mapping. Without the mark of a key it has no value. -/
def readFlowEntry (d : Directives) (names : Anchors) :
    List Token → Option ((Scalar × Scalar) × Anchors × List Token)
  | .key :: rest => do
    let (key, names, rest) ← readScalarUnless endsFlowKey d names rest
    let (value, names, rest) ← readFlowValue d names rest
    some ((key, value), names, rest)
  | tokens => do
    let (key, names, rest) ← readScalar d names tokens
    some ((key, { text := "" }), names, rest)

/-- Reads the entries of a flow mapping, through its end. A comma stands between two entries, and
one may stand after the last. -/
def readFlowEntries (d : Directives) :
    Nat → Anchors → List Token → Option (List (Scalar × Scalar) × List Token)
  | _, _, .flowEnd :: rest => some ([], rest)
  | fuel + 1, names, tokens => do
    let (entry, names, rest) ← readFlowEntry d names tokens
    match rest with
    | .comma :: rest => do
      let (entries, rest) ← readFlowEntries d fuel names rest
      some (entry :: entries, rest)
    | .flowEnd :: rest => some ([entry], rest)
    | _ => none
  | 0, _, _ => none

/-! ## Documents -/

def readRoot (d : Directives) (tokens : List Token) : Option (Document × List Token) := do
  let (_, rest) ← readProperties d tokens
  match rest with
  | .blockStart :: rest => do
    let (entries, rest) ← readBlockEntries d rest.length [] rest
    some (.mapping entries, rest)
  | .flowStart :: rest => do
    let (entries, rest) ← readFlowEntries d rest.length [] rest
    some (.mapping entries, rest)
  | _ => do
    let (s, _, rest) ← readScalar d [] tokens
    some (.scalar s, rest)

/-- Whether the root of a document is missing before the token. -/
def endsDocument : Token → Bool
  | .version _ _ | .handle _ _ | .documentStart | .documentEnd => true
  | _ => false

def readStarted (d : Directives) (tokens : List Token) : Option (Document × List Token) :=
  if tokens.head?.all endsDocument then some (.scalar { text := "" }, tokens)
  else readRoot d tokens

/-- Reads the first document of a text. Directives need a start mark after them. -/
def readFirst (tokens : List Token) : Option (Document × List Token) := do
  let (d, rest) ← readDirectives {} tokens
  match rest with
  | .documentStart :: rest => readStarted d rest
  | _ =>
    guard (d = {})
    readRoot d rest

/-- The document of a list of tokens. Nothing but end marks may follow it. -/
def Document.ofTokens? (tokens : List Token) : Option Document := do
  if tokens = [] then some .void
  else
    let (doc, rest) ← readFirst tokens
    guard (rest.all (· = .documentEnd))
    some doc

def Document.parse? (text : String) : Option Document := do
  Document.ofTokens? (← Token.scan text.toList)

end NetControl.Yaml
