import NetControl.Log.Event

/-!
Which log events are shown. A filter is a list of directives, written with commas between them, such
as `info,netd::tether=debug`. A directive sets how much is shown for the targets that begin with its
own, and the most specific directive decides. A directive may also name a span, between brackets,
and conditions on its fields, between braces; then it lets through whatever arises in such a span.
-/

namespace NetControl.Log

/-- How much is shown: events of a level and of those that matter more, or nothing. -/
abbrev Threshold := Option Level

/-- Whether events of a level are shown. -/
def Threshold.admits (t : Threshold) (level : Level) : Bool :=
  t.any fun most => level.rank ≤ most.rank

/-- The threshold of a lower-case word. -/
def Threshold.ofWord : List Char → Option Threshold
  | ['o', 'f', 'f'] => some none
  | ['e', 'r', 'r', 'o', 'r'] => some (some .error)
  | ['w', 'a', 'r', 'n'] => some (some .warn)
  | ['i', 'n', 'f', 'o'] => some (some .info)
  | ['d', 'e', 'b', 'u', 'g'] => some (some .debug)
  | ['t', 'r', 'a', 'c', 'e'] => some (some .trace)
  | _ => none

def Threshold.ofNumber : UInt64 → Option Threshold
  | 0 => some none
  | 1 => some (some .error)
  | 2 => some (some .warn)
  | 3 => some (some .info)
  | 4 => some (some .debug)
  | 5 => some (some .trace)
  | _ => none

/-- The threshold that a text names, by a word in letters of any case or by a number. -/
def Threshold.parse? (s : List Char) : Option Threshold :=
  match Text.readUInt64? (String.ofList s) with
  | some n => Threshold.ofNumber n
  | none => Threshold.ofWord (s.map Char.toLower)

/-- A condition on a field: it is there, and its text begins the given one. -/
structure FieldCondition where
  name : String
  value : Option String
deriving Repr, DecidableEq

/-- One directive of a filter. -/
structure Directive where
  threshold : Threshold
  /-- With what targets have to begin. -/
  target : Option String := none
  /-- The name of the span. -/
  span : Option String := none
  fields : List FieldCondition := []
deriving Repr, DecidableEq

namespace Directive

/-! ## Reading -/

/-- The threshold after an equals sign. Without one everything is shown. -/
def parseThreshold (s : List Char) : Option Threshold :=
  if s = [] then some (some .trace) else Threshold.parse? s

def parseField (s : List Char) : Option FieldCondition := do
  guard (s ≠ [])
  let name := s.takeWhile (· ≠ '=')
  let value := match s.dropWhile (· ≠ '=') with
    | [] => none
    | _ :: rest => some (String.ofList (rest.takeWhile (· ≠ '=')))
  some ⟨String.ofList name, value⟩

/-- Reads what follows the brackets of a span. -/
def parseAfterSpan (d : Directive) : List Char → Option Directive
  | [] => some d
  | '=' :: rest => do
    let threshold ← parseThreshold rest
    some { d with threshold }
  | _ => none

/-- Reads a span after its opening bracket. -/
def parseSpan (d : Directive) (s : List Char) : Option Directive := do
  let name := s.takeWhile fun c => c ≠ ']' && c ≠ '{'
  match s.drop name.length with
  | ']' :: rest => parseAfterSpan { d with span := some (String.ofList name) } rest
  | '{' :: rest =>
    let condition := rest.takeWhile (· ≠ '}')
    let field ← parseField condition
    let span := if name = [] then none else some (String.ofList name)
    match rest.drop condition.length with
    | '}' :: ']' :: rest => parseAfterSpan { d with span, fields := [field] } rest
    | _ => none
  | _ => none

/-- Whether the character may begin a directive without a span. -/
def isStart (c : Char) : Bool :=
  c.isAlphanum || c = '-' || c = ':' || c = '_' || 0x80 ≤ c.toNat

/-- Reads a directive. A word that names a threshold has no target, and a target without a
threshold shows everything. -/
def parse? (s : List Char) : Option Directive := do
  let everything : Directive := { threshold := some .trace }
  match s with
  | [] => none
  | '[' :: rest => parseSpan everything rest
  | c :: _ =>
    guard (isStart c)
    let word := s.takeWhile fun c => c ≠ '=' && c ≠ '['
    let target := some (String.ofList word)
    match s.drop word.length with
    | '=' :: rest => (parseThreshold rest).map fun threshold => { threshold, target }
    | '[' :: rest => parseSpan { everything with target } rest
    | _ =>
      match Threshold.parse? word with
      | some threshold => some { threshold }
      | none => some { everything with target }

/-! ## What a directive is about -/

/-- Whether a directive decides by target alone, or by target and the names of fields. -/
def isStatic (d : Directive) : Bool :=
  d.span.isNone && d.fields.all (·.value.isNone)

/-- Whether a directive is about spans. -/
def isScoped (d : Directive) : Bool :=
  d.span.isSome || d.fields ≠ []

/-- Whether a target begins as the directive says. -/
def coversTarget (d : Directive) (target : String) : Bool :=
  d.target.all fun start => start.toList.isPrefixOf target.toList

/-- Whether one list of names comes before another, by the characters of the first name in which
they differ. -/
def namesPrecede (a b : List String) : Bool :=
  a.lex b fun s t => s.toList.lex t.toList fun c d => c.toNat < d.toNat

/-- Whether one directive is at least as specific as another: a longer target, then more fields, then
fields that come later in order. -/
def isAsSpecific (a b : Directive) : Bool :=
  let size (d : Directive) : Nat := d.target.elim 0 fun t => t.utf8ByteSize + 1
  let names (d : Directive) : List String := d.fields.map (·.name)
  if size a ≠ size b then size b < size a
  else if a.fields.length ≠ b.fields.length then b.fields.length < a.fields.length
  else !namesPrecede (names a) (names b)

/-- Whether a directive is about a span, whatever the values of its fields. -/
def concerns (d : Directive) (s : Span) : Bool :=
  d.isScoped && d.coversTarget s.target && d.span.all (· = s.name)
    && d.fields.all fun f => s.fields.any (·.1 = f.name)

/-- Whether the fields of a span satisfy a directive. -/
def isMetBy (d : Directive) (s : Span) : Bool :=
  d.fields.all fun f => f.value.all fun text =>
    (s.fields.lookup f.name).any fun v => v.written.toList.isPrefixOf text.toList

end Directive

/-- A filter. -/
structure Filter where
  directives : List Directive
deriving Repr, DecidableEq

namespace Filter

def upTo (level : Level) : Filter := ⟨[{ threshold := some level }]⟩

/-- Cuts a text into the pieces between commas. -/
def pieces (s : List Char) : List (List Char) :=
  s.foldr (fun c parts =>
    if c = ',' then [] :: parts
    else
      match parts with
      | part :: rest => (c :: part) :: rest
      | [] => [[c]]) [[]]

/-- A text without blanks at its ends. -/
def trimmed (s : List Char) : List Char :=
  ((s.dropWhile Text.isBlank).reverse.dropWhile Text.isBlank).reverse

/-- The filter that a text denotes. Empty pieces do not count, and without directives only errors
are shown. -/
def parse? (s : String) : Option Filter := do
  let parts := (pieces s.toList).filter (· ≠ [])
  let directives ← parts.mapM fun part => Directive.parse? (trimmed part)
  some (if directives = [] then upTo .error else ⟨directives⟩)

/-- The most specific of some directives; of equals the last. -/
def mostSpecific : List Directive → Option Directive
  | [] => none
  | d :: rest =>
    match mostSpecific rest with
    | none => some d
    | some best => some (if d.isAsSpecific best && !best.isAsSpecific d then d else best)

/-- Whether the directives without spans let something through, by its level and its target. The
fields of an event count, those of a span do not. -/
def admitsTarget (f : Filter) (level : Level) (target : String) (fields : Option (List String)) :
    Bool :=
  let concerned := f.directives.filter fun d =>
    d.isStatic && d.coversTarget target
      && fields.all fun names => d.fields.all fun condition => names.contains condition.name
  (mostSpecific concerned).any (·.threshold.admits level)

def showsSpan (f : Filter) (s : Span) : Bool :=
  f.admitsTarget s.level s.target none || f.directives.any (·.concerns s)

/-- Whether a directive about spans lets an event through that arises in a span. -/
def admitsIn (f : Filter) (s : Span) (level : Level) : Bool :=
  f.directives.any fun d => d.concerns s && d.isMetBy s && d.threshold.admits level

/-- Whether an event is shown. -/
def admitsEvent (f : Filter) (e : Event) : Bool :=
  f.admitsTarget e.level e.target (some ("message" :: e.fields.map (·.1)))
    || e.span?.any fun s => f.admitsIn s e.level

/-- The events that are shown, each without its span where that is not shown. -/
def select (f : Filter) (events : List Event) : List Event :=
  (events.filter f.admitsEvent).map fun e =>
    if e.span?.any f.showsSpan then e else { e with listener := none }

end Filter

end NetControl.Log
