import NetControl.Text.Number

/-!
Periods of time as people write them: numbers with units, such as `1m30s`. Several of them are
added up, or multiplied as numbers of seconds, but not both in one text. A period is a whole number
of nanoseconds below `2 ^ 64`, and so is everything on the way to it.
-/

namespace NetControl.Settings

/-- A period of time. -/
structure Period where
  nanoseconds : UInt64
deriving Repr, DecidableEq

namespace Period

/-- How many nanoseconds a second has. -/
def second : Nat := 1000000000

/-- The nanoseconds of one unit. -/
def unit? (name : String) : Option Nat :=
  if name ∈ ["ns", "nsec", "nanosecond", "nanoseconds"] then some 1
  else if name ∈ ["us", "usec", "usecond", "microsecond", "microseconds", "µs", "µsec",
      "µsecond"] then some 1000
  else if name ∈ ["ms", "msec", "millisecond", "milliseconds"] then some 1000000
  else if name ∈ ["s", "sec", "second", "seconds"] then some second
  else if name ∈ ["m", "min", "minute", "minutes"] then some (60 * second)
  else if name ∈ ["h", "hr", "hour", "hours"] then some (3600 * second)
  else if name ∈ ["d", "day", "days"] then some (86400 * second)
  else if name ∈ ["w", "week", "weeks"] then some (7 * 86400 * second)
  else if name ∈ ["mon", "month", "months"] then some (30 * 86400 * second)
  else if name ∈ ["y", "year", "years"] then some (365 * 86400 * second)
  else none

/-- Whether the character may stand between the parts of a period. -/
def isSpace (c : Char) : Bool :=
  c = ' ' || c = '\t' || c = '\r' || c = '\n'

/-- Whether the character may be part of the name of a unit. -/
def isUnitChar (c : Char) : Bool :=
  ('a' ≤ c && c ≤ 'z') || ('A' ≤ c && c ≤ 'Z') || c = 'µ'

/-- What joins a number to what stands before it. -/
inductive Joint where
  | plus
  | times
deriving Repr, DecidableEq

/-- A number that is in range. -/
def inRange (n : Nat) : Option Nat :=
  if n < UInt64.size then some n else none

/-- Reads a number and its unit, in nanoseconds. Without a unit the number counts seconds, and then
nothing or an operator must follow. -/
def readTerm (s : List Char) : Option (Nat × List Char) := do
  let s := s.dropWhile isSpace
  let n ← (Text.readDigits? (s.takeWhile Text.isDigit)).bind inRange
  let s := (s.dropWhile Text.isDigit).dropWhile isSpace
  let name := s.takeWhile isUnitChar
  let unit ←
    if name = [] then
      if s.head?.all fun c => c = '+' || c = '*' then some second else none
    else unit? (String.ofList (name.map Char.toLower))
  some (← inRange (n * unit), (s.dropWhile isUnitChar).dropWhile isSpace)

/-- Reads the operator before a number. No operator stands for a sum. -/
def readJoint : List Char → Joint × List Char
  | '+' :: rest => (.plus, rest)
  | '*' :: rest => (.times, rest)
  | rest => (.plus, rest)

/-- Reads the numbers after the first, each with what joins it to those before. -/
def readTerms : Nat → List Char → Option (List (Joint × Nat))
  | _, [] => some []
  | 0, _ => none
  | fuel + 1, s => do
    let (joint, s) := readJoint s
    let (n, s) ← readTerm s
    some ((joint, n) :: (← readTerms fuel s))

/-- The sum of two periods, or their product as numbers of seconds, in nanoseconds. -/
def join (joint : Joint) (a b : Nat) : Option Nat :=
  match joint with
  | .plus => inRange (a + b)
  | .times => inRange (a * b / second)

/-- What a list of joined numbers denotes. All of them must be joined in one way. -/
def combine (first : Nat) (terms : List (Joint × Nat)) : Option Nat :=
  match terms with
  | [] => some first
  | (joint, _) :: _ =>
    if terms.all (·.1 = joint) then (terms.map (·.2)).foldlM (join joint) first else none

/-- The period that a text denotes. -/
def parse? (s : String) : Option Period := do
  let (first, rest) ← readTerm s.toList
  let terms ← readTerms rest.length rest
  some ⟨UInt64.ofNat (← combine first terms)⟩

/-! ## Parts and text -/

def seconds (p : Period) : Nat :=
  p.nanoseconds.toNat / second

/-- The nanoseconds beyond the whole seconds. -/
def fraction (p : Period) : Nat :=
  p.nanoseconds.toNat % second

/-- A number of units with a fraction of so many digits, without zeros at its end. -/
def scaled (whole fraction digits : Nat) (unit : String) : String :=
  let places := Text.padded digits (Nat.toDigits 10 fraction)
  let shown := (places.reverse.dropWhile (· = '0')).reverse
  toString whole ++ (if shown = [] then "" else "." ++ String.ofList shown) ++ unit

/-- A period in the largest unit, up to seconds, of which it has at least one. -/
def text (p : Period) : String :=
  let n := p.nanoseconds.toNat
  if second ≤ n then scaled p.seconds p.fraction 9 "s"
  else if 1000000 ≤ n then scaled (n / 1000000) (n % 1000000) 6 "ms"
  else if 1000 ≤ n then scaled (n / 1000) (n % 1000) 3 "µs"
  else toString n ++ "ns"

end Period

end NetControl.Settings
