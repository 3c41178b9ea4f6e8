import NetControl.Yaml.Value

/-!
Which texts a plain scalar would turn into something else than a text: nothing, a truth value, a
whole number below `2 ^ 128` in magnitude, or a floating-point number. Texts of digits with zeros
before them count too, because older readers take them for numbers.
-/

namespace NetControl.Yaml

def truthWords : List String := ["true", "True", "TRUE", "false", "False", "FALSE"]

/-- The words for numbers that are not finite, after an optional plus sign, and with it or a minus
sign before them. -/
def infinityWords : List String :=
  [".inf", ".Inf", ".INF", "+.inf", "+.Inf", "+.INF", "-.inf", "-.Inf", "-.INF"]

def nanWords : List String := [".nan", ".NaN", ".NAN"]

/-- Whether the text is a whole number of at most 128 bits. -/
def isWholeNumber (s : List Char) : Bool :=
  match s with
  | '-' :: rest => (magnitude? rest).any (· ≤ 1 <<< 127)
  | '+' :: rest => (magnitude? rest).any (· < 1 <<< 128)
  | _ => (magnitude? s).any (· < 1 <<< 128)

/-- Whether the text consists of at least two digits, the first a zero, perhaps after a sign. -/
def isZeroPadded (s : List Char) : Bool :=
  let digits := match s with
    | '-' :: rest => rest
    | '+' :: rest => rest
    | _ => s
  match digits with
  | '0' :: rest => rest ≠ [] && rest.all Text.isDigit
  | _ => false

/-- A decimal number: an integer times a power of ten. -/
structure Decimal where
  digits : Nat
  exponent : Int
deriving Repr, DecidableEq

/-- Reads the exponent of a decimal number, which may be missing. -/
def readExponent : List Char → Option Int
  | [] => some 0
  | c :: rest =>
    if c ≠ 'e' && c ≠ 'E' then none
    else
      match rest with
      | '-' :: digits => (naturalIn? 10 digits).map fun n => -(n : Int)
      | '+' :: digits => (naturalIn? 10 digits).map Int.ofNat
      | digits => (naturalIn? 10 digits).map Int.ofNat

/-- Reads a decimal number without sign: digits with at most one point among them, then perhaps an
exponent. -/
def readDecimal (s : List Char) : Option Decimal := do
  let whole := s.takeWhile Text.isDigit
  let rest := s.dropWhile Text.isDigit
  let (fraction, rest) := match rest with
    | '.' :: more => (more.takeWhile Text.isDigit, more.dropWhile Text.isDigit)
    | _ => ([], rest)
  let digits ← naturalIn? 10 (whole ++ fraction)
  some ⟨digits, (← readExponent rest) - fraction.length⟩

/-- The least number that is too large for a floating-point number of 64 bits: half a unit above
the greatest one. -/
def floatBound : Nat := 1 <<< 1024 - 1 <<< 970

/-- Whether a decimal number is in the range of floating-point numbers. The number of its digits
decides unless it is close to the bound. -/
def Decimal.isInRange (d : Decimal) : Bool :=
  let places : Int := (Nat.toDigits 10 d.digits).length + d.exponent
  if d.digits = 0 || places < 300 then true
  else if 320 < places then false
  else if 0 ≤ d.exponent then d.digits * Nat.pow 10 d.exponent.toNat < floatBound
  else d.digits < floatBound * Nat.pow 10 (-d.exponent).toNat

/-- Whether the text is a decimal number in range, perhaps with one sign before it. -/
def isDecimalNumber (s : List Char) : Bool :=
  let unsigned := match s with
    | '-' :: rest => rest
    | '+' :: rest => rest
    | _ => s
  (readDecimal unsigned).any Decimal.isInRange

/-- Whether a plain scalar with this text would be read as something else than the text. -/
def isAmbiguous (s : String) : Bool :=
  s = "" || nullWords.contains s || truthWords.contains s || infinityWords.contains s
    || nanWords.contains s || isWholeNumber s.toList || isZeroPadded s.toList
    || isDecimalNumber s.toList

end NetControl.Yaml
