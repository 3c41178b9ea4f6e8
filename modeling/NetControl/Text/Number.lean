/-!
Decimal numbers in text. Only ASCII digits count; a sign is allowed where the reader says so, and a
number outside the range of its type is no number.
-/

namespace NetControl.Text

/-- Whether the character is one of the ten ASCII digits. -/
def isDigit (c : Char) : Bool :=
  '0' ≤ c && c ≤ '9'

def digitValue (c : Char) : Nat :=
  c.toNat - '0'.toNat

/-- The number that a run of digits denotes. -/
def digitsValue (digits : List Char) : Nat :=
  digits.foldl (fun n c => n * 10 + digitValue c) 0

/-- A non-empty text of digits and nothing else. -/
def readDigits? (s : List Char) : Option Nat :=
  if s ≠ [] ∧ s.all isDigit then some (digitsValue s) else none

/-- A number below `bound`: digits, with at most one `+` before them. -/
def readUnsigned? (bound : Nat) (s : String) : Option Nat :=
  let digits := match s.toList with
    | '+' :: rest => rest
    | all => all
  (readDigits? digits).filter (· < bound)

/-- A 32-bit number without sign. -/
def readUInt32? (s : String) : Option UInt32 :=
  (readUnsigned? UInt32.size s).map UInt32.ofNat

/-- A 64-bit number without sign. -/
def readUInt64? (s : String) : Option UInt64 :=
  (readUnsigned? UInt64.size s).map UInt64.ofNat

/-- A 32-bit number: digits, with at most one sign before them. -/
def readInt32? (s : String) : Option Int32 :=
  match s.toList with
  | '-' :: rest =>
    ((readDigits? rest).filter (· ≤ 2147483648)).map fun n => Int32.ofInt (-(n : Int))
  | '+' :: rest => ((readDigits? rest).filter (· ≤ 2147483647)).map fun n => Int32.ofInt n
  | all => ((readDigits? all).filter (· ≤ 2147483647)).map fun n => Int32.ofInt n

/-! ## Lenient numbers -/

/-- The blanks that may stand before a lenient number: every character with the white space
property. -/
def isBlank (c : Char) : Bool :=
  let n := c.toNat
  (9 ≤ n && n ≤ 13) || n = 0x20 || n = 0x85 || n = 0xA0 || n = 0x1680
    || (0x2000 ≤ n && n ≤ 0x200A) || n = 0x2028 || n = 0x2029 || n = 0x202F || n = 0x205F
    || n = 0x3000

/-- The largest magnitude that a lenient number counts up to. -/
def lenientBound : Nat := 2147483648

/-- The value of a run of digits, held at the bound as soon as it gets there. -/
def boundedValue (digits : List Char) : Nat :=
  digits.foldl (fun n c => min (n * 10 + digitValue c) lenientBound) 0

/-- The number at the start of a text: blanks, at most one sign, and digits. What follows them is
ignored, a text without digits is zero, and a number out of range is the nearest in range. -/
def lenientInt32 (s : String) : Int32 :=
  let clamp (n : Int) : Int32 := Int32.ofInt (max (-2147483648) (min n 2147483647))
  let value (rest : List Char) : Int := boundedValue (rest.takeWhile isDigit)
  match s.toList.dropWhile isBlank with
  | '-' :: rest => clamp (-value rest)
  | '+' :: rest => clamp (value rest)
  | rest => clamp (value rest)

/-! ## Writing -/

def decimal (n : Int) : String :=
  toString n

/-- A text filled up with zeros on the left to a width. -/
def padded (width : Nat) (digits : List Char) : List Char :=
  List.replicate (width - digits.length) '0' ++ digits

end NetControl.Text
