import NetControl.Bytes
import NetControl.Text.Number

/-!
Internet addresses and their literal forms.

An IPv4 literal is four decimal octets without leading zeros. An IPv6 literal is eight groups of up
to four hexadecimal digits, where one run of zero groups may be written `::` and the last two
groups may be written as an IPv4 literal.
-/

namespace NetControl.Net

/-- A byte string of a fixed length. -/
abbrev Octets (n : Nat) := { b : Bytes // b.length = n }

/-- An internet address. -/
inductive Address where
  /-- An IPv4 address. -/
  | v4 (octets : Octets 4)
  /-- An IPv6 address. -/
  | v6 (octets : Octets 16)
deriving DecidableEq

namespace Address

/-- The octets of an address. -/
def bytes : Address → Bytes
  | v4 octets => octets.val
  | v6 octets => octets.val

end Address

/-! ## Literals -/

/-- The value of a digit in a base of at most sixteen. -/
def digit? (base : Nat) (c : Char) : Option Nat :=
  let value :=
    if '0' ≤ c ∧ c ≤ '9' then some (c.toNat - 48)
    else if 'a' ≤ c ∧ c ≤ 'f' then some (c.toNat - 87)
    else if 'A' ≤ c ∧ c ≤ 'F' then some (c.toNat - 55)
    else none
  value.filter (· < base)

/-- The value of a run of digits. -/
def foldDigits (base : Nat) (digits : List Char) : Nat :=
  digits.foldl (fun n c => n * base + (digit? base c).getD 0) 0

/-- A run of digits that `ok` accepts, its value below `bound`, and the characters after it. -/
def readNumber (base bound : Nat) (ok : List Char → Bool) (s : List Char) :
    Option (Nat × List Char) :=
  let digits := s.takeWhile fun c => (digit? base c).isSome
  let value := foldDigits base digits
  if digits ≠ [] ∧ ok digits ∧ value < bound then some (value, s.drop digits.length) else none

/-- An octet of an IPv4 literal has at most three digits and no leading zero. -/
def readOctet : List Char → Option (Nat × List Char) :=
  readNumber 10 256 fun digits =>
    digits.length ≤ 3 && (digits.length = 1 || digits.head? ≠ some '0')

/-- A group of an IPv6 literal has at most four digits. -/
def readGroup : List Char → Option (Nat × List Char) :=
  readNumber 16 65536 fun digits => digits.length ≤ 4

/-- Passes over one given character. -/
def skip (c : Char) : List Char → Option (List Char)
  | [] => none
  | d :: rest => if c = d then some rest else none

/-- An IPv4 literal at the start of the text. -/
def readV4 (s : List Char) : Option (Octets 4 × List Char) := do
  let (a, s) ← readOctet s
  let (b, s) ← readOctet (← skip '.' s)
  let (c, s) ← readOctet (← skip '.' s)
  let (d, s) ← readOctet (← skip '.' s)
  pure (⟨[a, b, c, d].map UInt8.ofNat, rfl⟩, s)

/-- Passes over the colon that stands before every group but the first. -/
def skipColon (first : Bool) (s : List Char) : Option (List Char) :=
  if first then some s else skip ':' s

/-- The groups that an IPv4 literal stands for. -/
def groupsOfV4 (octets : Octets 4) : List Nat :=
  match octets.val with
  | [a, b, c, d] => [a.toNat * 256 + b.toNat, c.toNat * 256 + d.toNat]
  | _ => []

/-- As many groups as there are, up to `left`; an IPv4 literal counts as two and ends the groups.
Answers the groups, whether an IPv4 literal ended them, and what follows. -/
def readGroups : (left : Nat) → (first : Bool) → List Char → List Nat × Bool × List Char
  | 0, _, s => ([], false, s)
  | left + 1, first, s =>
    match if 0 < left then (skipColon first s).bind readV4 else none with
    | some (octets, rest) => (groupsOfV4 octets, true, rest)
    | none =>
      match (skipColon first s).bind readGroup with
      | some (group, rest) =>
        let (groups, v4, rest) := readGroups left false rest
        (group :: groups, v4, rest)
      | none => ([], false, s)

def octetsOfGroups (groups : List Nat) : Bytes :=
  groups.flatMap fun g => [UInt8.ofNat (g / 256), UInt8.ofNat g]

/-- The octets of exactly eight groups. -/
def addressOfGroups (groups : List Nat) : Option (Octets 16) :=
  if h : (octetsOfGroups groups).length = 16 then some ⟨octetsOfGroups groups, h⟩ else none

/-- An IPv6 literal at the start of the text. -/
def readV6 (s : List Char) : Option (Octets 16 × List Char) :=
  let (front, v4, rest) := readGroups 8 true s
  if front.length = 8 then (addressOfGroups front).map (·, rest)
  else if v4 then none
  else do
    let rest ← skip ':' rest
    let rest ← skip ':' rest
    let (back, _, rest) := readGroups (7 - front.length) true rest
    let gap := List.replicate (8 - front.length - back.length) 0
    (addressOfGroups (front ++ gap ++ back)).map (·, rest)

/-- The value of a reader that has used the whole text. -/
def whole {α : Type} : Option (α × List Char) → Option α
  | some (a, []) => some a
  | _ => none

/-- The IPv4 address of a literal. -/
def parseV4 (s : List Char) : Option (Octets 4) :=
  whole (readV4 s)

/-- The IPv6 address of a literal. -/
def parseV6 (s : List Char) : Option (Octets 16) :=
  whole (readV6 s)

/-- The address of a literal of either family. -/
def Address.parse? (s : String) : Option Address :=
  match parseV4 s.toList with
  | some octets => some (.v4 octets)
  | none => (parseV6 s.toList).map .v6

end NetControl.Net
