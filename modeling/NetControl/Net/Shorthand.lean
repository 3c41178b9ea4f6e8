import NetControl.Net.Address

/-!
IPv4 addresses in one to four parts. A part is decimal, octal after a leading zero, or hexadecimal
after `0x`. Every part but the last is one octet; the last fills the octets that are left.
-/

namespace NetControl.Net

/-- The longest run of digits of a base, and what follows it. -/
def spanDigits (base : Nat) (s : List Char) : List Char × List Char :=
  s.span fun c => (digit? base c).isSome

/-- A number with the base that its first characters say, and what follows it. -/
def readBased (s : List Char) : Option (Nat × List Char) :=
  let (base, start) := match s with
    | '0' :: x :: rest =>
      if (x = 'x' ∨ x = 'X') ∧ rest.head?.any (fun c => (digit? 16 c).isSome) then (16, rest)
      else (8, s)
    | '0' :: _ => (8, s)
    | _ => (10, s)
  match spanDigits base start with
  | ([], _) => none
  | (digits, rest) => some (foldDigits base digits, rest)

/-- Parts with points between them; nothing may follow the last. -/
def readParts : (left : Nat) → List Char → Option (List Nat)
  | 0, _ => none
  | left + 1, s =>
    match readBased s with
    | some (n, []) => some [n]
    | some (n, '.' :: rest) => (readParts left rest).map (n :: ·)
    | _ => none

def valueOfParts : (octets : Nat) → List Nat → Option Nat
  | _, [] => none
  | octets, [last] => if last < 256 ^ octets then some last else none
  | octets, n :: rest =>
    if n < 256 then (valueOfParts (octets - 1) rest).map (n * 256 ^ (octets - 1) + ·) else none

def octetsOfNumber (n : Nat) : Octets 4 :=
  ⟨Bytes.be32 (UInt32.ofNat n), rfl⟩

/-- The IPv4 address of a text in any of these forms. -/
def parseShorthand (s : String) : Option (Octets 4) :=
  ((readParts 4 s.toList).bind (valueOfParts 4)).map octetsOfNumber

end NetControl.Net
