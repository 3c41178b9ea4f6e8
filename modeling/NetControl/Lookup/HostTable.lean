import NetControl.Lookup.HostResolver
import NetControl.Net.Shorthand

/-!
A host whose names come from a table alone: each line of the table holds an address, the canonical
name of its host and aliases. Literal addresses and port numbers need no table.

Address lookups answer one result for each address and each kind of socket that is asked for.
-/

namespace NetControl.Lookup

open Net

/-! ## The table -/

/-- One line of the table. -/
structure HostLine where
  address : Address
  name : String
  aliases : List String
deriving DecidableEq

/-- Whether the name is one of the line's names, in capitals or not. -/
def HostLine.hasName (l : HostLine) (name : String) : Bool :=
  (l.name :: l.aliases).any fun n => n.toLower = name.toLower

/-- The names of hosts. -/
structure HostTable where
  lines : List HostLine := []
  /-- The code for a name or an address that is not in the table. -/
  missing : Int32 := eaiNoName
  /-- The numbers of the interfaces that a link-local address may name. -/
  interfaces : List (String × UInt32) := [("lo", 1)]
deriving DecidableEq

namespace HostTable

/-- Whether the character separates words of a line. -/
def isSpace (c : Char) : Bool :=
  c = ' ' || (9 ≤ c.toNat && c.toNat ≤ 13)

/-- The words of a line, without its comment. -/
def words (line : List Char) : List String :=
  (((line.takeWhile (· ≠ '#')).splitBy fun a b => isSpace a == isSpace b).filter fun word =>
    !word.all isSpace).map String.ofList

/-- The line that words stand for. -/
def lineOf? : List String → Option HostLine
  | address :: name :: aliases => (Address.parse? address).map (⟨·, name, aliases⟩)
  | _ => none

/-- The lines of a text. Lines that are no entries are passed over. -/
def linesOf (text : String) : List HostLine :=
  (text.splitOn "\n").filterMap fun line => lineOf? (words line.toList)

/-- Whether an address is wanted where the family may be left open. -/
def isWanted (family : Int32) : Address → Bool
  | .v4 _ => family = 0 || family = afInet
  | .v6 _ => family = 0 || family = afInet6

/-- The lines with a name and a wanted address. -/
def find (t : HostTable) (name : String) (family : Int32) : List HostLine :=
  t.lines.filter fun l => l.hasName name && isWanted family l.address

end HostTable

/-! ## Services -/

/-- One kind of socket. -/
structure SocketKind where
  socketType : Int32
  protocol : Int32
  /-- Whether it is among the kinds answered where none is asked for. -/
  isCommon : Bool
  /-- Whether it goes with any protocol, and with no service. -/
  isRaw : Bool := false
deriving Repr, DecidableEq

/-- The kinds of sockets: streams, datagrams, and the rarer ones. -/
def socketKinds : List SocketKind :=
  [{ socketType := 1, protocol := 6, isCommon := true },
    { socketType := 2, protocol := 17, isCommon := true },
    { socketType := 6, protocol := 33, isCommon := false },
    { socketType := 2, protocol := 136, isCommon := false },
    { socketType := 1, protocol := 132, isCommon := false },
    { socketType := 5, protocol := 132, isCommon := false },
    { socketType := 3, protocol := 0, isCommon := true, isRaw := true }]

/-- A service. -/
inductive Service where
  | port (number : UInt16)
  /-- A number that is no port. -/
  | noPort
  | name
deriving Repr, DecidableEq

/-- The service of a text. A number may have blanks and a sign before it; of a large one the low
bits count. -/
def Service.parse (s : String) : Service :=
  let start := s.toList.dropWhile HostTable.isSpace
  let (negative, digits) := match start with
    | '-' :: rest => (true, rest)
    | '+' :: rest => (false, rest)
    | rest => (false, rest)
  if digits ≠ [] ∧ digits.all Text.isDigit then
    let value := Text.digitsValue digits
    let word : Int := if UInt64.size ≤ value then -1 else if negative then -(value : Int) else value
    let number := Int32.ofInt word
    if number < 0 then .noPort else .port (UInt16.ofNat number.toInt.toNat)
  else .name

def SocketKind.isAsked (k : SocketKind) (h : Hints) : Bool :=
  (h.socketType = 0 || h.socketType = k.socketType)
    && (h.protocol = 0 || k.isRaw || h.protocol = k.protocol)

/-- The kinds of sockets, each as a type and a protocol, that hints ask for. -/
def kindsOf (h : Hints) (withService : Bool) : Except Int32 (List (Int32 × Int32)) :=
  if h.socketType = 0 ∧ h.protocol = 0 then
    .ok ((socketKinds.filter (·.isCommon)).map fun k => (k.socketType, k.protocol))
  else
    match socketKinds.find? (·.isAsked h) with
    | none => .error (if h.socketType = 0 then eaiService else eaiSocketType)
    | some k =>
      if k.isRaw && withService then .error eaiService
      else .ok [(k.socketType, if k.isRaw then h.protocol else k.protocol)]

/-! ## Hosts -/

/-- An address with its scope. -/
structure Place where
  address : Address
  scope : UInt32 := 0
deriving DecidableEq

/-- The addresses of a host, and its canonical name. -/
structure Found where
  places : List Place
  canonicalName : Option String := none
deriving DecidableEq

/-- Whether an IPv6 address holds on one link only. -/
def isLinkLocal (b : Bytes) : Bool :=
  match b with
  | a :: c :: _ => (a = 0xfe && c &&& 0xc0 = 0x80) || (a = 0xff && c &&& 0x0f = 2)
  | _ => false

/-- The IPv4 octets inside an IPv6 address that maps them. -/
def mappedV4? (octets : Octets 16) : Option (Octets 4) :=
  if octets.val.take 12 = List.replicate 10 0 ++ [0xff, 0xff] then
    some ⟨octets.val.drop 12, by simp [octets.property]⟩
  else none

/-- The IPv6 address that maps IPv4 octets. -/
def mapV4 (octets : Octets 4) : Octets 16 :=
  ⟨List.replicate 10 0 ++ [0xff, 0xff] ++ octets.val, by simp [octets.property]⟩

/-- The flags of hints that have a meaning here. -/
def Hints.has (h : Hints) (flag : Int32) : Bool :=
  h.flags &&& flag ≠ 0

/-- All addresses rather than the one of this host. -/
def flagPassive : Int32 := 1

/-- The canonical name is asked for. -/
def flagCanonicalName : Int32 := 2

/-- The host is a literal. -/
def flagNumericHost : Int32 := 4

/-- IPv4 addresses may be answered inside IPv6 ones. -/
def flagMapped : Int32 := 8

/-- The service is a number. -/
def flagNumericService : Int32 := 1024

/-- The flags that are known. -/
def knownFlags : Int32 := 0x7ff

/-- What holds where no hints are given. -/
def defaultHints : Hints := { flags := 0x28 }

/-- The place of an IPv4 literal. -/
def placeV4 (h : Hints) (octets : Octets 4) : Except Int32 Place :=
  if h.family = 0 ∨ h.family = afInet then .ok { address := .v4 octets }
  else if h.has flagMapped then .ok { address := .v6 (mapV4 octets) }
  else .error eaiAddressFamily

/-- The scope of a literal: the number of an interface, or a number. -/
def scopeOf? (interfaces : List (String × UInt32)) (octets : Octets 16) (scope : List Char) :
    Option UInt32 :=
  let named := if isLinkLocal octets.val then interfaces.lookup (String.ofList scope) else none
  match named with
  | some n => some n
  | none => ((Text.readDigits? scope).filter (· < UInt32.size)).map UInt32.ofNat

/-- The place of an IPv6 literal, whose scope stands after a percent sign. -/
def placeV6 (h : Hints) (interfaces : List (String × UInt32)) (octets : Octets 16)
    (scope : Option (List Char)) : Except Int32 Place := do
  let address ←
    if h.family = 0 ∨ h.family = afInet6 then pure (Address.v6 octets)
    else
      match mappedV4? octets with
      | some inner => pure (.v4 inner)
      | none => throw eaiAddressFamily
  match scope with
  | none => pure { address }
  | some text =>
    match scopeOf? interfaces octets text with
    | some n => pure { address, scope := n }
    | none => throw eaiNoName

/-- The place of a literal, where the name is one. -/
def placeOf? (h : Hints) (interfaces : List (String × UInt32)) (name : String) :
    Option (Except Int32 Place) :=
  match parseShorthand name with
  | some octets => some (placeV4 h octets)
  | none =>
    let before := name.toList.takeWhile (· ≠ '%')
    let after := name.toList.drop before.length
    (parseV6 before).map fun octets =>
      placeV6 h interfaces octets (if after = [] then none else some (after.drop 1))

/-- The addresses of this host: the loopback addresses, or those that stand for all. -/
def ownPlaces (h : Hints) : List Place :=
  let last : UInt8 := if h.has flagPassive then 0 else 1
  let v6 : Place := { address := .v6 ⟨List.replicate 15 0 ++ [last], rfl⟩ }
  let v4 : Place :=
    { address := .v4 (if h.has flagPassive then ⟨[0, 0, 0, 0], rfl⟩ else ⟨[127, 0, 0, 1], rfl⟩) }
  if h.family = 0 then [v6, v4] else if h.family = afInet then [v4] else [v6]

namespace HostTable

def placesOf (t : HostTable) (h : Hints) (name : String) : Except Int32 Found :=
  match placeOf? h t.interfaces name with
  | some (.ok place) => .ok ⟨[place], some name⟩
  | some (.error code) => .error code
  | none =>
    if h.has flagNumericHost then .error eaiNoName
    else
      match t.find name h.family with
      | [] => .error t.missing
      | first :: rest =>
        .ok ⟨(first :: rest).map fun l => { address := l.address }, some first.name⟩

/-- A result for a place and a kind of socket. -/
def infoOf (h : Hints) (port : UInt16) (place : Place) (kind : Int32 × Int32) : AddressInfo :=
  let (family, address) : Int32 × SocketAddress := match place.address with
    | .v4 octets => (afInet, .v4 octets port)
    | .v6 octets => (afInet6, .v6 octets port 0 place.scope)
  ⟨h.flags, family, kind.1, kind.2, address, none⟩

/-- Gives the first result the canonical name, if one is asked for. -/
def nameFirst (h : Hints) (name : Option String) : List AddressInfo → List AddressInfo
  | [] => []
  | first :: rest =>
    if h.has flagCanonicalName then { first with canonicalName := name } :: rest
    else first :: rest

/-- An absent text; an asterisk stands for one. -/
def present (s : Option String) : Option String :=
  s.filter (· ≠ "*")

def addresses (t : HostTable) (host service : Option String) (hints : Option Hints) :
    Except Int32 (List AddressInfo) := do
  let host := present host
  let service := present service
  let h := hints.getD defaultHints
  if host = none ∧ service = none then throw eaiNoName
  if h.flags &&& ~~~knownFlags ≠ 0 then throw eaiBadFlags
  if h.has flagCanonicalName ∧ host = none then throw eaiBadFlags
  let service := (service.filter (· ≠ "")).map Service.parse
  if h.has flagNumericService ∧ service = some .name then throw eaiNoName
  if h.family ≠ 0 ∧ h.family ≠ afInet ∧ h.family ≠ afInet6 then throw eaiFamily
  let kinds ← kindsOf h service.isSome
  let port ← match service with
    | none => pure 0
    | some (.port n) => pure n
    | some _ => throw eaiService
  let found ← match host with
    | none => pure { places := ownPlaces h }
    | some name => t.placesOf h name
  pure (nameFirst h found.canonicalName
    (found.places.flatMap fun place => kinds.map (infoOf h port place)))

/-- The name of the first host with an address. No host has the IPv6 address that is all zeros. -/
def nameOf (t : HostTable) (_family : Int32) (address : Bytes) : Except Int32 String :=
  match t.lines.find? fun l => l.address.bytes = address with
  | some l => .ok l.name
  | none => .error (if address = List.replicate 16 0 then eaiNoName else t.missing)

def library (t : HostTable) : HostLibrary where
  addresses := t.addresses
  nameOf := t.nameOf

/-- A host that reaches no name server and has no table. -/
def unreachable : HostTable := { missing := eaiAgain }

end HostTable

end NetControl.Lookup
