import NetControl.Lookup.Request

/-!
Resolving through the host's library. The library looks up addresses by name and names by address;
the entry of a host is put together from what it finds. The interface is only noted.
-/

namespace NetControl.Lookup

open Net

/-- What the host's library offers. Its failures are codes of address lookups. -/
structure HostLibrary where
  /-- The addresses of a host and a service, neither of which holds a NUL. -/
  addresses : (host service : Option String) → Option Hints → Except Int32 (List AddressInfo)
  /-- The name of the host with an address of the family. -/
  nameOf : (family : Int32) → (address : Bytes) → Except Int32 String

/-- The code of a host lookup for a code of an address lookup. -/
def hostCode (code : Int32) : Int32 :=
  if code = eaiNoName then hostNotFound
  else if code = eaiAgain then tryAgain
  else noRecovery

/-- The size of an address of the family, in bytes. -/
def addressSize (family : Int32) : Option Nat :=
  if family = afInet then some 4
  else if family = afInet6 then some 16
  else none

/-- Whether a text can be given to the library. -/
def isPassable (s : Option String) : Bool :=
  match s with
  | some text => !text.toList.contains '\x00'
  | none => true

/-- Keeps the first of equal items. -/
def distinct (items : List Bytes) : List Bytes :=
  items.foldl (fun kept b => if b ∈ kept then kept else kept ++ [b]) []

/-- The different addresses of the given size, in the order in which they were found. -/
def addressesOfSize (size : Nat) (found : List AddressInfo) : List Bytes :=
  distinct ((found.map (·.address.ip.bytes)).filter (·.length = size))

/-- What the entry of a host is looked up with. -/
def entryHints (family : Int32) : Hints :=
  { flags := 2, family, socketType := 1 }

/-- The entry of a host of a family, put together from the addresses found for its name. -/
def entryOf (name : String) (family : Int32) (size : Nat) (found : List AddressInfo) :
    Except Failure HostEntry :=
  match addressesOfSize size found with
  | [] => .error (.host noData)
  | addresses =>
    .ok ⟨some ((found.findSome? (·.canonicalName)).getD name), [], family, Int32.ofNat size,
      addresses⟩

namespace HostLibrary

def lookupAddresses (l : HostLibrary) (host service : Option String) (hints : Option Hints) :
    Except Failure (List AddressInfo) :=
  if isPassable host && isPassable service then
    (l.addresses host service hints).mapError .addresses
  else .error (.addresses eaiNoName)

def lookupByName (l : HostLibrary) (name : Option String) (family : Int32) :
    Except Failure HostEntry :=
  match name, addressSize family with
  | none, _ => .error (.host hostNotFound)
  | some _, none => .error (.host noRecovery)
  | some name, some size =>
    if isPassable (some name) then
      match l.addresses (some name) none (some (entryHints family)) with
      | .error code => .error (.host (hostCode code))
      | .ok found => entryOf name family size found
    else .error (.host hostNotFound)

/-- The entry of a host by its address, which has to be of the size of its family. -/
def lookupByAddress (l : HostLibrary) (address : Bytes) (family : Int32) :
    Except Failure HostEntry :=
  if addressSize family = some address.length then
    match l.nameOf family address with
    | .error code => .error (.host (hostCode code))
    | .ok name =>
      .ok ⟨some name, [], family, Int32.ofNat address.length, [address]⟩
  else .error (.host noRecovery)

/-- The bytes of an address in diagnostic output. -/
def describeBytes (b : Bytes) : String :=
  Text.bracketed (b.map fun x => Text.decimal x.toNat)

/-- What is noted about a lookup. -/
def remarks (q : Query) (interface : Option String) : List Log.Event :=
  let note (level : Log.Level) (message : String) (fields : List (String × Log.Value)) :=
    Log.of level "netd::dnsproxy::system" "dnsproxy" message fields
  let last := [("iface", Log.Value.shown (Text.quotedOption interface))]
  match q with
  | .addresses host service hints =>
    [note .trace q.command ([("host", .shown (Text.quotedOption host)),
      ("service", .shown (Text.quotedOption service)),
      ("hints", .shown (Hints.describeOption hints))] ++ last)]
  | .hostByName name family =>
    [note .trace q.command ([("name", .shown (Text.quotedOption name)),
      ("family", .number family.toInt)] ++ last)]
  | .hostByAddress address family =>
    note .trace q.command ([("addr", .shown (describeBytes address)),
        ("family", .number family.toInt)] ++ last)
      :: if addressSize family = some address.length then []
        else [note .debug "address length mismatch" [("family", .number family.toInt),
          ("len", .number address.length)]]

def resolver (l : HostLibrary) : Resolver where
  addresses host service hints _ := l.lookupAddresses host service hints
  hostByName name family _ := l.lookupByName name family
  hostByAddress address family _ := l.lookupByAddress address family
  remarks := remarks

end HostLibrary

end NetControl.Lookup
