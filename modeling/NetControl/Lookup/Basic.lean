import NetControl.Log.Event
import NetControl.Net.SocketAddress

/-!
What lookups ask and what they find: addresses of a host and a service, or the entry of a host. A
failed lookup has the code of the resolver, which is passed on to the client as it is.
-/

namespace NetControl.Lookup

open Net

/-- What the caller wants of the addresses. -/
structure Hints where
  flags : Int32 := 0
  family : Int32 := 0
  socketType : Int32 := 0
  protocol : Int32 := 0
deriving Repr, DecidableEq

/-- One address of a host and a service. -/
structure AddressInfo where
  flags : Int32
  family : Int32
  socketType : Int32
  protocol : Int32
  address : SocketAddress
  canonicalName : Option String
deriving DecidableEq

/-- The entry of a host. -/
structure HostEntry where
  name : Option String := none
  aliases : List String := []
  addressType : Int32 := 0
  /-- The size of each address, in bytes. -/
  length : Int32 := 0
  addresses : List Bytes := []
deriving Repr, DecidableEq

/-! ## Failures -/

/-- The failure of a lookup, by the kind of lookup. -/
inductive Failure where
  /-- The failure of an address lookup. -/
  | addresses (code : Int32)
  /-- The failure of a host lookup. -/
  | host (code : Int32)
deriving Repr, DecidableEq

namespace Failure

/-- The resolver's code. -/
def code : Failure → UInt32
  | addresses c => c.toUInt32
  | host c => c.toUInt32

/-- The failure as one line. -/
def message : Failure → String
  | addresses c => "getaddrinfo failed with " ++ Text.decimal c.toInt
  | host c => "host lookup failed with h_errno " ++ Text.decimal c.toInt

end Failure

/-- Host lookups: no such host. -/
def hostNotFound : Int32 := 1

/-- Host lookups: no answer for now. -/
def tryAgain : Int32 := 2

/-- Host lookups: an error that another attempt does not mend. -/
def noRecovery : Int32 := 3

/-- Host lookups: the host has no address of the kind. -/
def noData : Int32 := 4

/-- Address lookups: bad flags. -/
def eaiBadFlags : Int32 := -1

/-- Address lookups: no such host or service. -/
def eaiNoName : Int32 := -2

/-- Address lookups: no answer for now. -/
def eaiAgain : Int32 := -3

/-- Address lookups: an error that another attempt does not mend. -/
def eaiFail : Int32 := -4

/-- Address lookups: the address family is not supported. -/
def eaiFamily : Int32 := -6

/-- Address lookups: the socket type is not supported. -/
def eaiSocketType : Int32 := -7

/-- Address lookups: the service is not available for the socket type. -/
def eaiService : Int32 := -8

/-- Address lookups: the host has no address of the family. -/
def eaiAddressFamily : Int32 := -9

/-- The question of a lookup. -/
inductive Query where
  /-- The addresses of a host and a service. -/
  | addresses (host service : Option String) (hints : Option Hints)
  /-- The entry of a host by its name. -/
  | hostByName (name : Option String) (family : Int32)
  /-- The name of a host by its address. -/
  | hostByAddress (address : Bytes) (family : Int32)
deriving Repr, DecidableEq

/-- Resolves names. A lookup may be bound to an interface. -/
structure Resolver where
  /-- The addresses of a host and a service. -/
  addresses : (host service : Option String) → Option Hints → (interface : Option String) →
    Except Failure (List AddressInfo)
  /-- The entry of a host by its name. -/
  hostByName : (name : Option String) → (family : Int32) → (interface : Option String) →
    Except Failure HostEntry
  /-- The entry of a host by its address. -/
  hostByAddress : (address : Bytes) → (family : Int32) → (interface : Option String) →
    Except Failure HostEntry
  /-- What is noted about a lookup while it is resolved. -/
  remarks : Query → (interface : Option String) → List Log.Event := fun _ _ => []

end NetControl.Lookup
