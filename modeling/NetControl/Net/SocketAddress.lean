import NetControl.Net.Address

/-!
Socket addresses and their form in memory. The address family and the scope are in host order,
which is least significant byte first; the port and the flow information are in network order. An
IPv4 socket address is followed by eight unused bytes.
-/

namespace NetControl.Net

/-- The number of the IPv4 address family. -/
def afInet : Int32 := 2

/-- The number of the IPv6 address family. -/
def afInet6 : Int32 := 10

/-- An address and a port. -/
inductive SocketAddress where
  /-- An IPv4 address and port. -/
  | v4 (ip : Octets 4) (port : UInt16)
  /-- An IPv6 address and port, with the flow information and the scope of the address. -/
  | v6 (ip : Octets 16) (port : UInt16) (flowInfo scope : UInt32)
deriving DecidableEq

namespace SocketAddress

/-- The address without the port. -/
def ip : SocketAddress → Address
  | v4 ip _ => .v4 ip
  | v6 ip _ _ _ => .v6 ip

/-- The form in memory. -/
def bytes : SocketAddress → Bytes
  | v4 ip port =>
    Bytes.le16 2 ++ Bytes.be16 port ++ ip.val ++ List.replicate 8 0
  | v6 ip port flowInfo scope =>
    Bytes.le16 10 ++ Bytes.be16 port ++ Bytes.be32 flowInfo ++ ip.val ++ Bytes.le32 scope

/-- The address and the fields after the port of an IPv6 socket address. -/
def ofTail? (port : UInt16) : Bytes → Option SocketAddress
  | a :: b :: c :: d :: rest =>
    if h : rest.length = 20 then
      match rest.drop 16 with
      | [w, x, y, z] =>
        some (.v6 ⟨rest.take 16, by simp [h]⟩ port (Bytes.readBE32 a b c d)
          (Bytes.readBE32 z y x w))
      | _ => none
    else none
  | _ => none

/-- The socket address that has this form in memory; the unused bytes may hold anything. -/
def ofBytes? : Bytes → Option SocketAddress
  | f₀ :: f₁ :: p₀ :: p₁ :: rest =>
    let family := Bytes.readBE16 f₁ f₀
    let port := Bytes.readBE16 p₀ p₁
    if h : family = 2 ∧ rest.length = 12 then
      some (.v4 ⟨rest.take 4, by simp [h.2]⟩ port)
    else if family = 10 then ofTail? port rest
    else none
  | _ => none

end SocketAddress

end NetControl.Net
