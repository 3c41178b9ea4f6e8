/-!
Routing marks. A mark tells the kernel which network a socket uses: sixteen bits of network number,
then one bit for explicit selection, one for protection from the VPN, and two of permission.
-/

namespace NetControl.Tether

/-- What a socket may do with the network configuration. -/
inductive Permission where
  | none
  | network
  | system
deriving Repr, DecidableEq

def Permission.bits : Permission → UInt32
  | none => 0
  | network => 1
  | system => 3

/-- A routing mark. -/
structure Mark where
  /-- The number of the network; its low sixteen bits count. -/
  netId : UInt32 := 0
  explicit : Bool := false
  vpnProtected : Bool := false
  permission : Permission := .none
deriving Repr, DecidableEq

namespace Mark

/-- The mark of sockets that ask name servers on behalf of the tethered network. -/
def forDns (netId : UInt32) : Mark :=
  ⟨netId, true, true, .system⟩

def bit (b : Bool) : UInt32 :=
  if b then 1 else 0

/-- The mark as the kernel has it. -/
def value (m : Mark) : UInt32 :=
  (m.netId &&& (0xFFFF : UInt32)) ||| (bit m.explicit <<< (16 : UInt32))
    ||| (bit m.vpnProtected <<< (17 : UInt32)) ||| (m.permission.bits <<< (18 : UInt32))

/-- The value in lower-case hexadecimal digits. -/
def hex (m : Mark) : String :=
  String.ofList (Nat.toDigits 16 m.value.toNat)

end Mark

end NetControl.Tether
