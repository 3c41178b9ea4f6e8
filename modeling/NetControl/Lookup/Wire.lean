import NetControl.Command.Response
import NetControl.Lookup.Basic

/-!
Lookup results as bytes. A frame is the length of its data and the data. A list is its items'
frames, closed by an empty frame, so an empty frame also stands for an absent text; a text that is
present carries a NUL, so its frame is never empty.

The readers invert the writers: they answer the result and the bytes after it, `truncated` where
the bytes end inside a result, and `malformed` where no further bytes could complete it.
-/

namespace NetControl.Lookup

open Net

/-! ## Writing -/

def frame (data : Bytes) : Bytes :=
  Bytes.be32 (UInt32.ofNat data.length) ++ data

def textFrame (s : String) : Bytes :=
  frame (Bytes.ofString s ++ [0])

/-- The empty frame. -/
def endFrame : Bytes :=
  Bytes.be32 0

/-- The frame of a text that may be absent. -/
def optionFrame : Option String → Bytes
  | some s => textFrame s
  | none => endFrame

/-- A number with sign, in four bytes. -/
def int32 (n : Int32) : Bytes :=
  Bytes.be32 n.toUInt32

def HostEntry.encode (h : HostEntry) : Bytes :=
  optionFrame h.name ++ h.aliases.flatMap textFrame ++ endFrame
    ++ int32 h.addressType ++ int32 h.length ++ h.addresses.flatMap frame ++ endFrame

/-- The numbers of an address, and the size of its socket address. -/
def AddressInfo.header (a : AddressInfo) : Bytes :=
  int32 a.flags ++ int32 a.family ++ int32 a.socketType ++ int32 a.protocol
    ++ int32 (Int32.ofNat a.address.bytes.length)

/-- One address of a list. -/
def AddressInfo.encode (a : AddressInfo) : Bytes :=
  frame a.header ++ frame a.address.bytes ++ optionFrame a.canonicalName

def encodeAddresses (found : List AddressInfo) : Bytes :=
  found.flatMap AddressInfo.encode ++ endFrame

/-! ## Answers -/

/-- The answer to one lookup. -/
inductive Answer where
  /-- The addresses of a host and a service. -/
  | addresses (found : List AddressInfo)
  /-- The entry of a host. -/
  | host (entry : HostEntry)
  /-- The name of a host. -/
  | hostName (name : Option String)
  /-- The lookup failed with the resolver's code. -/
  | failed (code : UInt32)
deriving DecidableEq

/-- The data that the name of a host travels as. -/
def nameData : Option String → Bytes
  | some s => Bytes.ofString s ++ [0]
  | none => []

def Answer.encode : Answer → Bytes
  | addresses found =>
    Command.Response.encodeCode Command.Code.lookupResult ++ encodeAddresses found
  | host entry => Command.Response.encodeCode Command.Code.lookupResult ++ entry.encode
  | hostName name => (Command.Response.binary Command.Code.lookupResult (nameData name)).encode
  | failed code => (Command.Response.binary Command.Code.lookupFailed (Bytes.le32 code)).encode

theorem encodeCode_lookupResult :
    Command.Response.encodeCode Command.Code.lookupResult = Bytes.ofString "222" ++ [0] := by
  decide +kernel

theorem encodeCode_lookupFailed :
    Command.Response.encodeCode Command.Code.lookupFailed = Bytes.ofString "401" ++ [0] := by
  decide +kernel

/-! ## Reading -/

/-- Why bytes are no result, whatever follows them. -/
inductive Malformation where
  /-- A text without the NUL that ends it. -/
  | unterminatedText
  /-- A text that is not UTF-8. -/
  | invalidText
  /-- An address of another length than the entry says. -/
  | addressLength
  /-- A header of another size than headers have. -/
  | headerLength
  /-- A socket address of another length than its header says. -/
  | socketAddressLength
  /-- A socket address of no supported family. -/
  | socketAddress
deriving Repr, DecidableEq

/-- Why bytes do not begin with a result. -/
inductive DecodeError where
  /-- The bytes end inside a result. -/
  | truncated
  /-- The bytes are no result, whatever follows them. -/
  | malformed (why : Malformation)
deriving Repr, DecidableEq

/-- What is wrong with the bytes. -/
def Malformation.message : Malformation → String
  | unterminatedText => "string is not NUL terminated"
  | invalidText => "string is not UTF-8"
  | addressLength => "address length does not match h_length"
  | headerLength => "bad addrinfo header length"
  | socketAddressLength => "sockaddr length does not match ai_addrlen"
  | socketAddress => "unsupported sockaddr"

/-- The error as one line. -/
def DecodeError.message : DecodeError → String
  | truncated => "unexpected end of input"
  | malformed why => "malformed frame: " ++ why.message

/-- A result and the bytes after it. -/
abbrev Decoded (α : Type) := Except DecodeError (α × Bytes)

def readFrame : Bytes → Decoded Bytes
  | a :: b :: c :: d :: rest =>
    let size := (Bytes.readBE32 a b c d).toNat
    if rest.length < size then .error .truncated else .ok (rest.take size, rest.drop size)
  | _ => .error .truncated

theorem readFrame_length {b data rest : Bytes} (read : readFrame b = .ok (data, rest)) :
    rest.length + 4 ≤ b.length := by
  unfold readFrame at read
  split at read
  · simp only at read
    split at read
    · cases read
    · cases read
      simp
  · cases read

/-- The text of a non-empty frame. -/
def readText (data : Bytes) : Except DecodeError String :=
  if data.getLast? = some 0 then
    match Bytes.toString? data.dropLast with
    | some s => .ok s
    | none => .error (.malformed .invalidText)
  else .error (.malformed .unterminatedText)

/-- The text of a frame, absent where the frame is empty. -/
def readOption (data : Bytes) : Except DecodeError (Option String) :=
  if data = [] then .ok none else (readText data).map some

/-- Reads texts up to an empty frame. -/
def readTexts (b : Bytes) : Decoded (List String) :=
  match _read : readFrame b with
  | .error e => .error e
  | .ok (data, rest) =>
    if data = [] then .ok ([], rest)
    else
      match readText data with
      | .error e => .error e
      | .ok s => (readTexts rest).map fun (texts, last) => (s :: texts, last)
termination_by b.length
decreasing_by
  have := readFrame_length _read
  omega

/-- Reads addresses of the given length up to an empty frame. -/
def readAddresses (length : Int32) (b : Bytes) : Decoded (List Bytes) :=
  match _read : readFrame b with
  | .error e => .error e
  | .ok (data, rest) =>
    if data = [] then .ok ([], rest)
    else if Int32.ofNat data.length ≠ length then .error (.malformed .addressLength)
    else (readAddresses length rest).map fun (addresses, last) => (data :: addresses, last)
termination_by b.length
decreasing_by
  have := readFrame_length _read
  omega

/-- Reads a number with sign. -/
def readInt32 : Bytes → Decoded Int32
  | a :: b :: c :: d :: rest => .ok ((Bytes.readBE32 a b c d).toInt32, rest)
  | _ => .error .truncated

def decodeHost (b : Bytes) : Except DecodeError (HostEntry × Bytes) := do
  let (data, b) ← readFrame b
  let name ← readOption data
  let (aliases, b) ← readTexts b
  let (addressType, b) ← readInt32 b
  let (length, b) ← readInt32 b
  let (addresses, b) ← readAddresses length b
  pure (⟨name, aliases, addressType, length, addresses⟩, b)

/-- The numbers of a header: flags, family, socket type, protocol and the size of the socket
address. -/
def readHeader (data : Bytes) : Except DecodeError (Hints × Int32) :=
  if data.length = 20 then do
    let (flags, b) ← readInt32 data
    let (family, b) ← readInt32 b
    let (socketType, b) ← readInt32 b
    let (protocol, b) ← readInt32 b
    let (size, _) ← readInt32 b
    pure (⟨flags, family, socketType, protocol⟩, size)
  else .error (.malformed .headerLength)

/-- The socket address of a frame whose size the header gives. -/
def readSocketAddress (size : Int32) (data : Bytes) : Except DecodeError SocketAddress :=
  if Int32.ofNat data.length ≠ size then .error (.malformed .socketAddressLength)
  else
    match SocketAddress.ofBytes? data with
    | some address => .ok address
    | none => .error (.malformed .socketAddress)

/-- Reads what follows the header of an address: the socket address and the name. -/
def readInfo (h : Hints) (size : Int32) (b : Bytes) :
    Except DecodeError (AddressInfo × Bytes) := do
  let (data, b) ← readFrame b
  let address ← readSocketAddress size data
  let (data, b) ← readFrame b
  let canonicalName ← readOption data
  pure (⟨h.flags, h.family, h.socketType, h.protocol, address, canonicalName⟩, b)

theorem readInfo_length {h : Hints} {size : Int32} {b rest : Bytes} {a : AddressInfo}
    (read : readInfo h size b = .ok (a, rest)) : rest.length ≤ b.length := by
  unfold readInfo at read
  cases first : readFrame b with
  | error e => simp [first, bind, Except.bind] at read
  | ok one =>
    obtain ⟨data, b₁⟩ := one
    simp only [first, bind, Except.bind] at read
    cases inside : readSocketAddress size data with
    | error e => simp [inside] at read
    | ok address =>
      simp only [inside] at read
      cases second : readFrame b₁ with
      | error e => simp [second] at read
      | ok two =>
        obtain ⟨name, b₂⟩ := two
        simp only [second] at read
        cases named : readOption name with
        | error e => simp [named] at read
        | ok canonical =>
          simp only [named, pure, Except.pure, Except.ok.injEq, Prod.mk.injEq] at read
          have := readFrame_length first
          have := readFrame_length second
          rw [← read.2]
          omega

def decodeAddresses (b : Bytes) : Decoded (List AddressInfo) :=
  match _head : readFrame b with
  | .error e => .error e
  | .ok (data, rest) =>
    if data = [] then .ok ([], rest)
    else
      match readHeader data with
      | .error e => .error e
      | .ok (h, size) =>
        match _info : readInfo h size rest with
        | .error e => .error e
        | .ok (a, rest') => (decodeAddresses rest').map fun (found, last) => (a :: found, last)
termination_by b.length
decreasing_by
  have := readFrame_length _head
  have := readInfo_length _info
  omega

end NetControl.Lookup
