import NetControl.Bytes
import NetControl.Net.Address
import NetControl.Tether.Mark

/-!
Frames for the forwarding daemon. A frame is a line of fields with a bar between them, closed by a
NUL, of less than `Frame.sizeLimit` bytes. Fields that would make a frame too long are left out,
together with every field after them.
-/

namespace NetControl.Tether

/-- A frame without its NUL. -/
structure Frame where
  text : String
deriving Repr, DecidableEq

namespace Frame

/-- The size, in bytes with the NUL, that a frame stays below. -/
def sizeLimit : Nat := 1024

/-- The character between fields. -/
def separator : String := "|"

/-- The bytes sent to the daemon. -/
def bytes (f : Frame) : Bytes :=
  Bytes.ofString f.text ++ [0]

/-- The frame with one more field, if that fits. -/
def push? (f : Frame) (field : String) : Option Frame :=
  let longer := f.text ++ separator ++ field
  if longer.utf8ByteSize + 1 < sizeLimit then some ⟨longer⟩ else none

/-- Why no more fields were added to a frame. -/
inductive Ending where
  /-- All fields are in the frame. -/
  | complete
  /-- The next field does not fit. -/
  | full
  /-- The next field is not acceptable. -/
  | rejected (field : String)
deriving Repr, DecidableEq

/-- A frame and the fields that were added to it. -/
structure Filling where
  frame : Frame
  added : List String
  ending : Ending
deriving Repr, DecidableEq

/-- Adds fields in order while each is acceptable and fits. A field is looked at before its size
is, and no field after the last is looked at. -/
def fill (acceptable : String → Bool) (f : Frame) : List String → Filling
  | [] => ⟨f, [], .complete⟩
  | field :: rest =>
    if acceptable field then
      match f.push? field with
      | none => ⟨f, [], .full⟩
      | some longer =>
        let filled := fill acceptable longer rest
        { filled with added := field :: filled.added }
    else ⟨f, [], .rejected field⟩

end Frame

/-! ## Name servers -/

/-- Whether a text is a literal address, possibly with the scope of an IPv6 address after `%`. -/
def isNumericHost (s : String) : Bool :=
  if (Net.Address.parse? s).isSome then true
  else
    let address := s.toList.takeWhile (· ≠ '%')
    match s.toList.drop address.length with
    | _ :: scope => scope ≠ [] && (Net.parseV6 address).isSome
    | [] => false

/-- The frame that begins a list of name servers. -/
def serversHead (mark : Mark) : Frame :=
  ⟨"update_dns" ++ Frame.separator ++ "0x" ++ mark.hex⟩

def fillServers (mark : Mark) (servers : List String) : Frame.Filling :=
  Frame.fill isNumericHost (serversHead mark) servers

/-- The name servers for the daemon. -/
structure ServerUpdate where
  frame : Frame
  /-- The servers in the frame. -/
  servers : List String
deriving Repr, DecidableEq

/-- The update with a list of name servers, or the first server that is no literal address. -/
def updateServers (mark : Mark) (servers : List String) : Except String ServerUpdate :=
  let filled := fillServers mark servers
  match filled.ending with
  | .rejected server => .error server
  | _ => .ok ⟨filled.frame, filled.added⟩

/-! ## Interfaces -/

def fillInterfaces (interfaces : List String) : Frame.Filling :=
  Frame.fill (fun _ => true) ⟨"update_ifaces"⟩ interfaces

/-- The frame with a list of interfaces, unless it has none. -/
def updateInterfaces (interfaces : List String) : Option Frame :=
  let filled := fillInterfaces interfaces
  if filled.added = [] then none else some filled.frame

end NetControl.Tether
