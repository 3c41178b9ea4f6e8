import NetControl.Text.Lossy

/-!
Requests in a byte stream. A NUL ends each request line. A line of more than `Inbox.capacity` bytes
is refused as soon as the byte too many arrives, and nothing after it is read.

The stream may arrive in pieces of any size: an `Inbox` holds what came of the line that is not
complete yet.
-/

namespace NetControl.Command

/-- What a stretch of bytes completes. -/
inductive Arrival where
  /-- A complete request line. -/
  | line (text : String)
  /-- A line with more bytes than a request may have. -/
  | tooLong
deriving Repr, DecidableEq

/-- The reading side of one connection. -/
structure Inbox where
  /-- The bytes of the incomplete line, the newest first. -/
  held : Bytes
  /-- How many more bytes the incomplete line may have. -/
  room : Nat
  /-- Whether a line was too long, so that nothing more is read. -/
  refused : Bool
deriving Repr, DecidableEq

namespace Inbox

/-- The longest request line, in bytes, without the NUL that ends it. -/
def capacity : Nat := 4096

/-- Nothing has arrived. -/
def empty : Inbox := ⟨[], capacity, false⟩

/-- Takes one byte. -/
def push (b : UInt8) (inbox : Inbox) : Inbox × Option Arrival :=
  if inbox.refused then (inbox, none)
  else if b = 0 then (empty, some (.line (Text.lossy inbox.held.reverse)))
  else
    match inbox.room with
    | 0 => (⟨[], 0, true⟩, some .tooLong)
    | room + 1 => (⟨b :: inbox.held, room, false⟩, none)

/-- Takes a piece of the stream, and tells what arrived with it. -/
def receive (inbox : Inbox) : Bytes → Inbox × List Arrival
  | [] => (inbox, [])
  | b :: rest =>
    let (next, arrived) := push b inbox
    let (last, more) := receive next rest
    (last, arrived.toList ++ more)

/-- What a whole stream delivers. -/
def arrivals (stream : Bytes) : List Arrival :=
  (receive empty stream).2

end Inbox

end NetControl.Command
