import NetControl.Lookup.Request

/-!
The client's side of the lookup socket: responses taken off a byte stream one by one. A text
response has a blank after its code, every other response a NUL; what follows the code of a result
depends on which lookup it answers, so the client says which one that is.
-/

namespace NetControl.Lookup

open Command

/-- The number that three digits denote. -/
def codeOf? (a b c : UInt8) : Option Code :=
  let digits := [a, b, c].map fun x => Char.ofNat x.toNat
  (Text.readDigits? digits).map UInt16.ofNat

/-- Reads a code and the NUL that closes it. -/
def readCode : Bytes → Decoded Code
  | a :: b :: c :: z :: rest =>
    match codeOf? a b c with
    | some code => if z = 0 then .ok (code, rest) else .error (.malformed .unterminatedText)
    | none => .error (.malformed .invalidText)
  | _ => .error .truncated

/-- Reads a text up to its NUL. -/
def readLine (b : Bytes) : Decoded String :=
  match b.dropWhile (· ≠ 0) with
  | [] => .error .truncated
  | _ :: rest =>
    match Bytes.toString? (b.takeWhile (· ≠ 0)) with
    | some s => .ok (s, rest)
    | none => .error (.malformed .invalidText)

def readBinary (b : Bytes) : Except DecodeError ((Code × Bytes) × Bytes) := do
  let (code, b) ← readCode b
  let (data, b) ← readFrame b
  pure ((code, data), b)

/-! ## Results off a stream

What follows the code of a result has no length of its own. The client takes its frames one by one
up to the frame that ends it, puts their bytes together again, and decodes these. -/

/-- Takes so many bytes. -/
def takeBytes (count : Nat) (b : Bytes) : Decoded Bytes :=
  if b.length < count then .error .truncated else .ok (b.take count, b.drop count)

/-- Takes frames up to an empty one. -/
def takeFrames (b : Bytes) : Decoded (List Bytes) :=
  match _read : readFrame b with
  | .error e => .error e
  | .ok (data, rest) =>
    if data = [] then .ok ([], rest)
    else (takeFrames rest).map fun (frames, last) => (data :: frames, last)
termination_by b.length
decreasing_by
  have := readFrame_length _read
  omega

/-- The frames of one address: its header, its socket address and its name. -/
structure Record where
  header : Bytes
  address : Bytes
  name : Bytes

def Record.encode (r : Record) : Bytes :=
  frame r.header ++ frame r.address ++ frame r.name

/-- Takes addresses up to an empty frame in the place of a header. -/
def takeRecords (b : Bytes) : Decoded (List Record) :=
  match _first : readFrame b with
  | .error e => .error e
  | .ok (header, rest) =>
    if header = [] then .ok ([], rest)
    else
      match _second : readFrame rest with
      | .error e => .error e
      | .ok (address, rest') =>
        match _third : readFrame rest' with
        | .error e => .error e
        | .ok (name, rest'') =>
          (takeRecords rest'').map fun (records, last) => (⟨header, address, name⟩ :: records, last)
termination_by b.length
decreasing_by
  have := readFrame_length _first
  have := readFrame_length _second
  have := readFrame_length _third
  omega

/-- The bytes of a host entry. -/
def collectHost (b : Bytes) : Except DecodeError (Bytes × Bytes) := do
  let (name, b) ← readFrame b
  let (aliases, b) ← takeFrames b
  let (numbers, b) ← takeBytes 8 b
  let (addresses, b) ← takeFrames b
  pure (frame name ++ aliases.flatMap frame ++ endFrame ++ numbers ++ addresses.flatMap frame
    ++ endFrame, b)

/-- The bytes of a list of addresses. -/
def collectAddresses (b : Bytes) : Except DecodeError (Bytes × Bytes) := do
  let (records, b) ← takeRecords b
  pure (records.flatMap Record.encode ++ endFrame, b)

/-- Collects the bytes of a result and decodes them. -/
def readCollected {α : Type} (collect : Bytes → Decoded Bytes)
    (decode : Bytes → Except DecodeError (α × Bytes)) (b : Bytes) :
    Except DecodeError (α × Bytes) := do
  let (raw, b) ← collect b
  let (found, _) ← decode raw
  pure (found, b)

def readHost (b : Bytes) : Except DecodeError ((Code × HostEntry) × Bytes) := do
  let (code, b) ← readCode b
  let (entry, b) ← readCollected collectHost decodeHost b
  pure ((code, entry), b)

def readAddressList (b : Bytes) : Except DecodeError ((Code × List AddressInfo) × Bytes) := do
  let (code, b) ← readCode b
  let (found, b) ← readCollected collectAddresses decodeAddresses b
  pure ((code, found), b)

/-! ## Responses -/

/-- A response of the lookup socket. -/
inductive Reply where
  /-- The request was rejected with this code and message. -/
  | rejected (code : Code) (message : String)
  /-- The lookup was carried out. -/
  | answered (answer : Answer)
deriving DecidableEq

/-- The bytes of a response. Text responses of this socket carry no sequence number. -/
def Reply.encode : Reply → Bytes
  | rejected code message => (Response.text code none message).encode
  | answered answer => answer.encode

/-- The kinds of lookups. -/
inductive Kind where
  | addresses
  | hostByName
  | hostByAddress
deriving Repr, DecidableEq

/-- The kind of a question. -/
def Query.kind : Query → Kind
  | addresses .. => .addresses
  | hostByName .. => .hostByName
  | hostByAddress .. => .hostByAddress

/-- The code and the message of a rejection, out of its text. -/
def readRejection (text : String) : Except DecodeError Reply :=
  match text.toList with
  | x :: y :: z :: _ :: message =>
    match Text.readDigits? [x, y, z] with
    | some code => .ok (.rejected (UInt16.ofNat code) (String.ofList message))
    | none => .error (.malformed .invalidText)
  | _ => .error .truncated

/-- The code of a failed lookup, out of its four bytes. -/
def readFailure (data : Bytes) : Except DecodeError Answer :=
  match data with
  | [a, b, c, d] => .ok (.failed (Bytes.readBE32 d c b a))
  | _ => .error (.malformed .headerLength)

/-- Reads what a lookup has found, after its code. -/
def readFound (kind : Kind) (b : Bytes) : Except DecodeError (Answer × Bytes) :=
  match kind with
  | .addresses =>
    (readCollected collectAddresses decodeAddresses b).map fun (found, rest) =>
      (.addresses found, rest)
  | .hostByName =>
    (readCollected collectHost decodeHost b).map fun (entry, rest) => (.host entry, rest)
  | .hostByAddress => do
    let (data, rest) ← readFrame b
    let name ← readOption data
    pure (.hostName name, rest)

/-- Reads one response to a lookup of the given kind. The fourth byte tells a text from the rest. -/
def readReply (kind : Kind) (b : Bytes) : Except DecodeError (Reply × Bytes) :=
  match b with
  | _ :: _ :: _ :: z :: _ =>
    if z = 0 then do
      let (code, rest) ← readCode b
      if code = Code.lookupFailed then do
        let (data, rest) ← readFrame rest
        let answer ← readFailure data
        pure (.answered answer, rest)
      else do
        let (answer, rest) ← readFound kind rest
        pure (.answered answer, rest)
    else do
      let (text, rest) ← readLine b
      let reply ← readRejection text
      pure (reply, rest)
  | _ => .error .truncated

/-- Reads the responses to lookups of the given kinds, one after the other. -/
def readReplies : List Kind → Bytes → Except DecodeError (List Reply × Bytes)
  | [], b => .ok ([], b)
  | kind :: kinds, b => do
    let (reply, b) ← readReply kind b
    let (replies, b) ← readReplies kinds b
    pure (reply :: replies, b)

end NetControl.Lookup
