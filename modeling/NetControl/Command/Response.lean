import NetControl.Bytes
import NetControl.Text.Number

/-!
Responses and their three written forms. A text response is a code, the sequence number where
requests carry one, and a message, closed by a NUL. A code response is three digits and a NUL. A
binary response is a code response followed by the length of its data and the data.
-/

namespace NetControl.Command

/-- A response code. Three digits of it are written. -/
abbrev Code := UInt16

namespace Code

/-! ### Partial results: more lines follow -/

/-- One tethered interface. -/
def tetherInterface : Code := 111

/-- One name server of the tethered network. -/
def tetherServer : Code := 112

/-! ### The requested action completed -/

/-- The request was carried out. -/
def okay : Code := 200

/-- Whether tethering runs. -/
def tetherStatus : Code := 210

/-- Whether packets are forwarded. -/
def forwardingStatus : Code := 211

/-- The result of a lookup. -/
def lookupResult : Code := 222

/-! ### The request was accepted and the action failed -/

/-- The action failed. -/
def operationFailed : Code := 400

/-- The lookup failed. -/
def lookupFailed : Code := 401

/-! ### The request was not accepted -/

/-- The request is not one of the language. -/
def syntaxError : Code := 500

/-- An argument is not one of its kind. -/
def parameterError : Code := 501

def digits (code : Code) : List Char :=
  Text.padded 3 (Nat.toDigits 10 (code.toNat % 1000))

end Code

/-- A response to a request. -/
inductive Response where
  /-- A message, with the sequence number of the request it answers where there is one. -/
  | text (code : Code) (sequence : Option Int32) (message : String)
  /-- A code alone. -/
  | code (code : Code)
  /-- A code and data. -/
  | binary (code : Code) (data : Bytes)
deriving Repr, DecidableEq

namespace Response

def toCode : Response → Code
  | text c _ _ => c
  | code c => c
  | binary c _ => c

/-- The text of a text response, without the NUL that closes it. -/
def line (code : Code) (sequence : Option Int32) (message : String) : String :=
  match sequence with
  | some n => String.ofList code.digits ++ " " ++ Text.decimal n.toInt ++ " " ++ message
  | none => String.ofList code.digits ++ " " ++ message

/-- A code and the NUL that closes it. -/
def encodeCode (code : Code) : Bytes :=
  Bytes.ofString (String.ofList code.digits) ++ [0]

def encode : Response → Bytes
  | text c sequence message => Bytes.ofString (line c sequence message) ++ [0]
  | code c => encodeCode c
  | binary c data => encodeCode c ++ Bytes.be32 (UInt32.ofNat data.length) ++ data

end Response

end NetControl.Command
