import NetControl.Command.Client
import NetControl.Command.Line

/-!
From a request line to the arguments of a known command. On a connection whose requests carry
sequence numbers, the first argument is that number, and responses echo it from then on.
-/

namespace NetControl.Command

/-- A request that is not carried out, and what the client is told. -/
structure Rejection where
  code : Code
  message : String
  /-- An error number that is described after the message. -/
  errno : Option Int := none
deriving Repr, DecidableEq

def Rejection.response (client : Client) (r : Rejection) : Response :=
  client.message r.code r.message r.errno

namespace Dispatch

/-- The rejection of a line without arguments list. -/
def lineRejection (e : LineError) : Rejection :=
  ⟨Code.syntaxError, e.message, none⟩

/-- The rejection of a line without a sequence number. -/
def sequenceRejection : Rejection :=
  ⟨Code.syntaxError, "Invalid sequence number", none⟩

/-- The rejection of a line that names no command. -/
def commandRejection : Rejection :=
  ⟨Code.syntaxError, "Command not recognized", none⟩

/-- Takes the sequence number from the arguments, where the connection has them. -/
def takeSequence (client : Client) (arguments : List String) :
    Client × Except Rejection (List String) :=
  if client.withSequence then
    match arguments with
    | first :: rest =>
      match Text.readInt32? first with
      | some n => ({ client with sequence := n }, .ok rest)
      | none => (client, .error sequenceRejection)
    | [] => (client, .error sequenceRejection)
  else (client, .ok arguments)

/-- The arguments, if the first of them names a command. -/
def checkCommand (commands : List String) (arguments : List String) :
    Except Rejection (List String) :=
  match arguments with
  | name :: _ => if name ∈ commands then .ok arguments else .error commandRejection
  | [] => .error commandRejection

/-- The arguments of a request line, from the name of the command on, or its rejection; and the
connection with the sequence number that responses carry from then on. -/
def accept (commands : List String) (client : Client) (line : String) :
    Client × Except Rejection (List String) :=
  match Line.parse line with
  | .error e => (client, .error (lineRejection e))
  | .ok arguments =>
    match takeSequence client arguments with
    | (client, .error r) => (client, .error r)
    | (client, .ok arguments) => (client, checkCommand commands arguments)

end Dispatch

end NetControl.Command
