import NetControl.Control.Conversation
import NetControl.Proofs.Command.Arrivals

/-!
# A control connection whose stream arrives in pieces

`Conversation.accept` serves a stream as a whole. `Conversation.serveReads` serves it read by read:
what one read completes is carried out before the next read. `Conversation.serveReads_eq` says that
both are the same, and `Conversation.serveReads_requests` that they carry out the requests of the
stream, refuse a line that is too long, and end.
-/

namespace NetControl.Control.Conversation

open Command Tether

/-- Carries out a request line and sends its responses. -/
def obey (line : String) : Plan Conversation Unit := do
  send (← hear line)

/-- Tells the peer that a line is too long. -/
def refuse : Plan Conversation Unit := do
  let c ← Plan.get
  send [.text 500 c.client.sequence? "Command too large for buffer"]

/-- Serves what arrives and then goes on, unless a line is too long. -/
def serveThen (next : Plan Conversation Unit) : List Arrival → Plan Conversation Unit
  | [] => next
  | .tooLong :: _ => do
    refuse
    close
  | .line text :: rest => do
    obey text
    serveThen next rest

/-- Serves a connection whose stream arrives in these reads, for a peer that takes its responses. -/
def serveReads (inbox : Inbox) : List Bytes → Plan Conversation Unit
  | [] => close
  | piece :: rest =>
    let (next, arrived) := inbox.receive piece
    serveThen (serveReads next rest) arrived

theorem serve_eq_serveThen (arrived : List Arrival) :
    serve false arrived = serveThen close arrived := by
  induction arrived with
  | nil => rfl
  | cons a rest ih =>
    cases a with
    | line text =>
      unfold serve serveThen obey
      rw [bind_assoc]
      exact bind_congr fun responses => congrArg (send responses >>= fun _ => ·) ih
    | tooLong => rfl

theorem serveThen_append (next : Plan Conversation Unit) (arrived more : List Arrival) :
    serveThen next (arrived ++ more) = serveThen (serveThen next more) arrived := by
  induction arrived with
  | nil => rfl
  | cons a rest ih =>
    cases a with
    | line text => exact congrArg (obey text >>= fun _ => ·) ih
    | tooLong => rfl

theorem serveReads_eq (inbox : Inbox) (reads : List Bytes) :
    serveReads inbox reads = serve false (inbox.receiveAll reads).2 := by
  induction reads generalizing inbox with
  | nil => rfl
  | cons piece rest ih =>
    rw [serve_eq_serveThen]
    change serveThen (serveReads (inbox.receive piece).1 rest) (inbox.receive piece).2 =
      serveThen close ((inbox.receive piece).2 ++ ((inbox.receive piece).1.receiveAll rest).2)
    rw [serveThen_append, ih, serve_eq_serveThen]

/-- A stream that is read in pieces is served as the whole stream is. -/
theorem accept_flatten (reads : List Bytes) :
    accept false reads.flatten = (do
      Plan.log (Notes.accepted serviceName)
      serveReads Inbox.empty reads) := by
  rw [serveReads_eq, Inbox.receiveAll_eq]
  rfl

theorem serveThen_lines (next : Plan Conversation Unit) (lines : List String) :
    serveThen next (lines.map .line) = (do
      forM lines obey
      next) := by
  induction lines with
  | nil => rfl
  | cons line rest ih =>
    rw [List.map_cons, List.forM_cons, bind_assoc]
    exact congrArg (obey line >>= fun _ => ·) ih

/-- In whatever reads a stream arrives: its requests are carried out in order, then a line that is
too long is refused if there is one, and then the connection ends. -/
theorem serveReads_requests (reads : List Bytes) :
    serveReads Inbox.empty reads = (do
      forM (Inbox.requests reads.flatten) obey
      if Inbox.isOverlong reads.flatten then refuse
      close) := by
  have arrived : (Inbox.empty.receiveAll reads).2 = _ := Inbox.received_eq reads
  rw [serveReads_eq, serve_eq_serveThen, arrived, serveThen_append, serveThen_lines]
  refine congrArg (forM (Inbox.requests reads.flatten) obey >>= fun _ => ·) ?_
  cases Inbox.isOverlong reads.flatten with
  | true => rfl
  | false => rfl

end NetControl.Control.Conversation
