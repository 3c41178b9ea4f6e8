import NetControl.Proofs.Lookup.Rejections
import NetControl.Proofs.Lookup.Steps
import NetControl.Proofs.Text.Utf8

/-!
# Which response belongs to a line

`Belongs limit moves i n b` says that, in the run of these moves, `b` is a response to line `n` of
connection `i`, octet by octet: the rejection of the line, or what came of the lookup that the line
asked for. The latter is that of the lookup itself (`Finds`): the run has a move by which a resolver
answered this very lookup, with a result or with an error, or broke down over it. What belongs to a
line in a run belongs to it in every longer run.
-/

namespace NetControl.Lookup

open Command

/-! ## Octets -/

/-- A failed lookup: the code of its failure, in four octets from the least significant on. -/
def failureBytes (code : Int32) : Bytes :=
  Bytes.ofString "401" ++ [0] ++ [0, 0, 0, 4] ++ Bytes.le32 code.toUInt32

/-- The name of a host, in a frame that is empty where there is none. -/
def nameBytes : Option String → Bytes
  | some name =>
    Bytes.be32 (UInt32.ofNat (name.utf8ByteSize + 1)) ++ (Bytes.ofString name ++ [0])
  | none => [0, 0, 0, 0]

namespace Query

/-- What a resolver comes to: its own result as it is written, or the code of its own error. -/
def outcomeOf {α : Type} (written : α → Bytes) : Except Failure α → Bytes
  | .ok found => Bytes.ofString "222" ++ [0] ++ written found
  | .error (.addresses code) => failureBytes code
  | .error (.host code) => failureBytes code

/-- What a resolver comes to over a question. -/
def outcomeBytes (r : Resolver) (interface : Option String) : Query → Bytes
  | addresses host service hints =>
    outcomeOf encodeAddresses (r.addresses host service hints interface)
  | hostByName name family => outcomeOf HostEntry.encode (r.hostByName name family interface)
  | hostByAddress address family =>
    outcomeOf (fun entry => nameBytes entry.name) (r.hostByAddress address family interface)

/-- What stands for a resolver that breaks down over a question: `EAI_FAIL` for addresses, and
`NO_RECOVERY` for hosts. -/
def breakdownBytes : Query → Bytes
  | addresses .. => failureBytes (-4)
  | hostByName .. => failureBytes 3
  | hostByAddress .. => failureBytes 3

end Query

theorem encode_failed (code : Int32) :
    (Answer.failed code.toUInt32).encode = failureBytes code := by
  rw [Answer.encode, Response.encode, encodeCode_lookupFailed, Bytes.length_le32]
  rfl

theorem encode_hostName (name : Option String) :
    (Answer.hostName name).encode = Bytes.ofString "222" ++ [0] ++ nameBytes name := by
  rw [Answer.encode, Response.encode, encodeCode_lookupResult, List.append_assoc]
  cases name with
  | none => rfl
  | some name =>
    rw [nameData, List.length_append, Bytes.length_ofString]
    rfl

namespace Query

theorem encode_answerOf {α : Type} {present : α → Answer} {written : α → Bytes}
    (presents : ∀ found, (present found).encode = Bytes.ofString "222" ++ [0] ++ written found)
    (outcome : Except Failure α) : (answerOf present outcome).encode = outcomeOf written outcome := by
  cases outcome with
  | ok found => exact presents found
  | error failure =>
    cases failure with
    | addresses code => exact encode_failed code
    | host code => exact encode_failed code

theorem encode_answer (q : Query) (r : Resolver) (interface : Option String) :
    (q.answer r interface).encode = q.outcomeBytes r interface := by
  cases q with
  | addresses host service hints =>
    refine encode_answerOf (fun found => ?_) _
    rw [Answer.encode, encodeCode_lookupResult]
  | hostByName name family =>
    refine encode_answerOf (fun entry => ?_) _
    rw [Answer.encode, encodeCode_lookupResult]
  | hostByAddress address family => exact encode_answerOf (fun entry => encode_hostName _) _

theorem encode_breakdown (q : Query) :
    (Answer.failed q.breakdownCode).encode = q.breakdownBytes := by
  cases q with
  | addresses => exact encode_failed (-4)
  | hostByName | hostByAddress => exact encode_failed 3

end Query

theorem Pool.encode_tooLong : (Pool.tooLong.response (Client.new false)).encode =
    Bytes.ofString "500 Command too large for buffer" ++ [0] := by
  decide +kernel

/-! ## Lines -/

/-- What a move delivers on a connection. -/
def Pool.Move.arrivalsOn (i : Nat) : Pool.Move → List Arrival
  | .arrive j arrivals => if j = i then arrivals else []
  | _ => []

/-- Everything that arrives on a connection in the course of these moves. -/
def arrivedOn (moves : List Pool.Move) (i : Nat) : List Arrival :=
  moves.flatMap (Pool.Move.arrivalsOn i)

/-- `Finds limit moves i n request b`: in the run of these moves, the lookup for line `n` of
connection `i`, whose request is `request`, comes to an outcome with the octets `b`. -/
inductive Finds (limit : Nat) (moves : List Pool.Move) (i n : Nat) (request : Request) :
    Bytes → Prop
  /-- A resolver worked on this lookup, and this is its result or the code of its error. -/
  | resolved {before after : List Pool.Move} {job : Nat} {resolver : Resolver} {p : Pool}
    {interface : Option String} (split : moves = before ++ .resolve job resolver :: after)
    (reached : (Pool.new limit).run before = some p)
    (asked : p.jobs[job]? = some ⟨i, n, request, .resolving interface⟩) :
    Finds limit moves i n request (request.query.outcomeBytes resolver interface)
  /-- The resolver broke down over this lookup. -/
  | brokeDown {before after : List Pool.Move} {job : Nat} {p : Pool} {interface : Option String}
    (split : moves = before ++ .breakDown job :: after)
    (reached : (Pool.new limit).run before = some p)
    (asked : p.jobs[job]? = some ⟨i, n, request, .resolving interface⟩) :
    Finds limit moves i n request request.query.breakdownBytes

/-- `Belongs limit moves i n b`: in the run of these moves, `b` is a whole response to line `n` of
connection `i`. -/
inductive Belongs (limit : Nat) (moves : List Pool.Move) (i n : Nat) : Bytes → Prop
  /-- The line is a lookup, and this is what came of it. -/
  | found {text : String} {request : Request} {b : Bytes}
    (line : (arrivedOn moves i)[n]? = some (.line text))
    (reads : Request.ofLine text = .ok request) (finds : Finds limit moves i n request b) :
    Belongs limit moves i n b
  /-- The line is no lookup, and this says why. -/
  | rejected {text message : String} (line : (arrivedOn moves i)[n]? = some (.line text))
    (rejects : Request.Rejects text message) :
    Belongs limit moves i n (Bytes.ofString message ++ [0])
  /-- The line is too long. -/
  | refused (line : (arrivedOn moves i)[n]? = some .tooLong) :
    Belongs limit moves i n (Bytes.ofString "500 Command too large for buffer" ++ [0])

variable {limit i n : Nat} {moves : List Pool.Move}

/-- The answer of a resolver is found by the move with which it comes. -/
theorem Finds.of_resolve {request : Request} {job : Nat} {resolver : Resolver} {p : Pool}
    {interface : Option String} (reached : (Pool.new limit).run moves = some p)
    (asked : p.jobs[job]? = some ⟨i, n, request, .resolving interface⟩) :
    Finds limit (moves ++ [.resolve job resolver]) i n request
      (request.query.answer resolver interface).encode := by
  rw [Query.encode_answer]
  exact .resolved rfl reached asked

theorem Finds.of_breakDown {request : Request} {job : Nat} {p : Pool}
    {interface : Option String} (reached : (Pool.new limit).run moves = some p)
    (asked : p.jobs[job]? = some ⟨i, n, request, .resolving interface⟩) :
    Finds limit (moves ++ [.breakDown job]) i n request
      (Answer.failed request.query.breakdownCode).encode := by
  rw [Query.encode_breakdown]
  exact .brokeDown rfl reached asked

theorem Belongs.of_rejection {text : String} {r : Rejection}
    (line : (arrivedOn moves i)[n]? = some (.line text)) (reads : Request.ofLine text = .error r) :
    Belongs limit moves i n (r.response (Client.new false)).encode := by
  obtain ⟨message, rejects, told⟩ := Request.response_of_ofLine reads
  rw [told]
  exact .rejected line rejects

theorem Belongs.of_tooLong (line : (arrivedOn moves i)[n]? = some .tooLong) :
    Belongs limit moves i n (Pool.tooLong.response (Client.new false)).encode := by
  rw [Pool.encode_tooLong]
  exact .refused line

theorem arrivedOn_append (before after : List Pool.Move) (i : Nat) :
    arrivedOn (before ++ after) i = arrivedOn before i ++ arrivedOn after i :=
  List.flatMap_append

theorem arrivedOn_singleton (m : Pool.Move) (i : Nat) : arrivedOn [m] i = m.arrivalsOn i :=
  List.flatMap_singleton _ _

/-- What a lookup has found stays found. -/
theorem Finds.extend {request : Request} {b : Bytes} (finds : Finds limit moves i n request b)
    (more : List Pool.Move) : Finds limit (moves ++ more) i n request b := by
  cases finds with
  | resolved split reached asked =>
    rw [split, List.append_assoc, List.cons_append]
    exact .resolved rfl reached asked
  | brokeDown split reached asked =>
    rw [split, List.append_assoc, List.cons_append]
    exact .brokeDown rfl reached asked

theorem getElem?_arrivedOn_extend {a : Arrival} (line : (arrivedOn moves i)[n]? = some a)
    (more : List Pool.Move) : (arrivedOn (moves ++ more) i)[n]? = some a := by
  have inside := (List.getElem?_eq_some_iff.mp line).1
  rw [arrivedOn_append, List.getElem?_append_left inside]
  exact line

/-- What belongs to a line keeps belonging to it. -/
theorem Belongs.extend {b : Bytes} (belongs : Belongs limit moves i n b)
    (more : List Pool.Move) : Belongs limit (moves ++ more) i n b := by
  cases belongs with
  | found line reads finds =>
    exact .found (getElem?_arrivedOn_extend line more) reads (finds.extend more)
  | rejected line rejects => exact .rejected (getElem?_arrivedOn_extend line more) rejects
  | refused line => exact .refused (getElem?_arrivedOn_extend line more)

end NetControl.Lookup
