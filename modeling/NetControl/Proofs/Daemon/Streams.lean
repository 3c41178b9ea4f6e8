import NetControl.Proofs.Control.Reads
import NetControl.Proofs.Lookup.Dispatched

/-!
# What a stream asks of the daemon

Both sockets of the daemon read requests in the same way. `requests_of_stream` says for either of
them which lines it dispatches of a stream that it has read to the end, in whatever pieces the
stream was read: the segments that a NUL ends, up to the first one that is too long. A segment that
is too long is refused, and nothing after it counts.
-/

namespace NetControl.Daemon

open Command Control Lookup Tether

/-- The requests of a stream are the segments that a NUL ends, up to the first of more than 4096
bytes. A connection to the control socket on which the stream arrives, in whatever reads, carries
them out one after the other, then refuses a line that is too long if there is one, and ends. A
connection to the lookup socket that is served to its end has dispatched the same requests in the
same order, has sent the refusal if there is a line that is too long, and nothing else besides the
responses to the requests. -/
theorem requests_of_stream (reads : List Bytes) :
    let segments := reads.flatten.splitOn 0
    let requests := (segments.dropLast.takeWhile (·.length ≤ 4096)).map Text.lossy
    let overlong := segments.any (4096 < ·.length)
    (Conversation.accept false reads.flatten = do
      Plan.log (Notes.accepted Control.serviceName)
      forM requests Conversation.obey
      if overlong then Conversation.refuse
      Conversation.close) ∧
    (Conversation.serveReads Inbox.empty reads = do
      forM requests Conversation.obey
      if overlong then Conversation.refuse
      Conversation.close) ∧
    ∀ {limit i : Nat} {moves : List Pool.Move} {p : Pool} {k : Lookup.Connection},
      (Pool.new limit).run moves = some p → (∀ i, Pool.Move.deafen i ∉ moves) →
      p.connections[i]? = some k → arrivedOn moves i = Inbox.received reads →
      p.AtRest ∨ p.isClosed i = true →
      (Pool.new limit).dispatchedOn i moves = requests ∧
        k.sent.filter (requests.length ≤ ·.1) =
          if overlong then
            [(requests.length, Bytes.ofString "500 Command too large for buffer" ++ [0])]
          else [] := by
  intro segments requests overlong
  have served := Conversation.serveReads_requests reads
  refine ⟨?_, served, fun run hearing connection arrived done =>
    Pool.dispatched_of_stream run hearing connection arrived done⟩
  rw [Conversation.accept_flatten, served]
  rfl

/-- A line, and then one byte more than a line may have, in two reads. -/
def oversized : List Bytes :=
  [[65], 0 :: List.replicate 4097 66]

theorem requests_oversized :
    ((oversized.flatten.splitOn 0).dropLast.takeWhile (·.length ≤ 4096)).map Text.lossy = ["A"] := by
  decide +kernel

theorem overlong_oversized : (oversized.flatten.splitOn 0).any (4096 < ·.length) = true := by
  decide +kernel

/-- The peer sends these reads to the lookup socket and is served to the end. -/
def oversizedRun : List Pool.Move :=
  [.connect, .arrive 0 [.line "A"], .arrive 0 [.tooLong], .hangUp 0, .take 0, .take 0]

theorem requests_of_oversized_stream :
    ∃ p k, (Pool.new 1).run oversizedRun = some p ∧ p.connections[0]? = some k ∧
      p.isClosed 0 = true ∧ (Pool.new 1).dispatchedOn 0 oversizedRun = ["A"] ∧
      k.sent.filter (1 ≤ ·.1) =
        [(1, Bytes.ofString "500 Command too large for buffer" ++ [0])] := by
  have outcome : ((Pool.new 1).run oversizedRun).map (fun p =>
      (p.connections.length, p.isClosed 0)) = some (1, true) := by
    decide +kernel
  obtain ⟨p, run, facts⟩ := Option.map_eq_some_iff.mp outcome
  obtain ⟨single, closed⟩ := Prod.mk.inj facts
  obtain ⟨k, connections⟩ := List.length_eq_one_iff.mp single
  have connection : p.connections[0]? = some k := by
    rw [connections]
    rfl
  have hearing : ∀ i, Pool.Move.deafen i ∉ oversizedRun := by
    intro i member
    simp [oversizedRun] at member
  have arrived : arrivedOn oversizedRun 0 = Inbox.received oversized := by
    rw [Inbox.received_eq, Inbox.requests, Inbox.isOverlong, Inbox.capacity, requests_oversized,
      overlong_oversized]
    rfl
  have served := (requests_of_stream oversized).2.2 run hearing connection arrived (Or.inr closed)
  rw [requests_oversized, overlong_oversized, if_pos rfl] at served
  exact ⟨p, k, run, connection, closed, served⟩

end NetControl.Daemon
