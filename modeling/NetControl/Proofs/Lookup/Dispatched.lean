import NetControl.Proofs.Command.Arrivals
import NetControl.Proofs.Lookup.Answered

/-!
# The lines that the loop of a connection dispatches

`Pool.dispatchedOn` collects, move by move, the lines that the loop of one connection takes and
gives to its command. They are the lines among what the loop has taken, in the order in which they
arrived (`Pool.dispatchedOn_of_run`). Once the connection is served to its end they are the requests
of the stream that arrived on it, and beyond their responses only a line that is too long is
answered (`Pool.dispatched_of_stream`).
-/

namespace NetControl.Command

/-- The line that has arrived, where it is one. -/
def Arrival.text? : Arrival → Option String
  | .line text => some text
  | .tooLong => none

namespace Inbox

variable {reads : List Bytes}

theorem filterMap_text?_received :
    (received reads).filterMap Arrival.text? = requests reads.flatten := by
  rw [received_eq, List.filterMap_append, List.filterMap_map]
  have lines : (requests reads.flatten).filterMap (Arrival.text? ∘ .line) =
      requests reads.flatten := List.filterMap_some
  rw [lines]
  cases isOverlong reads.flatten <;> simp [Arrival.text?]

end Inbox

end NetControl.Command

namespace NetControl.Lookup

open Command

/-- A line that is too long comes last, so that everything that arrives has to be answered. -/
theorem dueLines_received (reads : List Bytes) :
    dueLines (Inbox.received reads) = (Inbox.received reads).length := by
  have lines : ∀ n < (Inbox.requests reads.flatten).length,
      (Inbox.received reads)[n]? ≠ some .tooLong := by
    intro n inside long
    rw [Inbox.received_eq, List.getElem?_append_left (by rwa [List.length_map]),
      List.getElem?_map, List.getElem?_eq_getElem inside] at long
    cases long
  by_cases long : .tooLong ∈ Inbox.received reads
  · obtain ⟨n, line⟩ := List.getElem?_of_mem long
    have inside := (List.getElem?_eq_some_iff.mp line).1
    have late : (Inbox.requests reads.flatten).length ≤ n := Nat.not_lt.mp fun early =>
      lines n early line
    have last : (Inbox.received reads).length ≤ (Inbox.requests reads.flatten).length + 1 := by
      rw [Inbox.received_eq, List.length_append, List.length_map]
      split <;> simp
    rw [dueLines_of_tooLong line fun n' earlier => lines n' (by omega)]
    omega
  · exact dueLines_of_not_mem long

namespace Pool

variable {limit i : Nat} {moves : List Move} {p q : Pool} {m : Move} {k k' : Connection}

/-- The line that the loop of connection `i` dispatches with a move. -/
def dispatches (i : Nat) (p : Pool) : Move → Option String
  | .take i' =>
    if i' = i then p.connections[i]?.bind fun k => k.arrivals.head?.bind Arrival.text? else none
  | _ => none

/-- The lines that the loop of connection `i` dispatches in the course of these moves. -/
def dispatchedOn (i : Nat) (p : Pool) : List Move → List String
  | [] => []
  | m :: rest =>
    match p.step m with
    | some next => (p.dispatches i m).toList ++ next.dispatchedOn i rest
    | none => []

theorem dispatchedOn_append {before : List Move} (run : p.run before = some q)
    (after : List Move) :
    p.dispatchedOn i (before ++ after) = p.dispatchedOn i before ++ q.dispatchedOn i after := by
  induction before generalizing p with
  | nil =>
    cases run
    rfl
  | cons m rest ih =>
    obtain ⟨next, step, further⟩ := Option.bind_eq_some_iff.mp run
    simp only [List.cons_append, dispatchedOn, step]
    rw [ih further, List.append_assoc]

theorem dispatchedOn_append_singleton {before : List Move} (run : p.run before = some q)
    {r : Pool} (step : q.step m = some r) :
    p.dispatchedOn i (before ++ [m]) = p.dispatchedOn i before ++ (q.dispatches i m).toList := by
  rw [dispatchedOn_append run]
  simp [dispatchedOn, step]

/-! ## One move -/

/-- How much of what arrived on connection `i` its loop has taken. -/
def takenOn (i : Nat) (p : Pool) : Nat :=
  (p.connections[i]?.map Connection.taken).getD 0

theorem takenOn_of_found (found : p.connections[i]? = some k) : p.takenOn i = k.taken := by
  unfold takenOn
  rw [found]
  rfl

theorem takenOn_setConnection {i' : Nat} (found : p.connections[i']? = some k) :
    (p.setConnection i' k').takenOn i = if i' = i then k'.taken else p.takenOn i := by
  unfold takenOn
  rw [getElem?_setConnection found]
  split <;> rfl

theorem takenOn_connect (events : List Log.Event) :
    takenOn i { p with connections := p.connections ++ [{}], events } = p.takenOn i := by
  unfold takenOn
  dsimp only
  rw [List.getElem?_append]
  split
  · rfl
  · next outside =>
    rw [List.getElem?_eq_none (Nat.not_lt.mp outside)]
    cases i - p.connections.length <;> rfl

/-- The move from `p` to `q` has the loop of connection `i` take what arrived next, or leaves the
loop where it was. -/
def Takes (i : Nat) (p : Pool) (m : Move) (q : Pool) : Prop :=
  (q.takenOn i = p.takenOn i ∧ p.dispatches i m = none) ∨
    ∃ k a rest, p.connections[i]? = some k ∧ k.arrivals = a :: rest ∧
      q.takenOn i = k.taken + 1 ∧ p.dispatches i m = a.text?

theorem takes_of_setConnection {i' : Nat} (quiet : p.dispatches i m = none)
    (found : p.connections[i']? = some k)
    (same : q.takenOn i = (p.setConnection i' k').takenOn i) (taken : k'.taken = k.taken) :
    p.Takes i m q := by
  refine Or.inl ⟨?_, quiet⟩
  rw [same, takenOn_setConnection found]
  split
  · next here =>
    rw [taken, ← here, takenOn_of_found found]
  · rfl

theorem takes_of_take {i' : Nat} {a : Arrival} {rest : List Arrival}
    (next : k.arrivals = a :: rest) (found : p.connections[i']? = some k)
    (same : q.takenOn i = (p.setConnection i' k').takenOn i) (taken : k'.taken = k.taken + 1) :
    p.Takes i (.take i') q := by
  rw [takenOn_setConnection found] at same
  by_cases here : i' = i
  · subst here
    refine Or.inr ⟨k, a, rest, found, next, ?_, ?_⟩
    · rw [same, if_pos rfl, taken]
    · simp [dispatches, found, next]
  · refine Or.inl ⟨?_, if_neg here⟩
    rw [same, if_neg here]

theorem takes_of_transition (step : p.Transition m q) : p.Takes i m q := by
  cases step with
  | connect events => exact Or.inl ⟨takenOn_connect events, rfl⟩
  | arrive found listening => exact takes_of_setConnection rfl found rfl rfl
  | hangUp found => exact takes_of_setConnection rfl found rfl rfl
  | deafen found => exact takes_of_setConnection rfl found rfl rfl
  | @ends i' k found running unstalled empty hungUp events =>
    refine takes_of_setConnection ?_ found rfl rfl
    by_cases here : i' = i
    · subst here
      simp [dispatches, found, empty]
    · exact if_neg here
  | refuses found running unstalled next events => exact takes_of_take next found rfl rfl
  | rejects found running unstalled next reads events => exact takes_of_take next found rfl rfl
  | accepts found running unstalled next reads events => exact takes_of_take next found rfl rfl
  | associate change => exact Or.inl ⟨rfl, rfl⟩
  | grant found waits left => exact Or.inl ⟨rfl, rfl⟩
  | givesUp found waits closed connected events =>
    exact takes_of_setConnection rfl connected rfl (taken_offer ..)
  | ask found holds interface chosen => exact Or.inl ⟨rfl, rfl⟩
  | resolves found asked events => exact Or.inl ⟨rfl, rfl⟩
  | breaksDown found asked events => exact Or.inl ⟨rfl, rfl⟩
  | responds found known connected events =>
    exact takes_of_setConnection rfl connected rfl (taken_offer ..)

/-! ## Runs -/

/-- What has arrived on a connection that no peer has opened yet is nothing. -/
theorem Accounted.takenOn_le (accounted : Accounted limit moves p) :
    p.takenOn i ≤ (arrivedOn moves i).length := by
  cases found : p.connections[i]? with
  | none =>
    unfold takenOn
    rw [found]
    exact Nat.zero_le _
  | some k =>
    rw [takenOn_of_found found]
    exact (accounted.served i k found).within

/-- A loop has dispatched the lines among what it has taken, in the order of their arrival. -/
theorem dispatchedOn_of_run (run : (Pool.new limit).run moves = some p)
    (hearing : ∀ i, Move.deafen i ∉ moves) :
    (Pool.new limit).dispatchedOn i moves =
      ((arrivedOn moves i).take (p.takenOn i)).filterMap Arrival.text? := by
  revert hearing
  refine run_induction_step (P := fun moves p => (∀ i, Move.deafen i ∉ moves) →
    (Pool.new limit).dispatchedOn i moves =
      ((arrivedOn moves i).take (p.takenOn i)).filterMap Arrival.text?) (fun _ => rfl) ?_ run
  intro before p q m reached ih step hearing
  have hearing' : ∀ i, Move.deafen i ∉ before := fun i member =>
    hearing i (List.mem_append_left _ member)
  have accounted := accounted_of_run reached hearing'
  have within : p.takenOn i ≤ (arrivedOn before i).length := accounted.takenOn_le
  rw [dispatchedOn_append_singleton reached step, ih hearing', arrivedOn_append]
  rcases takes_of_transition (i := i) (transition_of_step step) with
    ⟨same, quiet⟩ | ⟨k, a, rest, found, next, taken, dispatched⟩
  · rw [same, quiet, List.take_append_of_le_length within, Option.toList_none, List.append_nil]
  · obtain ⟨line, inside, -⟩ := (accounted.served i k found).getElem?_taken next
    rw [taken, dispatched, takenOn_of_found found, List.take_append_of_le_length inside,
      List.take_add_one, line, List.filterMap_append]
    cases a <;> rfl

/-! ## Connections that are served to their end -/

/-- Beyond the first `n` lines, the last one has its one response. -/
theorem exists_filter_sent {sent : List (Nat × Bytes)} {n : Nat}
    (once : (sent.map Prod.fst).Perm (List.range (n + 1))) :
    ∃ b, sent.filter (n ≤ ·.1) = [(n, b)] := by
  have before : (List.range n).filter (n ≤ ·) = [] := by
    rw [List.filter_eq_nil_iff]
    intro line early
    simpa using List.mem_range.mp early
  have itself : [n].filter (n ≤ ·) = [n] := List.filter_cons_of_pos (decide_eq_true (Nat.le_refl n))
  have last : ((sent.filter (n ≤ ·.1)).map Prod.fst).Perm [n] := by
    have kept := once.filter (n ≤ ·)
    rw [List.range_succ, List.filter_append, before, itself, List.filter_map] at kept
    exact kept
  obtain ⟨⟨line, b⟩, only, same⟩ := List.map_eq_singleton_iff.mp (List.perm_singleton.mp last)
  cases same
  exact ⟨b, only⟩

/-- No line beyond the last has a response. -/
theorem filter_sent_eq_nil {sent : List (Nat × Bytes)} {n : Nat}
    (once : (sent.map Prod.fst).Perm (List.range n)) : sent.filter (n ≤ ·.1) = [] := by
  rw [List.filter_eq_nil_iff]
  intro x member
  have early := List.mem_range.mp (once.mem_iff.mp (List.mem_map_of_mem member))
  simpa using early

/-- The response to a line that is too long. -/
theorem refusal_of_belongs {n : Nat} {b : Bytes} (belongs : Belongs limit moves i n b)
    (line : (arrivedOn moves i)[n]? = some .tooLong) :
    b = Bytes.ofString "500 Command too large for buffer" ++ [0] := by
  cases belongs with
  | found other reads finds =>
    rw [line] at other
    cases other
  | rejected other rejects =>
    rw [line] at other
    cases other
  | refused _ => rfl

/-- A loop that is over, or at rest, has come to the end of what arrived, and no lookup is left. -/
theorem Accounted.finished (accounted : Accounted limit moves p)
    (connection : p.connections[i]? = some k) (done : p.AtRest ∨ p.isClosed i = true) :
    (k.stopped = true ∨ k.arrivals = []) ∧
      ∀ j ∈ p.jobs, j.connection = i → j.stage.isEnded = true := by
  rcases done with rest | closed
  · have ended := ended_of_atRest accounted rest
    exact ⟨(idle_of_atRest rest ended connection).imp_right And.left,
      fun j member _ => ended j member⟩
  · have quiet := quiet_of_isClosed connection closed
    exact ⟨Or.inl quiet.2.1, quiet.2.2⟩

/-- Where a connection is served to its end in a run in which the peers take their responses, its
loop has dispatched the requests of the stream that arrived on it, in order and nothing else. Beyond
the responses to them the peer has got one, the refusal of a line that is too long, just if there is
such a line. -/
theorem dispatched_of_stream (run : (Pool.new limit).run moves = some p)
    (hearing : ∀ i, Move.deafen i ∉ moves) (connection : p.connections[i]? = some k)
    {reads : List Bytes} (arrived : arrivedOn moves i = Inbox.received reads)
    (done : p.AtRest ∨ p.isClosed i = true) :
    let requests := Inbox.requests reads.flatten
    (Pool.new limit).dispatchedOn i moves = requests ∧
      k.sent.filter (requests.length ≤ ·.1) =
        if Inbox.isOverlong reads.flatten then
          [(requests.length, Bytes.ofString "500 Command too large for buffer" ++ [0])]
        else [] := by
  intro requests
  have accounted := accounted_of_run run hearing
  have served := accounted.served i k connection
  obtain ⟨finished, ended⟩ := accounted.finished connection done
  have taken : k.taken = (Inbox.received reads).length := by
    rw [served.taken_eq finished, arrived, dueLines_received]
  have once := accounted.answered connection finished ended
  rw [arrived, dueLines_received] at once
  have parts : Inbox.received reads = requests.map .line
      ++ if Inbox.isOverlong reads.flatten then [.tooLong] else [] := Inbox.received_eq reads
  constructor
  · rw [dispatchedOn_of_run run hearing, takenOn_of_found connection, arrived, taken,
      List.take_length, Inbox.filterMap_text?_received]
  · cases long : Inbox.isOverlong reads.flatten with
    | false =>
      rw [long, if_neg Bool.false_ne_true, List.append_nil] at parts
      rw [parts, List.length_map] at once
      rw [if_neg Bool.false_ne_true]
      exact filter_sent_eq_nil once
    | true =>
      rw [long, if_pos rfl] at parts
      rw [parts, List.length_append, List.length_map] at once
      obtain ⟨b, only⟩ := exists_filter_sent once
      have member : (requests.length, b) ∈ k.sent := by
        have kept : (requests.length, b) ∈ k.sent.filter (requests.length ≤ ·.1) := by
          rw [only]
          exact List.mem_singleton_self _
        exact (List.mem_filter.mp kept).1
      have line : (arrivedOn moves i)[requests.length]? = some .tooLong := by
        rw [arrived, parts, List.getElem?_append_right (Nat.le_of_eq (List.length_map _)),
          List.length_map, Nat.sub_self]
        rfl
      have refusal : b = _ := refusal_of_belongs (served.belongs _ member) line
      rw [if_pos rfl, only, refusal]

end Pool

end NetControl.Lookup
