import NetControl.Proofs.Lookup.Accounts

/-!
# What a move does to the lookups and to one connection

`Pool.Transition` has a case for every move. Of the lookups and the permits a move can only do one
of five things (`Pool.LookupStep`), and to a given connection one of three (`Pool.ConnectionStep`),
so that an invariant of either needs that many cases. Nothing is assumed about the peers: they may
take no responses.
-/

namespace NetControl.Lookup

open Command

/-- What arrived is a lookup. -/
def IsLookup (a : Arrival) : Prop :=
  ∃ text request, a = .line text ∧ Request.ofLine text = .ok request

namespace Pool

/-- The lookup that gets a permit with this move. -/
def Move.admits? : Move → Option Nat
  | .grant x => some x
  | _ => none

/-- The lookup that gives its permit back with this move. -/
def Move.returns? : Move → Option Nat
  | .respond x => some x
  | _ => none

/-- Connection `i`, which is as a new one before a peer has opened it. -/
def connection (p : Pool) (i : Nat) : Connection :=
  p.connections[i]?.getD {}

/-- What a move does to the lookups and the permits. -/
inductive LookupStep (p : Pool) (m : Move) (q : Pool) : Prop
  | rests (admits : m.admits? = none) (returns : m.returns? = none) (jobs : q.jobs = p.jobs)
    (free : q.free = p.free)
  /-- The loop of a connection takes a line as a lookup, which waits. -/
  | accepts {i : Nat} {text : String} {rest : List Arrival} {request : Request}
    (admits : m.admits? = none) (returns : m.returns? = none) (unstalled : p.isStalled i = false)
    (next : (p.connection i).arrivals = .line text :: rest)
    (reads : Request.ofLine text = .ok request)
    (taken : (q.connection i).taken = (p.connection i).taken + 1)
    (jobs : q.jobs = p.jobs ++ [{ connection := i, line := (p.connection i).taken, request }])
    (free : q.free = p.free)
  /-- A lookup that waits gets a permit. -/
  | grants {x : Nat} {j : Job} (move : m = .grant x) (found : p.jobs[x]? = some j)
    (waits : j.stage = .queued) (left : 0 < p.free)
    (jobs : q.jobs = p.jobs.set x { j with stage := .admitted }) (free : q.free = p.free - 1)
  /-- A lookup that holds a permit goes on. -/
  | works {x : Nat} {j : Job} {stage : Stage} (admits : m.admits? = none)
    (returns : m.returns? = none) (found : p.jobs[x]? = some j)
    (before : j.stage.holdsPermit = true) (after : stage.holdsPermit = true)
    (jobs : q.jobs = p.jobs.set x { j with stage }) (free : q.free = p.free)
  /-- A lookup offers its response to the peer and gives its permit back. -/
  | responds {x : Nat} {j : Job} {a : Answer} {delivered : Bool} (move : m = .respond x)
    (found : p.jobs[x]? = some j) (known : j.stage = .answered a)
    (jobs : q.jobs = p.jobs.set x { j with stage := .ended a delivered })
    (free : q.free = p.free + 1)

/-- What a move does to connection `i`. -/
inductive ConnectionStep (i : Nat) (p : Pool) (m : Move) (q : Pool) : Prop
  /-- The loop stays where it is, and nothing is sent. -/
  | rests (taken : (q.connection i).taken = (p.connection i).taken)
    (sent : (q.connection i).sent = (p.connection i).sent)
    (arrivals : (q.connection i).arrivals = (p.connection i).arrivals ++ m.arrivalsOn i)
  /-- The loop takes what arrived next, which it may answer only if it is no lookup. -/
  | takes {a : Arrival} {rest : List Arrival} (next : (p.connection i).arrivals = a :: rest)
    (taken : (q.connection i).taken = (p.connection i).taken + 1)
    (arrivals : (q.connection i).arrivals = rest) (nothing : m.arrivalsOn i = [])
    (sent : (q.connection i).sent = (p.connection i).sent ∨
      ¬IsLookup a ∧ ∃ b, (q.connection i).sent =
        (p.connection i).sent ++ [((p.connection i).taken, b)])
  /-- A lookup of the connection ends, and may send its response. -/
  | responds {x : Nat} {j : Job} {a : Answer} {delivered : Bool} (job : p.jobs[x]? = some j)
    (own : j.connection = i) (known : j.stage = .answered a)
    (jobs : q.jobs = p.jobs.set x { j with stage := .ended a delivered })
    (taken : (q.connection i).taken = (p.connection i).taken)
    (arrivals : (q.connection i).arrivals = (p.connection i).arrivals)
    (nothing : m.arrivalsOn i = [])
    (sent : (q.connection i).sent = (p.connection i).sent ∨
      ∃ b, (q.connection i).sent = (p.connection i).sent ++ [(j.line, b)])

variable {limit i : Nat} {before : List Move} {p q : Pool} {m : Move} {k : Connection}

theorem connection_of_found (found : p.connections[i]? = some k) : p.connection i = k := by
  unfold connection
  rw [found]
  rfl

/-- After a connection is replaced, it is the new one, and every other is as it was. -/
theorem connection_setConnection {i' : Nat} {k' : Connection}
    (found : p.connections[i']? = some k)
    (after : q.connections = (p.setConnection i' k').connections) (i : Nat) :
    q.connection i = if i' = i then k' else p.connection i := by
  unfold connection
  rw [after, getElem?_setConnection found]
  split <;> rfl

/-! ## Lookups -/

/-- A line that is taken as a lookup. -/
theorem lookupStep_of_accept {text : String} {rest : List Arrival} {request : Request}
    (found : p.connections[i]? = some k) (unstalled : p.isStalled i = false)
    (next : k.arrivals = .line text :: rest) (reads : Request.ofLine text = .ok request)
    (after : q.connections =
      (p.setConnection i { k with arrivals := rest, taken := k.taken + 1 }).connections)
    (jobs : q.jobs = p.jobs ++ [{ connection := i, line := k.taken, request }])
    (free : q.free = p.free) : p.LookupStep (.take i) q := by
  have old := connection_of_found found
  have new := connection_setConnection found after i
  rw [if_pos rfl] at new
  rw [← old] at next jobs
  refine .accepts rfl rfl unstalled next reads ?_ jobs free
  rw [new, old]

theorem lookupStep_of_transition (opened : p.closed = false) (step : p.Transition m q) :
    p.LookupStep m q := by
  cases step with
  | accepts found running unstalled next reads events =>
    exact lookupStep_of_accept found unstalled next reads rfl rfl rfl
  | grant found waits left => exact .grants rfl found waits left rfl rfl
  | givesUp found waits closed connected events =>
    rw [opened] at closed
    cases closed
  | ask found holds interface chosen => exact .works rfl rfl found (holds ▸ rfl) rfl rfl rfl
  | resolves found asked events => exact .works rfl rfl found (asked ▸ rfl) rfl rfl rfl
  | breaksDown found asked events => exact .works rfl rfl found (asked ▸ rfl) rfl rfl rfl
  | responds found known connected events => exact .responds rfl found known rfl rfl
  | _ => exact .rests rfl rfl rfl rfl

/-! ## Connections -/

/-- A connection that a move does not touch rests. -/
theorem connectionStep_of_same (same : q.connection i = p.connection i)
    (nothing : m.arrivalsOn i = []) : ConnectionStep i p m q := by
  refine .rests (congrArg _ same) (congrArg _ same) ?_
  rw [same, nothing, List.append_nil]

/-- A connection rests if its loop and its responses are not touched. -/
theorem connectionStep_of_setConnection {i' : Nat} {k' : Connection}
    (found : p.connections[i']? = some k)
    (after : q.connections = (p.setConnection i' k').connections) (taken : k'.taken = k.taken)
    (sent : k'.sent = k.sent) (arrivals : k'.arrivals = k.arrivals ++ m.arrivalsOn i')
    (elsewhere : i' ≠ i → m.arrivalsOn i = []) : ConnectionStep i p m q := by
  have place := connection_setConnection found after i
  by_cases here : i' = i
  · subst here
    rw [if_pos rfl] at place
    have old := connection_of_found found
    refine .rests ?_ ?_ ?_
    · rw [place, old, taken]
    · rw [place, old, sent]
    · rw [place, old, arrivals]
  · rw [if_neg here] at place
    exact connectionStep_of_same place (elsewhere here)

/-- The loop of a connection takes what arrived next, and no other connection is touched. -/
theorem connectionStep_of_take {i' : Nat} {k' : Connection} {a : Arrival} {rest : List Arrival}
    (found : p.connections[i']? = some k)
    (after : q.connections = (p.setConnection i' k').connections) (next : k.arrivals = a :: rest)
    (taken : k'.taken = k.taken + 1) (arrivals : k'.arrivals = rest)
    (sent : k'.sent = k.sent ∨ ¬IsLookup a ∧ ∃ b, k'.sent = k.sent ++ [(k.taken, b)]) :
    ConnectionStep i p (.take i') q := by
  have place := connection_setConnection found after i
  by_cases here : i' = i
  · subst here
    rw [if_pos rfl] at place
    have old := connection_of_found found
    rw [← old] at next taken sent
    rw [← place] at taken arrivals sent
    exact .takes next taken arrivals rfl sent
  · rw [if_neg here] at place
    exact connectionStep_of_same place rfl

/-- A line that is rejected is no lookup, and its rejection may be sent. -/
theorem sent_reject (k : Connection) (rest : List Arrival) (r : Rejection) {a : Arrival}
    (other : ¬IsLookup a) :
    (k.reject rest r).sent = k.sent ∨
      ¬IsLookup a ∧ ∃ b, (k.reject rest r).sent = k.sent ++ [(k.taken, b)] :=
  (sent_offer k k.taken _).imp_right fun sent => ⟨other, _, sent⟩

theorem not_isLookup_of_error {text : String} {r : Rejection}
    (reads : Request.ofLine text = .error r) : ¬IsLookup (.line text) := by
  rintro ⟨text', request, same, reads'⟩
  cases same
  rw [reads] at reads'
  cases reads'

theorem not_isLookup_tooLong : ¬IsLookup .tooLong := by
  rintro ⟨text, request, same, -⟩
  cases same

/-- A lookup ends, and no connection but its own is touched. -/
theorem connectionStep_of_respond {x : Nat} {j : Job} {a : Answer} {delivered : Bool}
    (job : p.jobs[x]? = some j) (known : j.stage = .answered a)
    (connected : p.connections[j.connection]? = some k)
    (after : q.connections =
      (p.setConnection j.connection (k.offer j.line a.encode)).connections)
    (jobs : q.jobs = p.jobs.set x { j with stage := .ended a delivered }) :
    ConnectionStep i p (.respond x) q := by
  have place := connection_setConnection connected after i
  by_cases here : j.connection = i
  · rw [if_pos here] at place
    rw [here] at connected
    have old := connection_of_found connected
    refine .responds job here known jobs ?_ ?_ rfl ?_
    · rw [place, old, taken_offer]
    · rw [place, old, arrivals_offer]
    · rw [place, old]
      exact (sent_offer k j.line a.encode).imp_right fun sent => ⟨_, sent⟩
  · rw [if_neg here] at place
    exact connectionStep_of_same place rfl

/-- A connection that a peer opens is as it was before. -/
theorem connection_connect (p : Pool) (events : List Log.Event) (i : Nat) :
    connection { p with connections := p.connections ++ [{}], events } i = p.connection i := by
  unfold connection
  dsimp only
  rw [List.getElem?_append]
  split
  · rfl
  · next outside =>
    rw [List.getElem?_eq_none (Nat.not_lt.mp outside)]
    cases i - p.connections.length <;> rfl

theorem connectionStep_of_transition (opened : p.closed = false) (step : p.Transition m q) :
    ConnectionStep i p m q := by
  cases step with
  | connect events => exact connectionStep_of_same (connection_connect p events i) rfl
  | @arrive i' k arrivals found listening =>
    have here : Move.arrivalsOn i' (.arrive i' arrivals) = arrivals := if_pos rfl
    refine connectionStep_of_setConnection found rfl rfl rfl ?_ fun other => if_neg other
    rw [here]
  | hangUp found =>
    exact connectionStep_of_setConnection found rfl rfl rfl (List.append_nil _).symm fun _ => rfl
  | deafen found =>
    exact connectionStep_of_setConnection found rfl rfl rfl (List.append_nil _).symm fun _ => rfl
  | ends found running unstalled empty hungUp events =>
    exact connectionStep_of_setConnection found rfl rfl rfl (List.append_nil _).symm fun _ => rfl
  | @refuses i' k rest found running unstalled next events =>
    exact connectionStep_of_take found rfl next rfl rfl
      (sent_reject k rest tooLong not_isLookup_tooLong)
  | @rejects i' k text rest r found running unstalled next reads events =>
    exact connectionStep_of_take found rfl next rfl rfl
      (sent_reject k rest r (not_isLookup_of_error reads))
  | accepts found running unstalled next reads events =>
    exact connectionStep_of_take found rfl next rfl rfl (Or.inl rfl)
  | givesUp found waits closed connected events =>
    rw [opened] at closed
    cases closed
  | responds found known connected events =>
    exact connectionStep_of_respond found known connected rfl rfl
  | associate change => exact connectionStep_of_same rfl rfl
  | grant found waits left => exact connectionStep_of_same rfl rfl
  | ask found holds interface chosen => exact connectionStep_of_same rfl rfl
  | resolves found asked events => exact connectionStep_of_same rfl rfl
  | breaksDown found asked events => exact connectionStep_of_same rfl rfl

/-! ## Moves of a run -/

/-- What a move of a run does to the lookups. -/
theorem lookupStep_of_run (run : (Pool.new limit).run before = some p) (step : p.step m = some q) :
    p.LookupStep m q :=
  lookupStep_of_transition (closed_of_run run) (transition_of_step step)

/-- What a move of a run does to a connection. -/
theorem connectionStep_of_run (run : (Pool.new limit).run before = some p)
    (step : p.step m = some q) (i : Nat) : ConnectionStep i p m q :=
  connectionStep_of_transition (closed_of_run run) (transition_of_step step)

end Pool

end NetControl.Lookup
