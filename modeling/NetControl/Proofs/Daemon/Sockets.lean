import NetControl.Proofs.Control.Changes
import NetControl.Proofs.Control.Discipline
import NetControl.Proofs.Lookup.Latest
import NetControl.Proofs.Lookup.Permits
import NetControl.Proofs.Lookup.Reading

/-!
# The interface of a lookup

The control socket changes the associations of processes with interfaces, and the lookup socket
reads them. `Sockets` are both sockets with the one table that they share, and `Sockets.step` lets
them go on in any order: a control line is carried out, or the lookup socket makes a move.

* `Sockets.interface_of_call`: whatever the resolver was given came to it with the interface that
  its line names, or with the latest one of its process at that moment, which is after its
  admission.
-/

namespace NetControl.Daemon

open Command Lookup Tether Text

/-- Both sockets of a daemon. The table of associations that they share is the one of the pool. -/
structure Sockets (ω : Type) where
  control : Control.Socket ω
  pool : Pool

namespace Sockets

variable {ω : Type} (answer : (c : Call) → ω → c.Answer × ω)

/-- The sockets of a daemon that has just been booted. -/
def start (mode : String) (switches : Switches) (places : Places) (w : ω) (limit : Nat) :
    Sockets ω :=
  ⟨Control.Socket.start answer mode switches places w, Pool.new limit⟩

/-- What happens on one of the sockets. -/
inductive Event where
  /-- A line that has arrived on a connection of the control socket is carried out. -/
  | command (connection : Nat) (line : Bytes)
  /-- The lookup socket makes a move. It does not change the associations by itself. -/
  | lookup (m : Pool.Move)

/-- The control socket with the table that both sockets share. -/
def shared (s : Sockets ω) : Control.Socket ω :=
  { s.control with service := { s.control.service with associations := s.pool.associations } }

/-- The state after an event, where it is possible. -/
def step (s : Sockets ω) : Event → Option (Sockets ω)
  | .command connection line =>
    let control := s.shared.hear answer (connection, line)
    some { control, pool := { s.pool with associations := control.service.associations } }
  | .lookup (.associate _) => none
  | .lookup m => (s.pool.step m).map fun pool => { s with pool }

/-- The state after a list of events, where each is possible. -/
def run (s : Sockets ω) (events : List Event) : Option (Sockets ω) :=
  events.foldlM (step answer) s

/-! ## What the events say -/

/-- The change of the associations that an event makes. -/
def Event.change? : Event → Option Associations.Change
  | command _ line => Control.change? (lossy line)
  | lookup _ => none

/-- The changes of the associations that events make, in order. -/
def changes (events : List Event) : List Associations.Change :=
  events.filterMap Event.change?

/-- An event as the lookup socket sees it. -/
def Event.moves : Event → List Pool.Move
  | command _ line => (Control.change? (lossy line)).toList.map .associate
  | lookup m => [m]

/-- Events as the lookup socket sees them. -/
def moves (events : List Event) : List Pool.Move :=
  events.flatMap Event.moves

theorem moves_concat (events : List Event) (e : Event) :
    moves (events ++ [e]) = moves events ++ e.moves := by
  unfold moves
  rw [List.flatMap_append, List.flatMap_singleton]

theorem changes_concat (events : List Event) (e : Event) :
    changes (events ++ [e]) = changes events ++ e.change?.toList :=
  Pool.filterMap_append_singleton Event.change? events e

/-- A move of the lookup socket that is no change of the associations comes from an event of its
own. -/
theorem mem_of_mem_moves {events : List Event} {m : Pool.Move} (member : m ∈ moves events)
    (other : ∀ change, m ≠ .associate change) : .lookup m ∈ events := by
  obtain ⟨e, inside, here⟩ := List.mem_flatMap.mp member
  cases e with
  | command connection line =>
    obtain ⟨change, -, same⟩ := List.mem_map.mp here
    exact (other change same.symm).elim
  | lookup m' =>
    rw [List.mem_singleton.mp here]
    exact inside

/-! ## Runs -/

variable {answer} {s t : Sockets ω} {e : Event}

/-- What has become of the sockets: the connections of the control socket expect sequence numbers,
the lookup socket has gone the way that it sees, and the changes have made the table. -/
structure Trace (limit : Nat) (events : List Event) (s : Sockets ω) : Prop where
  numbered : ∀ i, (s.control.client i).withSequence = true
  pool : (Pool.new limit).run (moves events) = some s.pool
  table : s.pool.associations = (changes events).foldl Associations.change {}

variable {limit : Nat} {events : List Event}

/-- A control line leaves its connection numbered and makes its change. -/
theorem of_hear (answer : (c : Call) → ω → c.Answer × ω) {k : Control.Socket ω}
    (numbered : ∀ i, (k.client i).withSequence = true) (request : Nat × Bytes) :
    (∀ i, ((k.hear answer request).client i).withSequence = true) ∧
      (k.hear answer request).service.associations =
        Control.changed k.service.associations (Control.change? (lossy request.2)) := by
  obtain ⟨responses, h, executed, -⟩ := Control.Socket.follows_hear request answer k
  have own := numbered request.1
  refine ⟨fun i => ?_, Control.associations_of_follows own executed⟩
  by_cases here : i = request.1
  · rw [here, (Control.of_follows_executeLine own executed).1]
    exact own
  · rw [Control.Socket.client_hear_of_ne here]
    exact numbered i

theorem Trace.command (trace : Trace limit events s) (connection : Nat) (line : Bytes)
    (step : s.step answer (.command connection line) = some t) :
    Trace limit (events ++ [.command connection line]) t := by
  cases step
  obtain ⟨numbered, table⟩ := of_hear answer (k := s.shared) trace.numbered (connection, line)
  refine ⟨numbered, ?_, ?_⟩
  · rw [moves_concat, Pool.run_append, trace.pool]
    change Pool.run s.pool _ = _
    dsimp only [Event.moves]
    rw [table]
    cases Control.change? (lossy line) <;> rfl
  · rw [changes_concat, List.foldl_append, ← trace.table]
    dsimp only [Event.change?]
    rw [table]
    cases Control.change? (lossy line) <;> rfl

/-- A move of the lookup socket is one of the pool, and none that changes the associations. -/
theorem of_lookup {m : Pool.Move} (step : s.step answer (.lookup m) = some t) :
    ∃ pool, s.pool.step m = some pool ∧ t = { s with pool } ∧
      pool.associations = s.pool.associations := by
  have kept {pool : Pool} (stepped : s.pool.step m = some pool)
      (other : ∀ change, m ≠ .associate change) : pool.associations = s.pool.associations := by
    cases Pool.transition_of_step stepped with
    | associate change => exact (other change rfl).elim
    | _ => rfl
  cases m with
  | associate change => cases step
  | _ =>
    unfold Sockets.step at step
    obtain ⟨pool, stepped, rfl⟩ := Option.map_eq_some_iff.mp step
    exact ⟨pool, stepped, rfl, kept stepped nofun⟩

theorem Trace.lookup (trace : Trace limit events s) (m : Pool.Move)
    (step : s.step answer (.lookup m) = some t) : Trace limit (events ++ [.lookup m]) t := by
  obtain ⟨pool, stepped, rfl, table⟩ := of_lookup step
  refine ⟨trace.numbered, ?_, ?_⟩
  · rw [moves_concat]
    exact foldlM_concat.mpr ⟨s.pool, trace.pool, stepped⟩
  · rw [changes_concat]
    exact table.trans (trace.table.trans (congrArg _ (List.append_nil _).symm))

variable {mode : String} {switches : Switches} {places : Places} {w : ω}

theorem trace_of_run
    (run : (start answer mode switches places w limit).run answer events = some s) :
    Trace limit events s := by
  refine foldlM_induction (P := Trace limit) ⟨fun _ => rfl, rfl, rfl⟩ ?_ run
  intro before s t e reached trace step
  cases e with
  | command connection line => exact trace.command connection line step
  | lookup m => exact trace.lookup m step

/-! ## Calls of the resolver -/

/-- `s.Asks x j interface t`: lookup `x`, which holds a permit, gets the interface that the table
has for it, and is given to the resolver. -/
structure Asks (s : Sockets ω) (x : Nat) (j : Job) (interface : Option String) (t : Sockets ω) :
    Prop where
  found : s.pool.jobs[x]? = some j
  holds : j.stage = .admitted
  chosen : interface = j.request.effectiveInterface s.pool.associations
  moved : t.pool.jobs[x]? = some { j with stage := .resolving interface }
  calls : t.pool.calls = s.pool.calls ++ [⟨j.request.query, interface⟩]

/-- The resolver gets one more lookup where one is given to it, and none elsewhere. -/
theorem calls_of_step (step : s.step answer e = some t) :
    t.pool.calls = s.pool.calls ∨
      ∃ x j interface, e = .lookup (.ask x) ∧ s.Asks x j interface t := by
  cases e with
  | command connection line =>
    cases step
    exact Or.inl rfl
  | lookup m =>
    obtain ⟨pool, stepped, rfl, -⟩ := of_lookup step
    cases Pool.transition_of_step stepped with
    | @ask x j found holds interface chosen =>
      refine Or.inr ⟨x, j, interface, rfl, found, holds, chosen, ?_, rfl⟩
      change (s.pool.jobs.set x _)[x]? = _
      rw [Pool.getElem?_set_of_found found, if_pos rfl]
    | _ => exact Or.inl rfl

/-- Among `events` is one that gave the resolver `seen`, when it had been given `earlier`. -/
def Gives (answer : (c : Call) → ω → c.Answer × ω) (origin : Sockets ω) (events : List Event)
    (earlier : List Seen) (seen : Seen) : Prop :=
  ∃ before x after s t j, events = before ++ .lookup (.ask x) :: after ∧
    origin.run answer before = some s ∧ s.step answer (.lookup (.ask x)) = some t ∧
    s.Asks x j seen.interface t ∧ s.pool.calls = earlier ∧ seen.query = j.request.query

theorem Gives.concat {origin : Sockets ω} {earlier : List Seen} {seen : Seen}
    (gives : Gives answer origin events earlier seen) (e : Event) :
    Gives answer origin (events ++ [e]) earlier seen := by
  obtain ⟨before, x, after, s, t, j, split, rest⟩ := gives
  refine ⟨before, x, after ++ [e], s, t, j, ?_, rest⟩
  rw [split, List.append_assoc, List.cons_append]

/-- Whatever the resolver was given goes back to an event that gave it. -/
theorem gives_of_run
    {origin : Sockets ω} (unasked : origin.pool.calls = [])
    (run : origin.run answer events = some t) :
    ∀ (i : Nat) (seen : Seen), t.pool.calls[i]? = some seen →
      Gives answer origin events (t.pool.calls.take i) seen := by
  refine foldlM_induction (P := fun events t => ∀ (i : Nat) (seen : Seen),
    t.pool.calls[i]? = some seen → Gives answer origin events (t.pool.calls.take i) seen) ?_ ?_ run
  · intro i seen called
    rw [unasked] at called
    cases called
  · intro before s t e reached given step i seen called
    rcases calls_of_step step with same | ⟨x, j, interface, rfl, asks⟩
    · rw [same] at called ⊢
      exact (given i seen called).concat e
    · rw [asks.calls] at called ⊢
      by_cases old : i < s.pool.calls.length
      · rw [List.getElem?_append_left old] at called
        rw [List.take_append_of_le_length (Nat.le_of_lt old)]
        exact (given i seen called).concat _
      · have inside := (List.getElem?_eq_some_iff.mp called).1
        rw [List.length_append, List.length_singleton] at inside
        have last : i = s.pool.calls.length := by omega
        rw [last, List.getElem?_concat_length] at called
        cases called
        refine ⟨before, x, [], s, t, j, rfl, reached, step, asks, ?_, rfl⟩
        rw [last, List.take_left]

/-! ## The choice of an interface -/

/-- A lookup that holds a permit got it by an event of its own. -/
theorem Trace.exists_grant (trace : Trace limit events s) {x : Nat} {j : Job}
    (found : s.pool.jobs[x]? = some j) (holds : j.stage.holdsPermit = true) :
    ∃ waiting working, events = waiting ++ .lookup (.grant x) :: working := by
  have taken := (Pool.counts_of_run trace.pool x).1
  rw [found, Pool.permitsTaken_of_holdsPermit holds] at taken
  have once : 0 < ((moves events).filterMap Pool.Move.admits?).count x := by omega
  obtain ⟨m, member, admits⟩ := List.mem_filterMap.mp (List.count_pos_iff.mp once)
  have move : m = .grant x := by
    cases m with
    | grant y =>
      cases admits
      rfl
    | _ => cases admits
  rw [move] at member
  exact List.append_of_mem (mem_of_mem_moves member nofun)

/-- The interface of a request, read off its line: the one that the line names, or the one that the
table has for the process. -/
theorem effectiveInterface_of_ofLine {text : String} {request : Request}
    (reads : Request.ofLine text = .ok request) (table : Associations) :
    ∃ token pid, Request.places text = some (token, pid) ∧
      request.effectiveInterface table =
        if token = "^" then table.interfaceFor (lenientInt32 pid) else some token := by
  obtain ⟨token, pid, places, named, process⟩ := Request.places_of_ofLine reads
  refine ⟨token, pid, places, ?_⟩
  unfold Request.effectiveInterface
  rw [named, process]
  unfold Request.optional
  by_cases absent : token = "^"
  · rw [if_pos absent, if_pos absent]
  · rw [if_neg absent, if_neg absent]

/-- Changes that come after others, at which an association of the process was replaced already, do
not bring it back. -/
theorem latest_of_replaced {waiting working : List Event} {older newer : List Associations.Change}
    {replaced : String} {pid : Int32}
    (earlier : changes waiting = older ++ .associate replaced pid :: newer)
    (again : ∃ c ∈ newer, c.pid? = some pid) (m : Pool.Move) :
    Associations.latest (changes (waiting ++ .lookup m :: working)) pid =
      Associations.latest (older ++ newer ++ changes working) pid := by
  have parts : changes (waiting ++ .lookup m :: working) =
      older ++ .associate replaced pid :: (newer ++ changes working) := by
    unfold changes at earlier ⊢
    rw [List.filterMap_append, earlier, List.append_assoc]
    rfl
  obtain ⟨c, member, names⟩ := again
  rw [parts, List.append_assoc]
  exact Associations.latest_of_replaced _ _ _ ⟨c, List.mem_append_left _ member, names⟩

/-- In whatever order control lines are carried out and the lookup socket makes its moves: whatever
the resolver was given is a lookup that held its permit at that moment, with the interface that its
line names. If the line names none, it is the interface that the table had then for its process, and
so the latest one by the control lines up to that moment. No association that was replaced before
the lookup had its permit makes a difference to it, nor do lines that name other processes. -/
theorem interface_of_call
    (run : (start answer mode switches places w limit).run answer events = some t) {i : Nat}
    {seen : Seen} (called : t.pool.calls[i]? = some seen) :
    ∃ before x after s s' j text token pid waiting working,
      events = before ++ .lookup (.ask x) :: after ∧
      (start answer mode switches places w limit).run answer before = some s ∧
      s.step answer (.lookup (.ask x)) = some s' ∧ s.Asks x j seen.interface s' ∧
      s.pool.calls = t.pool.calls.take i ∧ seen.query = j.request.query ∧
      (arrivedOn (moves before) j.connection)[j.line]? = some (.line text) ∧
      Request.ofLine text = .ok j.request ∧ Request.places text = some (token, pid) ∧
      before = waiting ++ .lookup (.grant x) :: working ∧
      seen.interface = (if token = "^" then s.pool.associations.interfaceFor (lenientInt32 pid)
        else some token) ∧
      s.pool.associations.interfaceFor (lenientInt32 pid) =
        Associations.latest (changes before) (lenientInt32 pid) ∧
      (∀ older replaced newer,
        changes waiting = older ++ .associate replaced (lenientInt32 pid) :: newer →
        (∃ c ∈ newer, c.pid? = some (lenientInt32 pid)) →
        Associations.latest (changes before) (lenientInt32 pid) =
          Associations.latest (older ++ newer ++ changes working) (lenientInt32 pid)) ∧
      Associations.latest (changes before) (lenientInt32 pid) =
        Associations.latest ((changes before).filter fun c =>
          c.pid? = none ∨ c.pid? = some (lenientInt32 pid)) (lenientInt32 pid) := by
  obtain ⟨before, x, after, s, s', j, split, reached, step, asks, calls, query⟩ :=
    gives_of_run rfl run i seen called
  have trace := trace_of_run reached
  obtain ⟨text, line, reads⟩ :=
    (Pool.reads_of_run trace.pool j (List.mem_of_getElem? asks.found)).reads
  obtain ⟨waiting, working, granted⟩ := trace.exists_grant asks.found (asks.holds ▸ rfl)
  obtain ⟨token, pid, named, effective⟩ :=
    effectiveInterface_of_ofLine reads s.pool.associations
  refine ⟨before, x, after, s, s', j, text, token, pid, waiting, working, split, reached, step,
    asks, calls, query, line, reads, named, granted, asks.chosen.trans effective, ?_, ?_,
    (Associations.latest_filter _ _).symm⟩
  · rw [trace.table]
    exact Associations.interfaceFor_foldl _ _
  · intro older replaced newer earlier again
    rw [granted]
    exact latest_of_replaced earlier again (.grant x)

/-- A process gets another interface while its second lookup waits for the only permit. -/
def replacing : List Event :=
  [.command 0 (Bytes.ofString "1 resolver setifaceforpid rmnet0 7"), .lookup .connect,
    .lookup (.arrive 0 [.line "gethostbyname 7 ^ first.example 2",
      .line "gethostbyname 7 ^ second.example 2"]),
    .lookup (.take 0), .lookup (.grant 0), .lookup (.ask 0), .lookup (.take 0),
    .command 1 (Bytes.ofString "1 resolver setifaceforpid rmnet1 7"),
    .lookup (.breakDown 0), .lookup (.respond 0), .lookup (.grant 1),
    .command 0 (Bytes.ofString "2 resolver setifaceforpid rmnet2 8"), .lookup (.ask 1)]

/-- The second lookup gets the interface that came last. -/
theorem interface_of_replacing :
    ∃ s seen before x after waiting working token pid,
      (start Controller.willing "" {} {} () 1).run Controller.willing replacing = some s ∧
      s.pool.calls.map Seen.interface = [some "rmnet0", some "rmnet1"] ∧
      s.pool.calls[1]? = some seen ∧ replacing = before ++ .lookup (.ask x) :: after ∧
      before = waiting ++ .lookup (.grant x) :: working ∧
      (token = "^" → some "rmnet1" = Associations.latest (changes before) (lenientInt32 pid)) := by
  have outcome : ((start Controller.willing "" {} {} () 1).run Controller.willing replacing).map
      (fun s => s.pool.calls.map Seen.interface) = some [some "rmnet0", some "rmnet1"] := by
    decide +kernel
  obtain ⟨s, run, interfaces⟩ := Option.map_eq_some_iff.mp outcome
  have second : s.pool.calls[1]?.map Seen.interface = some (some "rmnet1") := by
    rw [← List.getElem?_map, interfaces]
    rfl
  obtain ⟨seen, called, chosen⟩ := Option.map_eq_some_iff.mp second
  obtain ⟨before, x, after, held, -, -, -, token, pid, waiting, working, split, -, -, -, -, -, -, -,
    -, granted, decided, table, -⟩ := interface_of_call run called
  refine ⟨s, seen, before, x, after, waiting, working, token, pid, run, interfaces, called, split,
    granted, fun absent => ?_⟩
  rw [← chosen, decided, if_pos absent, table]

end Sockets

end NetControl.Daemon
