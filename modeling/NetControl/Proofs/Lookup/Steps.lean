import NetControl.Lookup.Pool
import NetControl.Proofs.Lookup.RequestLine
import NetControl.Proofs.Runs

/-!
# What a move of the pool can do

`Pool.Transition` lists, case by case, what each move finds and where it leads; log events are left
open. `Pool.transition_of_step` shows that `Pool.step` does nothing else.

* `Pool.run_induction`: what holds at the start and is kept by every move holds after every run.
* `Pool.atRest_of_ended`: when the daemon has nothing more to do.
-/

namespace NetControl.Lookup

open Command

namespace Pool

variable {limit : Nat} {p q : Pool} {m : Move}

/-- `p.Transition m q`: the move `m` can lead from `p` to `q`. -/
inductive Transition (p : Pool) : Move → Pool → Prop
  | connect (events : List Log.Event) :
    Transition p .connect { p with connections := p.connections ++ [{}], events }
  | arrive {i : Nat} {k : Connection} {arrivals : List Arrival}
    (found : p.connections[i]? = some k) (listening : k.hungUp = false) :
    Transition p (.arrive i arrivals)
      (p.setConnection i { k with arrivals := k.arrivals ++ arrivals })
  | hangUp {i : Nat} {k : Connection} (found : p.connections[i]? = some k) :
    Transition p (.hangUp i) (p.setConnection i { k with hungUp := true })
  | deafen {i : Nat} {k : Connection} (found : p.connections[i]? = some k) :
    Transition p (.deafen i) (p.setConnection i { k with deaf := true })
  /-- The loop of a connection ends after the last line. -/
  | ends {i : Nat} {k : Connection} (found : p.connections[i]? = some k)
    (running : k.stopped = false) (unstalled : p.isStalled i = false) (empty : k.arrivals = [])
    (hungUp : k.hungUp = true) (events : List Log.Event) :
    Transition p (.take i) { p.setConnection i { k with stopped := true } with events }
  /-- The loop of a connection ends at a line that is too long. -/
  | refuses {i : Nat} {k : Connection} {rest : List Arrival} (found : p.connections[i]? = some k)
    (running : k.stopped = false) (unstalled : p.isStalled i = false)
    (next : k.arrivals = .tooLong :: rest) (events : List Log.Event) :
    Transition p (.take i)
      { p.setConnection i { k.reject rest tooLong with stopped := true } with events }
  /-- The loop of a connection answers a line itself. -/
  | rejects {i : Nat} {k : Connection} {text : String} {rest : List Arrival} {r : Rejection}
    (found : p.connections[i]? = some k) (running : k.stopped = false)
    (unstalled : p.isStalled i = false) (next : k.arrivals = .line text :: rest)
    (reads : Request.ofLine text = .error r) (events : List Log.Event) :
    Transition p (.take i) { p.setConnection i (k.reject rest r) with events }
  /-- The loop of a connection takes a line as a lookup. -/
  | accepts {i : Nat} {k : Connection} {text : String} {rest : List Arrival} {request : Request}
    (found : p.connections[i]? = some k) (running : k.stopped = false)
    (unstalled : p.isStalled i = false) (next : k.arrivals = .line text :: rest)
    (reads : Request.ofLine text = .ok request) (events : List Log.Event) :
    Transition p (.take i)
      { p.setConnection i { k with arrivals := rest, taken := k.taken + 1 } with
        jobs := p.jobs ++ [{ connection := i, line := k.taken, request }], events }
  | associate (change : Associations.Change) :
    Transition p (.associate change) { p with associations := p.associations.change change }
  | grant {i : Nat} {j : Job} (found : p.jobs[i]? = some j) (waits : j.stage = .queued)
    (left : 0 < p.free) :
    Transition p (.grant i) { p.setStage i j .admitted with free := p.free - 1 }
  /-- The loop of a connection answers a lookup because the permits are closed. -/
  | givesUp {i : Nat} {j : Job} {k : Connection} {a : Answer} (found : p.jobs[i]? = some j)
    (waits : j.stage = .queued) (closed : p.closed = true)
    (connected : p.connections[j.connection]? = some k) (events : List Log.Event) :
    Transition p (.giveUp i)
      { (p.setStage i j (.ended a (!k.deaf))).setConnection j.connection
          { k.offer j.line a.encode with stopped := k.deaf } with events }
  | ask {i : Nat} {j : Job} (found : p.jobs[i]? = some j) (holds : j.stage = .admitted)
    (interface : Option String) (chosen : interface = j.request.effectiveInterface p.associations) :
    Transition p (.ask i) { p.setStage i j (.resolving interface) with
      calls := p.calls ++ [⟨j.request.query, interface⟩], peak := max p.peak (p.busy + 1) }
  | resolves {i : Nat} {j : Job} {resolver : Resolver} {interface : Option String}
    (found : p.jobs[i]? = some j) (asked : j.stage = .resolving interface)
    (events : List Log.Event) :
    Transition p (.resolve i resolver)
      { p.setStage i j (.answered (j.request.query.answer resolver interface)) with events }
  | breaksDown {i : Nat} {j : Job} {interface : Option String} (found : p.jobs[i]? = some j)
    (asked : j.stage = .resolving interface) (events : List Log.Event) :
    Transition p (.breakDown i)
      { p.setStage i j (.answered (.failed j.request.query.breakdownCode)) with events }
  | responds {i : Nat} {j : Job} {a : Answer} {k : Connection} (found : p.jobs[i]? = some j)
    (known : j.stage = .answered a) (connected : p.connections[j.connection]? = some k)
    (events : List Log.Event) :
    Transition p (.respond i)
      { (p.setStage i j (.ended a (!k.deaf))).setConnection j.connection
          (k.offer j.line a.encode) with free := p.free + 1, events }

/-! ## Steps -/

theorem takeLine_of_error (p : Pool) (i : Nat) (k : Connection) (rest : List Arrival)
    {text : String} {r : Rejection} (reads : Request.ofLine text = .error r) :
    ∃ events, p.takeLine i k rest text = { p.setConnection i (k.reject rest r) with events } := by
  unfold Request.ofLine at reads
  unfold takeLine
  cases read : (Dispatch.accept Request.commands (Client.new false) text).2 with
  | error e =>
    rw [read] at reads
    cases reads
    exact ⟨_, rfl⟩
  | ok arguments =>
    rw [read] at reads
    dsimp only at reads ⊢
    rw [reads]
    exact ⟨_, rfl⟩

theorem takeLine_of_ok (p : Pool) (i : Nat) (k : Connection) (rest : List Arrival) {text : String}
    {request : Request} (reads : Request.ofLine text = .ok request) :
    ∃ events, p.takeLine i k rest text =
      { p.setConnection i { k with arrivals := rest, taken := k.taken + 1 } with
        jobs := p.jobs ++ [{ connection := i, line := k.taken, request }], events } := by
  unfold Request.ofLine at reads
  unfold takeLine
  cases read : (Dispatch.accept Request.commands (Client.new false) text).2 with
  | error e =>
    rw [read] at reads
    cases reads
  | ok arguments =>
    rw [read] at reads
    dsimp only at reads ⊢
    rw [reads]
    exact ⟨_, rfl⟩

theorem transition_of_take {i : Nat} (step : p.step (.take i) = some q) :
    p.Transition (.take i) q := by
  simp only [Pool.step, Option.bind_eq_some_iff] at step
  obtain ⟨k, found, step⟩ := step
  split at step
  · cases step
  · next free =>
    rw [Bool.or_eq_true, not_or, Bool.not_eq_true, Bool.not_eq_true] at free
    split at step
    · next empty =>
      split at step
      · next hungUp =>
        cases step
        exact .ends found free.1 free.2 empty hungUp _
      · cases step
    · next rest next =>
      cases step
      exact .refuses found free.1 free.2 next _
    · next text rest next =>
      cases step
      cases reads : Request.ofLine text with
      | error r =>
        obtain ⟨events, taken⟩ := takeLine_of_error p i k rest reads
        rw [taken]
        exact .rejects found free.1 free.2 next reads events
      | ok request =>
        obtain ⟨events, taken⟩ := takeLine_of_ok p i k rest reads
        rw [taken]
        exact .accepts found free.1 free.2 next reads events

/-- The pool does nothing but what the cases list. -/
theorem transition_of_step (step : p.step m = some q) : p.Transition m q := by
  cases m with
  | connect =>
    cases step
    exact .connect _
  | arrive i arrivals =>
    simp only [Pool.step, Option.bind_eq_some_iff] at step
    obtain ⟨k, found, step⟩ := step
    split at step
    · cases step
    · next listening =>
      cases step
      exact .arrive found (Bool.not_eq_true _ ▸ listening)
  | hangUp i =>
    obtain ⟨k, found, rfl⟩ := Option.map_eq_some_iff.mp step
    exact .hangUp found
  | deafen i =>
    obtain ⟨k, found, rfl⟩ := Option.map_eq_some_iff.mp step
    exact .deafen found
  | take i => exact transition_of_take step
  | associate change =>
    cases step
    exact .associate change
  | grant i =>
    simp only [Pool.step, Option.bind_eq_some_iff] at step
    obtain ⟨j, found, step⟩ := step
    split at step
    · next both =>
      cases step
      exact .grant found both.1 both.2.2
    · cases step
  | giveUp i =>
    simp only [Pool.step, Option.bind_eq_some_iff] at step
    obtain ⟨j, found, step⟩ := step
    split at step
    · next both =>
      obtain ⟨k, connected, rfl⟩ := Option.map_eq_some_iff.mp step
      exact .givesUp found both.1 both.2 connected _
    · cases step
  | ask i =>
    simp only [Pool.step, Option.bind_eq_some_iff] at step
    obtain ⟨j, found, step⟩ := step
    split at step
    · next holds =>
      cases step
      exact .ask found holds _ rfl
    · cases step
  | resolve i resolver =>
    simp only [Pool.step, Option.bind_eq_some_iff] at step
    obtain ⟨j, found, step⟩ := step
    split at step
    · next asked =>
      cases step
      exact .resolves found asked _
    · cases step
  | breakDown i =>
    simp only [Pool.step, Option.bind_eq_some_iff] at step
    obtain ⟨j, found, step⟩ := step
    split at step
    · next asked =>
      cases step
      exact .breaksDown found asked _
    · cases step
  | respond i =>
    simp only [Pool.step, Option.bind_eq_some_iff] at step
    obtain ⟨j, found, step⟩ := step
    split at step
    · next known =>
      obtain ⟨k, connected, rfl⟩ := Option.map_eq_some_iff.mp step
      exact .responds found known connected _
    · cases step

/-! ## Runs -/

theorem run_append (p : Pool) (before after : List Move) :
    p.run (before ++ after) = (p.run before).bind fun q => q.run after :=
  List.foldlM_append

/-- What holds at the start and is kept by every move holds at the end of every run. -/
theorem run_induction_step {start : Pool} {P : List Move → Pool → Prop} (new : P [] start)
    (move : ∀ {before : List Move} {p q : Pool} {m : Move}, start.run before = some p →
      P before p → p.step m = some q → P (before ++ [m]) q)
    {moves : List Move} (run : start.run moves = some p) : P moves p :=
  foldlM_induction new move run

/-- The same for what every move is known to do. -/
theorem run_induction {start : Pool} {P : List Move → Pool → Prop} (new : P [] start)
    (move : ∀ {before : List Move} {p q : Pool} {m : Move}, start.run before = some p →
      P before p → p.Transition m q → P (before ++ [m]) q)
    {moves : List Move} (run : start.run moves = some p) : P moves p :=
  run_induction_step new
    (fun reached holds step => move reached holds (transition_of_step step)) run

/-- The permits stay open. -/
theorem closed_of_run {limit : Nat} {moves : List Move}
    (run : (Pool.new limit).run moves = some p) : p.closed = false := by
  refine run_induction (P := fun _ p => p.closed = false) rfl ?_ run
  intro before p q m _ opened step
  cases step <;> exact opened

/-! ## Rest -/

/-- The move is one of the daemon, not of a peer. -/
def Move.IsOwn : Move → Prop
  | .take _ => True
  | .grant _ => True
  | .giveUp _ => True
  | .ask _ => True
  | .resolve _ _ => True
  | .breakDown _ => True
  | .respond _ => True
  | _ => False

/-- The daemon has nothing more to do. -/
def AtRest (p : Pool) : Prop :=
  ∀ m, m.IsOwn → p.step m = none

/-- The loop of a connection is over, or waits for more. -/
def Connection.Idle (k : Connection) : Prop :=
  k.stopped = true ∨ k.arrivals = [] ∧ k.hungUp = false

/-- Where every lookup has ended and every loop is idle, there is nothing to do. -/
theorem atRest_of_ended (ended : ∀ j ∈ p.jobs, j.stage.isEnded = true)
    (idle : ∀ k ∈ p.connections, Connection.Idle k) : p.AtRest := by
  intro m own
  rw [Option.eq_none_iff_forall_not_mem]
  intro q step
  have stage {i : Nat} {j : Job} (found : p.jobs[i]? = some j)
      (unended : j.stage.isEnded = false) : False := by
    rw [ended j (List.mem_of_getElem? found)] at unended
    cases unended
  have loop {i : Nat} {k : Connection} (found : p.connections[i]? = some k)
      (running : k.stopped = false) (more : k.arrivals ≠ [] ∨ k.hungUp = true) : False := by
    rcases idle k (List.mem_of_getElem? found) with stopped | ⟨empty, listening⟩
    · rw [running] at stopped
      cases stopped
    · rw [listening] at more
      exact more.elim (fun some => some empty) Bool.false_ne_true
  cases transition_of_step step with
  | connect | arrive | hangUp | deafen | associate => exact own
  | ends found running unstalled empty hungUp events => exact loop found running (Or.inr hungUp)
  | refuses found running unstalled next events =>
    exact loop found running (Or.inl (next ▸ List.cons_ne_nil _ _))
  | rejects found running unstalled next reads events =>
    exact loop found running (Or.inl (next ▸ List.cons_ne_nil _ _))
  | accepts found running unstalled next reads events =>
    exact loop found running (Or.inl (next ▸ List.cons_ne_nil _ _))
  | grant found waits left => exact stage found (waits ▸ rfl)
  | givesUp found waits closed connected events => exact stage found (waits ▸ rfl)
  | ask found holds interface chosen => exact stage found (holds ▸ rfl)
  | resolves found asked events => exact stage found (asked ▸ rfl)
  | breaksDown found asked events => exact stage found (asked ▸ rfl)
  | responds found known connected events => exact stage found (known ▸ rfl)

end Pool

end NetControl.Lookup
