import NetControl.Proofs.Lookup.Belonging
import NetControl.Proofs.Lookup.Served

/-!
# The accounts of the pool

`Pool.Accounted` says that all connections, lookups and permits of a pool are in order: no permit is
lost, every connection is served, and every lookup goes back to a line that has arrived.
`Pool.accounted_of_run` shows that they are after every run in which the peers take their responses.
-/

namespace NetControl.Lookup

open Command

variable {limit i : Nat} {moves : List Pool.Move}

/-! ## The whole pool -/

namespace Pool

/-- Permits, connections and lookups are in order after these moves. -/
structure Accounted (limit : Nat) (moves : List Move) (p : Pool) : Prop where
  permits : p.free + p.held = capacity limit
  served : ∀ i k, p.connections[i]? = some k →
    Connection.Served (arrivedOn moves i) (Belongs limit moves i) (openLines p.jobs i) k
  /-- Nothing arrives before a peer connects. -/
  unborn : ∀ i, p.connections[i]? = none → arrivedOn moves i = []
  connected : ∀ j ∈ p.jobs, ∃ k, p.connections[j.connection]? = some k
  reads : ∀ j ∈ p.jobs, ∃ text, (arrivedOn moves j.connection)[j.line]? = some (.line text) ∧
    Request.ofLine text = .ok j.request
  finds : ∀ j ∈ p.jobs, ∀ a, j.stage = .answered a →
    Finds limit moves j.connection j.line j.request a.encode

variable {p q : Pool} {m : Move} {x : Nat} {j : Job} {k k' : Connection}

/-- A response that is offered is sent or lost. -/
theorem sent_offer (k : Connection) (line : Nat) (b : Bytes) :
    (k.offer line b).sent = k.sent ∨ (k.offer line b).sent = k.sent ++ [(line, b)] := by
  unfold Connection.offer
  split
  · exact Or.inl rfl
  · exact Or.inr rfl

theorem arrivals_offer (k : Connection) (line : Nat) (b : Bytes) :
    (k.offer line b).arrivals = k.arrivals := by
  unfold Connection.offer
  split <;> rfl

theorem taken_offer (k : Connection) (line : Nat) (b : Bytes) :
    (k.offer line b).taken = k.taken := by
  unfold Connection.offer
  split <;> rfl

theorem getElem?_setConnection (found : p.connections[i]? = some k) (i' : Nat) :
    (p.setConnection i k').connections[i']? = if i = i' then some k' else p.connections[i']? := by
  have inside := (List.getElem?_eq_some_iff.mp found).1
  change (p.connections.set i k')[i']? = _
  rw [List.getElem?_set, if_pos inside]

theorem getElem?_eq_none_of_setConnection (found : p.connections[i]? = some k) {i' : Nat}
    (missing : (p.setConnection i k').connections[i']? = none) : p.connections[i']? = none := by
  rw [getElem?_setConnection found] at missing
  split at missing
  · cases missing
  · exact missing

theorem exists_getElem?_setConnection (found : p.connections[i]? = some k) {i' : Nat}
    (connected : ∃ k, p.connections[i']? = some k) :
    ∃ k'', (p.setConnection i k').connections[i']? = some k'' := by
  rw [getElem?_setConnection found]
  split
  · exact ⟨k', rfl⟩
  · exact connected

/-- A permit is held or given back exactly where a lookup comes to a stage that differs in that. -/
theorem held_setStage (found : p.jobs[x]? = some j) (stage : Stage) :
    (p.setStage x j stage).held + j.stage.holdsPermit.toNat =
      p.held + stage.holdsPermit.toNat := by
  obtain ⟨before, after, split, replaced⟩ := exists_split_of_getElem? found
  have held (l : List Job) (j : Job) : List.countP (fun j => j.stage.holdsPermit) (j :: l) =
      List.countP (fun j => j.stage.holdsPermit) l + j.stage.holdsPermit.toNat := by
    rw [List.countP_cons]
    cases j.stage.holdsPermit <;> rfl
  unfold Pool.held Pool.setStage
  rw [replaced, split, List.countP_append, List.countP_append, held, held]
  dsimp only
  omega

namespace Accounted

theorem new : Accounted limit [] (Pool.new limit) where
  permits := rfl
  served i k found := by cases found
  unborn _ _ := rfl
  connected j member := by cases member
  reads j member := by cases member
  finds j member := by cases member

/-- Only permits, lookups and connections matter. -/
theorem of_eq (accounted : Accounted limit moves p) (free : q.free = p.free)
    (jobs : q.jobs = p.jobs) (connections : q.connections = p.connections) :
    Accounted limit moves q := by
  obtain ⟨permits, served, unborn, connected, reads, finds⟩ := accounted
  have held : q.held = p.held := by
    unfold Pool.held
    rw [jobs]
  refine ⟨?_, ?_, ?_, ?_, ?_, ?_⟩
  · rw [free, held]
    exact permits
  · rw [connections, jobs]
    exact served
  · rw [connections]
    exact unborn
  · rw [jobs, connections]
    exact connected
  · rw [jobs]
    exact reads
  · rw [jobs]
    exact finds

/-- A move with which nothing arrives changes nothing about what has arrived. -/
theorem extend (accounted : Accounted limit moves p) (quiet : ∀ i, m.arrivalsOn i = []) :
    Accounted limit (moves ++ [m]) p := by
  have same (i : Nat) : arrivedOn (moves ++ [m]) i = arrivedOn moves i := by
    rw [arrivedOn_append, arrivedOn_singleton, quiet, List.append_nil]
  refine ⟨accounted.permits, ?_, ?_, accounted.connected, ?_, ?_⟩
  · intro i k found
    rw [same]
    exact (accounted.served i k found).mono fun _ _ belongs => belongs.extend [m]
  · intro i missing
    rw [same]
    exact accounted.unborn i missing
  · intro j member
    rw [same]
    exact accounted.reads j member
  · intro j member a known
    exact (accounted.finds j member a known).extend [m]

theorem setConnection (accounted : Accounted limit moves p)
    (found : p.connections[i]? = some k)
    (served : Connection.Served (arrivedOn moves i) (Belongs limit moves i)
      (openLines p.jobs i) k') :
    Accounted limit moves (p.setConnection i k') := by
  refine ⟨accounted.permits, ?_, ?_, ?_, accounted.reads, accounted.finds⟩
  · intro i' k'' found'
    rw [getElem?_setConnection found] at found'
    split at found'
    · next same =>
      cases found'
      rw [← same]
      exact served
    · exact accounted.served i' k'' found'
  · exact fun i' missing =>
      accounted.unborn i' (getElem?_eq_none_of_setConnection found missing)
  · exact fun j member => exists_getElem?_setConnection found (accounted.connected j member)

/-- A lookup comes to another stage and does not end. -/
theorem setStage (accounted : Accounted limit moves p) (found : p.jobs[x]? = some j)
    (stage : Stage) (free : Nat) (before : j.stage.isEnded = false)
    (after : stage.isEnded = false)
    (permits : free + stage.holdsPermit.toNat = p.free + j.stage.holdsPermit.toNat)
    (finds : ∀ a, stage = .answered a →
      Finds limit moves j.connection j.line j.request a.encode) :
    Accounted limit moves { p.setStage x j stage with free } := by
  have inside : j ∈ p.jobs := List.mem_of_getElem? found
  have opened := openLines_setStage found (after.trans before.symm)
  refine ⟨?_, ?_, accounted.unborn, ?_, ?_, ?_⟩
  · have held := held_setStage found stage
    have total := accounted.permits
    change free + (p.setStage x j stage).held = capacity limit
    omega
  · intro i k connection
    change Connection.Served _ _ (openLines (p.jobs.set x { j with stage }) i) k
    rw [opened]
    exact accounted.served i k connection
  · intro j' member
    rcases List.mem_or_eq_of_mem_set member with old | rfl
    · exact accounted.connected j' old
    · exact accounted.connected j inside
  · intro j' member
    rcases List.mem_or_eq_of_mem_set member with old | rfl
    · exact accounted.reads j' old
    · exact accounted.reads j inside
  · intro j' member a known
    rcases List.mem_or_eq_of_mem_set member with old | rfl
    · exact accounted.finds j' old a known
    · exact finds a known

theorem answers (accounted : Accounted limit moves p) (found : p.jobs[x]? = some j)
    {interface : Option String} (asked : j.stage = .resolving interface) {a : Answer}
    (finds : Finds limit moves j.connection j.line j.request a.encode) :
    Accounted limit moves (p.setStage x j (.answered a)) := by
  refine accounted.setStage found (.answered a) p.free (asked ▸ rfl) rfl (asked ▸ rfl) ?_
  intro a' same
  cases same
  exact finds

/-- A new connection is served: nothing has arrived on it, and no lookup is for it. -/
theorem connect (accounted : Accounted limit moves p) :
    Accounted limit moves { p with connections := p.connections ++ [{}] } := by
  have found {i : Nat} {k : Connection} (old : p.connections[i]? = some k) :
      (p.connections ++ [({} : Connection)])[i]? = some k := by
    rw [List.getElem?_append_left (List.getElem?_eq_some_iff.mp old).1]
    exact old
  refine ⟨accounted.permits, ?_, ?_, ?_, accounted.reads, accounted.finds⟩
  · intro i k connection
    cases old : p.connections[i]? with
    | some k' =>
      have same : k' = k := Option.some.inj ((found old).symm.trans connection)
      rw [← same]
      exact accounted.served i k' old
    | none =>
      have fresh : k = {} := by
        have outside := List.getElem?_eq_none_iff.mp old
        change (p.connections ++ [({} : Connection)])[i]? = some k at connection
        rw [List.getElem?_append_right outside] at connection
        exact List.mem_singleton.mp (List.mem_of_getElem? connection)
      have closed : openLines p.jobs i = [] := openLines_of_ended fun j member here => by
        obtain ⟨k', connected⟩ := accounted.connected j member
        rw [here, old] at connected
        cases connected
      change Connection.Served _ _ (openLines p.jobs i) k
      rw [fresh, closed, accounted.unborn i old]
      exact .new
  · intro i missing
    refine accounted.unborn i ?_
    cases old : p.connections[i]? with
    | none => rfl
    | some k => exact (found old).symm.trans missing
  · intro j member
    obtain ⟨k, connected⟩ := accounted.connected j member
    exact ⟨k, found connected⟩

/-- What arrives waits behind all that has arrived before. -/
theorem arrive (accounted : Accounted limit moves p) (found : p.connections[i]? = some k)
    (listening : k.hungUp = false) (arrivals : List Arrival) :
    Accounted limit (moves ++ [.arrive i arrivals])
      (p.setConnection i { k with arrivals := k.arrivals ++ arrivals }) := by
  have here : arrivedOn (moves ++ [.arrive i arrivals]) i = arrivedOn moves i ++ arrivals := by
    rw [arrivedOn_append, arrivedOn_singleton]
    exact congrArg _ (if_pos rfl)
  have elsewhere {i' : Nat} (other : i ≠ i') :
      arrivedOn (moves ++ [.arrive i arrivals]) i' = arrivedOn moves i' := by
    rw [arrivedOn_append, arrivedOn_singleton]
    exact (congrArg _ (if_neg other)).trans (List.append_nil _)
  refine ⟨accounted.permits, ?_, ?_, ?_, ?_, ?_⟩
  · intro i' k' found'
    rw [getElem?_setConnection found] at found'
    split at found'
    · next same =>
      cases found'
      subst same
      rw [here]
      exact ((accounted.served i k found).arrive listening arrivals).mono
        fun _ _ belongs => belongs.extend _
    · next other =>
      rw [elsewhere other]
      exact (accounted.served i' k' found').mono fun _ _ belongs => belongs.extend _
  · intro i' missing
    have before := getElem?_eq_none_of_setConnection found missing
    have other : i ≠ i' := by
      rintro rfl
      rw [found] at before
      cases before
    rw [elsewhere other]
    exact accounted.unborn i' before
  · exact fun j member => exists_getElem?_setConnection found (accounted.connected j member)
  · intro j member
    obtain ⟨text, line, read⟩ := accounted.reads j member
    exact ⟨text, getElem?_arrivedOn_extend line _, read⟩
  · intro j member a known
    exact (accounted.finds j member a known).extend _

/-- The new lookup stands last, so that its line is the last of those that are open. -/
theorem accepts (accounted : Accounted limit moves p) (found : p.connections[i]? = some k)
    (running : k.stopped = false) {text : String} {rest : List Arrival} {request : Request}
    (next : k.arrivals = .line text :: rest) (reads : Request.ofLine text = .ok request) :
    Accounted limit moves
      { p.setConnection i { k with arrivals := rest, taken := k.taken + 1 } with
        jobs := p.jobs ++ [{ connection := i, line := k.taken, request }] } := by
  have served := accounted.served i k found
  refine ⟨?_, ?_, ?_, ?_, ?_, ?_⟩
  · refine Eq.trans (congrArg (p.free + ·) ?_) accounted.permits
    exact List.countP_append
  · intro i' k' found'
    change Connection.Served _ _ (openLines (p.jobs ++ [_]) i') k'
    rw [openLines_append]
    rw [getElem?_setConnection found] at found'
    split at found'
    · next same =>
      cases found'
      subst same
      rw [if_pos rfl]
      exact served.accepts running next
    · next other =>
      rw [if_neg other, List.append_nil]
      exact accounted.served i' k' found'
  · exact fun i' missing =>
      accounted.unborn i' (getElem?_eq_none_of_setConnection found missing)
  · intro j member
    refine exists_getElem?_setConnection found ?_
    rcases List.mem_append.mp member with old | last
    · exact accounted.connected j old
    · rw [List.mem_singleton.mp last]
      exact ⟨k, found⟩
  · intro j member
    rcases List.mem_append.mp member with old | last
    · exact accounted.reads j old
    · rw [List.mem_singleton.mp last]
      exact ⟨text, (served.getElem?_taken next).1, reads⟩
  · intro j member a known
    rcases List.mem_append.mp member with old | last
    · exact accounted.finds j old a known
    · rw [List.mem_singleton.mp last] at known
      cases known

/-- The line of the lookup is closed, and its response is sent, in one move. -/
theorem responds (accounted : Accounted limit moves p) {a : Answer}
    (found : p.jobs[x]? = some j) (known : j.stage = .answered a)
    (connected : p.connections[j.connection]? = some k) (delivered : Bool) :
    Accounted limit moves
      { (p.setStage x j (.ended a delivered)).setConnection j.connection
          (k.offer j.line a.encode) with free := p.free + 1 } := by
  have inside : j ∈ p.jobs := List.mem_of_getElem? found
  have unended : j.stage.isEnded = false := known ▸ rfl
  obtain ⟨text, line, reads⟩ := accounted.reads j inside
  have own : Belongs limit moves j.connection j.line a.encode :=
    .found line reads (accounted.finds j inside a known)
  refine ⟨?_, ?_, ?_, ?_, ?_, ?_⟩
  · have held := held_setStage found (.ended a delivered)
    have total := accounted.permits
    rw [known] at held
    change p.free + 1 + (p.setStage x j (.ended a delivered)).held = capacity limit
    change _ + 1 = _ + 0 at held
    omega
  · intro i k' found'
    change Connection.Served _ _
      (openLines (p.jobs.set x { j with stage := .ended a delivered }) i) k'
    rw [getElem?_setConnection (p := p.setStage x j (.ended a delivered)) connected] at found'
    split at found'
    · next same =>
      cases found'
      subst same
      obtain ⟨before, after, opened, closed⟩ := openLines_end found unended a delivered
      have served := accounted.served j.connection k connected
      rw [opened] at served
      rw [closed]
      exact served.responds own
    · next other =>
      rw [openLines_end_of_other found other]
      exact accounted.served i k' found'
  · exact fun i missing =>
      accounted.unborn i (getElem?_eq_none_of_setConnection connected missing)
  · intro j' member
    refine exists_getElem?_setConnection connected ?_
    rcases List.mem_or_eq_of_mem_set member with old | rfl
    · exact accounted.connected j' old
    · exact ⟨k, connected⟩
  · intro j' member
    rcases List.mem_or_eq_of_mem_set member with old | rfl
    · exact accounted.reads j' old
    · exact ⟨text, line, reads⟩
  · intro j' member a' known'
    rcases List.mem_or_eq_of_mem_set member with old | rfl
    · exact accounted.finds j' old a' known'
    · cases known'

/-- Every move keeps the pool in order, as long as the peers take their responses. -/
theorem of_transition (accounted : Accounted limit moves p)
    (reached : (Pool.new limit).run moves = some p) (step : p.Transition m q)
    (hearing : ∀ i, m ≠ .deafen i) : Accounted limit (moves ++ [m]) q := by
  have next (quiet : ∀ i, m.arrivalsOn i = []) : Accounted limit (moves ++ [m]) p :=
    accounted.extend quiet
  cases step with
  | connect events =>
    exact (next fun _ => rfl).connect.of_eq rfl rfl rfl
  | arrive found listening => exact accounted.arrive found listening _
  | hangUp found =>
    have accounted := next fun _ => rfl
    exact accounted.setConnection found (accounted.served _ _ found).hangUp
  | deafen found => exact (hearing _ rfl).elim
  | ends found running unstalled empty hungUp events =>
    have accounted := next fun _ => rfl
    have served := (accounted.served _ _ found).ends empty hungUp
    exact (accounted.setConnection found served).of_eq rfl rfl rfl
  | @refuses i k rest found running unstalled first events =>
    have accounted := next fun _ => rfl
    have served := accounted.served i k found
    have own : Belongs limit (moves ++ [.take i]) i k.taken _ :=
      .of_tooLong (served.getElem?_taken first).1
    exact (accounted.setConnection found (served.refused running first own)).of_eq rfl rfl rfl
  | @rejects i k text rest r found running unstalled first reads events =>
    have accounted := next fun _ => rfl
    have served := accounted.served i k found
    have own : Belongs limit (moves ++ [.take i]) i k.taken _ :=
      .of_rejection (served.getElem?_taken first).1 reads
    exact (accounted.setConnection found (served.rejects running first own)).of_eq rfl rfl rfl
  | accepts found running unstalled first reads events =>
    have accounted := next fun _ => rfl
    exact (accounted.accepts found running first reads).of_eq rfl rfl rfl
  | associate change => exact (next fun _ => rfl).of_eq rfl rfl rfl
  | grant found waits left =>
    have accounted := next fun _ => rfl
    refine accounted.setStage found .admitted (p.free - 1) (waits ▸ rfl) rfl ?_ nofun
    rw [waits]
    exact Nat.sub_add_cancel left
  | givesUp found waits closed connected events =>
    rw [closed_of_run reached] at closed
    cases closed
  | ask found holds interface chosen =>
    have accounted := next fun _ => rfl
    have staged := accounted.setStage found (.resolving interface) p.free (holds ▸ rfl) rfl
      (holds ▸ rfl) nofun
    exact staged.of_eq rfl rfl rfl
  | @resolves x j resolver interface found asked events =>
    have asking : p.jobs[x]? = some ⟨j.connection, j.line, j.request, .resolving interface⟩ :=
      asked ▸ found
    have finds : Finds limit (moves ++ [.resolve x resolver]) j.connection j.line j.request _ :=
      .of_resolve reached asking
    exact ((next fun _ => rfl).answers found asked finds).of_eq rfl rfl rfl
  | @breaksDown x j interface found asked events =>
    have asking : p.jobs[x]? = some ⟨j.connection, j.line, j.request, .resolving interface⟩ :=
      asked ▸ found
    have finds : Finds limit (moves ++ [.breakDown x]) j.connection j.line j.request _ :=
      .of_breakDown reached asking
    exact ((next fun _ => rfl).answers found asked finds).of_eq rfl rfl rfl
  | responds found known connected events =>
    have accounted := next fun _ => rfl
    exact (accounted.responds found known connected _).of_eq rfl rfl rfl

end Accounted

/-- As long as the peers take their responses, the pool is in order after every run. -/
theorem accounted_of_run (run : (Pool.new limit).run moves = some p)
    (hearing : ∀ i, Move.deafen i ∉ moves) : Accounted limit moves p := by
  revert hearing
  refine run_induction (P := fun moves p => (∀ i, Move.deafen i ∉ moves) →
    Accounted limit moves p) (fun _ => .new) ?_ run
  intro before p q m reached accounted step hearing
  have first : ∀ i, Move.deafen i ∉ before := fun i member =>
    hearing i (List.mem_append_left _ member)
  refine (accounted first).of_transition reached step ?_
  rintro i rfl
  exact hearing i (List.mem_append_right _ (List.mem_singleton_self _))

end Pool

end NetControl.Lookup
