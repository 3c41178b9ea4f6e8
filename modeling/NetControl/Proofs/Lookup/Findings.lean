import NetControl.Proofs.Lookup.Reading

/-!
# What lookups find and what is sent

Whether or not the peers take their responses: the answer that a lookup has come to was found for
this very lookup (`Pool.finds_of_run`), and every response that was sent belongs to the line that it
was sent for (`Pool.belongs_of_run`).
-/

namespace NetControl.Lookup

open Command

/-- The answer that a lookup at this stage has come to. -/
def Stage.answer? : Stage → Option Answer
  | answered a => some a
  | ended a _ => some a
  | _ => none

namespace Pool

variable {limit : Nat} {moves before : List Move} {p q : Pool} {m : Move}

/-! ## Answers -/

/-- The answers that lookups have come to were found for them in the course of these moves. -/
def Founded (limit : Nat) (moves : List Move) (p : Pool) : Prop :=
  ∀ j ∈ p.jobs, ∀ a, j.stage.answer? = some a →
    Finds limit moves j.connection j.line j.request a.encode

theorem founded_new (limit : Nat) : Founded limit [] (Pool.new limit) := by
  intro j member
  cases member

theorem Founded.of_same (founded : Founded limit before p) (jobs : q.jobs = p.jobs) :
    Founded limit (before ++ [m]) q := by
  intro j member a known
  rw [jobs] at member
  exact (founded j member a known).extend [m]

/-- A lookup comes to another stage, with an answer if one was found for it. -/
theorem Founded.set (founded : Founded limit before p) {x : Nat} {j : Job} {stage : Stage}
    (jobs : q.jobs = p.jobs.set x { j with stage })
    (finds : ∀ a, stage.answer? = some a →
      Finds limit (before ++ [m]) j.connection j.line j.request a.encode) :
    Founded limit (before ++ [m]) q := by
  intro j' member a known
  rw [jobs] at member
  rcases List.mem_or_eq_of_mem_set member with old | rfl
  · exact (founded j' old a known).extend [m]
  · exact finds a known

theorem Founded.of_transition (founded : Founded limit before p)
    (reached : (Pool.new limit).run before = some p) (step : p.Transition m q) :
    Founded limit (before ++ [m]) q := by
  cases step with
  | accepts found running unstalled next reads events =>
    intro j member a known
    rcases List.mem_append.mp member with old | last
    · exact (founded j old a known).extend _
    · rw [List.mem_singleton.mp last] at known
      cases known
  | grant found waits left => exact founded.set rfl nofun
  | givesUp found waits closed connected events =>
    rw [closed_of_run reached] at closed
    cases closed
  | ask found holds interface chosen => exact founded.set rfl nofun
  | @resolves x j resolver interface found asked events =>
    have asking : p.jobs[x]? = some ⟨j.connection, j.line, j.request, .resolving interface⟩ :=
      asked ▸ found
    refine founded.set rfl fun a known => ?_
    cases known
    exact .of_resolve reached asking
  | @breaksDown x j interface found asked events =>
    have asking : p.jobs[x]? = some ⟨j.connection, j.line, j.request, .resolving interface⟩ :=
      asked ▸ found
    refine founded.set rfl fun a known => ?_
    cases known
    exact .of_breakDown reached asking
  | @responds x j a k found known connected events =>
    refine founded.set rfl fun a' same => ?_
    cases same
    exact (founded j (List.mem_of_getElem? found) a (known ▸ rfl)).extend _
  | _ => exact founded.of_same rfl

/-- The answer that a lookup has come to was found for it. -/
theorem finds_of_run (run : (Pool.new limit).run moves = some p) : Founded limit moves p :=
  run_induction (P := Founded limit) (founded_new limit)
    (fun reached founded step => founded.of_transition reached step) run

/-! ## Responses -/

/-- Where a connection is replaced, it has sent what it had sent, and at most one response more. -/
theorem forall_sent_setConnection {P : Nat → Nat × Bytes → Prop} {i : Nat} {k k' : Connection}
    (old : ∀ i, ∀ e ∈ (p.connection i).sent, P i e) (found : p.connections[i]? = some k)
    (after : q.connections = (p.setConnection i k').connections)
    (sent : k'.sent = k.sent ∨ ∃ n b, P i (n, b) ∧ k'.sent = k.sent ++ [(n, b)]) :
    ∀ i, ∀ e ∈ (q.connection i).sent, P i e := by
  intro i' e member
  rw [connection_setConnection found after] at member
  split at member
  · next here =>
    subst here
    have before := old i
    rw [connection_of_found found] at before
    rcases sent with same | ⟨n, b, own, more⟩
    · rw [same] at member
      exact before e member
    · rw [more] at member
      exact List.forall_mem_append.mpr ⟨before, List.forall_mem_singleton.mpr own⟩ e member
  · exact old i' e member

/-- What the loop of a connection takes next is the line after those it has taken. -/
theorem line_of_next {i : Nat} {k : Connection} {a : Arrival} {rest : List Arrival}
    (reached : (Pool.new limit).run before = some p) (found : p.connections[i]? = some k)
    (next : k.arrivals = a :: rest) (more : List Move) :
    (arrivedOn (before ++ more) i)[k.taken]? = some a := by
  rw [← connection_of_found found] at next ⊢
  exact (readOn_of_run reached i).getElem?_taken next more

theorem belongs_of_transition
    (belongs : ∀ i, ∀ e ∈ (p.connection i).sent, Belongs limit before i e.1 e.2)
    (reached : (Pool.new limit).run before = some p) (step : p.Transition m q) :
    ∀ i, ∀ e ∈ (q.connection i).sent, Belongs limit (before ++ [m]) i e.1 e.2 := by
  have old : ∀ i, ∀ e ∈ (p.connection i).sent, Belongs limit (before ++ [m]) i e.1 e.2 :=
    fun i e member => (belongs i e member).extend [m]
  cases step with
  | connect events =>
    intro i
    rw [connection_connect]
    exact old i
  | arrive found listening => exact forall_sent_setConnection old found rfl (Or.inl rfl)
  | hangUp found => exact forall_sent_setConnection old found rfl (Or.inl rfl)
  | deafen found => exact forall_sent_setConnection old found rfl (Or.inl rfl)
  | ends found running unstalled empty hungUp events =>
    exact forall_sent_setConnection old found rfl (Or.inl rfl)
  | @refuses i k rest found running unstalled next events =>
    have own : Belongs limit (before ++ [.take i]) i k.taken _ :=
      .of_tooLong (line_of_next reached found next [.take i])
    exact forall_sent_setConnection old found rfl
      ((sent_offer k k.taken _).imp_right fun sent => ⟨_, _, own, sent⟩)
  | @rejects i k text rest r found running unstalled next reads events =>
    have own : Belongs limit (before ++ [.take i]) i k.taken _ :=
      .of_rejection (line_of_next reached found next [.take i]) reads
    exact forall_sent_setConnection old found rfl
      ((sent_offer k k.taken _).imp_right fun sent => ⟨_, _, own, sent⟩)
  | accepts found running unstalled next reads events =>
    exact forall_sent_setConnection old found rfl (Or.inl rfl)
  | givesUp found waits closed connected events =>
    rw [closed_of_run reached] at closed
    cases closed
  | @responds x j a k found known connected events =>
    have member := List.mem_of_getElem? found
    obtain ⟨text, line, reads⟩ := (reads_of_run reached j member).reads
    have finds := finds_of_run reached j member a (known ▸ rfl)
    have own := (Belongs.found line reads finds).extend [.respond x]
    exact forall_sent_setConnection old connected rfl
      ((sent_offer k j.line a.encode).imp_right fun sent => ⟨_, _, own, sent⟩)
  | associate | grant | ask | resolves | breaksDown => exact old

/-- Whatever the peers do, each response that was sent belongs to the line that it was sent for. -/
theorem belongs_of_run (run : (Pool.new limit).run moves = some p) :
    ∀ i, ∀ e ∈ (p.connection i).sent, Belongs limit moves i e.1 e.2 :=
  run_induction
    (P := fun moves p => ∀ i, ∀ e ∈ (p.connection i).sent, Belongs limit moves i e.1 e.2)
    (fun _ => List.forall_mem_nil _)
    (fun reached belongs step => belongs_of_transition belongs reached step) run

end Pool

end NetControl.Lookup
