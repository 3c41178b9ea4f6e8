import NetControl.Proofs.Lookup.Accounts

/-!
# Every line is answered once

When the daemon has nothing more to do, no lookup is left: one that waits for a permit would get one
that no other holds, and one that holds a permit could go on. So on every connection each line that
its loop has come to is answered, and answered once (`Pool.answered_once`). The same is so once the
daemon has closed its side of a connection, after which nothing is sent there any more.
-/

namespace NetControl.Lookup

open Command

/-! ## The lines to be answered -/

/-- How many lines of what has arrived have to be answered: all up to the first that is too long,
and that one. -/
def dueLines (arrived : List Arrival) : Nat :=
  (arrived.takeWhile (· ≠ .tooLong)).length + if .tooLong ∈ arrived then 1 else 0

theorem dueLines_of_tooLong {arrived : List Arrival} {n : Nat}
    (line : arrived[n]? = some .tooLong) (first : ∀ n' < n, arrived[n']? ≠ some .tooLong) :
    dueLines arrived = n + 1 := by
  obtain ⟨inside, same⟩ := List.getElem?_eq_some_iff.mp line
  have split : arrived = arrived.take n ++ .tooLong :: arrived.drop (n + 1) := by
    rw [← same, ← List.drop_eq_getElem_cons inside, List.take_append_drop]
  have before : ∀ a ∈ arrived.take n, decide (a ≠ .tooLong) = true := by
    intro a member
    obtain ⟨n', found⟩ := List.getElem?_of_mem member
    rw [List.getElem?_take] at found
    split at found
    · next earlier => exact decide_eq_true fun long => first n' earlier (long ▸ found)
    · cases found
  have length : (arrived.takeWhile (· ≠ .tooLong)).length = n := by
    rw [split, List.takeWhile_append_of_pos before]
    simp [Nat.min_eq_left (Nat.le_of_lt inside)]
  unfold dueLines
  rw [length, if_pos (List.mem_of_getElem? line)]

theorem dueLines_of_not_mem {arrived : List Arrival} (fine : .tooLong ∉ arrived) :
    dueLines arrived = arrived.length := by
  have each : ∀ a ∈ arrived, decide (a ≠ Arrival.tooLong) = true :=
    fun a member => decide_eq_true fun long => fine (long ▸ member)
  have whole : (arrived ++ []).takeWhile (· ≠ Arrival.tooLong) = arrived := by
    rw [List.takeWhile_append_of_pos each, List.takeWhile_nil, List.append_nil]
  rw [List.append_nil] at whole
  unfold dueLines
  rw [whole, if_neg fine]
  rfl

/-- A loop that is over, or has nothing left, has come to all lines that have to be answered. -/
theorem Connection.Served.taken_eq {arrived : List Arrival} {belongs : Nat → Bytes → Prop}
    {opened : List Nat} {k : Connection} (served : Served arrived belongs opened k)
    (finished : k.stopped = true ∨ k.arrivals = []) : k.taken = dueLines arrived := by
  have all (empty : k.arrivals = []) : k.taken = arrived.length := by
    have left := served.left
    rw [empty, List.drop_eq_nil_iff] at left
    exact Nat.le_antisymm served.within left
  have upTo {n : Nat} (last : k.taken = n + 1) (line : arrived[n]? = some .tooLong) :
      k.taken = dueLines arrived := by
    rw [last]
    refine (dueLines_of_tooLong line fun n' earlier long => ?_).symm
    have same := (served.refuses n' (by omega) long).2
    omega
  have finished : k.arrivals = [] ∨ ∃ n, k.taken = n + 1 ∧ arrived[n]? = some .tooLong := by
    rcases finished with stopped | empty
    · exact (served.stops stopped).imp_left And.left
    · exact Or.inl empty
  -- A loop with nothing left may still have stopped at its very last line.
  rcases finished with empty | ⟨n, last, line⟩
  · by_cases long : .tooLong ∈ arrived
    · obtain ⟨n, line⟩ := List.getElem?_of_mem long
      have inside := (List.getElem?_eq_some_iff.mp line).1
      exact upTo (served.refuses n (all empty ▸ inside) line).2 line
    · rw [dueLines_of_not_mem long]
      exact all empty
  · exact upTo last line

/-! ## Rest -/

namespace Pool

variable {limit i : Nat} {moves : List Move} {p q : Pool} {m : Move} {k : Connection}

/-- A lookup that holds a permit can go on. -/
theorem holdsPermit_of_atRest (rest : p.AtRest)
    (connected : ∀ j ∈ p.jobs, ∃ k, p.connections[j.connection]? = some k) :
    ∀ j ∈ p.jobs, j.stage.holdsPermit = false := by
  intro j member
  obtain ⟨x, found⟩ := List.getElem?_of_mem member
  cases stage : j.stage with
  | queued => rfl
  | admitted =>
    have stuck := rest (.ask x) trivial
    simp [Pool.step, found, stage] at stuck
  | resolving interface =>
    have stuck := rest (.breakDown x) trivial
    simp [Pool.step, found, stage] at stuck
  | answered a =>
    obtain ⟨k, connection⟩ := connected j member
    have stuck := rest (.respond x) trivial
    simp [Pool.step, found, stage, connection] at stuck
  | ended a delivered => rfl

/-- A lookup that waits could get a permit, because none is held; and where the permits are closed
it could give up. -/
theorem ended_of_atRest (accounted : Accounted limit moves p) (rest : p.AtRest) :
    ∀ j ∈ p.jobs, j.stage.isEnded = true := by
  have unheld := holdsPermit_of_atRest rest accounted.connected
  -- No permit is held, so all of them are free, and there is at least one.
  have free : 0 < p.free := by
    have none : p.held = 0 := by
      unfold Pool.held
      rw [List.countP_eq_zero]
      intro j member
      rw [unheld j member]
      exact Bool.false_ne_true
    have total := accounted.permits
    have one : 1 ≤ capacity limit := Nat.le_max_left 1 limit
    omega
  intro j member
  obtain ⟨x, found⟩ := List.getElem?_of_mem member
  have holds := unheld j member
  cases stage : j.stage with
  | queued =>
    have stuck := rest (.grant x) trivial
    have lost := rest (.giveUp x) trivial
    obtain ⟨k, connection⟩ := accounted.connected j member
    cases closed : p.closed with
    | false => simp [Pool.step, found, stage, closed, free] at stuck
    | true => simp [Pool.step, found, stage, closed, connection] at lost
  | admitted | resolving | answered =>
    rw [stage] at holds
    cases holds
  | ended a delivered => rfl

/-- A loop that is not over waits for more. -/
theorem idle_of_atRest (rest : p.AtRest) (ended : ∀ j ∈ p.jobs, j.stage.isEnded = true)
    (connection : p.connections[i]? = some k) : Connection.Idle k := by
  have unstalled : p.isStalled i = false := by
    unfold Pool.isStalled
    rw [List.any_eq_false]
    intro j member both
    simp only [Bool.and_eq_true, decide_eq_true_eq] at both
    have finished := ended j member
    rw [both.2] at finished
    cases finished
  have stuck := rest (.take i) trivial
  unfold Connection.Idle
  cases stopped : k.stopped with
  | true => exact Or.inl rfl
  | false =>
    refine Or.inr ?_
    cases arrivals : k.arrivals with
    | nil =>
      cases hungUp : k.hungUp with
      | false => exact ⟨rfl, rfl⟩
      | true => simp [Pool.step, connection, stopped, unstalled, arrivals, hungUp] at stuck
    | cons a more =>
      cases a <;> simp [Pool.step, connection, stopped, unstalled, arrivals] at stuck

/-! ## Closing -/

/-- The loop of connection `i` is over and no lookup of it is left. -/
def Quiet (p : Pool) (i : Nat) (k : Connection) : Prop :=
  p.connections[i]? = some k ∧ k.stopped = true ∧
    ∀ j ∈ p.jobs, j.connection = i → j.stage.isEnded = true

theorem quiet_of_isClosed (connection : p.connections[i]? = some k) (closed : p.isClosed i = true) :
    p.Quiet i k := by
  unfold Pool.isClosed at closed
  rw [Bool.and_eq_true, connection, Option.any_some, List.all_eq_true] at closed
  refine ⟨connection, closed.1, fun j member here => ?_⟩
  have ended := closed.2 j member
  rw [Bool.or_eq_true, decide_eq_true_eq] at ended
  exact ended.resolve_left (not_not_intro here)

theorem isClosed_of_quiet (quiet : p.Quiet i k) : p.isClosed i = true := by
  obtain ⟨connection, stopped, ended⟩ := quiet
  unfold Pool.isClosed
  rw [Bool.and_eq_true, connection, Option.any_some, List.all_eq_true]
  refine ⟨stopped, fun j member => ?_⟩
  rw [Bool.or_eq_true, decide_eq_true_eq]
  by_cases here : j.connection = i
  · exact Or.inr (ended j member here)
  · exact Or.inl here

namespace Quiet

theorem setStage (quiet : p.Quiet i k) {x : Nat} {j : Job} (found : p.jobs[x]? = some j)
    (unended : j.stage.isEnded = false) (stage : Stage) : (p.setStage x j stage).Quiet i k := by
  obtain ⟨connection, stopped, ended⟩ := quiet
  refine ⟨connection, stopped, fun j' member here => ?_⟩
  rcases List.mem_or_eq_of_mem_set member with old | rfl
  · exact ended j' old here
  · rw [ended j (List.mem_of_getElem? found) here] at unended
    cases unended

theorem of_eq (quiet : p.Quiet i k) (connections : q.connections = p.connections)
    (jobs : q.jobs = p.jobs) : q.Quiet i k := by
  unfold Quiet
  rw [connections, jobs]
  exact quiet

/-- A loop that takes something is not the one that is over. -/
theorem other_of_running (quiet : p.Quiet i k) {i' : Nat} {k₁ : Connection}
    (found : p.connections[i']? = some k₁) (running : k₁.stopped = false) : i' ≠ i := by
  rintro rfl
  have same : k₁ = k := Option.some.inj (found.symm.trans quiet.1)
  rw [same, quiet.2.1] at running
  cases running

theorem setConnection_of_other (quiet : p.Quiet i k) {i' : Nat} (other : i' ≠ i)
    (k₂ : Connection) : (p.setConnection i' k₂).Quiet i k := by
  refine ⟨?_, quiet.2⟩
  change (p.connections.set i' k₂)[i]? = some k
  rw [List.getElem?_set_ne other]
  exact quiet.1

/-- A change to the connection itself counts only if it is one of the loop or of what was sent. -/
theorem setConnection (quiet : p.Quiet i k) {i' : Nat} {k₁ k₂ : Connection}
    (found : p.connections[i']? = some k₁) (loop : k₂.stopped = k₁.stopped)
    (sent : k₂.sent = k₁.sent) :
    ∃ k', (p.setConnection i' k₂).Quiet i k' ∧ k'.sent = k.sent := by
  by_cases here : i' = i
  · subst here
    have same : k₁ = k := Option.some.inj (found.symm.trans quiet.1)
    refine ⟨k₂, ⟨?_, ?_, quiet.2.2⟩, ?_⟩
    · rw [getElem?_setConnection found, if_pos rfl]
    · rw [loop, same]
      exact quiet.2.1
    · rw [sent, same]
  · exact ⟨k, quiet.setConnection_of_other here k₂, rfl⟩

/-- Whatever moves, a quiet connection stays so, and nothing is sent on it. -/
theorem of_transition (quiet : p.Quiet i k) (step : p.Transition m q) :
    ∃ k', q.Quiet i k' ∧ k'.sent = k.sent := by
  cases step with
  | connect events =>
    refine ⟨k, ⟨?_, quiet.2⟩, rfl⟩
    have inside := (List.getElem?_eq_some_iff.mp quiet.1).1
    change (p.connections ++ [_])[i]? = some k
    rw [List.getElem?_append_left inside]
    exact quiet.1
  | arrive found listening => exact quiet.setConnection found rfl rfl
  | hangUp found => exact quiet.setConnection found rfl rfl
  | deafen found => exact quiet.setConnection found rfl rfl
  | ends found running unstalled empty hungUp events =>
    have other := quiet.other_of_running found running
    exact ⟨k, (quiet.setConnection_of_other other _).of_eq rfl rfl, rfl⟩
  | refuses found running unstalled next events =>
    have other := quiet.other_of_running found running
    exact ⟨k, (quiet.setConnection_of_other other _).of_eq rfl rfl, rfl⟩
  | rejects found running unstalled next reads events =>
    have other := quiet.other_of_running found running
    exact ⟨k, (quiet.setConnection_of_other other _).of_eq rfl rfl, rfl⟩
  | @accepts i' k₁ text rest request found running unstalled next reads events =>
    have other := quiet.other_of_running found running
    obtain ⟨connection, stopped, ended⟩ := quiet.setConnection_of_other other
      { k₁ with arrivals := rest, taken := k₁.taken + 1 }
    refine ⟨k, ⟨connection, stopped, fun j member here => ?_⟩, rfl⟩
    rcases List.mem_append.mp member with old | last
    · exact ended j old here
    · rw [List.mem_singleton.mp last] at here
      exact (other here).elim
  | associate change => exact ⟨k, quiet.of_eq rfl rfl, rfl⟩
  | grant found waits left =>
    exact ⟨k, (quiet.setStage found (waits ▸ rfl) _).of_eq rfl rfl, rfl⟩
  | @givesUp x j k₁ a found waits closed connected events =>
    have unended : j.stage.isEnded = false := waits ▸ rfl
    have other : j.connection ≠ i := fun here => by
      rw [quiet.2.2 j (List.mem_of_getElem? found) here] at unended
      cases unended
    have staged := quiet.setStage found unended (.ended a (!k₁.deaf))
    have kept := staged.setConnection_of_other other
      { k₁.offer j.line a.encode with stopped := k₁.deaf }
    exact ⟨k, kept.of_eq rfl rfl, rfl⟩
  | ask found holds interface chosen =>
    exact ⟨k, (quiet.setStage found (holds ▸ rfl) _).of_eq rfl rfl, rfl⟩
  | resolves found asked events =>
    exact ⟨k, (quiet.setStage found (asked ▸ rfl) _).of_eq rfl rfl, rfl⟩
  | breaksDown found asked events =>
    exact ⟨k, (quiet.setStage found (asked ▸ rfl) _).of_eq rfl rfl, rfl⟩
  | @responds x j a k₁ found known connected events =>
    have unended : j.stage.isEnded = false := known ▸ rfl
    have other : j.connection ≠ i := fun here => by
      rw [quiet.2.2 j (List.mem_of_getElem? found) here] at unended
      cases unended
    have staged := quiet.setStage found unended (.ended a (!k₁.deaf))
    exact ⟨k, (staged.setConnection_of_other other (k₁.offer j.line a.encode)).of_eq rfl rfl, rfl⟩

theorem of_run {more : List Move} (quiet : p.Quiet i k) (run : p.run more = some q) :
    ∃ k', q.Quiet i k' ∧ k'.sent = k.sent := by
  refine run_induction (P := fun _ q => ∃ k', q.Quiet i k' ∧ k'.sent = k.sent)
    ⟨k, quiet, rfl⟩ ?_ run
  rintro before p q m - ⟨k', quiet', sent⟩ step
  obtain ⟨k'', quiet'', sent'⟩ := quiet'.of_transition step
  exact ⟨k'', quiet'', sent'.trans sent⟩

end Quiet

/-- Where the loop of a connection has come to the end and no lookup of it is left, all lines that
have to be answered are answered, each once. -/
theorem Accounted.answered (accounted : Accounted limit moves p)
    (connection : p.connections[i]? = some k) (finished : k.stopped = true ∨ k.arrivals = [])
    (ended : ∀ j ∈ p.jobs, j.connection = i → j.stage.isEnded = true) :
    (k.sent.map Prod.fst).Perm (List.range (dueLines (arrivedOn moves i))) := by
  have served := accounted.served i k connection
  have once := served.once
  rw [openLines_of_ended ended, List.append_nil] at once
  rw [← served.taken_eq finished]
  exact once

/-- At rest, the daemon has closed its side of a connection just if the peer has, or a line was too
long. -/
theorem Accounted.isClosed_iff (accounted : Accounted limit moves p) (rest : p.AtRest)
    (connection : p.connections[i]? = some k) :
    p.isClosed i = true ↔ k.hungUp = true ∨ .tooLong ∈ arrivedOn moves i := by
  have served := accounted.served i k connection
  have ended := ended_of_atRest accounted rest
  constructor
  · intro closed
    rcases served.stops (quiet_of_isClosed connection closed).2.1 with ⟨-, hungUp⟩ | ⟨n, -, line⟩
    · exact Or.inl hungUp
    · exact Or.inr (List.mem_of_getElem? line)
  · intro why
    refine isClosed_of_quiet ⟨connection, ?_, fun j member _ => ended j member⟩
    rcases idle_of_atRest rest ended connection with stopped | ⟨empty, listening⟩
    · exact stopped
    · rcases why with hungUp | long
      · rw [listening] at hungUp
        cases hungUp
      · obtain ⟨n, line⟩ := List.getElem?_of_mem long
        have left := served.left
        rw [empty, List.drop_eq_nil_iff] at left
        have inside := (List.getElem?_eq_some_iff.mp line).1
        exact (served.refuses n (Nat.lt_of_lt_of_le inside left) line).1

/-- In every run in which the peers take their responses, each response that was sent on a
connection belongs to the line it was sent for. When the daemon has nothing more to do, and also
once it has closed its side of the connection, every line up to the first that is too long has one
response, and so has that one, and there is no other. At rest the side is closed just if the peer
has closed its own or a line was too long; once it is closed, nothing is sent any more. -/
theorem answered_once (run : (Pool.new limit).run moves = some p)
    (hearing : ∀ i, Move.deafen i ∉ moves) (connection : p.connections[i]? = some k) :
    (∀ x ∈ k.sent, Belongs limit moves i x.1 x.2) ∧
      (p.AtRest ∨ p.isClosed i = true →
        (k.sent.map Prod.fst).Perm (List.range (dueLines (arrivedOn moves i)))) ∧
      (p.AtRest → (p.isClosed i = true ↔ k.hungUp = true ∨ .tooLong ∈ arrivedOn moves i)) ∧
      (p.isClosed i = true → ∀ more q, p.run more = some q →
        ∃ k', q.connections[i]? = some k' ∧ q.isClosed i = true ∧ k'.sent = k.sent) := by
  have accounted := accounted_of_run run hearing
  refine ⟨(accounted.served i k connection).belongs, ?_, ?_, ?_⟩
  · rintro (rest | closed)
    · have ended := ended_of_atRest accounted rest
      refine accounted.answered connection ?_ fun j member _ => ended j member
      exact (idle_of_atRest rest ended connection).imp_right And.left
    · have quiet := quiet_of_isClosed connection closed
      exact accounted.answered connection (Or.inl quiet.2.1) quiet.2.2
  · exact fun rest => accounted.isClosed_iff rest connection
  · intro closed more q run'
    obtain ⟨k', quiet, sent⟩ := (quiet_of_isClosed connection closed).of_run run'
    exact ⟨k', quiet.1, isClosed_of_quiet quiet, sent⟩

/-- Three lookups and a line that is none, on a connection that its peer closes at once: one lookup
has a result, the resolver breaks down over one, and answers one with an error. -/
def overtaking : List Move :=
  let resolver : Resolver := ⟨fun _ _ _ _ => .ok [],
    fun _ _ _ => .ok
      { name := some "localhost", addressType := 2, length := 4, addresses := [[127, 0, 0, 1]] },
    fun _ _ _ => .error (.host 1), fun _ _ => []⟩
  [.connect,
    .arrive 0 [.line "gethostbyname 1 ^ localhost 2", .line "nonsense",
      .line "getaddrinfo localhost ^ -1 -1 -1 -1 ^ 1", .line "gethostbyaddr 127.0.0.1 4 2 1 ^"],
    .hangUp 0, .take 0, .grant 0, .take 0, .take 0, .grant 1, .ask 0, .ask 1,
    .breakDown 1, .respond 1, .resolve 0 resolver, .respond 0,
    .take 0, .grant 2, .ask 2, .resolve 2 resolver, .respond 2, .take 0]

/-- What the peer is sent: the rejection and the breakdown overtake the first lookup. -/
def overtaken : List (Nat × Bytes) :=
  [(1, Bytes.ofString "500 Command not recognized" ++ [0]),
    (2, Bytes.ofString "401" ++ [0, 0, 0, 0, 4, 252, 255, 255, 255]),
    (0, Bytes.ofString "222" ++ [0, 0, 0, 0, 10] ++ Bytes.ofString "localhost"
      ++ [0, 0, 0, 0, 0, 0, 0, 0, 2, 0, 0, 0, 4, 0, 0, 0, 4, 127, 0, 0, 1, 0, 0, 0, 0]),
    (3, Bytes.ofString "401" ++ [0, 0, 0, 0, 4, 1, 0, 0, 0])]

/-- After these moves the daemon has nothing more to do, and all lines are answered. -/
theorem answered_once_overtaking :
    ∃ p k, (Pool.new 2).run overtaking = some p ∧ p.connections[0]? = some k ∧ p.AtRest ∧
      (∀ i, Move.deafen i ∉ overtaking) ∧ k.sent = overtaken ∧
      (k.sent.map Prod.fst).Perm (List.range (dueLines (arrivedOn overtaking 0))) ∧
      ∀ x ∈ k.sent, Belongs 2 overtaking 0 x.1 x.2 := by
  let k : Connection := { taken := 4, hungUp := true, stopped := true, sent := overtaken }
  have outcome : ((Pool.new 2).run overtaking).map (fun p =>
      (p.connections, p.jobs.all fun j => j.stage.isEnded)) = some ([k], true) := by
    decide +kernel
  obtain ⟨p, run, facts⟩ := Option.map_eq_some_iff.mp outcome
  obtain ⟨connections, ended⟩ := Prod.mk.inj facts
  have connection : p.connections[0]? = some k := by
    rw [connections]
    rfl
  have rest : p.AtRest := by
    refine atRest_of_ended (List.all_eq_true.mp ended) ?_
    rw [connections]
    exact List.forall_mem_singleton.mpr (Or.inl rfl)
  have hearing : ∀ i, Move.deafen i ∉ overtaking := by
    intro i member
    simp [overtaking] at member
  obtain ⟨belongs, answered, -⟩ := answered_once run hearing connection
  exact ⟨p, k, run, connection, rest, hearing, rfl, answered (Or.inl rest), belongs⟩

end Pool

end NetControl.Lookup
