import NetControl.Proofs.Lookup.Passage

/-!
# What the loops have read

The loop of a connection takes what has arrived on it in order and passes over nothing, whether or
not its peer takes responses. So every lookup goes back to a line that has arrived and reads as it
(`Pool.reads_of_run`).
-/

namespace NetControl.Lookup

open Command

/-- Line `n` of connection `i` has arrived and is a lookup. -/
def LooksUp (moves : List Pool.Move) (i n : Nat) : Prop :=
  ∃ a, (arrivedOn moves i)[n]? = some a ∧ IsLookup a

/-- What has arrived stays what it is. -/
theorem getElem?_arrivedOn_concat {moves : List Pool.Move} {i n : Nat}
    (inside : n < (arrivedOn moves i).length) (m : Pool.Move) :
    (arrivedOn (moves ++ [m]) i)[n]? = (arrivedOn moves i)[n]? := by
  rw [arrivedOn_append, List.getElem?_append_left inside]

theorem looksUp_concat {moves : List Pool.Move} {i n : Nat}
    (inside : n < (arrivedOn moves i).length) (m : Pool.Move) :
    LooksUp (moves ++ [m]) i n ↔ LooksUp moves i n := by
  unfold LooksUp
  rw [getElem?_arrivedOn_concat inside]

namespace Pool

variable {limit i : Nat} {moves before : List Move} {p q : Pool} {m : Move}

/-- The loop of connection `i` has taken the first of what has arrived, and the rest is left. -/
structure ReadOn (i : Nat) (moves : List Move) (p : Pool) : Prop where
  within : (p.connection i).taken ≤ (arrivedOn moves i).length
  left : (arrivedOn moves i).drop (p.connection i).taken = (p.connection i).arrivals

theorem readOn_new (limit i : Nat) : ReadOn i [] (Pool.new limit) :=
  ⟨Nat.le_refl 0, rfl⟩

theorem ReadOn.of_connectionStep (read : ReadOn i before p) (step : ConnectionStep i p m q) :
    ReadOn i (before ++ [m]) q := by
  have arrived : arrivedOn (before ++ [m]) i = arrivedOn before i ++ m.arrivalsOn i := by
    rw [arrivedOn_append, arrivedOn_singleton]
  cases step with
  | rests taken sent arrivals =>
    constructor
    · rw [arrived, taken, List.length_append]
      exact Nat.le_add_right_of_le read.within
    · rw [arrived, taken, arrivals, List.drop_append_of_le_length read.within, read.left]
  | takes next taken arrivals nothing sent =>
    have left := read.left
    rw [next] at left
    obtain ⟨-, within, rest⟩ := getElem?_of_drop_eq_cons left
    rw [nothing, List.append_nil] at arrived
    constructor
    · rw [arrived, taken]
      exact within
    · rw [arrived, taken, arrivals]
      exact rest
  | responds job own known jobs taken arrivals nothing sent =>
    rw [nothing, List.append_nil] at arrived
    constructor
    · rw [arrived, taken]
      exact read.within
    · rw [arrived, taken, arrivals]
      exact read.left

/-- What the loop takes next is the line after those that it has taken. -/
theorem ReadOn.getElem?_taken (read : ReadOn i before p) {a : Arrival} {rest : List Arrival}
    (next : (p.connection i).arrivals = a :: rest) (more : List Move) :
    (arrivedOn (before ++ more) i)[(p.connection i).taken]? = some a := by
  have left := read.left
  rw [next] at left
  exact getElem?_arrivedOn_extend (getElem?_of_drop_eq_cons left).1 more

theorem readOn_of_run (run : (Pool.new limit).run moves = some p) (i : Nat) :
    ReadOn i moves p := by
  refine run_induction_step (P := ReadOn i) (readOn_new limit i) ?_ run
  intro before p q m reached read step
  exact read.of_connectionStep (connectionStep_of_run reached step i)

/-- A loop never goes back. -/
theorem taken_le_of_connectionStep (step : ConnectionStep i p m q) :
    (p.connection i).taken ≤ (q.connection i).taken := by
  cases step with
  | rests taken sent arrivals => exact Nat.le_of_eq taken.symm
  | takes next taken arrivals nothing sent =>
    rw [taken]
    exact Nat.le_succ _
  | responds job own known jobs taken arrivals nothing sent => exact Nat.le_of_eq taken.symm

/-! ## The lines of the lookups -/

/-- The lookup is for a line that its loop has taken and that reads as it. -/
structure Job.Read (moves : List Move) (p : Pool) (j : Job) : Prop where
  taken : j.line < (p.connection j.connection).taken
  reads : ∃ text, (arrivedOn moves j.connection)[j.line]? = some (.line text) ∧
    Request.ofLine text = .ok j.request

theorem Job.Read.looksUp {j : Job} (read : Job.Read moves p j) :
    LooksUp moves j.connection j.line := by
  obtain ⟨text, line, reads⟩ := read.reads
  exact ⟨_, line, text, j.request, rfl, reads⟩

/-- What was read stays read. -/
theorem Job.Read.of_step {j : Job} (read : Job.Read before p j)
    (step : ConnectionStep j.connection p m q) : Job.Read (before ++ [m]) q j where
  taken := Nat.lt_of_lt_of_le read.taken (taken_le_of_connectionStep step)
  reads := by
    obtain ⟨text, line, reads⟩ := read.reads
    exact ⟨text, getElem?_arrivedOn_extend line [m], reads⟩

/-- A lookup that comes to another stage is for the same line. -/
theorem Job.Read.setStage {j : Job} (read : Job.Read moves p j) (stage : Stage) :
    Job.Read moves p { j with stage } :=
  ⟨read.taken, read.reads⟩

/-- The lookup that is accepted is for the line that is taken. -/
theorem read_of_accept {text : String} {rest : List Arrival} {request : Request}
    (read : ReadOn i before p) (next : (p.connection i).arrivals = .line text :: rest)
    (reads : Request.ofLine text = .ok request)
    (taken : (q.connection i).taken = (p.connection i).taken + 1) :
    Job.Read (before ++ [m]) q { connection := i, line := (p.connection i).taken, request } where
  taken := by
    change (p.connection i).taken < (q.connection i).taken
    omega
  reads := ⟨text, read.getElem?_taken next [m], reads⟩

/-- Whatever the peers and the resolver do, every lookup is for a line that its loop has taken and
that reads as it. -/
theorem reads_of_run (run : (Pool.new limit).run moves = some p) :
    ∀ j ∈ p.jobs, Job.Read moves p j := by
  refine run_induction_step (P := fun moves p => ∀ j ∈ p.jobs, Job.Read moves p j)
    (List.forall_mem_nil _) ?_ run
  intro before p q m reached read step
  have old (j : Job) (member : j ∈ p.jobs) : Job.Read (before ++ [m]) q j :=
    (read j member).of_step (connectionStep_of_run reached step j.connection)
  have moved {x : Nat} {j : Job} (found : p.jobs[x]? = some j) (stage : Stage) :
      ∀ j' ∈ p.jobs.set x { j with stage }, Job.Read (before ++ [m]) q j' := by
    intro j' member
    rcases List.mem_or_eq_of_mem_set member with before | rfl
    · exact old j' before
    · exact (old j (List.mem_of_getElem? found)).setStage stage
  cases lookupStep_of_run reached step with
  | rests admits returns jobs free =>
    rw [jobs]
    exact old
  | accepts admits returns unstalled next reads taken jobs free =>
    rw [jobs, List.forall_mem_append, List.forall_mem_singleton]
    exact ⟨old, read_of_accept (readOn_of_run reached _) next reads taken⟩
  | grants move found waits left jobs free =>
    rw [jobs]
    exact moved found _
  | works admits returns found before after jobs free =>
    rw [jobs]
    exact moved found _
  | responds move found known jobs free =>
    rw [jobs]
    exact moved found _

end Pool

end NetControl.Lookup
