import NetControl.Lookup.Pool

/-!
# The accounts of one connection

For every line that the loop of a connection has taken, one of two things holds: a response that
belongs to the line was sent, or a lookup for the line has not ended yet. `Connection.Served` says
so by counting line numbers: those of the responses and those of the open lookups together are all
the numbers of the lines taken, each once. Each way in which a move of the pool can touch a
connection has its lemma here, and so has each way in which a move can open or close a line.
-/

namespace NetControl.Lookup

open Command

/-- What is left of a list begins with the next element. -/
theorem getElem?_of_drop_eq_cons {α : Type} {l rest : List α} {n : Nat} {a : α}
    (left : l.drop n = a :: rest) :
    l[n]? = some a ∧ n + 1 ≤ l.length ∧ l.drop (n + 1) = rest := by
  have first : l[n]? = some a := by
    have head := congrArg (·[0]?) left
    simpa using head
  refine ⟨first, (List.getElem?_eq_some_iff.mp first).1, ?_⟩
  rw [← List.drop_drop, left]
  rfl

/-! ## One connection -/

/-- The accounts of a connection `k` on which `arrived` has arrived and on which lookups for the
lines `opened` have not ended. -/
structure Connection.Served (arrived : List Arrival) (belongs : Nat → Bytes → Prop)
    (opened : List Nat) (k : Connection) : Prop where
  hears : k.deaf = false
  within : k.taken ≤ arrived.length
  /-- Nothing that arrived is passed over. -/
  left : arrived.drop k.taken = k.arrivals
  /-- Every line that was taken is answered or open, and only once. -/
  once : (k.sent.map Prod.fst ++ opened).Perm (List.range k.taken)
  belongs : ∀ x ∈ k.sent, belongs x.1 x.2
  /-- The loop ends after the last line or at one that is too long. -/
  stops : k.stopped = true → (k.arrivals = [] ∧ k.hungUp = true) ∨
    ∃ n, k.taken = n + 1 ∧ arrived[n]? = some .tooLong
  /-- The loop goes on past no line that is too long. -/
  refuses : ∀ n < k.taken, arrived[n]? = some .tooLong → k.stopped = true ∧ k.taken = n + 1

namespace Connection.Served

variable {arrived : List Arrival} {belongs belongs' : Nat → Bytes → Prop} {opened : List Nat}
  {k : Connection}

theorem new : Served [] belongs [] {} where
  hears := rfl
  within := Nat.le_refl 0
  left := rfl
  once := List.Perm.refl _
  belongs := List.forall_mem_nil _
  stops := nofun
  refuses := nofun

theorem mono (served : Served arrived belongs opened k)
    (weaker : ∀ n b, belongs n b → belongs' n b) : Served arrived belongs' opened k :=
  { served with belongs := fun x member => weaker _ _ (served.belongs x member) }

/-- The line that is taken next. -/
theorem getElem?_taken (served : Served arrived belongs opened k) {a : Arrival}
    {rest : List Arrival} (next : k.arrivals = a :: rest) :
    arrived[k.taken]? = some a ∧ k.taken + 1 ≤ arrived.length ∧
      arrived.drop (k.taken + 1) = rest :=
  getElem?_of_drop_eq_cons (served.left.trans next)

theorem arrive (served : Served arrived belongs opened k) (listening : k.hungUp = false)
    (more : List Arrival) :
    Served (arrived ++ more) belongs opened { k with arrivals := k.arrivals ++ more } where
  hears := served.hears
  within := by
    rw [List.length_append]
    exact Nat.le_add_right_of_le served.within
  left := by
    rw [List.drop_append_of_le_length served.within, served.left]
  once := served.once
  belongs := served.belongs
  stops stopped := by
    rcases served.stops stopped with ⟨-, hungUp⟩ | ⟨n, last, line⟩
    · rw [listening] at hungUp
      cases hungUp
    · refine Or.inr ⟨n, last, ?_⟩
      rw [List.getElem?_append_left (List.getElem?_eq_some_iff.mp line).1]
      exact line
  refuses n before line := by
    rw [List.getElem?_append_left (Nat.lt_of_lt_of_le before served.within)] at line
    exact served.refuses n before line

theorem hangUp (served : Served arrived belongs opened k) :
    Served arrived belongs opened { k with hungUp := true } :=
  { served with
    stops := fun stopped => by
      rcases served.stops stopped with ⟨empty, -⟩ | long
      · exact Or.inl ⟨empty, rfl⟩
      · exact Or.inr long }

theorem ends (served : Served arrived belongs opened k) (empty : k.arrivals = [])
    (hungUp : k.hungUp = true) : Served arrived belongs opened { k with stopped := true } :=
  { served with
    stops := fun _ => Or.inl ⟨empty, hungUp⟩
    refuses := fun n before line => ⟨rfl, (served.refuses n before line).2⟩ }

/-- With one more line taken, the numbers of the lines taken are those before and the next. -/
theorem once_succ (served : Served arrived belongs opened k) :
    ((k.sent.map Prod.fst ++ opened) ++ [k.taken]).Perm (List.range (k.taken + 1)) := by
  rw [List.range_succ]
  exact served.once.append_right [k.taken]

theorem offer_eq (served : Served arrived belongs opened k) (line : Nat) (b : Bytes) :
    k.offer line b = { k with sent := k.sent ++ [(line, b)] } := by
  unfold Connection.offer
  rw [served.hears]
  exact if_neg Bool.false_ne_true

/-- Up to the line that is taken next, only the last can have been too long. -/
theorem refuses_succ (served : Served arrived belongs opened k) (running : k.stopped = false)
    {n : Nat} (before : n < k.taken + 1) (long : arrived[n]? = some .tooLong) : n = k.taken := by
  rcases Nat.lt_succ_iff_lt_or_eq.mp before with earlier | last
  · have stopped := (served.refuses n earlier long).1
    rw [running] at stopped
    cases stopped
  · exact last

/-- The connection after its loop has answered the next line itself. -/
theorem reject_eq (served : Served arrived belongs opened k) (rest : List Arrival)
    (r : Rejection) :
    k.reject rest r =
      { k with
        sent := k.sent ++ [(k.taken, (r.response (Client.new false)).encode)]
        arrivals := rest, taken := k.taken + 1, stopped := false } := by
  unfold Connection.reject
  rw [served.offer_eq, served.hears]

theorem once_reject (served : Served arrived belongs opened k) (b : Bytes) :
    ((k.sent ++ [(k.taken, b)]).map Prod.fst ++ opened).Perm (List.range (k.taken + 1)) := by
  rw [List.map_append, List.append_assoc]
  refine List.Perm.trans ?_ served.once_succ
  rw [List.append_assoc]
  exact List.Perm.append_left _ List.perm_append_comm

theorem belongs_append (served : Served arrived belongs opened k) {line : Nat} {b : Bytes}
    (own : belongs line b) : ∀ x ∈ k.sent ++ [(line, b)], belongs x.1 x.2 := by
  rw [List.forall_mem_append]
  exact ⟨served.belongs, List.forall_mem_singleton.mpr own⟩

/-- The loop answers a line itself. -/
theorem rejects (served : Served arrived belongs opened k) (running : k.stopped = false)
    {text : String} {rest : List Arrival} {r : Rejection}
    (next : k.arrivals = .line text :: rest)
    (own : belongs k.taken (r.response (Client.new false)).encode) :
    Served arrived belongs opened (k.reject rest r) := by
  obtain ⟨line, within, left⟩ := served.getElem?_taken next
  rw [served.reject_eq]
  refine ⟨served.hears, within, left, served.once_reject _, served.belongs_append own, nofun, ?_⟩
  intro n before long
  rw [served.refuses_succ running before long, line] at long
  cases long

/-- The loop ends at a line that is too long. -/
theorem refused (served : Served arrived belongs opened k) (running : k.stopped = false)
    {rest : List Arrival} (next : k.arrivals = .tooLong :: rest)
    (own : belongs k.taken (Pool.tooLong.response (Client.new false)).encode) :
    Served arrived belongs opened { k.reject rest Pool.tooLong with stopped := true } := by
  obtain ⟨line, within, left⟩ := served.getElem?_taken next
  rw [served.reject_eq]
  refine ⟨served.hears, within, left, served.once_reject _, served.belongs_append own, ?_, ?_⟩
  · exact fun _ => Or.inr ⟨k.taken, rfl, line⟩
  · intro n before long
    rw [served.refuses_succ running before long]
    exact ⟨rfl, rfl⟩

/-- The loop takes a line as a lookup. -/
theorem accepts (served : Served arrived belongs opened k) (running : k.stopped = false)
    {text : String} {rest : List Arrival} (next : k.arrivals = .line text :: rest) :
    Served arrived belongs (opened ++ [k.taken])
      { k with arrivals := rest, taken := k.taken + 1 } := by
  obtain ⟨line, within, left⟩ := served.getElem?_taken next
  refine ⟨served.hears, within, left, ?_, served.belongs, ?_, ?_⟩
  · rw [← List.append_assoc]
    exact served.once_succ
  · intro stopped
    rw [running] at stopped
    cases stopped
  · intro n before long
    rw [served.refuses_succ running before long, line] at long
    cases long

/-- A lookup writes its response and ends. -/
theorem responds {line : Nat} {before after : List Nat}
    (served : Served arrived belongs (before ++ line :: after) k) {b : Bytes}
    (own : belongs line b) : Served arrived belongs (before ++ after) (k.offer line b) := by
  rw [served.offer_eq]
  refine ⟨served.hears, served.within, served.left, ?_, served.belongs_append own, served.stops,
    served.refuses⟩
  refine List.Perm.trans ?_ served.once
  rw [List.map_append, List.append_assoc, List.map_singleton, List.singleton_append]
  exact List.Perm.append_left _ List.perm_middle.symm

end Connection.Served

/-! ## Lookups that have not ended -/

/-- The line of a lookup of connection `i` that has not ended. -/
def Job.openLine? (i : Nat) (j : Job) : Option Nat :=
  if j.connection = i ∧ j.stage.isEnded = false then some j.line else none

/-- The lines of connection `i` whose lookups have not ended. -/
def openLines (jobs : List Job) (i : Nat) : List Nat :=
  jobs.filterMap (Job.openLine? i)

/-- A list around one of its elements, which may be replaced. -/
theorem exists_split_of_getElem? {α : Type} {l : List α} {x : Nat} {a : α}
    (found : l[x]? = some a) :
    ∃ before after, l = before ++ a :: after ∧ ∀ b, l.set x b = before ++ b :: after := by
  obtain ⟨inside, same⟩ := List.getElem?_eq_some_iff.mp found
  refine ⟨l.take x, l.drop (x + 1), ?_, fun b => ?_⟩
  · rw [← same, ← List.drop_eq_getElem_cons inside, List.take_append_drop]
  · rw [List.set_eq_take_append_cons_drop, if_pos inside]

/-- Moving a lookup from one stage to another before it ends opens and closes no line. -/
theorem openLines_setStage {jobs : List Job} {x : Nat} {j : Job} (found : jobs[x]? = some j)
    {stage : Stage} (same : stage.isEnded = j.stage.isEnded) (i : Nat) :
    openLines (jobs.set x { j with stage }) i = openLines jobs i := by
  obtain ⟨before, after, split, replaced⟩ := exists_split_of_getElem? found
  have line : Job.openLine? i { j with stage } = Job.openLine? i j := by
    unfold Job.openLine?
    rw [same]
  unfold openLines
  rw [replaced, split, List.filterMap_append, List.filterMap_append, List.filterMap_cons,
    List.filterMap_cons, line]

/-- A lookup that ends closes its line. -/
theorem openLines_end {jobs : List Job} {x : Nat} {j : Job} (found : jobs[x]? = some j)
    (unended : j.stage.isEnded = false) (a : Answer) (delivered : Bool) :
    ∃ before after, openLines jobs j.connection = before ++ j.line :: after ∧
      openLines (jobs.set x { j with stage := .ended a delivered }) j.connection =
        before ++ after := by
  obtain ⟨before, after, split, replaced⟩ := exists_split_of_getElem? found
  have line : Job.openLine? j.connection j = some j.line := if_pos ⟨rfl, unended⟩
  have gone : Job.openLine? j.connection { j with stage := .ended a delivered } = none :=
    if_neg fun both => Bool.noConfusion both.2
  refine ⟨openLines before j.connection, openLines after j.connection, ?_, ?_⟩
  · unfold openLines
    rw [split, List.filterMap_append, List.filterMap_cons_some line]
  · unfold openLines
    rw [replaced, List.filterMap_append, List.filterMap_cons_none gone]

/-- A lookup that ends closes no line of another connection. -/
theorem openLines_end_of_other {jobs : List Job} {x i : Nat} {j : Job}
    (found : jobs[x]? = some j) (other : j.connection ≠ i) (stage : Stage) :
    openLines (jobs.set x { j with stage }) i = openLines jobs i := by
  obtain ⟨before, after, split, replaced⟩ := exists_split_of_getElem? found
  have neither (s : Stage) : Job.openLine? i { j with stage := s } = none :=
    if_neg fun both => other both.1
  unfold openLines
  rw [replaced, split, List.filterMap_append, List.filterMap_append,
    List.filterMap_cons_none (neither stage), List.filterMap_cons_none (neither j.stage)]

/-- A new lookup opens its line. -/
theorem openLines_append (jobs : List Job) (i n : Nat) (request : Request) (i' : Nat) :
    openLines (jobs ++ [{ connection := i, line := n, request }]) i' =
      openLines jobs i' ++ if i = i' then [n] else [] := by
  unfold openLines
  rw [List.filterMap_append]
  by_cases same : i = i'
  · simp [Job.openLine?, Stage.isEnded, same]
  · simp [Job.openLine?, same]

/-- Where every lookup has ended, no line is open. -/
theorem openLines_of_ended {jobs : List Job} {i : Nat}
    (ended : ∀ j ∈ jobs, j.connection = i → j.stage.isEnded = true) : openLines jobs i = [] := by
  unfold openLines
  rw [List.filterMap_eq_nil_iff]
  intro j member
  refine if_neg fun both => ?_
  rw [ended j member both.1] at both
  exact Bool.noConfusion both.2

end NetControl.Lookup
