import NetControl.Proofs.Lookup.Passage

/-!
# The account of the permits

A permit is free, or one lookup holds it. It is taken when a lookup that waits gets it, and given
back when that lookup has offered its response to the peer, by whatever way it came to the response
and whether or not the peer takes it. `Pool.permits_of_run` keeps the sum, and `Pool.counts_of_run`
counts for each lookup how often it took a permit and how often it gave one back.
-/

namespace NetControl.Lookup.Pool

variable {limit : Nat} {moves : List Move} {p q : Pool} {m : Move}

/-! ## The sum -/

theorem held_of_set {x : Nat} {j : Job} {stage : Stage} (found : p.jobs[x]? = some j)
    (jobs : q.jobs = p.jobs.set x { j with stage }) :
    q.held + j.stage.holdsPermit.toNat = p.held + stage.holdsPermit.toNat := by
  rw [← held_setStage found stage]
  unfold held setStage
  rw [jobs]

/-- A move takes a permit, gives one back, or leaves the permits alone. -/
theorem free_of_lookupStep (step : p.LookupStep m q) :
    q.free + (if m.admits?.isSome then 1 else 0) =
      p.free + if m.returns?.isSome then 1 else 0 := by
  cases step with
  | rests admits returns jobs free =>
    rw [admits, returns, free]
  | accepts admits returns unstalled next reads taken jobs free =>
    rw [admits, returns, free]
  | grants move found waits left jobs free =>
    rw [move, free]
    change p.free - 1 + 1 = p.free + 0
    omega
  | works admits returns found before after jobs free =>
    rw [admits, returns, free]
  | responds move found known jobs free =>
    rw [move, free]
    rfl

theorem permits_of_lookupStep (step : p.LookupStep m q) : q.free + q.held = p.free + p.held := by
  cases step with
  | rests admits returns jobs free =>
    unfold held
    rw [jobs, free]
  | accepts admits returns unstalled next reads taken jobs free =>
    unfold held
    rw [jobs, free, List.countP_append]
    rfl
  | grants move found waits left jobs free =>
    have held := held_of_set found jobs
    rw [waits] at held
    change q.held + 0 = p.held + 1 at held
    omega
  | works admits returns found before after jobs free =>
    have held := held_of_set found jobs
    rw [before, after] at held
    omega
  | responds move found known jobs free =>
    have held := held_of_set found jobs
    rw [known] at held
    change q.held + 1 = p.held + 0 at held
    omega

/-- No permit is lost, whatever the peers and the resolver do. -/
theorem permits_of_run (run : (Pool.new limit).run moves = some p) :
    p.free + p.held = capacity limit := by
  refine run_induction_step (P := fun _ p => p.free + p.held = capacity limit) rfl ?_ run
  intro before p q m reached permits step
  rw [permits_of_lookupStep (lookupStep_of_run reached step)]
  exact permits

/-! ## Lookup by lookup -/

/-- How many permits a lookup has taken. -/
def permitsTaken : Option Job → Nat
  | some j => if j.stage = .queued then 0 else 1
  | none => 0

/-- How many permits a lookup has given back. -/
def permitsReturned : Option Job → Nat
  | some j => if j.stage.isEnded then 1 else 0
  | none => 0

theorem ne_queued_of_holdsPermit {stage : Stage} (holds : stage.holdsPermit = true) :
    stage ≠ .queued := by
  intro waits
  rw [waits] at holds
  cases holds

theorem isEnded_of_holdsPermit {stage : Stage} (holds : stage.holdsPermit = true) :
    stage.isEnded = false := by
  cases stage with
  | ended a delivered => cases holds
  | _ => rfl

theorem permitsTaken_of_holdsPermit {j : Job} (holds : j.stage.holdsPermit = true) :
    permitsTaken (some j) = 1 :=
  if_neg (ne_queued_of_holdsPermit holds)

theorem permitsReturned_of_holdsPermit {j : Job} (holds : j.stage.holdsPermit = true) :
    permitsReturned (some j) = 0 := by
  refine if_neg ?_
  rw [isEnded_of_holdsPermit holds]
  exact Bool.false_ne_true

theorem getElem?_set_of_found {l : List Job} {x : Nat} {j : Job} (found : l[x]? = some j) (j' : Job)
    (y : Nat) : (l.set x j')[y]? = if x = y then some j' else l[y]? := by
  rw [List.getElem?_set, if_pos (List.getElem?_eq_some_iff.mp found).1]

/-- A lookup that has just been accepted has taken no permit. -/
theorem permits_append {f : Option Job → Nat} {j : Job} (new : f (some j) = 0) (none : f none = 0)
    (jobs : List Job) (y : Nat) : f (jobs ++ [j])[y]? = f jobs[y]? := by
  rw [List.getElem?_append]
  split
  · rfl
  · next outside =>
    rw [List.getElem?_eq_none (Nat.not_lt.mp outside), none]
    cases y - jobs.length with
    | zero => exact new
    | succ n => exact none

/-- A move counts for the lookup that it is about. -/
theorem counts_of_lookupStep (step : p.LookupStep m q) (y : Nat) :
    permitsTaken q.jobs[y]? = permitsTaken p.jobs[y]? + m.admits?.toList.count y ∧
      permitsReturned q.jobs[y]? = permitsReturned p.jobs[y]? + m.returns?.toList.count y := by
  cases step with
  | rests admits returns jobs free =>
    rw [admits, returns, jobs]
    exact ⟨rfl, rfl⟩
  | accepts admits returns unstalled next reads taken jobs free =>
    rw [admits, returns, jobs]
    exact ⟨permits_append rfl rfl _ _, permits_append rfl rfl _ _⟩
  | @grants x j move found waits left jobs free =>
    rw [move, jobs, getElem?_set_of_found found]
    by_cases here : x = y
    · subst here
      rw [if_pos rfl, found]
      simp [permitsTaken, permitsReturned, Move.admits?, Move.returns?, waits, Stage.isEnded]
    · rw [if_neg here]
      simp [Move.admits?, Move.returns?, here]
  | @works x j stage admits returns found before after jobs free =>
    rw [admits, returns, jobs, getElem?_set_of_found found]
    by_cases here : x = y
    · subst here
      rw [if_pos rfl, found, permitsTaken_of_holdsPermit before,
        permitsReturned_of_holdsPermit before]
      exact ⟨permitsTaken_of_holdsPermit after, permitsReturned_of_holdsPermit after⟩
    · rw [if_neg here]
      exact ⟨rfl, rfl⟩
  | @responds x j a delivered move found known jobs free =>
    rw [move, jobs, getElem?_set_of_found found]
    by_cases here : x = y
    · subst here
      rw [if_pos rfl, found]
      simp [permitsTaken, permitsReturned, Move.admits?, Move.returns?, known, Stage.isEnded]
    · rw [if_neg here]
      simp [Move.admits?, Move.returns?, here]

theorem filterMap_append_singleton {α β : Type} (f : α → Option β) (l : List α) (a : α) :
    (l ++ [a]).filterMap f = l.filterMap f ++ (f a).toList := by
  rw [List.filterMap_append]
  cases found : f a <;> simp [found]

/-- A lookup takes a permit once, unless it still waits, and gives it back once it has ended, by
whatever way and just once. -/
theorem counts_of_run (run : (Pool.new limit).run moves = some p) (x : Nat) :
    (moves.filterMap Move.admits?).count x = permitsTaken p.jobs[x]? ∧
      (moves.filterMap Move.returns?).count x = permitsReturned p.jobs[x]? := by
  refine run_induction_step (P := fun moves p =>
    (moves.filterMap Move.admits?).count x = permitsTaken p.jobs[x]? ∧
      (moves.filterMap Move.returns?).count x = permitsReturned p.jobs[x]?) ⟨rfl, rfl⟩ ?_ run
  rintro before p q m reached ⟨taken, returned⟩ step
  have counts := counts_of_lookupStep (lookupStep_of_run reached step) x
  rw [filterMap_append_singleton, filterMap_append_singleton, List.count_append,
    List.count_append, taken, returned]
  exact ⟨counts.1.symm, counts.2.symm⟩

end NetControl.Lookup.Pool
