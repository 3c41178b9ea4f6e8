import NetControl.Proofs.Lookup.Permits
import NetControl.Proofs.Lookup.Reading

/-!
# The order of the responses

The loop of a connection waits with a lookup that waits, so that of two lookups of one connection
the earlier one has its permit when the later one is accepted. With a single permit the earlier one
has even ended before the later one gets it (`Pool.InTurn`), because a permit is held until the
response was offered. Then the responses of a connection come in the order of its requests.

* `Pool.admission_of_run`: how many lookups are admitted at once, how often each takes and returns a
  permit, and the order of the responses under a single permit.
-/

namespace NetControl.Lookup.Pool

open Command

variable {limit i : Nat} {moves before : List Move} {p q : Pool} {m : Move}

/-! ## Lookups of one connection -/

/-- Of two lookups of one connection the earlier one is for an earlier line and does not wait; with
a single permit, it has ended unless the later one waits. -/
def InTurn (limit : Nat) (p : Pool) : Prop :=
  ∀ (x y : Nat) (a b : Job), x < y → p.jobs[x]? = some a → p.jobs[y]? = some b →
    a.connection = b.connection →
      a.line < b.line ∧ a.stage ≠ .queued ∧
        (capacity limit = 1 → b.stage ≠ .queued → a.stage.isEnded = true)

/-- While no permit is held, a lookup that does not wait has ended. -/
theorem isEnded_of_held {j : Job} (member : j ∈ p.jobs) (none : p.held = 0)
    (admitted : j.stage ≠ .queued) : j.stage.isEnded = true := by
  have idle := List.countP_eq_zero.mp none j member
  cases stage : j.stage with
  | queued => exact (admitted stage).elim
  | ended a delivered => rfl
  | _ =>
    rw [stage] at idle
    exact (idle rfl).elim

/-- A lookup that gets a permit or goes on keeps the order, if no permit was held when it got the
only one. -/
theorem InTurn.set (ordered : InTurn limit p) {x : Nat} {j : Job} {stage : Stage}
    (found : p.jobs[x]? = some j) (jobs : q.jobs = p.jobs.set x { j with stage })
    (goes : stage ≠ .queued) (ends : j.stage.isEnded = true → stage.isEnded = true)
    (alone : capacity limit = 1 → j.stage = .queued → p.held = 0) : InTurn limit q := by
  intro y z a b earlier first second same
  rw [jobs, getElem?_set_of_found found] at first second
  by_cases isFirst : x = y
  · have other : x ≠ z := by omega
    rw [if_pos isFirst] at first
    rw [if_neg other] at second
    cases first
    obtain ⟨lines, -, turn⟩ := ordered x z j b (by omega) found second same
    exact ⟨lines, goes, fun single admitted => ends (turn single admitted)⟩
  · rw [if_neg isFirst] at first
    by_cases isSecond : x = z
    · rw [if_pos isSecond] at second
      cases second
      obtain ⟨lines, admitted, turn⟩ := ordered y x a j (by omega) first found same
      refine ⟨lines, admitted, fun single _ => ?_⟩
      by_cases waits : j.stage = .queued
      · exact isEnded_of_held (List.mem_of_getElem? first) (alone single waits) admitted
      · exact turn single waits
    · rw [if_neg isSecond] at second
      exact ordered y z a b earlier first second same

/-- A lookup is accepted behind all others of its connection, none of which waits. -/
theorem InTurn.append (ordered : InTurn limit p) (reads : ∀ j ∈ p.jobs, Job.Read moves p j)
    (unstalled : p.isStalled i = false) {request : Request}
    (jobs : q.jobs = p.jobs ++ [{ connection := i, line := (p.connection i).taken, request }]) :
    InTurn limit q := by
  intro x y a b earlier first second same
  rw [jobs] at first second
  have inside := (List.getElem?_eq_some_iff.mp second).1
  rw [List.length_append, List.length_singleton] at inside
  rw [List.getElem?_append_left (by omega)] at first
  by_cases last : y < p.jobs.length
  · rw [List.getElem?_append_left last] at second
    exact ordered x y a b earlier first second same
  · rw [List.getElem?_append_right (by omega)] at second
    have fresh := List.mem_singleton.mp (List.mem_of_getElem? second)
    subst fresh
    have member := List.mem_of_getElem? first
    have taken := (reads a member).taken
    rw [same] at taken
    refine ⟨taken, fun waits => ?_, fun _ admitted => (admitted rfl).elim⟩
    rw [← Bool.not_eq_true] at unstalled
    refine unstalled (List.any_eq_true.mpr ⟨a, member, ?_⟩)
    simp [same, waits]

theorem inTurn_new (limit : Nat) : InTurn limit (Pool.new limit) := by
  intro x y a b earlier first
  cases first

theorem inTurn_of_run (run : (Pool.new limit).run moves = some p) : InTurn limit p := by
  refine run_induction_step (P := fun _ p => InTurn limit p) (inTurn_new limit) ?_ run
  intro before p q m reached ordered step
  have permits := permits_of_run reached
  cases lookupStep_of_run reached step with
  | rests admits returns jobs free =>
    unfold InTurn
    rw [jobs]
    exact ordered
  | accepts admits returns unstalled next reads taken jobs free =>
    exact ordered.append (reads_of_run reached) unstalled jobs
  | grants move found waits left jobs free =>
    refine ordered.set found jobs nofun (fun ended => ?_) fun single _ => ?_
    · rw [waits] at ended
      cases ended
    · omega
  | works admits returns found holds holds' jobs free =>
    have goes := ne_queued_of_holdsPermit holds'
    refine ordered.set found jobs goes (fun ended => ?_) fun _ waits => ?_
    · rw [isEnded_of_holdsPermit holds] at ended
      cases ended
    · exact (ne_queued_of_holdsPermit holds waits).elim
  | responds move found known jobs free =>
    refine ordered.set found jobs nofun (fun _ => rfl) fun _ waits => ?_
    rw [known] at waits
    cases waits

/-! ## The responses of one connection -/

/-- Of the lookups of one connection, those that have ended are the earlier ones under a single
permit. -/
theorem InTurn.line_lt (ordered : InTurn limit p) (single : capacity limit = 1) {x : Nat}
    {j j' : Job} (found : p.jobs[x]? = some j)
    (unended : j.stage.isEnded = false) (member : j' ∈ p.jobs)
    (ended : j'.stage.isEnded = true) (same : j'.connection = j.connection) : j'.line < j.line := by
  obtain ⟨y, found'⟩ := List.getElem?_of_mem member
  rcases Nat.lt_trichotomy y x with earlier | here | later
  · exact (ordered y x j' j earlier found' found same).1
  · rw [here, found] at found'
    cases found'
    rw [unended] at ended
    cases ended
  · have admitted : j'.stage ≠ .queued := by
      intro waits
      rw [waits] at ended
      cases ended
    have first := (ordered x y j j' later found found' same.symm).2.2 single admitted
    rw [unended] at first
    cases first

/-- The responses `sent` on connection `i`, of whose lines `taken` are taken: each that answers a
lookup was sent when that lookup ended, and with a single permit they are in the order of their
lines. -/
structure SentInTurn (limit i taken : Nat) (moves : List Move) (jobs : List Job)
    (sent : List (Nat × Bytes)) : Prop where
  taken : ∀ e ∈ sent, e.1 < taken
  ended : ∀ e ∈ sent, LooksUp moves i e.1 →
    ∃ j ∈ jobs, j.connection = i ∧ j.line = e.1 ∧ j.stage.isEnded = true
  turns : capacity limit = 1 →
    sent.Pairwise fun e e' => LooksUp moves i e.1 → LooksUp moves i e'.1 → e.1 < e'.1

/-- A lookup that has ended stays as it is. -/
theorem mem_of_lookupStep (step : p.LookupStep m q) {j : Job} (member : j ∈ p.jobs)
    (ended : j.stage.isEnded = true) : j ∈ q.jobs := by
  have kept {x : Nat} {j' : Job} (found : p.jobs[x]? = some j') (unended : j'.stage.isEnded = false)
      (stage : Stage) : j ∈ p.jobs.set x { j' with stage } := by
    obtain ⟨y, found'⟩ := List.getElem?_of_mem member
    have other : x ≠ y := by
      rintro rfl
      rw [found] at found'
      cases found'
      rw [unended] at ended
      cases ended
    refine List.mem_of_getElem? (i := y) ?_
    rw [getElem?_set_of_found found, if_neg other, found']
  cases step with
  | rests admits returns jobs free =>
    rw [jobs]
    exact member
  | accepts admits returns unstalled next reads taken jobs free =>
    rw [jobs]
    exact List.mem_append_left _ member
  | grants move found waits left jobs free =>
    rw [jobs]
    exact kept found (waits ▸ rfl) _
  | works admits returns found before after jobs free =>
    rw [jobs]
    exact kept found (isEnded_of_holdsPermit before) _
  | responds move found known jobs free =>
    rw [jobs]
    exact kept found (known ▸ rfl) _

namespace SentInTurn

variable {n n' : Nat} {jobs : List Job} {sent : List (Nat × Bytes)}

theorem nil : SentInTurn limit i n moves jobs [] where
  taken e member := by cases member
  ended e member := by cases member
  turns _ := List.Pairwise.nil

/-- Which of the lines answered are lookups does not change. -/
theorem looksUp_iff (ordered : SentInTurn limit i n before jobs sent)
    (within : n ≤ (arrivedOn before i).length) (m : Move) {e : Nat × Bytes} (member : e ∈ sent) :
    LooksUp (before ++ [m]) i e.1 ↔ LooksUp before i e.1 :=
  looksUp_concat (Nat.lt_of_lt_of_le (ordered.taken e member) within) m

/-- What was sent stays in order. -/
theorem later (ordered : SentInTurn limit i n before p.jobs sent)
    (within : n ≤ (arrivedOn before i).length) (step : p.LookupStep m q) (more : n ≤ n') :
    SentInTurn limit i n' (before ++ [m]) q.jobs sent where
  taken e member := Nat.lt_of_lt_of_le (ordered.taken e member) more
  ended e member lookup := by
    obtain ⟨j, inside, own, line, ended⟩ :=
      ordered.ended e member ((ordered.looksUp_iff within m member).mp lookup)
    exact ⟨j, mem_of_lookupStep step inside ended, own, line, ended⟩
  turns single := by
    refine (ordered.turns single).imp_of_mem ?_
    intro e e' member member' turn lookup lookup'
    exact turn ((ordered.looksUp_iff within m member).mp lookup)
      ((ordered.looksUp_iff within m member').mp lookup')

/-- One more response keeps the order if, where it answers a lookup, that lookup has ended and is
for a later line than those answered before. -/
theorem concat (ordered : SentInTurn limit i n moves jobs sent) {line : Nat} (taken : line < n)
    (ended : LooksUp moves i line →
      ∃ j ∈ jobs, j.connection = i ∧ j.line = line ∧ j.stage.isEnded = true)
    (last : capacity limit = 1 → LooksUp moves i line →
      ∀ e ∈ sent, LooksUp moves i e.1 → e.1 < line) (b : Bytes) :
    SentInTurn limit i n moves jobs (sent ++ [(line, b)]) where
  taken := List.forall_mem_append.mpr ⟨ordered.taken, List.forall_mem_singleton.mpr taken⟩
  ended := List.forall_mem_append.mpr ⟨ordered.ended, List.forall_mem_singleton.mpr ended⟩
  turns single := by
    rw [List.pairwise_append]
    refine ⟨ordered.turns single, List.pairwise_singleton _ _, ?_⟩
    intro e member e' new lookup lookup'
    rw [List.mem_singleton.mp new] at lookup' ⊢
    exact last single lookup' e member lookup

/-- A move keeps the responses of a connection in order. -/
theorem of_step (reached : (Pool.new limit).run before = some p) (step : p.step m = some q)
    (ordered : SentInTurn limit i (p.connection i).taken before p.jobs (p.connection i).sent) :
    SentInTurn limit i (q.connection i).taken (before ++ [m]) q.jobs (q.connection i).sent := by
  have read := readOn_of_run reached i
  have passage := connectionStep_of_run reached step i
  have kept := ordered.later read.within (lookupStep_of_run reached step)
    (taken_le_of_connectionStep passage)
  cases passage with
  | rests taken sent arrivals =>
    rw [sent]
    exact kept
  | @takes a rest next taken arrivals nothing sent =>
    rcases sent with same | ⟨other, b, sent⟩
    · rw [same]
      exact kept
    · -- The line that the loop answers itself is none of a lookup.
      have rejected : ¬LooksUp (before ++ [m]) i (p.connection i).taken := by
        rintro ⟨a', line, lookup⟩
        have line' := read.getElem?_taken next [m]
        rw [line] at line'
        cases line'
        exact other lookup
      rw [sent]
      refine kept.concat (by omega) (fun lookup => (rejected lookup).elim) ?_ b
      exact fun _ lookup => (rejected lookup).elim
  | @responds x j a delivered job own known jobs taken arrivals nothing sent =>
    rcases sent with same | ⟨b, sent⟩
    · rw [same]
      exact kept
    · have inside := (reads_of_run reached j (List.mem_of_getElem? job)).taken
      rw [own] at inside
      rw [sent]
      refine kept.concat (by omega) (fun _ => ?_) (fun single _ e member lookup => ?_) b
      · refine ⟨{ j with stage := .ended a delivered }, ?_, own, rfl, rfl⟩
        rw [jobs]
        exact List.mem_set (List.getElem?_eq_some_iff.mp job).1 _
      · obtain ⟨j', member', own', line, ended⟩ :=
          ordered.ended e member ((ordered.looksUp_iff read.within m member).mp lookup)
        rw [← line]
        exact (inTurn_of_run reached).line_lt single job (known ▸ rfl) member' ended
          (own'.trans own.symm)

end SentInTurn

theorem sentInTurn_of_run (run : (Pool.new limit).run moves = some p) (i : Nat) :
    SentInTurn limit i (p.connection i).taken moves p.jobs (p.connection i).sent := by
  refine run_induction_step (P := fun moves p =>
    SentInTurn limit i (p.connection i).taken moves p.jobs (p.connection i).sent) .nil ?_ run
  intro before p q m reached ordered step
  exact ordered.of_step reached step

/-! ## Admission -/

/-- The permits are never closed to a lookup. -/
theorem step_giveUp_of_run (run : (Pool.new limit).run moves = some p) (x : Nat) :
    p.step (.giveUp x) = none := by
  rw [Option.eq_none_iff_forall_not_mem]
  intro q step
  cases transition_of_step step with
  | givesUp found waits closed connected events =>
    rw [closed_of_run run] at closed
    cases closed

/-- They could be closed to one: then its loop would answer it. -/
example : (((Pool.new 1).run
    [.connect, .arrive 0 [.line "gethostbyname 1 ^ localhost 2"], .take 0]).bind fun p =>
      step { p with closed := true } (.giveUp 0)).isSome = true := by
  decide +kernel

/-- In every run, whatever the peers and the resolver do: the free permits and those that lookups
hold are as many as the limit says, and one where it says none, so that no more lookups than that
are ever between their admission and the end of their response. Every lookup takes a permit once,
when it no longer waits, and gives it back once, when it has ended; no other move changes the free
permits, and no lookup finds them closed. Only what reads as a lookup takes a permit. With a single
permit, the responses of a connection to its lookups are in the order of its lines. -/
theorem admission_of_run (run : (Pool.new limit).run moves = some p) :
    (p.free + p.held = max 1 limit ∧ p.held ≤ max 1 limit) ∧
      (∀ x, (moves.filterMap Move.admits?).count x = permitsTaken p.jobs[x]? ∧
        (moves.filterMap Move.returns?).count x = permitsReturned p.jobs[x]?) ∧
      (∀ m q, p.step m = some q →
        q.free + (if m.admits?.isSome then 1 else 0) =
          p.free + if m.returns?.isSome then 1 else 0) ∧
      (∀ x, p.step (.giveUp x) = none) ∧
      (∀ x ∈ moves.filterMap Move.admits?,
        ∃ j, p.jobs[x]? = some j ∧ LooksUp moves j.connection j.line) ∧
      (max 1 limit = 1 → ∀ (i : Nat) (k : Connection), p.connections[i]? = some k →
        k.sent.Pairwise fun e e' =>
          LooksUp moves i e.1 → LooksUp moves i e'.1 → e.1 < e'.1) := by
  have permits : p.free + p.held = max 1 limit := permits_of_run run
  refine ⟨⟨permits, by omega⟩, counts_of_run run, ?_, step_giveUp_of_run run, ?_, ?_⟩
  · exact fun m q step => free_of_lookupStep (lookupStep_of_run run step)
  · intro x admitted
    have taken := (counts_of_run run x).1
    have once : 0 < (moves.filterMap Move.admits?).count x := List.count_pos_iff.mpr admitted
    cases found : p.jobs[x]? with
    | none =>
      rw [taken, found] at once
      cases once
    | some j => exact ⟨j, rfl, (reads_of_run run j (List.mem_of_getElem? found)).looksUp⟩
  · intro single i k connection
    have turns := (sentInTurn_of_run run i).turns single
    rw [connection_of_found connection] at turns
    exact turns

/-- A lookup over which the resolver breaks down, a line that is none, a lookup whose response the
peer does not take, and one that is still with the resolver, for a single permit. -/
def mishaps : List Move :=
  let nothing : Resolver := ⟨fun _ _ _ _ => .ok [], fun _ _ _ => .ok {}, fun _ _ _ => .ok {},
    fun _ _ => []⟩
  let lookup : Arrival := .line "gethostbyname 1 ^ localhost 2"
  [.connect, .arrive 0 [lookup, .line "nonsense", lookup, lookup],
    .take 0, .grant 0, .take 0, .ask 0, .breakDown 0, .respond 0,
    .take 0, .grant 1, .take 0, .ask 1, .resolve 1 nothing, .deafen 0, .respond 1,
    .grant 2, .ask 2]

/-- The permit was taken three times and given back twice, and the last lookup holds it. -/
theorem admission_of_mishaps :
    ∃ p, (Pool.new 0).run mishaps = some p ∧ p.free = 0 ∧ p.held = 1 ∧
      p.free + p.held = max 1 0 ∧
      mishaps.filterMap Move.admits? = [0, 1, 2] ∧ mishaps.filterMap Move.returns? = [0, 1] ∧
      (∀ x, (mishaps.filterMap Move.returns?).count x = permitsReturned p.jobs[x]?) ∧
      (∃ k, p.connections[0]? = some k ∧ k.sent.map Prod.fst = [1, 0] ∧
        k.sent.Pairwise fun e e' =>
          LooksUp mishaps 0 e.1 → LooksUp mishaps 0 e'.1 → e.1 < e'.1) := by
  have outcome : ((Pool.new 0).run mishaps).map (fun p =>
      (p.free, p.held, p.connections.map fun k => k.sent.map Prod.fst)) =
        some (0, 1, [[1, 0]]) := by
    decide +kernel
  obtain ⟨p, run, facts⟩ := Option.map_eq_some_iff.mp outcome
  obtain ⟨free, rest⟩ := Prod.mk.inj facts
  obtain ⟨held, sent⟩ := Prod.mk.inj rest
  obtain ⟨k, others, connections, first, -⟩ := List.map_eq_cons_iff.mp sent
  have connection : p.connections[0]? = some k := by
    rw [connections]
    rfl
  obtain ⟨⟨permits, -⟩, counts, -, -, -, turns⟩ := admission_of_run run
  exact ⟨p, run, free, held, permits, rfl, rfl, fun x => (counts x).2, k, connection, first,
    turns rfl 0 k connection⟩

end NetControl.Lookup.Pool
