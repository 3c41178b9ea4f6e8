import NetControl.Lifecycle.Shutdown
import NetControl.Proofs.Lifecycle.Counting

/-!
# Pulls of the shutdown trigger

`Shutdown.Transition` lists, case by case, what each move of the shutdown trigger finds and where it
leads. Three things are drawn from it. Pulls get room in turn: while the owner has not been woken,
those are over that have a message in the channel, and they were the first ones
(`Shutdown.Accounted`). The owner has been woken by a pull or by a signal, and by nothing else
(`Shutdown.Remembered`). And whatever was asked before, the trigger comes to rest
(`Shutdown.atRest_settle`). `Shutdown.shutdown_settles` says what is the case at rest.
-/

namespace NetControl.Lifecycle

section Channels

variable {α : Type} {a : α}

theorem Queue.receive_eq_value {c : Queue α} (received : c.receive = .value a) :
    a ∈ c.messages := by
  unfold Queue.receive at received
  split at received
  · next b rest messages =>
    cases received
    rw [messages]
    exact List.mem_cons_self
  · split at received <;> cases received

theorem Queue.receive_eq_ended {c : Queue α} (received : c.receive = .ended) : c.senders = 0 := by
  unfold Queue.receive at received
  split at received
  · cases received
  · split at received
    · assumption
    · cases received

theorem Queue.receive_ne_nothing {c : Queue α} (some : c.messages ≠ []) : c.receive ≠ .nothing := by
  unfold Queue.receive
  split
  · exact nofun
  · next none => exact (some none).elim

theorem BoundedQueue.send_eq_some_iff {c c' : BoundedQueue α} :
    c.send a = some c' ↔
      (c.hasReceiver = false ∧ c' = c) ∨
        (c.hasReceiver = true ∧ c.messages.length < c.room ∧
          c' = { c with messages := c.messages ++ [a] }) := by
  unfold BoundedQueue.send
  cases c.hasReceiver <;> simp [eq_comm]

end Channels

/-- How often the owner may still move by itself. -/
def ShutdownOwner.pending : ShutdownOwner → Nat
  | waiting => 2
  | leaving => 1
  | _ => 0

namespace Shutdown

variable {s t : Shutdown} {m : Move} {moves : List Move}

/-! ## One move -/

/-- `s.Transition m t`: the move `m` can lead from `s` to `t`. -/
inductive Transition (s : Shutdown) : Move → Shutdown → Prop
  | wait (idle : s.owner = .idle) : Transition s .wait { s with owner := .waiting }
  | drop (idle : s.owner = .idle) :
    Transition s .drop { s with owner := .dropped, channel := release s.channel }
  | addTrigger (source : s.owner = .idle ∨ 0 < s.triggers) :
    Transition s .addTrigger
      { s with triggers := s.triggers + 1, channel := s.channel.addSender }
  | dropTrigger (some : 0 < s.triggers) (unused : 1 < s.triggers ∨ s.pulls.all id = true) :
    Transition s .dropTrigger
      { s with triggers := s.triggers - 1, channel := s.channel.dropSender }
  | pull (some : 0 < s.triggers) : Transition s .pull { s with pulls := s.pulls ++ [false] }
  | deliver {i : Nat} (waits : s.pulls[i]? = some false) (turn : (s.pulls.take i).all id = true)
    (received : s.channel.hasReceiver = true)
    (fits : s.channel.messages.length < s.channel.room) :
    Transition s (.deliver i)
      { s with
        channel := { s.channel with messages := s.channel.messages ++ [()] }
        pulls := s.pulls.set i true }
  | giveUp {i : Nat} (waits : s.pulls[i]? = some false)
    (unreceived : s.channel.hasReceiver = false) :
    Transition s (.deliver i) { s with pulls := s.pulls.set i true }
  | receive (waiting : s.owner = .waiting) (pulled : s.channel.messages ≠ []) :
    Transition s .receive { s with owner := .leaving, channel := s.channel.takeFirst }
  | ended (waiting : s.owner = .waiting) (unsent : s.channel.senders = 0) :
    Transition s .receive { s with owner := .leaving }
  | signal (waiting : s.owner = .waiting) : Transition s .signal { s with owner := .leaving }
  | leave (leaving : s.owner = .leaving) :
    Transition s .leave { s with owner := .returned, channel := release s.channel }

/-- The shutdown trigger does nothing but what the cases list. -/
theorem transition_of_step (step : s.step m = some t) : s.Transition m t := by
  cases m with
  | wait =>
    simp only [Shutdown.step] at step
    split at step
    · next idle =>
      cases step
      exact .wait idle
    · cases step
  | drop =>
    simp only [Shutdown.step] at step
    split at step
    · next idle =>
      cases step
      exact .drop idle
    · cases step
  | addTrigger =>
    simp only [Shutdown.step] at step
    split at step
    · next source =>
      cases step
      exact .addTrigger source
    · cases step
  | dropTrigger =>
    simp only [Shutdown.step] at step
    split at step
    · next possible =>
      cases step
      exact .dropTrigger (by omega) (possible.imp_right And.right)
    · cases step
  | pull =>
    simp only [Shutdown.step] at step
    split at step
    · next some =>
      cases step
      exact .pull some
    · cases step
  | deliver i =>
    simp only [Shutdown.step] at step
    split at step
    · next possible =>
      obtain ⟨waits, turn⟩ := possible
      obtain ⟨channel, sent, rfl⟩ := Option.map_eq_some_iff.mp step
      rcases BoundedQueue.send_eq_some_iff.mp sent with ⟨unreceived, rfl⟩ | ⟨received, fits, rfl⟩
      · exact .giveUp waits unreceived
      · rw [received] at turn
        exact .deliver waits (turn.resolve_left nofun) received fits
    · cases step
  | receive =>
    simp only [Shutdown.step] at step
    split at step
    · next waiting =>
      split at step
      · next pulled =>
        cases step
        exact .receive waiting (List.ne_nil_of_mem (Queue.receive_eq_value pulled))
      · next ended =>
        cases step
        exact .ended waiting (Queue.receive_eq_ended ended)
      · cases step
    · cases step
  | signal =>
    simp only [Shutdown.step] at step
    split at step
    · next waiting =>
      cases step
      exact .signal waiting
    · cases step
  | leave =>
    simp only [Shutdown.step] at step
    split at step
    · next leaving =>
      cases step
      exact .leave leaving
    · cases step

/-! ## Whose turn it is -/

/-- So many pulls are over, and these are the first ones. -/
structure InTurn (pulls : List Bool) (ended : Nat) : Prop where
  within : ended ≤ pulls.length
  first : ∀ i done, pulls[i]? = some done → (done = true ↔ i < ended)

namespace InTurn

variable {pulls : List Bool} {ended : Nat}

theorem pull (turn : InTurn pulls ended) : InTurn (pulls ++ [false]) ended where
  within := by
    rw [List.length_append]
    exact Nat.le_add_right_of_le turn.within
  first i done found := by
    have within := turn.within
    rw [List.getElem?_append] at found
    split at found
    · exact turn.first i done found
    · next outside =>
      obtain rfl := List.mem_singleton.mp (List.mem_of_getElem? found)
      exact iff_of_false nofun (by omega)

/-- The pull whose turn it is is the first one that is not over. -/
theorem eq_of_turn (turn : InTurn pulls ended) {i : Nat} (waits : pulls[i]? = some false)
    (before : (pulls.take i).all id = true) : i = ended := by
  have notYet : ¬i < ended := fun earlier => nomatch (turn.first i false waits).mpr earlier
  have notLater : ¬ended < i := fun later => by
    have inside : ended < pulls.length := Nat.lt_trans later (List.getElem?_eq_some_iff.mp waits).1
    have done : pulls[ended] = true :=
      List.all_eq_true.mp before _ (List.mem_take_iff_getElem.mpr ⟨ended, by omega, rfl⟩)
    exact Nat.lt_irrefl ended ((turn.first ended _ (List.getElem?_eq_getElem inside)).mp done)
  omega

theorem deliver (turn : InTurn pulls ended) {i : Nat} (waits : pulls[i]? = some false)
    (before : (pulls.take i).all id = true) : InTurn (pulls.set i true) (ended + 1) := by
  obtain rfl := turn.eq_of_turn waits before
  have inside : i < pulls.length := (List.getElem?_eq_some_iff.mp waits).1
  refine ⟨by rwa [List.length_set], fun j done found => ?_⟩
  rw [List.getElem?_set] at found
  split at found
  · next same =>
    cases found
    exact iff_of_true rfl (by omega)
  · next other =>
    rw [turn.first j done found]
    omega

end InTurn

/-- The channel and its ends are where the moves have put them. -/
structure Accounted (moves : List Move) (s : Shutdown) : Prop where
  room : s.channel.room = 1
  fits : s.channel.messages.length ≤ 1
  hasReceiver : s.channel.hasReceiver = !s.isGone
  /-- The owner has a sender as well. -/
  senders : s.channel.senders = s.triggers + (!s.isGone).toNat
  pulled : s.pulls.length = moves.count .pull
  /-- Nothing has been taken from the channel yet. -/
  turn : s.owner = .idle ∨ s.owner = .waiting → InTurn s.pulls s.channel.messages.length

namespace Accounted

theorem new : Accounted [] new where
  room := rfl
  fits := Nat.zero_le _
  hasReceiver := rfl
  senders := rfl
  pulled := rfl
  turn _ := ⟨Nat.le_refl _, nofun⟩

theorem of_transition (accounted : Accounted moves s) (step : s.Transition m t) :
    Accounted (moves ++ [m]) t := by
  obtain ⟨room, fits, hasReceiver, senders, pulled, turn⟩ := accounted
  cases step with
  | wait idle =>
    simp only [isGone, idle] at hasReceiver senders
    exact ⟨room, fits, hasReceiver, senders, by simpa using pulled, fun _ => turn (.inl idle)⟩
  | drop idle =>
    simp only [isGone, idle] at senders
    refine ⟨room, Nat.zero_le 1, rfl, ?_, by simpa using pulled, nofun⟩
    change s.channel.senders - 1 = s.triggers
    rw [senders]
    rfl
  | addTrigger source =>
    refine ⟨room, fits, hasReceiver, ?_, by simpa using pulled, turn⟩
    change s.channel.senders + 1 = s.triggers + 1 + (!s.isGone).toNat
    omega
  | dropTrigger some unused =>
    refine ⟨room, fits, hasReceiver, ?_, by simpa using pulled, turn⟩
    change s.channel.senders - 1 = s.triggers - 1 + (!s.isGone).toNat
    omega
  | pull some =>
    refine ⟨room, fits, hasReceiver, senders, ?_, fun here => (turn here).pull⟩
    simpa using pulled
  | deliver waits before received fits' =>
    refine ⟨room, ?_, hasReceiver, senders, ?_, fun here => ?_⟩
    · rw [List.length_append]
      exact room ▸ fits'
    · simpa using pulled
    · rw [List.length_append]
      exact (turn here).deliver waits before
  | giveUp waits unreceived =>
    rw [hasReceiver, Bool.not_eq_false'] at unreceived
    refine ⟨room, fits, hasReceiver, senders, by simpa using pulled, fun here => ?_⟩
    rcases here with idle | waiting <;> simp_all [isGone]
  | receive waiting pulled' =>
    simp only [isGone, waiting] at hasReceiver senders
    refine ⟨room, ?_, hasReceiver, senders, by simpa using pulled, nofun⟩
    exact Nat.le_trans (by simp [BoundedQueue.takeFirst]) fits
  | ended waiting | signal waiting =>
    simp only [isGone, waiting] at hasReceiver senders
    exact ⟨room, fits, hasReceiver, senders, by simpa using pulled, nofun⟩
  | leave leaving =>
    simp only [isGone, leaving] at senders
    refine ⟨room, Nat.zero_le 1, rfl, ?_, by simpa using pulled, nofun⟩
    change s.channel.senders - 1 = s.triggers
    rw [senders]
    rfl

/-- A message in the channel was put there by a pull. -/
theorem pull_mem (accounted : Accounted moves s) (waiting : s.owner = .waiting)
    (some : s.channel.messages ≠ []) : .pull ∈ moves := by
  have within := (accounted.turn (.inr waiting)).within
  have first : 0 < s.channel.messages.length := List.length_pos_iff.mpr some
  rw [accounted.pulled] at within
  exact List.count_pos_iff.mp (Nat.lt_of_lt_of_le first within)

/-- The channel does not end while the owner waits, whatever becomes of the triggers. -/
theorem senders_ne_zero (accounted : Accounted moves s) (waiting : s.owner = .waiting) :
    s.channel.senders ≠ 0 := by
  rw [accounted.senders, isGone, waiting]
  exact Nat.succ_ne_zero _

end Accounted

theorem accounted_of_run (run : runMoves Shutdown.step .new moves = some s) : Accounted moves s :=
  runMoves_induction (P := Accounted) .new
    (fun accounted step => accounted.of_transition (transition_of_step step)) run

/-! ## Who has woken the owner -/

/-- What became of the owner, and why. -/
structure Remembered (moves : List Move) (s : Shutdown) : Prop where
  waited : .wait ∈ moves ↔ s.owner = .waiting ∨ s.owner = .leaving ∨ s.owner = .returned
  dropped : .drop ∈ moves ↔ s.owner = .dropped
  signalled : .signal ∈ moves → s.owner = .leaving ∨ s.owner = .returned
  woken : s.owner = .leaving ∨ s.owner = .returned → .pull ∈ moves ∨ .signal ∈ moves

namespace Remembered

theorem new : Remembered [] new := by
  constructor <;> simp [Shutdown.new]

theorem of_transition (remembered : Remembered moves s) (accounted : Accounted moves s)
    (step : s.Transition m t) : Remembered (moves ++ [m]) t := by
  obtain ⟨waited, dropped, signalled, woken⟩ := remembered
  cases step with
  | wait idle | drop idle => constructor <;> simp_all
  | addTrigger | dropTrigger | pull | deliver | giveUp => constructor <;> simp_all
  | receive waiting pulled =>
    have pull := accounted.pull_mem waiting pulled
    constructor <;> simp_all
  | ended waiting unsent => exact (accounted.senders_ne_zero waiting unsent).elim
  | signal waiting | leave waiting => constructor <;> simp_all

end Remembered

theorem remembered_of_run (run : runMoves Shutdown.step .new moves = some s) :
    Remembered moves s := by
  refine (runMoves_induction (P := fun moves s => Accounted moves s ∧ Remembered moves s)
    ⟨.new, .new⟩ ?_ run).2
  rintro before s t m ⟨accounted, remembered⟩ step
  have transition := transition_of_step step
  exact ⟨accounted.of_transition transition, remembered.of_transition accounted transition⟩

/-! ## Rest -/

/-- Nothing happens any more unless somebody asks for it. -/
def AtRest (s : Shutdown) : Prop :=
  ∀ m ∈ s.ownMoves, s.step m = none

instance (s : Shutdown) : Decidable s.AtRest :=
  inferInstanceAs (Decidable (∀ m ∈ s.ownMoves, s.step m = none))

/-- How many moves may still happen without anybody asking for them: one for every pull that is not
over, and those of the owner. -/
def pending (s : Shutdown) : Nat :=
  s.pulls.countP (!·) + s.owner.pending

theorem pending_lt (own : m ∈ s.ownMoves) (step : s.step m = some t) : t.pending < s.pending := by
  unfold pending
  have fewer {i : Nat} (waits : s.pulls[i]? = some false) :
      (s.pulls.set i true).countP (!·) + 1 = s.pulls.countP (!·) := countP_set_add (!·) waits true
  cases transition_of_step step with
  | deliver waits | giveUp waits =>
    dsimp only
    have counted := fewer waits
    omega
  | receive waiting | ended waiting => simp [ShutdownOwner.pending, waiting]
  | leave leaving => simp [ShutdownOwner.pending, leaving]
  | wait | drop | addTrigger | dropTrigger | pull | signal => simp [ownMoves] at own

/-- What happens by itself leads to rest. -/
theorem atRest_settle (s : Shutdown) : s.settle.AtRest := by
  refine rest_of_settle pending pending_lt _ ?_
  have waiting : s.pulls.countP (!·) ≤ s.pulls.length := List.countP_le_length
  have last : s.owner.pending ≤ 2 := by cases s.owner <;> decide
  unfold pending
  omega

namespace AtRest

theorem not_leaving (rest : s.AtRest) : s.owner ≠ .leaving := by
  intro leaving
  have stuck := rest .leave (by simp [ownMoves])
  simp [Shutdown.step, leaving] at stuck

/-- At rest an owner that waits has nothing to take. -/
theorem messages_eq_nil (rest : s.AtRest) (waiting : s.owner = .waiting) :
    s.channel.messages = [] := by
  by_contra some
  have stuck := rest .receive (by simp [ownMoves])
  simp only [Shutdown.step, waiting, if_true] at stuck
  split at stuck
  · cases stuck
  · cases stuck
  · next nothing => exact Queue.receive_ne_nothing some nothing

/-- At rest a pull that is not over has no room, or others before it. -/
theorem send_eq_none (rest : s.AtRest) {i : Nat} (waits : s.pulls[i]? = some false)
    (turn : s.channel.hasReceiver = false ∨ (s.pulls.take i).all id = true) :
    s.channel.send () = none := by
  have inside : i < s.pulls.length := (List.getElem?_eq_some_iff.mp waits).1
  have stuck := rest (.deliver i) (by simp [ownMoves, inside])
  simp only [Shutdown.step] at stuck
  rwa [if_pos ⟨waits, turn⟩, Option.map_eq_none_iff] at stuck

/-- At rest nobody waits for one who has gone. -/
theorem over_of_isGone (rest : s.AtRest) (accounted : Accounted moves s)
    (gone : s.isGone = true) {i : Nat} {ended : Bool} (found : s.pulls[i]? = some ended) :
    ended = true := by
  have unreceived : s.channel.hasReceiver = false := by rw [accounted.hasReceiver, gone]; rfl
  cases ended with
  | true => rfl
  | false =>
    have sent : s.channel.send () = some s.channel :=
      BoundedQueue.send_eq_some_iff.mpr (.inl ⟨unreceived, rfl⟩)
    cases (rest.send_eq_none found (.inl unreceived)).symm.trans sent

/-- At rest a message is in the channel once there was a pull, unless the owner has been woken. -/
theorem messages_ne_nil (rest : s.AtRest) (accounted : Accounted moves s)
    (unwoken : s.owner = .idle ∨ s.owner = .waiting) (pulled : s.pulls ≠ []) :
    s.channel.messages ≠ [] := by
  intro empty
  have received : s.channel.hasReceiver = true := by
    rw [accounted.hasReceiver]
    rcases unwoken with idle | waiting
    · rw [isGone, idle]; rfl
    · rw [isGone, waiting]; rfl
  have fits : s.channel.messages.length < s.channel.room := by
    rw [empty, accounted.room]
    exact Nat.one_pos
  obtain ⟨done, later, pulls⟩ := List.exists_cons_of_ne_nil pulled
  have first : s.pulls[0]? = some done := by rw [pulls]; rfl
  cases done with
  | true =>
    have early := ((accounted.turn unwoken).first 0 true first).mp rfl
    rw [empty] at early
    exact Nat.not_lt_zero 0 early
  | false =>
    have stuck := rest.send_eq_none first (.inr rfl)
    cases stuck.symm.trans (BoundedQueue.send_eq_some_iff.mpr (.inr ⟨received, fits, rfl⟩))

/-- At rest the first pull is over, and while the owner has not been woken it is the only one. -/
theorem over_iff_of_unwoken (rest : s.AtRest) (accounted : Accounted moves s)
    (unwoken : s.owner = .idle ∨ s.owner = .waiting) {i : Nat} {ended : Bool}
    (found : s.pulls[i]? = some ended) : ended = true ↔ i = 0 := by
  have fits := accounted.fits
  have some : 0 < s.channel.messages.length := List.length_pos_iff.mpr <|
    rest.messages_ne_nil accounted unwoken (List.ne_nil_of_mem (List.mem_of_getElem? found))
  rw [(accounted.turn unwoken).first i ended found]
  omega

end AtRest

theorem hasWaited?_eq_some_true_iff : s.hasWaited? = some true ↔ s.owner = .returned := by
  unfold hasWaited?
  cases s.owner <;> simp

/-- Every order of moves: whoever has waited to the end was woken by a pull or by a signal, and what
happens by itself always leads to rest. At rest the wait is over just if it was begun and there was
a pull, however early, or a signal; and a pull is over just if it was the first one, or the owner
has gone, whether it waited or not. -/
theorem shutdown_settles (run : runMoves Shutdown.step .new moves = some s) :
    (s.hasWaited? = some true → .wait ∈ moves ∧ (.pull ∈ moves ∨ .signal ∈ moves)) ∧
      s.pulls.length = moves.count .pull ∧ s.settle.AtRest ∧
      (s.AtRest →
        (s.hasWaited? = some true ↔ .wait ∈ moves ∧ (.pull ∈ moves ∨ .signal ∈ moves)) ∧
        ∀ i ended, s.pulls[i]? = some ended →
          (ended = true ↔ i = 0 ∨ .drop ∈ moves ∨ s.hasWaited? = some true)) := by
  have accounted := accounted_of_run run
  obtain ⟨waited, dropped, signalled, woken⟩ := remembered_of_run run
  simp only [hasWaited?_eq_some_true_iff]
  have called : s.owner = .returned → .wait ∈ moves ∧ (.pull ∈ moves ∨ .signal ∈ moves) :=
    fun returned => ⟨waited.mpr (.inr (.inr returned)), woken (.inr returned)⟩
  refine ⟨called, accounted.pulled, atRest_settle s, fun rest => ⟨⟨called, ?_⟩, ?_⟩⟩
  · rintro ⟨began, cause⟩
    rcases waited.mp began with waiting | leaving | returned
    · rcases cause with pulled | signal
      · have some : s.pulls ≠ [] := by
          rw [← List.length_pos_iff, accounted.pulled]
          exact List.count_pos_iff.mpr pulled
        have message := rest.messages_ne_nil accounted (.inr waiting) some
        exact (message (rest.messages_eq_nil waiting)).elim
      · rcases signalled signal with leaving | returned
        · exact (rest.not_leaving leaving).elim
        · exact returned
    · exact (rest.not_leaving leaving).elim
    · exact returned
  · intro i ended found
    rw [dropped]
    cases owner : s.owner with
    | idle | waiting => simpa using rest.over_iff_of_unwoken accounted (by simp [owner]) found
    | leaving => exact (rest.not_leaving owner).elim
    | returned | dropped =>
      have done := rest.over_of_isGone accounted (by simp [isGone, owner]) found
      simp [done]

/-- Two triggers are pulled before anybody waits, and one of them is gone by then. The second pull
gets its turn while the owner leaves, and a third one finds nobody. -/
def earlyPulls : List Move :=
  [.addTrigger, .addTrigger, .pull, .deliver 0, .pull, .dropTrigger, .wait, .receive, .deliver 1,
    .leave, .pull, .deliver 2]

theorem shutdown_settles_earlyPulls :
    ∃ s, runMoves Shutdown.step .new earlyPulls = some s ∧ s.AtRest ∧
      s.pulls.length = earlyPulls.count .pull ∧ s.hasWaited? = some true ∧
      ∀ ended ∈ s.pulls, ended = true := by
  obtain ⟨s, run, rest⟩ : ∃ s, runMoves Shutdown.step .new earlyPulls = some s ∧ s.AtRest :=
    ⟨_, rfl, by decide⟩
  obtain ⟨-, pulled, -, atRest⟩ := shutdown_settles run
  obtain ⟨waited, ended⟩ := atRest rest
  have isOver : s.hasWaited? = some true := waited.mpr (by decide)
  refine ⟨s, run, rest, pulled, isOver, fun done member => ?_⟩
  obtain ⟨i, found⟩ := List.mem_iff_getElem?.mp member
  exact (ended i done found).mpr (.inr (.inr isOver))

end Shutdown

end NetControl.Lifecycle
