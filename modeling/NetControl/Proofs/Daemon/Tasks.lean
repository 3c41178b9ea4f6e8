import NetControl.Daemon.Service
import NetControl.Proofs.Lifecycle.Channels
import NetControl.Proofs.Runs

/-!
# What the tasks of a daemon hold of its drain

`Service.Transition` lists, case by case, what each move of a running daemon finds and where it
leads, and `Service.transition_of_step` shows that `Service.step` does nothing else. What a listener
does is one case, with `Passage` for its parts.

At every point of its loop a listener holds its own watcher, a second one, or a blocker, and
`ListenerPoint.watchers` and `ListenerPoint.blockers` say how many. `Passage.account` says that the
channels of the drain follow a listener from point to point, and `Service.Orderly` that they have at
every moment just the ends that the tasks hold.
-/

namespace NetControl.Daemon

open Lifecycle Tether

/-- `Passage c m side before after act`: where the channels are `c`, the listener makes the move
from one point to the other and does this to the channels. -/
inductive Passage (c : DrainChannels) : Service.Move → Side → ListenerPoint → ListenerPoint →
    (DrainChannels → DrainChannels) → Prop
  | select {side : Side} : Passage c (.select side) side .looping .selecting .cloneWatcher
  | notice {side : Side} {mode : DrainMode} (learnt : c.mode? = some mode) :
    Passage c (.notice side) side .selecting .closing .toBlocker
  | proceed {side : Side} (unlearnt : c.mode? = none) :
    Passage c (.proceed side) side .selecting .accepting id
  | sleep {side : Side} : Passage c (.sleep side) side .accepting .selecting id
  | accept {side : Side} : Passage c (.accept side) side .accepting .looping .dropWatcher
  | fail {side : Side} : Passage c (.fail side) side .accepting .pausing .dropWatcher
  | resume {side : Side} : Passage c (.resume side) side .pausing .looping id
  | close {side : Side} : Passage c (.close side) side .closing .closed id
  | clear {side : Side} : Passage c (.clear side) side .closed .cleared id
  | release {side : Side} : Passage c (.release side) side .cleared .released .dropBlocker
  | finish {side : Side} : Passage c (.finish side) side .released .ended .dropWatcher

namespace Service

variable {ω : Type} {answer : (c : Call) → ω → c.Answer × ω} {s s' : Service ω} {m : Move}
  {moves : List Move}

/-- How many connections were accepted, after a move. -/
def acceptedAfter (s : Service ω) (m : Move) (side : Side) : Nat :=
  if m = .accept side then s.accepted side + 1 else s.accepted side

/-- `s.Transition answer m s'`: the move `m` can lead from `s` to `s'`. -/
inductive Transition (answer : (c : Call) → ω → c.Answer × ω) (s : Service ω) :
    Move → Service ω → Prop
  | spawn {side : Side} (next : s.isNext side = true) :
    Transition answer s (.spawn side)
      { s.setPoint .looping side with channels := s.channels.cloneWatcher }
  | build (control : s.control ≠ .unspawned) (lookup : s.lookup ≠ .unspawned)
    (unbuilt : s.isBuilt = false) :
    Transition answer s .build { s with channels := s.channels.dropWatcher, isBuilt := true }
  | listener {m : Move} {side : Side} {before after : ListenerPoint}
    {act : DrainChannels → DrainChannels} (passage : Passage s.channels m side before after act)
    (here : s.point side = before) :
    Transition answer s m
      { s.setPoint after side with channels := act s.channels, accepted := s.acceptedAfter m }
  | request {op : Controller.Operation} (connected : 0 < s.accepted .control) :
    Transition answer s (.request op) (s.carryOut answer op.plan)
  | trigger (built : s.isBuilt = true) (running : s.waiting = .running) :
    Transition answer s .trigger
      { s with waiting := .draining, channels := s.channels.start .graceful }
  | complete (draining : s.waiting = .draining) (isOver : s.channels.isOver = true) :
    Transition answer s .complete
      { s with waiting := .drained true, channels := s.channels.dropTrigger }
  | expire (draining : s.waiting = .draining) :
    Transition answer s .expire
      { s with waiting := .drained false, channels := s.channels.dropTrigger }
  | stop {inTime : Bool} (drained : s.waiting = .drained inTime) :
    Transition answer s .stop
      { s.carryOut answer Controller.stop with waiting := .stopped inTime }
  | leave {inTime : Bool} (stopped : s.waiting = .stopped inTime) :
    Transition answer s .leave { s with waiting := .returned inTime }

@[simp] theorem setPoint_accepted (point : ListenerPoint) (side : Side) :
    (s.setPoint point side).accepted = s.accepted := by
  cases side <;> rfl

@[simp] theorem setPoint_isBuilt (point : ListenerPoint) (side : Side) :
    (s.setPoint point side).isBuilt = s.isBuilt := by
  cases side <;> rfl

@[simp] theorem setPoint_waiting (point : ListenerPoint) (side : Side) :
    (s.setPoint point side).waiting = s.waiting := by
  cases side <;> rfl

theorem point_setPoint (point : ListenerPoint) (side other : Side) :
    (s.setPoint point side).point other = if other = side then point else s.point other := by
  cases side <;> cases other <;> rfl

theorem point_of_isNext {side : Side} (next : s.isNext side = true) :
    s.point side = .unspawned := by
  cases side <;> simp_all [isNext, Service.point]

theorem acceptedAfter_of_ne (other : ∀ side, m ≠ .accept side) : s.acceptedAfter m = s.accepted :=
  funext fun side => if_neg (other side)

theorem acceptedAfter_accept (side : Side) : s.acceptedAfter (.accept side) =
    fun s' => if s' = side then s.accepted s' + 1 else s.accepted s' := by
  funext other
  simp only [acceptedAfter, Move.accept.injEq, eq_comm]

theorem transition_of_advance {side : Side} {before after : ListenerPoint}
    {act : DrainChannels → DrainChannels} (passage : Passage s.channels m side before after act)
    (quiet : ∀ side, m ≠ .accept side) (step : s.advance side before after act = some s') :
    s.Transition answer m s' := by
  unfold advance at step
  split at step
  · next here =>
    cases step
    have same : s.Transition answer m _ := .listener passage here
    rw [acceptedAfter_of_ne quiet, ← setPoint_accepted after side] at same
    exact same
  · cases step

/-- A running daemon does nothing but what the cases list. -/
theorem transition_of_step (step : s.step answer m = some s') : s.Transition answer m s' := by
  cases m with
  | spawn side =>
    simp only [Service.step] at step
    split at step
    · next next =>
      cases step
      exact .spawn next
    · cases step
  | build =>
    simp only [Service.step] at step
    split at step
    · next built =>
      cases step
      exact .build built.1 built.2.1 built.2.2
    · cases step
  | select side => exact transition_of_advance .select (by simp) step
  | notice side =>
    simp only [Service.step] at step
    split at step
    · next learnt => exact transition_of_advance (.notice learnt) (by simp) step
    · cases step
  | proceed side =>
    simp only [Service.step] at step
    split at step
    · cases step
    · next unlearnt => exact transition_of_advance (.proceed unlearnt) (by simp) step
  | sleep side => exact transition_of_advance .sleep (by simp) step
  | accept side =>
    obtain ⟨next, advanced, rfl⟩ := Option.map_eq_some_iff.mp step
    unfold advance at advanced
    split at advanced
    · next here =>
      cases advanced
      have same : s.Transition answer (.accept side) _ := .listener .accept here
      rw [acceptedAfter_accept, ← setPoint_accepted .looping side] at same
      exact same
    · cases advanced
  | fail side => exact transition_of_advance .fail (by simp) step
  | resume side => exact transition_of_advance .resume (by simp) step
  | close side => exact transition_of_advance .close (by simp) step
  | clear side => exact transition_of_advance .clear (by simp) step
  | release side => exact transition_of_advance .release (by simp) step
  | finish side => exact transition_of_advance .finish (by simp) step
  | request op =>
    simp only [Service.step] at step
    split at step
    · next connected =>
      cases step
      exact .request connected
    · cases step
  | trigger =>
    simp only [Service.step] at step
    split at step
    · next both =>
      cases step
      exact .trigger both.1 both.2
    · cases step
  | complete =>
    simp only [Service.step] at step
    split at step
    · next both =>
      cases step
      exact .complete both.1 both.2
    · cases step
  | expire =>
    simp only [Service.step] at step
    split at step
    · next draining =>
      cases step
      exact .expire draining
    · cases step
  | stop =>
    simp only [Service.step] at step
    split at step
    · next drained =>
      cases step
      exact .stop drained
    · cases step
  | leave =>
    simp only [Service.step] at step
    split at step
    · next stopped =>
      cases step
      exact .leave stopped
    · cases step

end Service

/-! ## Watchers and blockers -/

/-- How many watchers a listener holds, its own and one that waits. -/
def ListenerPoint.watchers : ListenerPoint → Nat
  | unspawned => 0
  | looping => 1
  | selecting => 2
  | accepting => 2
  | pausing => 1
  | closing => 1
  | closed => 1
  | cleared => 1
  | released => 1
  | ended => 0

/-- How many blockers a listener holds. -/
def ListenerPoint.blockers : ListenerPoint → Nat
  | closing => 1
  | closed => 1
  | cleared => 1
  | _ => 0

/-- What was signalled. -/
def Waiting.sent : Waiting → Option DrainMode
  | running => none
  | _ => some .graceful

/-- Whether the trigger of the drain is still there. -/
def Waiting.hasTrigger : Waiting → Bool
  | running => true
  | draining => true
  | _ => false

/-- The channels follow a listener, whatever others hold. -/
theorem Passage.account {c : DrainChannels} {m : Service.Move} {side : Side}
    {before after : ListenerPoint} {act : DrainChannels → DrainChannels} {w b : Nat}
    {sent : Option DrainMode} {hasTrigger : Bool} (passage : Passage c m side before after act)
    (account : c.Account (w + before.watchers) (b + before.blockers) sent hasTrigger) :
    (act c).Account (w + after.watchers) (b + after.blockers) sent hasTrigger := by
  cases passage with
  | select => exact account.cloneWatcher
  | notice learnt => exact account.toBlocker
  | accept | fail | finish => exact account.dropWatcher
  | release => exact account.dropBlocker
  | proceed | sleep | resume | close | clear => exact account

theorem Passage.spawned {c : DrainChannels} {m : Service.Move} {side : Side}
    {before after : ListenerPoint} {act : DrainChannels → DrainChannels}
    (passage : Passage c m side before after act) :
    after ≠ .unspawned := by
  cases passage <;> simp

theorem Passage.going {c : DrainChannels} {m : Service.Move} {side : Side}
    {before after : ListenerPoint} {act : DrainChannels → DrainChannels}
    (passage : Passage c m side before after act) :
    before ≠ .ended := by
  cases passage <;> simp

/-- A listener that was spawned and has dropped all that it held is over. -/
theorem ListenerPoint.eq_ended {p : ListenerPoint} (spawned : p ≠ .unspawned)
    (none : p.watchers = 0) : p = .ended := by
  cases p with
  | unspawned => exact (spawned rfl).elim
  | ended => rfl
  | _ => cases none

namespace Service

variable {ω : Type} {answer : (c : Call) → ω → c.Answer × ω} {s s' : Service ω} {m : Move}
  {moves : List Move}

/-- How many watchers there are, with the one of whoever builds the daemon. -/
def watchers (s : Service ω) : Nat :=
  (!s.isBuilt).toNat + s.control.watchers + s.lookup.watchers

/-- How many blockers there are. -/
def blockers (s : Service ω) : Nat :=
  s.control.blockers + s.lookup.blockers

/-- Whoever builds the daemon holds a watcher. -/
theorem watchers_of_unbuilt (s : Service ω) (unbuilt : s.isBuilt = false) :
    s.watchers = s.control.watchers + s.lookup.watchers + 1 := by
  simp only [watchers, unbuilt, Bool.not_false, Bool.toNat_true]
  omega

/-- What the others hold stays as it is when a listener goes on. -/
theorem exists_others (s : Service ω) (side : Side) : ∃ w b,
    s.watchers = w + (s.point side).watchers ∧ s.blockers = b + (s.point side).blockers ∧
      ∀ p, (s.setPoint p side).watchers = w + p.watchers ∧
        (s.setPoint p side).blockers = b + p.blockers := by
  cases side with
  | control =>
    refine ⟨(!s.isBuilt).toNat + s.lookup.watchers, s.lookup.blockers, ?_, ?_, fun p => ⟨?_, ?_⟩⟩
    all_goals
      simp only [watchers, blockers, Service.point, setPoint]
      omega
  | lookup =>
    exact ⟨(!s.isBuilt).toNat + s.control.watchers, s.control.blockers, rfl, rfl,
      fun p => ⟨rfl, rfl⟩⟩

/-- The channels have the ends that the tasks hold. -/
structure Orderly (s : Service ω) : Prop where
  account : s.channels.Account s.watchers s.blockers s.waiting.sent s.waiting.hasTrigger
  /-- Once the daemon is built, both listeners are spawned. -/
  spawned : s.isBuilt = true → ∀ side, s.point side ≠ .unspawned
  /-- Nobody waits for the end before the daemon is built. -/
  built : s.waiting ≠ .running → s.isBuilt = true
  /-- When the drain was over in time, both listeners were. -/
  ended : s.waiting.isDrainedInTime = true → ∀ side, s.point side = .ended

namespace Orderly

theorem start (c : Controller) (w : ω) : (Service.start c w).Orderly where
  account := .new
  spawned := nofun
  built running := (running rfl).elim
  ended := nofun

/-- A listener that is spawned, or goes on, leaves everything in order. -/
theorem setPoint (orderly : s.Orderly) {side : Side} {p : ListenerPoint}
    {channels : DrainChannels} {accepted : Side → Nat}
    (account : channels.Account (s.setPoint p side).watchers (s.setPoint p side).blockers
      s.waiting.sent s.waiting.hasTrigger)
    (present : p ≠ .unspawned) (going : s.point side ≠ .ended) :
    Orderly { s.setPoint p side with channels, accepted } := by
  have points (other : Side) : Service.point { s.setPoint p side with channels, accepted } other =
      if other = side then p else s.point other := point_setPoint p side other
  refine ⟨?_, fun built other => ?_, fun waited => ?_, fun inTime => ?_⟩
  · simp only [setPoint_waiting]
    exact account
  · rw [points]
    split
    · exact present
    · simp only [setPoint_isBuilt] at built
      exact orderly.spawned built other
  · simp only [setPoint_waiting, setPoint_isBuilt] at waited ⊢
    exact orderly.built waited
  · simp only [setPoint_waiting] at inTime
    exact (going (orderly.ended inTime side)).elim

/-- Every move keeps the daemon in order. -/
theorem of_transition (orderly : s.Orderly) (step : s.Transition answer m s') : s'.Orderly := by
  have account := orderly.account
  cases step with
  | @spawn side next =>
    have unspawned := point_of_isNext next
    have unbuilt : s.isBuilt = false := by
      rw [Bool.eq_false_iff]
      exact fun built => orderly.spawned built side unspawned
    obtain ⟨w, b, watchers, blockers, others⟩ := s.exists_others side
    rw [unspawned] at watchers blockers
    have own := s.watchers_of_unbuilt unbuilt
    have more : w + 1 = s.control.watchers + s.lookup.watchers + 2 := by
      change s.watchers = w + 0 at watchers
      omega
    rw [own, blockers] at account
    refine orderly.setPoint ?_ (by simp) (by simp [unspawned])
    rw [(others .looping).1, (others .looping).2]
    change DrainChannels.Account _ (w + 1) b _ _
    rw [more]
    exact account.cloneWatcher
  | build control lookup unbuilt =>
    rw [s.watchers_of_unbuilt unbuilt] at account
    have left : watchers { s with channels := s.channels.dropWatcher, isBuilt := true } =
        s.control.watchers + s.lookup.watchers := by
      simp only [Service.watchers, Bool.not_true, Bool.toNat_false, Nat.zero_add]
    refine ⟨?_, fun _ side => ?_, fun _ => rfl, fun inTime => ?_⟩
    · rw [left]
      exact account.dropWatcher
    · cases side
      · exact control
      · exact lookup
    · exact orderly.ended inTime
  | @listener m side before after act passage here =>
    obtain ⟨w, b, watchers, blockers, others⟩ := s.exists_others side
    rw [watchers, blockers, here] at account
    refine orderly.setPoint ?_ passage.spawned (here ▸ passage.going)
    rw [(others after).1, (others after).2]
    exact passage.account account
  | request connected => exact ⟨account, orderly.spawned, orderly.built, orderly.ended⟩
  | trigger built running =>
    have signalled := account.start .graceful
    rw [running] at signalled
    exact ⟨signalled, orderly.spawned, fun _ => built, nofun⟩
  | complete draining isOver =>
    obtain ⟨none, -⟩ := account.isOver_iff.mp isOver
    have built : s.isBuilt = true := orderly.built (by simp [draining])
    have gone := account.dropTrigger
    rw [draining] at gone
    refine ⟨gone, orderly.spawned, fun _ => built, fun _ side => ?_⟩
    refine ListenerPoint.eq_ended (orderly.spawned built side) ?_
    obtain ⟨w, -, watchers, -⟩ := s.exists_others side
    change (s.point side).watchers = 0
    omega
  | expire draining =>
    have gone := account.dropTrigger
    rw [draining] at gone
    exact ⟨gone, orderly.spawned, fun _ => orderly.built (by simp [draining]), nofun⟩
  | stop drained =>
    rw [drained] at account
    have inTime := orderly.ended
    rw [drained] at inTime
    exact ⟨account, orderly.spawned, fun _ => orderly.built (by simp [drained]), inTime⟩
  | leave stopped =>
    rw [stopped] at account
    have inTime := orderly.ended
    rw [stopped] at inTime
    exact ⟨account, orderly.spawned, fun _ => orderly.built (by simp [stopped]), inTime⟩

end Orderly

theorem orderly_of_run {c : Controller} {w : ω} (run : (start c w).run answer moves = some s) :
    s.Orderly :=
  runMoves_induction (P := fun _ s => s.Orderly) (.start c w)
    (fun orderly step => orderly.of_transition (transition_of_step step)) run

end Service

end NetControl.Daemon
