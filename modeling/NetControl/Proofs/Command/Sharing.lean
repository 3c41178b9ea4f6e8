import Mathlib.Data.List.Perm.Basic
import NetControl.Command.Client
import NetControl.Proofs.Runs

/-!
# Calls that share a connection

`Outbox.Transition` lists what each move of calls that share a connection finds and where it leads.
Two invariants are drawn from it. `Outbox.Accounted` says whose turn it was: each call that has
begun waits, or holds the connection, or has left it, with the response that was put together when
it began. `Outbox.Judged` says why a call has ended with success, or without.
-/

namespace NetControl.Command

namespace Writing

variable {w : Writing}

theorem isWhole_iff : w.isWhole = true ↔ w.left = [] :=
  List.isEmpty_iff

end Writing

namespace Outbox

open Lifecycle

variable {client : Client} {o o' : Outbox} {m : Move} {moves : List Move}

/-! ## One move -/

/-- `o.Transition m o'`: the move `m` can lead from `o` to `o'`. -/
inductive Transition (o : Outbox) : Move → Outbox → Prop
  | setSequence (number : Int32) :
    Transition o (.setSequence number)
      { o with client := { o.client with sequence := number } }
  | begin (sending : Client.Sending) :
    Transition o (.begin sending)
      { o with
        begun := o.begun + 1
        waiting := o.waiting ++ [{ call := o.begun, left := o.client.bytes sending }] }
  | hold {w : Writing} (free : o.active = none) (waits : w ∈ o.waiting) :
    Transition o (.hold w.call) { o with waiting := o.waiting.erase w, active := some w }
  | take {w : Writing} {count : Nat} (holds : o.active = some w) (running : w.result? = none)
    (positive : 0 < count) (within : count ≤ w.left.length) :
    Transition o (.take count)
      { o with
        sent := o.sent ++ w.left.take count
        active := some { w with
          taken := w.taken ++ w.left.take count, left := w.left.drop count } }
  | refuse {w : Writing} (holds : o.active = some w) (running : w.result? = none)
    (torn : w.isWhole = false) :
    Transition o .refuse { o with active := some { w with result? := some false } }
  | flush {w : Writing} (holds : o.active = some w) (running : w.result? = none)
    (whole : w.isWhole = true) (succeeds : Bool) :
    Transition o (.flush succeeds) { o with active := some { w with result? := some succeeds } }
  | leave {w : Writing} (holds : o.active = some w) (decided : w.result? ≠ none) :
    Transition o .leave { o with active := none, ended := o.ended ++ [w] }

/-- A connection does nothing but what the cases list. -/
theorem transition_of_step (step : o.step m = some o') : o.Transition m o' := by
  cases m with
  | setSequence number =>
    cases step
    exact .setSequence number
  | begin sending =>
    cases step
    exact .begin sending
  | hold call =>
    simp only [Outbox.step] at step
    split at step
    · next w free found =>
      cases step
      have own : w.call = call := by simpa using List.find?_some found
      rw [← own]
      exact .hold free (List.mem_of_find?_eq_some found)
    · cases step
  | take count =>
    simp only [Outbox.step] at step
    split at step
    · next w holds =>
      split at step
      · next possible =>
        cases step
        exact .take holds possible.1 possible.2.1 possible.2.2
      · cases step
    · cases step
  | refuse =>
    simp only [Outbox.step] at step
    split at step
    · next w holds =>
      split at step
      · next possible =>
        cases step
        exact .refuse holds possible.1 possible.2
      · cases step
    · cases step
  | flush succeeds =>
    simp only [Outbox.step] at step
    split at step
    · next w holds =>
      split at step
      · next possible =>
        cases step
        exact .flush holds possible.1 possible.2 succeeds
      · cases step
    · cases step
  | leave =>
    simp only [Outbox.step] at step
    split at step
    · next w holds =>
      split at step
      · cases step
      · next decided =>
        cases step
        exact .leave holds decided
    · cases step

/-- While a call waits for the connection or holds it, something is possible, whether the peer takes
what it is offered or refuses it. -/
theorem returned_of_stuck (held : ∀ call, o.step (.hold call) = none)
    (flushed : o.step (.flush true) = none) (left : o.step .leave = none)
    (stuck : o.step .refuse = none ∨ ∀ count, o.step (.take count) = none) :
    o.waiting = [] ∧ o.active = none := by
  have free : o.active = none := by
    rw [Option.eq_none_iff_forall_not_mem]
    intro w holds
    rw [Option.mem_def] at holds
    simp only [Outbox.step, holds] at flushed left stuck
    cases running : w.result? with
    | some ok => simp [running] at left
    | none =>
      cases whole : w.isWhole with
      | true => simp [running, whole] at flushed
      | false =>
        have offered : 0 < w.left.length := by
          rw [List.length_pos_iff]
          intro nothing
          rw [Writing.isWhole_iff.mpr nothing] at whole
          cases whole
        rcases stuck with refused | taken
        · simp [running, whole] at refused
        · have first := taken 1
          rw [if_pos ⟨running, Nat.one_pos, offered⟩] at first
          cases first
  refine ⟨?_, free⟩
  rw [List.eq_nil_iff_forall_not_mem]
  intro w waits
  have next := held w.call
  simp only [Outbox.step, free] at next
  split at next
  · cases next
  · next none =>
    cases found : o.waiting.find? (·.call = w.call) with
    | some first => exact none first rfl found
    | none =>
      have other := List.find?_eq_none.mp found w waits
      exact other (decide_eq_true rfl)

/-! ## The calls -/

/-- The calls that got the connection, in the order in which they did. -/
def held (o : Outbox) : List Writing :=
  o.ended ++ o.active.toList

/-- The responses of the calls that moves begin, in order, where the connection is like this before
the moves. -/
def responses (client : Client) : List Move → List Bytes
  | [] => []
  | .setSequence number :: rest => responses { client with sequence := number } rest
  | .begin sending :: rest => client.bytes sending :: responses client rest
  | _ :: rest => responses client rest

/-- The call that a move gives the connection to. -/
def Move.holder? : Move → Option Nat
  | hold call => some call
  | _ => none

/-- The calls that moves give the connection to, in order. -/
def holders (moves : List Move) : List Nat :=
  moves.filterMap Move.holder?

theorem holders_concat : holders (moves ++ [m]) = holders moves ++ m.holder?.toList := by
  unfold holders
  rw [List.filterMap_append]
  cases named : m.holder? <;> simp [named]

/-- Every call that has begun is somewhere, once, and writes its own response. -/
structure Accounted (client : Client) (moves : List Move) (o : Outbox) : Prop where
  /-- Whatever begins from now on begins on the connection as it is now. -/
  later : ∀ more,
    responses client (moves ++ more) = responses client moves ++ responses o.client more
  begun : o.begun = (responses client moves).length
  order : o.held.map Writing.call = holders moves
  once : ((o.held ++ o.waiting).map fun w => (w.response, w.call)).Perm
    (responses client moves).zipIdx

namespace Accounted

theorem new : Accounted client [] { client } where
  later _ := rfl
  begun := rfl
  order := rfl
  once := .refl []

/-- A move that begins no call and gives nobody the connection leaves the account as it is, if the
calls stay where they are. -/
theorem of_same (accounted : Accounted client moves o)
    (quiet : ∀ more, responses o.client (m :: more) = responses o'.client more)
    (begun : o'.begun = o.begun) (silent : m.holder? = none)
    (calls : o'.held.map Writing.call = o.held.map Writing.call)
    (same : (o'.held ++ o'.waiting).map (fun w => (w.response, w.call)) =
      (o.held ++ o.waiting).map fun w => (w.response, w.call)) :
    Accounted client (moves ++ [m]) o' := by
  have nothing : responses client (moves ++ [m]) = responses client moves := by
    rw [accounted.later, quiet, responses, List.append_nil]
  refine ⟨fun more => ?_, ?_, ?_, ?_⟩
  · rw [List.append_assoc, accounted.later, nothing, List.singleton_append, quiet]
  · rw [begun, nothing, accounted.begun]
  · rw [calls, holders_concat, silent, accounted.order]
    exact (List.append_nil _).symm
  · rw [same, nothing]
    exact accounted.once

theorem of_transition (accounted : Accounted client moves o) (step : o.Transition m o') :
    Accounted client (moves ++ [m]) o' := by
  cases step with
  | setSequence number => exact accounted.of_same (fun _ => rfl) rfl rfl rfl rfl
  | begin sending =>
    have one : responses client (moves ++ [.begin sending]) =
        responses client moves ++ [o.client.bytes sending] := accounted.later _
    refine ⟨fun more => ?_, ?_, ?_, ?_⟩
    · rw [List.append_assoc, accounted.later, one, List.append_assoc]
      rfl
    · rw [one, List.length_append, accounted.begun]
      rfl
    · rw [holders_concat]
      exact accounted.order.trans (List.append_nil _).symm
    · rw [one, List.zipIdx_append, ← List.append_assoc, List.map_append]
      refine accounted.once.append ?_
      rw [Nat.zero_add, ← accounted.begun]
      exact .refl _
  | @hold w free waits =>
    have nothing : responses client (moves ++ [.hold w.call]) = responses client moves := by
      rw [accounted.later]
      exact List.append_nil _
    have before : o.held = o.ended := by
      unfold held
      rw [free]
      exact List.append_nil _
    refine ⟨fun more => ?_, ?_, ?_, ?_⟩
    · rw [List.append_assoc, accounted.later, nothing]
      rfl
    · rw [nothing]
      exact accounted.begun
    · rw [holders_concat, ← accounted.order, before]
      exact List.map_append
    · rw [nothing]
      refine List.Perm.trans (List.Perm.map _ ?_) accounted.once
      rw [before]
      change ((o.ended ++ [w]) ++ o.waiting.erase w).Perm (o.ended ++ o.waiting)
      rw [List.append_assoc]
      exact (List.perm_cons_erase waits).symm.append_left o.ended
  | @take w count holds running positive within =>
    refine accounted.of_same (fun _ => rfl) rfl rfl ?_ ?_
    · simp [held, holds]
    · simp [held, holds, Writing.response]
  | refuse holds | flush holds =>
    refine accounted.of_same (fun _ => rfl) rfl rfl ?_ ?_
    · simp [held, holds]
    · simp [held, holds, Writing.response]
  | leave holds =>
    refine accounted.of_same (fun _ => rfl) rfl rfl ?_ ?_
    · simp [held, holds]
    · simp [held, holds]

/-- A call writes the response that it has put together. -/
theorem response (accounted : Accounted client moves o) {w : Writing}
    (member : w ∈ o.held ++ o.waiting) :
    (responses client moves)[w.call]? = some w.response := by
  have own : (w.response, w.call) ∈ (responses client moves).zipIdx :=
    accounted.once.subset (List.mem_map_of_mem member)
  exact List.mem_zipIdx_iff_getElem?.mp own

theorem calls (accounted : Accounted client moves o) :
    ((o.held ++ o.waiting).map Writing.call).Perm (List.range (responses client moves).length) := by
  have numbers := accounted.once.map Prod.snd
  rw [List.map_map, List.zipIdx_map_snd, ← List.range_eq_range'] at numbers
  exact numbers

end Accounted

theorem accounted_of_run (run : Outbox.run { client } moves = some o) :
    Accounted client moves o :=
  runMoves_induction (P := Accounted client) .new
    (fun accounted step => accounted.of_transition (transition_of_step step)) run

/-! ## How calls end -/

/-- How it can come that the call ends with success, or without. -/
inductive Verdict (moves : List Move) (w : Writing) : Bool → Prop
  | succeeds (whole : w.isWhole = true) : Verdict moves w true
  | unflushed (whole : w.isWhole = true) (flushed : .flush false ∈ moves) : Verdict moves w false
  | refused (torn : w.isWhole = false) (refused : .refuse ∈ moves) : Verdict moves w false

theorem Verdict.concat {w : Writing} {ok : Bool} (verdict : Verdict moves w ok) :
    Verdict (moves ++ [m]) w ok := by
  cases verdict with
  | succeeds whole => exact .succeeds whole
  | unflushed whole flushed => exact .unflushed whole (List.mem_append_left _ flushed)
  | refused torn refused => exact .refused torn (List.mem_append_left _ refused)

theorem Verdict.isWhole {w : Writing} {ok : Bool} (verdict : Verdict moves w ok)
    (unrefused : .refuse ∉ moves) : w.isWhole = true := by
  cases verdict with
  | succeeds whole => exact whole
  | unflushed whole flushed => exact whole
  | refused torn refused => exact (unrefused refused).elim

/-- Calls that wait have done nothing, and those that have left are over, for a reason. -/
structure Judged (moves : List Move) (o : Outbox) : Prop where
  fresh : ∀ w ∈ o.waiting, w.taken = [] ∧ w.result? = none
  decided : ∀ w ∈ o.ended, w.result? ≠ none
  judged : ∀ w ∈ o.held, ∀ ok, w.result? = some ok → Verdict moves w ok

namespace Judged

theorem new : Judged [] { client } where
  fresh := List.forall_mem_nil _
  decided := List.forall_mem_nil _
  judged := List.forall_mem_nil _

/-- The call that holds the connection goes on, and whatever it learns is for a reason. -/
theorem of_active (judged : Judged moves o) {sent : Bytes} {w : Writing}
    (verdict : ∀ ok, w.result? = some ok → Verdict (moves ++ [m]) w ok) :
    Judged (moves ++ [m]) { o with sent, active := some w } := by
  refine ⟨judged.fresh, judged.decided, ?_⟩
  unfold held
  rw [List.forall_mem_append]
  refine ⟨fun w' member ok result => ?_, List.forall_mem_singleton.mpr verdict⟩
  exact (judged.judged w' (List.mem_append_left _ member) ok result).concat

theorem of_transition (judged : Judged moves o) (step : o.Transition m o') :
    Judged (moves ++ [m]) o' := by
  have still : ∀ w ∈ o.held, ∀ ok, w.result? = some ok → Verdict (moves ++ [m]) w ok :=
    fun w member ok result => (judged.judged w member ok result).concat
  cases step with
  | setSequence number => exact ⟨judged.fresh, judged.decided, still⟩
  | begin sending =>
    refine ⟨?_, judged.decided, still⟩
    rw [List.forall_mem_append]
    exact ⟨judged.fresh, List.forall_mem_singleton.mpr ⟨rfl, rfl⟩⟩
  | @hold w free waits =>
    have begins : Judged (moves ++ [.hold w.call]) { o with active := some w } :=
      judged.of_active fun ok result => by
        rw [(judged.fresh w waits).2] at result
        cases result
    exact ⟨fun w' member => judged.fresh w' (List.mem_of_mem_erase member), judged.decided,
      begins.judged⟩
  | @take w count holds running positive within =>
    refine judged.of_active fun ok result => ?_
    cases running.symm.trans result
  | refuse holds running torn =>
    refine judged.of_active fun ok result => ?_
    cases result
    exact .refused torn (List.mem_append_right _ (List.mem_singleton_self _))
  | flush holds running whole succeeds =>
    refine judged.of_active fun ok result => ?_
    cases result
    cases succeeds with
    | true => exact .succeeds whole
    | false => exact .unflushed whole (List.mem_append_right _ (List.mem_singleton_self _))
  | @leave w holds decided =>
    have same : held { o with active := none, ended := o.ended ++ [w] } = o.held := by
      simp [held, holds]
    refine ⟨judged.fresh, ?_, by rw [same]; exact still⟩
    rw [List.forall_mem_append]
    exact ⟨judged.decided, List.forall_mem_singleton.mpr decided⟩

end Judged

theorem judged_of_run (run : Outbox.run { client } moves = some o) : Judged moves o :=
  runMoves_induction (P := Judged) .new
    (fun judged step => judged.of_transition (transition_of_step step)) run

end Outbox

end NetControl.Command
