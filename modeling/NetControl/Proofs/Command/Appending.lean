import Mathlib.Data.List.Flatten
import NetControl.Proofs.Command.Sharing

/-!
# Responses in one piece

The peer of a connection that calls share takes what each writes in as many pieces as it likes.
`Outbox.Unmixed` says what it has got: the responses that it took whole, one after the other, and
then the beginning of at most one more. `Outbox.responses_of_calls` puts this together with the
account of the calls. To the peer each call is one append, made when its last byte is taken; only a
peer that takes nothing any more can be left with a torn response, and then nothing follows it.
-/

namespace NetControl.Command

namespace Writing

variable {w : Writing}

theorem response_of_isWhole (whole : w.isWhole = true) : w.response = w.taken := by
  unfold response
  rw [isWhole_iff.mp whole, List.append_nil]

/-- What the peer took of a response that it did not take whole is less than the response. -/
theorem taken_ne_response (torn : w.isWhole = false) : w.taken ≠ w.response := by
  intro same
  have nothing : w.left = [] := List.self_eq_append_right.mp same
  rw [isWhole_iff.mpr nothing] at torn
  cases torn

end Writing

namespace Outbox

open Lifecycle

variable {client : Client} {o o' : Outbox} {m : Move} {moves : List Move}

/-! ## What the peer gets -/

/-- The responses that the peer took whole, in the order in which their calls held the
connection. -/
def appended (calls : List Writing) : Bytes :=
  (calls.filter Writing.isWhole).flatMap Writing.response

theorem appended_concat (calls : List Writing) (w : Writing) :
    appended (calls ++ [w]) = appended calls ++ if w.isWhole then w.response else [] := by
  unfold appended
  rw [List.filter_append, List.flatMap_append]
  cases whole : w.isWhole <;> simp [whole]

theorem appended_of_whole {calls : List Writing} (whole : ∀ w ∈ calls, w.isWhole = true) :
    appended calls = calls.flatMap Writing.response := by
  unfold appended
  rw [List.filter_eq_self.mpr whole]

/-- A move by which the peer takes bytes. -/
def Move.takes : Move → Bool
  | take _ => true
  | _ => false

/-- Once the peer has taken nothing of what it was offered, it takes nothing any more. -/
def Steady (moves : List Move) : Prop :=
  moves.Pairwise fun earlier later => earlier = .refuse → later.takes = false

instance (moves : List Move) : Decidable (Steady moves) :=
  inferInstanceAs (Decidable (List.Pairwise _ _))

theorem Steady.before (steady : Steady (moves ++ [m])) :
    Steady moves ∧ (m.takes = true → .refuse ∉ moves) := by
  obtain ⟨first, -, across⟩ := List.pairwise_append.mp steady
  refine ⟨first, fun takes refused => ?_⟩
  have nothing := across _ refused m (List.mem_singleton_self m) rfl
  rw [takes] at nothing
  cases nothing

/-- What the peer has got is not mixed up. -/
structure Unmixed (moves : List Move) (o : Outbox) : Prop where
  /-- While the peer takes something of all that it is offered, the calls that have left the
  connection have written all they had, and the one that holds it goes on where they ended. -/
  flowing : .refuse ∉ moves → (∀ w ∈ o.ended, w.isWhole = true) ∧
    o.sent = o.ended.flatMap Writing.response ++ o.active.toList.flatMap Writing.taken
  /-- After the peer has taken nothing, one response is torn, and what was written besides it are
  whole responses before it. -/
  stopped : .refuse ∈ moves →
    ∃ torn ∈ o.held, torn.isWhole = false ∧ o.sent = appended o.held ++ torn.taken

namespace Unmixed

theorem new : Unmixed [] { client } where
  flowing _ := ⟨List.forall_mem_nil _, rfl⟩
  stopped refused := by cases refused

/-- A move that leaves the peer and the calls that got the connection alone leaves the account as it
is. -/
theorem of_same (unmixed : Unmixed moves o) (other : m ≠ .refuse)
    (sent : o'.sent = o.sent) (ended : o'.ended = o.ended) (active : o'.active = o.active) :
    Unmixed (moves ++ [m]) o' := by
  have same : o'.held = o.held := by
    unfold held
    rw [ended, active]
  have refused : .refuse ∈ moves ++ [m] ↔ .refuse ∈ moves := by
    simp [other.symm]
  constructor
  · rw [refused, sent, ended, active]
    exact unmixed.flowing
  · rw [refused, same, sent]
    exact unmixed.stopped

/-- Nor does a call change the account that only learns whether it has succeeded. -/
theorem of_result (unmixed : Unmixed moves o) {w w' : Writing} (holds : o.active = some w)
    (other : m ≠ .refuse ∨ .refuse ∈ moves) (taken : w'.taken = w.taken) (left : w'.left = w.left) :
    Unmixed (moves ++ [m]) { o with active := some w' } := by
  have whole : w'.isWhole = w.isWhole := by
    unfold Writing.isWhole
    rw [left]
  have response : w'.response = w.response := by
    unfold Writing.response
    rw [taken, left]
  refine ⟨fun flowing => ?_, fun refused => ?_⟩
  · simp only [List.mem_append, List.mem_singleton, not_or] at flowing
    obtain ⟨ended, sent⟩ := unmixed.flowing flowing.1
    refine ⟨ended, sent.trans ?_⟩
    simp [holds, taken]
  · have earlier : .refuse ∈ moves := by
      rcases List.mem_append.mp refused with earlier | now
      · exact earlier
      · exact other.elim (fun ne => (ne (List.mem_singleton.mp now).symm).elim) id
    obtain ⟨torn, member, part, sent⟩ := unmixed.stopped earlier
    have same : appended (o.ended ++ [w']) = appended (o.ended ++ [w]) := by
      rw [appended_concat, appended_concat, whole, response]
    simp only [held, holds, Option.toList_some, List.mem_append, List.mem_singleton]
      at member sent ⊢
    rw [same]
    rcases member with left | rfl
    · exact ⟨torn, Or.inl left, part, sent⟩
    · exact ⟨w', Or.inr rfl, whole.trans part, by rw [taken]; exact sent⟩

theorem of_transition (unmixed : Unmixed moves o) (judged : Judged moves o)
    (steady : m.takes = true → .refuse ∉ moves) (step : o.Transition m o') :
    Unmixed (moves ++ [m]) o' := by
  cases step with
  | setSequence number => exact unmixed.of_same nofun rfl rfl rfl
  | begin sending => exact unmixed.of_same nofun rfl rfl rfl
  | @hold w free waits =>
    have nothing : w.taken = [] := (judged.fresh w waits).1
    have refused : .refuse ∈ moves ++ [.hold w.call] ↔ .refuse ∈ moves := by simp
    have before : o.held = o.ended := by
      unfold held
      rw [free]
      exact List.append_nil _
    constructor
    · rw [refused]
      intro flowing
      obtain ⟨ended, sent⟩ := unmixed.flowing flowing
      refine ⟨ended, sent.trans ?_⟩
      simp [free, nothing]
    · rw [refused]
      intro stopped
      obtain ⟨torn, member, part, sent⟩ := unmixed.stopped stopped
      rw [before] at member sent
      refine ⟨torn, List.mem_append_left _ member, part, ?_⟩
      -- A call that has nothing to write adds nothing, and any other adds nothing yet.
      have more : appended (o.ended ++ [w]) = appended o.ended := by
        rw [appended_concat]
        split
        · next whole => rw [Writing.response_of_isWhole whole, nothing, List.append_nil]
        · exact List.append_nil _
      exact sent.trans (congrArg (· ++ torn.taken) more.symm)
  | @take w count holds running positive within =>
    have flowing := steady rfl
    obtain ⟨ended, sent⟩ := unmixed.flowing flowing
    refine ⟨fun _ => ⟨ended, ?_⟩, fun refused => ?_⟩
    · simp [sent, holds]
    · rw [List.mem_append, List.mem_singleton] at refused
      exact refused.elim (fun earlier => (flowing earlier).elim) nofun
  | @refuse w holds running torn =>
    by_cases earlier : .refuse ∈ moves
    · exact unmixed.of_result holds (Or.inr earlier) rfl rfl
    obtain ⟨ended, sent⟩ := unmixed.flowing earlier
    refine ⟨fun flowing => ?_, fun _ => ?_⟩
    · exact (flowing (List.mem_append_right _ (List.mem_singleton_self _))).elim
    · refine ⟨_, List.mem_append_right _ (List.mem_singleton_self _), torn, ?_⟩
      have all : appended (o.ended ++ [{ w with result? := some false }]) =
          o.ended.flatMap Writing.response := by
        rw [appended_concat, appended_of_whole ended]
        exact (congrArg _ (if_neg (ne_true_of_eq_false torn))).trans (List.append_nil _)
      rw [holds] at sent
      change o.sent = appended (o.ended ++ [_]) ++ w.taken
      rw [all, sent]
      simp
  | @flush w holds running whole succeeds => exact unmixed.of_result holds (Or.inl nofun) rfl rfl
  | @leave w holds decided =>
    have refused : .refuse ∈ moves ++ [.leave] ↔ .refuse ∈ moves := by simp
    have same : held { o with active := none, ended := o.ended ++ [w] } = o.held := by
      simp [held, holds]
    constructor
    · rw [refused]
      intro flowing
      obtain ⟨ended, sent⟩ := unmixed.flowing flowing
      obtain ⟨ok, result⟩ := Option.ne_none_iff_exists'.mp decided
      have member : w ∈ o.held :=
        List.mem_append_right _ (by rw [holds]; exact List.mem_singleton_self w)
      have whole : w.isWhole = true := (judged.judged w member ok result).isWhole flowing
      refine ⟨List.forall_mem_append.mpr ⟨ended, List.forall_mem_singleton.mpr whole⟩, ?_⟩
      rw [sent, holds, List.flatMap_append]
      simp [Writing.response_of_isWhole whole]
    · rw [refused, same]
      exact unmixed.stopped

end Unmixed

theorem unmixed_of_run (run : Outbox.run { client } moves = some o) (steady : Steady moves) :
    Unmixed moves o := by
  have both : Judged moves o ∧ (Steady moves → Unmixed moves o) := by
    refine runMoves_induction
      (P := fun moves o => Judged moves o ∧ (Steady moves → Unmixed moves o))
      ⟨.new, fun _ => .new⟩ ?_ run
    rintro before o o' m ⟨judged, unmixed⟩ step
    have transition := transition_of_step step
    refine ⟨judged.of_transition transition, fun steady => ?_⟩
    obtain ⟨earlier, flowing⟩ := steady.before
    exact (unmixed earlier).of_transition judged flowing transition
  exact both.2 steady

/-- At every moment the peer has got whole responses, in the order in which their calls held the
connection, and then the beginning of at most one more. -/
theorem Unmixed.sent (unmixed : Unmixed moves o) :
    ∃ rest, o.sent = appended o.held ++ rest ∧
      (rest = [] ∨ ∃ w ∈ o.held, w.isWhole = false ∧ rest = w.taken) := by
  by_cases refused : .refuse ∈ moves
  · obtain ⟨torn, member, part, sent⟩ := unmixed.stopped refused
    exact ⟨_, sent, Or.inr ⟨torn, member, part, rfl⟩⟩
  obtain ⟨ended, sent⟩ := unmixed.flowing refused
  unfold held
  cases holds : o.active with
  | none =>
    refine ⟨[], ?_, Or.inl rfl⟩
    rw [sent, holds]
    simp [appended_of_whole ended]
  | some w =>
    have before : appended (o.ended ++ [w]) =
        o.ended.flatMap Writing.response ++ if w.isWhole then w.response else [] := by
      rw [appended_concat, appended_of_whole ended]
    rw [sent, holds]
    simp only [Option.toList_some, List.flatMap_singleton, before]
    cases whole : w.isWhole with
    | true =>
      refine ⟨[], ?_, Or.inl rfl⟩
      rw [List.append_nil, if_pos rfl, Writing.response_of_isWhole whole]
    | false =>
      refine ⟨w.taken, ?_, Or.inr ⟨w, ?_, whole, rfl⟩⟩
      · rw [if_neg Bool.false_ne_true, List.append_nil]
      · exact List.mem_append_right _ (List.mem_singleton_self w)

/-- Calls that send any responses share a connection, in any order of their steps, and the peer
takes what they offer in any pieces, or from some moment on takes nothing. Each call that has begun
waits or got the connection, once, and writes the response that it put together when it began. At
every moment the peer has got whole responses, in the order in which their calls got the connection,
and then less than the whole of at most one more. If all calls have ended with success, these are the
responses of all calls. A call of whose response the peer did not take all fails, and if no flush
fails, so does no other. Calls do not wait for ever: where nothing is possible any more, all have
ended. -/
theorem responses_of_calls (run : Outbox.run { client } moves = some o) (steady : Steady moves) :
    o.held.map Writing.call = holders moves ∧
      ((o.held ++ o.waiting).map Writing.call).Perm
        (List.range (responses client moves).length) ∧
      (∀ w ∈ o.held ++ o.waiting, (responses client moves)[w.call]? = some w.response) ∧
      (∃ rest, o.sent = appended o.held ++ rest ∧
        (rest = [] ∨ ∃ w ∈ o.held, w.isWhole = false ∧ rest <+: w.response ∧ rest ≠ w.response)) ∧
      (o.waiting = [] → o.active = none → (∀ w ∈ o.ended, w.result? = some true) →
        (holders moves).Perm (List.range (responses client moves).length) ∧
        o.sent = (holders moves).flatMap fun call => ((responses client moves)[call]?).getD []) ∧
      (∀ w ∈ o.ended, w.isWhole = false → w.result? = some false) ∧
      (.flush false ∉ moves → ∀ w ∈ o.ended, w.isWhole = true → w.result? = some true) ∧
      ((∀ call, o.step (.hold call) = none) → o.step (.flush true) = none → o.step .leave = none →
        (o.step .refuse = none ∨ ∀ count, o.step (.take count) = none) →
        o.waiting = [] ∧ o.active = none) := by
  have accounted := accounted_of_run run
  have judged := judged_of_run run
  obtain ⟨rest, sent, part⟩ := (unmixed_of_run run steady).sent
  have inside {w : Writing} (member : w ∈ o.ended) : w ∈ o.held := List.mem_append_left _ member
  have verdict {w : Writing} (member : w ∈ o.ended) :
      ∃ ok, w.result? = some ok ∧ Verdict moves w ok := by
    obtain ⟨ok, result⟩ := Option.ne_none_iff_exists'.mp (judged.decided w member)
    exact ⟨ok, result, judged.judged w (inside member) ok result⟩
  refine ⟨accounted.order, accounted.calls, fun w => accounted.response, ⟨rest, sent, ?_⟩, ?_, ?_,
    ?_, returned_of_stuck⟩
  · rcases part with nothing | ⟨w, member, torn, taken⟩
    · exact Or.inl nothing
    · refine Or.inr ⟨w, member, torn, ?_, ?_⟩
      · rw [taken]
        exact List.prefix_append w.taken w.left
      · rw [taken]
        exact w.taken_ne_response torn
  · intro waiting active succeeded
    have all : o.held = o.ended := by
      unfold held
      rw [active]
      exact List.append_nil _
    have whole : ∀ w ∈ o.held, w.isWhole = true := by
      intro w member
      have result := succeeded w (all ▸ member)
      cases judged.judged w member true result with
      | succeeds whole => exact whole
    refine ⟨?_, ?_⟩
    · have calls := accounted.calls
      rw [waiting, List.append_nil, accounted.order] at calls
      exact calls
    · have nothing : rest = [] := by
        rcases part with nothing | ⟨w, member, torn, -⟩
        · exact nothing
        · exact (Bool.false_ne_true (torn.symm.trans (whole w member))).elim
      rw [sent, nothing, List.append_nil, appended_of_whole whole, ← accounted.order,
        List.flatMap_map]
      refine List.flatMap_congr fun w member => ?_
      rw [accounted.response (List.mem_append_left _ member)]
      rfl
  · intro w member torn
    obtain ⟨ok, result, verdict⟩ := verdict member
    cases verdict with
    | succeeds whole => cases torn.symm.trans whole
    | unflushed => exact result
    | refused => exact result
  · intro unflushed w member whole
    obtain ⟨ok, result, verdict⟩ := verdict member
    cases verdict with
    | succeeds whole => exact result
    | unflushed _ flushed => exact (unflushed flushed).elim
    | refused torn => cases torn.symm.trans whole

/-- Three calls. The second gets the connection first, and then the first; in the middle of its
response the peer stops taking bytes, and the third call fails as well. -/
def cutOff : List Move :=
  [.begin (.message 200 "done" none), .setSequence 7, .begin (.binary 222 [1, 2, 3]), .hold 1,
    .take 5, .begin (.message 210 "late" none), .take 6, .flush true, .leave, .hold 0, .take 3,
    .refuse, .leave, .hold 2, .refuse, .leave]

theorem responses_of_cutOff :
    ∃ o, Outbox.run { client := Client.new true } cutOff = some o ∧ Steady cutOff ∧
      o.sent = Bytes.ofString "222" ++ [0, 0, 0, 0, 3, 1, 2, 3] ++ Bytes.ofString "200" ∧
      o.held.map Writing.call = [1, 0, 2] ∧
      (∃ rest, o.sent = appended o.held ++ rest ∧
        (rest = [] ∨ ∃ w ∈ o.held, w.isWhole = false ∧ rest <+: w.response ∧ rest ≠ w.response)) ∧
      (∀ w ∈ o.ended, w.isWhole = false → w.result? = some false) ∧
      ∀ w ∈ o.ended, w.isWhole = true → w.result? = some true := by
  obtain ⟨o, run, sent⟩ : ∃ o, Outbox.run { client := Client.new true } cutOff = some o ∧
      o.sent = Bytes.ofString "222" ++ [0, 0, 0, 0, 3, 1, 2, 3] ++ Bytes.ofString "200" :=
    ⟨_, rfl, by decide +kernel⟩
  have steady : Steady cutOff := by decide
  obtain ⟨order, -, -, whole, -, fails, succeeds, -⟩ := responses_of_calls run steady
  exact ⟨o, run, steady, sent, order, whole, fails, succeeds (by decide)⟩

end Outbox

end NetControl.Command
