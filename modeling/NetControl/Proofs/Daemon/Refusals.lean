import NetControl.Proofs.Control.Effects
import NetControl.Proofs.Daemon.Sockets
import NetControl.Proofs.Lookup.Offers

/-!
# A refused request changes nothing

Both sockets refuse what is no request of their language, and the lookup socket refuses a text that
is no address. `Sockets.unchanged_of_refused` says of every state that a daemon can come to that a
line with such an answer leaves everything as it was: the controller, the world outside with its
switches, knobs and daemon, the associations of processes, the lookups and their permits. On the
control socket the reason is that a line is read as a whole before anything of it is carried out
(`Control.quiet_or_reports`); on the lookup socket it is that only a loop refuses, and that what it
refuses is never looked up (`Pool.of_refusal`).
-/

namespace NetControl.Daemon

open Command Lookup Tether Text

/-! ## Reports on the control socket -/

/-- A text response begins with its code. -/
theorem exists_encode_text (code : Code) (sequence : Option Int32) (message : String) :
    ∃ rest, (Response.text code sequence message).encode =
      Bytes.ofString (String.ofList code.digits) ++ rest := by
  unfold Response.encode Response.line
  cases sequence with
  | none =>
    simp only [Bytes.ofString_append, List.append_assoc]
    exact ⟨_, rfl⟩
  | some n =>
    simp only [Bytes.ofString_append, List.append_assoc]
    exact ⟨_, rfl⟩

/-- A report on a change is no refusal. -/
theorem not_isRefusal_of_reports {client : Client} {responses : List Response} {last : Response}
    (reports : Control.Reports client responses) (ends : responses.getLast? = some last) :
    ¬IsRefusal last.encode := by
  obtain ⟨code, message, known, rfl⟩ := reports
  obtain rfl : .text code client.sequence? message = last := Option.some.inj ends
  obtain ⟨rest, begins⟩ := exists_encode_text code client.sequence? message
  have okay : Bytes.ofString (String.ofList Code.okay.digits) = [50, 48, 48] := by decide +kernel
  have failed : Bytes.ofString (String.ofList Code.operationFailed.digits) = [52, 48, 48] := by
    decide +kernel
  unfold IsRefusal
  rw [begins]
  rcases known with rfl | rfl
  · rw [okay]
    simp
  · rw [failed]
    simp

namespace Sockets

variable {ω : Type} {answer : (c : Call) → ω → c.Answer × ω} {s t : Sockets ω} {e : Event}
  {limit : Nat} {events : List Event}

/-! ## One event -/

/-- Everything that requests are about is as it was. -/
structure Unchanged (s t : Sockets ω) : Prop where
  controller : t.control.service.controller = s.control.service.controller
  /-- The world has the switches, the knobs, the daemon and what was written to it. -/
  world : t.control.world = s.control.world
  /-- The associations, the lookups, what the resolver was asked, and the permits. -/
  work : s.pool.SameWork t.pool

/-- The response that ends the answer to a line, if the event gives one. -/
def terminal? (answer : (c : Call) → ω → c.Answer × ω) (s : Sockets ω) : Event → Option Bytes
  | .command i line => ((s.shared.hear answer (i, line)).sent i).getLast?.map Response.encode
  | .lookup m => s.pool.offers? m

/-- The response refuses the request. -/
def Event.Refused : Event → Bytes → Prop
  | command _ _, b => IsRefusal b
  | lookup _, b => IsRefusal b ∨ SaysNoAddress b

/-- A control line is answered on its connection, and the last response ends the answer. -/
theorem Trace.answered (trace : Trace limit events s)
    (answer : (c : Call) → ω → c.Answer × ω) (i : Nat) (line : Bytes) :
    ∃ responses last, (s.shared.hear answer (i, line)).sent i =
      s.control.sent i ++ (responses ++ [last]) := by
  obtain ⟨responses, h, executed, sent, -⟩ :=
    Control.Socket.follows_hear (i, line) answer s.shared
  obtain ⟨-, -, last, -, grown⟩ := Control.of_follows_executeLine (trace.numbered i) executed
  exact ⟨_, last, grown ▸ sent⟩

theorem eq_of_command {i : Nat} {line : Bytes}
    (step : s.step answer (.command i line) = some t) :
    t.control = s.shared.hear answer (i, line) ∧ t.pool =
      { s.pool with associations := (s.shared.hear answer (i, line)).service.associations } := by
  have same := Option.some.inj step
  exact ⟨congrArg control same.symm, congrArg pool same.symm⟩

/-- A control line that asks nothing of the world and leaves the service as it was changes
nothing. -/
theorem unchanged_of_quiet {i : Nat} {line : Bytes}
    (service : (s.shared.hear answer (i, line)).service = s.shared.service)
    (asked : Plan.Answers answer s.shared.world [] (s.shared.hear answer (i, line)).world)
    (step : s.step answer (.command i line) = some t) : s.Unchanged t := by
  obtain ⟨control, pool⟩ := eq_of_command step
  have associations : t.pool.associations = s.pool.associations := by
    rw [pool, service]
    rfl
  refine ⟨?_, ?_, ⟨associations, ?_, ?_, ?_⟩⟩
  · rw [control, service]
    rfl
  · rw [control]
    exact Plan.eq_of_answers_nil asked
  · rw [pool]
  · rw [pool]
  · rw [pool]

/-- A control line that is refused, or that only reads, changes nothing. -/
theorem Trace.unchanged_of_command (trace : Trace limit events s) {i : Nat} {line : Bytes}
    (quiet : (∃ b, s.terminal? answer (.command i line) = some b ∧ IsRefusal b) ∨
      (Control.words (lossy line)).tail ∈ Control.queries)
    (step : s.step answer (.command i line) = some t) : s.Unchanged t := by
  obtain ⟨responses, h, executed, sent, asked⟩ :=
    Control.Socket.follows_hear (i, line) answer s.shared
  have numbered : (s.shared.client i).withSequence = true := trace.numbered i
  have nothing : h = [] ∧ (s.shared.hear answer (i, line)).service = s.shared.service := by
    rcases quiet with ⟨b, ends, refusal⟩ | query
    · rcases Control.quiet_or_reports numbered executed with nothing | ⟨-, -, -, reports⟩
      · exact nothing
      · obtain ⟨last, final, rfl⟩ := Option.map_eq_some_iff.mp ends
        have own : responses.getLast? = some last := by
          obtain ⟨code, message, -, rfl⟩ := reports
          rw [sent, List.getLast?_append] at final
          exact final
        exact (not_isRefusal_of_reports reports own refusal).elim
    · exact Control.quiet_of_query numbered query executed
  obtain ⟨rfl, service⟩ := nothing
  exact unchanged_of_quiet service asked step

/-! ## Every state -/

variable {mode : String} {switches : Switches} {places : Places} {w : ω}

/-- In every state that a daemon can come to, and whatever fails: a line on either socket whose
answer ends in a refusal changes nothing, and if it is on the lookup socket, no lookup for it ever
comes to be, so that it takes no permit and the resolver is not asked. Nor does a line on the
control socket change anything that asks for the status of tethering or forwarding or for one of the
lists. The answer to a control line ends in its last response; on the lookup socket nothing is sent
but what is given; and a control line that is too long for its connection does nothing but end
it. -/
theorem unchanged_of_refused
    (run : (start answer mode switches places w limit).run answer events = some s)
    (step : s.step answer e = some t) :
    (∀ b, s.terminal? answer e = some b → e.Refused b → s.Unchanged t ∧
        ∀ m, e = .lookup m → ∃ i, m = .take i ∧ ∀ later u, t.run answer later = some u →
          ∀ j ∈ u.pool.jobs, ¬(j.connection = i ∧ j.line = (s.pool.connection i).taken)) ∧
      (∀ i line, e = .command i line → (Control.words (lossy line)).tail ∈ Control.queries →
        s.Unchanged t) ∧
      (∀ i line, e = .command i line → ∃ responses last,
        t.control.sent i = s.control.sent i ++ (responses ++ [last]) ∧
          s.terminal? answer e = some last.encode) ∧
      (∀ m i, e = .lookup m → (t.pool.connection i).sent = (s.pool.connection i).sent ∨
        ∃ n b, s.terminal? answer e = some b ∧
          (t.pool.connection i).sent = (s.pool.connection i).sent ++ [(n, b)]) ∧
      ∀ deaf rest i,
        let o := (Control.Conversation.serve deaf (.tooLong :: rest)).run answer
          ⟨s.control.service, s.control.client i, s.control.sent i⟩ s.control.world
        o.state.service = s.control.service ∧ o.world = s.control.world ∧
          o.state.sent = s.control.sent i ++ if deaf then []
            else [.text 500 (s.control.client i).sequence? "Command too large for buffer"] := by
  have trace := trace_of_run run
  refine ⟨?_, ?_, ?_, ?_, ?_⟩
  · intro b ends refused
    cases e with
    | command i line =>
      exact ⟨trace.unchanged_of_command (Or.inl ⟨b, ends, refused⟩) step, nofun⟩
    | lookup m =>
      obtain ⟨pool, stepped, rfl, -⟩ := of_lookup step
      obtain ⟨work, i, a, rfl, next, own⟩ :=
        Pool.of_refusal (Pool.transition_of_step stepped) ends refused
      refine ⟨⟨rfl, rfl, work⟩, fun m same => ⟨i, (Event.lookup.inj same).symm, ?_⟩⟩
      intro later u further
      have whole : (start answer mode switches places w limit).run answer
          (events ++ .lookup (.take i) :: later) = some u := by
        unfold Sockets.run at run further ⊢
        rw [List.foldlM_append, run]
        exact Option.bind_eq_some_iff.mpr ⟨s, rfl, Option.bind_eq_some_iff.mpr ⟨_, step, further⟩⟩
      have after := (trace_of_run whole).pool
      rw [moves, List.flatMap_append] at after
      exact Pool.not_line_of_ownAnswer trace.pool next own after
  · rintro i line rfl query
    exact trace.unchanged_of_command (Or.inr query) step
  · rintro i line rfl
    obtain ⟨responses, last, sent⟩ := trace.answered answer i line
    refine ⟨responses, last, ?_, ?_⟩
    · rw [(eq_of_command step).1, sent]
    · rw [terminal?, sent]
      simp
  · rintro m i rfl
    obtain ⟨pool, stepped, rfl, -⟩ := of_lookup step
    exact Pool.sent_of_run trace.pool stepped i
  · intro deaf rest i
    exact Control.quiet_of_tooLong answer deaf rest _ _

/-- An interface is tethered, and a process asks for the name of what is no address. -/
def misspelt : List Event :=
  [.command 0 (Bytes.ofString "1 tether interface add wlan0"), .lookup .connect,
    .lookup (.arrive 0 [.line "gethostbyaddr 8.8.8 4 2 7 ^", .line "gethostbyname 7 ^ host 2"])]

/-- The first line is no lookup, now or later. -/
theorem unchanged_of_misspelt :
    ∃ s t, (start Controller.willing "" {} {} () 1).run Controller.willing misspelt = some s ∧
      s.step Controller.willing (.lookup (.take 0)) = some t ∧
      s.terminal? Controller.willing (.lookup (.take 0)) =
        some (Bytes.ofString "400 inet_pton(\"8.8.8\") failed" ++ [0]) ∧
      s.Unchanged t ∧ ∀ later u, t.run Controller.willing later = some u →
        ∀ j ∈ u.pool.jobs, ¬(j.connection = 0 ∧ j.line = 0) := by
  have outcome : ((start Controller.willing "" {} {} () 1).run Controller.willing misspelt).map
      (fun s => (s.terminal? Controller.willing (.lookup (.take 0)),
        (s.step Controller.willing (.lookup (.take 0))).isSome, (s.pool.connection 0).taken)) =
      some (some (Bytes.ofString "400 inet_pton(\"8.8.8\") failed" ++ [0]), true, 0) := by
    decide +kernel
  obtain ⟨s, run, seen⟩ := Option.map_eq_some_iff.mp outcome
  obtain ⟨ends, possible, taken⟩ : _ ∧ _ ∧ _ := by simpa only [Prod.mk.injEq] using seen
  obtain ⟨t, step⟩ := Option.isSome_iff_exists.mp possible
  have refused : (Event.lookup (.take 0)).Refused
      (Bytes.ofString "400 inet_pton(\"8.8.8\") failed" ++ [0]) := Or.inr (by decide +kernel)
  obtain ⟨unchanged, never⟩ := (unchanged_of_refused run step).1 _ ends refused
  obtain ⟨i, same, never⟩ := never _ rfl
  cases same
  rw [taken] at never
  exact ⟨s, t, run, step, ends, unchanged, never⟩

end Sockets

end NetControl.Daemon
