import NetControl.Proofs.Control.Reads
import NetControl.Proofs.Control.Replies
import NetControl.Proofs.Tether.Framing
import NetControl.Proofs.Tether.Lifetime

/-!
# What a peer of the control socket can rely on

`Socket` is the control socket with all its connections: lines arrive on them in any order, and each
is carried out as a whole. `Socket.responses_of_requests` says what every line adds to the responses
of its connection, in every state that the daemon can come to by such lines, and that the peer can
tell the responses apart by their NULs. The latter needs an invariant, because lists repeat what
earlier lines have said: no text that the controller keeps has a NUL (`Controller.IsPlain`).
-/

namespace NetControl

open Command Text

/-! ## The texts of the controller -/

namespace Tether.Controller

/-- The texts that lists repeat have no NUL. -/
structure IsPlain (c : Controller) : Prop where
  interfaces : ∀ i ∈ c.interfaces, Text.IsPlain i
  servers : ∀ server ∈ c.servers, Text.IsPlain server

theorem isPlain_of_isInterfaceName {i : String} (valid : isInterfaceName i = true) :
    Text.IsPlain i :=
  not_mem_of_isInterfaceName valid (by decide)

variable {c c' : Controller} {op : Operation} {h : List Exchange} {r : Except Error Unit}

theorem IsPlain.of_updateServers (plain : c.IsPlain) {mark : Mark} {servers : List String}
    {update : ServerUpdate} (accepted : updateServers mark servers = .ok update)
    (pieces : ∀ server ∈ servers, Text.IsPlain server) (netId : UInt32) :
    IsPlain { c with servers := update.servers, netId } where
  interfaces := plain.interfaces
  servers server member :=
    pieces server ((bytes_of_updateServers accepted).2.subset member)

theorem isPlain_of_transition (step : c.Transition op h r c') (plain : c.IsPlain)
    (pieces : ∀ server ∈ Control.newServers op, Text.IsPlain server) : c'.IsPlain := by
  cases step with
  | tethers valid absent push =>
    refine ⟨fun i member => ?_, plain.servers⟩
    rcases List.mem_append.mp member with old | last
    · exact plain.interfaces i old
    · exact List.mem_singleton.mp last ▸ isPlain_of_isInterfaceName valid
  | untethers present client push =>
    exact ⟨fun i member => plain.interfaces i (List.mem_of_mem_erase member), plain.servers⟩
  | serversInvalid rejected => exact ⟨plain.interfaces, List.forall_mem_nil _⟩
  | serversUntold accepted running e => exact ⟨plain.interfaces, List.forall_mem_nil _⟩
  | serversKept accepted idle => exact plain.of_updateServers accepted pieces _
  | serversSent accepted running => exact plain.of_updateServers accepted pieces _
  | enable | disable | starts | stops => exact ⟨plain.interfaces, plain.servers⟩
  | startTwice | startOdd | launchFails | stopIdle | tetherInvalid | tetherTwice
  | tetherUnconfigured | tetherUntold | untetherAbsent => exact plain

/-- A controller that has just been booted has no texts at all. -/
theorem isPlain_of_boot {mode : String} {switches : Switches} {places : Places} {u : Unit}
    (booted : (boot mode).Follows (fresh switches places) h u c) : c.IsPlain := by
  obtain ⟨⟨f, rfl⟩, -⟩ := of_follows_boot booted
  exact ⟨List.forall_mem_nil _, List.forall_mem_nil _⟩

end Tether.Controller

namespace Control

open Tether

/-! ## The socket -/

/-- The control socket with all its connections, which are numbered. -/
structure Socket (ω : Type) where
  service : Service
  world : ω
  client : Nat → Client := fun _ => Client.new true
  sent : Nat → List Response := fun _ => []

namespace Socket

variable {ω : Type} (answer : (c : Call) → ω → c.Answer × ω)

/-- The socket of a daemon that has just been booted. -/
def start (mode : String) (switches : Switches) (places : Places) (w : ω) : Socket ω :=
  let o := (Controller.boot mode).run answer (Controller.fresh switches places) w
  { service := { controller := o.state }, world := o.world }

/-- Carries out the line with these bytes, which has arrived on this connection. -/
def hear (k : Socket ω) (request : Nat × Bytes) : Socket ω :=
  let conversation : Conversation := ⟨k.service, k.client request.1, k.sent request.1⟩
  let o := (Conversation.obey (lossy request.2)).run answer conversation k.world
  { service := o.state.service
    world := o.world
    client := fun i => if i = request.1 then o.state.client else k.client i
    sent := fun i => if i = request.1 then o.state.sent else k.sent i }

/-- Carries out lines, one after the other. -/
def hearAll (k : Socket ω) (requests : List (Nat × Bytes)) : Socket ω :=
  requests.foldl (hear answer) k

end Socket

/-- The sequence number of the last line on a connection that had one. -/
def sequenceOn (requests : List (Nat × Bytes)) (connection : Nat) : Int32 :=
  ((requests.filter (·.1 = connection)).filterMap
    fun request => ownSequence? (lossy request.2)).getLast?.getD 0

variable {requests : List (Nat × Bytes)} {request : Nat × Bytes}

theorem sequenceOn_append_self : sequenceOn (requests ++ [request]) request.1 =
    (ownSequence? (lossy request.2)).getD (sequenceOn requests request.1) := by
  have itself : [request].filter (·.1 = request.1) = [request] :=
    List.filter_cons_of_pos (decide_eq_true rfl)
  unfold sequenceOn
  rw [List.filter_append, itself, List.filterMap_append, List.getLast?_append]
  cases own : ownSequence? (lossy request.2) <;> simp [own]

theorem sequenceOn_append_of_ne {connection : Nat} (other : connection ≠ request.1) :
    sequenceOn (requests ++ [request]) connection = sequenceOn requests connection := by
  unfold sequenceOn
  rw [List.filter_append, List.filter_cons_of_neg (by simpa using other.symm), List.filter_nil,
    List.append_nil]

/-! ## One line -/

/-- A connection changes by a line as carrying out the line says, and sends the responses. -/
theorem of_follows_obey {line : String} {c c' : Conversation} {h : List Exchange} {u : Unit}
    (follows : (Conversation.obey line).Follows c h u c') :
    ∃ responses, (executeLine c.client line).Follows c.service h (c'.client, responses) c'.service ∧
      c'.sent = c.sent ++ responses := by
  unfold Conversation.obey Conversation.hear Conversation.send at follows
  obtain ⟨responses, t, h₁, h₂, heard, sent, rfl⟩ := Plan.follows_bind.mp follows
  obtain ⟨⟨client, responses'⟩, t', h₃, h₄, executed, kept, rfl⟩ :=
    Plan.follows_bind.mp (Plan.follows_get_bind.mp heard)
  obtain ⟨s, carried, rfl⟩ : ∃ s, (executeLine c.client line).Follows c.service h₃
      (client, responses') s ∧ t' = { c with service := s } := by
    refine Plan.follows_zoom ?_ ?_ ?_ executed
    · exact fun _ _ => rfl
    · exact fun _ => rfl
    · exact fun _ _ _ => rfl
  simp only [Plan.follows_get_bind, Plan.follows_put_bind, Plan.follows_pure] at kept
  obtain ⟨rfl, rfl, rfl⟩ := kept
  cases Plan.follows_get_bind.mp sent with
  | write done =>
    cases done
    rw [List.append_nil, List.append_nil]
    exact ⟨responses, carried, rfl⟩

theorem isClosed_of_terminal {sequence : Int32} {r : Response} (terminal : Terminal sequence r) :
    r.IsClosed := by
  obtain ⟨code, message, rfl, -, plain⟩ := terminal
  exact Response.isClosed_text plain

theorem isClosed_of_mem_partials {c : Controller} (plain : c.IsPlain) {sequence : Int32}
    {line : String} : ∀ r ∈ partials c sequence line, r.IsClosed := by
  unfold partials
  split
  · split
    · intro r member
      obtain ⟨i, inside, rfl⟩ := List.mem_map.mp member
      exact Response.isClosed_text (plain.interfaces i inside)
    split
    · intro r member
      obtain ⟨server, inside, rfl⟩ := List.mem_map.mp member
      refine Response.isClosed_text ?_
      simp only [isPlain_append]
      exact ⟨⟨isPlain_decimal _, by decide⟩, plain.servers server inside⟩
    · exact List.forall_mem_nil _
  · exact List.forall_mem_nil _

namespace Socket

/-- The socket as these lines have left it: each connection has the number of its last line that
had one, each response is closed, and the controller's texts are plain. -/
structure Orderly {ω : Type} (requests : List (Nat × Bytes)) (k : Socket ω) : Prop where
  client : ∀ i, k.client i = ⟨true, sequenceOn requests i⟩
  closed : ∀ i, ∀ r ∈ k.sent i, r.IsClosed
  plain : k.service.controller.IsPlain

variable {ω : Type} {answer : (c : Call) → ω → c.Answer × ω} {k : Socket ω}

theorem orderly_start (mode : String) (switches : Switches) (places : Places) (w : ω) :
    Orderly [] (start answer mode switches places w) where
  client _ := rfl
  closed _ := List.forall_mem_nil _
  plain := Controller.isPlain_of_boot
    (Plan.follows_run answer (Controller.boot mode) (Controller.fresh switches places) w)

theorem client_hear_of_ne {i : Nat} (other : i ≠ request.1) :
    (k.hear answer request).client i = k.client i :=
  if_neg other

theorem sent_hear_of_ne {i : Nat} (other : i ≠ request.1) :
    (k.hear answer request).sent i = k.sent i :=
  if_neg other

variable (request) (answer) (k) in
/-- The connection of a line carries it out in the world of the socket, and sends the responses. -/
theorem follows_hear : ∃ responses h, (executeLine (k.client request.1) (lossy request.2)).Follows
      k.service h ((k.hear answer request).client request.1, responses)
      (k.hear answer request).service ∧
    (k.hear answer request).sent request.1 = k.sent request.1 ++ responses ∧
    Plan.Answers answer k.world h (k.hear answer request).world := by
  obtain ⟨responses, executed, sent⟩ := of_follows_obey
    (Plan.follows_run answer (Conversation.obey (lossy request.2))
      ⟨k.service, k.client request.1, k.sent request.1⟩ k.world)
  have asked := Plan.answers_exchanges answer (Conversation.obey (lossy request.2))
    ⟨k.service, k.client request.1, k.sent request.1⟩ k.world
  unfold Socket.hear
  simp only [↓reduceIte]
  exact ⟨responses, _, executed, sent, asked⟩

variable (request) (answer) in
/-- One more line is answered as it should be, and leaves the socket orderly. -/
theorem Orderly.hear (orderly : k.Orderly requests) (unbroken : 0 ∉ request.2) :
    (k.hear answer request).Orderly (requests ++ [request]) ∧
      ∃ last, Terminal (sequenceOn (requests ++ [request]) request.1) last ∧
        (k.hear answer request).sent request.1 = k.sent request.1 ++
          (partials k.service.controller (sequenceOn (requests ++ [request]) request.1)
            (lossy request.2) ++ [last]) := by
  obtain ⟨responses, h, executed, grown, -⟩ := follows_hear request answer k
  have numbered : (k.client request.1).withSequence = true := by
    rw [orderly.client]
  obtain ⟨client, moved, last, terminal, answered⟩ := of_follows_executeLine numbered executed
  have sequence : (k.hear answer request).client request.1 =
      ⟨true, sequenceOn (requests ++ [request]) request.1⟩ := by
    rw [client, orderly.client, sequenceOn_append_self]
  rw [sequence] at terminal answered
  rw [answered] at grown
  -- What a line adds to the texts of the controller are arguments of the line.
  have plain : (k.hear answer request).service.controller.IsPlain := by
    rcases moved with same | ⟨op, h, r, pieces, step⟩
    · rw [same]
      exact orderly.plain
    · exact Controller.isPlain_of_transition step orderly.plain fun server member =>
        isPlain_of_mem_words (isPlain_lossy unbroken) (pieces server member)
  refine ⟨⟨fun i => ?_, fun i r member => ?_, plain⟩, last, terminal, grown⟩
  · by_cases here : i = request.1
    · subst here
      exact sequence
    · rw [client_hear_of_ne here, sequenceOn_append_of_ne here]
      exact orderly.client i
  · by_cases here : i = request.1
    · subst here
      rw [grown, List.mem_append, List.mem_append, List.mem_singleton] at member
      rcases member with old | partial' | rfl
      · exact orderly.closed _ r old
      · exact isClosed_of_mem_partials orderly.plain r partial'
      · exact isClosed_of_terminal terminal
    · rw [sent_hear_of_ne here] at member
      exact orderly.closed i r member

/-- Lines leave an orderly socket orderly, whatever lines came before them. -/
theorem Orderly.hearAll {before : List (Nat × Bytes)} (orderly : k.Orderly before)
    (unbroken : ∀ request ∈ requests, 0 ∉ request.2) :
    (k.hearAll answer requests).Orderly (before ++ requests) := by
  induction requests generalizing k before with
  | nil =>
    rw [List.append_nil]
    exact orderly
  | cons request rest ih =>
    obtain ⟨first, others⟩ := List.forall_mem_cons.mp unbroken
    have next := ih (orderly.hear request answer first).1 others
    rw [List.append_assoc] at next
    exact next

/-! ## The discipline -/

/-- In every state that lines on any connections can bring a daemon to, and whatever fails, one more
line on a connection is answered there, and only there, with the partial results that the lists
have and one response that ends the answer. All of them carry the number of the last line of the
connection that had one, this line included. Each response has one NUL, its last byte, so that the
peer gets the responses back when it cuts what it receives at the NULs. -/
theorem responses_of_requests (answer : (c : Call) → ω → c.Answer × ω) (mode : String)
    (switches : Switches) (places : Places) (w : ω) (requests : List (Nat × Bytes))
    (connection : Nat) (bytes : Bytes) (unbroken : ∀ request ∈ requests, 0 ∉ request.2)
    (line : 0 ∉ bytes) :
    let before := (start answer mode switches places w).hearAll answer requests
    let after := before.hear answer (connection, bytes)
    let sequence := sequenceOn (requests ++ [(connection, bytes)]) connection
    (∃ code message, code.toNat / 100 ∈ [2, 4, 5] ∧
      after.sent connection = before.sent connection ++
        (partials before.service.controller sequence (lossy bytes) ++
          [.text code (some sequence) message])) ∧
      (∀ other ≠ connection, after.sent other = before.sent other) ∧
      (∀ r ∈ after.sent connection, r.IsClosed) ∧
      ((after.sent connection).flatMap Response.encode).splitOn 0 =
        (after.sent connection).map (fun r => r.encode.dropLast) ++ [[]] := by
  intro before after sequence
  have orderly : before.Orderly requests :=
    (orderly_start mode switches places w).hearAll unbroken
  obtain ⟨next, last, ⟨code, message, rfl, ends, -⟩, answered⟩ :=
    orderly.hear (connection, bytes) answer line
  refine ⟨⟨code, message, ends, answered⟩, fun other elsewhere => if_neg elsewhere, ?_, ?_⟩
  · exact next.closed connection
  · exact Response.splitOn_output (next.closed connection)

/-- Two connections: one tethers an interface, the other sends a line that is no request. -/
def visits : List (Nat × Bytes) :=
  [(0, Bytes.ofString "7 tether interface add wlan0"), (1, Bytes.ofString "nonsense")]

theorem responses_to_listing :
    let before := (start Controller.willing "" {} {} ()).hearAll Controller.willing visits
    let after := before.hear Controller.willing (0, Bytes.ofString "8 tether interface list")
    (∃ code message, code.toNat / 100 ∈ [2, 4, 5] ∧
      after.sent 0 = before.sent 0 ++ [.text 111 (some 8) "wlan0", .text code (some 8) message]) ∧
      (∀ other ≠ 0, after.sent other = before.sent other) ∧
      (∀ r ∈ after.sent 0, r.IsClosed) ∧
      ((after.sent 0).flatMap Response.encode).splitOn 0 =
        (after.sent 0).map (fun r => r.encode.dropLast) ++ [[]] := by
  intro before after
  have sequence : sequenceOn (visits ++ [(0, Bytes.ofString "8 tether interface list")]) 0 = 8 := by
    decide +kernel
  have results : partials before.service.controller 8
      (lossy (Bytes.ofString "8 tether interface list")) = [.text 111 (some 8) "wlan0"] := by
    decide +kernel
  obtain ⟨⟨code, message, ends, answered⟩, others⟩ :=
    responses_of_requests Controller.willing "" {} {} () visits 0
      (Bytes.ofString "8 tether interface list") (by decide +kernel) (by decide +kernel)
  rw [sequence] at answered
  refine ⟨⟨code, message, ends, ?_⟩, others⟩
  exact answered.trans (congrArg (fun listed => before.sent 0 ++ (listed ++ _)) results)

end Socket

end Control

end NetControl
