import NetControl.Proofs.Lookup.Reading

/-!
# The responses that moves give

A line gets its response either from the loop that takes it, because it is no lookup, or from its
lookup, when that ends. `Pool.offers?` says which response a move gives, whether or not the peer
takes it; nothing else is ever sent (`Pool.sent_of_run`).

The response of a lookup that ends is a result or the code of the resolver. A refusal is therefore
always one of a loop: it has no lookup and never will have one (`Pool.not_line_of_ownAnswer`), and
giving it changes nothing but the connection (`Pool.of_refusal`).
-/

namespace NetControl.Lookup

open Command

/-! ## Refusals -/

/-- The response has a code from 500 to 599: it begins with the digit 5. -/
def IsRefusal (b : Bytes) : Prop :=
  b.head? = some 53

/-- The response says that a text is no address. -/
def SaysNoAddress (b : Bytes) : Prop :=
  Bytes.ofString "400 inet_pton(" <+: b

instance (b : Bytes) : Decidable (IsRefusal b) :=
  inferInstanceAs (Decidable (_ = _))

instance (b : Bytes) : Decidable (SaysNoAddress b) :=
  inferInstanceAs (Decidable (_ <+: _))

/-- Results and failures of the resolver begin with codes of their own. -/
theorem exists_encode_answer (a : Answer) :
    ∃ rest, a.encode = [50, 50, 50, 0] ++ rest ∨ a.encode = [52, 48, 49, 0] ++ rest := by
  have result : Response.encodeCode Code.lookupResult = [50, 50, 50, 0] := encodeCode_lookupResult
  have failure : Response.encodeCode Code.lookupFailed = [52, 48, 49, 0] := encodeCode_lookupFailed
  cases a with
  | addresses found => exact ⟨_, Or.inl (by rw [Answer.encode, result])⟩
  | host entry => exact ⟨_, Or.inl (by rw [Answer.encode, result])⟩
  | hostName name =>
    exact ⟨_, Or.inl (by rw [Answer.encode, Response.encode, result, List.append_assoc])⟩
  | failed code =>
    exact ⟨_, Or.inr (by rw [Answer.encode, Response.encode, failure, List.append_assoc])⟩

/-- The answer to a lookup is no refusal. -/
theorem not_refusal_answer (a : Answer) : ¬(IsRefusal a.encode ∨ SaysNoAddress a.encode) := by
  have words : Bytes.ofString "400 inet_pton(" =
      [52, 48, 48, 32] ++ Bytes.ofString "inet_pton(" := by decide +kernel
  unfold IsRefusal SaysNoAddress
  rw [words]
  obtain ⟨rest, result | failure⟩ := exists_encode_answer a
  · rw [result]
    simp
  · rw [failure]
    simp

namespace Pool

/-! ## What is given to a line -/

/-- The response of a loop to what it has taken, if that is no lookup. -/
def ownAnswer? : Arrival → Option Bytes
  | .tooLong => some (tooLong.response (Client.new false)).encode
  | .line text =>
    match Request.ofLine text with
    | .error r => some (r.response (Client.new false)).encode
    | .ok _ => none

/-- The response that a move gives to a line, whether or not the peer takes it. No move closes the
permits, so that no lookup gives up. -/
def offers? (p : Pool) : Move → Option Bytes
  | .take i => (p.connection i).arrivals.head?.bind ownAnswer?
  | .respond x =>
    p.jobs[x]?.bind fun j =>
      match j.stage with
      | .answered a => some a.encode
      | _ => none
  | _ => none

variable {limit i : Nat} {before : List Move} {p q : Pool} {m : Move} {b : Bytes}

theorem ownAnswer?_of_error {text : String} {r : Rejection}
    (reads : Request.ofLine text = .error r) :
    ownAnswer? (.line text) = some (r.response (Client.new false)).encode := by
  rw [ownAnswer?, reads]

theorem offers?_take {k : Connection} {a : Arrival} {rest : List Arrival}
    (found : p.connections[i]? = some k) (next : k.arrivals = a :: rest) :
    p.offers? (.take i) = ownAnswer? a := by
  rw [offers?, connection_of_found found, next]
  rfl

theorem offers?_respond {x : Nat} {j : Job} {a : Answer} (found : p.jobs[x]? = some j)
    (known : j.stage = .answered a) : p.offers? (.respond x) = some a.encode := by
  rw [offers?, found, Option.bind_some, known]

/-- A connection that is replaced has sent what it has sent, or what is offered as well. -/
theorem sent_of_setConnection {i' : Nat} {k k' : Connection}
    (found : p.connections[i']? = some k)
    (after : q.connections = (p.setConnection i' k').connections)
    (sent : k'.sent = k.sent ∨ ∃ n b, p.offers? m = some b ∧ k'.sent = k.sent ++ [(n, b)]) :
    (q.connection i).sent = (p.connection i).sent ∨
      ∃ n b, p.offers? m = some b ∧ (q.connection i).sent = (p.connection i).sent ++ [(n, b)] := by
  rw [connection_setConnection found after i]
  split
  · next here =>
    subst here
    rw [connection_of_found found]
    exact sent
  · exact Or.inl rfl

theorem sent_of_transition (opened : p.closed = false) (step : p.Transition m q) (i : Nat) :
    (q.connection i).sent = (p.connection i).sent ∨
      ∃ n b, p.offers? m = some b ∧ (q.connection i).sent = (p.connection i).sent ++ [(n, b)] := by
  cases step with
  | connect events => exact Or.inl (congrArg _ (connection_connect p events i))
  | arrive found listening => exact sent_of_setConnection found rfl (Or.inl rfl)
  | hangUp found => exact sent_of_setConnection found rfl (Or.inl rfl)
  | deafen found => exact sent_of_setConnection found rfl (Or.inl rfl)
  | ends found running unstalled empty hungUp events =>
    exact sent_of_setConnection found rfl (Or.inl rfl)
  | @refuses i' k rest found running unstalled next events =>
    exact sent_of_setConnection found rfl
      ((sent_offer k k.taken _).imp_right fun sent => ⟨_, _, offers?_take found next, sent⟩)
  | @rejects i' k text rest r found running unstalled next reads events =>
    have offered := (offers?_take found next).trans (ownAnswer?_of_error reads)
    exact sent_of_setConnection found rfl
      ((sent_offer k k.taken _).imp_right fun sent => ⟨_, _, offered, sent⟩)
  | accepts found running unstalled next reads events =>
    exact sent_of_setConnection found rfl (Or.inl rfl)
  | givesUp found waits closed connected events =>
    rw [opened] at closed
    cases closed
  | @responds x j a k found known connected events =>
    have offered := offers?_respond found known
    exact sent_of_setConnection connected rfl
      ((sent_offer k j.line a.encode).imp_right fun sent => ⟨_, _, offered, sent⟩)
  | associate change => exact Or.inl rfl
  | grant found waits left => exact Or.inl rfl
  | ask found holds interface chosen => exact Or.inl rfl
  | resolves found asked events => exact Or.inl rfl
  | breaksDown found asked events => exact Or.inl rfl

/-- A move of a run sends nothing but the response that it gives. -/
theorem sent_of_run (run : (Pool.new limit).run before = some p) (step : p.step m = some q)
    (i : Nat) : (q.connection i).sent = (p.connection i).sent ∨
      ∃ n b, p.offers? m = some b ∧ (q.connection i).sent = (p.connection i).sent ++ [(n, b)] :=
  sent_of_transition (closed_of_run run) (transition_of_step step) i

/-! ## What a refusal leaves -/

/-- The two pools have the same associations, lookups, permits and requests to the resolver. -/
structure SameWork (p q : Pool) : Prop where
  associations : q.associations = p.associations
  jobs : q.jobs = p.jobs
  calls : q.calls = p.calls
  free : q.free = p.free

/-- A move that gives a refusal is one of a loop that takes what is no lookup, and changes nothing
but the connection. -/
theorem of_refusal (step : p.Transition m q) (offered : p.offers? m = some b)
    (refusal : IsRefusal b ∨ SaysNoAddress b) :
    p.SameWork q ∧ ∃ i a, m = .take i ∧ (p.connection i).arrivals.head? = some a ∧
      ownAnswer? a = some b := by
  cases step with
  | @ends i k found running unstalled empty hungUp events =>
    rw [offers?, connection_of_found found, empty] at offered
    cases offered
  | @refuses i k rest found running unstalled next events =>
    refine ⟨⟨rfl, rfl, rfl, rfl⟩, i, _, rfl, ?_, (offers?_take found next).symm.trans offered⟩
    rw [connection_of_found found, next]
    rfl
  | @rejects i k text rest r found running unstalled next reads events =>
    refine ⟨⟨rfl, rfl, rfl, rfl⟩, i, _, rfl, ?_, (offers?_take found next).symm.trans offered⟩
    rw [connection_of_found found, next]
    rfl
  | @accepts i k text rest request found running unstalled next reads events =>
    rw [offers?_take found next, ownAnswer?, reads] at offered
    cases offered
  | @responds x j a k found known connected events =>
    rw [offers?_respond found known] at offered
    cases offered
    exact (not_refusal_answer a refusal).elim
  | _ => cases offered

/-- What a loop has answered itself has no lookup, and never will have one. -/
theorem not_line_of_ownAnswer {more : List Move} {u : Pool} {a : Arrival}
    (run : (Pool.new limit).run before = some p)
    (next : (p.connection i).arrivals.head? = some a) (own : ownAnswer? a = some b)
    (later : (Pool.new limit).run (before ++ more) = some u) :
    ∀ j ∈ u.jobs, ¬(j.connection = i ∧ j.line = (p.connection i).taken) := by
  rintro j member ⟨here, line⟩
  obtain ⟨rest, arrivals⟩ := List.head?_eq_some_iff.mp next
  have taken := (readOn_of_run run i).getElem?_taken arrivals more
  obtain ⟨text, same, reads⟩ := (reads_of_run later j member).reads
  rw [here, line, taken, Option.some_inj] at same
  rw [same, ownAnswer?, reads] at own
  cases own

end Pool

end NetControl.Lookup
