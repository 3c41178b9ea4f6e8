import NetControl.Lookup.HostTable
import NetControl.Proofs.Lookup.Answered
import NetControl.Proofs.Lookup.Findings
import NetControl.Proofs.Lookup.ReplyStream

/-!
# The size that a request gives an address

A request for the host with an address says how many octets the address has. The literal is turned
into sixteen octets, as many of them are taken as the request says, and the resolver compares their
number with the family (`takeOctets_of_passes`, `length_takeOctets_ne`). There are no more than
sixteen to take, so that an IPv6 address passes with every size above sixteen. These are the only
sizes that are wrong and go unnoticed: `sizes_of_address_requests` follows the size through all runs
in which the host's library resolves.
-/

namespace NetControl.Net

/-- The number of the family of an address. -/
def Address.family : Address → Int32
  | v4 _ => afInet
  | v6 _ => afInet6

/-- The address of a literal of the family. -/
def literalOf? (family : Int32) (text : String) : Option Address :=
  if family = afInet then (parseV4 text.toList).map .v4
  else if family = afInet6 then (parseV6 text.toList).map .v6
  else none

end NetControl.Net

namespace NetControl.Lookup

open Command Net

variable {text : String} {address : Address} {size : Int32}

/-! ## The request -/

/-- The six arguments of the line ask for the host with the address, which they give by a literal of
its family, and say that it has `size` octets. -/
def AsksHost (text : String) (address : Address) (size : Int32) : Prop :=
  ∃ literal count family pid interface,
    Line.parse text = .ok ["gethostbyaddr", literal, count, family, pid, interface] ∧
      literalOf? (Text.lenientInt32 family) literal = some address ∧
      Text.lenientInt32 count = size

/-- The octets of an address, filled up with zeros to sixteen. -/
def filledOctets (address : Address) : Bytes :=
  address.bytes ++ List.replicate (16 - address.bytes.length) 0

/-- What is asked about the address of such a line. -/
def sizedQuery (address : Address) (size : Int32) : Query :=
  .hostByAddress (Request.takeOctets size (filledOctets address)) address.family

theorem addressSize_family (address : Address) :
    addressSize address.family = some address.bytes.length := by
  cases address with
  | v4 octets =>
    rw [Address.bytes, octets.property]
    rfl
  | v6 octets =>
    rw [Address.bytes, octets.property]
    rfl

theorem length_bytes_eq (address : Address) :
    address.bytes.length = 4 ∨ address.bytes.length = 16 := by
  cases address with
  | v4 octets => exact Or.inl octets.property
  | v6 octets => exact Or.inr octets.property

theorem addressOctets_of_literal {family : Int32} {literal : String}
    (reads : literalOf? family literal = some address) :
    family = address.family ∧
      Request.addressOctets family literal = .ok (filledOctets address) := by
  unfold literalOf? at reads
  unfold Request.addressOctets
  split at reads
  · next ipv4 =>
    obtain ⟨octets, parsed, rfl⟩ := Option.map_eq_some_iff.mp reads
    refine ⟨ipv4, ?_⟩
    rw [if_pos ipv4, parsed]
    dsimp only
    rw [filledOctets, Address.bytes, octets.property]
  · next other =>
    split at reads
    · next ipv6 =>
      obtain ⟨octets, parsed, rfl⟩ := Option.map_eq_some_iff.mp reads
      refine ⟨ipv6, ?_⟩
      rw [if_neg other, if_pos ipv6, parsed]
      dsimp only
      rw [filledOctets, Address.bytes, octets.property]
      exact congrArg Except.ok (List.append_nil _).symm
    · cases reads

theorem ofLine_of_asksHost (asks : AsksHost text address size) :
    ∃ interface pid, Request.ofLine text = .ok ⟨sizedQuery address size, interface, pid⟩ := by
  obtain ⟨literal, count, family, pid, interface, split, reads, rfl⟩ := asks
  obtain ⟨same, octets⟩ := addressOctets_of_literal reads
  rw [Request.ofLine_of_known split (by decide), Request.parse, octets, same]
  exact ⟨_, _, rfl⟩

/-! ## The resolver -/

/-- The size is larger than that of any address, and the address is an IPv6 one, which has as many
octets as can be taken. -/
def Oversized (address : Address) (size : Int32) : Prop :=
  address.family = afInet6 ∧ 16 < size.toInt

/-- What the library answers for the name of the host with an address. -/
def HostLibrary.hostAnswer (l : HostLibrary) (address : Address) : Answer :=
  match l.nameOf address.family address.bytes with
  | .ok name => .hostName (some name)
  | .error code => .failed (Failure.host (hostCode code)).code

/-- The answer to a request that another attempt does not mend. -/
def hopeless : Answer :=
  .failed noRecovery.toUInt32

theorem oversized_iff :
    Oversized address size ↔ address.bytes.length = 16 ∧ 16 < size.toInt := by
  unfold Oversized
  cases address with
  | v4 octets =>
    rw [Address.bytes, octets.property, Address.family]
    exact and_congr_left fun _ => iff_of_false (by decide) (by decide)
  | v6 octets =>
    rw [Address.bytes, octets.property]
    exact and_congr_left fun _ => iff_of_true rfl rfl

/-- The whole address is taken, and nothing more. -/
theorem takeOctets_of_passes (passes : size.toInt = address.bytes.length ∨ Oversized address size) :
    Request.takeOctets size (filledOctets address) = address.bytes := by
  unfold Request.takeOctets filledOctets
  rw [oversized_iff] at passes
  rcases passes with own | ⟨long, above⟩
  · rw [own, Int.toNat_natCast, List.take_left]
  · rw [long, Nat.sub_self, List.replicate_zero, List.append_nil]
    exact List.take_of_length_le (by omega)

/-- More octets or fewer are taken than the address has. -/
theorem length_takeOctets_ne (wrong : size.toInt ≠ address.bytes.length)
    (fits : ¬Oversized address size) :
    (Request.takeOctets size (filledOctets address)).length ≠ address.bytes.length := by
  have length := length_bytes_eq address
  unfold Request.takeOctets filledOctets
  rw [oversized_iff] at fits
  rw [List.length_take, List.length_append, List.length_replicate]
  omega

/-- Where the whole address is taken, the resolver answers what the library does. -/
theorem answer_of_passes (l : HostLibrary) (interface : Option String)
    (passes : size.toInt = address.bytes.length ∨ Oversized address size) :
    (sizedQuery address size).answer l.resolver interface = l.hostAnswer address := by
  change Query.answerOf _ (l.lookupByAddress _ _) = _
  rw [takeOctets_of_passes passes, HostLibrary.lookupByAddress,
    if_pos (addressSize_family address), HostLibrary.hostAnswer]
  cases l.nameOf address.family address.bytes <;> rfl

/-- The resolver does not ask the library about more octets or fewer. -/
theorem answer_of_wrong (l : HostLibrary) (interface : Option String)
    (wrong : size.toInt ≠ address.bytes.length) (fits : ¬Oversized address size) :
    (sizedQuery address size).answer l.resolver interface = hopeless := by
  have other := length_takeOctets_ne wrong fits
  change Query.answerOf _ (l.lookupByAddress _ _) = _
  rw [HostLibrary.lookupByAddress, addressSize_family, if_neg]
  · rfl
  · exact fun same => other (Option.some.inj same).symm

/-! ## Runs -/

/-- Wherever the resolver answers in these moves, it is the host's library that does, which may know
other names each time. -/
def ResolvedByHost (moves : List Pool.Move) : Prop :=
  ∀ x r, .resolve x r ∈ moves → ∃ l : HostLibrary, r = l.resolver

/-- In some run of these moves, in all of which the host's library resolves, `b` was sent as the
response to the line. -/
def RespondsTo (text : String) (moves : List Pool.Move) (b : Bytes) : Prop :=
  ResolvedByHost moves ∧ ∃ limit p i n, (Pool.new limit).run moves = some p ∧
    (arrivedOn moves i)[n]? = some (.line text) ∧ (n, b) ∈ (p.connection i).sent

/-- What was sent for the request is the answer of a resolver that worked on it, or says that there
is no use in asking because the resolver broke down. -/
theorem response_of_asksHost (asks : AsksHost text address size) {moves : List Pool.Move}
    {b : Bytes} (responds : RespondsTo text moves b) :
    (b = hopeless.encode ∧ ∃ x, .breakDown x ∈ moves) ∨
      ∃ x l interface, .resolve x (HostLibrary.resolver l) ∈ moves ∧
        b = ((sizedQuery address size).answer l.resolver interface).encode := by
  obtain ⟨resolved, limit, p, i, n, run, line, sent⟩ := responds
  obtain ⟨interface, pid, reads⟩ := ofLine_of_asksHost asks
  cases Pool.belongs_of_run run i _ sent with
  | @found text' request b line' reads' finds =>
    rw [line] at line'
    cases line'
    rw [reads] at reads'
    cases reads'
    cases finds with
    | @resolved before after job resolver p' interface' split reached asked =>
      have member : .resolve job resolver ∈ moves := by
        rw [split]
        exact List.mem_append_right _ List.mem_cons_self
      obtain ⟨l, rfl⟩ := resolved job resolver member
      have same := Query.encode_answer (sizedQuery address size) l.resolver interface'
      exact Or.inr ⟨job, l, interface', member, same.symm⟩
    | @brokeDown before after job p' interface' split reached asked =>
      have member : .breakDown job ∈ moves := by
        rw [split]
        exact List.mem_append_right _ List.mem_cons_self
      have same := Query.encode_breakdown (sizedQuery address size)
      exact Or.inl ⟨same.symm, job, member⟩
  | rejected line' rejects =>
    rw [line] at line'
    cases line'
    obtain ⟨r, rejected, -⟩ := Request.ofLine_of_rejects rejects
    rw [reads] at rejected
    cases rejected
  | refused line' =>
    rw [line] at line'
    cases line'

/-- One request, which a resolver answers. -/
def soleRequest (text : String) (r : Resolver) : List Pool.Move :=
  [.connect, .arrive 0 [.line text], .take 0, .grant 0, .ask 0, .resolve 0 r, .respond 0]

/-- The pool when the request has arrived. -/
def soleArrival (text : String) : Pool where
  free := 1
  connections := [{ arrivals := [.line text] }]
  events := [Notes.accepted Pool.serviceName]

/-- The answer of the resolver is sent. -/
theorem sent_soleRequest {request : Request} (reads : Request.ofLine text = .ok request)
    (r : Resolver) :
    ∃ p, (Pool.new 1).run (soleRequest text r) = some p ∧ (p.connection 0).sent =
      [(0, (request.query.answer r (request.effectiveInterface {})).encode)] := by
  obtain ⟨events, taken⟩ :=
    Pool.takeLine_of_ok (soleArrival text) 0 { arrivals := [.line text] } [] reads
  have begun : (Pool.new 1).run (soleRequest text r) =
      ((soleArrival text).takeLine 0 { arrivals := [.line text] } [] text).run
        [.grant 0, .ask 0, .resolve 0 r, .respond 0] := rfl
  rw [begun, taken]
  exact ⟨_, rfl, rfl⟩

theorem respondsTo_soleRequest (asks : AsksHost text address size) (l : HostLibrary) :
    ∃ interface, RespondsTo text (soleRequest text l.resolver)
      ((sizedQuery address size).answer l.resolver interface).encode := by
  obtain ⟨interface, pid, reads⟩ := ofLine_of_asksHost asks
  obtain ⟨p, run, sent⟩ := sent_soleRequest reads l.resolver
  refine ⟨Request.effectiveInterface {} ⟨sizedQuery address size, interface, pid⟩, ?_, 1, p, 0, 0,
    run, rfl, ?_⟩
  · intro x r member
    simp only [soleRequest, List.mem_cons, List.not_mem_nil, or_false, reduceCtorEq, false_or,
      Pool.Move.resolve.injEq] at member
    exact ⟨l, member.2⟩
  · rw [sent]
    exact List.mem_singleton_self _

/-! ## Sizes -/

/-- The response goes by the size: it is a result only if the size is that of the address, and with
any other size it says that there is no use in asking. -/
structure GoesBySize (address : Address) (size : Int32) (b : Bytes) : Prop where
  result : Bytes.ofString "222" ++ [0] <+: b → size.toInt = address.bytes.length
  other : size.toInt ≠ address.bytes.length → b = hopeless.encode

theorem not_result_hopeless : ¬Bytes.ofString "222" ++ [0] <+: hopeless.encode := by
  decide +kernel

/-- The second half says it all. -/
theorem goesBySize_iff {b : Bytes} :
    GoesBySize address size b ↔ (size.toInt ≠ address.bytes.length → b = hopeless.encode) := by
  refine ⟨GoesBySize.other, fun other => ⟨fun result => ?_, other⟩⟩
  by_contra wrong
  rw [other wrong] at result
  exact not_result_hopeless result

theorem not_own_of_oversized (excess : Oversized address size) :
    size.toInt ≠ address.bytes.length := by
  obtain ⟨long, above⟩ := oversized_iff.mp excess
  omega

/-- What the responses to a request for the host with an address have to do with the size that the
request gives the address, in all runs in which the host's library resolves. They go by the size
just if the address is no IPv6 address with a size above sixteen. Where the size is that of the
address, and also where an IPv6 address has a size above sixteen, they are what the library answers
for the whole address, unless the resolver breaks down. At rest there is a response, if the peers
take theirs. -/
theorem sizes_of_address_requests (asks : AsksHost text address size) :
    ((∀ moves b, RespondsTo text moves b → GoesBySize address size b) ↔ ¬Oversized address size) ∧
      (size.toInt = address.bytes.length ∨ Oversized address size → ∀ moves b,
        RespondsTo text moves b → (b = hopeless.encode ∧ ∃ x, .breakDown x ∈ moves) ∨
          ∃ x l, .resolve x (HostLibrary.resolver l) ∈ moves ∧ b = (l.hostAnswer address).encode) ∧
      ∀ limit moves p i n, (Pool.new limit).run moves = some p → (∀ i, .deafen i ∉ moves) →
        p.AtRest → (arrivedOn moves i)[n]? = some (.line text) →
          n < dueLines (arrivedOn moves i) → ∃ b, (n, b) ∈ (p.connection i).sent := by
  refine ⟨⟨fun all excess => ?_, fun fits moves b responds => ?_⟩,
    fun passes moves b responds => ?_, fun limit moves p i n run hearing rest line due => ?_⟩
  · let l : HostLibrary := ⟨fun _ _ _ => .ok [], fun _ _ => .ok ""⟩
    obtain ⟨interface, responds⟩ := respondsTo_soleRequest asks l
    have same := (all _ _ responds).other (not_own_of_oversized excess)
    have named : l.hostAnswer address = .hostName (some "") := rfl
    rw [answer_of_passes l interface (Or.inr excess), named] at same
    exact absurd same (by decide +kernel)
  · refine goesBySize_iff.mpr fun wrong => ?_
    rcases response_of_asksHost asks responds with ⟨same, -⟩ | ⟨x, l, interface, -, same⟩
    · exact same
    · rw [same, answer_of_wrong l interface wrong fits]
  · rcases response_of_asksHost asks responds with broke | ⟨x, l, interface, member, same⟩
    · exact Or.inl broke
    · rw [answer_of_passes l interface passes] at same
      exact Or.inr ⟨x, l, member, same⟩
  · have accounted := Pool.accounted_of_run run hearing
    cases found : p.connections[i]? with
    | none =>
      rw [accounted.unborn i found] at line
      cases line
    | some k =>
      have ended := Pool.ended_of_atRest accounted rest
      have finished := (Pool.idle_of_atRest rest ended found).imp_right And.left
      have once := accounted.answered found finished fun j member _ => ended j member
      have inside : n ∈ k.sent.map Prod.fst := once.mem_iff.mpr (List.mem_range.mpr due)
      obtain ⟨⟨_, b⟩, member, rfl⟩ := List.mem_map.mp inside
      rw [Pool.connection_of_found found]
      exact ⟨b, member⟩

/-- An IPv4 address that is said to have seventeen octets: the library would know its name, but it
is not asked. -/
theorem sizes_of_long_ipv4 :
    AsksHost "gethostbyaddr 127.0.0.1 17 2 0 ^" (.v4 ⟨[127, 0, 0, 1], rfl⟩) 17 ∧
      RespondsTo "gethostbyaddr 127.0.0.1 17 2 0 ^"
        (soleRequest "gethostbyaddr 127.0.0.1 17 2 0 ^" (HostTable.library
          { lines := [⟨.v4 ⟨[127, 0, 0, 1], rfl⟩, "localhost", []⟩] }).resolver)
        hopeless.encode := by
  have asks : AsksHost "gethostbyaddr 127.0.0.1 17 2 0 ^" (.v4 ⟨[127, 0, 0, 1], rfl⟩) 17 :=
    ⟨"127.0.0.1", "17", "2", "0", "^", rfl, by decide +kernel, by decide +kernel⟩
  have fits : ¬Oversized (.v4 ⟨[127, 0, 0, 1], rfl⟩) 17 := fun excess => absurd excess.1 (by decide)
  obtain ⟨interface, responds⟩ := respondsTo_soleRequest asks
    (HostTable.library { lines := [⟨.v4 ⟨[127, 0, 0, 1], rfl⟩, "localhost", []⟩] })
  have goes := (sizes_of_address_requests asks).1.mpr fits _ _ responds
  have same := goes.other (by decide)
  rw [same] at responds
  exact ⟨asks, responds⟩

/-- An IPv6 address that is said to have seventeen octets: its name is a result, and that it has
none is no failure that another attempt would not mend. -/
theorem oversized_ipv6_passes :
    AsksHost "gethostbyaddr ::1 17 10 0 ^" (.v6 ⟨List.replicate 15 0 ++ [1], rfl⟩) 17 ∧
      ((Pool.new 1).run (soleRequest "gethostbyaddr ::1 17 10 0 ^"
          (HostTable.library { lines := [⟨.v6 ⟨List.replicate 15 0 ++ [1], rfl⟩, "localhost", []⟩] }
            ).resolver)).map (fun p => (p.connection 0).sent) =
        some [(0, (Answer.hostName (some "localhost")).encode)] ∧
      ((Pool.new 1).run (soleRequest "gethostbyaddr :: 17 10 0 ^"
          HostTable.unreachable.library.resolver)).map (fun p => (p.connection 0).sent) =
        some [(0, (Answer.failed hostNotFound.toUInt32).encode)] := by
  refine ⟨⟨"::1", "17", "10", "0", "^", rfl, by decide +kernel, by decide +kernel⟩, ?_, ?_⟩
  · decide +kernel
  · decide +kernel

end NetControl.Lookup
