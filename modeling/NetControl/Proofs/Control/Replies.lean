import NetControl.Control.Conversation
import NetControl.Proofs.Command.Closed
import NetControl.Proofs.Tether.Transition

/-!
# The responses to one line

Whatever a line says and whatever fails, the responses to it are partial results, which only the two
lists have (`partials`), and then one response that ends the answer (`Terminal`). All of them carry
the sequence number that the line has brought, or the last one before it. `of_follows_executeLine`
says so, and what the line does to the controller: an operation whose name servers are arguments of
the line, or nothing.
-/

namespace NetControl.Control

open Command Tether Text

/-! ## What a line says -/

/-- The arguments of a line, none where it has no argument list. -/
def words (line : String) : List String :=
  match Line.parse line with
  | .ok arguments => arguments
  | .error _ => []

/-- The sequence number at the start of a line. -/
def ownSequence? (line : String) : Option Int32 :=
  (words line).head?.bind readInt32?

/-- The partial results in the answer to a line. -/
def partials (c : Controller) (sequence : Int32) (line : String) : List Response :=
  if (ownSequence? line).isSome then
    if (words line).tail = ["tether", "interface", "list"] then
      c.interfaces.map fun interface => .text 111 (some sequence) interface
    else if (words line).tail = ["tether", "dns", "list"] then
      c.servers.map fun server =>
        .text 112 (some sequence) (decimal c.netId.toNat ++ " " ++ server)
    else []
  else []

/-- A response that ends an answer: the request was carried out, failed, or was not accepted. -/
def Terminal (sequence : Int32) (r : Response) : Prop :=
  ∃ code message, r = .text code (some sequence) message ∧ code.toNat / 100 ∈ [2, 4, 5] ∧
    IsPlain message

theorem isPlain_of_mem_words {line argument : String} (plain : IsPlain line)
    (member : argument ∈ words line) : IsPlain argument := by
  unfold words at member
  split at member
  · next arguments read => exact isPlain_of_parse read plain argument member
  · cases member

/-! ## Messages -/

theorem isPlain_describe (number : Int) : IsPlain (OsError.describe number) := by
  have known : ∀ entry ∈ OsError.descriptions, 0 ∉ Bytes.ofString entry.2 := by decide +kernel
  have unknown : IsPlain "Unknown errno" := by decide
  have found {entries : List (Int × String)}
      (unbroken : ∀ entry ∈ entries, 0 ∉ Bytes.ofString entry.2) :
      IsPlain ((entries.lookup number).getD "Unknown errno") := by
    induction entries with
    | nil => exact unknown
    | cons entry rest ih =>
      rw [List.lookup_cons]
      split
      · exact not_mem_ofString_iff.mp (unbroken entry List.mem_cons_self)
      · exact ih fun later member => unbroken later (List.mem_cons_of_mem _ member)
  exact found known

theorem terminal_message {client : Client} (numbered : client.withSequence = true) {code : Code}
    (ends : code.toNat / 100 ∈ [2, 4, 5]) {message : String} (plain : IsPlain message)
    (errno : Option Int) : Terminal client.sequence (client.message code message errno) := by
  have sequence : client.sequence? = some client.sequence := if_pos numbered
  cases errno with
  | none => exact ⟨code, message, by rw [← sequence]; rfl, ends, plain⟩
  | some number =>
    refine ⟨code, message ++ " (" ++ OsError.describe number ++ ")", by rw [← sequence]; rfl, ends,
      ?_⟩
    simp only [isPlain_append]
    exact ⟨⟨⟨plain, by decide⟩, isPlain_describe number⟩, by decide⟩

/-! ## Rejections -/

/-- The rejection says that the request was not accepted. -/
def Refuses (r : Rejection) : Prop :=
  r.code.toNat / 100 ∈ [2, 4, 5] ∧ IsPlain r.message

instance (r : Rejection) : Decidable (Refuses r) :=
  inferInstanceAs (Decidable (_ ∧ _))

theorem terminal_of_refuses {client : Client} (numbered : client.withSequence = true)
    {r : Rejection} (refuses : Refuses r) : Terminal client.sequence (r.response client) :=
  terminal_message numbered refuses.1 refuses.2 r.errno

theorem refuses_unknown {message : String} (plain : IsPlain message) :
    Refuses (Request.unknown message) := by
  have code : Code.syntaxError.toNat / 100 ∈ [2, 4, 5] := by decide
  exact ⟨code, plain⟩

theorem refuses_missingArgument : Refuses Request.missingArgument :=
  refuses_unknown (by decide)

/-! ## What the arguments ask for -/

/-- The name servers that an operation sets. -/
def newServers : Controller.Operation → List String
  | .setServers _ servers => servers
  | _ => []

/-- `Asks arguments x`: the arguments, from the command on, are read as `x`. -/
inductive Asks (arguments : List String) : Except Rejection Request → Prop
  | refused {r : Rejection} (refuses : Refuses r) : Asks arguments (.error r)
  | operate {op : Controller.Operation} (pieces : ∀ server ∈ newServers op, server ∈ arguments) :
    Asks arguments (.ok (.operate op))
  | listInterfaces (list : arguments = ["tether", "interface", "list"]) :
    Asks arguments (.ok .listInterfaces)
  | listServers (list : arguments = ["tether", "dns", "list"]) : Asks arguments (.ok .listServers)
  | tetherStatus : Asks arguments (.ok .tetherStatus)
  | forwardingStatus : Asks arguments (.ok .forwardingStatus)
  | associate (change : Lookup.Associations.Change) : Asks arguments (.ok (.associate change))

/-- An operation that the language knows lacks an argument, or has one too many. -/
theorem asks_of_operation {arguments : List String} (operation : String) (known : List String)
    {message : String} (plain : IsPlain message) :
    Asks arguments (if operation ∈ known then .error Request.missingArgument
      else .error (Request.unknown message)) := by
  split
  · exact .refused refuses_missingArgument
  · exact .refused (refuses_unknown plain)

theorem asks_parseInterface (arguments : List String) :
    Asks ("tether" :: "interface" :: arguments) (Request.parseInterface arguments) := by
  unfold Request.parseInterface
  split
  · exact .listInterfaces rfl
  · exact .operate (List.forall_mem_nil _)
  · exact .operate (List.forall_mem_nil _)
  · exact asks_of_operation _ _ (by decide)
  · exact .refused refuses_missingArgument

theorem asks_parseServers (arguments : List String) :
    Asks ("tether" :: "dns" :: arguments) (Request.parseServers arguments) := by
  unfold Request.parseServers
  split
  · exact .listServers rfl
  · next netId server servers =>
    split
    · refine .operate fun s member => ?_
      exact List.mem_append_right ["tether", "dns", "set", netId] member
    · exact .refused (by decide)
  · exact asks_of_operation _ _ (by decide)
  · exact .refused refuses_missingArgument

theorem asks_parseTether (arguments : List String) :
    Asks ("tether" :: arguments) (Request.parseTether arguments) := by
  unfold Request.parseTether
  split
  · exact .operate (List.forall_mem_nil _)
  · exact .operate (List.forall_mem_nil _)
  · exact .tetherStatus
  · exact asks_parseInterface _
  · exact asks_parseServers _
  · exact asks_of_operation _ _ (by decide)
  · exact .refused refuses_missingArgument

theorem asks_parseForwarding (arguments : List String) :
    Asks ("ipfwd" :: arguments) (Request.parseForwarding arguments) := by
  unfold Request.parseForwarding
  split
  · exact .forwardingStatus
  · exact .operate (List.forall_mem_nil _)
  · exact .operate (List.forall_mem_nil _)
  · exact .refused (refuses_unknown (by decide))

theorem asks_withPid {arguments : List String} (argument : String)
    (change : Int32 → Lookup.Associations.Change) :
    Asks arguments (Request.withPid argument change) := by
  unfold Request.withPid
  split
  · exact .associate _
  · exact .refused (by decide)

theorem asks_parseResolver (arguments : List String) :
    Asks ("resolver" :: arguments) (Request.parseResolver arguments) := by
  unfold Request.parseResolver
  split
  · exact asks_withPid _ _
  · exact asks_withPid _ _
  · exact .associate _
  · next operation rest _ _ _ =>
    split
    · next known =>
      -- The message repeats one of three words.
      have plain : IsPlain operation := by
        have words : ∀ word ∈ ["setifaceforpid", "clearifaceforpid", "setdefaultif"],
            IsPlain word := by decide
        exact words operation known
      exact .refused (refuses_unknown (isPlain_append.mpr ⟨by decide, plain⟩))
    · exact .refused (refuses_unknown (by decide))
  · exact .refused refuses_missingArgument

theorem asks_parse (arguments : List String) : Asks arguments (Request.parse arguments) := by
  unfold Request.parse
  split
  · exact asks_parseTether _
  · exact asks_parseForwarding _
  · exact asks_parseResolver _
  · exact .refused (by decide)

/-! ## Carrying out a request -/

/-- The partial results of a request. -/
def resultsSoFar (client : Client) (c : Controller) : Request → List Response
  | .listInterfaces => c.interfaces.map (client.message Code.tetherInterface · none)
  | .listServers =>
    c.servers.map fun server =>
      client.message Code.tetherServer (decimal c.netId.toNat ++ " " ++ server) none
  | _ => []

/-- What a request does to the controller: an operation, or nothing. -/
def Carries (c c' : Controller) (request : Request) : Prop :=
  c' = c ∨ ∃ op h r, request = .operate op ∧ c.Transition op h r c'

variable {client : Client} {s s' : Service} {h : List Exchange} {responses : List Response}

theorem of_follows_onController {α : Type} {p : Plan Controller α} {a : α}
    (follows : (Service.onController p).Follows s h a s') :
    ∃ c, p.Follows s.controller h a c ∧ s' = { s with controller := c } := by
  unfold Service.onController at follows
  refine Plan.follows_zoom ?_ ?_ ?_ follows
  · exact fun _ _ => rfl
  · exact fun _ => rfl
  · exact fun _ _ _ => rfl

theorem isPlain_operationName (op : Controller.Operation) : IsPlain (operationName op) := by
  have names : IsPlain "ipfwd" ∧ IsPlain "Tether" := by decide
  unfold operationName
  split
  · exact names.1
  · exact names.1
  · exact names.2

/-- A request is answered with its partial results and one response that ends the answer. -/
theorem of_follows_perform (numbered : client.withSequence = true) {request : Request}
    (follows : (request.perform client).Follows s h responses s') :
    Carries s.controller s'.controller request ∧
      ∃ last, Terminal client.sequence last ∧
        responses = resultsSoFar client s.controller request ++ [last] := by
  have succeeded {name : String} (plain : IsPlain name) :
      Terminal client.sequence (Control.succeeded client name) :=
    terminal_message numbered (by decide) (isPlain_append.mpr ⟨plain, by decide⟩) none
  cases request with
  | operate op =>
    have name := isPlain_operationName op
    unfold Request.perform at follows
    obtain ⟨result, t, h₁, h₂, inner, ending, rfl⟩ := Plan.follows_bind.mp follows
    obtain ⟨c', carried, rfl⟩ := of_follows_onController inner
    have moved := Controller.transition_of_follows carried
    cases result with
    | ok _ =>
      obtain ⟨-, rfl, rfl⟩ := Plan.follows_pure.mp ending
      exact ⟨Or.inr ⟨op, _, _, rfl, moved⟩, _, succeeded name, rfl⟩
    | error e =>
      simp only [Plan.follows_log_bind, Plan.follows_pure] at ending
      obtain ⟨-, rfl, rfl⟩ := ending
      have failed : Terminal client.sequence (client.message Code.operationFailed
          (operationName op ++ " operation failed") (some e.number)) :=
        terminal_message numbered (by decide) (isPlain_append.mpr ⟨name, by decide⟩) _
      exact ⟨Or.inr ⟨op, _, _, rfl, moved⟩, _, failed, rfl⟩
  | tetherStatus =>
    simp only [Request.perform, Plan.follows_get_bind, Plan.follows_pure] at follows
    obtain ⟨-, rfl, rfl⟩ := follows
    refine ⟨Or.inl rfl, _, terminal_message numbered (by decide) ?_ none, rfl⟩
    refine isPlain_append.mpr ⟨by decide, ?_⟩
    split <;> decide
  | listInterfaces =>
    simp only [Request.perform, Plan.follows_get_bind, Plan.follows_pure] at follows
    obtain ⟨-, rfl, rfl⟩ := follows
    exact ⟨Or.inl rfl, _, succeeded (by decide), rfl⟩
  | listServers =>
    simp only [Request.perform, Plan.follows_get_bind, Plan.follows_pure] at follows
    obtain ⟨-, rfl, rfl⟩ := follows
    exact ⟨Or.inl rfl, _, succeeded (by decide), rfl⟩
  | forwardingStatus =>
    simp only [Request.perform, Plan.follows_get_bind, Plan.follows_pure] at follows
    obtain ⟨-, rfl, rfl⟩ := follows
    refine ⟨Or.inl rfl, _, terminal_message numbered (by decide) ?_ none, rfl⟩
    refine isPlain_append.mpr ⟨by decide, ?_⟩
    split <;> decide
  | associate change =>
    simp only [Request.perform, Plan.follows_log_bind, Plan.follows_get_bind,
      Plan.follows_put_bind, Plan.follows_pure] at follows
    obtain ⟨-, rfl, rfl⟩ := follows
    exact ⟨Or.inl rfl, _, terminal_message numbered (by decide) (by decide) none, rfl⟩

/-! ## Partial results -/

variable {c : Controller} {sequence : Int32} {line : String}

theorem partials_eq_nil (notInterfaces : (words line).tail ≠ ["tether", "interface", "list"])
    (notServers : (words line).tail ≠ ["tether", "dns", "list"]) :
    partials c sequence line = [] := by
  unfold partials
  rw [if_neg notInterfaces, if_neg notServers]
  exact ite_self []

theorem partials_of_parse (numbered : client.withSequence = true)
    (own : (ownSequence? line).isSome) {request : Request}
    (asked : Request.parse (words line).tail = .ok request) :
    partials c client.sequence line = resultsSoFar client c request := by
  have number : client.sequence? = some client.sequence := if_pos numbered
  have asks := asks_parse (words line).tail
  rw [asked] at asks
  unfold partials
  rw [if_pos own]
  split
  · next list =>
    rw [list] at asked
    cases asked
    simp only [resultsSoFar, Client.message, number]
    rfl
  split
  · next list =>
    rw [list] at asked
    cases asked
    simp only [resultsSoFar, Client.message, number]
    rfl
  · next notInterfaces notServers =>
    cases asks with
    | listInterfaces list => exact (notInterfaces list).elim
    | listServers list => exact (notServers list).elim
    | operate | tetherStatus | forwardingStatus | associate => rfl

/-! ## Carrying out a line -/

/-- A line either brings no sequence number and is refused, or brings one, which the connection
keeps, and its other arguments have to begin with a command. -/
theorem accept_cases (numbered : client.withSequence = true) (line : String) :
    (ownSequence? line = none ∧
      ∃ r, Refuses r ∧ Dispatch.accept Request.commands client line = (client, .error r)) ∨
    ∃ n, ownSequence? line = some n ∧
      Dispatch.accept Request.commands client line =
        ({ client with sequence := n },
          Dispatch.checkCommand Request.commands (words line).tail) := by
  unfold Dispatch.accept ownSequence? words
  cases Line.parse line with
  | error e =>
    refine Or.inl ⟨rfl, _, ?_, rfl⟩
    cases e <;> decide
  | ok arguments =>
    dsimp only
    unfold Dispatch.takeSequence
    rw [if_pos numbered]
    cases arguments with
    | nil => exact Or.inl ⟨rfl, _, by decide, rfl⟩
    | cons first rest =>
      cases number : readInt32? first with
      | none => exact Or.inl ⟨number, Dispatch.sequenceRejection, by decide, by simp [number]⟩
      | some n => exact Or.inr ⟨n, number, by simp [number]⟩

theorem checkCommand_cases (arguments : List String) :
    Dispatch.checkCommand Request.commands arguments = .ok arguments ∨
      Dispatch.checkCommand Request.commands arguments = .error Dispatch.commandRejection ∧
        arguments.head? ≠ some "tether" := by
  unfold Dispatch.checkCommand
  split
  · next name rest =>
    split
    · exact Or.inl rfl
    · next unknown =>
      refine Or.inr ⟨rfl, ?_⟩
      rintro ⟨⟩
      exact unknown (by decide)
  · exact Or.inr ⟨rfl, nofun⟩

/-- A line whose first word is no command, or that has none, has no partial results. -/
theorem partials_of_head_ne (other : (words line).tail.head? ≠ some "tether") :
    partials c sequence line = [] := by
  refine partials_eq_nil ?_ ?_
  · intro list
    rw [list] at other
    exact other rfl
  · intro list
    rw [list] at other
    exact other rfl

theorem partials_of_error {r : Rejection} (refused : Request.parse (words line).tail = .error r) :
    partials c sequence line = [] := by
  refine partials_eq_nil ?_ ?_
  · intro list
    rw [list] at refused
    cases refused
  · intro list
    rw [list] at refused
    cases refused

theorem of_follows_execute (numbered : client.withSequence = true)
    (own : (ownSequence? line).isSome)
    (follows : (execute client (words line).tail).Follows s h responses s') :
    (s'.controller = s.controller ∨ ∃ op h r, (∀ server ∈ newServers op, server ∈ words line) ∧
        s.controller.Transition op h r s'.controller) ∧
      ∃ last, Terminal client.sequence last ∧
        responses = partials s.controller client.sequence line ++ [last] := by
  unfold execute at follows
  have asked := Plan.follows_logAll_bind.mp follows
  have asks := asks_parse (words line).tail
  cases parsed : Request.parse (words line).tail with
  | error r =>
    rw [parsed] at asked asks
    obtain ⟨-, rfl, rfl⟩ := Plan.follows_pure.mp asked
    cases asks with
    | refused refuses =>
      refine ⟨Or.inl rfl, _, terminal_of_refuses numbered refuses, ?_⟩
      rw [partials_of_error parsed]
      rfl
  | ok request =>
    rw [parsed] at asked asks
    obtain ⟨carries, last, terminal, rfl⟩ := of_follows_perform numbered asked
    refine ⟨?_, last, terminal, ?_⟩
    · rcases carries with same | ⟨op, h, r, rfl, moved⟩
      · exact Or.inl same
      · cases asks with
        | operate pieces =>
          exact Or.inr ⟨op, h, r, fun server member => List.mem_of_mem_tail (pieces server member),
            moved⟩
    · rw [partials_of_parse numbered own parsed]

/-- Whatever a line says, the answer to it is partial results and one response that ends it. The
connection has the number of the line, where it has one, before it answers. -/
theorem of_follows_executeLine (numbered : client.withSequence = true) {client' : Client}
    (follows : (executeLine client line).Follows s h (client', responses) s') :
    client' = { client with sequence := (ownSequence? line).getD client.sequence } ∧
      (s'.controller = s.controller ∨ ∃ op h r, (∀ server ∈ newServers op, server ∈ words line) ∧
        s.controller.Transition op h r s'.controller) ∧
      ∃ last, Terminal client'.sequence last ∧
        responses = partials s.controller client'.sequence line ++ [last] := by
  unfold executeLine at follows
  rcases accept_cases numbered line with ⟨own, r, refuses, accepted⟩ | ⟨n, own, accepted⟩
  · rw [accepted] at follows
    obtain ⟨-, same, rfl⟩ := Plan.follows_pure.mp follows
    cases same
    refine ⟨?_, Or.inl rfl, _, terminal_of_refuses numbered refuses, ?_⟩
    · rw [own]
      rfl
    · unfold partials
      rw [own]
      rfl
  · have named : { client with sequence := (ownSequence? line).getD client.sequence } =
        { client with sequence := n } := by
      rw [own]
      rfl
    have known : (ownSequence? line).isSome := by
      rw [own]
      rfl
    rw [accepted] at follows
    have numbered' : { client with sequence := n }.withSequence = true := numbered
    rcases checkCommand_cases (words line).tail with command | ⟨rejected, other⟩
    · rw [command] at follows
      obtain ⟨answered, t, h₁, h₂, executed, ending, rfl⟩ :=
        Plan.follows_bind.mp (Plan.follows_log_bind.mp follows)
      obtain ⟨-, same, rfl⟩ := Plan.follows_pure.mp ending
      cases same
      exact ⟨named.symm, of_follows_execute numbered' known executed⟩
    · rw [rejected] at follows
      obtain ⟨-, same, rfl⟩ := Plan.follows_pure.mp follows
      cases same
      have refuses : Refuses Dispatch.commandRejection := by decide
      refine ⟨named.symm, Or.inl rfl, _, terminal_of_refuses numbered' refuses, ?_⟩
      rw [partials_of_head_ne other]
      rfl

end NetControl.Control
