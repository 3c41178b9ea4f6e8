import NetControl.Proofs.Control.Replies

/-!
# What a control line does, if it does anything

A line that is refused, and a request that only reads, asks nothing of the world and leaves the
service as it was. Every other line carries out a request for a change, and reports whether that
succeeded; it is not refused any more (`quiet_or_reports`).
-/

namespace NetControl.Control

open Command Tether

/-- The request asks for a change. Every other one only reads. -/
def Request.changes : Request → Bool
  | operate _ => true
  | associate _ => true
  | _ => false

/-- The argument lists, from the command on, of the requests that only read. -/
def queries : List (List String) :=
  [["tether", "status"], ["tether", "interface", "list"], ["tether", "dns", "list"],
    ["ipfwd", "status"]]

theorem changes_of_mem_queries {arguments : List String} {request : Request}
    (query : arguments ∈ queries) (parsed : Request.parse arguments = .ok request) :
    request.changes = false := by
  unfold queries at query
  simp only [List.mem_cons, List.not_mem_nil, or_false] at query
  rcases query with rfl | rfl | rfl | rfl
  · cases parsed
    rfl
  · cases parsed
    rfl
  · cases parsed
    rfl
  · cases parsed
    rfl

variable {client client' : Client} {s s' : Service} {h : List Exchange}
  {responses : List Response} {request : Request} {line : String}

/-- A request that only reads asks nothing of the world and leaves the service as it was. -/
theorem quiet_of_perform (reads : request.changes = false)
    (follows : (request.perform client).Follows s h responses s') : h = [] ∧ s' = s := by
  cases request with
  | operate op => cases reads
  | associate change => cases reads
  | _ =>
    simp only [Request.perform, Plan.follows_get_bind, Plan.follows_pure] at follows
    exact ⟨follows.1, follows.2.2⟩

/-- The responses say that a change was made, or that it failed. -/
def Reports (client : Client) (responses : List Response) : Prop :=
  ∃ code message, (code = Code.okay ∨ code = Code.operationFailed) ∧
    responses = [.text code client.sequence? message]

theorem reports_of_perform (changes : request.changes = true)
    (follows : (request.perform client).Follows s h responses s') : Reports client responses := by
  cases request with
  | operate op =>
    unfold Request.perform at follows
    obtain ⟨result, t, h₁, h₂, inner, ending, rfl⟩ := Plan.follows_bind.mp follows
    cases result with
    | ok _ =>
      obtain ⟨-, rfl, -⟩ := Plan.follows_pure.mp ending
      exact ⟨Code.okay, _, Or.inl rfl, rfl⟩
    | error e =>
      simp only [Plan.follows_log_bind, Plan.follows_pure] at ending
      obtain ⟨-, rfl, -⟩ := ending
      exact ⟨Code.operationFailed, _, Or.inr rfl, rfl⟩
  | associate change =>
    simp only [Request.perform, Plan.follows_log_bind, Plan.follows_get_bind,
      Plan.follows_put_bind, Plan.follows_pure] at follows
    obtain ⟨-, rfl, -⟩ := follows
    exact ⟨Code.okay, _, Or.inl rfl, rfl⟩
  | _ => cases changes

theorem quiet_or_reports_of_execute {arguments : List String}
    (follows : (execute client arguments).Follows s h responses s') :
    (h = [] ∧ s' = s) ∨ ∃ request, Request.parse arguments = .ok request ∧
      request.changes = true ∧ Reports client responses := by
  unfold execute at follows
  have asked := Plan.follows_logAll_bind.mp follows
  cases parsed : Request.parse arguments with
  | error r =>
    rw [parsed] at asked
    obtain ⟨rfl, -, rfl⟩ := Plan.follows_pure.mp asked
    exact Or.inl ⟨rfl, rfl⟩
  | ok request =>
    rw [parsed] at asked
    cases changes : request.changes with
    | false => exact Or.inl (quiet_of_perform changes asked)
    | true => exact Or.inr ⟨request, rfl, changes, reports_of_perform changes asked⟩

/-- A line asks nothing of the world and leaves the service as it was, or it is a request for a
change and is answered with a report. -/
theorem quiet_or_reports (numbered : client.withSequence = true)
    (follows : (executeLine client line).Follows s h (client', responses) s') :
    (h = [] ∧ s' = s) ∨ ∃ request, Request.parse (words line).tail = .ok request ∧
      request.changes = true ∧ Reports client' responses := by
  unfold executeLine at follows
  rcases accept_cases numbered line with ⟨-, r, -, accepted⟩ | ⟨n, -, accepted⟩
  · rw [accepted] at follows
    obtain ⟨rfl, -, rfl⟩ := Plan.follows_pure.mp follows
    exact Or.inl ⟨rfl, rfl⟩
  rw [accepted] at follows
  rcases checkCommand_cases (words line).tail with command | ⟨rejected, -⟩
  · rw [command] at follows
    obtain ⟨answered, t, h₁, h₂, executed, ending, rfl⟩ :=
      Plan.follows_bind.mp (Plan.follows_log_bind.mp follows)
    obtain ⟨rfl, same, rfl⟩ := Plan.follows_pure.mp ending
    cases same
    rw [List.append_nil]
    exact quiet_or_reports_of_execute executed
  · rw [rejected] at follows
    obtain ⟨rfl, -, rfl⟩ := Plan.follows_pure.mp follows
    exact Or.inl ⟨rfl, rfl⟩

/-- A line with one of these requests, whether or not it is numbered as it should be, asks nothing
of the world and leaves the service as it was. -/
theorem quiet_of_query (numbered : client.withSequence = true)
    (query : (words line).tail ∈ queries)
    (follows : (executeLine client line).Follows s h (client', responses) s') :
    h = [] ∧ s' = s := by
  rcases quiet_or_reports numbered follows with quiet | ⟨request, parsed, changes, -⟩
  · exact quiet
  · rw [changes_of_mem_queries query parsed] at changes
    cases changes

/-- A line that is too long ends its connection, and does nothing else. -/
theorem quiet_of_tooLong {ω : Type} (answer : (c : Call) → ω → c.Answer × ω) (deaf : Bool)
    (rest : List Arrival) (c : Conversation) (w : ω) :
    let o := (Conversation.serve deaf (.tooLong :: rest)).run answer c w
    o.state.service = c.service ∧ o.world = w ∧
      o.state.sent = c.sent ++ if deaf then []
        else [.text Code.syntaxError c.client.sequence? "Command too large for buffer"] := by
  cases deaf with
  | true => exact ⟨rfl, rfl, (List.append_nil _).symm⟩
  | false => exact ⟨rfl, rfl, rfl⟩

end NetControl.Control
