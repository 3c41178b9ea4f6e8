import NetControl.Proofs.Control.Replies

/-!
# What a control line does to the associations

Only three kinds of lines touch the associations of processes with interfaces (`change?`), each by
one change. Every other line leaves them as they are, whatever it does else and whatever fails
(`associations_of_follows`).
-/

namespace NetControl.Control

open Command Tether Text Lookup

/-- The change that arguments ask for, from the command on. -/
def argumentsChange? : List String → Option Associations.Change
  | ["resolver", "setifaceforpid", interface, pid] => (readInt32? pid).map (.associate interface)
  | ["resolver", "clearifaceforpid", pid] => (readInt32? pid).map .clear
  | ["resolver", "setdefaultif", interface] => some (.setDefault interface)
  | _ => none

/-- The change that a line asks for. Before its command it has a sequence number. -/
def change? (line : String) : Option Associations.Change :=
  if (ownSequence? line).isSome then argumentsChange? (words line).tail else none

/-! ## Reading -/

/-- The change that a request is. -/
def Request.change? : Except Rejection Request → Option Associations.Change
  | .ok (.associate change) => some change
  | _ => none

theorem change?_parseTether (arguments : List String) :
    Request.change? (Request.parseTether arguments) = none := by
  unfold Request.parseTether
  split
  · rfl
  · rfl
  · rfl
  · unfold Request.parseInterface
    split
    · rfl
    · rfl
    · rfl
    · split <;> rfl
    · rfl
  · unfold Request.parseServers
    split
    · rfl
    · split <;> rfl
    · split <;> rfl
    · rfl
  · split <;> rfl
  · rfl

theorem change?_parseForwarding (arguments : List String) :
    Request.change? (Request.parseForwarding arguments) = none := by
  unfold Request.parseForwarding
  split <;> rfl

theorem change?_withPid (pid : String) (change : Int32 → Associations.Change) :
    Request.change? (Request.withPid pid change) = (readInt32? pid).map change := by
  unfold Request.withPid
  cases readInt32? pid <;> rfl

theorem change?_parseResolver (arguments : List String) :
    Request.change? (Request.parseResolver arguments) =
      argumentsChange? ("resolver" :: arguments) := by
  unfold Request.parseResolver
  split
  · exact change?_withPid _ _
  · exact change?_withPid _ _
  · rfl
  · next operation rest notSet notClear notDefault =>
    have other : argumentsChange? ("resolver" :: operation :: rest) = none := by
      unfold argumentsChange?
      split
      · next same =>
        cases same
        exact (notSet _ _ rfl rfl).elim
      · next same =>
        cases same
        exact (notClear _ rfl rfl).elim
      · next same =>
        cases same
        exact (notDefault _ rfl rfl).elim
      · rfl
    rw [other]
    split <;> rfl
  · rfl

/-- The arguments are read as the change that they ask for. -/
theorem change?_parse (arguments : List String) :
    Request.change? (Request.parse arguments) = argumentsChange? arguments := by
  unfold Request.parse
  split
  · rw [change?_parseTether]
    simp [argumentsChange?]
  · rw [change?_parseForwarding]
    simp [argumentsChange?]
  · exact change?_parseResolver _
  · next notTether notForwarding notResolver =>
    unfold argumentsChange?
    split
    · exact (notResolver _ rfl).elim
    · exact (notResolver _ rfl).elim
    · exact (notResolver _ rfl).elim
    · rfl

/-! ## Carrying out -/

variable {client client' : Client} {s s' : Service} {h : List Exchange}
  {responses : List Response}

/-- The associations after a change, if there is one. -/
def changed (a : Associations) (change : Option Associations.Change) : Associations :=
  change.elim a a.change

theorem associations_of_perform {request : Request}
    (follows : (request.perform client).Follows s h responses s') :
    s'.associations = changed s.associations (Request.change? (.ok request)) := by
  cases request with
  | operate op =>
    unfold Request.perform at follows
    obtain ⟨result, t, h₁, h₂, inner, ending, rfl⟩ := Plan.follows_bind.mp follows
    obtain ⟨c', carried, rfl⟩ := of_follows_onController inner
    cases result with
    | ok _ =>
      obtain ⟨-, rfl, rfl⟩ := Plan.follows_pure.mp ending
      rfl
    | error e =>
      simp only [Plan.follows_log_bind, Plan.follows_pure] at ending
      obtain ⟨-, rfl, rfl⟩ := ending
      rfl
  | associate change =>
    simp only [Request.perform, Plan.follows_log_bind, Plan.follows_get_bind,
      Plan.follows_put_bind, Plan.follows_pure] at follows
    obtain ⟨-, rfl, rfl⟩ := follows
    rfl
  | _ =>
    simp only [Request.perform, Plan.follows_get_bind, Plan.follows_pure] at follows
    obtain ⟨-, rfl, rfl⟩ := follows
    rfl

theorem associations_of_execute {arguments : List String}
    (follows : (execute client arguments).Follows s h responses s') :
    s'.associations = changed s.associations (argumentsChange? arguments) := by
  unfold execute at follows
  have asked := Plan.follows_logAll_bind.mp follows
  rw [← change?_parse]
  cases parsed : Request.parse arguments with
  | error r =>
    rw [parsed] at asked
    obtain ⟨-, rfl, rfl⟩ := Plan.follows_pure.mp asked
    rfl
  | ok request =>
    rw [parsed] at asked
    exact associations_of_perform asked

/-- A command that is not known asks for no change. -/
theorem argumentsChange?_of_rejected {arguments : List String} {r : Rejection}
    (rejected : Dispatch.checkCommand Request.commands arguments = .error r) :
    argumentsChange? arguments = none := by
  unfold argumentsChange?
  split
  · cases rejected
  · cases rejected
  · cases rejected
  · rfl

/-- A line makes the change that it asks for, and no other. -/
theorem associations_of_follows {line : String} (numbered : client.withSequence = true)
    (follows : (executeLine client line).Follows s h (client', responses) s') :
    s'.associations = changed s.associations (change? line) := by
  unfold executeLine at follows
  unfold change?
  rcases accept_cases numbered line with ⟨own, r, refuses, accepted⟩ | ⟨n, own, accepted⟩
  · rw [accepted] at follows
    obtain ⟨-, same, rfl⟩ := Plan.follows_pure.mp follows
    rw [own]
    rfl
  · rw [accepted] at follows
    rw [own, if_pos Option.isSome_some]
    rcases checkCommand_cases (words line).tail with command | ⟨rejected, -⟩
    · rw [command] at follows
      obtain ⟨answered, t, h₁, h₂, executed, ending, rfl⟩ :=
        Plan.follows_bind.mp (Plan.follows_log_bind.mp follows)
      obtain ⟨-, same, rfl⟩ := Plan.follows_pure.mp ending
      exact associations_of_execute executed
    · rw [rejected] at follows
      obtain ⟨-, same, rfl⟩ := Plan.follows_pure.mp follows
      rw [argumentsChange?_of_rejected rejected]
      rfl

end NetControl.Control
