import NetControl.Lookup.Request
import NetControl.Proofs.Except

/-!
# What a request line is read as

The loop of a connection to the lookup socket takes a line to its arguments and the arguments to a
lookup, and either step can reject it. `Request.ofLine` is both steps in one, and goes by the
arguments alone.
-/

namespace NetControl.Lookup.Request

open Command

/-- What a request line is read as: a lookup, or the rejection of the line. -/
def ofLine (text : String) : Except Rejection Request :=
  match (Dispatch.accept commands (Client.new false) text).2 with
  | .error r => .error r
  | .ok arguments => parse arguments

variable {text command : String} {arguments : List String} {request : Request}

theorem ofLine_of_error {e : LineError} (split : Line.parse text = .error e) :
    ofLine text = .error (Dispatch.lineRejection e) := by
  unfold ofLine Dispatch.accept
  rw [split]

theorem ofLine_of_ok (split : Line.parse text = .ok arguments) :
    ofLine text = (Dispatch.checkCommand commands arguments >>= parse) := by
  have accepted : (Dispatch.accept commands (Client.new false) text).2 =
      Dispatch.checkCommand commands arguments := by
    unfold Dispatch.accept
    rw [split]
    rfl
  unfold ofLine
  rw [accepted]
  cases Dispatch.checkCommand commands arguments with
  | error r => rfl
  | ok found => rfl

/-- A line whose first argument is one of the commands is read by its arguments. -/
theorem ofLine_of_known (split : Line.parse text = .ok (command :: arguments))
    (known : command ∈ commands) : ofLine text = parse (command :: arguments) := by
  rw [ofLine_of_ok split, Dispatch.checkCommand, if_pos known]
  rfl

theorem ofLine_of_unknown (split : Line.parse text = .ok (command :: arguments))
    (unknown : command ∉ commands) : ofLine text = .error Dispatch.commandRejection := by
  rw [ofLine_of_ok split, Dispatch.checkCommand, if_neg unknown]
  rfl

theorem eq_of_checkCommand {commands result : List String}
    (checked : Dispatch.checkCommand commands arguments = .ok result) : result = arguments := by
  unfold Dispatch.checkCommand at checked
  split at checked
  · split at checked
    · cases checked
      rfl
    · cases checked
  · cases checked

/-- A line that is read as a lookup has been split into these arguments. -/
theorem parse_of_ofLine (reads : ofLine text = .ok request) :
    ∃ arguments, Line.parse text = .ok arguments ∧ parse arguments = .ok request := by
  cases split : Line.parse text with
  | error e =>
    rw [ofLine_of_error split] at reads
    cases reads
  | ok arguments =>
    rw [ofLine_of_ok split] at reads
    obtain ⟨result, checked, read⟩ := bind_eq_ok.mp reads
    rw [eq_of_checkCommand checked] at read
    exact ⟨arguments, rfl, read⟩

/-! ## The places of a lookup line -/

/-- The arguments of a lookup line that name the interface and the process. -/
def places (text : String) : Option (String × String) :=
  match Line.parse text with
  | .ok ["getaddrinfo", _, _, _, _, _, _, interface, pid] => some (interface, pid)
  | .ok ["gethostbyname", pid, interface, _, _] => some (interface, pid)
  | .ok ["gethostbyaddr", _, _, _, pid, interface] => some (interface, pid)
  | _ => none

/-- A lookup has the interface that its line names, if any, and the process. -/
theorem places_of_ofLine (reads : ofLine text = .ok request) :
    ∃ interface pid, places text = some (interface, pid) ∧
      request.interface = optional interface ∧ request.pid = Text.lenientInt32 pid := by
  obtain ⟨arguments, split, read⟩ := parse_of_ofLine reads
  unfold places
  rw [split]
  unfold parse at read
  split at read
  · cases read
    exact ⟨_, _, rfl, rfl, rfl⟩
  · cases read
    exact ⟨_, _, rfl, rfl, rfl⟩
  · obtain ⟨octets, -, same⟩ := map_eq_ok.mp read
    cases same
    exact ⟨_, _, rfl, rfl, rfl⟩
  · cases read
  · cases read

end NetControl.Lookup.Request
