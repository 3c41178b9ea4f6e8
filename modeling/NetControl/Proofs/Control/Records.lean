import NetControl.Proofs.Control.Discipline
import NetControl.Proofs.Tether.Speaking

/-!
# What a control line leaves in the log

A line may hold any text, and the daemon tells of what it does in its own words and in those of the
line. What it repeats is quoted, or has been checked, or neither: then it is said as it is
(`unquoted`), and a newline in it is a newline in the log. Nothing else breaks a line of the log
(`speaks_obey`), in whatever state the lines before have left the daemon (`Socket.Tidy`).
-/

namespace NetControl

open Command Log

/-! ## The texts of the controller -/

namespace Tether.Controller

variable {c c' : Controller} {op : Operation} {h : List Exchange} {r : Except Error Unit}

theorem isUnbroken_of_transition (step : c.Transition op h r c') (tidy : c.IsUnbroken) :
    c'.IsUnbroken := by
  cases step with
  | enable switched =>
    obtain ⟨rfl, -⟩ := Forwarding.of_follows_enable switched
    exact ⟨tidy.switches, tidy.knobs, tidy.daemon, tidy.interfaces⟩
  | disable switched =>
    obtain ⟨rfl, -⟩ := Forwarding.of_follows_disable switched
    exact ⟨tidy.switches, tidy.knobs, tidy.daemon, tidy.interfaces⟩
  | tethers valid absent push =>
    refine ⟨tidy.switches, tidy.knobs, tidy.daemon, List.forall_mem_append.mpr
      ⟨tidy.interfaces, List.forall_mem_singleton.mpr (isUnbroken_of_isInterfaceName valid)⟩⟩
  | untethers present client push =>
    exact ⟨tidy.switches, tidy.knobs, tidy.daemon,
      fun i member => tidy.interfaces i (List.mem_of_mem_erase member)⟩
  | starts | stops | serversInvalid | serversUntold | serversKept | serversSent =>
    exact ⟨tidy.switches, tidy.knobs, tidy.daemon, tidy.interfaces⟩
  | startTwice | startOdd | launchFails | stopIdle | tetherInvalid | tetherTwice
  | tetherUnconfigured | tetherUntold | untetherAbsent => exact tidy

/-- The boot changes no path. -/
theorem isUnbroken_of_boot {mode : String} {u : Unit} (tidy : c.IsUnbroken)
    (booted : (boot mode).Follows c h u c') : c'.IsUnbroken := by
  obtain ⟨⟨f, switches, rfl⟩, -⟩ := forwarding_of_boot booted
  exact ⟨switches ▸ tidy.switches, tidy.knobs, tidy.daemon, tidy.interfaces⟩

end Tether.Controller

namespace Control

open Tether

/-! ## One line -/

/-- The texts of a request that are said as they are. -/
def Request.unquoted (c : Controller) : Except Rejection Request → List String
  | .ok (.operate op) => c.unquoted op
  | _ => []

/-- The texts of a line that are said as they are. -/
def unquoted (c : Controller) (line : String) : List String :=
  if (ownSequence? line).isSome then Request.unquoted c (Request.parse (words line).tail) else []

variable {client : Client} {s : Service} {K : Prop} {line : String}

theorem isUnbroken_changeNote (change : Lookup.Associations.Change) :
    (changeNote change).IsUnbroken := by
  have names : Text.IsUnbroken "iface" ∧ Text.IsUnbroken "pid" := by decide
  cases change with
  | associate i pid => exact isUnbroken_of.mpr ⟨by decide, by decide, by simp [names]⟩
  | clear pid => exact isUnbroken_of.mpr ⟨by decide, by decide, by simp [names]⟩
  | setDefault i => exact isUnbroken_of.mpr ⟨by decide, by decide, by simp [names]⟩

theorem isUnbroken_argv {level : Level} {target component message : String}
    (plain : Text.IsUnbroken target) (text : Text.IsUnbroken message) (arguments : List String) :
    (Log.of level target component message
      [("argv", .shown (Text.quotedList arguments))]).IsUnbroken := by
  have name : Text.IsUnbroken "argv" := by decide
  exact isUnbroken_of.mpr ⟨plain, text, by simp [name]⟩

theorem isUnbroken_operationLabel (op : Controller.Operation) :
    Text.IsUnbroken (operationLabel op) := by
  have labels : Text.IsUnbroken "ipfwd" ∧ Text.IsUnbroken "tether" := by decide
  unfold operationLabel
  split
  · exact labels.1
  · exact labels.1
  · exact labels.2

theorem speaks_perform (tidy : s.controller.IsUnbroken) {request : Request}
    {Q : Prop → List Response → Service → Prop}
    (ends : ∀ K' responses s',
      (K' ↔ K ∧ ∀ text ∈ Request.unquoted s.controller (.ok request), Text.IsUnbroken text) →
      Q K' responses s') : (request.perform client).Speaks Q K s := by
  have quiet (nothing : Request.unquoted s.controller (.ok request) = []) :
      ∀ responses s', Q K responses s' := by
    intro responses s'
    refine ends K responses s' ?_
    rw [nothing]
    exact (and_iff_left (List.forall_mem_nil _)).symm
  cases request with
  | operate op =>
    unfold Request.perform
    refine Plan.speaks_bind.mpr ?_
    unfold Service.onController
    rw [Plan.speaks_zoom]
    · refine Controller.speaks_plan tidy op fun K' r c' total => ?_
      cases r with
      | ok _ => exact ends _ _ _ ((and_iff_left mild_ok).symm.trans total)
      | error e =>
        refine Plan.speaks_log_bind.mpr (ends _ _ _ (Iff.trans ?_ total))
        refine and_congr_right fun _ => ?_
        rw [mild_error, isUnbroken_within, isUnbroken_of]
        have label := isUnbroken_operationLabel op
        have words : Text.IsUnbroken target ∧ Text.IsUnbroken " operation failed: " := by decide
        simp only [Text.isUnbroken_append, label, words, true_and]
        exact and_iff_left (List.forall_mem_nil _)
    · exact fun _ _ => rfl
    · exact fun _ => rfl
    · exact fun _ _ _ => rfl
  | associate change =>
    have note : ((changeNote change).within serviceName).IsUnbroken :=
      isUnbroken_within.mpr (isUnbroken_changeNote change)
    exact (Plan.speaks_log_bind_of fun _ => note).mpr (quiet rfl _ _)
  | tetherStatus | listInterfaces | listServers | forwardingStatus => exact quiet rfl _ _

theorem speaks_execute (tidy : s.controller.IsUnbroken) {arguments : List String}
    {Q : Prop → List Response → Service → Prop}
    (ends : ∀ K' responses s',
      (K' ↔ K ∧ ∀ text ∈ Request.unquoted s.controller (Request.parse arguments),
        Text.IsUnbroken text) → Q K' responses s') :
    (execute client arguments).Speaks Q K s := by
  have words : Text.IsUnbroken target ∧ Text.IsUnbroken "tether command" := by decide
  have notes : ∀ e ∈ argumentNotes arguments, e.IsUnbroken := by
    unfold argumentNotes
    split
    · exact List.forall_mem_singleton.mpr <|
        isUnbroken_within.mpr (isUnbroken_argv words.1 words.2 _)
    · exact List.forall_mem_nil _
  unfold execute
  refine Plan.speaks_bind.mpr ((Plan.speaks_logAll_of fun _ => notes).mpr ?_)
  cases parsed : Request.parse arguments with
  | error r =>
    rw [parsed] at ends
    exact ends K _ _ (and_iff_left (List.forall_mem_nil _)).symm
  | ok request =>
    rw [parsed] at ends
    exact speaks_perform tidy ends

/-- A command that is not known asks for nothing. -/
theorem parse_of_rejected {arguments : List String} {r : Rejection}
    (rejected : Dispatch.checkCommand Request.commands arguments = .error r) :
    Request.parse arguments = .error Dispatch.commandRejection := by
  unfold Request.parse
  split
  · cases rejected
  · cases rejected
  · cases rejected
  · rfl

theorem speaks_executeLine (numbered : client.withSequence = true)
    (tidy : s.controller.IsUnbroken) {Q : Prop → Client × List Response → Service → Prop}
    (ends : ∀ K' answered s',
      (K' ↔ K ∧ ∀ text ∈ unquoted s.controller line, Text.IsUnbroken text) → Q K' answered s') :
    (executeLine client line).Speaks Q K s := by
  have quiet (nothing : unquoted s.controller line = []) : ∀ answered s', Q K answered s' := by
    intro answered s'
    refine ends K answered s' ?_
    rw [nothing]
    exact (and_iff_left (List.forall_mem_nil _)).symm
  unfold executeLine
  rcases accept_cases numbered line with ⟨own, r, -, accepted⟩ | ⟨n, own, accepted⟩
  · rw [accepted]
    refine quiet ?_ _ _
    rw [unquoted, own]
    rfl
  · have known : unquoted s.controller line =
        Request.unquoted s.controller (Request.parse (words line).tail) := by
      rw [unquoted, own]
      rfl
    rw [accepted]
    rcases checkCommand_cases (words line).tail with command | ⟨rejected, -⟩
    · rw [command]
      have plain : Text.IsUnbroken Notes.target ∧ Text.IsUnbroken "dispatching" := by decide
      have dispatched : (Notes.dispatched serviceName (words line).tail).IsUnbroken :=
        isUnbroken_within.mpr (isUnbroken_argv plain.1 plain.2 _)
      refine (Plan.speaks_log_bind_of fun _ => dispatched).mpr (Plan.speaks_bind.mpr ?_)
      refine speaks_execute tidy fun K' responses s' said => ends _ _ _ ?_
      rw [known]
      exact said
    · rw [rejected]
      refine quiet ?_ _ _
      rw [known, parse_of_rejected rejected]
      rfl

theorem speaks_obey (line : String) {c : Conversation} (numbered : c.client.withSequence = true)
    (tidy : c.service.controller.IsUnbroken) :
    (Conversation.obey line).Speaks
      (fun K' _ _ => K' ↔ K ∧ ∀ text ∈ unquoted c.service.controller line, Text.IsUnbroken text)
      K c := by
  unfold Conversation.obey Conversation.hear Conversation.send
  refine Plan.speaks_bind.mpr (Plan.speaks_get_bind.mpr (Plan.speaks_bind.mpr ?_))
  rw [Plan.speaks_zoom]
  · exact speaks_executeLine numbered tidy fun K' answered s' said => said
  · exact fun _ _ => rfl
  · exact fun _ => rfl
  · exact fun _ _ _ => rfl

/-! ## Every state -/

namespace Socket

variable {ω : Type} {answer : (c : Call) → ω → c.Answer × ω} {k : Socket ω}

/-- Every connection has sequence numbers, and the texts of the controller are unbroken. -/
structure Tidy (k : Socket ω) : Prop where
  numbered : ∀ i, (k.client i).withSequence = true
  texts : k.service.controller.IsUnbroken

theorem tidy_start {mode : String} {switches : Switches} {places : Places} {w : ω}
    (tidy : (Controller.fresh switches places).IsUnbroken) :
    Tidy (start answer mode switches places w) where
  numbered _ := rfl
  texts := Controller.isUnbroken_of_boot tidy
    (Plan.follows_run answer (Controller.boot mode) (Controller.fresh switches places) w)

theorem Tidy.hear (tidy : k.Tidy) (request : Nat × Bytes) : (k.hear answer request).Tidy := by
  obtain ⟨responses, h, executed, -, -⟩ := follows_hear request answer k
  obtain ⟨client, moved, -⟩ := of_follows_executeLine (tidy.numbered request.1) executed
  refine ⟨fun i => ?_, ?_⟩
  · by_cases here : i = request.1
    · rw [here, client]
      exact tidy.numbered request.1
    · rw [client_hear_of_ne here]
      exact tidy.numbered i
  · rcases moved with same | ⟨op, h, r, -, step⟩
    · rw [same]
      exact tidy.texts
    · exact Controller.isUnbroken_of_transition step tidy.texts

theorem Tidy.hearAll (tidy : k.Tidy) (requests : List (Nat × Bytes)) :
    (k.hearAll answer requests).Tidy := by
  induction requests generalizing k with
  | nil => exact tidy
  | cons request rest ih => exact ih (tidy.hear request)

/-- The events of one more line. -/
def eventsOf (answer : (c : Call) → ω → c.Answer × ω) (k : Socket ω) (request : Nat × Bytes) :
    List Event :=
  ((Conversation.obey (Text.lossy request.2)).run answer
    ⟨k.service, k.client request.1, k.sent request.1⟩ k.world).events

/-- In every state that lines on any connections can bring a daemon to, in a world whose failures
and paths have no newlines and tabs in their texts: each event of one more line is written as one
line, with a newline at its end and nowhere else and with its own columns, just if neither is in the
texts of the line that are said as they are. -/
theorem events_on_lines_iff (answer : (c : Call) → ω → c.Answer × ω)
    (fair : ∀ (c : Call) (w : ω), c.Fair (answer c w).1) (mode : String) (switches : Switches)
    (places : Places) (tidy : (Controller.fresh switches places).IsUnbroken) (w : ω)
    (requests : List (Nat × Bytes)) (request : Nat × Bytes) (time : String)
    (clock : Text.IsUnbroken time) :
    let before := (start answer mode switches places w).hearAll answer requests
    (∀ e ∈ before.eventsOf answer request, e.IsOneLine time) ↔
      ∀ text ∈ unquoted before.service.controller (Text.lossy request.2),
        Text.IsUnbroken text := by
  intro before
  have reached : before.Tidy := (tidy_start tidy).hearAll requests
  let c : Conversation := ⟨before.service, before.client request.1, before.sent request.1⟩
  have heard := speaks_obey (K := True) (Text.lossy request.2) (c := c)
    (reached.numbered request.1) reached.texts
  have said := Plan.of_speaks fair heard before.world
  rw [true_and, true_and] at said
  simp only [Event.isOneLine_iff_isUnbroken clock]
  exact said

theorem fair_willing (c : Call) (w : Unit) : c.Fair (Controller.willing c w).1 := by
  cases c <;> exact nofun

theorem isUnbroken_fresh : (Controller.fresh {} {}).IsUnbroken where
  switches family := by cases family <;> decide
  knobs := by decide
  daemon := by decide
  interfaces := List.forall_mem_nil _

/-- The server with the newline stands behind one that is refused, and is not looked at. -/
theorem events_on_lines_of_refused :
    let before := (start Controller.willing "" {} {} ()).hearAll Controller.willing visits
    let request := (0, Bytes.ofString "8 tether dns set 100 8.8.8.8 dns.test \"a\nb\"")
    unquoted before.service.controller (Text.lossy request.2) = ["8.8.8.8", "dns.test"] ∧
      ∀ e ∈ before.eventsOf Controller.willing request, e.IsOneLine "now" := by
  intro before request
  have texts : unquoted before.service.controller (Text.lossy request.2) =
      ["8.8.8.8", "dns.test"] := by decide +kernel
  have unbroken : ∀ text ∈ ["8.8.8.8", "dns.test"], Text.IsUnbroken text := by decide
  refine ⟨texts, (events_on_lines_iff Controller.willing fair_willing "" {} {} isUnbroken_fresh ()
    visits request "now" (by decide)).mpr ?_⟩
  rw [texts]
  exact unbroken

/-- A line that asks to release a text with a newline, which is no interface. -/
def splitting : Bytes :=
  Bytes.ofString "1 tether interface remove \"a\nb\""

/-- The failure is written as two lines. -/
theorem split_record :
    0 ∉ splitting ∧
      ∃ e ∈ (start Controller.willing "" {} {} ()).eventsOf Controller.willing (0, splitting),
        Layout.columnsText "now" e =
          "now\twarn\ttether::commands:listener\x7bname=\"netd\"\x7d\ttether operation failed: " ++
            "interface a\nb is not tethered\tcomponent=\"tether\"\n" ∧ ¬e.IsOneLine "now" := by
  have newline : '\n' ∈ "interface a\nb is not tethered".toList := by decide
  refine ⟨by decide, (Log.of .warn target "tether"
    ("tether operation failed: " ++ "interface a\nb is not tethered")).within serviceName,
    by decide +kernel, by decide +kernel, fun whole => ?_⟩
  have message := ((Event.isOneLine_iff_isUnbroken (by decide)).mp whole).message
  exact (Text.isUnbroken_append.mp message).2.1 newline

end Socket

end Control

end NetControl
