import Mathlib.Data.List.Infix
import Mathlib.Logic.Function.Basic
import NetControl.Proofs.Tether.Lifetime
import NetControl.Proofs.Tether.Requesters

/-!
# What the switch files hold

A `ForwardingRun` is a controller above two files that nobody else writes, each of which may turn
from writable to refused and back between calls. `held` says from the calls and the refusals alone
what a file holds: the digit of the last try at which it was writable.

`ForwardingRun.switches_of_calls` says that the controller's requesters, its tries at the switches,
its answers and both files are what the calls and the refusals say, at every moment of every run.
-/

namespace NetControl.Tether

/-! ## Files -/

/-- The two switch files. -/
structure SwitchFiles where
  content : Family → String
  /-- Why a file cannot be opened, if it cannot. -/
  refusal : Family → Option OsError

namespace SwitchFiles

/-- How a try at a file ends. -/
def opening (files : SwitchFiles) (family : Family) : Except OsError Unit :=
  match files.refusal family with
  | some cause => .error cause
  | none => .ok ()

/-- The files after a try at one of them. -/
def write (files : SwitchFiles) (family : Family) (on : Bool) : SwitchFiles :=
  match files.refusal family with
  | some _ => files
  | none => { files with content := Function.update files.content family (Setting.flag on) }

/-- The world with these files. -/
def answer (others : (c : Call) → c.Answer) : (c : Call) → SwitchFiles → c.Answer × SwitchFiles
  | .switch family on, files => (files.opening family, files.write family on)
  | c, files => (others c, files)

variable {files : SwitchFiles} {family other : Family} {on : Bool}

@[simp] theorem refusal_write : (files.write family on).refusal = files.refusal := by
  unfold write
  split
  · rfl
  · rfl

@[simp] theorem opening_write : (files.write family on).opening other = files.opening other := by
  rw [opening, refusal_write, opening]

theorem content_write : (files.write family on).content other =
    if other = family ∧ files.refusal family = none then Setting.flag on
    else files.content other := by
  unfold write
  split
  · next refused => rw [refused, if_neg (by simp)]
  · next writable => simp [writable, Function.update_apply]

open Plan in
/-- A try at both files tells of each how it went, and writes those that it can. -/
theorem of_answers_both {others : (c : Call) → c.Answer} {files' : SwitchFiles}
    {first second : Except OsError Unit}
    (answers : Answers (answer others) files
      [⟨.switch .ipv4 on, first⟩, ⟨.switch .ipv6 on, second⟩] files') :
    first = files.opening .ipv4 ∧ second = files.opening .ipv6 ∧
      ∀ family, files'.content family =
        if files.refusal family = none then Setting.flag on else files.content family := by
  cases answers with
  | cons rest =>
    cases rest with
    | cons ending =>
      cases ending
      refine ⟨rfl, opening_write, fun family => ?_⟩
      change ((files.write .ipv4 on).write .ipv6 on).content family = _
      cases family with
      | ipv4 => simp [content_write]
      | ipv6 => simp [content_write]

end SwitchFiles

/-! ## Turns -/

/-- A call, and what is refused while it is carried out. -/
structure Turn where
  call : ForwardingCall
  refusal : Family → Option OsError

namespace Turn

open ForwardingCall

/-- The protocol that a try at both switches fails for, and why. -/
def failure? (t : Turn) : Option (Family × OsError) :=
  match t.refusal .ipv4 with
  | some cause => some (.ipv4, cause)
  | none => (t.refusal .ipv6).map fun cause => (.ipv6, cause)

/-- The answer to the call, if it tries the switches. -/
def outcome (t : Turn) (switches : Switches) (on : Bool) : Except Error Unit :=
  match t.failure? with
  | some (family, cause) => .error (.forwarding ⟨switches.path family, on, cause⟩)
  | none => .ok ()

/-- The last of the turns tries the switches while the file can be written. -/
def Opens (family : Family) (moment : List Turn) : Prop :=
  ∃ t ∈ moment.getLast?, Tries (moment.dropLast.map call) t.call ∧ t.refusal family = none

instance (family : Family) (moment : List Turn) : Decidable (Opens family moment) :=
  inferInstanceAs (Decidable (∃ t ∈ moment.getLast?, _))

/-- What the file of the protocol holds after the turns: the digit of the last try at which it could
be written. -/
def held (family : Family) (initial : String) (history : List Turn) : String :=
  match (history.inits.filter (Opens family)).getLast? with
  | none => initial
  | some moment => Setting.flag (Needed (moment.map call))

variable {family : Family} {initial : String} {history : List Turn} {t : Turn}

theorem opens_append :
    Opens family (history ++ [t]) ↔ Tries (history.map call) t.call ∧ t.refusal family = none := by
  simp [Opens]

theorem held_nil : held family initial [] = initial := rfl

theorem held_append :
    held family initial (history ++ [t]) =
      if Tries (history.map call) t.call ∧ t.refusal family = none
      then Setting.flag (Needed ((history ++ [t]).map call))
      else held family initial history := by
  have inits : (history ++ [t]).inits = history.inits ++ [history ++ [t]] := by
    simp [List.inits_append]
  unfold held
  rw [inits, List.filter_append]
  by_cases opens : Opens family (history ++ [t])
  · rw [if_pos (opens_append.mp opens), List.filter_cons_of_pos (by simpa using opens),
      List.filter_nil, List.getLast?_concat]
  · rw [if_neg (mt opens_append.mpr opens), List.filter_cons_of_neg (by simpa using opens),
      List.filter_nil, List.append_nil]

-- A file that is refused when the last requester leaves keeps its digit.
example : held .ipv4 "x" [⟨.enable "a", fun _ => none⟩, ⟨.disable "a", fun _ => some (.errno 2)⟩] =
    "1" := by decide +kernel

theorem held_of_writable (first : Tries [] t.call) (turns : List Turn)
    (writable : ∀ u ∈ t :: turns, u.refusal family = none) :
    held family initial (t :: turns) = Setting.flag (Needed ((t :: turns).map call)) := by
  induction turns using List.reverseRecOn with
  | nil =>
    rw [← List.nil_append [t], held_append, if_pos ⟨first, writable t (by simp)⟩]
  | append_singleton turns u ih =>
    have before := ih fun v member => writable v (List.mem_append_left [u] member)
    rw [← List.cons_append, held_append]
    by_cases tries : Tries ((t :: turns).map call) u.call
    · rw [if_pos ⟨tries, writable u (by simp)⟩]
    · have same : Needed ((t :: turns).map call) ↔ Needed ((t :: turns).map call ++ [u.call]) :=
        not_not.mp fun differ => tries (Or.inr differ)
      rw [if_neg fun both => tries both.1, before, List.map_append, List.map_singleton,
        decide_eq_decide.mpr same]

theorem failure?_eq_none_iff : t.failure? = none ↔ ∀ family, t.refusal family = none := by
  unfold failure?
  constructor
  · intro none family
    split at none
    · cases none
    · next ipv4 =>
      cases family with
      | ipv4 => exact ipv4
      | ipv6 => exact Option.map_eq_none_iff.mp none
  · intro none
    rw [none .ipv4, none .ipv6]
    rfl

theorem outcome_eq_error_iff {switches : Switches} {on : Bool} :
    (∃ e, t.outcome switches on = .error e) ↔ ∃ family, t.refusal family ≠ none := by
  have some : t.failure? ≠ none ↔ ∃ family, t.refusal family ≠ none := by
    rw [ne_eq, failure?_eq_none_iff, not_forall]
  rw [← some, outcome]
  cases t.failure? with
  | some failure => exact iff_of_true ⟨_, rfl⟩ nofun
  | none => exact iff_of_false nofun fun different => different rfl

theorem outcome_of_openings (f : Forwarding) (content : Family → String) (on : Bool) :
    (match f.switchResult .ipv4 on (SwitchFiles.opening ⟨content, t.refusal⟩ .ipv4) with
      | .ok _ => f.switchResult .ipv6 on (SwitchFiles.opening ⟨content, t.refusal⟩ .ipv6)
      | .error e => .error e).mapError .forwarding = t.outcome f.switches on := by
  unfold SwitchFiles.opening outcome failure?
  dsimp only
  cases t.refusal .ipv4 with
  | some cause => rfl
  | none =>
    cases t.refusal .ipv6 with
    | some cause => rfl
    | none => rfl

end Turn

/-! ## Runs -/

/-- A controller, and what the switch files hold. -/
structure ForwardingRun where
  controller : Controller
  content : Family → String

namespace ForwardingRun

open ForwardingCall Turn Plan

/-- The call by which a controller sets the switches for the first time. -/
def openingCall (mode : String) : ForwardingCall :=
  if mode = "bp-tools" then .enable "bp-tools" else .apply

/-- A try at both switches. -/
def bothSwitches (on : Bool) : List Call :=
  [.switch .ipv4 on, .switch .ipv6 on]

variable (others : (c : Call) → c.Answer)

/-- A controller that has just been constructed. -/
def begin (mode : String) (switches : Switches) (places : Places) (files : SwitchFiles) :
    ForwardingRun :=
  let o := (Controller.boot mode).run (SwitchFiles.answer others)
    (Controller.fresh switches places) files
  ⟨o.state, o.world.content⟩

/-- What the construction of a controller asks. -/
def askedAtFirst (mode : String) (switches : Switches) (places : Places) (files : SwitchFiles) :
    List Call :=
  ((Controller.boot mode).exchanges (SwitchFiles.answer others)
    (Controller.fresh switches places) files).map Exchange.call

/-- Where a turn leads. -/
def carry (s : ForwardingRun) (t : Turn) : Outcome Controller SwitchFiles (Except Error Unit) :=
  t.call.plan.run (SwitchFiles.answer others) s.controller ⟨s.content, t.refusal⟩

/-- What the controller asks in a turn. -/
def asked (s : ForwardingRun) (t : Turn) : List Call :=
  (t.call.plan.exchanges (SwitchFiles.answer others) s.controller
    ⟨s.content, t.refusal⟩).map Exchange.call

/-- One more turn. -/
def perform (s : ForwardingRun) (t : Turn) : ForwardingRun :=
  ⟨(s.carry others t).state, (s.carry others t).world.content⟩

/-- Turns, one after the other. -/
def performAll (s : ForwardingRun) (turns : List Turn) : ForwardingRun :=
  turns.foldl (perform others) s

/-! ### One turn -/

theorem flag_eq_one_iff {on : Bool} : Setting.flag on = "1" ↔ on = true := by
  cases on with
  | true => decide
  | false => decide

/-- The run is what the turns say. -/
structure Settled (switches : Switches) (initial : Family → String) (history : List Turn)
    (s : ForwardingRun) : Prop where
  keeps : Keeps (history.map call) s.controller.forwarding.requesters
  held (family : Family) : s.content family = Turn.held family (initial family) history
  switches : s.controller.forwarding.switches = switches

variable {others} {switches : Switches} {initial : Family → String} {history : List Turn}
  {s : ForwardingRun} {t : Turn} {h : List Exchange} {r : Except Error Unit} {c : Controller}
  {files : SwitchFiles}

theorem isEnabled_eq {calls : List ForwardingCall} {f : Forwarding}
    (keeps : Keeps calls f.requesters) : f.isEnabled = decide (Needed calls) := by
  rw [Bool.eq_iff_iff, decide_eq_true_iff, keeps.needed_iff, Forwarding.isEnabled,
    Bool.not_eq_true', List.isEmpty_eq_false_iff]

theorem settled_turn (settled : Settled switches initial history s)
    (follows : t.call.plan.Follows s.controller h r c)
    (answers : Answers (SwitchFiles.answer others) ⟨s.content, t.refusal⟩ h files) :
    Settled switches initial (history ++ [t]) ⟨c, files.content⟩ ∧
      h.map Exchange.call = (if Tries (history.map call) t.call
        then bothSwitches (Needed ((history ++ [t]).map call)) else []) ∧
      r = if Tries (history.map call) t.call
        then t.outcome switches (Needed ((history ++ [t]).map call)) else .ok () := by
  have keeps : Keeps ((history ++ [t]).map call)
      (t.call.after s.controller.forwarding.requesters) := by
    rw [List.map_append]
    exact settled.keeps.append t.call
  obtain ⟨rfl, r', rfl, ⟨still, rfl, rfl⟩ | ⟨tries, applied⟩⟩ :=
    of_follows_plan settled.keeps follows
  · cases answers
    refine ⟨⟨keeps, fun family => ?_, settled.switches⟩, ?_, ?_⟩
    · rw [held_append, if_neg fun both => still both.1]
      exact settled.held family
    · rw [if_neg still]
      rfl
    · rw [if_neg still]
      rfl
  · obtain ⟨-, first, second, rfl, rfl⟩ := Forwarding.of_follows_apply applied
    rw [isEnabled_eq keeps] at answers ⊢
    obtain ⟨rfl, rfl, contents⟩ := SwitchFiles.of_answers_both answers
    refine ⟨⟨keeps, fun family => ?_, settled.switches⟩, ?_, ?_⟩
    · have result : files.content family = _ := contents family
      rw [held_append]
      simp only [tries, true_and, result, settled.held family]
    · rw [if_pos tries]
      rfl
    · rw [if_pos tries, ← settled.switches]
      exact outcome_of_openings _ _ _

theorem tries_openingCall (mode : String) : Tries [] (openingCall mode) := by
  rw [Keeps.nil.tries_iff]
  unfold openingCall
  split
  · exact Or.inr (by simp [after, insertName])
  · exact Or.inl rfl

theorem follows_openingCall {mode : String} {u : Unit} {c' : Controller}
    (follows : (Controller.boot mode).Follows c h u c') :
    ∃ r, (openingCall mode).plan.Follows c h r c' := by
  unfold Controller.boot Controller.forcedMode at follows
  unfold openingCall
  dsimp only at follows
  split at follows
  · next forced =>
    obtain ⟨r, _, _, _, switched, noted, rfl⟩ := follows_bind.mp (follows_log_bind.mp follows)
    obtain ⟨rfl, rfl⟩ := Controller.of_follows_noteFailure noted
    rw [if_pos forced, List.append_nil]
    exact ⟨_, follows_reported.mpr ⟨r, switched, rfl⟩⟩
  · next free =>
    obtain ⟨r, _, _, _, switched, noted, rfl⟩ := follows_bind.mp follows
    obtain ⟨rfl, rfl⟩ := Controller.of_follows_noteFailure noted
    rw [if_neg free, List.append_nil]
    exact ⟨_, follows_reported.mpr ⟨r, switched, rfl⟩⟩

theorem settled_begin (mode : String) (switches : Switches) (places : Places)
    (initial : Family → String) (refusal : Family → Option OsError) :
    Settled switches initial [⟨openingCall mode, refusal⟩]
        (begin others mode switches places ⟨initial, refusal⟩) ∧
      askedAtFirst others mode switches places ⟨initial, refusal⟩ =
        bothSwitches (Needed [openingCall mode]) := by
  have fresh : Settled switches initial [] ⟨Controller.fresh switches places, initial⟩ :=
    ⟨Keeps.nil, fun _ => held_nil.symm, rfl⟩
  obtain ⟨r, follows⟩ := follows_openingCall (follows_run (SwitchFiles.answer others)
    (Controller.boot mode) (Controller.fresh switches places) ⟨initial, refusal⟩)
  obtain ⟨settled, asked, -⟩ := settled_turn (t := ⟨openingCall mode, refusal⟩) fresh follows
    (answers_exchanges _ _ _ _)
  refine ⟨settled, ?_⟩
  rw [askedAtFirst, asked]
  exact if_pos (tries_openingCall mode)

theorem settled_perform (settled : Settled switches initial history s) (t : Turn) :
    Settled switches initial (history ++ [t]) (s.perform others t) :=
  (settled_turn settled (follows_run _ _ _ _) (answers_exchanges _ _ _ _)).1

theorem settled_performAll (turns : List Turn) (settled : Settled switches initial history s) :
    Settled switches initial (history ++ turns) (s.performAll others turns) := by
  induction turns generalizing history s with
  | nil =>
    rw [List.append_nil]
    exact settled
  | cons t rest ih =>
    rw [List.append_cons]
    exact ih (settled_perform settled t)

/-- Whatever mode a controller is constructed in, whatever calls follow and whichever file is
refused at which of them, the controller then has the requesters whose last call registers them,
and each file the digit of the last try at which it could be written. The construction tries both
switches; a call tries both or none, and its answer is the failure of its own try. -/
theorem switches_of_calls (others : (c : Call) → c.Answer) (mode : String) (switches : Switches)
    (places : Places) (initial : Family → String) (refusal : Family → Option OsError)
    (turns : List Turn) :
    let history := ⟨openingCall mode, refusal⟩ :: turns
    let calls := history.map Turn.call
    let s := (begin others mode switches places ⟨initial, refusal⟩).performAll others turns
    (∀ who, who ∈ s.controller.forwarding.requesters ↔ Registered calls who) ∧
    (∀ family, s.content family = Turn.held family (initial family) history) ∧
    (∀ family, (∀ t ∈ history, t.refusal family = none) →
      (s.content family = "1" ↔ ∃ who, who ∈ s.controller.forwarding.requesters)) ∧
    askedAtFirst others mode switches places ⟨initial, refusal⟩ =
      bothSwitches (Needed [openingCall mode]) ∧
    ∀ t : Turn,
      s.asked others t = (if Tries calls t.call
        then bothSwitches (Needed (calls ++ [t.call])) else []) ∧
      (s.carry others t).value = (if Tries calls t.call
        then t.outcome switches (Needed (calls ++ [t.call])) else .ok ()) ∧
      ((∃ e, (s.carry others t).value = .error e) ↔
        Tries calls t.call ∧ ∃ family, t.refusal family ≠ none) := by
  intro history calls s
  obtain ⟨first, asked⟩ := @settled_begin others mode switches places initial refusal
  have settled : Settled switches initial history s := settled_performAll turns first
  refine ⟨settled.keeps.mem_iff, settled.held, fun family writable => ?_, asked, fun t => ?_⟩
  · have content : s.content family = Setting.flag (Needed calls) := by
      rw [settled.held family]
      exact held_of_writable (tries_openingCall mode) turns writable
    rw [content, flag_eq_one_iff, decide_eq_true_iff]
    exact exists_congr fun who => (settled.keeps.mem_iff who).symm
  · have turn := settled_turn settled
      (follows_run (SwitchFiles.answer others) t.call.plan s.controller ⟨s.content, t.refusal⟩)
      (answers_exchanges _ _ _ _)
    rw [List.map_append] at turn
    obtain ⟨-, asks, answers⟩ := turn
    refine ⟨asks, answers, ?_⟩
    have value : (s.carry others t).value = _ := answers
    rw [value]
    by_cases tries : Tries calls t.call
    · rw [if_pos tries, outcome_eq_error_iff, and_iff_right tries]
    · rw [if_neg tries]
      exact iff_of_false nofun fun both => tries both.1

/-- The IPv6 file is missing. -/
def ipv6Missing : Family → Option OsError
  | .ipv4 => none
  | .ipv6 => some OsError.notFound

/-- A world with no more than the switch files. -/
def offline (c : Call) : c.Answer :=
  .error OsError.notFound

/-- A controller with one requester, whose IPv6 file has been missing from the start. -/
def oneRequester : ForwardingRun :=
  (begin offline "" {} {} ⟨fun _ => "x", ipv6Missing⟩).performAll offline
    [⟨.enable "wlan0", ipv6Missing⟩]

theorem switches_of_oneRequester :
    (∀ t ∈ [⟨openingCall "", ipv6Missing⟩, ⟨.enable "wlan0", ipv6Missing⟩],
        Turn.refusal t .ipv4 = none) ∧
      (oneRequester.content .ipv4 = "1" ↔
        ∃ who, who ∈ oneRequester.controller.forwarding.requesters) ∧
      oneRequester.content .ipv6 = "x" ∧
      (oneRequester.carry offline ⟨.disable "wlan0", ipv6Missing⟩).value = .error
        (.forwarding ⟨"/proc/sys/net/ipv6/conf/all/forwarding", false, OsError.notFound⟩) := by
  obtain ⟨-, held, steady, -, next⟩ := switches_of_calls offline "" {} {} (fun _ => "x")
    ipv6Missing [⟨.enable "wlan0", ipv6Missing⟩]
  have writable : ∀ t ∈ [⟨openingCall "", ipv6Missing⟩, ⟨.enable "wlan0", ipv6Missing⟩],
      Turn.refusal t .ipv4 = none := by
    decide +kernel
  refine ⟨writable, steady .ipv4 writable, ?_, ?_⟩
  · exact (held .ipv6).trans (by decide +kernel)
  · exact (next ⟨.disable "wlan0", ipv6Missing⟩).2.1.trans (by decide +kernel)

end ForwardingRun

end NetControl.Tether
