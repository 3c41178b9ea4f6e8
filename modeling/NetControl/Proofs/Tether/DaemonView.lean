import NetControl.Proofs.Tether.Framing
import NetControl.Proofs.Tether.Knobs

/-!
# The interfaces that the daemon knows of

The controller sends its list of interfaces and never asks what became of it. `DaemonView` follows
the exchanges instead: the last list that the daemon at hand received, and whether an operation that
keeps its list in spite of a failed push has failed to push since. Such an operation is a start or
an untethering; a tethering takes its interface back.

* `Controller.view_of_lifetime`: unless such a push failed, a running daemon knows the list that
  the controller has.
* The list is told whenever it or the daemon changes. That `updateInterfaces` yields no frame does
  not get in the way, because the names in the list are short.
-/

namespace NetControl.Tether

/-- The frame is one with interfaces. -/
def ListsInterfaces (frame : Bytes) : Prop :=
  Frame.command frame = Bytes.ofString "update_ifaces"

instance (frame : Bytes) : Decidable (ListsInterfaces frame) :=
  inferInstanceAs (Decidable (_ = _))

/-- Whether the operation keeps its list of interfaces even if the daemon cannot be told. -/
def Controller.Operation.keepsList : Controller.Operation → Bool
  | .start _ => true
  | .untether _ => true
  | _ => false

/-- What the daemon at hand was told about interfaces. -/
structure DaemonView where
  /-- The last frame with interfaces that it received. -/
  told : Option Bytes := none
  /-- Whether an operation that keeps its list has failed to tell it since. -/
  missed : Bool := false
deriving Repr, DecidableEq

namespace DaemonView

/-- The view after an exchange of an operation. A new daemon was told nothing. -/
def see (op : Controller.Operation) (v : DaemonView) : Exchange → DaemonView
  | ⟨.launch _, .ok _⟩ => {}
  | ⟨.send frame, .ok _⟩ => if ListsInterfaces frame then ⟨some frame, false⟩ else v
  | ⟨.send frame, .error _⟩ =>
    if ListsInterfaces frame ∧ op.keepsList then { v with missed := true } else v
  | _ => v

/-- The view after an operation. -/
def follow (v : DaemonView) (p : Controller.Performed) : DaemonView :=
  p.exchanges.foldl (see p.operation) v

/-- The view after the operations of a lifetime. -/
def after (performed : List Controller.Performed) : DaemonView :=
  performed.foldl follow {}

theorem after_append_singleton (performed : List Controller.Performed)
    (p : Controller.Performed) : after (performed ++ [p]) = (after performed).follow p := by
  unfold after
  rw [List.foldl_append]
  rfl

end DaemonView

/-! ## Exchanges that tell the daemon nothing -/

/-- The exchange is about switches or knobs. -/
def Exchange.IsLocal (x : Exchange) : Prop :=
  x.IsSwitch ∨ ∃ i, x.Sets i

variable {op : Controller.Operation} {v : DaemonView} {h : List Exchange}

theorem DaemonView.foldl_see_of_isLocal (quiet : ∀ x ∈ h, x.IsLocal) :
    h.foldl (see op) v = v := by
  induction h with
  | nil => rfl
  | cons x rest ih =>
    have same : see op v x = v := by
      obtain ⟨call, answer⟩ := x
      rcases quiet _ List.mem_cons_self with ⟨family, on, about⟩ | ⟨i, s, about⟩
      · cases about
        rfl
      · cases about
        rfl
    rw [List.foldl_cons, same]
    exact ih fun y inside => quiet y (List.mem_cons_of_mem _ inside)

namespace Controller

variable {c c' : Controller} {i : String} {r : Except OsError Unit}

theorem isLocal_of_isSwitch (switches : ∀ x ∈ h, x.IsSwitch) : ∀ x ∈ h, x.IsLocal :=
  fun x member => Or.inl (switches x member)

theorem isLocal_of_sets (sets : ∀ x ∈ h, x.Sets i) : ∀ x ∈ h, x.IsLocal :=
  fun x member => Or.inr ⟨i, sets x member⟩

/-! ## The two kinds of frames -/

theorem listsInterfaces_of_updateInterfaces {interfaces : List String} {f : Frame}
    (framed : updateInterfaces interfaces = some f) : ListsInterfaces f.bytes := by
  obtain ⟨first, rest, -, bytes⟩ := bytes_of_updateInterfaces framed
  unfold ListsInterfaces
  rw [bytes]
  exact Frame.command_eq (by decide +kernel) (first :: rest)

theorem not_listsInterfaces_of_updateServers {mark : Mark} {servers : List String}
    {update : ServerUpdate} (accepted : updateServers mark servers = .ok update) :
    ¬ListsInterfaces update.frame.bytes := by
  unfold ListsInterfaces
  rw [(bytes_of_updateServers accepted).1, Frame.command_eq (by decide +kernel)]
  decide +kernel

/-! ## Telling the daemon -/

/-- A running daemon knows the interfaces, unless it missed them. -/
def Knows (c : Controller) (v : DaemonView) : Prop :=
  c.daemon.isSome → c.interfaces ≠ [] → v.missed = false →
    ∃ f, updateInterfaces c.interfaces = some f ∧ v.told = some f.bytes

/-- The interfaces are told in these exchanges, with whatever success. -/
def Tells (c : Controller) (h : List Exchange) : Prop :=
  ∃ f r, updateInterfaces c.interfaces = some f ∧ ⟨.send f.bytes, r⟩ ∈ h

/-- While a daemon runs and there is an interface, a push is not left out. -/
theorem tells_of_pushes (named : ∀ i ∈ c.interfaces, isInterfaceName i = true)
    (running : c.daemon.isSome) (nonempty : c.interfaces ≠ []) (push : c.Pushes h r) :
    c.Tells h := by
  cases push with
  | nothing idle =>
    obtain ⟨first, rest, interfaces⟩ := List.exists_cons_of_ne_nil nonempty
    have valid : isInterfaceName first = true := by
      apply named
      rw [interfaces]
      exact List.mem_cons_self
    obtain ⟨f, framed⟩ := updateInterfaces_of_isInterfaceName valid rest
    rcases idle with none | none
    · rw [none] at running
      cases running
    · rw [interfaces, framed] at none
      cases none
  | frame _ framed r => exact ⟨_, r, framed, List.mem_singleton_self _⟩

/-- After a push the daemon knows the interfaces, or an operation that keeps its list has missed
it. -/
theorem knows_of_pushes (named : ∀ i ∈ c.interfaces, isInterfaceName i = true)
    (push : c.Pushes h r) (kept : op.keepsList ∨ r = .ok ()) :
    c.Knows (h.foldl (DaemonView.see op) v) := by
  intro running nonempty current
  -- The frame exists and was sent, so that the view before does not matter.
  obtain ⟨f, answer, framed, sent⟩ := tells_of_pushes named running nonempty push
  cases push with
  | nothing idle => cases sent
  | @frame pid g _ framed' r =>
    have same : f = g := Option.some.inj (framed.symm.trans framed')
    have lists := listsInterfaces_of_updateInterfaces framed'
    rw [same] at framed
    cases r with
    | ok u =>
      refine ⟨g, framed, ?_⟩
      rw [List.foldl_cons, List.foldl_nil]
      simp [DaemonView.see, lists]
    | error e =>
      have keeps : op.keepsList := kept.resolve_right nofun
      rw [List.foldl_cons, List.foldl_nil] at current
      simp [DaemonView.see, lists, keeps] at current

/-! ## What an operation does to the view -/

theorem foldl_see_updateServers {mark : Mark} {servers : List String} {update : ServerUpdate}
    (accepted : updateServers mark servers = .ok update) (r : Except OsError Unit) :
    [⟨.send update.frame.bytes, r⟩].foldl (DaemonView.see op) v = v := by
  have other := not_listsInterfaces_of_updateServers accepted
  cases r with
  | ok u => exact if_neg other
  | error e => exact if_neg fun both => other both.1

theorem Knows.unchanged {v' : DaemonView} (knows : c.Knows v)
    (interfaces : c'.interfaces = c.interfaces) (daemon : c'.daemon = c.daemon) (view : v' = v) :
    c'.Knows v' := by
  unfold Knows
  rw [interfaces, daemon, view]
  exact knows

/-- A failed tethering changes neither the controller nor what the daemon knows. -/
theorem unchanged_of_tether_error {e : Error} (step : c.Transition (.tether i) h (.error e) c') :
    c' = c ∧ h.foldl (DaemonView.see (.tether i)) v = v := by
  cases step with
  | tetherInvalid invalid => exact ⟨rfl, rfl⟩
  | tetherTwice valid present => exact ⟨rfl, rfl⟩
  | tetherUnconfigured valid absent router client =>
    refine ⟨rfl, DaemonView.foldl_see_of_isLocal ?_⟩
    exact List.forall_mem_append.mpr ⟨isLocal_of_sets (sets_of_routerStops router),
      isLocal_of_sets (sets_of_clientWrites client)⟩
  | tetherUntold valid absent push client =>
    refine ⟨rfl, ?_⟩
    have router : ∀ x ∈ routerWrites i, x.IsLocal := isLocal_of_sets sets_of_mem_written
    have back := isLocal_of_sets (sets_of_clientWrites client)
    rw [List.foldl_append, List.foldl_append, DaemonView.foldl_see_of_isLocal router,
      DaemonView.foldl_see_of_isLocal back]
    cases push with
    | frame running framed r =>
      rw [List.foldl_cons, List.foldl_nil]
      exact if_neg fun both => Bool.false_ne_true both.2

/-- Every operation leaves the daemon with the interfaces, or has missed it. -/
theorem knows_of_transition {r : Except Error Unit} (step : c.Transition op h r c')
    (named : ∀ i ∈ c'.interfaces, isInterfaceName i = true) (knows : c.Knows v) :
    c'.Knows (h.foldl (DaemonView.see op) v) := by
  cases step with
  | enable switched =>
    have quiet := isLocal_of_isSwitch (Forwarding.isSwitch_of_enable switched)
    exact knows.unchanged rfl rfl (DaemonView.foldl_see_of_isLocal quiet)
  | disable switched =>
    have quiet := isLocal_of_isSwitch (Forwarding.isSwitch_of_disable switched)
    exact knows.unchanged rfl rfl (DaemonView.foldl_see_of_isLocal quiet)
  | starts idle paired push =>
    rw [List.foldl_cons]
    exact knows_of_pushes named push (Or.inl rfl)
  | stops running r =>
    intro impossible
    cases impossible
  | tetherUnconfigured valid absent router client =>
    have failed := Transition.tetherUnconfigured valid absent router client
    exact knows.unchanged rfl rfl (unchanged_of_tether_error failed).2
  | tetherUntold valid absent push client =>
    have failed := Transition.tetherUntold valid absent push client
    exact knows.unchanged rfl rfl (unchanged_of_tether_error failed).2
  | tethers valid absent push =>
    rw [List.foldl_append]
    exact knows_of_pushes named push (Or.inr rfl)
  | untethers present client push =>
    rw [List.foldl_append]
    exact knows_of_pushes named push (Or.inl rfl)
  | serversSent accepted running =>
    exact knows.unchanged rfl rfl (foldl_see_updateServers accepted _)
  | serversUntold accepted running e =>
    exact knows.unchanged rfl rfl (foldl_see_updateServers accepted _)
  | startTwice running => exact knows
  | startOdd idle odd => exact knows
  | launchFails idle paired e => exact knows
  | stopIdle idle => exact knows
  | tetherInvalid invalid => exact knows
  | tetherTwice valid present => exact knows
  | untetherAbsent absent => exact knows
  | serversInvalid rejected => exact knows
  | serversKept accepted idle => exact knows

/-- If an operation changes the interfaces or the daemon, it tells a running daemon. -/
theorem tells_of_transition {r : Except Error Unit} (step : c.Transition op h r c')
    (named : ∀ i ∈ c'.interfaces, isInterfaceName i = true) (running : c'.daemon.isSome)
    (nonempty : c'.interfaces ≠ [])
    (changed : c'.interfaces ≠ c.interfaces ∨ c'.daemon ≠ c.daemon) : c'.Tells h := by
  have unchanged {c'' : Controller} (interfaces : c''.interfaces = c.interfaces)
      (daemon : c''.daemon = c.daemon) :
      ¬(c''.interfaces ≠ c.interfaces ∨ c''.daemon ≠ c.daemon) := by
    rintro (other | other)
    · exact other interfaces
    · exact other daemon
  cases step with
  | starts idle paired push =>
    obtain ⟨f, answer, framed, sent⟩ := tells_of_pushes named running nonempty push
    exact ⟨f, answer, framed, List.mem_cons_of_mem _ sent⟩
  | stops running r => cases running
  | tethers valid absent push =>
    obtain ⟨f, answer, framed, sent⟩ := tells_of_pushes named running nonempty push
    exact ⟨f, answer, framed, List.mem_append_right _ sent⟩
  | untethers present client push =>
    obtain ⟨f, answer, framed, sent⟩ := tells_of_pushes named running nonempty push
    exact ⟨f, answer, framed, List.mem_append_right _ sent⟩
  | _ => exact (unchanged rfl rfl changed).elim

/-! ## Lifetimes -/

/-- Every interface in the list has a name of one. -/
theorem Past.named {b : List Exchange} {performed : List Performed} (past : Past c b performed) :
    ∀ i ∈ c.interfaces, isInterfaceName i = true :=
  fun _ member => past.knobsSettled.isInterfaceName_of_mem member

theorem Past.knows {b : List Exchange} {performed : List Performed} (past : Past c b performed) :
    c.Knows (DaemonView.after performed) := by
  induction past with
  | boot booted =>
    obtain ⟨⟨f, rfl⟩, -⟩ := of_follows_boot booted
    intro impossible
    cases impossible
  | perform past step ih =>
    rw [DaemonView.after_append_singleton]
    exact knows_of_transition step (past.perform step).named ih

/-- Whatever operations are carried out and whatever fails: while a daemon runs and an interface is
tethered, the last frame with interfaces that this daemon received is the one of the current list,
unless a start or an untethering has failed to push since. In particular the next operation, if it
is a tethering that fails, changes neither the list nor what the daemon knows; and if it changes the
list or the daemon, it tells the daemon. -/
theorem view_of_lifetime {ω : Type} (answer : (c : Call) → ω → c.Answer × ω) (mode : String)
    (switches : Switches) (places : Places) (w : ω) (ops : List Operation) :
    let l := (Lifetime.begin answer mode switches places w).performAll answer ops
    let c := l.controller
    let view := DaemonView.after l.performed
    (c.daemon.isSome → c.interfaces ≠ [] → view.missed = false →
        ∃ f, updateInterfaces c.interfaces = some f ∧ view.told = some f.bytes) ∧
      ∀ op h r, (l.perform answer op).performed = l.performed ++ [⟨op, h, r⟩] →
        let next := (l.perform answer op).controller
        (∀ i e, op = .tether i → r = .error e →
            next = c ∧ DaemonView.after (l.perform answer op).performed = view) ∧
          (next.daemon.isSome → next.interfaces ≠ [] →
            next.interfaces ≠ c.interfaces ∨ next.daemon ≠ c.daemon →
            ∃ f sent, updateInterfaces next.interfaces = some f ∧ ⟨.send f.bytes, sent⟩ ∈ h) := by
  intro l c view
  have past : Past c l.booting l.performed := Lifetime.past answer mode switches places w ops
  refine ⟨past.knows, ?_⟩
  intro op h r last next
  have step : c.Transition op h r next := Lifetime.transition_of_perform answer last
  refine ⟨?_, tells_of_transition step (past.perform step).named⟩
  rintro i e rfl rfl
  have unchanged := unchanged_of_tether_error (v := view) step
  refine ⟨unchanged.1, ?_⟩
  rw [last, DaemonView.after_append_singleton]
  exact unchanged.2

end Controller

end NetControl.Tether
