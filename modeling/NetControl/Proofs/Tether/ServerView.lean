import NetControl.Proofs.Tether.DaemonView

/-!
# The name servers that the daemon knows of

A daemon learns name servers when they are set, and in no other way: a daemon that is started later
is told the interfaces but not the servers. `ServerView` follows the exchanges: the last frame with
name servers that the daemon at hand received, and whether servers were set since it was launched.

* `Controller.servers_of_lifetime`: a running daemon knows the name servers that the controller
  has just if they were set since it was launched. Otherwise it knows none at all.
* `Controller.servers_untold_by_start`: the daemon that is started after they were set, in a world
  in which nothing fails.
-/

namespace NetControl.Tether

/-- The frame is one with name servers. -/
def ListsServers (frame : Bytes) : Prop :=
  Frame.command frame = Bytes.ofString "update_dns"

instance (frame : Bytes) : Decidable (ListsServers frame) :=
  inferInstanceAs (Decidable (_ = _))

/-- The frame with the mark of the controller's network and all its name servers, in order. -/
def Controller.serversFrame (c : Controller) : Bytes :=
  Bytes.ofString "update_dns"
    ++ Frame.barred (("0x" ++ (Mark.forDns c.netId).hex) :: c.servers) ++ [0]

/-- Whether the operation sets name servers. -/
def Controller.Operation.setsServers : Controller.Operation → Bool
  | .setServers .. => true
  | _ => false

/-- What the daemon at hand was told about name servers. -/
structure ServerView where
  /-- The last frame with name servers that it received. -/
  told : Option Bytes := none
  /-- Whether name servers were set since it was launched. -/
  addressed : Bool := false
deriving Repr, DecidableEq

namespace ServerView

/-- The view after an exchange. A new daemon was told nothing. -/
def see (v : ServerView) : Exchange → ServerView
  | ⟨.launch _, .ok _⟩ => {}
  | ⟨.send frame, .ok _⟩ => if ListsServers frame then { v with told := some frame } else v
  | _ => v

/-- The view after an operation. -/
def follow (v : ServerView) (p : Controller.Performed) : ServerView :=
  let seen := p.exchanges.foldl see v
  { seen with addressed := seen.addressed || p.operation.setsServers }

/-- The view after the operations of a lifetime. -/
def after (performed : List Controller.Performed) : ServerView :=
  performed.foldl follow {}

theorem after_append_singleton (performed : List Controller.Performed)
    (p : Controller.Performed) : after (performed ++ [p]) = (after performed).follow p := by
  unfold after
  rw [List.foldl_append]
  rfl

/-! ## Exchanges that tell no name servers -/

variable {v : ServerView} {h : List Exchange}

theorem foldl_see_of_isLocal (quiet : ∀ x ∈ h, x.IsLocal) : h.foldl see v = v := by
  induction h with
  | nil => rfl
  | cons x rest ih =>
    have same : see v x = v := by
      obtain ⟨call, answer⟩ := x
      rcases quiet _ List.mem_cons_self with ⟨family, on, about⟩ | ⟨i, s, about⟩
      · cases about
        rfl
      · cases about
        rfl
    rw [List.foldl_cons, same]
    exact ih fun y inside => quiet y (List.mem_cons_of_mem _ inside)

theorem not_listsServers_of_updateInterfaces {interfaces : List String} {f : Frame}
    (framed : updateInterfaces interfaces = some f) : ¬ListsServers f.bytes := by
  have command : Frame.command f.bytes = Bytes.ofString "update_ifaces" :=
    Controller.listsInterfaces_of_updateInterfaces framed
  unfold ListsServers
  rw [command]
  decide +kernel

theorem listsServers_of_updateServers {mark : Mark} {servers : List String}
    {update : ServerUpdate} (accepted : updateServers mark servers = .ok update) :
    ListsServers update.frame.bytes := by
  unfold ListsServers
  rw [(bytes_of_updateServers accepted).1]
  exact Frame.command_eq (by decide +kernel) _

/-- The interfaces are told in a frame of another kind. -/
theorem foldl_see_of_pushes {c : Controller} {r : Except OsError Unit} (push : c.Pushes h r) :
    h.foldl see v = v := by
  cases push with
  | nothing idle => rfl
  | frame running framed r =>
    have other := not_listsServers_of_updateInterfaces framed
    cases r with
    | ok u => exact if_neg other
    | error e => rfl

theorem foldl_see_routerWrites {i : String} : (Controller.routerWrites i).foldl see v = v :=
  foldl_see_of_isLocal (Controller.isLocal_of_sets Controller.sets_of_mem_written)

end ServerView

namespace Controller

open ServerView

variable {c c' : Controller} {v : ServerView} {op : Operation} {h : List Exchange}
  {r : Except Error Unit}

/-! ## What an operation does to the view -/

/-- What the daemon at hand knows of the name servers: nothing unless servers were set since it was
launched, and then those that the controller has. -/
structure Serves (c : Controller) (v : ServerView) : Prop where
  untold : v.addressed = false → v.told = none
  told : v.addressed = true → c.daemon.isSome → c.servers ≠ [] → v.told = some c.serversFrame

/-- An operation that neither sets servers nor tells them leaves the view as it is. -/
theorem follow_of_quiet (other : op.setsServers = false) (quiet : h.foldl see v = v) :
    v.follow ⟨op, h, r⟩ = v := by
  unfold ServerView.follow
  dsimp only
  rw [quiet, other, Bool.or_false]

theorem Serves.unchanged {v' : ServerView} (serves : c.Serves v) (view : v' = v)
    (daemon : c'.daemon = c.daemon) (servers : c'.servers = c.servers)
    (netId : c'.netId = c.netId) : c'.Serves v' := by
  have frame : c'.serversFrame = c.serversFrame := by
    unfold serversFrame
    rw [servers, netId]
  subst view
  refine ⟨serves.untold, ?_⟩
  rw [daemon, servers, frame]
  exact serves.told

/-- After servers were set, only what the daemon was told last matters. -/
theorem Serves.of_setServers {netId : UInt32} {servers : List String}
    (told : c'.daemon.isSome → c'.servers ≠ [] → (h.foldl see v).told = some c'.serversFrame) :
    c'.Serves (v.follow ⟨.setServers netId servers, h, r⟩) where
  untold old := by
    have new : ((h.foldl see v).addressed || true) = false := old
    rw [Bool.or_true] at new
    cases new
  told _ := told

/-- A new daemon was told nothing, whatever servers there are. -/
theorem Serves.of_launch : c.Serves {} where
  untold _ := rfl
  told new := by cases new

theorem serves_of_transition (step : c.Transition op h r c') (serves : c.Serves v) :
    c'.Serves (v.follow ⟨op, h, r⟩) := by
  cases step with
  | enable switched =>
    have quiet := isLocal_of_isSwitch (Forwarding.isSwitch_of_enable switched)
    exact serves.unchanged (follow_of_quiet rfl (foldl_see_of_isLocal quiet)) rfl rfl rfl
  | disable switched =>
    have quiet := isLocal_of_isSwitch (Forwarding.isSwitch_of_disable switched)
    exact serves.unchanged (follow_of_quiet rfl (foldl_see_of_isLocal quiet)) rfl rfl rfl
  | @starts ranges pid pushes result idle paired push =>
    have new : v.follow ⟨.start ranges,
        ⟨.launch (daemonArguments ranges), .ok pid⟩ :: pushes, .ok ()⟩ = {} := by
      have seen : (⟨.launch (daemonArguments ranges), .ok pid⟩ :: pushes).foldl see v = {} :=
        foldl_see_of_pushes push
      unfold ServerView.follow
      dsimp only
      rw [seen]
      rfl
    rw [new]
    exact .of_launch
  | stops running result =>
    have view : v.follow ⟨.stop, [⟨.terminate, result⟩], result.mapError .terminate⟩ = v :=
      follow_of_quiet rfl rfl
    rw [view]
    exact ⟨serves.untold, fun _ impossible => by cases impossible⟩
  | tetherUnconfigured valid absent router client =>
    refine serves.unchanged (follow_of_quiet rfl ?_) rfl rfl rfl
    rw [List.foldl_append, foldl_see_of_isLocal (isLocal_of_sets (sets_of_routerStops router)),
      foldl_see_of_isLocal (isLocal_of_sets (sets_of_clientWrites client))]
  | tetherUntold valid absent push client =>
    refine serves.unchanged (follow_of_quiet rfl ?_) rfl rfl rfl
    rw [List.foldl_append, List.foldl_append,
      foldl_see_routerWrites, foldl_see_of_pushes push,
      foldl_see_of_isLocal (isLocal_of_sets (sets_of_clientWrites client))]
  | tethers valid absent push =>
    refine serves.unchanged (follow_of_quiet rfl ?_) rfl rfl rfl
    rw [List.foldl_append, foldl_see_routerWrites,
      foldl_see_of_pushes push]
  | untethers present client push =>
    refine serves.unchanged (follow_of_quiet rfl ?_) rfl rfl rfl
    rw [List.foldl_append, foldl_see_of_isLocal (isLocal_of_sets (sets_of_clientWrites client)),
      foldl_see_of_pushes push]
  | serversInvalid rejected => exact .of_setServers fun _ some => (some rfl).elim
  | serversKept accepted idle =>
    refine .of_setServers fun running => ?_
    have none : c.daemon.isSome = false := by rw [idle]; rfl
    exact (Bool.false_ne_true (none.symm.trans running)).elim
  | serversSent accepted running =>
    refine .of_setServers fun _ _ => ?_
    rw [List.foldl_cons, List.foldl_nil]
    unfold see
    dsimp only
    rw [if_pos (listsServers_of_updateServers accepted)]
    exact congrArg some (bytes_of_updateServers accepted).1
  | serversUntold accepted running e => exact .of_setServers fun _ some => (some rfl).elim
  | startTwice | startOdd | launchFails | stopIdle | tetherInvalid | tetherTwice
  | untetherAbsent => exact serves.unchanged (follow_of_quiet rfl rfl) rfl rfl rfl

/-! ## Lifetimes -/

theorem Past.serves {b : List Exchange} {performed : List Performed} (past : Past c b performed) :
    c.Serves (ServerView.after performed) := by
  induction past with
  | boot booted => exact .of_launch
  | perform past step ih =>
    rw [ServerView.after_append_singleton]
    exact serves_of_transition step ih

/-- Whatever operations are carried out and whatever fails: where a daemon runs and the controller
has name servers, the last frame with name servers that this daemon received is the one with the
controller's mark and servers just if servers were set since the daemon was launched. A daemon that
was launched after that has received no such frame. -/
theorem servers_of_lifetime {ω : Type} (answer : (c : Call) → ω → c.Answer × ω) (mode : String)
    (switches : Switches) (places : Places) (w : ω) (ops : List Operation) :
    let l := (Lifetime.begin answer mode switches places w).performAll answer ops
    let c := l.controller
    let view := ServerView.after l.performed
    c.daemon.isSome → c.servers ≠ [] →
      (view.told = some c.serversFrame ↔ view.addressed = true) ∧
        (view.addressed = false → view.told = none) := by
  intro l c view running some
  have serves : c.Serves view := (Lifetime.past answer mode switches places w ops).serves
  refine ⟨⟨fun told => ?_, fun addressed => serves.told addressed running some⟩, serves.untold⟩
  cases addressed : view.addressed with
  | true => rfl
  | false =>
    rw [serves.untold addressed] at told
    cases told

/-- Name servers are set for a daemon, and again for the next. -/
theorem servers_of_restart :
    let l := (Lifetime.begin willing "" {} {} ()).performAll willing
      [.start [], .setServers 100 ["8.8.8.8"], .stop, .start [], .setServers 7 ["1.1.1.1", "::1"]]
    l.controller.daemon.isSome ∧ l.controller.servers ≠ [] ∧
      (ServerView.after l.performed).told = some
        (Bytes.ofString "update_dns|0xf0007|1.1.1.1|::1" ++ [0]) := by
  intro l
  have running : l.controller.daemon.isSome := rfl
  have servers : l.controller.servers ≠ [] := by decide +kernel
  refine ⟨running, servers, ?_⟩
  have told := (servers_of_lifetime willing "" {} {} ()
    [.start [], .setServers 100 ["8.8.8.8"], .stop, .start [],
      .setServers 7 ["1.1.1.1", "::1"]] running servers).1.mpr (by decide +kernel)
  exact told.trans (by decide +kernel)

/-- Nothing fails, a daemon runs, and the controller has a name server; but the server was set
before the daemon was launched, and the daemon has received no frame with name servers. -/
theorem servers_untold_by_start :
    let l := (Lifetime.begin willing "" {} {} ()).performAll willing
      [.setServers 100 ["8.8.8.8"], .start []]
    l.performed.map Performed.result = [.ok (), .ok ()] ∧ l.controller.daemon.isSome ∧
      l.controller.servers = ["8.8.8.8"] ∧ (ServerView.after l.performed).told = none :=
  ⟨rfl, rfl, by decide +kernel, by decide +kernel⟩

end Controller

end NetControl.Tether
