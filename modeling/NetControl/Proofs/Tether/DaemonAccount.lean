import NetControl.Proofs.Tether.Orderly

/-!
# The account of the daemons

A daemon is launched by a start, told by several operations, and terminated by a stop, and each of
the three can fail. `Controller.daemons_of_lifetime` keeps the account over a lifetime: how many
daemons were launched and how many terminated, to which of them each frame went, which operations
send a frame and of which kind, and with which arguments a daemon was launched, flag by flag.
-/

namespace NetControl.Tether

open Plan

variable {h : List Exchange}

/-! ## Launches and terminations -/

/-- Every daemon that was launched was terminated, but for the one that there is. -/
def Balanced (h : List Exchange) : Prop :=
  h.countP Exchange.launches =
    h.countP Exchange.terminates + if (runningDaemon h).isSome then 1 else 0

/-- Requests in order keep the balance, whatever they are answered. -/
theorem balanced_concat {c : Controller} {x : Exchange} (order : Controller.Orderly h c x.call)
    (balanced : Balanced h) : Balanced (h ++ [x]) := by
  unfold Balanced at balanced ⊢
  rw [runningDaemon_concat, List.countP_append, List.countP_append, List.countP_singleton,
    List.countP_singleton]
  obtain ⟨call, answer⟩ := x
  cases call with
  | launch arguments =>
    have idle : runningDaemon h = none := order
    rw [idle] at balanced ⊢
    cases answer with
    | ok pid => exact congrArg (· + 1) balanced
    | error e => exact balanced
  | terminate =>
    have running : (runningDaemon h).isSome := order
    rw [if_pos running] at balanced
    exact balanced
  | switch family on => exact balanced
  | set interface setting => exact balanced
  | send frame => exact balanced

theorem balanced_of_kept {asks : List (Controller × Exchange)}
    (kept : Kept Controller.Orderly h asks) (balanced : Balanced h) :
    Balanced (h ++ asks.map Prod.snd) := by
  induction asks generalizing h with
  | nil =>
    rw [List.map_nil, List.append_nil]
    exact balanced
  | cons ask rest ih =>
    obtain ⟨order, others⟩ := kept_cons.mp kept
    have later := ih others (balanced_concat order balanced)
    rwa [List.append_assoc] at later

theorem balanced_of_isSwitch (switches : ∀ x ∈ h, x.IsSwitch) : Balanced h := by
  induction h using List.reverseRecOn with
  | nil => rfl
  | append_singleton earlier x ih =>
    rw [List.forall_mem_append, List.forall_mem_singleton] at switches
    refine balanced_concat (c := {}) ?_ (ih switches.1)
    exact Controller.orderly_of_isLocal (Or.inl switches.2)

/-! ## What one operation asks of the daemon -/

/-- The frame that was sent, whether or not it arrived. -/
def Exchange.frame? : Exchange → Option Bytes
  | ⟨.send frame, _⟩ => some frame
  | _ => none

/-- The arguments of a launch, whether or not it succeeded. -/
def Exchange.arguments? : Exchange → Option (List String)
  | ⟨.launch arguments, _⟩ => some arguments
  | _ => none

theorem filterMap_frame?_of_isLocal (quiet : ∀ x ∈ h, x.IsLocal) :
    h.filterMap Exchange.frame? = [] := by
  rw [List.filterMap_eq_nil_iff]
  rintro ⟨call, answer⟩ member
  rcases quiet _ member with ⟨family, on, about⟩ | ⟨i, s, about⟩
  · cases about
    rfl
  · cases about
    rfl

theorem filterMap_arguments?_of_isLocal (quiet : ∀ x ∈ h, x.IsLocal) :
    h.filterMap Exchange.arguments? = [] := by
  rw [List.filterMap_eq_nil_iff]
  rintro ⟨call, answer⟩ member
  rcases quiet _ member with ⟨family, on, about⟩ | ⟨i, s, about⟩
  · cases about
    rfl
  · cases about
    rfl

/-- Ranges in pairs are all passed on, one argument for a pair. -/
theorem rangeArguments_of_even {ranges : List String} (paired : ranges.length % 2 = 0) :
    ∃ pairs : List (String × String), ranges = pairs.flatMap (fun pair => [pair.1, pair.2]) ∧
      rangeArguments ranges =
        pairs.map fun pair => "--dhcp-range=" ++ pair.1 ++ "," ++ pair.2 ++ ",1h" := by
  induction ranges using rangeArguments.induct with
  | case1 low high rest ih =>
    obtain ⟨pairs, all, arguments⟩ := ih (by simpa [Nat.add_assoc] using paired)
    refine ⟨(low, high) :: pairs, ?_, ?_⟩
    · rw [List.flatMap_cons, ← all]
      rfl
    · rw [List.map_cons, ← arguments]
      rfl
  | case2 ranges short =>
    match ranges with
    | [] => exact ⟨[], rfl, rfl⟩
    | [low] => cases paired
    | low :: high :: rest => exact (short low high rest rfl).elim

namespace Controller

variable {c c' : Controller} {op : Operation}

/-- Whether the operation may tell the daemon the interfaces. -/
def Operation.listsInterfaces : Operation → Bool
  | .start _ => true
  | .tether _ => true
  | .untether _ => true
  | _ => false

/-- An operation sends a frame of its kind. -/
def Operation.Sends (op : Operation) (frame : Bytes) : Prop :=
  (ListsServers frame ∧ op.setsServers) ∨ (ListsInterfaces frame ∧ op.listsInterfaces)

/-- What one operation asks of the daemon: one frame at most, of its kind, and a launch only with an
argument for each pair of its ranges. -/
structure DaemonUse (op : Operation) (h : List Exchange) : Prop where
  once : (h.filterMap Exchange.frame?).length ≤ 1
  frames : ∀ frame ∈ h.filterMap Exchange.frame?, op.Sends frame
  launches : ∀ arguments ∈ h.filterMap Exchange.arguments?,
    ∃ pairs : List (String × String),
      op = .start (pairs.flatMap fun pair => [pair.1, pair.2]) ∧
        arguments = ["--keep-in-foreground", "--no-resolv", "--no-poll", "--dhcp-authoritative",
            "--dhcp-option-force=43,ANDROID_METERED", "--pid-file", ""]
          ++ pairs.map fun pair => "--dhcp-range=" ++ pair.1 ++ "," ++ pair.2 ++ ",1h"

/-- Nothing but switches and knobs is no use of the daemon. -/
theorem daemonUse_of_isLocal (quiet : ∀ x ∈ h, x.IsLocal) : DaemonUse op h where
  once := by
    rw [filterMap_frame?_of_isLocal quiet]
    exact Nat.zero_le 1
  frames := by
    rw [filterMap_frame?_of_isLocal quiet]
    exact nofun
  launches := by
    rw [filterMap_arguments?_of_isLocal quiet]
    exact nofun

theorem daemonUse_nil : DaemonUse op [] :=
  daemonUse_of_isLocal nofun

/-- Only frames and launches count. -/
theorem DaemonUse.congr {h' : List Exchange} (use : DaemonUse op h)
    (frames : h'.filterMap Exchange.frame? = h.filterMap Exchange.frame?)
    (arguments : h'.filterMap Exchange.arguments? = h.filterMap Exchange.arguments?) :
    DaemonUse op h' := by
  constructor
  · rw [frames]
    exact use.once
  · rw [frames]
    exact use.frames
  · rw [arguments]
    exact use.launches

/-- Switches and knobs before the rest do not count. -/
theorem DaemonUse.of_isLocal_append {early : List Exchange} (quiet : ∀ x ∈ early, x.IsLocal)
    (use : DaemonUse op h) : DaemonUse op (early ++ h) := by
  refine use.congr ?_ ?_
  · rw [List.filterMap_append, filterMap_frame?_of_isLocal quiet, List.nil_append]
  · rw [List.filterMap_append, filterMap_arguments?_of_isLocal quiet, List.nil_append]

/-- Nor do those after it. -/
theorem DaemonUse.append_of_isLocal {late : List Exchange} (use : DaemonUse op h)
    (quiet : ∀ x ∈ late, x.IsLocal) : DaemonUse op (h ++ late) := by
  refine use.congr ?_ ?_
  · rw [List.filterMap_append, filterMap_frame?_of_isLocal quiet, List.append_nil]
  · rw [List.filterMap_append, filterMap_arguments?_of_isLocal quiet, List.append_nil]

theorem daemonUse_of_send {frame : Bytes} (kind : op.Sends frame) (r : Except OsError Unit) :
    DaemonUse op [⟨.send frame, r⟩] where
  once := Nat.le_refl 1
  frames := List.forall_mem_singleton.mpr kind
  launches := nofun

theorem daemonUse_of_pushes {r : Except OsError Unit} (lists : op.listsInterfaces)
    (push : c.Pushes h r) : DaemonUse op h := by
  cases push with
  | nothing idle => exact daemonUse_nil
  | frame running framed r =>
    exact daemonUse_of_send (Or.inr ⟨listsInterfaces_of_updateInterfaces framed, lists⟩) r

/-- A start launches with its ranges, and then sends what it sends. -/
theorem DaemonUse.launch {ranges : List String} (paired : ranges.length % 2 = 0)
    (use : DaemonUse (.start ranges) h) (answer : Call.Answer (.launch (daemonArguments ranges))) :
    DaemonUse (.start ranges) (⟨.launch (daemonArguments ranges), answer⟩ :: h) where
  once := use.once
  frames := use.frames
  launches := by
    refine List.forall_mem_cons.mpr ⟨?_, use.launches⟩
    obtain ⟨pairs, all, arguments⟩ := rangeArguments_of_even paired
    refine ⟨pairs, congrArg Operation.start all, ?_⟩
    rw [daemonArguments, arguments, fixedArguments]

theorem daemonUse_of_transition {r : Except Error Unit} (step : c.Transition op h r c') :
    DaemonUse op h := by
  cases step with
  | enable switched =>
    exact daemonUse_of_isLocal (isLocal_of_isSwitch (Forwarding.isSwitch_of_enable switched))
  | disable switched =>
    exact daemonUse_of_isLocal (isLocal_of_isSwitch (Forwarding.isSwitch_of_disable switched))
  | launchFails idle paired e => exact daemonUse_nil.launch paired (.error e)
  | starts idle paired push => exact (daemonUse_of_pushes rfl push).launch paired (.ok _)
  | stops running r => exact ⟨Nat.zero_le 1, nofun, nofun⟩
  | tetherUnconfigured valid absent router client =>
    have quiet := List.forall_mem_append.mpr ⟨isLocal_of_sets (sets_of_routerStops router),
      isLocal_of_sets (sets_of_clientWrites client)⟩
    exact daemonUse_of_isLocal quiet
  | tetherUntold valid absent push client =>
    refine DaemonUse.of_isLocal_append (isLocal_of_sets sets_of_mem_written) ?_
    exact (daemonUse_of_pushes rfl push).append_of_isLocal
      (isLocal_of_sets (sets_of_clientWrites client))
  | tethers valid absent push =>
    exact (daemonUse_of_pushes rfl push).of_isLocal_append (isLocal_of_sets sets_of_mem_written)
  | untethers present client push =>
    exact (daemonUse_of_pushes rfl push).of_isLocal_append
      (isLocal_of_sets (sets_of_clientWrites client))
  | serversSent accepted running =>
    exact daemonUse_of_send (Or.inl ⟨ServerView.listsServers_of_updateServers accepted, rfl⟩) _
  | serversUntold accepted running e =>
    exact daemonUse_of_send (Or.inl ⟨ServerView.listsServers_of_updateServers accepted, rfl⟩) _
  | startTwice running => exact daemonUse_nil
  | startOdd idle odd => exact daemonUse_nil
  | stopIdle idle => exact daemonUse_nil
  | tetherInvalid invalid => exact daemonUse_nil
  | tetherTwice valid present => exact daemonUse_nil
  | untetherAbsent absent => exact daemonUse_nil
  | serversInvalid rejected => exact daemonUse_nil
  | serversKept accepted idle => exact daemonUse_nil

theorem Past.daemonUse {b : List Exchange} {performed : List Performed}
    (past : Past c b performed) : ∀ p ∈ performed, DaemonUse p.operation p.exchanges := by
  induction past with
  | boot booted => exact nofun
  | perform past step ih =>
    rw [List.forall_mem_append, List.forall_mem_singleton]
    exact ⟨ih, daemonUse_of_transition step⟩

/-! ## Lifetimes -/

theorem exists_of_setsServers (sets : op.setsServers) :
    ∃ netId servers, op = .setServers netId servers := by
  cases op with
  | setServers netId servers => exact ⟨netId, servers, rfl⟩
  | _ => cases sets

theorem exists_of_listsInterfaces (lists : op.listsInterfaces) :
    (∃ ranges, op = .start ranges) ∨ (∃ i, op = .tether i) ∨ ∃ i, op = .untether i := by
  cases op with
  | start ranges => exact Or.inl ⟨ranges, rfl⟩
  | tether i => exact Or.inr (Or.inl ⟨i, rfl⟩)
  | untether i => exact Or.inr (Or.inr ⟨i, rfl⟩)
  | _ => cases lists

/-- Whatever operations are carried out and whatever fails: as many daemons were terminated as were
launched, but for the one that runs; a frame is sent to the daemon that was launched last, which was
not terminated before; and an operation sends one frame at most, of its kind, and launches only with
seven flags, which are always the same, and one argument for each pair of its ranges. -/
theorem daemons_of_lifetime {ω : Type} (answer : (c : Call) → ω → c.Answer × ω) (mode : String)
    (switches : Switches) (places : Places) (w : ω) (ops : List Operation) :
    let first := Lifetime.begin answer mode switches places w
    let l := first.performAll answer ops
    let asks := first.asks answer ops
    l.exchanges.countP Exchange.launches =
        l.exchanges.countP Exchange.terminates + (if l.controller.daemon.isSome then 1 else 0) ∧
      (∀ x ∈ first.booting, x.IsSwitch) ∧
      l.exchanges = first.booting ++ asks.map Prod.snd ∧
      (∀ before c frame r after, asks = before ++ (c, ⟨.send frame, r⟩) :: after →
        ∃ pid earlier arguments later, c.daemon = some pid ∧
          first.booting ++ before.map Prod.snd =
            earlier ++ ⟨.launch arguments, .ok pid⟩ :: later ∧
          ∀ x ∈ later, x.launches = false ∧ x.terminates = false) ∧
      ∀ p ∈ l.performed,
        (p.exchanges.filterMap Exchange.frame?).length ≤ 1 ∧
        (∀ frame ∈ p.exchanges.filterMap Exchange.frame?,
          (ListsServers frame ∧ ∃ netId servers, p.operation = .setServers netId servers) ∨
          (ListsInterfaces frame ∧ ((∃ ranges, p.operation = .start ranges) ∨
            (∃ i, p.operation = .tether i) ∨ ∃ i, p.operation = .untether i))) ∧
        ∀ arguments ∈ p.exchanges.filterMap Exchange.arguments?,
          ∃ pairs : List (String × String),
            p.operation = .start (pairs.flatMap fun pair => [pair.1, pair.2]) ∧
            arguments = ["--keep-in-foreground", "--no-resolv", "--no-poll",
                "--dhcp-authoritative", "--dhcp-option-force=43,ANDROID_METERED", "--pid-file", ""]
              ++ pairs.map fun pair => "--dhcp-range=" ++ pair.1 ++ "," ++ pair.2 ++ ",1h" := by
  intro first l asks
  obtain ⟨quiet, all, kept, last⟩ := Lifetime.orderly answer mode switches places w ops
  have past : Past l.controller l.booting l.performed :=
    Lifetime.past answer mode switches places w ops
  refine ⟨?_, quiet, all, ?_, ?_⟩
  · have balanced := balanced_of_kept kept (balanced_of_isSwitch quiet)
    rw [← all] at balanced
    rw [last.daemon]
    exact balanced
  · intro before c frame r after split
    obtain ⟨state, running, -⟩ := kept before c ⟨.send frame, r⟩ after split
    obtain ⟨pid, number⟩ := Option.isSome_iff_exists.mp running
    obtain ⟨earlier, arguments, later, launched, since⟩ :=
      exists_launch_of_runningDaemon (state.daemon.symm.trans number)
    exact ⟨pid, earlier, arguments, later, number, launched, since⟩
  · intro p member
    have use := past.daemonUse p member
    refine ⟨use.once, ?_, use.launches⟩
    intro frame sent
    rcases use.frames frame sent with ⟨lists, sets⟩ | ⟨lists, sets⟩
    · exact Or.inl ⟨lists, exists_of_setsServers sets⟩
    · exact Or.inr ⟨lists, exists_of_listsInterfaces sets⟩

end Controller

end NetControl.Tether
