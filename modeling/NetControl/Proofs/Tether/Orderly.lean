import Mathlib.Data.List.Induction
import Mathlib.Data.List.Nodup
import NetControl.Proofs.Tether.Asking
import NetControl.Proofs.Tether.ServerView

/-!
# What the controller asks, and when

Requests for the daemon name none: a frame goes to the daemon whose number the controller has, and
so does a termination. `runningDaemon` reads off the exchanges which daemon there is, and `Orderly`
says when a request is in order: a daemon is launched only if there is none, and a frame is sent
only while the controller has the number of the one there is. A frame is about the state in which it
is sent.

* `Controller.heeds_plan`: every operation, whatever fails, asks only what is in order, and leaves
  the controller with the number of the daemon that there is.
* `Controller.Lifetime.kept_asks`: so does a lifetime, from its boot on.
-/

namespace NetControl.Tether

open Plan

/-! ## The daemon that there is -/

/-- A daemon came to be. -/
def Exchange.launches : Exchange → Bool
  | ⟨.launch _, .ok _⟩ => true
  | _ => false

/-- The daemon was to be ended. It counts as ended even if that failed. -/
def Exchange.terminates : Exchange → Bool
  | ⟨.terminate, _⟩ => true
  | _ => false

/-- The daemon that there is after an exchange. -/
def daemonAfter (running : Option Nat) : Exchange → Option Nat
  | ⟨.launch _, .ok pid⟩ => some pid
  | ⟨.terminate, _⟩ => none
  | _ => running

/-- The daemon that there is after exchanges: the one launched last, unless it was terminated. -/
def runningDaemon (h : List Exchange) : Option Nat :=
  h.foldl daemonAfter none

variable {h h' : List Exchange} {x : Exchange}

theorem exists_of_launches (launch : x.launches) :
    ∃ arguments pid, x = ⟨.launch arguments, .ok pid⟩ := by
  obtain ⟨call, answer⟩ := x
  cases call with
  | launch arguments =>
    cases answer with
    | ok pid => exact ⟨arguments, pid, rfl⟩
    | error e => cases launch
  | _ => cases launch

theorem exists_of_terminates (terminate : x.terminates) : ∃ answer, x = ⟨.terminate, answer⟩ := by
  obtain ⟨call, answer⟩ := x
  cases call with
  | terminate => exact ⟨answer, rfl⟩
  | _ => cases terminate

theorem runningDaemon_concat (h : List Exchange) (x : Exchange) :
    runningDaemon (h ++ [x]) = daemonAfter (runningDaemon h) x := by
  unfold runningDaemon
  rw [List.foldl_append]
  rfl

theorem daemonAfter_of_neither (launch : x.launches = false)
    (terminate : x.terminates = false) (running : Option Nat) :
    daemonAfter running x = running := by
  obtain ⟨call, answer⟩ := x
  cases call with
  | launch arguments =>
    cases answer with
    | ok pid => cases launch
    | error e => rfl
  | terminate => cases terminate
  | switch family on => rfl
  | set interface setting => rfl
  | send frame => rfl

theorem daemonAfter_of_isLocal (quiet : x.IsLocal) (running : Option Nat) :
    daemonAfter running x = running := by
  obtain ⟨call, answer⟩ := x
  rcases quiet with ⟨family, on, about⟩ | ⟨i, s, about⟩
  · cases about
    rfl
  · cases about
    rfl

/-- Exchanges about switches and knobs leave the daemon that there is. -/
theorem runningDaemon_append_of_isLocal (h : List Exchange) (quiet : ∀ x ∈ h', x.IsLocal) :
    runningDaemon (h ++ h') = runningDaemon h := by
  induction h' using List.reverseRecOn with
  | nil => rw [List.append_nil]
  | append_singleton earlier x ih =>
    rw [List.forall_mem_append, List.forall_mem_singleton] at quiet
    rw [← List.append_assoc, runningDaemon_concat, daemonAfter_of_isLocal quiet.2, ih quiet.1]

/-- The daemon that there is was launched, and since then none was launched or terminated. -/
theorem exists_launch_of_runningDaemon {pid : Nat} (running : runningDaemon h = some pid) :
    ∃ earlier arguments later, h = earlier ++ ⟨.launch arguments, .ok pid⟩ :: later ∧
      ∀ x ∈ later, x.launches = false ∧ x.terminates = false := by
  induction h using List.reverseRecOn with
  | nil => cases running
  | append_singleton earlier x ih =>
    rw [runningDaemon_concat] at running
    cases launch : x.launches with
    | true =>
      obtain ⟨arguments, pid', rfl⟩ := exists_of_launches launch
      cases running
      exact ⟨earlier, arguments, [], rfl, nofun⟩
    | false =>
      cases terminate : x.terminates with
      | true =>
        obtain ⟨answer, rfl⟩ := exists_of_terminates terminate
        cases running
      | false =>
        rw [daemonAfter_of_neither launch terminate] at running
        obtain ⟨first, arguments, later, split, quiet⟩ := ih running
        refine ⟨first, arguments, later ++ [x], ?_, ?_⟩
        · rw [split, List.append_assoc]
          rfl
        · rw [List.forall_mem_append, List.forall_mem_singleton]
          exact ⟨quiet, launch, terminate⟩

/-! ## Requests in order -/

namespace Controller

/-- The list has names of interfaces, each of them once. -/
structure Listed (interfaces : List String) : Prop where
  nodup : interfaces.Nodup
  named : ∀ i ∈ interfaces, isInterfaceName i = true

/-- After these exchanges the controller has the number of the daemon that there is, and a list of
interfaces. -/
structure Steady (c : Controller) (h : List Exchange) : Prop where
  daemon : c.daemon = runningDaemon h
  listed : Listed c.interfaces

/-- The frame is one that the controller makes in this state: one with its interfaces, or one with
name servers. -/
inductive Makes (c : Controller) : Bytes → Prop
  | interfaces {f : Frame} (framed : updateInterfaces c.interfaces = some f) : Makes c f.bytes
  | servers {mark : Mark} {servers : List String} {update : ServerUpdate}
    (accepted : updateServers mark servers = .ok update) : Makes c update.frame.bytes

/-- Says whether a request of the controller is in order. -/
def Orderly : Rule Controller
  | h, _, .launch _ => runningDaemon h = none
  | h, c, .send frame => c.Steady h ∧ c.daemon.isSome ∧ c.Makes frame
  | h, _, .terminate => (runningDaemon h).isSome
  | _, _, _ => True

variable {c : Controller} {i : String}

theorem Listed.erase {interfaces : List String} (listed : Listed interfaces) (i : String) :
    Listed (interfaces.erase i) where
  nodup := listed.nodup.erase i
  named j member := listed.named j (List.mem_of_mem_erase member)

theorem Listed.concat {interfaces : List String} (listed : Listed interfaces)
    (valid : isInterfaceName i = true) (absent : i ∉ interfaces) :
    Listed (interfaces ++ [i]) := by
  constructor
  · rw [List.nodup_append]
    refine ⟨listed.nodup, List.nodup_singleton i, ?_⟩
    intro j member k last
    rw [List.mem_singleton.mp last]
    exact fun same => absent (same ▸ member)
  · rw [List.forall_mem_append, List.forall_mem_singleton]
    exact ⟨listed.named, valid⟩

theorem Steady.append_of_isLocal (steady : c.Steady h) (quiet : ∀ x ∈ h', x.IsLocal) :
    c.Steady (h ++ h') where
  daemon := by rw [runningDaemon_append_of_isLocal h quiet, steady.daemon]
  listed := steady.listed

theorem orderly_of_isLocal {x : Exchange} (quiet : x.IsLocal) : Orderly h c x.call := by
  rcases quiet with ⟨family, on, about⟩ | ⟨i, s, about⟩
  · rw [about]
    trivial
  · rw [about]
    trivial

/-! ## Parts of operations -/

/-- What a part of an operation leaves: the state is as it was, and still steady. -/
def Stays (c : Controller) {α : Type} (h : List Exchange) (_ : α) (c' : Controller) : Prop :=
  c' = c ∧ c.Steady h

theorem heeds_configureRouter (steady : c.Steady h) :
    (configureRouter i).Heeds Orderly c.Stays h c := by
  have quiet {h' : List Exchange} {r : Except OsError Unit} {t : Controller}
      (follows : (configureRouter i).Follows c h' r t) : ∀ x ∈ h', x.IsLocal := by
    rcases (of_follows_configureRouter follows).2 with ⟨-, rfl⟩ | ⟨e, -, stops⟩
    · exact isLocal_of_sets sets_of_mem_written
    · exact isLocal_of_sets (sets_of_routerStops stops)
  apply heeds_of_follows fun _ _ _ follows => quiet follows
  · exact fun _ _ _ about => orderly_of_isLocal about
  · intro h' r t follows
    exact ⟨(of_follows_configureRouter follows).1, steady.append_of_isLocal (quiet follows)⟩

theorem heeds_configureClient (steady : c.Steady h) :
    (configureClient i).Heeds Orderly c.Stays h c := by
  have quiet {h' : List Exchange} {u : Unit} {t : Controller}
      (follows : (configureClient i).Follows c h' u t) : ∀ x ∈ h', x.IsLocal :=
    isLocal_of_sets (sets_of_clientWrites (of_follows_configureClient follows).2)
  apply heeds_of_follows fun _ _ _ follows => quiet follows
  · exact fun _ _ _ about => orderly_of_isLocal about
  · intro h' u t follows
    exact ⟨(of_follows_configureClient follows).1, steady.append_of_isLocal (quiet follows)⟩

theorem heeds_send {f : Frame} (steady : c.Steady h) (makes : c.Makes f.bytes) :
    (send f).Heeds Orderly c.Stays h c := by
  unfold send
  rw [heeds_bind, heeds_get]
  cases daemon : c.daemon with
  | none => exact ⟨rfl, steady⟩
  | some pid =>
    simp only [heeds_bind, heeds_log, heeds_request]
    have running : c.daemon.isSome := by rw [daemon]; rfl
    refine ⟨⟨steady, running, makes⟩, fun answer => ?_⟩
    have after : c.Steady (h ++ [⟨.send f.bytes, answer⟩]) :=
      ⟨by rw [runningDaemon_concat]; exact steady.daemon, steady.listed⟩
    cases answer with
    | ok u => exact ⟨rfl, after⟩
    | error e => exact ⟨rfl, after⟩

theorem heeds_pushInterfaces (steady : c.Steady h) :
    pushInterfaces.Heeds Orderly c.Stays h c := by
  unfold pushInterfaces
  simp only [heeds_bind, heeds_get, heeds_logAll]
  cases framed : updateInterfaces c.interfaces with
  | none => exact ⟨rfl, steady⟩
  | some f => exact heeds_send steady (.interfaces framed)

/-! ## Operations -/

/-- What an operation leaves. -/
abbrev Settles {α : Type} (h : List Exchange) (_ : α) (c : Controller) : Prop :=
  c.Steady h

theorem heeds_onForwarding {α : Type} {p : Plan Forwarding α}
    (switches : ∀ h' a f, p.Follows c.forwarding h' a f → ∀ x ∈ h', x.IsSwitch)
    (steady : c.Steady h) : (onForwarding p).Heeds Orderly Settles h c := by
  have quiet {h' : List Exchange} {a : α} {t : Controller}
      (follows : (onForwarding p).Follows c h' a t) : ∀ x ∈ h', x.IsLocal := by
    obtain ⟨f, inner, -⟩ := of_follows_onForwarding follows
    exact isLocal_of_isSwitch (switches _ _ _ inner)
  apply heeds_of_follows fun _ _ _ follows => quiet follows
  · exact fun _ _ _ about => orderly_of_isLocal about
  · intro h' a t follows
    obtain ⟨f, -, rfl⟩ := of_follows_onForwarding follows
    have after := steady.append_of_isLocal (quiet follows)
    exact ⟨after.daemon, after.listed⟩

theorem heeds_start {ranges : List String} (steady : c.Steady h) :
    (Controller.start ranges).Heeds Orderly Settles h c := by
  unfold Controller.start
  rw [heeds_bind, heeds_get]
  cases daemon : c.daemon with
  | some pid =>
    rw [Option.isSome_some, if_pos rfl]
    exact steady
  | none =>
    rw [Option.isSome_none, if_neg Bool.false_ne_true]
    split
    · exact steady
    · simp only [heeds_bind, heeds_log, heeds_request]
      refine ⟨steady.daemon.symm.trans daemon, fun answer => ?_⟩
      cases answer with
      | error e =>
        refine ⟨?_, steady.listed⟩
        rw [runningDaemon_concat]
        exact steady.daemon
      | ok pid =>
        simp only [heeds_bind, heeds_put]
        have launched : Steady { c with daemon := some pid }
            (h ++ [⟨.launch (daemonArguments ranges), .ok pid⟩]) := by
          refine ⟨?_, steady.listed⟩
          rw [runningDaemon_concat]
          rfl
        refine (heeds_pushInterfaces launched).mono ?_
        rintro h' (e | u) t ⟨rfl, after⟩
        · exact after
        · exact after

theorem heeds_stop (steady : c.Steady h) : Controller.stop.Heeds Orderly Settles h c := by
  unfold Controller.stop
  rw [heeds_bind, heeds_get]
  cases daemon : c.daemon with
  | none => exact steady
  | some pid =>
    simp only [heeds_bind, heeds_put, heeds_log, heeds_request]
    have running : (runningDaemon h).isSome := by
      rw [← steady.daemon, daemon]
      rfl
    refine ⟨running, fun answer => ?_⟩
    have ended : Steady { c with daemon := none } (h ++ [⟨.terminate, answer⟩]) := by
      refine ⟨?_, steady.listed⟩
      rw [runningDaemon_concat]
      rfl
    cases answer with
    | error e => exact ended
    | ok u => exact ended

theorem heeds_tether (steady : c.Steady h) :
    (Controller.tether i).Heeds Orderly Settles h c := by
  unfold Controller.tether
  simp only [heeds_bind, heeds_log, heeds_get]
  cases valid : isInterfaceName i with
  | false => exact steady
  | true =>
    rw [Bool.not_true, if_neg Bool.false_ne_true]
    split
    · exact steady
    · next absent =>
      rw [heeds_bind]
      refine (heeds_configureRouter steady).mono ?_
      rintro h₁ (e | u) t ⟨rfl, configured⟩
      · rw [heeds_bind]
        refine (heeds_configureClient configured).mono ?_
        rintro h₂ u t' ⟨rfl, restored⟩
        exact restored
      · simp only [heeds_bind, heeds_put]
        have added : Steady { t with interfaces := t.interfaces ++ [i] } h₁ :=
          ⟨configured.daemon, configured.listed.concat valid absent⟩
        refine (heeds_pushInterfaces added).mono ?_
        rintro h₂ (e | u) t' ⟨rfl, told⟩
        · simp only [heeds_bind, heeds_put]
          have back : t.Steady h₂ := ⟨told.daemon, configured.listed⟩
          refine (heeds_configureClient back).mono ?_
          rintro h₃ u t' ⟨rfl, restored⟩
          exact restored
        · exact told

theorem heeds_untether (steady : c.Steady h) :
    (Controller.untether i).Heeds Orderly Settles h c := by
  unfold Controller.untether
  simp only [heeds_bind, heeds_log, heeds_get]
  split
  · exact steady
  · simp only [heeds_bind, heeds_put]
    have removed : Steady { c with interfaces := c.interfaces.erase i } h :=
      ⟨steady.daemon, steady.listed.erase i⟩
    refine (heeds_configureClient removed).mono ?_
    rintro h₁ u t ⟨rfl, restored⟩
    refine (heeds_pushInterfaces restored).mono ?_
    rintro h₂ r t' ⟨rfl, told⟩
    exact told

theorem heeds_setServers {netId : UInt32} {servers : List String} (steady : c.Steady h) :
    (Controller.setServers netId servers).Heeds Orderly Settles h c := by
  unfold Controller.setServers
  simp only [heeds_bind, heeds_get, heeds_put, heeds_logAll]
  cases outcome : updateServers (Mark.forDns netId) servers with
  | error server => exact ⟨steady.daemon, steady.listed⟩
  | ok update =>
    simp only [heeds_bind, heeds_put]
    have kept : Steady { c with servers := update.servers, netId } h :=
      ⟨steady.daemon, steady.listed⟩
    refine (heeds_send kept (.servers outcome)).mono ?_
    rintro h₁ (e | u) t ⟨rfl, told⟩
    · exact ⟨told.daemon, told.listed⟩
    · exact told

/-- Whatever fails, an operation asks only what is in order, and leaves the controller with the
number of the daemon that there is. -/
theorem heeds_plan (op : Operation) (steady : c.Steady h) :
    op.plan.Heeds Orderly Settles h c := by
  cases op with
  | enable who =>
    have switched := heeds_onForwarding (p := Forwarding.enable who)
      (fun _ _ _ follows => Forwarding.isSwitch_of_enable follows) steady
    exact heeds_bind.mpr (switched.mono fun _ _ _ after => after)
  | disable who =>
    have switched := heeds_onForwarding (p := Forwarding.disable who)
      (fun _ _ _ follows => Forwarding.isSwitch_of_disable follows) steady
    exact heeds_bind.mpr (switched.mono fun _ _ _ after => after)
  | start ranges => exact heeds_start steady
  | stop => exact heeds_stop steady
  | tether i => exact heeds_tether steady
  | untether i => exact heeds_untether steady
  | setServers netId servers => exact heeds_setServers steady

/-! ## Lifetimes -/

namespace Lifetime

variable {ω : Type} (answer : (c : Call) → ω → c.Answer × ω)

/-- What the operations ask when they are carried out, with the state in which it is asked. -/
def asks (l : Lifetime ω) : List Operation → List (Controller × Exchange)
  | [] => []
  | op :: rest =>
    op.plan.asked answer l.controller l.world ++ (l.perform answer op).asks rest

/-- Without the states these are the exchanges of the operations. -/
theorem exchanges_performAll (l : Lifetime ω) (ops : List Operation) :
    (l.performAll answer ops).exchanges = l.exchanges ++ (l.asks answer ops).map Prod.snd := by
  induction ops generalizing l with
  | nil => exact (List.append_nil _).symm
  | cons op rest ih =>
    change ((l.perform answer op).performAll answer rest).exchanges = _
    rw [ih, exchanges_perform, asks, List.map_append, map_asked, List.append_assoc]

theorem isSwitch_begin (mode : String) (switches : Switches) (places : Places) (w : ω) :
    ∀ x ∈ (begin answer mode switches places w).booting, x.IsSwitch :=
  (of_follows_boot (follows_run answer (boot mode) (fresh switches places) w)).2

theorem steady_begin (mode : String) (switches : Switches) (places : Places) (w : ω) :
    let l := begin answer mode switches places w
    l.controller.Steady l.exchanges := by
  intro l
  have quiet := isSwitch_begin answer mode switches places w
  obtain ⟨⟨f, state⟩, -⟩ :=
    of_follows_boot (follows_run answer (boot mode) (fresh switches places) w)
  have controller : l.controller = { fresh switches places with forwarding := f } := state
  have exchanges : l.exchanges = l.booting := List.append_nil _
  rw [controller, exchanges]
  refine ⟨?_, List.nodup_nil, nofun⟩
  exact (runningDaemon_append_of_isLocal [] (isLocal_of_isSwitch quiet)).symm

/-- All that is asked in a lifetime is in order, and the controller always has the number of the
daemon that there is. -/
theorem kept_asks (l : Lifetime ω) (ops : List Operation)
    (steady : l.controller.Steady l.exchanges) :
    Kept Orderly l.exchanges (l.asks answer ops) ∧
      (l.performAll answer ops).controller.Steady (l.performAll answer ops).exchanges := by
  induction ops generalizing l with
  | nil => exact ⟨kept_nil, steady⟩
  | cons op rest ih =>
    obtain ⟨first, after⟩ := kept_of_heeds (heeds_plan op steady) answer l.world
    have next : (l.perform answer op).controller.Steady (l.perform answer op).exchanges := by
      rw [exchanges_perform]
      exact after
    obtain ⟨others, last⟩ := ih (l.perform answer op) next
    refine ⟨kept_append.mpr ⟨first, ?_⟩, last⟩
    rw [map_asked, ← exchanges_perform]
    exact others

/-- A lifetime, from its boot on: the boot is about switches, and all that the operations ask is in
order and leaves the controller with the number of the daemon that there is. -/
theorem orderly (mode : String) (switches : Switches) (places : Places) (w : ω)
    (ops : List Operation) :
    let first := begin answer mode switches places w
    let l := first.performAll answer ops
    let asks := first.asks answer ops
    (∀ x ∈ first.booting, x.IsSwitch) ∧ l.exchanges = first.booting ++ asks.map Prod.snd ∧
      Kept Orderly first.booting asks ∧ l.controller.Steady l.exchanges := by
  intro first l asks
  have booting : first.exchanges = first.booting := List.append_nil _
  have all : l.exchanges = first.exchanges ++ asks.map Prod.snd :=
    exchanges_performAll answer first ops
  obtain ⟨kept, last⟩ :=
    kept_asks answer first ops (steady_begin answer mode switches places w)
  rw [booting] at all kept
  exact ⟨isSwitch_begin answer mode switches places w, all, kept, last⟩

end Lifetime

end Controller

end NetControl.Tether
