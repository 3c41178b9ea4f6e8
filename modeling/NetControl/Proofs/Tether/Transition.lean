import NetControl.Proofs.Tether.Exchange
import NetControl.Tether.Controller

/-!
# What an operation of the controller can do

`Controller.Transition` lists, case by case, where an operation can lead: what the state must be
like for the case, the exchanges that are made, the result, and the state afterwards. Each case
names what failed. `Controller.transition_of_follows` shows that the plans of the operations do
nothing else; every statement about runs of the controller is drawn from the list and not from the
plans.
-/

namespace NetControl.Tether

/-- The exchange is about a setting of the interface. -/
def Exchange.Sets (i : String) (x : Exchange) : Prop :=
  ∃ s, x.call = .set i s

namespace Controller

open Plan

/-- A setting that was written to an interface. -/
def written (interface : String) (s : Setting) : Exchange :=
  ⟨.set interface s, .ok ()⟩

/-- The exchanges that put an interface into router mode. -/
def routerWrites (interface : String) : List Exchange :=
  Setting.router.map (written interface)

/-- The exchanges of an attempt at router mode that stops at the first setting that cannot be
written. -/
inductive RouterStops (interface : String) : List Exchange → OsError → Prop
  | stop (before : List Setting) (s : Setting) (after : List Setting)
    (split : Setting.router = before ++ s :: after) (e : OsError) :
    RouterStops interface (before.map (written interface) ++ [⟨.set interface s, .error e⟩]) e

/-- The exchanges that put an interface back into client mode: every setting is tried, whatever
became of the others. -/
def ClientWrites (interface : String) (h : List Exchange) : Prop :=
  h.map Exchange.call = Setting.client.map fun step => .set interface step.2

/-- The exchanges and the result of telling the daemon the interfaces. -/
inductive Pushes (c : Controller) : List Exchange → Except OsError Unit → Prop
  | nothing (idle : c.daemon = none ∨ updateInterfaces c.interfaces = none) : Pushes c [] (.ok ())
  | frame {pid : Nat} {f : Frame} (running : c.daemon = some pid)
    (framed : updateInterfaces c.interfaces = some f) (r : Except OsError Unit) :
    Pushes c [⟨.send f.bytes, r⟩] r

/-- `c.Transition op h r c'`: the operation `op` can lead from `c` to `c'` with the exchanges `h`
and the result `r`. -/
inductive Transition (c : Controller) :
    Operation → List Exchange → Except Error Unit → Controller → Prop
  | enable {who : String} {h : List Exchange} {r : Except SwitchError Unit} {f : Forwarding}
    (switched : (Forwarding.enable who).Follows c.forwarding h r f) :
    Transition c (.enable who) h (r.mapError .forwarding) { c with forwarding := f }
  | disable {who : String} {h : List Exchange} {r : Except SwitchError Unit} {f : Forwarding}
    (switched : (Forwarding.disable who).Follows c.forwarding h r f) :
    Transition c (.disable who) h (r.mapError .forwarding) { c with forwarding := f }
  | startTwice {ranges : List String} {pid : Nat} (running : c.daemon = some pid) :
    Transition c (.start ranges) [] (.error .alreadyRunning) c
  | startOdd {ranges : List String} (idle : c.daemon = none) (odd : ranges.length % 2 ≠ 0) :
    Transition c (.start ranges) [] (.error (.oddRanges ranges.length)) c
  | launchFails {ranges : List String} (idle : c.daemon = none) (paired : ranges.length % 2 = 0)
    (e : OsError) :
    Transition c (.start ranges) [⟨.launch (daemonArguments ranges), .error e⟩]
      (.error (.launch e)) c
  | starts {ranges : List String} {pid : Nat} {h : List Exchange} {r : Except OsError Unit}
    (idle : c.daemon = none) (paired : ranges.length % 2 = 0)
    (push : { c with daemon := some pid }.Pushes h r) :
    Transition c (.start ranges) (⟨.launch (daemonArguments ranges), .ok pid⟩ :: h) (.ok ())
      { c with daemon := some pid }
  | stopIdle (idle : c.daemon = none) : Transition c .stop [] (.ok ()) c
  | stops {pid : Nat} (running : c.daemon = some pid) (r : Except OsError Unit) :
    Transition c .stop [⟨.terminate, r⟩] (r.mapError .terminate) { c with daemon := none }
  | tetherInvalid {i : String} (invalid : isInterfaceName i = false) :
    Transition c (.tether i) [] (.error (.invalidName i)) c
  | tetherTwice {i : String} (valid : isInterfaceName i = true) (present : i ∈ c.interfaces) :
    Transition c (.tether i) [] (.error (.alreadyTethered i)) c
  | tetherUnconfigured {i : String} {h₁ h₂ : List Exchange} {e : OsError}
    (valid : isInterfaceName i = true) (absent : i ∉ c.interfaces) (router : RouterStops i h₁ e)
    (client : ClientWrites i h₂) : Transition c (.tether i) (h₁ ++ h₂) (.error (.configure i e)) c
  | tetherUntold {i : String} {h₁ h₂ : List Exchange} {e : OsError}
    (valid : isInterfaceName i = true) (absent : i ∉ c.interfaces)
    (push : { c with interfaces := c.interfaces ++ [i] }.Pushes h₁ (.error e))
    (client : ClientWrites i h₂) :
    Transition c (.tether i) (routerWrites i ++ (h₁ ++ h₂)) (.error (.update e)) c
  | tethers {i : String} {h : List Exchange} (valid : isInterfaceName i = true)
    (absent : i ∉ c.interfaces)
    (push : { c with interfaces := c.interfaces ++ [i] }.Pushes h (.ok ())) :
    Transition c (.tether i) (routerWrites i ++ h) (.ok ())
      { c with interfaces := c.interfaces ++ [i] }
  | untetherAbsent {i : String} (absent : i ∉ c.interfaces) :
    Transition c (.untether i) [] (.error (.notTethered i)) c
  | untethers {i : String} {h₁ h₂ : List Exchange} {r : Except OsError Unit}
    (present : i ∈ c.interfaces) (client : ClientWrites i h₁)
    (push : { c with interfaces := c.interfaces.erase i }.Pushes h₂ r) :
    Transition c (.untether i) (h₁ ++ h₂) (r.mapError .update)
      { c with interfaces := c.interfaces.erase i }
  | serversInvalid {netId : UInt32} {servers : List String} {server : String}
    (rejected : updateServers (Mark.forDns netId) servers = .error server) :
    Transition c (.setServers netId servers) [] (.error (.invalidServer server))
      { c with servers := [] }
  | serversKept {netId : UInt32} {servers : List String} {update : ServerUpdate}
    (accepted : updateServers (Mark.forDns netId) servers = .ok update) (idle : c.daemon = none) :
    Transition c (.setServers netId servers) [] (.ok ())
      { c with servers := update.servers, netId }
  | serversSent {netId : UInt32} {servers : List String} {update : ServerUpdate} {pid : Nat}
    (accepted : updateServers (Mark.forDns netId) servers = .ok update)
    (running : c.daemon = some pid) :
    Transition c (.setServers netId servers) [⟨.send update.frame.bytes, .ok ()⟩] (.ok ())
      { c with servers := update.servers, netId }
  | serversUntold {netId : UInt32} {servers : List String} {update : ServerUpdate} {pid : Nat}
    (accepted : updateServers (Mark.forDns netId) servers = .ok update)
    (running : c.daemon = some pid) (e : OsError) :
    Transition c (.setServers netId servers) [⟨.send update.frame.bytes, .error e⟩]
      (.error (.update e)) { c with servers := [], netId }

/-! ## Settings of an interface -/

variable {c c' : Controller} {h : List Exchange}

theorem sets_of_mem_written {i : String} {settings : List Setting} :
    ∀ x ∈ settings.map (written i), x.Sets i := by
  intro x member
  obtain ⟨s, -, rfl⟩ := List.mem_map.mp member
  exact ⟨s, rfl⟩

/-- An attempt at router mode is about its interface only. -/
theorem sets_of_routerStops {i : String} {e : OsError} (stops : RouterStops i h e) :
    ∀ x ∈ h, x.Sets i := by
  cases stops with
  | stop before s after split e =>
    rw [List.forall_mem_append]
    exact ⟨sets_of_mem_written, List.forall_mem_singleton.mpr ⟨s, rfl⟩⟩

/-- So is the way back to client mode. -/
theorem sets_of_clientWrites {i : String} (client : ClientWrites i h) : ∀ x ∈ h, x.Sets i := by
  intro x member
  have call : x.call ∈ h.map Exchange.call := List.mem_map_of_mem member
  rw [client] at call
  obtain ⟨step, -, same⟩ := List.mem_map.mp call
  exact ⟨step.2, same.symm⟩

theorem of_follows_set {i : String} {s : Setting} {r : Except OsError Unit}
    (follows : (set i s).Follows c h r c') : h = [⟨.set i s, r⟩] ∧ c' = c := by
  unfold set at follows
  obtain ⟨r, _, ending, rfl⟩ :=
    follows_request_bind.mp (follows_log_bind.mp (follows_get_bind.mp follows))
  cases ending
  exact ⟨rfl, rfl⟩

/-- Writing settings up to the first that fails either writes them all, or all before the one that
fails. -/
theorem of_follows_setAll {i : String} {settings : List Setting} {r : Except OsError Unit}
    (follows : (setAll i settings).Follows c h r c') :
    c' = c ∧ ((r = .ok () ∧ h = settings.map (written i)) ∨
      ∃ e before s after, r = .error e ∧ settings = before ++ s :: after ∧
        h = before.map (written i) ++ [⟨.set i s, .error e⟩]) := by
  induction settings generalizing h with
  | nil =>
    obtain ⟨rfl, rfl, rfl⟩ := follows_pure.mp follows
    exact ⟨rfl, Or.inl ⟨rfl, rfl⟩⟩
  | cons s rest ih =>
    unfold setAll at follows
    obtain ⟨answer, _, _, _, first, second, rfl⟩ := follows_bind.mp follows
    obtain ⟨rfl, rfl⟩ := of_follows_set first
    cases answer with
    | error e =>
      obtain ⟨rfl, rfl, rfl⟩ := follows_pure.mp second
      exact ⟨rfl, Or.inr ⟨e, [], s, rest, rfl, rfl, rfl⟩⟩
    | ok _ =>
      obtain ⟨rfl, ⟨rfl, rfl⟩ | ⟨e, before, t, after, rfl, rfl, rfl⟩⟩ := ih second
      · exact ⟨rfl, Or.inl ⟨rfl, rfl⟩⟩
      · exact ⟨rfl, Or.inr ⟨e, s :: before, t, after, rfl, rfl, rfl⟩⟩

/-- Writing settings whatever fails tries every one of them. -/
theorem of_follows_setEach {i : String} {steps : List (String × Setting)}
    {failed : List (String × OsError)} (follows : (setEach i steps).Follows c h failed c') :
    c' = c ∧ h.map Exchange.call = steps.map fun step => .set i step.2 := by
  induction steps generalizing h failed with
  | nil =>
    obtain ⟨rfl, -, rfl⟩ := follows_pure.mp follows
    exact ⟨rfl, rfl⟩
  | cons step rest ih =>
    obtain ⟨name, s⟩ := step
    unfold setEach at follows
    obtain ⟨answer, _, _, _, first, second, rfl⟩ := follows_bind.mp follows
    obtain ⟨rfl, rfl⟩ := of_follows_set first
    obtain ⟨_, t, h₂, h₃, others, third, rfl⟩ := follows_bind.mp second
    have ending : h₃ = [] ∧ c' = t := by
      cases answer with
      | error e => exact ⟨(follows_pure.mp third).1, (follows_pure.mp third).2.2⟩
      | ok _ => exact ⟨(follows_pure.mp third).1, (follows_pure.mp third).2.2⟩
    obtain ⟨rfl, rfl⟩ := ending
    obtain ⟨rfl, calls⟩ := ih others
    exact ⟨rfl, by simp [calls]⟩

theorem of_follows_configureRouter {i : String} {r : Except OsError Unit}
    (follows : (configureRouter i).Follows c h r c') :
    c' = c ∧ ((r = .ok () ∧ h = routerWrites i) ∨ ∃ e, r = .error e ∧ RouterStops i h e) := by
  obtain ⟨rfl, ⟨rfl, rfl⟩ | ⟨e, before, s, after, rfl, split, rfl⟩⟩ := of_follows_setAll follows
  · exact ⟨rfl, Or.inl ⟨rfl, rfl⟩⟩
  · exact ⟨rfl, Or.inr ⟨e, rfl, .stop before s after split e⟩⟩

theorem of_follows_configureClient {i : String} {u : Unit}
    (follows : (configureClient i).Follows c h u c') : c' = c ∧ ClientWrites i h := by
  unfold configureClient at follows
  obtain ⟨_, _, _, _, each, notes, rfl⟩ := follows_bind.mp follows
  obtain ⟨rfl, rfl⟩ := follows_logAll.mp notes
  obtain ⟨rfl, calls⟩ := of_follows_setEach each
  exact ⟨rfl, by rw [List.append_nil]; exact calls⟩

/-! ## Frames for the daemon -/

/-- A frame goes out if a daemon runs, and its answer is the result. -/
theorem of_follows_send {f : Frame} {r : Except OsError Unit}
    (follows : (send f).Follows c h r c') :
    c' = c ∧ ((c.daemon = none ∧ h = [] ∧ r = .ok ()) ∨
      ∃ pid, c.daemon = some pid ∧ h = [⟨.send f.bytes, r⟩]) := by
  unfold send at follows
  have started := follows_get_bind.mp follows
  cases daemon : c.daemon with
  | none =>
    rw [daemon] at started
    obtain ⟨rfl, rfl, rfl⟩ := follows_pure.mp started
    exact ⟨rfl, Or.inl ⟨rfl, rfl, rfl⟩⟩
  | some pid =>
    rw [daemon] at started
    obtain ⟨answer, _, asked, rfl⟩ := follows_request_bind.mp (follows_log_bind.mp started)
    cases answer with
    | ok _ =>
      obtain ⟨rfl, rfl, rfl⟩ := follows_pure.mp asked
      exact ⟨rfl, Or.inr ⟨pid, rfl, rfl⟩⟩
    | error e =>
      simp only [follows_log_bind, follows_pure] at asked
      obtain ⟨rfl, rfl, rfl⟩ := asked
      exact ⟨rfl, Or.inr ⟨pid, rfl, rfl⟩⟩

theorem of_follows_pushInterfaces {r : Except OsError Unit}
    (follows : pushInterfaces.Follows c h r c') : c' = c ∧ c.Pushes h r := by
  unfold pushInterfaces at follows
  have started := follows_logAll_bind.mp (follows_get_bind.mp follows)
  cases framed : updateInterfaces c.interfaces with
  | none =>
    rw [framed] at started
    obtain ⟨rfl, rfl, rfl⟩ := follows_pure.mp started
    exact ⟨rfl, .nothing (Or.inr framed)⟩
  | some f =>
    rw [framed] at started
    obtain ⟨rfl, ⟨idle, rfl, rfl⟩ | ⟨pid, running, rfl⟩⟩ := of_follows_send started
    · exact ⟨rfl, .nothing (Or.inl idle)⟩
    · exact ⟨rfl, .frame running framed r⟩

/-! ## Operations -/

theorem of_follows_onForwarding {α : Type} {p : Plan Forwarding α} {a : α}
    (follows : (onForwarding p).Follows c h a c') :
    ∃ f, p.Follows c.forwarding h a f ∧ c' = { c with forwarding := f } := by
  unfold onForwarding at follows
  refine follows_zoom ?_ ?_ ?_ follows
  · exact fun _ _ => rfl
  · exact fun _ => rfl
  · exact fun _ _ _ => rfl

theorem transition_of_enable {who : String} {r : Except Error Unit}
    (follows : (enableForwarding who).Follows c h r c') : c.Transition (.enable who) h r c' := by
  unfold enableForwarding at follows
  obtain ⟨_, _, _, _, inner, ending, rfl⟩ := follows_bind.mp follows
  obtain ⟨f, switched, rfl⟩ := of_follows_onForwarding inner
  obtain ⟨rfl, rfl, rfl⟩ := follows_pure.mp ending
  rw [List.append_nil]
  exact .enable switched

theorem transition_of_disable {who : String} {r : Except Error Unit}
    (follows : (disableForwarding who).Follows c h r c') : c.Transition (.disable who) h r c' := by
  unfold disableForwarding at follows
  obtain ⟨_, _, _, _, inner, ending, rfl⟩ := follows_bind.mp follows
  obtain ⟨f, switched, rfl⟩ := of_follows_onForwarding inner
  obtain ⟨rfl, rfl, rfl⟩ := follows_pure.mp ending
  rw [List.append_nil]
  exact .disable switched

theorem transition_of_start {ranges : List String} {r : Except Error Unit}
    (follows : (Controller.start ranges).Follows c h r c') :
    c.Transition (.start ranges) h r c' := by
  unfold Controller.start at follows
  have started := follows_get_bind.mp follows
  cases daemon : c.daemon with
  | some pid =>
    simp only [daemon, Option.isSome_some, if_true, follows_log_bind, follows_pure] at started
    obtain ⟨rfl, rfl, rfl⟩ := started
    exact .startTwice daemon
  | none =>
    rw [daemon, Option.isSome_none, if_neg Bool.false_ne_true] at started
    by_cases paired : ranges.length % 2 = 0
    · rw [if_neg (not_not_intro paired)] at started
      obtain ⟨answer, _, launched, rfl⟩ :=
        follows_request_bind.mp (follows_log_bind.mp (follows_log_bind.mp started))
      cases answer with
      | error e =>
        simp only [follows_log_bind, follows_pure] at launched
        obtain ⟨rfl, rfl, rfl⟩ := launched
        exact .launchFails daemon paired e
      | ok pid =>
        simp only [follows_put_bind] at launched
        obtain ⟨answer, _, _, _, pushed, noted, rfl⟩ := follows_bind.mp launched
        obtain ⟨rfl, pushes⟩ := of_follows_pushInterfaces pushed
        cases answer with
        | ok _ =>
          simp only [follows_log_bind, follows_pure] at noted
          obtain ⟨rfl, rfl, rfl⟩ := noted
          rw [List.append_nil]
          exact .starts daemon paired pushes
        | error e =>
          simp only [follows_log_bind, follows_pure] at noted
          obtain ⟨rfl, rfl, rfl⟩ := noted
          rw [List.append_nil]
          exact .starts daemon paired pushes
    · rw [if_pos paired] at started
      obtain ⟨rfl, rfl, rfl⟩ := follows_pure.mp started
      exact .startOdd daemon paired

theorem transition_of_stop {r : Except Error Unit} (follows : Controller.stop.Follows c h r c') :
    c.Transition .stop h r c' := by
  unfold Controller.stop at follows
  have started := follows_get_bind.mp follows
  cases daemon : c.daemon with
  | none =>
    simp only [daemon, follows_log_bind, follows_pure] at started
    obtain ⟨rfl, rfl, rfl⟩ := started
    exact .stopIdle daemon
  | some pid =>
    simp only [daemon, follows_put_bind, follows_log_bind] at started
    obtain ⟨answer, _, ended, rfl⟩ := follows_request_bind.mp started
    cases answer with
    | error e =>
      obtain ⟨rfl, rfl, rfl⟩ := follows_pure.mp ended
      exact .stops daemon (.error e)
    | ok _ =>
      simp only [follows_log_bind, follows_pure] at ended
      obtain ⟨rfl, rfl, rfl⟩ := ended
      exact .stops daemon (.ok ())

theorem transition_of_tether {i : String} {r : Except Error Unit}
    (follows : (Controller.tether i).Follows c h r c') : c.Transition (.tether i) h r c' := by
  unfold Controller.tether at follows
  have started := follows_get_bind.mp (follows_log_bind.mp follows)
  cases valid : isInterfaceName i with
  | false =>
    rw [valid, Bool.not_false, if_pos rfl] at started
    obtain ⟨rfl, rfl, rfl⟩ := follows_pure.mp started
    exact .tetherInvalid valid
  | true =>
    rw [valid, Bool.not_true, if_neg Bool.false_ne_true] at started
    by_cases present : i ∈ c.interfaces
    · rw [if_pos present] at started
      obtain ⟨rfl, rfl, rfl⟩ := follows_pure.mp started
      exact .tetherTwice valid present
    rw [if_neg present] at started
    obtain ⟨answer, _, _, _, router, configured, rfl⟩ := follows_bind.mp started
    obtain ⟨rfl, ⟨rfl, rfl⟩ | ⟨e, rfl, stops⟩⟩ := of_follows_configureRouter router
    · simp only [follows_put_bind] at configured
      obtain ⟨answer, _, _, _, pushed, told, rfl⟩ := follows_bind.mp configured
      obtain ⟨rfl, pushes⟩ := of_follows_pushInterfaces pushed
      cases answer with
      | ok _ =>
        obtain ⟨rfl, rfl, rfl⟩ := follows_pure.mp told
        rw [List.append_nil]
        exact .tethers valid present pushes
      | error e =>
        simp only [follows_put_bind] at told
        obtain ⟨_, _, _, _, reverted, ending, rfl⟩ := follows_bind.mp told
        obtain ⟨rfl, client⟩ := of_follows_configureClient reverted
        obtain ⟨rfl, rfl, rfl⟩ := follows_pure.mp ending
        rw [List.append_nil]
        exact .tetherUntold valid present pushes client
    · obtain ⟨_, _, _, _, reverted, ending, rfl⟩ := follows_bind.mp configured
      obtain ⟨rfl, client⟩ := of_follows_configureClient reverted
      obtain ⟨rfl, rfl, rfl⟩ := follows_pure.mp ending
      rw [List.append_nil]
      exact .tetherUnconfigured valid present stops client

theorem transition_of_untether {i : String} {r : Except Error Unit}
    (follows : (Controller.untether i).Follows c h r c') : c.Transition (.untether i) h r c' := by
  unfold Controller.untether at follows
  have started := follows_get_bind.mp (follows_log_bind.mp follows)
  by_cases present : i ∈ c.interfaces
  · rw [if_neg (not_not_intro present)] at started
    obtain ⟨_, _, _, _, reverted, removed, rfl⟩ := follows_bind.mp (follows_put_bind.mp started)
    obtain ⟨rfl, client⟩ := of_follows_configureClient reverted
    obtain ⟨_, _, _, _, pushed, ending, rfl⟩ := follows_bind.mp removed
    obtain ⟨rfl, pushes⟩ := of_follows_pushInterfaces pushed
    obtain ⟨rfl, rfl, rfl⟩ := follows_pure.mp ending
    rw [List.append_nil]
    exact .untethers present client pushes
  · rw [if_pos present] at started
    obtain ⟨rfl, rfl, rfl⟩ := follows_pure.mp started
    exact .untetherAbsent present

theorem transition_of_setServers {netId : UInt32} {servers : List String} {r : Except Error Unit}
    (follows : (Controller.setServers netId servers).Follows c h r c') :
    c.Transition (.setServers netId servers) h r c' := by
  unfold Controller.setServers at follows
  have started := follows_logAll_bind.mp (follows_put_bind.mp (follows_get_bind.mp follows))
  cases outcome : updateServers (Mark.forDns netId) servers with
  | error server =>
    simp only [outcome, follows_log_bind, follows_pure] at started
    obtain ⟨rfl, rfl, rfl⟩ := started
    exact .serversInvalid outcome
  | ok update =>
    simp only [outcome, follows_put_bind] at started
    obtain ⟨answer, _, _, _, told, ending, rfl⟩ := follows_bind.mp started
    obtain ⟨rfl, ⟨idle, rfl, rfl⟩ | ⟨pid, running, rfl⟩⟩ := of_follows_send told
    · obtain ⟨rfl, rfl, rfl⟩ := follows_pure.mp ending
      exact .serversKept outcome idle
    · cases answer with
      | ok _ =>
        obtain ⟨rfl, rfl, rfl⟩ := follows_pure.mp ending
        exact .serversSent outcome running
      | error e =>
        simp only [follows_put_bind, follows_pure] at ending
        obtain ⟨rfl, rfl, rfl⟩ := ending
        have daemon : c.daemon = some pid := running
        exact .serversUntold outcome daemon e

/-- The plan of an operation does nothing but what the cases list. -/
theorem transition_of_follows {op : Operation} {r : Except Error Unit}
    (follows : op.plan.Follows c h r c') : c.Transition op h r c' := by
  cases op with
  | enable who => exact transition_of_enable follows
  | disable who => exact transition_of_disable follows
  | start ranges => exact transition_of_start follows
  | stop => exact transition_of_stop follows
  | tether i => exact transition_of_tether follows
  | untether i => exact transition_of_untether follows
  | setServers netId servers => exact transition_of_setServers follows

/-! ## The daemon of the controller -/

/-- A daemon runs after an operation if it was no stop, and a daemon ran before or was started. -/
theorem daemon_of_transition {op : Operation} {r : Except Error Unit}
    (step : c.Transition op h r c') :
    c'.daemon.isSome ↔
      op ≠ .stop ∧ (c.daemon.isSome ∨ (∃ ranges, op = .start ranges) ∧ r = .ok ()) := by
  cases step with
  | starts idle paired push => simp
  | stopIdle idle => simp [idle]
  | stops running result => simp
  | startTwice running => simp
  | startOdd idle odd => simp
  | launchFails idle paired e => simp
  | enable switched => simp
  | disable switched => simp
  | tetherInvalid invalid => simp
  | tetherTwice valid present => simp
  | tetherUnconfigured valid absent router client => simp
  | tetherUntold valid absent push client => simp
  | tethers valid absent push => simp
  | untetherAbsent absent => simp
  | untethers present client push => simp
  | serversInvalid rejected => simp
  | serversKept accepted idle => simp
  | serversSent accepted running => simp
  | serversUntold accepted running e => simp

end Controller

end NetControl.Tether
