import NetControl.Proofs.Except
import NetControl.Proofs.Tether.Knobs

/-!
# What a failed operation leaves behind

`Controller.Leaves` lists, failure by failure, the controller that an operation leaves where it
fails. Policies differ on purpose: a tethering is taken back as a whole, an untethering stands
although the daemon was not told, and a refused list of name servers still costs the old one.

`Controller.aftermath_of_lifetime` shows that a failure leaves nothing else behind in any state that
a controller can be in, and that a refused operation has asked nothing of the world. Reachability
matters for one case: an interface is in the list once at most, so that untethering leaves no second
copy of it.
-/

namespace NetControl.Tether

/-- The operation was refused for its arguments or for the state of the controller, and no request
had failed. -/
def Error.IsRefusal : Error → Prop
  | invalidName _ | oddRanges _ | invalidServer _ | alreadyTethered _ | alreadyRunning
  | notTethered _ => True
  | launch _ | terminate _ | configure _ _ | update _ | forwarding _ => False

namespace Controller

/-- `c.Leaves op e c'`: where the operation `op` fails with `e` in `c`, it leaves `c'`. -/
inductive Leaves (c : Controller) : Operation → Error → Controller → Prop
  | enable {who : String} {cause : SwitchError} (first : c.forwarding.requesters = []) :
    Leaves c (.enable who) (.forwarding cause)
      { c with forwarding := { c.forwarding with requesters := [who] } }
  | disable {who : String} {cause : SwitchError} (last : c.forwarding.requesters = [who]) :
    Leaves c (.disable who) (.forwarding cause)
      { c with forwarding := { c.forwarding with requesters := [] } }
  | start {ranges : List String} {e : Error} : Leaves c (.start ranges) e c
  | stop {pid : Nat} {cause : OsError} (running : c.daemon = some pid) :
    Leaves c .stop (.terminate cause) { c with daemon := none }
  | tether {i : String} {e : Error} : Leaves c (.tether i) e c
  | untetherAbsent {i : String} : Leaves c (.untether i) (.notTethered i) c
  | untetherUntold {i : String} {cause : OsError} (present : i ∈ c.interfaces) :
    Leaves c (.untether i) (.update cause)
      { c with interfaces := c.interfaces.filter (· != i) }
  | serversInvalid {netId : UInt32} {servers : List String} {server : String} :
    Leaves c (.setServers netId servers) (.invalidServer server) { c with servers := [] }
  | serversUntold {netId : UInt32} {servers : List String} {cause : OsError} :
    Leaves c (.setServers netId servers) (.update cause) { c with servers := [], netId }

variable {c c' : Controller} {op : Operation} {h : List Exchange} {r : Except Error Unit}
  {e : Error}

theorem eq_singleton_of_erase_eq_nil {names : List String} {who : String} (some : names ≠ [])
    (none : names.erase who = []) : names = [who] := by
  cases names with
  | nil => exact absurd rfl some
  | cons first rest =>
    rw [List.erase_cons] at none
    split at none
    · next same => rw [none, eq_of_beq same]
    · cases none

theorem leaves_of_transition (nodup : c.interfaces.Nodup) (step : c.Transition op h r c')
    (failed : r = .error e) : c.Leaves op e c' := by
  cases step with
  | enable switched =>
    obtain ⟨cause, rfl, rfl⟩ := mapError_eq_error_iff.mp failed
    obtain ⟨rfl, ⟨-, -, impossible⟩ | ⟨empty, -⟩⟩ := Forwarding.of_follows_enable switched
    · cases impossible
    · rw [empty]
      exact .enable empty
  | disable switched =>
    obtain ⟨cause, rfl, rfl⟩ := mapError_eq_error_iff.mp failed
    obtain ⟨rfl, ⟨-, -, impossible⟩ | ⟨some, none, -⟩⟩ := Forwarding.of_follows_disable switched
    · cases impossible
    · rw [none]
      exact .disable (eq_singleton_of_erase_eq_nil some none)
  | stops running r =>
    obtain ⟨cause, rfl, rfl⟩ := mapError_eq_error_iff.mp failed
    exact .stop running
  | untethers present client push =>
    obtain ⟨cause, rfl, rfl⟩ := mapError_eq_error_iff.mp failed
    rw [nodup.erase_eq_filter]
    exact .untetherUntold present
  | untetherAbsent absent =>
    cases failed
    exact .untetherAbsent
  | serversInvalid rejected =>
    cases failed
    exact .serversInvalid
  | serversUntold accepted running cause =>
    cases failed
    exact .serversUntold
  | startTwice | startOdd | launchFails => exact .start
  | tetherInvalid | tetherTwice | tetherUnconfigured | tetherUntold => exact .tether
  | starts | stopIdle | tethers | serversKept | serversSent => cases failed

theorem exchanges_of_refusal (step : c.Transition op h r c') (failed : r = .error e)
    (refusal : e.IsRefusal) : h = [] := by
  cases step with
  | startTwice | startOdd | tetherInvalid | tetherTwice | untetherAbsent | serversInvalid => rfl
  -- These have asked, so that their failures are no refusals.
  | enable | disable | stops | untethers =>
    obtain ⟨cause, -, rfl⟩ := mapError_eq_error_iff.mp failed
    exact refusal.elim
  | launchFails | tetherUnconfigured | tetherUntold | serversUntold =>
    cases failed
    exact refusal.elim
  | starts | stopIdle | tethers | serversKept | serversSent => cases failed

/-- Whatever operations were carried out before and whatever fails: an operation that fails leaves
what `Leaves` lists for its failure, and if it was refused it has asked nothing of the world. -/
theorem aftermath_of_lifetime {ω : Type} (answer : (c : Call) → ω → c.Answer × ω) (mode : String)
    (switches : Switches) (places : Places) (w : ω) (ops : List Operation) (op : Operation)
    (h : List Exchange) (e : Error) :
    let l := (Lifetime.begin answer mode switches places w).performAll answer ops
    (l.perform answer op).performed = l.performed ++ [⟨op, h, .error e⟩] →
      l.controller.Leaves op e (l.perform answer op).controller ∧ (e.IsRefusal → h = []) := by
  intro l last
  have step : l.controller.Transition op h (.error e) (l.perform answer op).controller :=
    Lifetime.transition_of_perform answer last
  have nodup : l.controller.interfaces.Nodup :=
    (Lifetime.past answer mode switches places w ops).knobsSettled.nodup
  exact ⟨leaves_of_transition nodup step rfl, exchanges_of_refusal step rfl⟩

/-- A world in which all goes well but that the daemon takes no frame. -/
def deafDaemon : (c : Call) → Unit → c.Answer × Unit
  | .switch _ _, w => (.ok (), w)
  | .set _ _, w => (.ok (), w)
  | .launch _, w => (.ok (1 : Nat), w)
  | .send _, w => (.error (.errno 32), w)
  | .terminate, w => (.ok (), w)

/-- Two tethered interfaces and a daemon that takes no frame. -/
def twoTethered : Lifetime Unit :=
  (Lifetime.begin deafDaemon "" {} {} ()).performAll deafDaemon
    [.tether "wlan0", .tether "rndis0", .start []]

theorem aftermath_of_untold_untethering :
    ∃ h, (twoTethered.perform deafDaemon (.untether "wlan0")).performed =
        twoTethered.performed ++ [⟨.untether "wlan0", h, .error (.update (.errno 32))⟩] ∧
      twoTethered.controller.Leaves (.untether "wlan0") (.update (.errno 32))
        (twoTethered.perform deafDaemon (.untether "wlan0")).controller := by
  have untold : ((Controller.untether "wlan0").run deafDaemon twoTethered.controller ()).value =
      .error (.update (.errno 32)) := rfl
  have last : (twoTethered.perform deafDaemon (.untether "wlan0")).performed =
      twoTethered.performed ++ [⟨.untether "wlan0",
        (Controller.untether "wlan0").exchanges deafDaemon twoTethered.controller (),
        .error (.update (.errno 32))⟩] := by
    rw [← untold]
    rfl
  exact ⟨_, last, (aftermath_of_lifetime deafDaemon "" {} {} ()
    [.tether "wlan0", .tether "rndis0", .start []] (.untether "wlan0") _ _ last).1⟩

end Controller

end NetControl.Tether
