import NetControl.Proofs.Tether.Knobs

/-!
# What an operation comes to where nothing fails

`Controller.Transition` lists what can become of an operation. Most of its cases are failures of the
world outside. Where only the switches may fail, what is left can be computed: an operation has one
result, tries one list of knobs and leads to one state, all of which depend on the state before it
and not on any answer. The number of the daemon is the exception, since the world chooses it.

`Posture` is the state of a controller without that number, and `Posture.act` computes what an
operation comes to. `Controller.computed_of_transition` shows that every transition whose requests
other than switches are granted is computed by it. The results of operations on forwarding depend on
the answers of the switches and are left open here.
-/

namespace NetControl.Tether

/-- The request was granted. -/
def Exchange.Granted (x : Exchange) : Prop :=
  ∃ y, x.answer = .ok y

/-- Whatever is asked is granted, except for switches, which may be refused. -/
def Obliging (h : List Exchange) : Prop :=
  ∀ x ∈ h, x.IsSwitch ∨ x.Granted

/-- The answers of the switches, in order. -/
def switchAnswers (h : List Exchange) : List (Except OsError Unit) :=
  h.filterMap fun
    | ⟨.switch _ _, r⟩ => some r
    | _ => none

variable {h h' : List Exchange}

@[simp] theorem obliging_nil : Obliging [] := nofun

theorem obliging_append : Obliging (h ++ h') ↔ Obliging h ∧ Obliging h' :=
  List.forall_mem_append

theorem Obliging.of_prefix (obliging : Obliging h) (first : h' <+: h) : Obliging h' :=
  fun x member => obliging x (first.subset member)

theorem Obliging.granted {x : Exchange} (obliging : Obliging h) (member : x ∈ h)
    (other : ∀ family on, x.call ≠ .switch family on) : x.Granted :=
  (obliging x member).resolve_left fun ⟨family, on, call⟩ => other family on call

@[simp] theorem switchAnswers_append :
    switchAnswers (h ++ h') = switchAnswers h ++ switchAnswers h' :=
  List.filterMap_append

theorem switchAnswers_of_sets {i : String} (sets : ∀ x ∈ h, x.Sets i) : switchAnswers h = [] := by
  unfold switchAnswers
  rw [List.filterMap_eq_nil_iff]
  intro x member
  obtain ⟨s, call⟩ := sets x member
  obtain ⟨_, answer⟩ := x
  cases call
  rfl

namespace Controller

/-- The operation is about the forwarding of packets. -/
def Operation.forwards : Operation → Bool
  | enable _ => true
  | disable _ => true
  | _ => false

/-! ## Postures -/

/-- The state of a controller without the number of its daemon. -/
structure Posture where
  forwarding : Forwarding
  interfaces : List String
  netId : UInt32
  servers : List String
  /-- A daemon runs. -/
  started : Bool
deriving DecidableEq

def posture (c : Controller) : Posture :=
  ⟨c.forwarding, c.interfaces, c.netId, c.servers, c.daemon.isSome⟩

/-- What an operation comes to. -/
structure Deed where
  result : Except Error Unit
  /-- The knobs that were written. -/
  writes : List KnobWrite
  posture : Posture

/-- Settings that were written to the knobs of an interface. -/
def writesOf (interface : String) (settings : List Setting) : List KnobWrite :=
  settings.map fun s => ⟨interface, s.knob, s.text, true⟩

namespace Posture

variable (p : Posture)

/-- The operation is refused, and nothing comes of it. -/
def refuse (e : Error) : Deed :=
  ⟨.error e, [], p⟩

/-- What an operation comes to where every request is granted. -/
def act : Operation → Deed
  | .enable who =>
    ⟨.ok (), [], { p with
      forwarding := { p.forwarding with requesters := insertName who p.forwarding.requesters } }⟩
  | .disable who =>
    ⟨.ok (), [], { p with
      forwarding := { p.forwarding with requesters := p.forwarding.requesters.erase who } }⟩
  | .start ranges =>
    if p.started then p.refuse .alreadyRunning
    else if ranges.length % 2 ≠ 0 then p.refuse (.oddRanges ranges.length)
    else ⟨.ok (), [], { p with started := true }⟩
  | .stop => ⟨.ok (), [], { p with started := false }⟩
  | .tether i =>
    if !isInterfaceName i then p.refuse (.invalidName i)
    else if i ∈ p.interfaces then p.refuse (.alreadyTethered i)
    else ⟨.ok (), writesOf i Setting.router, { p with interfaces := p.interfaces ++ [i] }⟩
  | .untether i =>
    if i ∈ p.interfaces then
      ⟨.ok (), writesOf i (Setting.client.map Prod.snd),
        { p with interfaces := p.interfaces.erase i }⟩
    else p.refuse (.notTethered i)
  | .setServers netId servers =>
    match updateServers (Mark.forDns netId) servers with
    | .error server => ⟨.error (.invalidServer server), [], { p with servers := [] }⟩
    | .ok update => ⟨.ok (), [], { p with servers := update.servers, netId }⟩

end Posture

/-! ## Granted requests -/

variable {c c' : Controller} {i : String} {r : Except OsError Unit}

/-- Settings that were tried with success were written. -/
theorem eq_written_of_calls {settings : List Setting}
    (calls : h.map Exchange.call = settings.map (.set i)) (obliging : Obliging h) :
    h = settings.map (written i) := by
  induction settings generalizing h with
  | nil =>
    rw [List.map_nil, List.map_eq_nil_iff] at calls
    exact calls
  | cons s rest ih =>
    obtain ⟨⟨_, answer⟩, h', rfl, call, later⟩ := List.map_eq_cons_iff.mp calls
    cases call
    obtain ⟨_, granted⟩ := obliging.granted List.mem_cons_self nofun
    have first : answer = .ok () := granted
    rw [List.map_cons, ← ih later (List.forall_mem_cons.mp obliging).2, first]
    rfl

/-- No setting of router mode stops where every one is written. -/
theorem not_obliging_of_routerStops {e : OsError} (stops : RouterStops i h e) : ¬Obliging h := by
  intro obliging
  cases stops with
  | stop before s after split e =>
    obtain ⟨_, granted⟩ := obliging.granted (List.mem_append_right _ List.mem_cons_self) nofun
    cases granted

theorem ok_of_pushes (push : c.Pushes h r) (obliging : Obliging h) : r = .ok () := by
  cases push with
  | nothing idle => rfl
  | frame running framed r =>
    obtain ⟨_, granted⟩ := obliging.granted List.mem_cons_self nofun
    exact granted

theorem switchAnswers_of_pushes (push : c.Pushes h r) : switchAnswers h = [] := by
  cases push with
  | nothing idle => rfl
  | frame running framed r => rfl

theorem eq_written_of_clientWrites (client : ClientWrites i h) (obliging : Obliging h) :
    h = (Setting.client.map Prod.snd).map (written i) := by
  apply eq_written_of_calls _ obliging
  rw [List.map_map]
  exact client

/-! ## Every transition -/

/-- A transition is what was computed, but for the result where that depends on switches. -/
structure Computed (c : Controller) (op : Operation) (h : List Exchange) (r : Except Error Unit)
    (c' : Controller) : Prop where
  posture : c'.posture = (c.posture.act op).posture
  writes : knobWrites h = (c.posture.act op).writes
  result : op.forwards = false → r = (c.posture.act op).result
  silent : op.forwards = false → switchAnswers h = []

theorem computed_of_deed {op : Operation} {r : Except Error Unit} {ws : List KnobWrite}
    (deed : c.posture.act op = ⟨r, ws, c'.posture⟩) (writes : knobWrites h = ws)
    (silent : switchAnswers h = []) : c.Computed op h r c' where
  posture := by rw [deed]
  writes := by rw [deed, writes]
  result _ := by rw [deed]
  silent _ := silent

/-- Where all that is asked is granted, every transition is what was computed. -/
theorem computed_of_transition {op : Operation} {r : Except Error Unit}
    (step : c.Transition op h r c') (obliging : Obliging h) : c.Computed op h r c' := by
  cases step with
  | enable switched =>
    obtain ⟨rfl, -⟩ := Forwarding.of_follows_enable switched
    exact ⟨rfl, knobWrites_of_isSwitch (Forwarding.isSwitch_of_enable switched), nofun, nofun⟩
  | disable switched =>
    obtain ⟨rfl, -⟩ := Forwarding.of_follows_disable switched
    exact ⟨rfl, knobWrites_of_isSwitch (Forwarding.isSwitch_of_disable switched), nofun, nofun⟩
  | startTwice running =>
    have started : c.posture.started = true := Option.isSome_iff_exists.mpr ⟨_, running⟩
    exact computed_of_deed (if_pos started) rfl rfl
  | startOdd idle odd =>
    have stopped : ¬c.posture.started = true := by simp [posture, idle]
    exact computed_of_deed ((if_neg stopped).trans (if_pos odd)) rfl rfl
  | launchFails idle paired e =>
    obtain ⟨_, granted⟩ := obliging.granted List.mem_cons_self nofun
    cases granted
  | starts idle paired push =>
    have stopped : ¬c.posture.started = true := by simp [posture, idle]
    have quiet := knobWrites_of_pushes push
    have silent := switchAnswers_of_pushes push
    exact computed_of_deed ((if_neg stopped).trans (if_neg (not_not_intro paired))) quiet silent
  | stopIdle idle =>
    have same : c.posture = { c.posture with started := false } := by simp [posture, idle]
    exact computed_of_deed (congrArg (Deed.mk _ _) same.symm) rfl rfl
  | stops running r =>
    obtain ⟨_, granted⟩ := obliging.granted List.mem_cons_self nofun
    obtain rfl : r = .ok () := granted
    exact computed_of_deed rfl rfl rfl
  | @tetherInvalid i invalid =>
    have refused : (!isInterfaceName i) = true := by simp [invalid]
    exact computed_of_deed (if_pos refused) rfl rfl
  | @tetherTwice i valid present =>
    have named : ¬(!isInterfaceName i) = true := by simp [valid]
    exact computed_of_deed ((if_neg named).trans (if_pos present)) rfl rfl
  | tetherUnconfigured valid absent router client =>
    exact (not_obliging_of_routerStops router (obliging_append.mp obliging).1).elim
  | tetherUntold valid absent push client =>
    cases ok_of_pushes push (obliging_append.mp (obliging_append.mp obliging).2).1
  | @tethers i h valid absent push =>
    have named : ¬(!isInterfaceName i) = true := by simp [valid]
    refine computed_of_deed ((if_neg named).trans (if_neg absent)) ?_ ?_
    · rw [knobWrites_append, knobWrites_of_pushes push, List.append_nil]
      exact knobWrites_written i Setting.router
    · rw [switchAnswers_append, switchAnswers_of_pushes push, List.append_nil]
      exact switchAnswers_of_sets sets_of_mem_written
  | untetherAbsent absent => exact computed_of_deed (if_neg absent) rfl rfl
  | @untethers i h₁ h₂ r present client push =>
    obtain ⟨first, second⟩ := obliging_append.mp obliging
    obtain rfl := ok_of_pushes push second
    refine computed_of_deed (if_pos present) ?_ ?_
    · rw [knobWrites_append, knobWrites_of_pushes push, List.append_nil,
        eq_written_of_clientWrites client first]
      exact knobWrites_written i _
    · rw [switchAnswers_append, switchAnswers_of_pushes push, List.append_nil]
      exact switchAnswers_of_sets (sets_of_clientWrites client)
  | serversInvalid rejected =>
    exact computed_of_deed (by rw [Posture.act, rejected]; rfl) rfl rfl
  | serversKept accepted idle =>
    exact computed_of_deed (by rw [Posture.act, accepted]; rfl) rfl rfl
  | serversSent accepted running =>
    exact computed_of_deed (by rw [Posture.act, accepted]; rfl) rfl rfl
  | serversUntold accepted running e =>
    obtain ⟨_, granted⟩ := obliging.granted List.mem_cons_self nofun
    cases granted

end Controller

end NetControl.Tether
