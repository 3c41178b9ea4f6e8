import NetControl.Proofs.Tether.Lifetime

/-!
# Where the knobs of interfaces stand

The controller reads no knob back. What it can know of a knob is the last text that it tried to
write there, and whether that succeeded. `KnobsSettled` says what these last attempts are: a
tethered interface has all four knobs in router mode, written with success; an interface that was
ever touched and is not tethered has all four in client mode, as far as trying goes; and nothing
that may not name an interface was ever touched.

An operation changes knobs in one of three ways (`KnobEffect`), each of which keeps the knobs
settled; failures only decide which of the three it is.
-/

namespace NetControl.Tether

/-- An attempt to write a text to a knob of an interface. -/
structure KnobWrite where
  interface : String
  knob : Knob
  text : String
  succeeded : Bool
deriving Repr, DecidableEq

/-- The attempt that an exchange is, if it is about a knob. -/
def Exchange.knobWrite? : Exchange → Option KnobWrite
  | ⟨.set i s, .ok _⟩ => some ⟨i, s.knob, s.text, true⟩
  | ⟨.set i s, .error _⟩ => some ⟨i, s.knob, s.text, false⟩
  | _ => none

/-- The attempts to write knobs, in order. -/
def knobWrites (h : List Exchange) : List KnobWrite :=
  h.filterMap Exchange.knobWrite?

/-- The last attempt to write a knob of an interface. -/
def lastWrite (ws : List KnobWrite) (i : String) (k : Knob) : Option KnobWrite :=
  (ws.filter fun w => w.interface = i ∧ w.knob = k).getLast?

@[simp] theorem knobWrites_append (h₁ h₂ : List Exchange) :
    knobWrites (h₁ ++ h₂) = knobWrites h₁ ++ knobWrites h₂ :=
  List.filterMap_append

theorem lastWrite_append (ws ws' : List KnobWrite) (i : String) (k : Knob) :
    lastWrite (ws ++ ws') i k = (lastWrite ws' i k).or (lastWrite ws i k) := by
  unfold lastWrite
  rw [List.filter_append, List.getLast?_append]

/-- Attempts at other interfaces leave the last attempt as it was. -/
theorem lastWrite_append_of_other {ws ws' : List KnobWrite} {i j : String}
    (about : ∀ w ∈ ws', w.interface = i) (other : j ≠ i) (k : Knob) :
    lastWrite (ws ++ ws') j k = lastWrite ws j k := by
  have none : ws'.filter (fun w => w.interface = j ∧ w.knob = k) = [] := by
    rw [List.filter_eq_nil_iff]
    intro w member
    rw [about w member]
    simp [other.symm]
  rw [lastWrite_append]
  unfold lastWrite
  rw [none]
  rfl

/-- The exchange of a setting is one attempt. -/
theorem knobWrite?_of_call {x : Exchange} {i : String} {s : Setting} (call : x.call = .set i s) :
    ∃ ok, x.knobWrite? = some ⟨i, s.knob, s.text, ok⟩ := by
  obtain ⟨_, answer⟩ := x
  cases call
  cases answer with
  | ok _ => exact ⟨true, rfl⟩
  | error _ => exact ⟨false, rfl⟩

theorem knobWrites_of_calls {i : String} {settings : List Setting} {h : List Exchange}
    (calls : h.map Exchange.call = settings.map (.set i)) :
    ∃ oks : List Bool, oks.length = settings.length ∧
      knobWrites h = List.zipWith (fun s ok => ⟨i, s.knob, s.text, ok⟩) settings oks := by
  induction settings generalizing h with
  | nil =>
    rw [List.map_nil, List.map_eq_nil_iff] at calls
    exact ⟨[], rfl, by rw [calls]; rfl⟩
  | cons s rest ih =>
    obtain ⟨x, h', rfl, call, calls⟩ := List.map_eq_cons_iff.mp calls
    obtain ⟨ok, attempt⟩ := knobWrite?_of_call call
    obtain ⟨oks, length, writes⟩ := ih calls
    refine ⟨ok :: oks, by simp [length], ?_⟩
    unfold knobWrites at writes ⊢
    rw [List.filterMap_cons_some attempt, writes, List.zipWith_cons_cons]

/-- Exchanges about one interface write knobs of that one only. -/
theorem interface_of_sets {i : String} {h : List Exchange} (sets : ∀ x ∈ h, x.Sets i) :
    ∀ w ∈ knobWrites h, w.interface = i := by
  intro w member
  obtain ⟨x, inside, attempt⟩ := List.mem_filterMap.mp member
  obtain ⟨s, call⟩ := sets x inside
  obtain ⟨ok, attempt'⟩ := knobWrite?_of_call call
  rw [attempt'] at attempt
  cases attempt
  rfl

/-- Exchanges about switches write no knob. -/
theorem knobWrites_of_isSwitch {h : List Exchange} (switches : ∀ x ∈ h, x.IsSwitch) :
    knobWrites h = [] := by
  unfold knobWrites
  rw [List.filterMap_eq_nil_iff]
  intro x member
  obtain ⟨family, on, call⟩ := switches x member
  obtain ⟨_, answer⟩ := x
  cases call
  rfl

namespace Controller

/-! ## Router mode and client mode -/

theorem knobWrites_written (i : String) (settings : List Setting) :
    knobWrites (settings.map (written i)) =
      settings.map fun s => ⟨i, s.knob, s.text, true⟩ := by
  unfold knobWrites
  rw [List.filterMap_map, ← List.filterMap_eq_map]
  rfl

/-- Router mode leaves every knob of the interface at `0`. -/
theorem lastWrite_routerWrites (ws : List KnobWrite) (i : String) (k : Knob) :
    lastWrite (ws ++ knobWrites (routerWrites i)) i k = some ⟨i, k, "0", true⟩ := by
  rw [lastWrite_append, routerWrites, knobWrites_written]
  cases k <;> simp [lastWrite, Setting.router, Setting.knob, Setting.text, Setting.flag]

/-- Client mode tries to leave every knob of the interface at `1`. -/
theorem lastWrite_of_clientWrites {i : String} {h : List Exchange} (client : ClientWrites i h)
    (ws : List KnobWrite) (k : Knob) :
    ∃ ok, lastWrite (ws ++ knobWrites h) i k = some ⟨i, k, "1", ok⟩ := by
  have calls : h.map Exchange.call = (Setting.client.map Prod.snd).map (.set i) := by
    rw [List.map_map]
    exact client
  obtain ⟨oks, length, writes⟩ := knobWrites_of_calls calls
  obtain ⟨a, b, c, d, rfl⟩ : ∃ a b c d, oks = [a, b, c, d] := by
    match oks, length with
    | [a, b, c, d], _ => exact ⟨a, b, c, d, rfl⟩
  rw [lastWrite_append, writes]
  cases k <;> simp [lastWrite, Setting.client, Setting.knob, Setting.text, Setting.flag]

theorem knobWrites_of_pushes {c : Controller} {h : List Exchange} {r : Except OsError Unit}
    (push : c.Pushes h r) : knobWrites h = [] := by
  cases push with
  | nothing idle => rfl
  | frame running framed r => rfl

/-! ## What an operation does to the knobs -/

/-- `KnobEffect before ws after`: an operation that finds the interfaces `before` tethered tries the
writes `ws` and leaves the interfaces `after` tethered. -/
inductive KnobEffect (before : List String) : List KnobWrite → List String → Prop
  /-- No knob is touched. -/
  | untouched : KnobEffect before [] before
  /-- One more interface goes into router mode. -/
  | configured {i : String} (valid : isInterfaceName i = true) (absent : i ∉ before) :
    KnobEffect before (knobWrites (routerWrites i)) (before ++ [i])
  /-- An interface goes back into client mode, whatever was tried before. -/
  | restored {i : String} {ws : List KnobWrite} {h : List Exchange} {after : List String}
    (named : isInterfaceName i = true ∨ i ∈ before) (tried : ∀ w ∈ ws, w.interface = i)
    (client : ClientWrites i h) (released : after = before.erase i) :
    KnobEffect before (ws ++ knobWrites h) after

theorem knobEffect_of_transition {c c' : Controller} {op : Operation} {h : List Exchange}
    {r : Except Error Unit} (step : c.Transition op h r c') :
    KnobEffect c.interfaces (knobWrites h) c'.interfaces := by
  cases step with
  | enable switched =>
    rw [knobWrites_of_isSwitch (Forwarding.isSwitch_of_enable switched)]
    exact .untouched
  | disable switched =>
    rw [knobWrites_of_isSwitch (Forwarding.isSwitch_of_disable switched)]
    exact .untouched
  | starts idle paired push =>
    have quiet := knobWrites_of_pushes push
    rw [← List.singleton_append, knobWrites_append, quiet]
    exact .untouched
  | tetherUnconfigured valid absent router client =>
    rw [knobWrites_append]
    exact .restored (Or.inl valid) (interface_of_sets (sets_of_routerStops router)) client
      (List.erase_of_not_mem absent).symm
  | tetherUntold valid absent push client =>
    rw [knobWrites_append, knobWrites_append, knobWrites_of_pushes push, List.nil_append]
    exact .restored (Or.inl valid) (interface_of_sets sets_of_mem_written) client
      (List.erase_of_not_mem absent).symm
  | tethers valid absent push =>
    rw [knobWrites_append, knobWrites_of_pushes push, List.append_nil]
    exact .configured valid absent
  | untethers present client push =>
    rw [knobWrites_append, knobWrites_of_pushes push, List.append_nil,
      ← List.nil_append (knobWrites _)]
    exact .restored (Or.inr present) (List.forall_mem_nil _) client rfl
  | startTwice running => exact .untouched
  | startOdd idle odd => exact .untouched
  | launchFails idle paired e => exact .untouched
  | stopIdle idle => exact .untouched
  | stops running r => exact .untouched
  | tetherInvalid invalid => exact .untouched
  | tetherTwice valid present => exact .untouched
  | untetherAbsent absent => exact .untouched
  | serversInvalid rejected => exact .untouched
  | serversKept accepted idle => exact .untouched
  | serversSent accepted running => exact .untouched
  | serversUntold accepted running e => exact .untouched

/-! ## Settled knobs -/

/-- What the attempts so far have made of the knobs, where `interfaces` are tethered. -/
structure KnobsSettled (interfaces : List String) (ws : List KnobWrite) : Prop where
  nodup : interfaces.Nodup
  /-- A tethered interface is in router mode. -/
  tethered : ∀ i ∈ interfaces, ∀ k, lastWrite ws i k = some ⟨i, k, "0", true⟩
  /-- An interface that was touched and is not tethered was put into client mode. -/
  released : ∀ i, (∃ w ∈ ws, w.interface = i) → i ∉ interfaces →
    ∀ k, ∃ ok, lastWrite ws i k = some ⟨i, k, "1", ok⟩
  /-- Only interfaces were touched. -/
  named : ∀ w ∈ ws, isInterfaceName w.interface = true

namespace KnobsSettled

variable {interfaces after : List String} {ws ws' : List KnobWrite} {i j : String}

theorem nil : KnobsSettled [] [] where
  nodup := List.nodup_nil
  tethered i member := by cases member
  released i touched := by simp at touched
  named w member := by cases member

/-- A tethered interface was written to, so its name is one of an interface. -/
theorem isInterfaceName_of_mem (settled : KnobsSettled interfaces ws) (member : i ∈ interfaces) :
    isInterfaceName i = true := by
  have last := List.mem_of_getLast? (settled.tethered i member .acceptRa)
  exact settled.named _ (List.mem_filter.mp last).1

/-! ### Attempts at one interface leave the others as they were -/

theorem tethered_of_other (settled : KnobsSettled interfaces ws)
    (about : ∀ w ∈ ws', w.interface = i) (member : j ∈ interfaces) (other : j ≠ i) (k : Knob) :
    lastWrite (ws ++ ws') j k = some ⟨j, k, "0", true⟩ := by
  rw [lastWrite_append_of_other about other]
  exact settled.tethered j member k

theorem released_of_other (settled : KnobsSettled interfaces ws)
    (about : ∀ w ∈ ws', w.interface = i) (touched : ∃ w ∈ ws ++ ws', w.interface = j)
    (outside : j ∉ interfaces) (other : j ≠ i) (k : Knob) :
    ∃ ok, lastWrite (ws ++ ws') j k = some ⟨j, k, "1", ok⟩ := by
  obtain ⟨w, member, name⟩ := touched
  rw [lastWrite_append_of_other about other]
  rcases List.mem_append.mp member with before | last
  · exact settled.released j ⟨w, before, name⟩ outside k
  · exact (other (name.symm.trans (about w last))).elim

theorem named_append (settled : KnobsSettled interfaces ws) (about : ∀ w ∈ ws', w.interface = i)
    (valid : isInterfaceName i = true) : ∀ w ∈ ws ++ ws', isInterfaceName w.interface = true := by
  intro w member
  rcases List.mem_append.mp member with before | last
  · exact settled.named w before
  · rw [about w last]
    exact valid

/-! ### The three effects -/

theorem configured (settled : KnobsSettled interfaces ws) (valid : isInterfaceName i = true)
    (absent : i ∉ interfaces) :
    KnobsSettled (interfaces ++ [i]) (ws ++ knobWrites (routerWrites i)) where
  nodup := by
    rw [List.nodup_append]
    refine ⟨settled.nodup, by simp, ?_⟩
    intro j member k last
    rw [List.mem_singleton.mp last]
    rintro rfl
    exact absent member
  tethered j member k := by
    by_cases same : j = i
    · rw [same]
      exact lastWrite_routerWrites ws i k
    · rcases List.mem_append.mp member with before | last
      · exact settled.tethered_of_other (interface_of_sets sets_of_mem_written) before same k
      · exact (same (List.mem_singleton.mp last)).elim
  released j touched outside k := by
    rw [List.mem_append, not_or, List.mem_singleton] at outside
    exact settled.released_of_other (interface_of_sets sets_of_mem_written) touched outside.1
      outside.2 k
  named := settled.named_append (interface_of_sets sets_of_mem_written) valid

theorem restored (settled : KnobsSettled interfaces ws) {h : List Exchange}
    (named : isInterfaceName i = true ∨ i ∈ interfaces) (tried : ∀ w ∈ ws', w.interface = i)
    (client : ClientWrites i h) :
    KnobsSettled (interfaces.erase i) (ws ++ (ws' ++ knobWrites h)) := by
  have about : ∀ w ∈ ws' ++ knobWrites h, w.interface = i := by
    intro w member
    rcases List.mem_append.mp member with first | second
    · exact tried w first
    · exact interface_of_sets (sets_of_clientWrites client) w second
  refine ⟨settled.nodup.erase i, ?_, ?_, settled.named_append about ?_⟩
  · intro j member k
    have inside := settled.nodup.mem_erase_iff.mp member
    exact settled.tethered_of_other about inside.2 inside.1 k
  · intro j touched outside k
    by_cases same : j = i
    · rw [same, ← List.append_assoc]
      exact lastWrite_of_clientWrites client (ws ++ ws') k
    · have absent : j ∉ interfaces := fun inside =>
        outside (settled.nodup.mem_erase_iff.mpr ⟨same, inside⟩)
      exact settled.released_of_other about touched absent same k
  · exact named.elim id settled.isInterfaceName_of_mem

/-- Whatever an operation does to the knobs keeps them settled. -/
theorem of_effect (settled : KnobsSettled interfaces ws)
    (effect : KnobEffect interfaces ws' after) : KnobsSettled after (ws ++ ws') := by
  cases effect with
  | untouched =>
    rw [List.append_nil]
    exact settled
  | configured valid absent => exact settled.configured valid absent
  | restored named tried client released =>
    rw [released]
    exact settled.restored named tried client

end KnobsSettled

/-- Knobs are settled after the boot and after every operation. -/
theorem Past.knobsSettled {c : Controller} {b : List Exchange} {performed : List Performed}
    (past : Past c b performed) :
    KnobsSettled c.interfaces (knobWrites (b ++ performed.flatMap Performed.exchanges)) := by
  induction past with
  | boot booted =>
    obtain ⟨⟨f, rfl⟩, switches⟩ := of_follows_boot booted
    rw [List.flatMap_nil, List.append_nil, knobWrites_of_isSwitch switches]
    exact .nil
  | perform past step ih =>
    rw [List.flatMap_append, ← List.append_assoc, knobWrites_append, List.flatMap_singleton]
    exact ih.of_effect (knobEffect_of_transition step)

/-- Whatever operations are carried out and whatever fails: each knob of a tethered interface was
last written with success, in router mode; each knob of an interface that was touched and is not
tethered was last tried in client mode; and no knob was touched under a text that may not name an
interface. -/
theorem knobs_of_lifetime {ω : Type} (answer : (c : Call) → ω → c.Answer × ω) (mode : String)
    (switches : Switches) (places : Places) (w : ω) (ops : List Operation) :
    let l := (Lifetime.begin answer mode switches places w).performAll answer ops
    let writes := knobWrites l.exchanges
    (∀ i ∈ l.controller.interfaces, ∀ k, lastWrite writes i k = some ⟨i, k, "0", true⟩) ∧
      (∀ i, (∃ x ∈ writes, x.interface = i) → i ∉ l.controller.interfaces →
        ∀ k, ∃ ok, lastWrite writes i k = some ⟨i, k, "1", ok⟩) ∧
      ∀ x ∈ writes, isInterfaceName x.interface = true := by
  intro l writes
  have settled : KnobsSettled l.controller.interfaces writes :=
    (Lifetime.past answer mode switches places w ops).knobsSettled
  exact ⟨settled.tethered, settled.released, settled.named⟩

end Controller

end NetControl.Tether
