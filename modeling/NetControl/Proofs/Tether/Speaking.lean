import NetControl.Proofs.Log.Columns
import NetControl.Proofs.Tether.Exchange
import NetControl.Proofs.Tether.Framing
import NetControl.Tether.Controller

/-!
# What the operations of a controller say

An operation notes events while it is carried out, and may end with a failure that its caller notes.
`Plan.Speaks` is a postcondition that carries along what has to hold for all events so far to be
unbroken, so that each operation needs one lemma, whatever its answers are. `Controller.unquoted` are
the texts that an operation says as they are, and `Controller.speaks_plan` says that its events and
failures are unbroken just if these are.
-/

namespace NetControl.Tether

open Log Text

/-- The failure, if it is one, has a message without newlines and tabs. -/
def Mild {ε α : Type} (message : ε → String) (r : Except ε α) : Prop :=
  ∀ e, r = .error e → IsUnbroken (message e)

section Mild

variable {ε α : Type} {message : ε → String}

theorem mild_ok {a : α} : Mild message (.ok a) :=
  nofun

theorem mild_error {e : ε} : Mild message (.error e : Except ε α) ↔ IsUnbroken (message e) := by
  refine ⟨fun mild => mild e rfl, fun unbroken => ?_⟩
  rintro _ ⟨⟩
  exact unbroken

theorem mild_mapError {δ : Type} {failure : δ → ε} {r : Except δ α} :
    Mild message (r.mapError failure) ↔ Mild (message ∘ failure) r := by
  cases r with
  | ok _ => exact iff_of_true mild_ok mild_ok
  | error e =>
    change Mild message (.error (failure e)) ↔ _
    rw [mild_error, mild_error]
    exact Iff.rfl

end Mild

/-- The answer tells of no failure in words with a newline or a tab. -/
def Call.Fair (c : Call) (r : c.Answer) : Prop :=
  Mild OsError.message r

namespace Plan

variable {σ τ ω α β : Type}

/-- If `K` says that all events so far are unbroken, then the plan ends, whatever fair answers it
gets, with a result and a state of which `Q` holds, together with what says that all its events are
unbroken as well. -/
def Speaks (Q : Prop → α → σ → Prop) : Plan σ α → Prop → σ → Prop
  | done a, K, s => Q K a s
  | read next, K, s => Speaks Q (next s) K s
  | write s next, K, _ => Speaks Q next K s
  | ask c next, K, s => ∀ r, c.Fair r → Speaks Q (next r) K s
  | note e next, K, s => Speaks Q next (K ∧ e.IsUnbroken) s

/-- What a plan says in a fair world is what it says. -/
theorem of_speaks {answer : (c : Call) → ω → c.Answer × ω}
    (fair : ∀ (c : Call) (w : ω), c.Fair (answer c w).1) {Q : Prop → α → σ → Prop} {p : Plan σ α}
    {K : Prop} {s : σ} (speaks : p.Speaks Q K s) (w : ω) :
    Q (K ∧ ∀ e ∈ (p.run answer s w).events, e.IsUnbroken) (p.run answer s w).value
      (p.run answer s w).state := by
  induction p generalizing K s w with
  | done a =>
    have same : (K ∧ ∀ e ∈ ([] : List Event), e.IsUnbroken) = K := by simp
    change Q (K ∧ ∀ e ∈ ([] : List Event), e.IsUnbroken) a s
    rw [same]
    exact speaks
  | read next ih => exact ih s speaks w
  | write t next ih => exact ih speaks w
  | ask c next ih => exact ih _ (speaks _ (fair c w)) _
  | note e next ih =>
    have later := ih speaks w
    rw [and_assoc] at later
    rw [← List.forall_mem_cons] at later
    exact later

/-! ## Taking a plan apart -/

variable {Q : Prop → β → σ → Prop} {K : Prop} {s s' : σ} {e : Event}

theorem speaks_bind {p : Plan σ α} {f : α → Plan σ β} :
    (p >>= f).Speaks Q K s ↔ p.Speaks (fun K a t => (f a).Speaks Q K t) K s := by
  change (p.bind f).Speaks Q K s ↔ _
  induction p generalizing K s with
  | done a => exact Iff.rfl
  | read next ih => exact ih s
  | write t next ih => exact ih
  | ask c next ih => exact forall_congr' fun r => imp_congr_right fun _ => ih r
  | note e next ih => exact ih

theorem speaks_get_bind {f : σ → Plan σ β} :
    (Plan.get >>= f).Speaks Q K s ↔ (f s).Speaks Q K s := Iff.rfl

theorem speaks_put_bind {f : Unit → Plan σ β} :
    (Plan.put s' >>= f).Speaks Q K s ↔ (f ()).Speaks Q K s' := Iff.rfl

theorem speaks_request_bind {c : Call} {f : c.Answer → Plan σ β} :
    (Plan.request c >>= f).Speaks Q K s ↔ ∀ r, c.Fair r → (f r).Speaks Q K s := Iff.rfl

theorem speaks_log_bind {f : Unit → Plan σ β} :
    (Plan.log e >>= f).Speaks Q K s ↔ (f ()).Speaks Q (K ∧ e.IsUnbroken) s := Iff.rfl

/-- An event that is unbroken if those before it are makes no difference. -/
theorem speaks_log_bind_of (unbroken : K → e.IsUnbroken) {f : Unit → Plan σ β} :
    (Plan.log e >>= f).Speaks Q K s ↔ (f ()).Speaks Q K s := by
  have same : (K ∧ e.IsUnbroken) = K := propext (and_iff_left_of_imp unbroken)
  rw [speaks_log_bind, same]

theorem speaks_logAll {events : List Event} {Q : Prop → Unit → σ → Prop} :
    (Plan.logAll events).Speaks Q K s ↔ Q (K ∧ ∀ e ∈ events, e.IsUnbroken) () s := by
  induction events generalizing K with
  | nil =>
    have same : (K ∧ ∀ e ∈ ([] : List Event), e.IsUnbroken) = K := by simp
    rw [same]
    exact Iff.rfl
  | cons e rest ih =>
    rw [List.forall_mem_cons, ← and_assoc]
    exact ih

theorem speaks_logAll_of {events : List Event} (unbroken : K → ∀ e ∈ events, e.IsUnbroken)
    {Q : Prop → Unit → σ → Prop} : (Plan.logAll events).Speaks Q K s ↔ Q K () s := by
  have same : (K ∧ ∀ e ∈ events, e.IsUnbroken) = K := propext (and_iff_left_of_imp unbroken)
  rw [speaks_logAll, same]

/-- An operation on a part of the state says what it says by itself. -/
theorem speaks_zoom {get : τ → σ} {put : σ → τ → τ} (get_put : ∀ s t, get (put s t) = s)
    (put_get : ∀ t, put (get t) t = t) (put_put : ∀ s s' t, put s (put s' t) = put s t)
    {p : Plan σ α} {Q : Prop → α → τ → Prop} {t : τ} :
    (p.zoom get put).Speaks Q K t ↔ p.Speaks (fun K a s => Q K a (put s t)) K (get t) := by
  induction p generalizing K t with
  | done a =>
    change Q K a t ↔ Q K a (put (get t) t)
    rw [put_get]
  | read next ih => exact ih (get t)
  | write s next ih =>
    change (zoom get put next).Speaks Q K (put s t) ↔ _
    rw [ih, get_put]
    simp only [put_put]
    exact Iff.rfl
  | ask c next ih => exact forall_congr' fun r => imp_congr_right fun _ => ih r
  | note e next ih => exact ih

end Plan

/-! ## Forwarding -/

/-- The paths of both switches are unbroken. -/
def Switches.IsUnbroken (s : Switches) : Prop :=
  ∀ family, Text.IsUnbroken (s.path family)

theorem isUnbroken_flag (on : Bool) : Text.IsUnbroken (Setting.flag on) := by
  cases on <;> decide

namespace Forwarding

open Plan

variable {f : Forwarding} {K : Prop} {Q : Prop → Except SwitchError Unit → Forwarding → Prop}

theorem isUnbroken_switchError (switches : f.switches.IsUnbroken) (family : Family) (on : Bool)
    {cause : OsError} (fair : Text.IsUnbroken cause.message) :
    Text.IsUnbroken (SwitchError.message ⟨f.switches.path family, on, cause⟩) := by
  unfold SwitchError.message SwitchError.value
  simp only [isUnbroken_append]
  exact ⟨⟨⟨⟨⟨by decide, isUnbroken_flag on⟩, by decide⟩, switches family⟩, by decide⟩, fair⟩

theorem speaks_writeSwitch (switches : f.switches.IsUnbroken) {family : Family} {on : Bool}
    (ends : ∀ r, Mild SwitchError.message r → Q K r f) :
    (writeSwitch family on).Speaks Q K f := by
  unfold writeSwitch
  refine speaks_get_bind.mpr (speaks_request_bind.mpr fun answer fair => ?_)
  cases answer with
  | ok _ => exact ends _ mild_ok
  | error cause =>
    have message := isUnbroken_switchError switches family on (fair cause rfl)
    refine (speaks_log_bind_of fun _ => ?_).mpr (ends _ ?_)
    · exact isUnbroken_message (by decide) message
    · rintro e ⟨⟩
      exact message

theorem speaks_apply (switches : f.switches.IsUnbroken)
    (ends : ∀ r, Mild SwitchError.message r → Q K r f) :
    apply.Speaks Q K f := by
  unfold apply
  refine speaks_get_bind.mpr ((speaks_log_bind_of fun _ => ?_).mpr ?_)
  · exact isUnbroken_message (by decide)
      (isUnbroken_append.mpr ⟨by decide, isUnbroken_flag f.isEnabled⟩)
  refine speaks_bind.mpr (speaks_writeSwitch switches fun first fair => ?_)
  refine speaks_bind.mpr (speaks_writeSwitch switches fun second fair' => ends _ ?_)
  cases first with
  | ok _ => exact fair'
  | error e => exact fair

theorem speaks_enable (switches : f.switches.IsUnbroken) {who : String}
    (ends : ∀ r f', Mild SwitchError.message r → Q K r f') :
    (enable who).Speaks Q K f := by
  unfold enable
  refine speaks_get_bind.mpr (speaks_put_bind.mpr ?_)
  split
  · exact ends _ _ mild_ok
  · exact speaks_apply switches fun r => ends r _

theorem speaks_disable (switches : f.switches.IsUnbroken) {who : String}
    (ends : ∀ r f', Mild SwitchError.message r → Q K r f') :
    (disable who).Speaks Q K f := by
  unfold disable
  refine speaks_get_bind.mpr (speaks_put_bind.mpr ?_)
  split
  · exact speaks_apply switches fun r => ends r _
  · exact ends _ _ mild_ok

end Forwarding

/-! ## Frames -/

namespace Frame

variable {acceptable : String → Bool} {f : Frame} {fields : List String}

/-- A frame is unbroken if its beginning and all that was added are. -/
theorem isUnbroken_fill (head : Text.IsUnbroken f.text)
    (added : ∀ field ∈ (fill acceptable f fields).added, Text.IsUnbroken field) :
    Text.IsUnbroken (fill acceptable f fields).frame.text := by
  induction fields generalizing f with
  | nil => exact head
  | cons field rest ih =>
    cases accepted : acceptable field with
    | false =>
      rw [fill_of_rejected accepted]
      exact head
    | true =>
      cases pushed : f.push? field with
      | none =>
        rw [fill_of_full accepted pushed]
        exact head
      | some longer =>
        rw [fill_of_pushed accepted pushed] at added ⊢
        obtain ⟨first, others⟩ := List.forall_mem_cons.mp added
        refine ih ?_ others
        obtain rfl := eq_of_push? pushed
        exact isUnbroken_append.mpr ⟨isUnbroken_append.mpr ⟨head, by decide⟩, first⟩

/-- How many fields were looked at: those that were added, and the one behind them. -/
def seen (filled : Filling) : Nat :=
  if filled.ending = .complete then filled.added.length else filled.added.length + 1

theorem mem_take_of_mem_added {field : String}
    (member : field ∈ (fill acceptable f fields).added) :
    field ∈ fields.take (seen (fill acceptable f fields)) := by
  rw [List.prefix_iff_eq_take.mp added_fill_prefix] at member
  refine List.take_subset_take_left _ ?_ member
  unfold seen
  split <;> omega

theorem mem_take_of_rejected {field : String}
    (rejected : (fill acceptable f fields).ending = .rejected field) :
    field ∈ fields.take (seen (fill acceptable f fields)) := by
  induction fields generalizing f with
  | nil => cases rejected
  | cons first rest ih =>
    cases accepted : acceptable first with
    | false =>
      rw [fill_of_rejected accepted] at rejected ⊢
      cases rejected
      exact List.mem_cons_self
    | true =>
      cases pushed : f.push? first with
      | none =>
        rw [fill_of_full accepted pushed] at rejected
        cases rejected
      | some longer =>
        rw [fill_of_pushed accepted pushed] at rejected ⊢
        have counted : seen { fill acceptable longer rest with
            added := first :: (fill acceptable longer rest).added } =
              seen (fill acceptable longer rest) + 1 := by
          unfold seen
          split <;> rfl
        rw [counted, List.take_succ_cons]
        exact List.mem_cons_of_mem _ (ih rejected)

end Frame

namespace Controller

open Plan

/-- The texts that a controller has of its own are unbroken. -/
structure IsUnbroken (c : Controller) : Prop where
  switches : c.forwarding.switches.IsUnbroken
  knobs : Text.IsUnbroken c.places.knobs
  daemon : Text.IsUnbroken c.places.daemon
  interfaces : ∀ i ∈ c.interfaces, Text.IsUnbroken i

variable {c : Controller} {K : Prop} {i : String}

section Settings

variable {Q : Prop → Except OsError Unit → Controller → Prop}

theorem isUnbroken_joinPath {directory name : String} (outer : Text.IsUnbroken directory)
    (inner : Text.IsUnbroken name) : Text.IsUnbroken (joinPath directory name) := by
  unfold joinPath
  split
  · exact inner
  split
  · exact isUnbroken_append.mpr ⟨outer, inner⟩
  · exact isUnbroken_append.mpr ⟨isUnbroken_append.mpr ⟨outer, by decide⟩, inner⟩

theorem isUnbroken_knobPath {root : String} (outer : Text.IsUnbroken root)
    (inner : Text.IsUnbroken i) (k : Knob) : Text.IsUnbroken (knobPath root i k) := by
  have file : Text.IsUnbroken k.fileName := by cases k <;> decide
  exact isUnbroken_joinPath (isUnbroken_joinPath outer inner) file

theorem speaks_set (tidy : c.IsUnbroken) (name : Text.IsUnbroken i) {s : Setting}
    (value : Text.IsUnbroken s.text)
    (ends : ∀ r, Mild OsError.message r → Q K r c) :
    (set i s).Speaks Q K c := by
  have path := isUnbroken_knobPath tidy.knobs name s.knob
  unfold set
  refine speaks_get_bind.mpr ((speaks_log_bind_of fun _ => ?_).mpr fun r fair => ends r fair)
  refine ⟨(by decide : Text.IsUnbroken "netd::tether::interface"), ?_, List.forall_mem_nil _⟩
  simp only [isUnbroken_append]
  exact ⟨⟨⟨by decide, value⟩, by decide⟩, path⟩

theorem speaks_setAll (tidy : c.IsUnbroken) (name : Text.IsUnbroken i) {settings : List Setting}
    (values : ∀ s ∈ settings, Text.IsUnbroken s.text)
    (ends : ∀ r, Mild OsError.message r → Q K r c) :
    (setAll i settings).Speaks Q K c := by
  induction settings with
  | nil => exact ends _ mild_ok
  | cons s rest ih =>
    obtain ⟨value, others⟩ := List.forall_mem_cons.mp values
    refine speaks_bind.mpr (speaks_set tidy name value fun r fair => ?_)
    cases r with
    | error e => exact ends _ fair
    | ok _ => exact ih others

theorem speaks_configureRouter (tidy : c.IsUnbroken) (name : Text.IsUnbroken i)
    (ends : ∀ r, Mild OsError.message r → Q K r c) :
    (configureRouter i).Speaks Q K c :=
  speaks_setAll tidy name (by decide) ends

theorem speaks_setEach (tidy : c.IsUnbroken) (name : Text.IsUnbroken i)
    {steps : List (String × Setting)} (values : ∀ step ∈ steps, Text.IsUnbroken step.2.text)
    {Q : Prop → List (String × OsError) → Controller → Prop}
    (ends : ∀ failed : List (String × OsError),
      (∀ failure ∈ failed, Text.IsUnbroken failure.2.message) → Q K failed c) :
    (setEach i steps).Speaks Q K c := by
  induction steps generalizing Q with
  | nil => exact ends [] (List.forall_mem_nil _)
  | cons step rest ih =>
    obtain ⟨value, others⟩ := List.forall_mem_cons.mp values
    refine speaks_bind.mpr (speaks_set tidy name value fun r fair => ?_)
    refine speaks_bind.mpr (ih others fun failed messages => ?_)
    cases r with
    | error e => exact ends _ (List.forall_mem_cons.mpr ⟨fair e rfl, messages⟩)
    | ok _ => exact ends _ messages

theorem speaks_configureClient (tidy : c.IsUnbroken) (name : Text.IsUnbroken i)
    {Q : Prop → Unit → Controller → Prop} (ends : Q K () c) :
    (configureClient i).Speaks Q K c := by
  unfold configureClient
  refine speaks_bind.mpr (speaks_setEach tidy name (by decide) fun failed messages => ?_)
  refine (speaks_logAll_of fun _ => List.forall_mem_map.mpr fun failure member => ?_).mpr ends
  have names : Text.IsUnbroken "iface" ∧ Text.IsUnbroken "step" := by decide
  refine isUnbroken_of.mpr ⟨by decide, ?_, by simp [names]⟩
  exact isUnbroken_append.mpr ⟨by decide, messages failure member⟩

end Settings

/-! ### The daemon -/

section Daemon

variable {Q : Prop → Except OsError Unit → Controller → Prop}

theorem speaks_send {frame : Frame} (framed : K → Text.IsUnbroken frame.text)
    (ends : ∀ r, Mild OsError.message r → Q K r c) :
    (send frame).Speaks Q K c := by
  unfold send
  refine speaks_get_bind.mpr ?_
  split
  · exact ends _ mild_ok
  refine (speaks_log_bind_of fun known => ?_).mpr (speaks_request_bind.mpr fun r fair => ?_)
  · refine isUnbroken_message (by decide) ?_
    simp only [isUnbroken_append]
    exact ⟨⟨by decide, framed known⟩, by decide⟩
  cases r with
  | ok _ => exact ends _ mild_ok
  | error e =>
    have message := fair e rfl
    refine (speaks_log_bind_of fun _ => ?_).mpr (ends _ fair)
    exact isUnbroken_message (by decide) (isUnbroken_append.mpr ⟨by decide, message⟩)

theorem isUnbroken_of_mem_interfaceNotes {interfaces : List String} :
    ∀ e ∈ interfaceNotes interfaces, e.IsUnbroken := by
  unfold interfaceNotes
  split
  · refine List.forall_mem_singleton.mpr ⟨?_, ?_, List.forall_mem_nil _⟩
    · exact (by decide : Text.IsUnbroken "netd::tether::protocol")
    · exact (by decide : Text.IsUnbroken "too many DNS ifaces listed")
  · exact List.forall_mem_nil _

theorem speaks_pushInterfaces (tidy : c.IsUnbroken)
    (ends : ∀ r, Mild OsError.message r → Q K r c) :
    pushInterfaces.Speaks Q K c := by
  unfold pushInterfaces
  refine speaks_get_bind.mpr (speaks_bind.mpr ?_)
  refine (speaks_logAll_of fun _ => isUnbroken_of_mem_interfaceNotes).mpr ?_
  cases framed : updateInterfaces c.interfaces with
  | none => exact ends _ mild_ok
  | some frame =>
    refine speaks_send (fun _ => ?_) ends
    unfold updateInterfaces at framed
    dsimp only at framed
    split at framed
    · cases framed
    · cases framed
      refine Frame.isUnbroken_fill (by decide) fun i member => ?_
      exact tidy.interfaces i (Frame.added_fill_prefix.mem member)

end Daemon

/-! ### Operations -/

section Operations

variable {Q : Prop → Except Error Unit → Controller → Prop}

theorem speaks_onForwarding {α : Type} {p : Plan Forwarding α}
    {Q : Prop → α → Controller → Prop} :
    (onForwarding p).Speaks Q K c ↔
      p.Speaks (fun K a f => Q K a { c with forwarding := f }) K c.forwarding := by
  unfold onForwarding
  rw [speaks_zoom]
  · exact fun _ _ => rfl
  · exact fun _ => rfl
  · exact fun _ _ _ => rfl

theorem speaks_enableForwarding (tidy : c.IsUnbroken) {who : String}
    (ends : ∀ r c', Mild Error.message r → Q K r c') : (enableForwarding who).Speaks Q K c :=
  speaks_bind.mpr <| speaks_onForwarding.mpr <|
    Forwarding.speaks_enable tidy.switches fun _ _ fair => ends _ _ (mild_mapError.mpr fair)

theorem speaks_disableForwarding (tidy : c.IsUnbroken) {who : String}
    (ends : ∀ r c', Mild Error.message r → Q K r c') : (disableForwarding who).Speaks Q K c :=
  speaks_bind.mpr <| speaks_onForwarding.mpr <|
    Forwarding.speaks_disable tidy.switches fun _ _ fair => ends _ _ (mild_mapError.mpr fair)

/-- Telling of the start of a daemon quotes its arguments. -/
theorem isUnbroken_spawning {binary : String} (plain : Text.IsUnbroken binary)
    (arguments : List String) :
    (Log.of .debug "netd::tether::daemon" "tether" "spawning daemon"
      [("binary", .shown binary), ("args", .shown (quotedList arguments))]).IsUnbroken := by
  have names : Text.IsUnbroken "binary" ∧ Text.IsUnbroken "args" := by decide
  exact isUnbroken_of.mpr ⟨by decide, by decide, by simp [names, plain]⟩

theorem isUnbroken_pid {message : String} (plain : Text.IsUnbroken message) {level : Level}
    (pid : Nat) : (Log.of level target "tether" message [("pid", .number pid)]).IsUnbroken := by
  have name : Text.IsUnbroken "pid" := by decide
  exact isUnbroken_of.mpr ⟨by decide, plain, by simp [name]⟩

theorem isUnbroken_iface {message : String} (plain : Text.IsUnbroken message) {level : Level}
    (i : String) : (Log.of level target "tether" message [("iface", .text i)]).IsUnbroken := by
  have name : Text.IsUnbroken "iface" := by decide
  exact isUnbroken_of.mpr ⟨by decide, plain, by simp [name]⟩

theorem speaks_start (tidy : c.IsUnbroken) {ranges : List String}
    (ends : ∀ r c', Mild Error.message r → Q K r c') : (start ranges).Speaks Q K c := by
  unfold start
  refine speaks_get_bind.mpr ?_
  cases daemon : c.daemon with
  | some pid =>
    rw [Option.isSome_some, if_pos rfl]
    refine (speaks_log_bind_of fun _ => ?_).mpr (ends _ _ (mild_error.mpr ?_))
    · exact isUnbroken_message (by decide) (by decide)
    · exact (by decide : Text.IsUnbroken "tethering already started")
  | none =>
    rw [Option.isSome_none, if_neg Bool.false_ne_true]
    by_cases odd : ranges.length % 2 ≠ 0
    · rw [if_pos odd]
      refine ends _ _ (mild_error.mpr ?_)
      unfold Error.message
      simp only [isUnbroken_append]
      exact ⟨⟨by decide, isUnbroken_decimal _⟩, by decide⟩
    rw [if_neg odd]
    refine (speaks_log_bind_of fun _ => isUnbroken_message (by decide) (by decide)).mpr ?_
    refine (speaks_log_bind_of fun _ => isUnbroken_spawning tidy.daemon _).mpr ?_
    refine speaks_request_bind.mpr fun answer fair => ?_
    cases answer with
    | error e =>
      have message := fair e rfl
      refine (speaks_log_bind_of fun _ => ?_).mpr (ends _ _ (mild_error.mpr ?_))
      · exact isUnbroken_message (by decide) (isUnbroken_append.mpr ⟨by decide, message⟩)
      · exact isUnbroken_append.mpr ⟨by decide, message⟩
    | ok pid =>
      have running : IsUnbroken { c with daemon := some pid } :=
        ⟨tidy.switches, tidy.knobs, tidy.daemon, tidy.interfaces⟩
      have told (number : Nat) : (Log.of .info target "tether" "tethering services running"
          [("pid", .number number)]).IsUnbroken := isUnbroken_pid (by decide) number
      refine speaks_put_bind.mpr (speaks_bind.mpr (speaks_pushInterfaces running fun r fair => ?_))
      cases r with
      | ok _ => exact (speaks_log_bind_of fun _ => told pid).mpr (ends _ _ mild_ok)
      | error e =>
        refine (speaks_log_bind_of fun _ => ?_).mpr ?_
        · exact isUnbroken_message (by decide) (isUnbroken_append.mpr ⟨by decide, fair e rfl⟩)
        · exact (speaks_log_bind_of fun _ => told pid).mpr (ends _ _ mild_ok)

theorem speaks_stop (ends : ∀ r c', Mild Error.message r → Q K r c') : stop.Speaks Q K c := by
  unfold stop
  refine speaks_get_bind.mpr ?_
  split
  · refine (speaks_log_bind_of fun _ => ?_).mpr (ends _ _ mild_ok)
    exact isUnbroken_message (by decide) (by decide)
  · next pid running =>
    refine speaks_put_bind.mpr ?_
    refine (speaks_log_bind_of fun _ => isUnbroken_pid (by decide) pid).mpr ?_
    refine speaks_request_bind.mpr fun answer fair => ?_
    cases answer with
    | error e =>
      exact ends _ _ (mild_error.mpr (isUnbroken_append.mpr ⟨by decide, fair e rfl⟩))
    | ok _ =>
      refine (speaks_log_bind_of fun _ => ?_).mpr (ends _ _ mild_ok)
      exact isUnbroken_message (by decide) (by decide)

theorem isUnbroken_of_isInterfaceName (valid : isInterfaceName i = true) : Text.IsUnbroken i :=
  ⟨not_mem_of_isInterfaceName valid (by decide), not_mem_of_isInterfaceName valid (by decide)⟩

theorem speaks_tether (tidy : c.IsUnbroken) (ends : ∀ r c', Mild Error.message r → Q K r c') :
    (tether i).Speaks Q K c := by
  unfold tether
  refine (speaks_log_bind_of fun _ => isUnbroken_iface (by decide) i).mpr ?_
  refine speaks_get_bind.mpr ?_
  cases valid : isInterfaceName i with
  | false =>
    rw [Bool.not_false, if_pos rfl]
    exact ends _ _ (mild_error.mpr (isUnbroken_append.mpr ⟨by decide, isUnbroken_quoted i⟩))
  | true =>
    rw [Bool.not_true, if_neg Bool.false_ne_true]
    have name : Text.IsUnbroken i := isUnbroken_of_isInterfaceName valid
    by_cases present : i ∈ c.interfaces
    · rw [if_pos present]
      refine ends _ _ (mild_error.mpr ?_)
      unfold Error.message
      simp only [isUnbroken_append]
      exact ⟨⟨by decide, name⟩, by decide⟩
    rw [if_neg present]
    refine speaks_bind.mpr (speaks_configureRouter tidy name fun r fair => ?_)
    cases r with
    | error e =>
      refine speaks_bind.mpr (speaks_configureClient tidy name (ends _ _ (mild_error.mpr ?_)))
      unfold Error.message
      simp only [isUnbroken_append]
      exact ⟨⟨⟨by decide, name⟩, by decide⟩, fair e rfl⟩
    | ok _ =>
      have longer : IsUnbroken { c with interfaces := c.interfaces ++ [i] } := by
        refine ⟨tidy.switches, tidy.knobs, tidy.daemon, ?_⟩
        exact List.forall_mem_append.mpr ⟨tidy.interfaces, List.forall_mem_singleton.mpr name⟩
      refine speaks_put_bind.mpr (speaks_bind.mpr (speaks_pushInterfaces longer fun r fair => ?_))
      cases r with
      | ok _ => exact ends _ _ mild_ok
      | error e =>
        refine speaks_put_bind.mpr (speaks_bind.mpr ?_)
        refine speaks_configureClient tidy name (ends _ _ (mild_error.mpr ?_))
        exact isUnbroken_append.mpr ⟨by decide, fair e rfl⟩

end Operations

/-! ### Texts that are said as they are -/

/-- The texts of an operation's arguments that are said as they are: the text that is to be released
and is no tethered interface, and the name servers that are looked at. -/
def unquoted (c : Controller) : Operation → List String
  | .untether i => if i ∈ c.interfaces then [] else [i]
  | .setServers netId servers =>
    servers.take (Frame.seen (fillServers (Mark.forDns netId) servers))
  | _ => []

theorem isUnbroken_hex (mark : Mark) : Text.IsUnbroken mark.hex :=
  isUnbroken_ofList fun _ member => ne_of_mem_toDigits (by decide) (by decide) member

theorem isUnbroken_serverMessage {server : String} (unbroken : Text.IsUnbroken server) :
    Text.IsUnbroken (Error.serverMessage server) :=
  isUnbroken_append.mpr ⟨isUnbroken_append.mpr ⟨by decide, unbroken⟩, by decide⟩

theorem ending_of_updateServers {mark : Mark} {servers : List String} {server : String}
    (rejected : updateServers mark servers = .error server) :
    (fillServers mark servers).ending = .rejected server := by
  unfold updateServers at rejected
  dsimp only at rejected
  split at rejected
  · next ending =>
    cases rejected
    exact ending
  · cases rejected

theorem frame_of_updateServers {mark : Mark} {servers : List String} {update : ServerUpdate}
    (accepted : updateServers mark servers = .ok update) :
    update.frame = (fillServers mark servers).frame := by
  unfold updateServers at accepted
  dsimp only at accepted
  split at accepted <;> cases accepted
  rfl

/-- What is noted about a name server holds the server as it is. -/
theorem isUnbroken_serverNotes {mark : Mark} {servers : List String} :
    (∀ e ∈ serverNotes mark servers, e.IsUnbroken) ↔
      ∀ server ∈ servers.take (Frame.seen (fillServers mark servers)), Text.IsUnbroken server := by
  have note {message : String} : (⟨.debug, "netd::tether::protocol", message, [], none⟩ :
      Log.Event).IsUnbroken ↔ Text.IsUnbroken message := by
    have plain : Text.IsUnbroken "netd::tether::protocol" := by decide
    rw [Event.isUnbroken_iff]
    exact (and_iff_right plain).trans (and_iff_left (List.forall_mem_nil _))
  have words : Text.IsUnbroken "set dns forwarder (0x" ∧ Text.IsUnbroken " " ∧
      Text.IsUnbroken " = '" ∧ Text.IsUnbroken "')" := by decide
  have last (full : Prop) [Decidable full] :
      ∀ e ∈ (if full then [⟨.debug, "netd::tether::protocol", "too many DNS servers listed", [],
        none⟩] else [] : List Log.Event), e.IsUnbroken := by
    split
    · exact List.forall_mem_singleton.mpr (note.mpr (by decide))
    · exact List.forall_mem_nil _
  have looked (l : List String) : (∀ entry ∈ l.zipIdx, Text.IsUnbroken entry.1) ↔
      ∀ server ∈ l, Text.IsUnbroken server := by
    rw [← List.forall_mem_map (f := Prod.fst) (P := Text.IsUnbroken), List.zipIdx_map_fst]
  unfold serverNotes
  rw [List.forall_mem_append, List.forall_mem_map, ← looked]
  refine (and_iff_left (last _)).trans (forall₂_congr fun entry _ => ?_)
  simp only [note, isUnbroken_append, isUnbroken_decimal, isUnbroken_hex, words, and_true, true_and]

/-- An operation of a controller, whatever fails: all that it says is unbroken, the message of its
failure included, just if the texts are that it says as they are. -/
theorem speaks_plan (tidy : c.IsUnbroken) {Q : Prop → Except Error Unit → Controller → Prop}
    (op : Operation)
    (ends : ∀ K' r c',
      (K' ∧ Mild Error.message r ↔ K ∧ ∀ text ∈ c.unquoted op, Text.IsUnbroken text) → Q K' r c') :
    op.plan.Speaks Q K c := by
  -- Most operations say nothing as it is.
  have quiet (nothing : c.unquoted op = []) : ∀ r c', Mild Error.message r → Q K r c' := by
    intro r c' mild
    refine ends K r c' ?_
    rw [nothing]
    exact and_congr_right fun _ => iff_of_true mild (List.forall_mem_nil _)
  cases op with
  | enable who => exact speaks_enableForwarding tidy (quiet rfl)
  | disable who => exact speaks_disableForwarding tidy (quiet rfl)
  | start ranges => exact speaks_start tidy (quiet rfl)
  | stop => exact speaks_stop (quiet rfl)
  | tether i => exact speaks_tether tidy (quiet rfl)
  | untether i =>
    change (Controller.untether i).Speaks Q K c
    unfold Controller.untether
    refine (speaks_log_bind_of fun _ => isUnbroken_iface (by decide) i).mpr ?_
    refine speaks_get_bind.mpr ?_
    by_cases present : i ∈ c.interfaces
    · rw [if_neg (not_not_intro present)]
      have left : IsUnbroken { c with interfaces := c.interfaces.erase i } :=
        ⟨tidy.switches, tidy.knobs, tidy.daemon,
          fun j member => tidy.interfaces j (List.mem_of_mem_erase member)⟩
      refine speaks_put_bind.mpr (speaks_bind.mpr ?_)
      refine speaks_configureClient left (tidy.interfaces i present) (speaks_bind.mpr ?_)
      refine speaks_pushInterfaces left fun r fair => quiet (if_pos present) _ _ ?_
      exact mild_mapError.mpr fun e failed => isUnbroken_append.mpr ⟨by decide, fair e failed⟩
    · rw [if_pos present]
      refine ends _ _ _ (and_congr_right fun _ => ?_)
      have words : Text.IsUnbroken "interface " ∧ Text.IsUnbroken " is not tethered" := by decide
      rw [mild_error, unquoted, if_neg present, List.forall_mem_singleton]
      unfold Error.message
      simp only [isUnbroken_append, words, true_and, and_true]
  | setServers netId servers =>
    change (Controller.setServers netId servers).Speaks Q K c
    unfold Controller.setServers
    refine speaks_get_bind.mpr (speaks_put_bind.mpr (speaks_bind.mpr (speaks_logAll.mpr ?_)))
    rw [isUnbroken_serverNotes]
    -- Whatever is said of the servers from here on, the notes have said.
    have repeats {r : Except Error Unit} {c' : Controller}
        (mild : (∀ server ∈ c.unquoted (.setServers netId servers), Text.IsUnbroken server) →
          Mild Error.message r) : Q (K ∧ ∀ server ∈ c.unquoted (.setServers netId servers),
            Text.IsUnbroken server) r c' :=
      ends _ _ _ (and_iff_left_of_imp fun known => mild known.2)
    cases outcome : updateServers (Mark.forDns netId) servers with
    | error server =>
      have seen : server ∈ c.unquoted (.setServers netId servers) :=
        Frame.mem_take_of_rejected (ending_of_updateServers outcome)
      refine (speaks_log_bind_of fun known => ?_).mpr (repeats fun known => mild_error.mpr ?_)
      · exact isUnbroken_message (by decide) (isUnbroken_serverMessage (known.2 server seen))
      · exact isUnbroken_append.mpr
          ⟨by decide, isUnbroken_serverMessage (known server seen)⟩
    | ok update =>
      refine speaks_put_bind.mpr (speaks_bind.mpr (speaks_send ?_ fun r fair => ?_))
      · rintro ⟨-, known⟩
        rw [frame_of_updateServers outcome]
        refine Frame.isUnbroken_fill (isUnbroken_append.mpr ⟨by decide, isUnbroken_hex _⟩) ?_
        exact fun server member => known server (Frame.mem_take_of_mem_added member)
      · cases r with
        | ok _ => exact repeats fun _ => mild_ok
        | error e =>
          refine speaks_put_bind.mpr (repeats fun _ => mild_error.mpr ?_)
          exact isUnbroken_append.mpr ⟨by decide, fair e rfl⟩

end Controller

end NetControl.Tether
