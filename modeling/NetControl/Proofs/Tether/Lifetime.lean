import NetControl.Proofs.Tether.Switching
import NetControl.Proofs.Tether.Transition

/-!
# Lifetimes of a controller

A lifetime begins with the boot of a controller and goes on with operations, in any order and for as
long as one likes, in a world that answers each request as it likes. `Controller.Lifetime` keeps
what was asked and answered, operation by operation.

`Controller.Past` is the same without the world, as an induction: a controller, its boot, and its
operations so far. `Lifetime.past` shows that every lifetime has such a past, so that a statement
about all lifetimes is proved for the boot and for one more operation.
-/

namespace NetControl.Tether.Controller

open Plan

/-- An operation that was carried out, with what it asked and was answered, and its result. -/
structure Performed where
  operation : Operation
  exchanges : List Exchange
  result : Except Error Unit

/-- A controller that has no requester, interface, name server or daemon. -/
def fresh (switches : Switches) (places : Places) : Controller :=
  { forwarding := { switches }, places }

/-- A controller in its world, and what it has done so far. -/
structure Lifetime (ω : Type) where
  controller : Controller
  world : ω
  /-- What the boot asked and was answered. -/
  booting : List Exchange
  /-- The operations, in order. -/
  performed : List Performed := []

namespace Lifetime

variable {ω : Type} (answer : (c : Call) → ω → c.Answer × ω)

/-- The boot of a controller. -/
def begin (mode : String) (switches : Switches) (places : Places) (w : ω) : Lifetime ω :=
  let o := (boot mode).run answer (fresh switches places) w
  { controller := o.state
    world := o.world
    booting := (boot mode).exchanges answer (fresh switches places) w }

/-- One more operation. -/
def perform (l : Lifetime ω) (op : Operation) : Lifetime ω :=
  let o := op.plan.run answer l.controller l.world
  { l with
    controller := o.state
    world := o.world
    performed := l.performed ++ [⟨op, op.plan.exchanges answer l.controller l.world, o.value⟩] }

/-- Operations, one after the other. -/
def performAll (l : Lifetime ω) (ops : List Operation) : Lifetime ω :=
  ops.foldl (perform answer) l

/-- Everything that was asked and answered, in order. -/
def exchanges (l : Lifetime ω) : List Exchange :=
  l.booting ++ l.performed.flatMap Performed.exchanges

theorem exchanges_perform (l : Lifetime ω) (op : Operation) :
    (l.perform answer op).exchanges =
      l.exchanges ++ op.plan.exchanges answer l.controller l.world := by
  unfold exchanges perform
  simp only [List.flatMap_append, List.flatMap_singleton, List.append_assoc]

theorem exchanges_prefix_perform (l : Lifetime ω) (op : Operation) :
    l.exchanges <+: (l.perform answer op).exchanges := by
  rw [exchanges_perform]
  exact List.prefix_append _ _

theorem exchanges_prefix_performAll (l : Lifetime ω) (ops : List Operation) :
    l.exchanges <+: (l.performAll answer ops).exchanges := by
  induction ops generalizing l with
  | nil => exact List.prefix_rfl
  | cons op rest ih => exact (exchanges_prefix_perform answer l op).trans (ih (l.perform answer op))

theorem performAll_concat (l : Lifetime ω) (ops : List Operation) (op : Operation) :
    l.performAll answer (ops ++ [op]) = (l.performAll answer ops).perform answer op :=
  List.foldl_append

end Lifetime

/-- A world in which nothing fails. -/
def willing : (c : Call) → Unit → c.Answer × Unit
  | .switch _ _, w => (.ok (), w)
  | .set _ _, w => (.ok (), w)
  | .launch _, w => (.ok (1 : Nat), w)
  | .send _, w => (.ok (), w)
  | .terminate, w => (.ok (), w)

/-! ## Pasts -/

/-- `Past c h performed`: a controller that was booted with the exchanges `h` and then carried out
`performed` can have become `c`. -/
inductive Past : Controller → List Exchange → List Performed → Prop
  | boot {mode : String} {switches : Switches} {places : Places} {h : List Exchange} {u : Unit}
    {c : Controller} (booted : (boot mode).Follows (fresh switches places) h u c) : Past c h []
  | perform {c c' : Controller} {b h : List Exchange} {performed : List Performed} {op : Operation}
    {r : Except Error Unit} (past : Past c b performed) (step : c.Transition op h r c') :
    Past c' b (performed ++ [⟨op, h, r⟩])

/-- One more operation is a transition, with the exchanges and the result that are recorded. -/
theorem Lifetime.transition_of_perform {ω : Type} (answer : (c : Call) → ω → c.Answer × ω)
    {l : Lifetime ω} {op : Operation} {h : List Exchange} {r : Except Error Unit}
    (last : (l.perform answer op).performed = l.performed ++ [⟨op, h, r⟩]) :
    l.controller.Transition op h r (l.perform answer op).controller := by
  have step := transition_of_follows (follows_run answer op.plan l.controller l.world)
  obtain ⟨-, same⟩ := List.append_inj' last rfl
  cases same
  exact step

theorem Lifetime.past_begin {ω : Type} (answer : (c : Call) → ω → c.Answer × ω) (mode : String)
    (switches : Switches) (places : Places) (w : ω) :
    let l := Lifetime.begin answer mode switches places w
    Past l.controller l.booting l.performed :=
  .boot (follows_run answer (Controller.boot mode) (fresh switches places) w)

theorem Lifetime.past_performAll {ω : Type} (answer : (c : Call) → ω → c.Answer × ω)
    (ops : List Operation) {l : Lifetime ω} (past : Past l.controller l.booting l.performed) :
    let last := l.performAll answer ops
    Past last.controller last.booting last.performed := by
  induction ops generalizing l with
  | nil => exact past
  | cons op rest ih =>
    have next : Past (l.perform answer op).controller (l.perform answer op).booting
        (l.perform answer op).performed := past.perform (transition_of_perform answer rfl)
    exact ih next

/-- Every lifetime has a past. -/
theorem Lifetime.past {ω : Type} (answer : (c : Call) → ω → c.Answer × ω) (mode : String)
    (switches : Switches) (places : Places) (w : ω) (ops : List Operation) :
    let l := (Lifetime.begin answer mode switches places w).performAll answer ops
    Past l.controller l.booting l.performed :=
  Lifetime.past_performAll answer ops (Lifetime.past_begin answer mode switches places w)

/-- The exchanges of a lifetime lead the world where the lifetime leads it. -/
theorem Lifetime.answers_performAll {ω : Type} (answer : (c : Call) → ω → c.Answer × ω)
    (ops : List Operation) {l : Lifetime ω} {w : ω} (first : Answers answer w l.exchanges l.world) :
    Answers answer w (l.performAll answer ops).exchanges (l.performAll answer ops).world := by
  induction ops generalizing l with
  | nil => exact first
  | cons op rest ih =>
    have next : Answers answer w (l.perform answer op).exchanges (l.perform answer op).world := by
      rw [exchanges_perform]
      exact first.append (answers_exchanges answer op.plan l.controller l.world)
    exact ih next

theorem Lifetime.answers_begin {ω : Type} (answer : (c : Call) → ω → c.Answer × ω) (mode : String)
    (switches : Switches) (places : Places) (w : ω) :
    let l := Lifetime.begin answer mode switches places w
    Answers answer w l.exchanges l.world := by
  intro l
  have exchanges : l.exchanges = l.booting := List.append_nil _
  rw [exchanges]
  exact answers_exchanges answer (Controller.boot mode) (fresh switches places) w

/-! ## The boot -/

variable {c c' : Controller} {h : List Exchange} {u : Unit}

theorem of_follows_noteFailure {note : SwitchError → Log.Event} {answer : Except SwitchError Unit}
    (follows : (match answer with
      | .ok _ => pure ()
      | .error e => Plan.log (note e) : Plan Controller Unit).Follows c h u c') :
    h = [] ∧ c' = c := by
  cases answer with
  | ok _ => exact ⟨(follows_pure.mp follows).1, (follows_pure.mp follows).2.2⟩
  | error e => exact follows_log.mp follows

/-- The boot writes switches only, and leaves everything but the requesters as it was. -/
theorem forwarding_of_boot {mode : String} (follows : (boot mode).Follows c h u c') :
    (∃ f, f.switches = c.forwarding.switches ∧ c' = { c with forwarding := f }) ∧
      ∀ x ∈ h, x.IsSwitch := by
  unfold boot at follows
  dsimp only at follows
  split at follows
  · obtain ⟨_, _, _, _, switched, noted, rfl⟩ := follows_bind.mp (follows_log_bind.mp follows)
    obtain ⟨rfl, rfl⟩ := of_follows_noteFailure noted
    obtain ⟨f, inner, rfl⟩ := of_follows_onForwarding switched
    have switches : f.switches = c.forwarding.switches := by
      rw [(Forwarding.of_follows_enable inner).1]
    rw [List.append_nil]
    exact ⟨⟨f, switches, rfl⟩, Forwarding.isSwitch_of_enable inner⟩
  · obtain ⟨_, _, _, _, switched, noted, rfl⟩ := follows_bind.mp follows
    obtain ⟨rfl, rfl⟩ := of_follows_noteFailure noted
    obtain ⟨f, inner, rfl⟩ := of_follows_onForwarding switched
    have switches : f.switches = c.forwarding.switches := by
      rw [(Forwarding.of_follows_apply inner).1]
    rw [List.append_nil]
    exact ⟨⟨f, switches, rfl⟩, Forwarding.isSwitch_of_apply inner⟩

theorem of_follows_boot {mode : String} (follows : (boot mode).Follows c h u c') :
    (∃ f, c' = { c with forwarding := f }) ∧ ∀ x ∈ h, x.IsSwitch := by
  obtain ⟨⟨f, -, same⟩, switches⟩ := forwarding_of_boot follows
  exact ⟨⟨f, same⟩, switches⟩

end NetControl.Tether.Controller
