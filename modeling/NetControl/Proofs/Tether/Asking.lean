import NetControl.Proofs.Tether.Exchange

/-!
# The states in which a plan asks

`Plan.Follows` says where a plan begins and where it ends, but not what its own state is when it
asks something on the way. A request can be about that state: a frame lists what the state lists at
that moment, even if the operation takes it back afterwards.

A rule `R h s c` says whether the request `c` is in order in the state `s`, with the exchanges `h`
made before. `p.Heeds R Q h s` says that `p`, from `s` and with `h` behind it, asks only what is in
order whatever it is answered, and ends as `Q` says. It is computed from the plan, and
`Plan.heeds_bind` lets it be taken apart as the plan is put together; `Plan.kept_of_heeds` says what
it means for a run.
-/

namespace NetControl.Tether.Plan

variable {σ ω α β : Type}

/-- What a plan asks of a world and is answered there, in order, each with the state that asks. -/
def asked (answer : (c : Call) → ω → c.Answer × ω) : Plan σ α → σ → ω → List (σ × Exchange)
  | done _, _, _ => []
  | read next, s, w => asked answer (next s) s w
  | write s next, _, w => asked answer next s w
  | ask c next, s, w =>
    (s, ⟨c, (answer c w).1⟩) :: asked answer (next (answer c w).1) s (answer c w).2
  | note _ next, s, w => asked answer next s w

/-- Without the states these are the exchanges of the run. -/
theorem map_asked (answer : (c : Call) → ω → c.Answer × ω) (p : Plan σ α) (s : σ) (w : ω) :
    (p.asked answer s w).map Prod.snd = p.exchanges answer s w := by
  induction p generalizing s w with
  | done a => rfl
  | read next ih => exact ih s s w
  | write t next ih => exact ih t w
  | ask c next ih => exact congrArg (List.cons _) (ih _ s _)
  | note e next ih => exact ih s w

/-! ## Rules -/

/-- Says whether a request is in order, from the exchanges before it and the state that asks. -/
abbrev Rule (σ : Type) := List Exchange → σ → Call → Prop

variable {R : Rule σ} {h : List Exchange}

/-- With the exchanges `h` before them, all of these were in order when they were asked. -/
def Kept (R : Rule σ) (h : List Exchange) (asks : List (σ × Exchange)) : Prop :=
  ∀ before s x after, asks = before ++ (s, x) :: after →
    R (h ++ before.map Prod.snd) s x.call

theorem kept_nil : Kept R h [] := by
  intro before s x after split
  exact absurd split.symm (List.append_ne_nil_of_right_ne_nil _ (List.cons_ne_nil _ _))

theorem kept_cons {s : σ} {x : Exchange} {asks : List (σ × Exchange)} :
    Kept R h ((s, x) :: asks) ↔ R h s x.call ∧ Kept R (h ++ [x]) asks := by
  constructor
  · intro kept
    constructor
    · have order := kept [] s x asks rfl
      rwa [List.map_nil, List.append_nil] at order
    · intro before s' x' after split
      have order := kept ((s, x) :: before) s' x' after (by rw [split]; rfl)
      rwa [List.append_assoc]
  · rintro ⟨first, others⟩ before s' x' after split
    cases before with
    | nil =>
      cases split
      rwa [List.map_nil, List.append_nil]
    | cons earlier before =>
      cases split
      have order := others before s' x' after rfl
      rwa [List.append_assoc] at order

theorem kept_append {asks more : List (σ × Exchange)} :
    Kept R h (asks ++ more) ↔ Kept R h asks ∧ Kept R (h ++ asks.map Prod.snd) more := by
  induction asks generalizing h with
  | nil =>
    rw [List.map_nil, List.append_nil, List.nil_append]
    exact (and_iff_right kept_nil).symm
  | cons ask rest ih =>
    obtain ⟨s, x⟩ := ask
    rw [List.cons_append, kept_cons, kept_cons, ih, and_assoc, List.append_assoc]
    rfl

/-! ## Plans that heed a rule -/

/-- With the exchanges `h` made before, the plan asks nothing from `s` that is not in order, and
ends with exchanges, a result and a state of which `Q` holds. -/
def Heeds (R : Rule σ) (Q : List Exchange → α → σ → Prop) :
    Plan σ α → List Exchange → σ → Prop
  | done a, h, s => Q h a s
  | read next, h, s => Heeds R Q (next s) h s
  | write s next, h, _ => Heeds R Q next h s
  | ask c next, h, s => R h s c ∧ ∀ r, Heeds R Q (next r) (h ++ [⟨c, r⟩]) s
  | note _ next, h, s => Heeds R Q next h s

/-- In whatever world a plan that heeds a rule is run, all that it asks there is in order, and it
ends as it should. -/
theorem kept_of_heeds {Q : List Exchange → α → σ → Prop} {p : Plan σ α} {s : σ}
    (heeds : p.Heeds R Q h s) (answer : (c : Call) → ω → c.Answer × ω) (w : ω) :
    Kept R h (p.asked answer s w) ∧
      Q (h ++ p.exchanges answer s w) (p.run answer s w).value (p.run answer s w).state := by
  induction p generalizing h s w with
  | done a =>
    refine ⟨kept_nil, ?_⟩
    change Q (h ++ []) a s
    rwa [List.append_nil]
  | read next ih => exact ih s heeds w
  | write t next ih => exact ih heeds w
  | ask c next ih =>
    obtain ⟨order, others⟩ := heeds
    have rest := ih _ (others (answer c w).1) (answer c w).2
    rw [List.append_assoc] at rest
    exact ⟨kept_cons.mpr ⟨order, rest.1⟩, rest.2⟩
  | note e next ih => exact ih heeds w

/-- A plan whose every course makes exchanges of one kind only, all of them in order at any time,
heeds the rule, and ends where its courses end. -/
theorem heeds_of_follows {Q : List Exchange → α → σ → Prop} {P : Exchange → Prop} {p : Plan σ α}
    {s : σ} (kind : ∀ h' a t, p.Follows s h' a t → ∀ x ∈ h', P x)
    (order : ∀ h s x, P x → R h s x.call)
    (ends : ∀ h' a t, p.Follows s h' a t → Q (h ++ h') a t) : p.Heeds R Q h s := by
  induction p generalizing h s with
  | done a =>
    have ending := ends [] a s (.done a s)
    rwa [List.append_nil] at ending
  | read next ih =>
    refine ih s ?_ ?_
    · exact fun h' a t follows => kind h' a t (.read follows)
    · exact fun h' a t follows => ends h' a t (.read follows)
  | write t next ih =>
    refine ih ?_ ?_
    · exact fun h' a t follows => kind h' a t (.write follows)
    · exact fun h' a t follows => ends h' a t (.write follows)
  | ask c next ih =>
    refine ⟨?_, fun r => ih r ?_ ?_⟩
    · -- Some course asks this, for instance the one on which everything fails.
      let failing : (c : Call) → Unit → c.Answer × Unit := fun _ w => (.error default, w)
      have course := follows_run failing (.ask c next) s ()
      exact order h s _ (kind _ _ _ course _ List.mem_cons_self)
    · exact fun h' a t follows x member =>
        kind _ a t (.ask r follows) x (List.mem_cons_of_mem _ member)
    · intro h' a t follows
      have ending := ends _ a t (.ask r follows)
      rwa [List.append_assoc]
  | note e next ih =>
    refine ih ?_ ?_
    · exact fun h' a t follows => kind h' a t (.note follows)
    · exact fun h' a t follows => ends h' a t (.note follows)

theorem Heeds.mono {Q Q' : List Exchange → α → σ → Prop} {p : Plan σ α} {s : σ}
    (heeds : p.Heeds R Q h s) (weaker : ∀ h a t, Q h a t → Q' h a t) : p.Heeds R Q' h s := by
  induction p generalizing h s with
  | done a => exact weaker h a s heeds
  | read next ih => exact ih s heeds
  | write t next ih => exact ih heeds
  | ask c next ih => exact ⟨heeds.1, fun r => ih r (heeds.2 r)⟩
  | note e next ih => exact ih heeds

/-! ### Taking a plan apart -/

variable {Q : List Exchange → β → σ → Prop} {s s' : σ}

@[simp] theorem heeds_pure {b : β} : (pure b : Plan σ β).Heeds R Q h s ↔ Q h b s := Iff.rfl

/-- One operation after another heeds the rule if the first does, and leads to where the second
does. -/
@[simp] theorem heeds_bind {p : Plan σ α} {f : α → Plan σ β} :
    (p >>= f).Heeds R Q h s ↔ p.Heeds R (fun h' a t => (f a).Heeds R Q h' t) h s := by
  change (p.bind f).Heeds R Q h s ↔ _
  induction p generalizing h s with
  | done a => exact Iff.rfl
  | read next ih => exact ih s
  | write t next ih => exact ih
  | ask c next ih => exact and_congr_right fun _ => forall_congr' fun r => ih r
  | note e next ih => exact ih

@[simp] theorem heeds_get {Q : List Exchange → σ → σ → Prop} :
    (Plan.get : Plan σ σ).Heeds R Q h s ↔ Q h s s := Iff.rfl

@[simp] theorem heeds_put {Q : List Exchange → Unit → σ → Prop} :
    (Plan.put s').Heeds R Q h s ↔ Q h () s' := Iff.rfl

@[simp] theorem heeds_request {c : Call} {Q : List Exchange → c.Answer → σ → Prop} :
    (Plan.request c).Heeds R Q h s ↔ R h s c ∧ ∀ r, Q (h ++ [⟨c, r⟩]) r s := Iff.rfl

@[simp] theorem heeds_log {e : Log.Event} {Q : List Exchange → Unit → σ → Prop} :
    (Plan.log e).Heeds R Q h s ↔ Q h () s := Iff.rfl

@[simp] theorem heeds_logAll {events : List Log.Event} {Q : List Exchange → Unit → σ → Prop} :
    (Plan.logAll events).Heeds R Q h s ↔ Q h () s := by
  induction events with
  | nil => exact Iff.rfl
  | cons e rest ih => exact ih

end NetControl.Tether.Plan
