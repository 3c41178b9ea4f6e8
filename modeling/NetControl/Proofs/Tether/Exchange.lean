import NetControl.Tether.Plan

/-!
# What a plan asks and what it is answered

`Plan.run` follows a plan through one world. Statements about every pattern of answers are made
about the exchanges instead: `Plan.Follows` relates a plan, the state it starts in, the requests it
makes with their answers, its result, and the state it ends in, and leaves the answers open.

* `Plan.follows_run`: whatever world a plan is run through, its exchanges there, its result and its
  state are so related.
* `Plan.follows_bind` and its neighbours say what one part of a plan can do, so that a plan is taken
  apart from front to back and `Plan.bind` is never unfolded.
-/

namespace NetControl.Tether

/-- A request to the world outside, and the answer it got. -/
structure Exchange where
  call : Call
  answer : call.Answer

namespace Plan

variable {σ τ ω α β : Type}

/-- What a plan asks of a world and is answered there, in order. -/
def exchanges (answer : (c : Call) → ω → c.Answer × ω) : Plan σ α → σ → ω → List Exchange
  | done _, _, _ => []
  | read next, s, w => exchanges answer (next s) s w
  | write s next, _, w => exchanges answer next s w
  | ask c next, s, w =>
    ⟨c, (answer c w).1⟩ :: exchanges answer (next (answer c w).1) s (answer c w).2
  | note _ next, s, w => exchanges answer next s w

/-- From state `s` a plan can make the exchanges `h`, and then ends with result `a` in state `t`.
Any answer may come to any request. -/
inductive Follows : Plan σ α → σ → List Exchange → α → σ → Prop
  | done (a : α) (s : σ) : Follows (.done a) s [] a s
  | read {next : σ → Plan σ α} {s t : σ} {h : List Exchange} {a : α} :
    Follows (next s) s h a t → Follows (.read next) s h a t
  | write {next : Plan σ α} {s s' t : σ} {h : List Exchange} {a : α} :
    Follows next s' h a t → Follows (.write s' next) s h a t
  | ask {c : Call} {next : c.Answer → Plan σ α} {s t : σ} {h : List Exchange} {a : α}
    (r : c.Answer) : Follows (next r) s h a t → Follows (.ask c next) s (⟨c, r⟩ :: h) a t
  | note {e : Log.Event} {next : Plan σ α} {s t : σ} {h : List Exchange} {a : α} :
    Follows next s h a t → Follows (.note e next) s h a t

/-- A run through a world is one of the ways in which the plan can go. -/
theorem follows_run (answer : (c : Call) → ω → c.Answer × ω) (p : Plan σ α) (s : σ) (w : ω) :
    p.Follows s (p.exchanges answer s w) (p.run answer s w).value (p.run answer s w).state := by
  induction p generalizing s w with
  | done a => exact .done a s
  | read next ih => exact .read (ih s s w)
  | write t next ih => exact .write (ih t w)
  | ask c next ih => exact .ask _ (ih _ s _)
  | note e next ih => exact .note (ih s w)

/-- `Answers answer w h w'`: a world `w` that answers as `answer` does can be asked `h`, which leads it
to `w'`. -/
inductive Answers (answer : (c : Call) → ω → c.Answer × ω) : ω → List Exchange → ω → Prop
  | nil (w : ω) : Answers answer w [] w
  | cons {c : Call} {w w' : ω} {h : List Exchange} :
    Answers answer (answer c w).2 h w' → Answers answer w (⟨c, (answer c w).1⟩ :: h) w'

/-- The exchanges of a run lead the world where the run leads it. -/
theorem answers_exchanges (answer : (c : Call) → ω → c.Answer × ω) (p : Plan σ α) (s : σ) (w : ω) :
    Answers answer w (p.exchanges answer s w) (p.run answer s w).world := by
  induction p generalizing s w with
  | done a => exact .nil w
  | read next ih => exact ih s s w
  | write t next ih => exact ih t w
  | ask c next ih => exact .cons (ih _ s _)
  | note e next ih => exact ih s w

/-- A world that is asked nothing stays as it is. -/
theorem eq_of_answers_nil {answer : (c : Call) → ω → c.Answer × ω} {w w' : ω}
    (answers : Answers answer w [] w') : w' = w := by
  cases answers
  rfl

theorem Answers.append {answer : (c : Call) → ω → c.Answer × ω} {w w' w'' : ω}
    {h h' : List Exchange} (first : Answers answer w h w') (second : Answers answer w' h' w'') :
    Answers answer w (h ++ h') w'' := by
  induction first with
  | nil w => exact second
  | cons _ ih => exact .cons (ih second)

/-! ## Taking a plan apart -/

@[simp] theorem follows_pure {a b : α} {s t : σ} {h : List Exchange} :
    Follows (pure a) s h b t ↔ h = [] ∧ b = a ∧ t = s := by
  constructor
  · intro follows
    cases follows
    exact ⟨rfl, rfl, rfl⟩
  · rintro ⟨rfl, rfl, rfl⟩
    exact .done _ _

/-- One operation after another makes the exchanges of the first and then those of the second. -/
theorem follows_bind {p : Plan σ α} {f : α → Plan σ β} {s u : σ} {h : List Exchange} {b : β} :
    Follows (p >>= f) s h b u ↔
      ∃ a t h₁ h₂, p.Follows s h₁ a t ∧ (f a).Follows t h₂ b u ∧ h = h₁ ++ h₂ := by
  change Follows (p.bind f) s h b u ↔ _
  constructor
  · intro follows
    induction p generalizing s h with
    | done a => exact ⟨a, s, [], h, .done a s, follows, rfl⟩
    | read next ih =>
      cases follows with
      | read inner =>
        obtain ⟨a, t, h₁, h₂, first, second, split⟩ := ih s inner
        exact ⟨a, t, h₁, h₂, .read first, second, split⟩
    | write s' next ih =>
      cases follows with
      | write inner =>
        obtain ⟨a, t, h₁, h₂, first, second, split⟩ := ih inner
        exact ⟨a, t, h₁, h₂, .write first, second, split⟩
    | ask c next ih =>
      cases follows with
      | ask r inner =>
        obtain ⟨a, t, h₁, h₂, first, second, split⟩ := ih r inner
        exact ⟨a, t, ⟨c, r⟩ :: h₁, h₂, .ask r first, second, by rw [split]; rfl⟩
    | note e next ih =>
      cases follows with
      | note inner =>
        obtain ⟨a, t, h₁, h₂, first, second, split⟩ := ih inner
        exact ⟨a, t, h₁, h₂, .note first, second, split⟩
  · rintro ⟨a, t, h₁, h₂, first, second, rfl⟩
    induction first with
    | done a s => exact second
    | read _ ih => exact .read (ih second)
    | write _ ih => exact .write (ih second)
    | ask r _ ih => exact .ask r (ih second)
    | note _ ih => exact .note (ih second)

/-! ### The requests of a plan for its own state, its notes, and its requests to the outside -/

variable {f : σ → Plan σ β} {k : Unit → Plan σ β} {s s' u : σ} {h : List Exchange} {b : β}

@[simp] theorem follows_get_bind : Follows (Plan.get >>= f) s h b u ↔ (f s).Follows s h b u := by
  constructor
  · intro follows
    cases follows with
    | read inner => exact inner
  · exact fun follows => .read follows

@[simp] theorem follows_put_bind :
    Follows (Plan.put s' >>= k) s h b u ↔ (k ()).Follows s' h b u := by
  constructor
  · intro follows
    cases follows with
    | write inner => exact inner
  · exact fun follows => .write follows

@[simp] theorem follows_log_bind {e : Log.Event} :
    Follows (Plan.log e >>= k) s h b u ↔ (k ()).Follows s h b u := by
  constructor
  · intro follows
    cases follows with
    | note inner => exact inner
  · exact fun follows => .note follows

@[simp] theorem follows_logAll_bind {events : List Log.Event} :
    Follows (Plan.logAll events >>= k) s h b u ↔ (k ()).Follows s h b u := by
  induction events with
  | nil => exact Iff.rfl
  | cons e rest ih =>
    rw [← ih]
    constructor
    · intro follows
      cases follows with
      | note inner => exact inner
    · exact fun follows => .note follows

@[simp] theorem follows_log {e : Log.Event} {a : Unit} :
    Follows (Plan.log e) s h a u ↔ h = [] ∧ u = s := by
  constructor
  · intro follows
    cases follows with
    | note inner =>
      cases inner
      exact ⟨rfl, rfl⟩
  · rintro ⟨rfl, rfl⟩
    exact .note (.done _ _)

@[simp] theorem follows_logAll {events : List Log.Event} {a : Unit} :
    Follows (Plan.logAll events) s h a u ↔ h = [] ∧ u = s := by
  induction events with
  | nil =>
    change Follows (pure a) s h a u ↔ _
    simp
  | cons e rest ih =>
    rw [← ih]
    constructor
    · intro follows
      cases follows with
      | note inner => exact inner
    · exact fun follows => .note follows

theorem follows_request_bind {c : Call} {g : c.Answer → Plan σ β} :
    Follows (Plan.request c >>= g) s h b u ↔
      ∃ r rest, (g r).Follows s rest b u ∧ h = ⟨c, r⟩ :: rest := by
  constructor
  · intro follows
    cases follows with
    | ask r inner => exact ⟨r, _, inner, rfl⟩
  · rintro ⟨r, rest, follows, rfl⟩
    exact .ask r follows

/-- An operation on a part of a larger state does there what it does by itself, and leaves every
other part as it was. -/
theorem follows_zoom {get : τ → σ} {put : σ → τ → τ} (get_put : ∀ s t, get (put s t) = s)
    (put_get : ∀ t, put (get t) t = t) (put_put : ∀ s s' t, put s (put s' t) = put s t)
    {p : Plan σ α} {t u : τ} {h : List Exchange} {a : α}
    (follows : (p.zoom get put).Follows t h a u) :
    ∃ s, p.Follows (get t) h a s ∧ u = put s t := by
  induction p generalizing t h with
  | done b =>
    cases follows
    exact ⟨_, .done _ _, (put_get _).symm⟩
  | read next ih =>
    cases follows with
    | read inner =>
      obtain ⟨s, part, whole⟩ := ih _ inner
      exact ⟨s, .read part, whole⟩
  | write s' next ih =>
    cases follows with
    | read inner =>
      cases inner with
      | write inner =>
        obtain ⟨s, part, whole⟩ := ih inner
        rw [get_put] at part
        rw [put_put] at whole
        exact ⟨s, .write part, whole⟩
  | ask c next ih =>
    cases follows with
    | ask r inner =>
      obtain ⟨s, part, whole⟩ := ih r inner
      exact ⟨s, .ask r part, whole⟩
  | note e next ih =>
    cases follows with
    | note inner =>
      obtain ⟨s, part, whole⟩ := ih inner
      exact ⟨s, .note part, whole⟩

end Plan

end NetControl.Tether
