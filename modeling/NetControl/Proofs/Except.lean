/-!
# Computations that may fail, taken apart

What the parts of a computation have answered, given what the whole has.
-/

namespace NetControl

theorem bind_eq_ok {ε α β : Type} {x : Except ε α} {f : α → Except ε β} {b : β} :
    (x >>= f) = .ok b ↔ ∃ a, x = .ok a ∧ f a = .ok b := by
  cases x with
  | ok a => exact ⟨fun read => ⟨a, rfl, read⟩, fun ⟨_, same, read⟩ => by cases same; exact read⟩
  | error e => exact ⟨nofun, fun ⟨_, impossible, _⟩ => nomatch impossible⟩

theorem bind_eq_error {ε α β : Type} {x : Except ε α} {f : α → Except ε β} {e : ε} :
    (x >>= f) = .error e ↔ x = .error e ∨ ∃ a, x = .ok a ∧ f a = .error e := by
  cases x with
  | ok a =>
    constructor
    · exact fun failed => .inr ⟨a, rfl, failed⟩
    · rintro (impossible | ⟨_, same, failed⟩)
      · cases impossible
      · cases same
        exact failed
  | error e' =>
    constructor
    · exact fun same => .inl (congrArg _ (Except.error.inj same))
    · rintro (same | ⟨_, impossible, _⟩)
      · exact congrArg _ (Except.error.inj same)
      · cases impossible

theorem map_eq_ok {ε α β : Type} {x : Except ε α} {f : α → β} {b : β} :
    x.map f = .ok b ↔ ∃ a, x = .ok a ∧ f a = b := by
  cases x with
  | ok a => simp [Except.map]
  | error e => simp [Except.map]

theorem eq_error_of_map {α β ε : Type} {f : α → β} {read : Except ε α} {e : ε}
    (mapped : read.map f = .error e) : read = .error e := by
  cases read with
  | ok found => cases mapped
  | error e' =>
    cases mapped
    rfl

theorem mapError_eq_error_iff {ε ε' α : Type} {x : Except ε α} {f : ε → ε'} {e : ε'} :
    x.mapError f = .error e ↔ ∃ cause, x = .error cause ∧ f cause = e := by
  cases x with
  | ok a => exact iff_of_false nofun fun ⟨_, impossible, _⟩ => nomatch impossible
  | error cause =>
    constructor
    · exact fun same => ⟨cause, rfl, Except.error.inj same⟩
    · rintro ⟨_, same, rfl⟩
      cases same
      rfl

end NetControl
