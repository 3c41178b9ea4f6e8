import NetControl.Lifecycle.Moves

/-!
# Runs of moves

What a run preserves follows from what one move preserves. `foldlM_induction` is the induction, and
`runMoves_induction` the same for parts that move on their own. Such a part comes to rest where
every move leaves less to do (`rest_of_settle`).
-/

namespace NetControl

theorem foldlM_concat {σ μ : Type} {step : σ → μ → Option σ} {start t : σ} {before : List μ}
    {m : μ} : (before ++ [m]).foldlM step start = some t ↔
      ∃ s, before.foldlM step start = some s ∧ step s m = some t := by
  have last (s : σ) : [m].foldlM step s = step s m := bind_pure (step s m)
  rw [List.foldlM_append]
  simp only [last]
  exact Option.bind_eq_some_iff

/-- What holds at the start and is kept by every step holds wherever steps lead, one after the
other. -/
theorem foldlM_induction {σ μ : Type} {step : σ → μ → Option σ} {start s : σ}
    {P : List μ → σ → Prop} (new : P [] start)
    (move : ∀ {before : List μ} {s t : σ} {m : μ}, before.foldlM step start = some s →
      P before s → step s m = some t → P (before ++ [m]) t)
    {moves : List μ} (run : moves.foldlM step start = some s) : P moves s := by
  -- By induction on the moves to come, for whatever moves came before.
  have go (rest : List μ) : ∀ (before : List μ) (t : σ), before.foldlM step start = some t →
      P before t → rest.foldlM step t = some s → P (before ++ rest) s := by
    induction rest with
    | nil =>
      intro before t _ holds last
      cases last
      rw [List.append_nil]
      exact holds
    | cons m rest ih =>
      intro before t reached holds further
      obtain ⟨next, step', further⟩ := Option.bind_eq_some_iff.mp further
      have reached' : (before ++ [m]).foldlM step start = some next :=
        foldlM_concat.mpr ⟨t, reached, step'⟩
      have last := ih (before ++ [m]) next reached' (move reached holds step') further
      rw [List.append_assoc] at last
      exact last
  exact go moves [] start rfl new run

section Moves

open Lifecycle

variable {σ μ : Type} {step : σ → μ → Option σ} {start s t : σ} {moves : List μ}

theorem runMoves_eq_foldlM (moves : List μ) : runMoves step s moves = moves.foldlM step s := by
  induction moves generalizing s with
  | nil => rfl
  | cons m rest ih => exact Option.bind_congr fun next _ => ih

theorem runMoves_append {before after : List μ} :
    runMoves step s (before ++ after) = some t ↔
      ∃ mid, runMoves step s before = some mid ∧ runMoves step mid after = some t := by
  simp only [runMoves_eq_foldlM, List.foldlM_append]
  exact Option.bind_eq_some_iff

/-- A run at the moment of one of its moves. -/
theorem runMoves_split {before after : List μ} {m : μ} :
    runMoves step s (before ++ m :: after) = some t ↔
      ∃ mid next, runMoves step s before = some mid ∧ step mid m = some next ∧
        runMoves step next after = some t := by
  simp only [runMoves_append, runMoves, Option.bind_eq_some_iff, exists_and_left]

/-- What holds at the start and is kept by every move holds at the end of every run. -/
theorem runMoves_induction {P : List μ → σ → Prop} (new : P [] start)
    (move : ∀ {before : List μ} {s t : σ} {m : μ}, P before s → step s m = some t →
      P (before ++ [m]) t)
    (run : runMoves step start moves = some s) : P moves s :=
  foldlM_induction new (fun _ => move) (runMoves_eq_foldlM moves ▸ run)

end Moves

section Settling

open Lifecycle

variable {σ μ : Type} {step : σ → μ → Option σ} {moves : σ → List μ} {s : σ}

theorem firstStep_eq_none {ms : List μ} (stuck : firstStep step s ms = none) :
    ∀ m ∈ ms, step s m = none := by
  induction ms with
  | nil => exact List.forall_mem_nil _
  | cons m rest ih =>
    unfold firstStep at stuck
    split at stuck
    · cases stuck
    · next here => exact List.forall_mem_cons.mpr ⟨here, ih stuck⟩

/-- Where every move leaves less to do, as many moves as there are things to do lead to rest. -/
theorem rest_of_settle (left : σ → Nat)
    (less : ∀ {s t m}, m ∈ moves s → step s m = some t → left t < left s) (fuel : Nat)
    (enough : left s ≤ fuel) :
    ∀ m ∈ moves (settle step moves fuel s), step (settle step moves fuel s) m = none := by
  induction fuel generalizing s with
  | zero =>
    intro m own
    rw [Option.eq_none_iff_forall_not_mem]
    intro t moved
    have fewer : left t < left s := less own moved
    omega
  | succ fuel ih =>
    unfold settle
    cases found : firstStep step s (moves s) with
    | none => exact firstStep_eq_none found
    | some next =>
      obtain ⟨m, own, moved⟩ := firstStep_eq_some found
      have fewer := less own moved
      exact ih (by omega)

end Settling

end NetControl
