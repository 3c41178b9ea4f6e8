/-!
Parts that move on their own. A step function says which moves are possible in a state and where
they lead; a part comes to rest when none of the moves it can make by itself is possible.
-/

namespace NetControl.Lifecycle

variable {σ μ : Type}

/-- The state after the first possible move of a list, if one is possible. -/
def firstStep (step : σ → μ → Option σ) (s : σ) : List μ → Option σ
  | [] => none
  | m :: rest =>
    match step s m with
    | some next => some next
    | none => firstStep step s rest

/-- Makes possible moves, the first of the list first, until none is possible or `fuel` moves were
made. -/
def settle (step : σ → μ → Option σ) (moves : σ → List μ) : (fuel : Nat) → σ → σ
  | 0, s => s
  | fuel + 1, s =>
    match firstStep step s (moves s) with
    | some next => settle step moves fuel next
    | none => s

/-- The state after a list of moves, where each is possible. -/
def runMoves (step : σ → μ → Option σ) (s : σ) : List μ → Option σ
  | [] => some s
  | m :: rest => (step s m).bind fun next => runMoves step next rest

theorem firstStep_eq_some {step : σ → μ → Option σ} {s next : σ} {moves : List μ}
    (found : firstStep step s moves = some next) : ∃ m ∈ moves, step s m = some next := by
  induction moves with
  | nil => cases found
  | cons m rest ih =>
    unfold firstStep at found
    split at found
    · rename_i here
      exact ⟨m, List.mem_cons_self, by rw [here, found]⟩
    · obtain ⟨m', member, led⟩ := ih found
      exact ⟨m', List.mem_cons_of_mem _ member, led⟩

/-- Settling makes possible moves only. -/
theorem exists_runMoves_settle (step : σ → μ → Option σ) (moves : σ → List μ) (fuel : Nat)
    (s : σ) : ∃ ms, runMoves step s ms = some (settle step moves fuel s) := by
  induction fuel generalizing s with
  | zero => exact ⟨[], rfl⟩
  | succ fuel ih =>
    unfold settle
    split
    · rename_i next found
      obtain ⟨m, -, led⟩ := firstStep_eq_some found
      obtain ⟨ms, run⟩ := ih next
      exact ⟨m :: ms, by simp [runMoves, led, run]⟩
    · exact ⟨[], rfl⟩

end NetControl.Lifecycle
