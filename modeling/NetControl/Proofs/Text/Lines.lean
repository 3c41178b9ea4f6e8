import NetControl.Proofs.Text.Digits
import NetControl.Proofs.Text.Utf8
import NetControl.Text.Quoted

/-!
# Texts within one column of one line

Lines end with newlines and columns with tabs. A text that has neither is unbroken: whoever cuts a
text into lines and columns does not cut it. Numbers are unbroken, and so is every quoted text,
whatever it quotes (`isUnbroken_quoted`).
-/

namespace NetControl

/-- No piece of a cut has the element at which it was cut. -/
theorem not_mem_of_mem_splitOn {α : Type} [BEq α] [LawfulBEq α] {x : α} {l piece : List α}
    (member : piece ∈ l.splitOn x) : x ∉ piece := by
  induction l generalizing piece with
  | nil =>
    rw [List.splitOn_nil, List.mem_singleton] at member
    rw [member]
    exact List.not_mem_nil
  | cons y rest ih =>
    rw [List.splitOn_cons_eq_if_modifyHead] at member
    split at member
    · rcases List.mem_cons.mp member with rfl | later
      · exact List.not_mem_nil
      · exact ih later
    · next differs =>
      obtain ⟨first, others, pieces⟩ := List.exists_cons_of_ne_nil (List.splitOn_ne_nil x rest)
      rw [pieces, List.modifyHead_cons] at member
      rcases List.mem_cons.mp member with rfl | later
      · rintro (_ | ⟨_, inside⟩)
        · exact differs (beq_self_eq_true x)
        · exact ih (pieces ▸ List.mem_cons_self) inside
      · exact ih (pieces ▸ List.mem_cons_of_mem _ later)

/-- Joined lists have an element that does not separate them just if one of the lists has it. -/
theorem not_mem_intercalate {α : Type} {x : α} {separator : List α} (other : x ∉ separator)
    {lists : List (List α)} : x ∉ separator.intercalate lists ↔ ∀ l ∈ lists, x ∉ l := by
  induction lists with
  | nil => simp
  | cons first rest ih =>
    cases rest with
    | nil => simp
    | cons second rest =>
      rw [List.intercalate_cons_cons, List.mem_append, List.mem_append, not_or, not_or, ih,
        List.forall_mem_cons (a := first)]
      exact and_congr_left fun _ => and_iff_left other

namespace Text

/-- The text has no newline and no tab. -/
def IsUnbroken (s : String) : Prop :=
  '\n' ∉ s.toList ∧ '\t' ∉ s.toList

variable {s t : String}

-- As for NULs, the bytes of a fixed text are found faster than its characters.
instance (s : String) : Decidable (IsUnbroken s) :=
  decidable_of_iff (10 ∉ Bytes.ofString s ∧ 9 ∉ Bytes.ofString s) <|
    and_congr (not_congr (Bytes.mem_ofString_of_ascii (c := '\n') (by decide)))
      (not_congr (Bytes.mem_ofString_of_ascii (c := '\t') (by decide)))

@[simp] theorem isUnbroken_append : IsUnbroken (s ++ t) ↔ IsUnbroken s ∧ IsUnbroken t := by
  unfold IsUnbroken
  rw [String.toList_append, List.mem_append, List.mem_append, not_or, not_or, and_and_and_comm]

theorem isUnbroken_ofList {characters : List Char}
    (unbroken : ∀ c ∈ characters, c ≠ '\n' ∧ c ≠ '\t') :
    IsUnbroken (String.ofList characters) := by
  unfold IsUnbroken
  rw [String.toList_ofList]
  exact ⟨fun newline => (unbroken _ newline).1 rfl, fun tab => (unbroken _ tab).2 rfl⟩

theorem isUnbroken_intercalate {separator : String} (plain : IsUnbroken separator)
    {texts : List String} :
    IsUnbroken (separator.intercalate texts) ↔ ∀ text ∈ texts, IsUnbroken text := by
  unfold IsUnbroken
  rw [String.toList_intercalate, not_mem_intercalate plain.1, not_mem_intercalate plain.2,
    List.forall_mem_map, List.forall_mem_map, ← forall_and]
  simp only [imp_and]

/-! ## Numbers -/

theorem ne_of_mem_toDigits {b n : Nat} (base : 1 < b) (small : b ≤ 16) {c : Char}
    (member : c ∈ Nat.toDigits b n) : c ≠ '\n' ∧ c ≠ '\t' := by
  have digits : ∀ d < 16, Nat.digitChar d ≠ '\n' ∧ Nat.digitChar d ≠ '\t' := by decide
  obtain ⟨d, below, rfl⟩ := exists_digitChar_of_mem_toDigits base member
  exact digits d (by omega)

@[simp] theorem isUnbroken_decimal (n : Int) : IsUnbroken (decimal n) := by
  have natural (k : Nat) : IsUnbroken k.repr :=
    isUnbroken_ofList fun c member => ne_of_mem_toDigits (by decide) (by decide) member
  unfold decimal
  rw [Int.toString_eq_repr, Int.repr_eq_if]
  split
  · exact natural _
  · exact isUnbroken_append.mpr ⟨by decide, natural _⟩

/-! ## Quotes -/

/-- What stands for a character between quotes is no break. -/
theorem ne_of_mem_quoteChar {c d : Char} (member : d ∈ quoteChar c) : d ≠ '\n' ∧ d ≠ '\t' := by
  have escaped {e : Char} (letter : e ≠ '\n' ∧ e ≠ '\t') (member : d ∈ ['\\', e]) :
      d ≠ '\n' ∧ d ≠ '\t' := by
    simp only [List.mem_cons, List.not_mem_nil, or_false] at member
    rcases member with rfl | rfl
    · decide
    · exact letter
  unfold quoteChar at member
  split at member
  · exact escaped (by decide) member
  split at member
  · exact escaped (by decide) member
  next tab =>
  split at member
  · exact escaped (by decide) member
  split at member
  · exact escaped (by decide) member
  next newline =>
  split at member
  · exact escaped (by decide) member
  split at member
  · exact escaped (by decide) member
  split at member
  · rw [List.mem_singleton.mp member]
    exact ⟨newline, tab⟩
  · have braces : ∀ e ∈ ['\\', 'u', '\x7b', '\x7d'], e ≠ '\n' ∧ e ≠ '\t' := by simp
    simp only [List.mem_append, or_assoc] at member
    rcases member with front | digit | back
    · exact braces d (List.mem_of_mem_take (i := 3) front)
    · exact ne_of_mem_toDigits (by decide) (by decide) digit
    · exact braces d (List.mem_of_mem_drop (i := 3) back)

@[simp] theorem isUnbroken_quoted (s : String) : IsUnbroken (quoted s) := by
  refine isUnbroken_ofList fun c member => ?_
  simp only [List.cons_append, List.mem_cons, List.mem_append, List.mem_flatMap, List.not_mem_nil,
    or_false] at member
  rcases member with rfl | ⟨d, -, inside⟩ | rfl
  · decide
  · exact ne_of_mem_quoteChar inside
  · decide

@[simp] theorem isUnbroken_quotedList (items : List String) : IsUnbroken (quotedList items) := by
  have quotes : ∀ text ∈ items.map quoted, IsUnbroken text := by
    intro text member
    obtain ⟨item, -, rfl⟩ := List.mem_map.mp member
    exact isUnbroken_quoted item
  simp only [quotedList, bracketed, isUnbroken_append]
  exact ⟨⟨by decide, (isUnbroken_intercalate (by decide)).mpr quotes⟩, by decide⟩

end Text

end NetControl
