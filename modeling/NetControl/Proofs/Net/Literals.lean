import NetControl.Net.Address

/-!
# The characters of literal addresses

`Net.Passes s rest` says that `rest` is what is left of `s` behind some hexadecimal digits, dots and
colons. Every reader of a part of a literal passes over such characters only, so that a literal
address has no others (`Net.isLiteralChar_of_parse?`, `Net.isLiteralChar_of_parseV6`).
-/

namespace NetControl.Net

/-- The characters of literal addresses. -/
def IsLiteralChar (c : Char) : Prop :=
  (digit? 16 c).isSome ∨ c = '.' ∨ c = ':'

/-- What is left of `s` behind characters of literal addresses. -/
def Passes (s rest : List Char) : Prop :=
  ∃ used, s = used ++ rest ∧ ∀ c ∈ used, IsLiteralChar c

namespace Passes

variable {s t u : List Char}

theorem refl (s : List Char) : Passes s s :=
  ⟨[], rfl, List.forall_mem_nil _⟩

theorem trans (first : Passes s t) (second : Passes t u) : Passes s u := by
  obtain ⟨front, rfl, literal⟩ := first
  obtain ⟨back, rfl, literal'⟩ := second
  refine ⟨front ++ back, (List.append_assoc _ _ _).symm, ?_⟩
  exact List.forall_mem_append.mpr ⟨literal, literal'⟩

end Passes

/-! ## Readers -/

variable {s rest : List Char}

/-- A digit of a smaller base is one of base sixteen. -/
theorem digit?_isSome {base : Nat} (small : base ≤ 16) {c : Char}
    (digit : (digit? base c).isSome) : (digit? 16 c).isSome := by
  unfold digit? at digit ⊢
  obtain ⟨value, found⟩ := Option.isSome_iff_exists.mp digit
  rw [Option.filter_eq_some_iff] at found
  have below : value < base := of_decide_eq_true found.2
  exact Option.isSome_iff_exists.mpr
    ⟨value, Option.filter_eq_some_iff.mpr ⟨found.1, decide_eq_true (by omega)⟩⟩

theorem passes_of_readNumber {base bound n : Nat} {ok : List Char → Bool} (small : base ≤ 16)
    (read : readNumber base bound ok s = some (n, rest)) : Passes s rest := by
  unfold readNumber at read
  dsimp only at read
  split at read
  · cases read
    refine ⟨s.takeWhile fun c => (digit? base c).isSome, ?_, ?_⟩
    · exact (List.prefix_iff_eq_append.mp (List.takeWhile_prefix _)).symm
    · intro c member
      have digit := List.all_eq_true.mp List.all_takeWhile c member
      exact Or.inl (digit?_isSome small digit)
  · cases read

theorem passes_of_skip {c : Char} (literal : IsLiteralChar c) (read : skip c s = some rest) :
    Passes s rest := by
  cases s with
  | nil => cases read
  | cons d after =>
    rw [skip] at read
    split at read
    · next same =>
      cases read
      rw [← same]
      exact ⟨[c], rfl, List.forall_mem_singleton.mpr literal⟩
    · cases read

theorem passes_of_readOctet {n : Nat} (read : readOctet s = some (n, rest)) : Passes s rest :=
  passes_of_readNumber (by decide) read

/-- A dot and an octet. -/
theorem passes_of_dottedOctet {n : Nat}
    (read : (skip '.' s).bind readOctet = some (n, rest)) : Passes s rest := by
  obtain ⟨after, dot, octet⟩ := Option.bind_eq_some_iff.mp read
  exact (passes_of_skip (Or.inr (Or.inl rfl)) dot).trans (passes_of_readOctet octet)

theorem passes_of_readV4 {octets : Octets 4} (read : readV4 s = some (octets, rest)) :
    Passes s rest := by
  unfold readV4 at read
  simp only [Option.bind_eq_bind, Option.bind_eq_some_iff, Prod.exists] at read
  obtain ⟨a, s₁, first, t₁, dot₁, b, s₂, second, t₂, dot₂, c, s₃, third, t₃, dot₃, d, s₄, fourth,
    ending⟩ := read
  cases ending
  have dotted {s t u : List Char} {n : Nat} (dot : skip '.' s = some t)
      (octet : readOctet t = some (n, u)) : Passes s u :=
    passes_of_dottedOctet (Option.bind_eq_some_iff.mpr ⟨t, dot, octet⟩)
  exact (passes_of_readOctet first).trans
    ((dotted dot₁ second).trans ((dotted dot₂ third).trans (dotted dot₃ fourth)))

theorem passes_of_skipColon {first : Bool} (read : skipColon first s = some rest) :
    Passes s rest := by
  cases first with
  | true =>
    cases read
    exact .refl s
  | false => exact passes_of_skip (Or.inr (Or.inr rfl)) read

/-- Behind the groups that were read, the rest is what no group begins. -/
theorem passes_readGroups (left : Nat) (first : Bool) (s : List Char) :
    Passes s (readGroups left first s).2.2 := by
  induction left generalizing first s with
  | zero => exact .refl s
  | succ left ih =>
    unfold readGroups
    split
    · next octets rest read =>
      split at read
      · obtain ⟨after, colon, v4⟩ := Option.bind_eq_some_iff.mp read
        exact (passes_of_skipColon colon).trans (passes_of_readV4 v4)
      · cases read
    · split
      · next group rest read =>
        obtain ⟨after, colon, group⟩ := Option.bind_eq_some_iff.mp read
        exact ((passes_of_skipColon colon).trans (passes_of_readNumber (by decide) group)).trans
          (ih false rest)
      · exact .refl s

theorem passes_of_readV6 {octets : Octets 16} (read : readV6 s = some (octets, rest)) :
    Passes s rest := by
  unfold readV6 at read
  have front := passes_readGroups 8 true s
  generalize readGroups 8 true s = groups at read front
  obtain ⟨groups, v4, after⟩ := groups
  dsimp only at read front
  split at read
  · obtain ⟨_, -, ending⟩ := Option.map_eq_some_iff.mp read
    cases ending
    exact front
  split at read
  · cases read
  · simp only [Option.bind_eq_bind, Option.bind_eq_some_iff] at read
    obtain ⟨t₁, colon₁, t₂, colon₂, ending⟩ := read
    obtain ⟨_, -, ending⟩ := Option.map_eq_some_iff.mp ending
    cases ending
    have colon {s t : List Char} (read : skip ':' s = some t) : Passes s t :=
      passes_of_skip (Or.inr (Or.inr rfl)) read
    exact front.trans ((colon colon₁).trans ((colon colon₂).trans (passes_readGroups _ _ _)))

/-! ## Whole literals -/

theorem isLiteralChar_of_passes_nil (passes : Passes s []) : ∀ c ∈ s, IsLiteralChar c := by
  obtain ⟨used, rfl, literal⟩ := passes
  rw [List.append_nil]
  exact literal

theorem eq_some_of_whole {α : Type} {read : Option (α × List Char)} {a : α}
    (complete : whole read = some a) : read = some (a, []) := by
  unfold whole at complete
  split at complete
  · cases complete
    rfl
  · cases complete

theorem isLiteralChar_of_parseV6 (parsed : (parseV6 s).isSome) : ∀ c ∈ s, IsLiteralChar c := by
  obtain ⟨octets, complete⟩ := Option.isSome_iff_exists.mp parsed
  exact isLiteralChar_of_passes_nil (passes_of_readV6 (eq_some_of_whole complete))

/-- A literal address of either family has characters of literals only. -/
theorem isLiteralChar_of_parse? {text : String} (parsed : (Address.parse? text).isSome) :
    ∀ c ∈ text.toList, IsLiteralChar c := by
  unfold Address.parse? at parsed
  split at parsed
  · next octets v4 => exact isLiteralChar_of_passes_nil (passes_of_readV4 (eq_some_of_whole v4))
  · rw [Option.isSome_map] at parsed
    exact isLiteralChar_of_parseV6 parsed

end NetControl.Net
