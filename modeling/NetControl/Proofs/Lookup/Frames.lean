import Mathlib.Algebra.Group.Nat.Defs
import Mathlib.Data.List.Forall2
import NetControl.Lookup.Wire
import NetControl.Proofs.Except

/-!
# Frames, texts, numbers and lists, read back

A reader answers `a` and the bytes `rest` just if it was given the written form of `a` followed by
`rest`. One such equivalence for each reader says both that nothing written is lost and that
nothing but the written form is accepted, and the readers of whole results are taken apart with
them.

A list is read item by item up to an empty frame, and the three lists of the format differ in their
items alone. `list_eq_ok_iff` is the one induction for all of them; what spells an item is left
open, because an item may have more than one spelling.
-/

namespace NetControl.Lookup

/-! ## Numbers and frames -/

theorem readInt32_eq_ok_iff {b rest : Bytes} {n : Int32} :
    readInt32 b = .ok (n, rest) ↔ b = int32 n ++ rest := by
  constructor
  · intro read
    unfold readInt32 at read
    split at read
    · cases read
      unfold int32
      rw [UInt32.toUInt32_toInt32, Bytes.be32_readBE32]
      rfl
    · cases read
  · rintro rfl
    unfold int32 readInt32 Bytes.be32
    simp only [List.cons_append, List.nil_append, Bytes.readBE32_be32, Int32.toInt32_toUInt32]

theorem readFrame_eq_ok_iff {b data rest : Bytes} :
    readFrame b = .ok (data, rest) ↔ data.length < 2 ^ 32 ∧ b = frame data ++ rest := by
  constructor
  · intro read
    unfold readFrame at read
    split at read
    · next w x y z tail =>
      simp only at read
      split at read
      · cases read
      · next enough =>
        cases read
        have size : (tail.take (Bytes.readBE32 w x y z).toNat).length =
            (Bytes.readBE32 w x y z).toNat := by
          rw [List.length_take]
          omega
        refine ⟨?_, ?_⟩
        · rw [size]
          exact UInt32.toNat_lt _
        · unfold frame
          rw [size, UInt32.ofNat_toNat, Bytes.be32_readBE32, List.append_assoc,
            List.take_append_drop]
          rfl
    · cases read
  · rintro ⟨fits, rfl⟩
    unfold frame Bytes.be32 readFrame
    simp only [List.cons_append, List.nil_append, Bytes.readBE32_be32]
    have size : (UInt32.ofNat data.length).toNat = data.length := UInt32.toNat_ofNat_of_lt' fits
    rw [size, if_neg (by simp), List.take_left, List.drop_left]

/-! ## Texts -/

theorem readText_eq_ok_iff {data : Bytes} {s : String} :
    readText data = .ok s ↔ data = Bytes.ofString s ++ [0] := by
  constructor
  · intro read
    unfold readText at read
    split at read
    · next last =>
      split at read
      · next found =>
        cases read
        rw [Bytes.ofString_of_toString? found]
        obtain ⟨front, rfl⟩ := List.getLast?_eq_some_iff.mp last
        rw [List.dropLast_concat]
      · cases read
    · cases read
  · rintro rfl
    unfold readText
    rw [if_pos List.getLast?_concat, List.dropLast_concat, Bytes.toString?_ofString]

theorem readOption_eq_ok_iff {data : Bytes} {name : Option String} :
    readOption data = .ok name ↔ data = nameData name := by
  unfold readOption
  cases name with
  | none =>
    split
    · next empty => exact ⟨fun _ => empty, fun _ => rfl⟩
    · next present =>
      refine ⟨?_, fun empty => (present empty).elim⟩
      cases readText data with
      | ok s => nofun
      | error e => nofun
  | some s =>
    split
    · next empty =>
      refine ⟨nofun, fun same => ?_⟩
      rw [empty] at same
      exact absurd same.symm (List.append_ne_nil_of_right_ne_nil _ (List.cons_ne_nil _ _))
    · rw [nameData, ← readText_eq_ok_iff]
      cases readText data with
      | ok s => simp [Except.map]
      | error e => simp [Except.map]

theorem optionFrame_eq_frame (name : Option String) : optionFrame name = frame (nameData name) := by
  cases name with
  | none => rfl
  | some s => rfl

/-! ## Lists -/

section Lists

variable {α : Type}

/-- One step of a reader that collects items up to an empty frame. -/
def listStep (item : Bytes → Bytes → Decoded α) (more : Bytes → Decoded (List α)) (b : Bytes) :
    Decoded (List α) :=
  match readFrame b with
  | .error e => .error e
  | .ok (data, rest) =>
    if data = [] then .ok ([], rest)
    else
      match item data rest with
      | .error e => .error e
      | .ok (a, rest) => (more rest).map fun (found, last) => (a :: found, last)

variable {item : Bytes → Bytes → Decoded α} {more : Bytes → Decoded (List α)} {b r : Bytes}

theorem listStep_of_error {e : DecodeError} (read : readFrame b = .error e) :
    listStep item more b = .error e := by
  rw [listStep, read]

theorem listStep_of_end {rest : Bytes} (read : readFrame b = .ok ([], rest)) :
    listStep item more b = .ok ([], rest) := by
  rw [listStep, read]
  rfl

theorem listStep_of_item {data rest : Bytes} (read : readFrame b = .ok (data, rest))
    (present : data ≠ []) :
    listStep item more b =
      match item data rest with
      | .error e => .error e
      | .ok (a, rest) => (more rest).map fun (found, last) => (a :: found, last) := by
  rw [listStep, read]
  exact if_neg present

theorem readFrame_end : readFrame (endFrame ++ r) = .ok ([], r) :=
  readFrame_eq_ok_iff.mpr ⟨by decide, rfl⟩

theorem readFrame_cases (b : Bytes) :
    (∃ e, readFrame b = .error e) ∨ (∃ rest, readFrame b = .ok ([], rest)) ∨
      ∃ data rest, readFrame b = .ok (data, rest) ∧ data ≠ [] := by
  cases readFrame b with
  | error e => exact Or.inl ⟨e, rfl⟩
  | ok one =>
    obtain ⟨data, rest⟩ := one
    cases data with
    | nil => exact Or.inr (Or.inl ⟨rest, rfl⟩)
    | cons x data => exact Or.inr (Or.inr ⟨_, rest, rfl, List.cons_ne_nil x data⟩)

theorem listStep_eq_ok_nil_iff : listStep item more b = .ok ([], r) ↔ b = endFrame ++ r := by
  constructor
  · intro step
    rcases readFrame_cases b with ⟨e, read⟩ | ⟨rest, read⟩ | ⟨data, tail, read, present⟩
    · rw [listStep_of_error read] at step
      cases step
    · rw [listStep_of_end read] at step
      cases step
      exact (readFrame_eq_ok_iff.mp read).2
    · rw [listStep_of_item read present] at step
      split at step
      · cases step
      · obtain ⟨_, _, impossible⟩ := map_eq_ok.mp step
        cases impossible
  · rintro rfl
    exact listStep_of_end readFrame_end

theorem listStep_eq_ok_cons_iff {a : α} {found : List α} :
    listStep item more b = .ok (a :: found, r) ↔
      ∃ data tail rest, (readFrame b = .ok (data, tail) ∧ data ≠ [] ∧
        item data tail = .ok (a, rest)) ∧ more rest = .ok (found, r) := by
  constructor
  · intro step
    rcases readFrame_cases b with ⟨e, read⟩ | ⟨rest, read⟩ | ⟨data, tail, read, present⟩
    · rw [listStep_of_error read] at step
      cases step
    · rw [listStep_of_end read] at step
      cases step
    · rw [listStep_of_item read present] at step
      split at step
      · cases step
      · next a' rest one =>
        obtain ⟨⟨found', last⟩, others, same⟩ := map_eq_ok.mp step
        cases same
        exact ⟨data, tail, rest, ⟨read, present, one⟩, others⟩
  · rintro ⟨data, tail, rest, ⟨read, present, one⟩, others⟩
    rw [listStep_of_item read present, one]
    exact map_eq_ok.mpr ⟨_, others, rfl⟩

/-- `item` reads `a` just off the bytes that spell it, the first frame of which is not empty. -/
def ReadsItem (item : Bytes → Bytes → Decoded α) (Spells : α → Bytes → Prop) : Prop :=
  ∀ b a rest, (∃ data tail, readFrame b = .ok (data, tail) ∧ data ≠ [] ∧
    item data tail = .ok (a, rest)) ↔ ∃ w, Spells a w ∧ b = w ++ rest

variable {list : Bytes → Decoded (List α)} {Spells : α → Bytes → Prop}

/-- A reader of a list answers it just off spellings of its items, closed by an empty frame. -/
theorem list_eq_ok_iff (unfolds : ∀ b, list b = listStep item list b)
    (reads : ReadsItem item Spells) {found : List α} :
    list b = .ok (found, r) ↔
      ∃ ws, List.Forall₂ Spells found ws ∧ b = ws.flatten ++ endFrame ++ r := by
  induction found generalizing b with
  | nil =>
    rw [unfolds, listStep_eq_ok_nil_iff]
    constructor
    · rintro rfl
      exact ⟨[], .nil, rfl⟩
    · rintro ⟨ws, spelled, rfl⟩
      cases spelled
      rfl
  | cons a found ih =>
    rw [unfolds, listStep_eq_ok_cons_iff]
    constructor
    · rintro ⟨data, tail, rest, one, others⟩
      obtain ⟨w, spells, rfl⟩ := (reads b a rest).mp ⟨data, tail, one⟩
      obtain ⟨ws, spelled, rfl⟩ := ih.mp others
      exact ⟨w :: ws, .cons spells spelled, by simp only [List.flatten_cons, List.append_assoc]⟩
    · rintro ⟨_, spelled, rfl⟩
      cases spelled with
      | @cons _ w _ ws spells spelled =>
        have split : (w :: ws).flatten ++ endFrame ++ r = w ++ (ws.flatten ++ endFrame ++ r) := by
          simp only [List.flatten_cons, List.append_assoc]
        obtain ⟨data, tail, one⟩ := (reads _ a _).mpr ⟨w, spells, split⟩
        exact ⟨data, tail, _, one, ih.mpr ⟨ws, spelled, rfl⟩⟩

/-- Items with one spelling each. -/
theorem forall₂_spelled_iff {P : α → Prop} {write : α → Bytes} {found : List α} {ws : List Bytes} :
    List.Forall₂ (fun a w => P a ∧ write a = w) found ws ↔
      (∀ a ∈ found, P a) ∧ found.map write = ws := by
  rw [List.forall₂_and_left, ← List.forall₂_map_left_iff (R := Eq), List.forall₂_eq_eq_eq]

end Lists

end NetControl.Lookup
