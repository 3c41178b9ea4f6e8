import Mathlib.Algebra.Group.Nat.Defs
import NetControl.Command.Line
import NetControl.Proofs.Except
import NetControl.Proofs.Text.Utf8
import NetControl.Text.Lossy
import NetControl.Text.Number

/-!
# Texts without a NUL

A NUL ends requests, responses and frames, so that what stands in them must have none. A plain text
has none. What bytes without a NUL read as is plain (`isPlain_lossy`), whether or not they are well
formed, and so are the arguments of a plain line (`isPlain_of_parse`).
-/

namespace NetControl.Text

/-- The text has no NUL. -/
def IsPlain (s : String) : Prop :=
  '\x00' ∉ s.toList

variable {s t : String} {b : Bytes}

theorem not_mem_ofString_iff : 0 ∉ Bytes.ofString s ↔ IsPlain s :=
  not_congr (Bytes.mem_ofString_of_ascii (c := '\x00') (by decide))

-- The bytes of a fixed text are found faster than its characters.
instance (s : String) : Decidable (IsPlain s) :=
  decidable_of_iff (0 ∉ Bytes.ofString s) not_mem_ofString_iff

theorem isPlain_append : IsPlain (s ++ t) ↔ IsPlain s ∧ IsPlain t := by
  unfold IsPlain
  rw [String.toList_append, List.mem_append, not_or]

/-! ## Numbers -/

theorem isPlain_toDigits (n : Nat) : '\x00' ∉ Nat.toDigits 10 n := by
  intro inside
  have digit := Nat.isDigit_of_mem_toDigits (by decide) (by decide) inside
  cases digit

theorem isPlain_decimal (n : Int) : IsPlain (decimal n) := by
  have natural (k : Nat) : IsPlain k.repr := by
    unfold IsPlain
    rw [Nat.toList_repr]
    exact isPlain_toDigits k
  unfold decimal
  rw [Int.toString_eq_repr, Int.repr_eq_if]
  split
  · exact natural _
  · exact isPlain_append.mpr ⟨by decide, natural _⟩

/-! ## Bytes read as text -/

/-- The code point that a complete sequence of continuation bytes leads to begins with the bits that
were there before. -/
theorem continuation_eq (count bits : Nat) (b : Bytes) :
    (continuation count 0x80 0xBF bits b).1 = replacement ∨
      ∃ m, (continuation count 0x80 0xBF bits b).1 = Char.ofNat m ∧
        bits * 64 ^ count ≤ m ∧ m < (bits + 1) * 64 ^ count := by
  induction count generalizing bits b with
  | zero =>
    refine Or.inr ⟨bits, ?_, by omega, by omega⟩
    cases b <;> rfl
  | succ left ih =>
    cases b with
    | nil => exact Or.inl rfl
    | cons x after =>
      unfold continuation
      dsimp only
      split
      · rcases ih (bits * 64 + x.toNat % 64) after with broken | ⟨m, complete, low, high⟩
        · exact Or.inl broken
        · have small : x.toNat % 64 < 64 := Nat.mod_lt _ (by decide)
          have power : 64 ^ (left + 1) = 64 * 64 ^ left := Nat.pow_succ'
          refine Or.inr ⟨m, complete, ?_, ?_⟩
          · calc
              bits * 64 ^ (left + 1) = bits * 64 * 64 ^ left := by rw [power, Nat.mul_assoc]
              _ ≤ (bits * 64 + x.toNat % 64) * 64 ^ left :=
                Nat.mul_le_mul_right _ (Nat.le_add_right _ _)
              _ ≤ m := low
          · calc
              m < (bits * 64 + x.toNat % 64 + 1) * 64 ^ left := high
              _ ≤ ((bits + 1) * 64) * 64 ^ left := Nat.mul_le_mul_right _ (by omega)
              _ = (bits + 1) * 64 ^ (left + 1) := by rw [power, Nat.mul_assoc]
      · exact Or.inl rfl

/-- A number that is the code of a character other than NUL. -/
def IsCode (m : Nat) : Prop :=
  0 < m ∧ (m < 0xD800 ∨ 0xDFFF < m ∧ m < 0x110000)

theorem ofNat_ne_nul {m : Nat} (code : IsCode m) : Char.ofNat m ≠ '\x00' := by
  intro nul
  have valid : m.isValidChar := by
    unfold IsCode at code
    unfold Nat.isValidChar
    omega
  have value : (Char.ofNat m).toNat = m := by
    unfold Char.ofNat
    rw [dif_pos valid]
    rfl
  rw [nul] at value
  have zero : m = 0 := value.symm
  exact Nat.ne_of_gt code.1 zero

/-- With the ranges that a lead byte allows, what follows it can only lead to a code. -/
theorem isCode_of_ofLead? {lead : UInt8} {sequence : Sequence}
    (begins : Sequence.ofLead? lead = some sequence) :
    ∃ left, sequence.count = left + 1 ∧ ∀ x, sequence.low ≤ x → x ≤ sequence.high →
      ∀ m, (sequence.bits * 64 + x.toNat % 64) * 64 ^ left ≤ m →
        m < (sequence.bits * 64 + x.toNat % 64 + 1) * 64 ^ left → IsCode m := by
  unfold Sequence.ofLead? at begins
  unfold IsCode
  simp only [UInt8.lt_iff_toNat_lt, UInt8.le_iff_toNat_le, UInt8.reduceToNat, ← UInt8.toNat_inj]
    at begins
  -- Every range of lead bytes has its own range of codes; the arithmetic is the same in each.
  repeat' split at begins
  all_goals cases begins
  all_goals
    refine ⟨_, rfl, fun x least most m low high => ?_⟩
    simp only [UInt8.le_iff_toNat_le, UInt8.reduceToNat, Nat.reducePow] at least most low high
    omega

theorem replacement_ne_nul : replacement ≠ '\x00' := by decide

/-- No sequence of bytes beyond ASCII reads as a NUL. -/
theorem continuation_ne_nul {lead : UInt8} {sequence : Sequence}
    (begins : Sequence.ofLead? lead = some sequence) (rest : Bytes) :
    (continuation sequence.count sequence.low sequence.high sequence.bits rest).1 ≠ '\x00' := by
  obtain ⟨left, count, codes⟩ := isCode_of_ofLead? begins
  rw [count]
  cases rest with
  | nil => exact replacement_ne_nul
  | cons x after =>
    unfold continuation
    dsimp only
    split
    · next within =>
      rcases continuation_eq left (sequence.bits * 64 + x.toNat % 64) after with
        broken | ⟨m, complete, low, high⟩
      · rw [broken]
        exact replacement_ne_nul
      · rw [complete]
        exact ofNat_ne_nul (codes x within.1 within.2 m low high)
    · exact replacement_ne_nul

theorem continuation_suffix (count : Nat) (low high : UInt8) (bits : Nat) (b : Bytes) :
    (continuation count low high bits b).2 <:+ b := by
  induction b generalizing count low high bits with
  | nil =>
    unfold continuation
    exact List.suffix_rfl
  | cons x after ih =>
    cases count with
    | zero => exact List.suffix_rfl
    | succ left =>
      unfold continuation
      dsimp only
      split
      · exact (ih ..).trans (List.suffix_cons x after)
      · exact List.suffix_rfl

theorem not_mem_lossyChars (unbroken : 0 ∉ b) : '\x00' ∉ lossyChars b := by
  induction b using lossyChars.induct with
  | case1 => simp [lossyChars]
  | case2 x rest ascii ih =>
    rw [List.mem_cons, not_or] at unbroken
    have code : IsCode x.toNat := by
      have positive : x.toNat ≠ 0 := fun zero => unbroken.1 (UInt8.toNat_inj.mp zero).symm
      have small : x.toNat < 128 := UInt8.lt_iff_toNat_lt.mp ascii
      unfold IsCode
      omega
    rw [lossyChars, if_pos ascii, List.mem_cons, not_or]
    exact ⟨(ofNat_ne_nul code).symm, ih unbroken.2⟩
  | case3 x rest high none ih =>
    rw [List.mem_cons, not_or] at unbroken
    rw [lossyChars, if_neg high, none, List.mem_cons, not_or]
    exact ⟨replacement_ne_nul.symm, ih unbroken.2⟩
  | case4 x rest high sequence begins ih =>
    rw [List.mem_cons, not_or] at unbroken
    rw [lossyChars, if_neg high, begins, List.mem_cons, not_or]
    refine ⟨(continuation_ne_nul begins rest).symm, ih fun inside => unbroken.2 ?_⟩
    exact (continuation_suffix ..).subset inside

/-- What bytes without a NUL read as is plain. -/
theorem isPlain_lossy (unbroken : 0 ∉ b) : IsPlain (lossy b) := by
  unfold IsPlain lossy
  rw [String.toList_ofList]
  exact not_mem_lossyChars unbroken

/-! ## Arguments -/

open Command

theorem mem_extend {c d : Char} {fields : List (List Char)} {field : List Char}
    (member : field ∈ Line.extend c fields) (inside : d ∈ field) :
    d = c ∨ ∃ field ∈ fields, d ∈ field := by
  cases fields with
  | nil =>
    rw [Line.extend, List.mem_singleton] at member
    subst member
    exact Or.inl (List.mem_singleton.mp inside)
  | cons first rest =>
    rcases List.mem_cons.mp member with rfl | later
    · rcases List.mem_cons.mp inside with same | old
      · exact Or.inl same
      · exact Or.inr ⟨first, List.mem_cons_self, old⟩
    · exact Or.inr ⟨field, List.mem_cons_of_mem _ later, inside⟩

/-- The fields of a line hold no character that the line does not have. -/
theorem mem_of_mem_fields {quoted : Bool} {line : List Char} {fields : List (List Char)}
    (read : Line.fields quoted line = .ok fields) :
    ∀ field ∈ fields, ∀ c ∈ field, c ∈ line := by
  -- A character of the rest of the line is one of the line.
  have later {c : Char} {rest : List Char} {rests : List (List Char)}
      (ih : ∀ field ∈ rests, ∀ d ∈ field, d ∈ rest) :
      ∀ field ∈ Line.extend c rests, ∀ d ∈ field, d ∈ c :: rest := by
    intro field member d inside
    rcases mem_extend member inside with same | ⟨old, oldMember, oldInside⟩
    · exact same ▸ List.mem_cons_self
    · exact List.mem_cons_of_mem c (ih old oldMember d oldInside)
  induction quoted, line using Line.fields.induct generalizing fields with
  | case1 => cases read
  | case2 =>
    cases read
    simp
  | case3 quoted => cases quoted <;> cases read
  | case4 quoted c rest escaped ih =>
    rw [Line.fields, if_pos escaped] at read
    obtain ⟨rests, readRest, rfl⟩ := map_eq_ok.mp read
    intro field member d inside
    exact List.mem_cons_of_mem _ (later (ih readRest) field member d inside)
  | case5 quoted c rest bad =>
    rw [Line.fields, if_neg bad] at read
    cases read
  | case6 quoted rest ih =>
    rw [Line.fields] at read
    intro field member d inside
    exact List.mem_cons_of_mem _ (ih read field member d inside)
  | case7 quoted c rest plain₁ plain₂ plain₃ blank ih =>
    rw [Line.fields, if_pos blank] at read
    · obtain ⟨rests, readRest, rfl⟩ := map_eq_ok.mp read
      intro field member d inside
      rcases List.mem_cons.mp member with rfl | old
      · cases inside
      · exact List.mem_cons_of_mem _ (ih readRest field old d inside)
    all_goals assumption
  | case8 quoted c rest plain₁ plain₂ plain₃ other ih =>
    rw [Line.fields, if_neg other] at read
    · obtain ⟨rests, readRest, rfl⟩ := map_eq_ok.mp read
      exact later (ih readRest)
    all_goals assumption

/-- The arguments of a plain line are plain. -/
theorem isPlain_of_parse {line : String} {arguments : List String}
    (read : Line.parse line = .ok arguments) (plain : IsPlain line) :
    ∀ argument ∈ arguments, IsPlain argument := by
  obtain ⟨found, trimmed, rfl⟩ := map_eq_ok.mp read
  obtain ⟨fields, split, rfl⟩ := map_eq_ok.mp trimmed
  intro argument member
  obtain ⟨field, inside, rfl⟩ := List.mem_map.mp member
  unfold IsPlain
  rw [String.toList_ofList]
  split at inside
  · cases inside
  · exact fun nul => plain (mem_of_mem_fields split field inside _ nul)

end NetControl.Text
