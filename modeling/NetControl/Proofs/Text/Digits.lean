import Mathlib.Algebra.Group.Nat.Defs
import NetControl.Text.Number

/-!
# Numbers in digits, written and read

The digits of a number are read as the number, with or without zeros before them
(`readDigits?_padded_toDigits`).
-/

namespace NetControl.Text

theorem digitsValue_eq_ofDigitChars (digits : List Char) :
    digitsValue digits = Nat.ofDigitChars 10 digits 0 := by
  unfold digitsValue Nat.ofDigitChars digitValue
  simp only [Nat.mul_comm 10]

theorem isDigit_eq (c : Char) : isDigit c = c.isDigit := by
  unfold isDigit Char.isDigit
  rfl

theorem isDigit_iff {c : Char} : isDigit c = true ↔ 48 ≤ c.toNat ∧ c.toNat ≤ 57 := by
  unfold isDigit
  rw [Bool.and_eq_true, decide_eq_true_iff, decide_eq_true_iff]
  exact and_congr Char.le_def Char.le_def

theorem toNat_lt_of_isDigit {c : Char} (digit : isDigit c = true) : c.toNat < 128 :=
  Nat.lt_of_le_of_lt (isDigit_iff.mp digit).2 (by decide)

theorem isDigit_of_readDigits? {digits : List Char} {n : Nat}
    (read : readDigits? digits = some n) : ∀ c ∈ digits, isDigit c = true := by
  unfold readDigits? at read
  split at read
  · next all => exact List.all_eq_true.mp all.2
  · cases read

theorem length_padded {width : Nat} {digits : List Char} (fits : digits.length ≤ width) :
    (padded width digits).length = width := by
  unfold padded
  rw [List.length_append, List.length_replicate, Nat.sub_add_cancel fits]

/-- The digits of a number are those of its base. -/
theorem exists_digitChar_of_mem_toDigits {b n : Nat} (base : 1 < b) {c : Char}
    (member : c ∈ Nat.toDigits b n) : ∃ d < b, c = Nat.digitChar d := by
  induction n using Nat.strongRecOn with
  | ind n ih =>
    by_cases small : n < b
    · rw [Nat.toDigits_of_lt_base small, List.mem_singleton] at member
      exact ⟨n, small, member⟩
    · have large : b ≤ n := Nat.not_lt.mp small
      rw [Nat.toDigits_of_base_le base large, List.mem_append, List.mem_singleton] at member
      rcases member with front | last
      · exact ih (n / b) (Nat.div_lt_self (by omega) base) front
      · exact ⟨n % b, Nat.mod_lt n (by omega), last⟩

/-- The digits of a number are read as the number, whatever the width they are filled up to. -/
theorem readDigits?_padded_toDigits (width n : Nat) :
    readDigits? (padded width (Nat.toDigits 10 n)) = some n := by
  have present : padded width (Nat.toDigits 10 n) ≠ [] := by
    have some : 0 < (Nat.toDigits 10 n).length := Nat.length_toDigits_pos
    exact List.append_ne_nil_of_right_ne_nil _ (List.ne_nil_of_length_pos some)
  have digits : (padded width (Nat.toDigits 10 n)).all isDigit = true := by
    rw [List.all_eq_true]
    intro c member
    rw [isDigit_eq]
    rcases List.mem_append.mp member with zero | digit
    · rw [List.eq_of_mem_replicate zero]
      rfl
    · exact Nat.isDigit_of_mem_toDigits (by decide) (by decide) digit
  have value : digitsValue (padded width (Nat.toDigits 10 n)) = n := by
    unfold padded
    rw [digitsValue_eq_ofDigitChars, Nat.ofDigitChars_append, Nat.ofDigitChars_replicate_zero,
      Nat.mul_zero, Nat.ofDigitChars_toDigits (by decide) (by decide)]
  unfold readDigits?
  rw [if_pos ⟨present, digits⟩, value]

end NetControl.Text
