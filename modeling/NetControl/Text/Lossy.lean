import NetControl.Bytes

/-!
Reading bytes as UTF-8 when they may not be well formed. Each longest stretch of bytes that begins
a character without completing it, and each byte that begins none, reads as one replacement
character.
-/

namespace NetControl.Text

/-- What follows a lead byte: how many further bytes, the range of the first of them, and the bits
that the lead byte contributes. -/
structure Sequence where
  /-- The number of continuation bytes. -/
  count : Nat
  /-- The least first continuation byte. -/
  low : UInt8
  /-- The greatest first continuation byte. -/
  high : UInt8
  /-- The code point bits of the lead byte. -/
  bits : Nat

/-- The sequence that a byte beyond ASCII begins, if it begins one. The narrowed ranges exclude
overlong forms, surrogates and code points beyond the last. -/
def Sequence.ofLead? (b : UInt8) : Option Sequence :=
  if b < 0xC2 then none
  else if b ≤ 0xDF then some ⟨1, 0x80, 0xBF, b.toNat % 32⟩
  else if b = 0xE0 then some ⟨2, 0xA0, 0xBF, 0⟩
  else if b = 0xED then some ⟨2, 0x80, 0x9F, 13⟩
  else if b ≤ 0xEF then some ⟨2, 0x80, 0xBF, b.toNat % 16⟩
  else if b = 0xF0 then some ⟨3, 0x90, 0xBF, 0⟩
  else if b ≤ 0xF3 then some ⟨3, 0x80, 0xBF, b.toNat % 8⟩
  else if b = 0xF4 then some ⟨3, 0x80, 0x8F, 4⟩
  else none

/-- Stands for bytes that are no character. -/
def replacement : Char := '\uFFFD'

/-- Reads `count` continuation bytes, the first between `low` and `high`. Answers the character, or
the replacement where the sequence breaks off, and the bytes not used. -/
def continuation (count : Nat) (low high : UInt8) (bits : Nat) : Bytes → Char × Bytes
  | [] => (if count = 0 then Char.ofNat bits else replacement, [])
  | b :: after =>
    match count with
    | 0 => (Char.ofNat bits, b :: after)
    | left + 1 =>
      if low ≤ b ∧ b ≤ high then
        continuation left 0x80 0xBF (bits * 64 + b.toNat % 64) after
      else (replacement, b :: after)

theorem continuation_length_le (count : Nat) (low high : UInt8) (bits : Nat) (b : Bytes) :
    (continuation count low high bits b).2.length ≤ b.length := by
  induction b generalizing count low high bits with
  | nil => simp [continuation]
  | cons x rest ih =>
    cases count with
    | zero => simp [continuation]
    | succ left =>
      simp only [continuation]
      split
      · exact Nat.le_trans (ih ..) (by simp)
      · simp

def lossyChars : Bytes → List Char
  | [] => []
  | b :: rest =>
    if b < 0x80 then Char.ofNat b.toNat :: lossyChars rest
    else
      match Sequence.ofLead? b with
      | none => replacement :: lossyChars rest
      | some s =>
        (continuation s.count s.low s.high s.bits rest).1 ::
          lossyChars (continuation s.count s.low s.high s.bits rest).2
termination_by b => b.length
decreasing_by
  · simp
  · simp
  · exact Nat.lt_succ_of_le (continuation_length_le ..)

def lossy (b : Bytes) : String :=
  String.ofList (lossyChars b)

end NetControl.Text
