import NetControl.Bytes

/-!
# Text and its bytes

UTF-8 writes each ASCII character as its own code and uses no such byte for any other character.
`Bytes.mem_ofString_of_ascii` says so: an ASCII byte stands in a text's bytes exactly where its
character stands in the text. Separators and terminators can therefore be looked for in either.
-/

namespace NetControl.Bytes

/-- The bytes of a text are those of its characters, one after the other. -/
theorem ofString_eq_flatMap (s : String) :
    ofString s = s.toList.flatMap String.utf8EncodeChar := by
  unfold ofString
  rw [← String.utf8Encode_toList, List.utf8Encode]
  rw [List.data_toByteArray]

@[simp] theorem ofString_append (s t : String) : ofString (s ++ t) = ofString s ++ ofString t := by
  rw [ofString_eq_flatMap, ofString_eq_flatMap, ofString_eq_flatMap, String.toList_append,
    List.flatMap_append]

@[simp] theorem length_ofString (s : String) : (ofString s).length = s.utf8ByteSize := rfl

/-- A character takes four bytes at most. -/
theorem utf8ByteSize_le (s : String) : s.utf8ByteSize ≤ 4 * s.toList.length := by
  rw [← length_ofString, ofString_eq_flatMap]
  generalize s.toList = characters
  induction characters with
  | nil => exact Nat.le_refl 0
  | cons c rest ih =>
    have size := Char.utf8Size_le_four c
    rw [List.flatMap_cons, List.length_append, String.length_utf8EncodeChar, List.length_cons]
    omega

/-- An ASCII character is written as its code. -/
theorem utf8EncodeChar_of_ascii {c : Char} (ascii : c.toNat < 128) :
    String.utf8EncodeChar c = [UInt8.ofNat c.toNat] := by
  have small : c.val.toNat ≤ 0x7f := Nat.le_of_lt_succ ascii
  simp only [String.utf8EncodeChar, small, if_true]
  rfl

/-- Every other character is written in bytes that are no ASCII codes. -/
theorem le_of_mem_utf8EncodeChar {c : Char} (other : 128 ≤ c.toNat) {b : UInt8}
    (member : b ∈ String.utf8EncodeChar c) : 128 ≤ b.toNat := by
  have high : ¬c.val.toNat ≤ 0x7f := Nat.not_le.mpr other
  simp only [String.utf8EncodeChar, high, if_false] at member
  split at member
  · simp only [List.mem_cons, List.not_mem_nil, or_false] at member
    rcases member with rfl | rfl <;> simp <;> omega
  split at member
  · simp only [List.mem_cons, List.not_mem_nil, or_false] at member
    rcases member with rfl | rfl | rfl <;> simp <;> omega
  · simp only [List.mem_cons, List.not_mem_nil, or_false] at member
    rcases member with rfl | rfl | rfl | rfl <;> simp <;> omega

/-- An ASCII byte stands in the bytes of a text just if its character stands in the text. -/
theorem mem_ofString_of_ascii {s : String} {c : Char} (ascii : c.toNat < 128) :
    UInt8.ofNat c.toNat ∈ ofString s ↔ c ∈ s.toList := by
  rw [ofString_eq_flatMap, List.mem_flatMap]
  constructor
  · rintro ⟨d, inside, member⟩
    by_cases small : d.toNat < 128
    · rw [utf8EncodeChar_of_ascii small, List.mem_singleton] at member
      have codes : c.toNat = d.toNat := by
        have value := congrArg UInt8.toNat member
        rw [UInt8.toNat_ofNat', UInt8.toNat_ofNat'] at value
        omega
      have same : c = d := Char.toNat_inj.mp codes
      rw [same]
      exact inside
    · have large := le_of_mem_utf8EncodeChar (Nat.not_lt.mp small) member
      rw [UInt8.toNat_ofNat'] at large
      omega
  · intro inside
    refine ⟨c, inside, ?_⟩
    rw [utf8EncodeChar_of_ascii ascii]
    exact List.mem_singleton_self _

end NetControl.Bytes
