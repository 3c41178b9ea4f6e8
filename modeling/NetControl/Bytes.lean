/-!
Byte strings, fixed-width numbers inside them, and text as UTF-8.

A number is written most significant byte first (`be`) or least significant byte first (`le`), and
reading inverts writing.
-/

namespace NetControl

/-- A byte string. -/
abbrev Bytes := List UInt8

namespace Bytes

/-- The four bytes of `n`, most significant first. -/
def be32 (n : UInt32) : Bytes :=
  [UInt8.ofNat (n.toNat / 16777216), UInt8.ofNat (n.toNat / 65536),
    UInt8.ofNat (n.toNat / 256), UInt8.ofNat n.toNat]

/-- The four bytes of `n`, least significant first. -/
def le32 (n : UInt32) : Bytes :=
  (be32 n).reverse

/-- The two bytes of `n`, most significant first. -/
def be16 (n : UInt16) : Bytes :=
  [UInt8.ofNat (n.toNat / 256), UInt8.ofNat n.toNat]

/-- The two bytes of `n`, least significant first. -/
def le16 (n : UInt16) : Bytes :=
  (be16 n).reverse

/-- The number whose bytes, most significant first, are `a b c d`. -/
def readBE32 (a b c d : UInt8) : UInt32 :=
  UInt32.ofNat (a.toNat * 16777216 + b.toNat * 65536 + c.toNat * 256 + d.toNat)

/-- The number whose bytes, most significant first, are `a b`. -/
def readBE16 (a b : UInt8) : UInt16 :=
  UInt16.ofNat (a.toNat * 256 + b.toNat)

theorem readBE32_be32 (n : UInt32) :
    readBE32 (UInt8.ofNat (n.toNat / 16777216)) (UInt8.ofNat (n.toNat / 65536))
      (UInt8.ofNat (n.toNat / 256)) (UInt8.ofNat n.toNat) = n := by
  have small := n.toNat_lt
  apply UInt32.toNat_inj.mp
  simp only [readBE32, UInt32.toNat_ofNat', UInt8.toNat_ofNat']
  omega

theorem readBE16_be16 (n : UInt16) :
    readBE16 (UInt8.ofNat (n.toNat / 256)) (UInt8.ofNat n.toNat) = n := by
  have small := n.toNat_lt
  apply UInt16.toNat_inj.mp
  simp only [readBE16, UInt16.toNat_ofNat', UInt8.toNat_ofNat']
  omega

theorem ofNat_eq_of_mod {n : Nat} {x : UInt8} (low : n % 256 = x.toNat) : UInt8.ofNat n = x := by
  apply UInt8.toNat_inj.mp
  rw [UInt8.toNat_ofNat', low]

theorem be32_readBE32 (a b c d : UInt8) : be32 (readBE32 a b c d) = [a, b, c, d] := by
  have ha := a.toNat_lt
  have hb := b.toNat_lt
  have hc := c.toNat_lt
  have hd := d.toNat_lt
  have value : (readBE32 a b c d).toNat =
      a.toNat * 16777216 + b.toNat * 65536 + c.toNat * 256 + d.toNat := by
    rw [readBE32, UInt32.toNat_ofNat']
    omega
  rw [be32, value, ofNat_eq_of_mod (x := a) (by omega), ofNat_eq_of_mod (x := b) (by omega),
    ofNat_eq_of_mod (x := c) (by omega), ofNat_eq_of_mod (x := d) (by omega)]

theorem be16_readBE16 (a b : UInt8) : be16 (readBE16 a b) = [a, b] := by
  have ha := a.toNat_lt
  have hb := b.toNat_lt
  have value : (readBE16 a b).toNat = a.toNat * 256 + b.toNat := by
    rw [readBE16, UInt16.toNat_ofNat']
    omega
  rw [be16, value, ofNat_eq_of_mod (x := a) (by omega), ofNat_eq_of_mod (x := b) (by omega)]

@[simp] theorem length_be32 (n : UInt32) : (be32 n).length = 4 := rfl

@[simp] theorem length_le32 (n : UInt32) : (le32 n).length = 4 := rfl

@[simp] theorem length_be16 (n : UInt16) : (be16 n).length = 2 := rfl

@[simp] theorem length_le16 (n : UInt16) : (le16 n).length = 2 := rfl

/-- The UTF-8 bytes of a text. -/
def ofString (s : String) : Bytes :=
  s.toByteArray.data.toList

/-- The text whose UTF-8 bytes these are, if they are well formed. -/
def toString? (b : Bytes) : Option String :=
  String.fromUTF8? ⟨b.toArray⟩

@[simp] theorem toString?_ofString (s : String) : toString? (ofString s) = some s := by
  simp [toString?, ofString, String.fromUTF8?, String.fromUTF8, s.isValidUTF8]

theorem ofString_of_toString? {b : Bytes} {s : String} (read : toString? b = some s) :
    ofString s = b := by
  simp only [toString?, String.fromUTF8?] at read
  split at read
  · cases read
    simp [ofString, String.fromUTF8]
  · cases read

/-- Two lower-case hexadecimal digits for each byte. -/
def toHex (b : Bytes) : String :=
  String.ofList (b.flatMap fun x => [Nat.digitChar (x.toNat / 16), Nat.digitChar (x.toNat % 16)])

end Bytes

end NetControl
