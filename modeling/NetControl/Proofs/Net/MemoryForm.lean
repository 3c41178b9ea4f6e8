import NetControl.Net.SocketAddress

/-!
# Socket addresses, written and read

An IPv4 socket address has eight unused bytes in memory. They are written as zeros and passed over
when read, so a socket address has many forms, and `bytesWith` names the one with the given bytes
in that place. `ofBytes?_eq_some_iff` says that the reader accepts these forms and no others.
-/

namespace NetControl.Net.SocketAddress

/-- The form in memory with the given bytes in the place of the unused ones. -/
def bytesWith (unused : Octets 8) : SocketAddress → Bytes
  | v4 ip port => Bytes.le16 2 ++ Bytes.be16 port ++ ip.val ++ unused.val
  | v6 ip port flowInfo scope => (v6 ip port flowInfo scope).bytes

/-- Eight zeros. -/
def blank : Octets 8 :=
  ⟨List.replicate 8 0, rfl⟩

theorem bytesWith_blank (a : SocketAddress) : a.bytesWith blank = a.bytes := by
  cases a with
  | v4 ip port => rfl
  | v6 ip port flowInfo scope => rfl

theorem length_bytesWith (unused : Octets 8) (a : SocketAddress) :
    (a.bytesWith unused).length = a.bytes.length := by
  cases a with
  | v4 ip port =>
    simp only [bytesWith, bytes, List.length_append, unused.property, List.length_replicate]
  | v6 ip port flowInfo scope => rfl

theorem length_bytes_le (a : SocketAddress) : a.bytes.length ≤ 28 := by
  cases a with
  | v4 ip port =>
    simp only [bytes, List.length_append, Bytes.length_le16, Bytes.length_be16, ip.property,
      List.length_replicate]
    omega
  | v6 ip port flowInfo scope =>
    simp only [bytes, List.length_append, Bytes.length_le16, Bytes.length_be16, Bytes.length_be32,
      Bytes.length_le32, ip.property]
    omega

theorem ofTail?_eq_some {port : UInt16} {rest : Bytes} {a : SocketAddress}
    (read : ofTail? port rest = some a) : ∃ ip flowInfo scope, a = v6 ip port flowInfo scope ∧
      rest = Bytes.be32 flowInfo ++ ip.val ++ Bytes.le32 scope := by
  unfold ofTail? at read
  split at read
  · next b₀ b₁ b₂ b₃ tail =>
    split at read
    · split at read
      · next w x y z last =>
        cases read
        refine ⟨_, _, _, rfl, ?_⟩
        have scope : Bytes.le32 (Bytes.readBE32 z y x w) = [w, x, y, z] := by
          rw [Bytes.le32, Bytes.be32_readBE32]
          rfl
        rw [scope, Bytes.be32_readBE32, ← last, List.append_assoc, List.take_append_drop]
        rfl
      · cases read
    · cases read
  · cases read

theorem ofTail?_append (ip : Octets 16) (port : UInt16) (flowInfo scope : UInt32) :
    ofTail? port (Bytes.be32 flowInfo ++ ip.val ++ Bytes.le32 scope) =
      some (v6 ip port flowInfo scope) := by
  have size : (ip.val ++ Bytes.le32 scope).length = 20 := by
    rw [List.length_append, ip.property, Bytes.length_le32]
  have front : (ip.val ++ Bytes.le32 scope).take 16 = ip.val := List.take_left' ip.property
  have back : (ip.val ++ Bytes.le32 scope).drop 16 = Bytes.le32 scope := List.drop_left' ip.property
  have form : Bytes.be32 flowInfo ++ ip.val ++ Bytes.le32 scope =
      UInt8.ofNat (flowInfo.toNat / 16777216) :: UInt8.ofNat (flowInfo.toNat / 65536) ::
        UInt8.ofNat (flowInfo.toNat / 256) :: UInt8.ofNat flowInfo.toNat ::
          (ip.val ++ Bytes.le32 scope) := by
    rw [List.append_assoc]
    rfl
  rw [form, ofTail?, dif_pos size]
  split
  · next last =>
    cases back.symm.trans last
    simp only [Bytes.readBE32_be32, front]
  · next other => exact absurd back (other _ _ _ _)

theorem eq_bytesWith_of_ofBytes? {b : Bytes} {a : SocketAddress} (read : ofBytes? b = some a) :
    ∃ unused, b = a.bytesWith unused := by
  unfold ofBytes? at read
  split at read
  · next f₀ f₁ p₀ p₁ rest =>
    have family : Bytes.le16 (Bytes.readBE16 f₁ f₀) = [f₀, f₁] := by
      rw [Bytes.le16, Bytes.be16_readBE16]
      rfl
    simp only at read
    split at read
    · next ipv4 =>
      cases read
      rw [ipv4.1] at family
      refine ⟨⟨rest.drop 4, by rw [List.length_drop, ipv4.2]⟩, ?_⟩
      rw [bytesWith, family, Bytes.be16_readBE16, List.append_assoc, List.take_append_drop]
      rfl
    split at read
    · next ipv6 =>
      obtain ⟨ip, flowInfo, scope, rfl, rfl⟩ := ofTail?_eq_some read
      rw [ipv6] at family
      refine ⟨blank, ?_⟩
      rw [bytesWith, bytes, family, Bytes.be16_readBE16]
      simp only [List.append_assoc, List.cons_append, List.nil_append]
    · cases read
  · cases read

theorem ofBytes?_bytesWith (unused : Octets 8) (a : SocketAddress) :
    ofBytes? (a.bytesWith unused) = some a := by
  cases a with
  | v4 ip port =>
    have size : (ip.val ++ unused.val).length = 12 := by
      rw [List.length_append, ip.property, unused.property]
    have front : (ip.val ++ unused.val).take 4 = ip.val := List.take_left' ip.property
    have form : (v4 ip port).bytesWith unused = UInt8.ofNat 2 :: UInt8.ofNat 0 ::
        UInt8.ofNat (port.toNat / 256) :: UInt8.ofNat port.toNat :: (ip.val ++ unused.val) := by
      rw [bytesWith, List.append_assoc]
      rfl
    have family : Bytes.readBE16 (UInt8.ofNat 0) (UInt8.ofNat 2) = 2 := rfl
    rw [form, ofBytes?]
    simp only [family, size, Bytes.readBE16_be16, front, and_self, dif_pos]
  | v6 ip port flowInfo scope =>
    have form : (v6 ip port flowInfo scope).bytesWith unused = UInt8.ofNat 10 :: UInt8.ofNat 0 ::
        UInt8.ofNat (port.toNat / 256) :: UInt8.ofNat port.toNat ::
          (Bytes.be32 flowInfo ++ ip.val ++ Bytes.le32 scope) := by
      rw [bytesWith, bytes]
      simp only [List.append_assoc]
      rfl
    have family : Bytes.readBE16 (UInt8.ofNat 0) (UInt8.ofNat 10) = 10 := rfl
    have other : (10 : UInt16) ≠ 2 := by decide
    rw [form, ofBytes?]
    simp only [family, Bytes.readBE16_be16, other, false_and, dif_neg, not_false_iff, if_true,
      ofTail?_append]

/-- A socket address is read off its form in memory and off no other bytes, whatever the unused
bytes hold. -/
theorem ofBytes?_eq_some_iff {b : Bytes} {a : SocketAddress} :
    ofBytes? b = some a ↔ ∃ unused, b = a.bytesWith unused := by
  constructor
  · exact eq_bytesWith_of_ofBytes?
  · rintro ⟨unused, rfl⟩
    exact ofBytes?_bytesWith unused a

end NetControl.Net.SocketAddress
