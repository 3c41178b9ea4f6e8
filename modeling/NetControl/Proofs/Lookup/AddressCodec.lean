import NetControl.Proofs.Lookup.HostCodec
import NetControl.Proofs.Net.MemoryForm

/-!
# Lists of addresses, written and read

An address is written as three frames: its header, its socket address in memory, and its name. The
header gives the size of the socket address, and the reader compares it with the frame.
`decodeAddresses_eq_ok_iff` says that the reader accepts the encodings of addresses and nothing
else, where the unused bytes of IPv4 socket addresses may hold anything: `AddressInfo.Spelled`
names the forms of one address.
-/

namespace NetControl.Lookup

open Net

theorem length_int32 (n : Int32) : (int32 n).length = 4 := rfl

theorem readHeader_eq_ok_iff {data : Bytes} {h : Hints} {size : Int32} :
    readHeader data = .ok (h, size) ↔
      data = int32 h.flags ++ int32 h.family ++ int32 h.socketType ++ int32 h.protocol
        ++ int32 size := by
  obtain ⟨flags, family, socketType, protocol⟩ := h
  unfold readHeader
  constructor
  · intro read
    split at read
    · next length =>
      obtain ⟨⟨_, b₁⟩, first, read⟩ := bind_eq_ok.mp read
      obtain ⟨⟨_, b₂⟩, second, read⟩ := bind_eq_ok.mp read
      obtain ⟨⟨_, b₃⟩, third, read⟩ := bind_eq_ok.mp read
      obtain ⟨⟨_, b₄⟩, fourth, read⟩ := bind_eq_ok.mp read
      obtain ⟨⟨_, b₅⟩, fifth, read⟩ := bind_eq_ok.mp read
      cases read
      obtain rfl := readInt32_eq_ok_iff.mp first
      obtain rfl := readInt32_eq_ok_iff.mp second
      obtain rfl := readInt32_eq_ok_iff.mp third
      obtain rfl := readInt32_eq_ok_iff.mp fourth
      obtain rfl := readInt32_eq_ok_iff.mp fifth
      simp only [List.length_append, length_int32] at length
      have ended : b₅ = [] := List.eq_nil_of_length_eq_zero (by omega)
      rw [ended, List.append_nil]
      simp only [List.append_assoc]
    · cases read
  · rintro rfl
    simp only [List.append_assoc]
    rw [if_pos (by simp only [List.length_append, length_int32])]
    refine bind_eq_ok.mpr ⟨_, readInt32_eq_ok_iff.mpr rfl, ?_⟩
    refine bind_eq_ok.mpr ⟨_, readInt32_eq_ok_iff.mpr rfl, ?_⟩
    refine bind_eq_ok.mpr ⟨_, readInt32_eq_ok_iff.mpr rfl, ?_⟩
    refine bind_eq_ok.mpr ⟨_, readInt32_eq_ok_iff.mpr rfl, ?_⟩
    refine bind_eq_ok.mpr ⟨(size, []), readInt32_eq_ok_iff.mpr (List.append_nil _).symm, ?_⟩
    rfl

theorem readSocketAddress_eq_ok_iff {size : Int32} {data : Bytes} {a : SocketAddress} :
    readSocketAddress size data = .ok a ↔
      Int32.ofNat a.bytes.length = size ∧ ∃ unused, data = a.bytesWith unused := by
  unfold readSocketAddress
  constructor
  · intro read
    split at read
    · cases read
    next same =>
    split at read
    · next found =>
      cases read
      obtain ⟨unused, rfl⟩ := SocketAddress.ofBytes?_eq_some_iff.mp found
      rw [not_not, SocketAddress.length_bytesWith] at same
      exact ⟨same, unused, rfl⟩
    · cases read
  · rintro ⟨same, unused, rfl⟩
    rw [SocketAddress.length_bytesWith, if_neg (not_not.mpr same),
      SocketAddress.ofBytes?_bytesWith]

/-- One address of a list, with the given bytes in the unused place of its socket address. -/
def AddressInfo.encodeWith (unused : Octets 8) (a : AddressInfo) : Bytes :=
  frame a.header ++ frame (a.address.bytesWith unused) ++ optionFrame a.canonicalName

theorem AddressInfo.encodeWith_blank (a : AddressInfo) :
    a.encodeWith SocketAddress.blank = a.encode := by
  rw [encodeWith, encode, SocketAddress.bytesWith_blank]

/-- The bytes spell the address: they are its encoding, but for the unused bytes of its socket
address. -/
def AddressInfo.Spelled (a : AddressInfo) (w : Bytes) : Prop :=
  ∃ unused, w = a.encodeWith unused

/-- Reads one address whose header is the given frame. -/
def takeInfo (data rest : Bytes) : Except DecodeError (AddressInfo × Bytes) := do
  let (h, size) ← readHeader data
  readInfo h size rest

theorem decodeAddresses_unfolds (b : Bytes) :
    decodeAddresses b = listStep takeInfo decodeAddresses b := by
  rw [decodeAddresses]
  split
  · next read => rw [listStep_of_error read]
  · next data rest read =>
    by_cases empty : data = []
    · rw [if_pos empty]
      rw [empty] at read
      rw [listStep_of_end read]
    · rw [if_neg empty, listStep_of_item read empty, takeInfo]
      cases readHeader data with
      | error e => rfl
      | ok header =>
        obtain ⟨h, size⟩ := header
        have taken : (do
            let (h, size) ← Except.ok (h, size)
            readInfo h size rest) = readInfo h size rest := rfl
        rw [taken]
        simp only
        split
        · next failed => rw [failed]
        · next a rest' info => rw [info]

theorem length_header (a : AddressInfo) : a.header.length = 20 := rfl

theorem readsItem_info :
    ReadsItem takeInfo fun a w => (∀ s ∈ a.canonicalName, TextFits s) ∧ a.Spelled w := by
  intro b a rest
  constructor
  · rintro ⟨data, tail, read, -, item⟩
    obtain ⟨⟨h, size⟩, header, item⟩ := bind_eq_ok.mp item
    obtain ⟨⟨memory, b₁⟩, first, item⟩ := bind_eq_ok.mp item
    obtain ⟨address, found, item⟩ := bind_eq_ok.mp item
    obtain ⟨⟨name, b₂⟩, second, item⟩ := bind_eq_ok.mp item
    obtain ⟨canonicalName, named, item⟩ := bind_eq_ok.mp item
    cases item
    obtain rfl := readHeader_eq_ok_iff.mp header
    obtain ⟨rfl, unused, rfl⟩ := readSocketAddress_eq_ok_iff.mp found
    obtain rfl := readOption_eq_ok_iff.mp named
    obtain ⟨short, rfl⟩ := readFrame_eq_ok_iff.mp second
    obtain ⟨-, rfl⟩ := readFrame_eq_ok_iff.mp first
    obtain ⟨-, rfl⟩ := readFrame_eq_ok_iff.mp read
    refine ⟨_, ⟨length_nameData_lt_iff.mp short, unused, rfl⟩, ?_⟩
    simp only [AddressInfo.encodeWith, AddressInfo.header, optionFrame_eq_frame, List.append_assoc]
  · rintro ⟨_, ⟨short, unused, rfl⟩, rfl⟩
    have header : readHeader a.header = .ok
        (⟨a.flags, a.family, a.socketType, a.protocol⟩, Int32.ofNat a.address.bytes.length) :=
      readHeader_eq_ok_iff.mpr rfl
    have memory : (a.address.bytesWith unused).length < 2 ^ 32 := by
      have bound := SocketAddress.length_bytes_le a.address
      rw [SocketAddress.length_bytesWith]
      omega
    simp only [AddressInfo.encodeWith, optionFrame_eq_frame, List.append_assoc]
    refine ⟨a.header, _, readFrame_eq_ok_iff.mpr ⟨by rw [length_header]; omega, rfl⟩, ?_, ?_⟩
    · exact List.ne_nil_of_length_pos (by rw [length_header]; omega)
    refine bind_eq_ok.mpr ⟨_, header, ?_⟩
    refine bind_eq_ok.mpr ⟨_, readFrame_eq_ok_iff.mpr ⟨memory, rfl⟩, ?_⟩
    refine bind_eq_ok.mpr ⟨_, readSocketAddress_eq_ok_iff.mpr ⟨rfl, unused, rfl⟩, ?_⟩
    refine bind_eq_ok.mpr
      ⟨_, readFrame_eq_ok_iff.mpr ⟨length_nameData_lt_iff.mpr short, rfl⟩, ?_⟩
    exact bind_eq_ok.mpr ⟨_, readOption_eq_ok_iff.mpr rfl, rfl⟩

theorem decodeAddresses_eq_ok_iff {b r : Bytes} {found : List AddressInfo} :
    decodeAddresses b = .ok (found, r) ↔
      (∀ a ∈ found, ∀ s ∈ a.canonicalName, TextFits s) ∧
        ∃ ws, List.Forall₂ AddressInfo.Spelled found ws ∧ b = ws.flatten ++ endFrame ++ r := by
  rw [list_eq_ok_iff decodeAddresses_unfolds readsItem_info]
  simp only [List.forall₂_and_left, and_assoc, exists_and_left]

theorem forall₂_spelled_encode (found : List AddressInfo) :
    List.Forall₂ AddressInfo.Spelled found (found.map AddressInfo.encode) := by
  rw [List.forall₂_map_right_iff, List.forall₂_same]
  exact fun a _ => ⟨SocketAddress.blank, a.encodeWith_blank.symm⟩

/-- Addresses are read back, and what follows them is left. -/
theorem decodeAddresses_encode {found : List AddressInfo}
    (short : ∀ a ∈ found, ∀ s ∈ a.canonicalName, TextFits s) (r : Bytes) :
    decodeAddresses (encodeAddresses found ++ r) = .ok (found, r) := by
  refine decodeAddresses_eq_ok_iff.mpr ⟨short, _, forall₂_spelled_encode found, ?_⟩
  rw [encodeAddresses, List.flatMap]

/-- What is written for addresses is the code of a result and a list that is read as these
addresses, whatever follows it. Where bytes are read as addresses at all, they are what is written
for them, but for the unused bytes of IPv4 socket addresses. -/
theorem addresses_written_and_read :
    (∀ found : List AddressInfo, (∀ a ∈ found, ∀ s ∈ a.canonicalName, TextFits s) → ∀ r,
        (Answer.addresses found).encode = Bytes.ofString "222" ++ [0] ++ encodeAddresses found ∧
          decodeAddresses (encodeAddresses found ++ r) = .ok (found, r)) ∧
      ∀ (b r : Bytes) (found : List AddressInfo), decodeAddresses b = .ok (found, r) →
        ∃ ws, List.Forall₂ AddressInfo.Spelled found ws ∧ b = ws.flatten ++ endFrame ++ r := by
  refine ⟨fun found short r => ⟨?_, ?_⟩, fun b r found read => ?_⟩
  · rw [Answer.encode, encodeCode_lookupResult]
  · refine decodeAddresses_eq_ok_iff.mpr ⟨short, _, forall₂_spelled_encode found, ?_⟩
    rw [encodeAddresses, List.flatMap]
  · exact (decodeAddresses_eq_ok_iff.mp read).2

/-- An IPv4 address without a name, and an IPv6 address with an empty one. -/
def twoAddresses : List AddressInfo :=
  [⟨0, afInet, 1, 6, .v4 ⟨[192, 0, 2, 7], rfl⟩ 80, none⟩,
    ⟨34, afInet6, 2, 17, .v6 ⟨[32, 1, 13, 184, 0, 0, 0, 0, 0, 0, 0, 0, 0, 0, 0, 1], rfl⟩ 443 258 7,
      some ""⟩]

theorem twoAddresses_written_and_read :
    (∀ a ∈ twoAddresses, ∀ s ∈ a.canonicalName, TextFits s) ∧
      decodeAddresses (encodeAddresses twoAddresses ++ [7]) = .ok (twoAddresses, [7]) := by
  have short : ∀ a ∈ twoAddresses, ∀ s ∈ a.canonicalName, TextFits s := by decide +kernel
  exact ⟨short, (addresses_written_and_read.1 twoAddresses short [7]).2⟩

end NetControl.Lookup
