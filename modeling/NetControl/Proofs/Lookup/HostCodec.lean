import NetControl.Proofs.Lookup.Frames

/-!
# Host entries, written and read

`decodeHost_eq_ok_iff` says that an entry has one written form and that the reader accepts this form
and nothing else: bytes are read as an entry just if the entry is well formed and the bytes begin
with its encoding, and what follows the encoding is left unread.

The bound on the bytes is that of a signed length. The reader compares the length of an address as
a signed number of 32 bits, so that an address of 2³¹ bytes would agree with a negative length;
`decodeHost_eq_ok_iff_encode` is the law without the bound.
-/

namespace NetControl.Lookup

/-! ## Names and aliases -/

/-- The text is short enough for its frame, with the NUL. -/
def TextFits (s : String) : Prop :=
  s.utf8ByteSize < 2 ^ 32 - 1

theorem length_text (s : String) : (Bytes.ofString s ++ [0]).length = s.utf8ByteSize + 1 := by
  rw [List.length_append]
  rfl

theorem length_text_lt_iff {s : String} :
    (Bytes.ofString s ++ [0]).length < 2 ^ 32 ↔ TextFits s := by
  rw [length_text, TextFits]
  omega

theorem length_nameData_lt_iff {name : Option String} :
    (nameData name).length < 2 ^ 32 ↔ ∀ s ∈ name, TextFits s := by
  cases name with
  | none => simp [nameData]
  | some s =>
    rw [nameData, length_text_lt_iff]
    simp only [Option.mem_some_iff, forall_eq']

theorem readTexts_unfolds (b : Bytes) :
    readTexts b =
      listStep (fun data rest => (readText data).map fun s => (s, rest)) readTexts b := by
  rw [readTexts]
  split
  · next read => rw [listStep_of_error read]
  · next data rest read =>
    by_cases empty : data = []
    · rw [if_pos empty]
      rw [empty] at read
      rw [listStep_of_end read]
    · rw [if_neg empty, listStep_of_item read empty]
      cases readText data with
      | error e => rfl
      | ok s => rfl

theorem readsItem_text :
    ReadsItem (fun data rest => (readText data).map fun s => (s, rest))
      fun s w => TextFits s ∧ textFrame s = w := by
  intro b s rest
  constructor
  · rintro ⟨data, tail, read, -, item⟩
    obtain ⟨_, text, same⟩ := map_eq_ok.mp item
    cases same
    obtain ⟨fits, rfl⟩ := readFrame_eq_ok_iff.mp read
    rw [readText_eq_ok_iff.mp text] at fits ⊢
    exact ⟨_, ⟨length_text_lt_iff.mp fits, rfl⟩, rfl⟩
  · rintro ⟨_, ⟨fits, rfl⟩, rfl⟩
    refine ⟨_, rest, readFrame_eq_ok_iff.mpr ⟨length_text_lt_iff.mpr fits, rfl⟩, ?_, ?_⟩
    · exact List.append_ne_nil_of_right_ne_nil _ (List.cons_ne_nil _ _)
    · exact map_eq_ok.mpr ⟨s, readText_eq_ok_iff.mpr rfl, rfl⟩

theorem readTexts_eq_ok_iff {b r : Bytes} {texts : List String} :
    readTexts b = .ok (texts, r) ↔
      (∀ s ∈ texts, TextFits s) ∧ b = texts.flatMap textFrame ++ endFrame ++ r := by
  rw [list_eq_ok_iff readTexts_unfolds readsItem_text]
  simp only [forall₂_spelled_iff, and_assoc, exists_and_left, exists_eq_left', List.flatMap]

/-! ## Addresses -/

/-- The address is one of an entry whose addresses have the length. -/
def AddressFits (length : Int32) (a : Bytes) : Prop :=
  a ≠ [] ∧ a.length < 2 ^ 32 ∧ Int32.ofNat a.length = length

/-- Reads one address of the given length. -/
def takeAddress (length : Int32) (data rest : Bytes) : Decoded Bytes :=
  if Int32.ofNat data.length ≠ length then .error (.malformed .addressLength) else .ok (data, rest)

theorem readAddresses_unfolds (length : Int32) (b : Bytes) :
    readAddresses length b = listStep (takeAddress length) (readAddresses length) b := by
  rw [readAddresses]
  split
  · next read => rw [listStep_of_error read]
  · next data rest read =>
    by_cases empty : data = []
    · rw [if_pos empty]
      rw [empty] at read
      rw [listStep_of_end read]
    · rw [if_neg empty, listStep_of_item read empty, takeAddress]
      by_cases other : Int32.ofNat data.length ≠ length
      · rw [if_pos other, if_pos other]
      · rw [if_neg other, if_neg other]

theorem readsItem_address (length : Int32) :
    ReadsItem (takeAddress length) fun a w => AddressFits length a ∧ frame a = w := by
  intro b a rest
  constructor
  · rintro ⟨data, tail, read, present, item⟩
    unfold takeAddress at item
    split at item
    · cases item
    · next same =>
      cases item
      obtain ⟨fits, rfl⟩ := readFrame_eq_ok_iff.mp read
      exact ⟨_, ⟨⟨present, fits, not_not.mp same⟩, rfl⟩, rfl⟩
  · rintro ⟨_, ⟨⟨present, fits, same⟩, rfl⟩, rfl⟩
    exact ⟨a, rest, readFrame_eq_ok_iff.mpr ⟨fits, rfl⟩, present, if_neg (not_not.mpr same)⟩

theorem readAddresses_eq_ok_iff {length : Int32} {b r : Bytes} {addresses : List Bytes} :
    readAddresses length b = .ok (addresses, r) ↔
      (∀ a ∈ addresses, AddressFits length a) ∧
        b = addresses.flatMap frame ++ endFrame ++ r := by
  rw [list_eq_ok_iff (readAddresses_unfolds length) (readsItem_address length)]
  simp only [forall₂_spelled_iff, and_assoc, exists_and_left, exists_eq_left', List.flatMap]

/-! ## Entries -/

theorem decodeHost_eq_ok_iff_encode {b r : Bytes} {h : HostEntry} :
    decodeHost b = .ok (h, r) ↔
      ((∀ s ∈ h.name, TextFits s) ∧ (∀ s ∈ h.aliases, TextFits s) ∧
        ∀ a ∈ h.addresses, AddressFits h.length a) ∧ b = h.encode ++ r := by
  obtain ⟨name, aliases, addressType, length, addresses⟩ := h
  constructor
  · intro read
    obtain ⟨⟨data, b₁⟩, first, read⟩ := bind_eq_ok.mp read
    obtain ⟨name', named, read⟩ := bind_eq_ok.mp read
    obtain ⟨⟨aliases', b₂⟩, second, read⟩ := bind_eq_ok.mp read
    obtain ⟨⟨addressType', b₃⟩, third, read⟩ := bind_eq_ok.mp read
    obtain ⟨⟨length', b₄⟩, fourth, read⟩ := bind_eq_ok.mp read
    obtain ⟨⟨addresses', b₅⟩, fifth, read⟩ := bind_eq_ok.mp read
    cases read
    obtain ⟨short, rfl⟩ := readFrame_eq_ok_iff.mp first
    obtain rfl := readOption_eq_ok_iff.mp named
    obtain ⟨texts, rfl⟩ := readTexts_eq_ok_iff.mp second
    obtain rfl := readInt32_eq_ok_iff.mp third
    obtain rfl := readInt32_eq_ok_iff.mp fourth
    obtain ⟨fit, rfl⟩ := readAddresses_eq_ok_iff.mp fifth
    refine ⟨⟨length_nameData_lt_iff.mp short, texts, fit⟩, ?_⟩
    simp only [HostEntry.encode, optionFrame_eq_frame, List.append_assoc]
  · rintro ⟨⟨short, texts, fit⟩, rfl⟩
    simp only [HostEntry.encode, optionFrame_eq_frame, List.append_assoc]
    refine bind_eq_ok.mpr
      ⟨_, readFrame_eq_ok_iff.mpr ⟨length_nameData_lt_iff.mpr short, rfl⟩, ?_⟩
    refine bind_eq_ok.mpr ⟨name, readOption_eq_ok_iff.mpr rfl, ?_⟩
    refine bind_eq_ok.mpr
      ⟨_, readTexts_eq_ok_iff.mpr ⟨texts, (List.append_assoc _ _ _).symm⟩, ?_⟩
    refine bind_eq_ok.mpr ⟨_, readInt32_eq_ok_iff.mpr rfl, ?_⟩
    refine bind_eq_ok.mpr ⟨_, readInt32_eq_ok_iff.mpr rfl, ?_⟩
    refine bind_eq_ok.mpr
      ⟨_, readAddresses_eq_ok_iff.mpr ⟨fit, (List.append_assoc _ _ _).symm⟩, ?_⟩
    rfl

/-- An entry that can be written and read: its texts are short enough for their frames, and each of
its addresses has the length that the entry says. -/
structure HostEntry.WellFormed (h : HostEntry) : Prop where
  name : ∀ s ∈ h.name, TextFits s
  aliases : ∀ s ∈ h.aliases, TextFits s
  addresses : ∀ a ∈ h.addresses,
    a ≠ [] ∧ a.length < 2 ^ 31 ∧ (a.length : Int) = h.length.toInt

instance (s : String) : Decidable (TextFits s) :=
  inferInstanceAs (Decidable (_ < _))

instance (h : HostEntry) : Decidable h.WellFormed :=
  decidable_of_iff ((∀ s ∈ h.name, TextFits s) ∧ (∀ s ∈ h.aliases, TextFits s) ∧
      ∀ a ∈ h.addresses, a ≠ [] ∧ a.length < 2 ^ 31 ∧ (a.length : Int) = h.length.toInt)
    ⟨fun ⟨name, aliases, addresses⟩ => ⟨name, aliases, addresses⟩,
      fun ⟨name, aliases, addresses⟩ => ⟨name, aliases, addresses⟩⟩

theorem addressFits_iff {length : Int32} {a : Bytes} (small : a.length < 2 ^ 31) :
    AddressFits length a ↔ a ≠ [] ∧ a.length < 2 ^ 31 ∧ (a.length : Int) = length.toInt := by
  have same : Int32.ofNat a.length = length ↔ (a.length : Int) = length.toInt := by
    rw [← Int32.toInt_inj, Int32.toInt_ofNat_of_lt small]
  have short : a.length < 2 ^ 32 := by omega
  simp only [AddressFits, same, short, small, true_and]

/-- A well-formed entry is read back, and what follows it is left. -/
theorem decodeHost_encode {h : HostEntry} (wellFormed : h.WellFormed) (r : Bytes) :
    decodeHost (h.encode ++ r) = .ok (h, r) := by
  obtain ⟨name, aliases, addresses⟩ := wellFormed
  refine decodeHost_eq_ok_iff_encode.mpr ⟨⟨name, aliases, fun a member => ?_⟩, rfl⟩
  exact (addressFits_iff (addresses a member).2.1).mpr (addresses a member)

theorem length_le_of_mem_flatMap_frame {a : Bytes} {addresses : List Bytes}
    (member : a ∈ addresses) : a.length ≤ (addresses.flatMap frame).length := by
  obtain ⟨before, after, rfl⟩ := List.append_of_mem member
  simp only [List.flatMap_append, List.flatMap_cons, frame, List.length_append]
  omega

/-- Bytes are read as an entry just if the entry is well formed and they begin with its encoding; the
bytes after the encoding are left. -/
theorem decodeHost_eq_ok_iff {b r : Bytes} {h : HostEntry} (small : b.length < 2 ^ 31) :
    decodeHost b = .ok (h, r) ↔ h.WellFormed ∧ b = h.encode ++ r := by
  rw [decodeHost_eq_ok_iff_encode]
  refine and_congr_left fun same => ?_
  have addresses : ∀ a ∈ h.addresses, a.length < 2 ^ 31 := by
    intro a member
    have inside := length_le_of_mem_flatMap_frame member
    rw [same, HostEntry.encode] at small
    simp only [List.length_append] at small
    omega
  constructor
  · rintro ⟨name, aliases, fit⟩
    exact ⟨name, aliases, fun a member => (addressFits_iff (addresses a member)).mp (fit a member)⟩
  · rintro ⟨name, aliases, fit⟩
    exact ⟨name, aliases, fun a member => (addressFits_iff (addresses a member)).mpr (fit a member)⟩

/-- An entry with a name that is present and empty, and an alias with a NUL inside. -/
def nulledEntry : HostEntry where
  name := some ""
  aliases := ["a\x00b", ""]
  addressType := Net.afInet
  length := 4
  addresses := [[10, 0, 0, 1], [0, 0, 0, 0]]

theorem decodeHost_nulledEntry :
    (nulledEntry.encode ++ [0, 0, 0, 0, 7]).length < 2 ^ 31 ∧ nulledEntry.WellFormed ∧
      decodeHost (nulledEntry.encode ++ [0, 0, 0, 0, 7]) = .ok (nulledEntry, [0, 0, 0, 0, 7]) := by
  have small : (nulledEntry.encode ++ [0, 0, 0, 0, 7]).length < 2 ^ 31 := by decide +kernel
  have wellFormed : nulledEntry.WellFormed := by decide +kernel
  exact ⟨small, wellFormed, (decodeHost_eq_ok_iff small).mpr ⟨wellFormed, rfl⟩⟩

end NetControl.Lookup
