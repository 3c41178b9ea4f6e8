import NetControl.Lookup.Reply
import NetControl.Proofs.Lookup.AddressCodec

/-!
# Results collected frame by frame

A client does not decode the stream itself. It takes frames off the stream until it has the frame
that ends the result, puts the bytes of these frames together again, and decodes those. It must
decide where a result ends by the lengths of its frames alone, before it knows what they hold.

`readCollected_host_eq_ok_iff` and `readCollected_addresses_eq_ok_iff` say that this is no
restriction and no danger: what is read is what the decoder reads on the stream itself, and the
stream is left at the same place.
-/

namespace NetControl.Lookup

variable {α : Type} {b r w : Bytes}

theorem takeBytes_eq_ok_iff {count : Nat} :
    takeBytes count b = .ok (w, r) ↔ w.length = count ∧ b = w ++ r := by
  unfold takeBytes
  constructor
  · intro taken
    split at taken
    · cases taken
    · next enough =>
      cases taken
      exact ⟨List.length_take_of_le (Nat.not_lt.mp enough), (List.take_append_drop _ _).symm⟩
  · rintro ⟨rfl, rfl⟩
    have enough : ¬(w ++ r).length < w.length := by
      rw [List.length_append]
      omega
    rw [if_neg enough, List.take_left, List.drop_left]

/-! ## Frames up to an empty one -/

/-- The data of a frame that does not end a list. -/
def IsItem (data : Bytes) : Prop :=
  data ≠ [] ∧ data.length < 2 ^ 32

theorem takeFrames_unfolds (b : Bytes) :
    takeFrames b = listStep (fun data rest => .ok (data, rest)) takeFrames b := by
  rw [takeFrames]
  split
  · next read => rw [listStep_of_error read]
  · next data rest read =>
    by_cases empty : data = []
    · rw [if_pos empty]
      rw [empty] at read
      rw [listStep_of_end read]
    · rw [if_neg empty, listStep_of_item read empty]

theorem readsItem_frame :
    ReadsItem (fun data rest => .ok (data, rest)) fun data w => IsItem data ∧ frame data = w := by
  intro b data rest
  constructor
  · rintro ⟨_, _, read, present, same⟩
    cases same
    obtain ⟨fits, rfl⟩ := readFrame_eq_ok_iff.mp read
    exact ⟨_, ⟨⟨present, fits⟩, rfl⟩, rfl⟩
  · rintro ⟨_, ⟨⟨present, fits⟩, rfl⟩, rfl⟩
    exact ⟨data, rest, readFrame_eq_ok_iff.mpr ⟨fits, rfl⟩, present, rfl⟩

theorem takeFrames_eq_ok_iff {frames : List Bytes} :
    takeFrames b = .ok (frames, r) ↔
      (∀ data ∈ frames, IsItem data) ∧ b = frames.flatMap frame ++ endFrame ++ r := by
  rw [list_eq_ok_iff takeFrames_unfolds readsItem_frame]
  simp only [forall₂_spelled_iff, and_assoc, exists_and_left, exists_eq_left', List.flatMap]

/-! ## Records -/

/-- The frames of a record have their lengths, and the record does not end a list. -/
structure Record.Fits (r : Record) : Prop where
  header : IsItem r.header
  address : r.address.length < 2 ^ 32
  name : r.name.length < 2 ^ 32

/-- Takes the two frames that follow the header of an address. -/
def takeRecord (header b : Bytes) : Except DecodeError (Record × Bytes) := do
  let (address, b) ← readFrame b
  let (name, b) ← readFrame b
  pure (⟨header, address, name⟩, b)

theorem takeRecords_unfolds (b : Bytes) :
    takeRecords b = listStep takeRecord takeRecords b := by
  rw [takeRecords]
  split
  · next read => rw [listStep_of_error read]
  · next header rest read =>
    by_cases empty : header = []
    · rw [if_pos empty]
      rw [empty] at read
      rw [listStep_of_end read]
    · rw [if_neg empty, listStep_of_item read empty]
      unfold takeRecord
      split
      · next second =>
        rw [second]
        rfl
      · next address rest' second =>
        rw [second]
        split
        · next third =>
          simp only [bind, Except.bind, third]
        · next name rest'' third =>
          simp only [bind, Except.bind, third, pure, Except.pure]

theorem readsItem_record :
    ReadsItem takeRecord fun r w => r.Fits ∧ r.encode = w := by
  intro b ⟨header, address, name⟩ rest
  constructor
  · rintro ⟨_, _, first, present, taken⟩
    obtain ⟨⟨_, _⟩, second, taken⟩ := bind_eq_ok.mp taken
    obtain ⟨⟨_, _⟩, third, taken⟩ := bind_eq_ok.mp taken
    cases taken
    obtain ⟨short₃, rfl⟩ := readFrame_eq_ok_iff.mp third
    obtain ⟨short₂, rfl⟩ := readFrame_eq_ok_iff.mp second
    obtain ⟨short₁, rfl⟩ := readFrame_eq_ok_iff.mp first
    refine ⟨_, ⟨⟨⟨present, short₁⟩, short₂, short₃⟩, rfl⟩, ?_⟩
    simp only [Record.encode, List.append_assoc]
  · rintro ⟨_, ⟨fits, rfl⟩, rfl⟩
    simp only [Record.encode, List.append_assoc]
    refine ⟨header, _, readFrame_eq_ok_iff.mpr ⟨fits.header.2, rfl⟩, fits.header.1, ?_⟩
    refine bind_eq_ok.mpr ⟨_, readFrame_eq_ok_iff.mpr ⟨fits.address, rfl⟩, ?_⟩
    exact bind_eq_ok.mpr ⟨_, readFrame_eq_ok_iff.mpr ⟨fits.name, rfl⟩, rfl⟩

theorem takeRecords_eq_ok_iff {records : List Record} :
    takeRecords b = .ok (records, r) ↔
      (∀ record ∈ records, record.Fits) ∧ b = records.flatMap Record.encode ++ endFrame ++ r := by
  rw [list_eq_ok_iff takeRecords_unfolds readsItem_record]
  simp only [forall₂_spelled_iff, and_assoc, exists_and_left, exists_eq_left', List.flatMap]

/-! ## What is collected -/

/-- `collect` takes bytes of the shape off the front of others, and leaves these. -/
def Collects (collect : Bytes → Decoded Bytes) (Shape : Bytes → Prop) : Prop :=
  ∀ b raw r, collect b = .ok (raw, r) ↔ Shape raw ∧ b = raw ++ r

/-- The frames of a host entry, whatever they hold. -/
def HasHostShape (raw : Bytes) : Prop :=
  ∃ (name : Bytes) (aliases : List Bytes) (numbers : Bytes) (addresses : List Bytes),
    name.length < 2 ^ 32 ∧ (∀ data ∈ aliases, IsItem data) ∧ numbers.length = 8 ∧
    (∀ data ∈ addresses, IsItem data) ∧
    raw = frame name ++ aliases.flatMap frame ++ endFrame ++ numbers ++ addresses.flatMap frame
      ++ endFrame

/-- The frames of a list of addresses, whatever they hold. -/
def HasListShape (raw : Bytes) : Prop :=
  ∃ records : List Record, (∀ record ∈ records, record.Fits) ∧
    raw = records.flatMap Record.encode ++ endFrame

theorem collects_host : Collects collectHost HasHostShape := by
  intro b raw r
  constructor
  · intro collected
    obtain ⟨⟨name, b₁⟩, first, collected⟩ := bind_eq_ok.mp collected
    obtain ⟨⟨aliases, b₂⟩, second, collected⟩ := bind_eq_ok.mp collected
    obtain ⟨⟨numbers, b₃⟩, third, collected⟩ := bind_eq_ok.mp collected
    obtain ⟨⟨addresses, b₄⟩, fourth, collected⟩ := bind_eq_ok.mp collected
    cases collected
    obtain ⟨short, rfl⟩ := readFrame_eq_ok_iff.mp first
    obtain ⟨texts, rfl⟩ := takeFrames_eq_ok_iff.mp second
    obtain ⟨eight, rfl⟩ := takeBytes_eq_ok_iff.mp third
    obtain ⟨items, rfl⟩ := takeFrames_eq_ok_iff.mp fourth
    refine ⟨⟨name, aliases, numbers, addresses, short, texts, eight, items, rfl⟩, ?_⟩
    simp only [List.append_assoc]
  · rintro ⟨⟨name, aliases, numbers, addresses, short, texts, eight, items, rfl⟩, rfl⟩
    have shape : frame name ++ aliases.flatMap frame ++ endFrame ++ numbers
        ++ addresses.flatMap frame ++ endFrame ++ r =
        frame name ++ (aliases.flatMap frame ++ endFrame
          ++ (numbers ++ (addresses.flatMap frame ++ endFrame ++ r))) := by
      simp only [List.append_assoc]
    refine bind_eq_ok.mpr ⟨_, readFrame_eq_ok_iff.mpr ⟨short, shape⟩, ?_⟩
    refine bind_eq_ok.mpr ⟨_, takeFrames_eq_ok_iff.mpr ⟨texts, rfl⟩, ?_⟩
    refine bind_eq_ok.mpr ⟨_, takeBytes_eq_ok_iff.mpr ⟨eight, rfl⟩, ?_⟩
    exact bind_eq_ok.mpr ⟨_, takeFrames_eq_ok_iff.mpr ⟨items, rfl⟩, rfl⟩

theorem collects_addresses : Collects collectAddresses HasListShape := by
  intro b raw r
  constructor
  · intro collected
    obtain ⟨⟨records, rest⟩, taken, collected⟩ := bind_eq_ok.mp collected
    cases collected
    obtain ⟨fit, rfl⟩ := takeRecords_eq_ok_iff.mp taken
    exact ⟨⟨records, fit, rfl⟩, rfl⟩
  · rintro ⟨⟨records, fit, rfl⟩, rfl⟩
    exact bind_eq_ok.mpr ⟨_, takeRecords_eq_ok_iff.mpr ⟨fit, rfl⟩, rfl⟩

/-- If all that the decoder accepts has the shape that is collected, decoding what was collected is
decoding the stream. -/
theorem readCollected_eq_ok_iff {collect : Bytes → Decoded Bytes} {Shape : Bytes → Prop}
    {decode : Bytes → Except DecodeError (α × Bytes)} (Spells : α → Bytes → Prop)
    (collects : Collects collect Shape)
    (decodes : ∀ b a r, decode b = .ok (a, r) ↔ ∃ w, Spells a w ∧ b = w ++ r)
    (shaped : ∀ a w, Spells a w → Shape w) {a : α} :
    readCollected collect decode b = .ok (a, r) ↔ decode b = .ok (a, r) := by
  constructor
  · intro read
    obtain ⟨⟨raw, rest⟩, collected, read⟩ := bind_eq_ok.mp read
    obtain ⟨⟨_, left⟩, decoded, read⟩ := bind_eq_ok.mp read
    cases read
    obtain ⟨shape, rfl⟩ := (collects _ _ _).mp collected
    obtain ⟨w, spells, rfl⟩ := (decodes _ _ _).mp decoded
    -- What the decoder has taken is collected too, so it has left nothing.
    have whole : collect (w ++ left) = .ok (w ++ left, []) :=
      (collects _ _ _).mpr ⟨shape, (List.append_nil _).symm⟩
    have part : collect (w ++ left) = .ok (w, left) :=
      (collects _ _ _).mpr ⟨shaped a w spells, rfl⟩
    have none : left = [] := (Prod.mk.inj (Except.ok.inj (part.symm.trans whole))).2
    rw [none, List.append_nil]
    exact (decodes _ _ _).mpr ⟨w, spells, rfl⟩
  · intro decoded
    obtain ⟨w, spells, rfl⟩ := (decodes _ _ _).mp decoded
    refine bind_eq_ok.mpr ⟨_, (collects _ _ _).mpr ⟨shaped a w spells, rfl⟩, ?_⟩
    refine bind_eq_ok.mpr ⟨(a, []), (decodes _ _ _).mpr ⟨w, spells, (List.append_nil _).symm⟩, ?_⟩
    rfl

/-! ## The two results -/

theorem isItem_text {s : String} (fits : TextFits s) : IsItem (Bytes.ofString s ++ [0]) :=
  ⟨List.append_ne_nil_of_right_ne_nil _ (List.cons_ne_nil _ _), length_text_lt_iff.mpr fits⟩

theorem hasHostShape_encode {h : HostEntry} (name : ∀ s ∈ h.name, TextFits s)
    (aliases : ∀ s ∈ h.aliases, TextFits s)
    (addresses : ∀ a ∈ h.addresses, AddressFits h.length a) : HasHostShape h.encode := by
  refine ⟨nameData h.name, h.aliases.map fun s => Bytes.ofString s ++ [0],
    int32 h.addressType ++ int32 h.length, h.addresses, length_nameData_lt_iff.mpr name, ?_, ?_,
    fun a member => ⟨(addresses a member).1, (addresses a member).2.1⟩, ?_⟩
  · intro data member
    obtain ⟨s, inside, rfl⟩ := List.mem_map.mp member
    exact isItem_text (aliases s inside)
  · rw [List.length_append, length_int32, length_int32]
  · have texts : (h.aliases.map fun s => Bytes.ofString s ++ [0]).flatMap frame =
        h.aliases.flatMap textFrame := List.flatMap_map ..
    rw [texts, HostEntry.encode, optionFrame_eq_frame]
    simp only [List.append_assoc]

/-- A host entry is read as it is decoded. -/
theorem readCollected_host_eq_ok_iff {h : HostEntry} :
    readCollected collectHost decodeHost b = .ok (h, r) ↔ decodeHost b = .ok (h, r) := by
  refine readCollected_eq_ok_iff (fun h w =>
    ((∀ s ∈ h.name, TextFits s) ∧ (∀ s ∈ h.aliases, TextFits s) ∧
      ∀ a ∈ h.addresses, AddressFits h.length a) ∧ w = h.encode) collects_host ?_ ?_
  · intro b h r
    rw [decodeHost_eq_ok_iff_encode]
    simp only [and_assoc, exists_and_left, exists_eq_left]
  · rintro h w ⟨⟨name, aliases, addresses⟩, rfl⟩
    exact hasHostShape_encode name aliases addresses

theorem exists_record_of_spelled {a : AddressInfo} (short : ∀ s ∈ a.canonicalName, TextFits s)
    (spelled : a.Spelled w) : ∃ record : Record, record.Fits ∧ w = record.encode := by
  obtain ⟨unused, rfl⟩ := spelled
  refine ⟨⟨a.header, a.address.bytesWith unused, nameData a.canonicalName⟩, ⟨⟨?_, ?_⟩, ?_, ?_⟩, ?_⟩
  · exact List.ne_nil_of_length_pos (by rw [length_header]; omega)
  · rw [length_header]
    omega
  · have bound := Net.SocketAddress.length_bytes_le a.address
    rw [Net.SocketAddress.length_bytesWith]
    omega
  · exact length_nameData_lt_iff.mpr short
  · rw [AddressInfo.encodeWith, Record.encode, optionFrame_eq_frame]

theorem hasListShape_of_spelled {found : List AddressInfo} {ws : List Bytes}
    (short : ∀ a ∈ found, ∀ s ∈ a.canonicalName, TextFits s)
    (spelled : List.Forall₂ AddressInfo.Spelled found ws) :
    HasListShape (ws.flatten ++ endFrame) := by
  induction spelled with
  | nil => exact ⟨[], List.forall_mem_nil _, rfl⟩
  | @cons a w found ws one others ih =>
    rw [List.forall_mem_cons] at short
    obtain ⟨record, fits, rfl⟩ := exists_record_of_spelled short.1 one
    obtain ⟨records, fit, same⟩ := ih short.2
    refine ⟨record :: records, List.forall_mem_cons.mpr ⟨fits, fit⟩, ?_⟩
    rw [List.flatten_cons, List.append_assoc, same, List.flatMap_cons, List.append_assoc]

/-- A list of addresses is read as it is decoded. -/
theorem readCollected_addresses_eq_ok_iff {found : List AddressInfo} :
    readCollected collectAddresses decodeAddresses b = .ok (found, r) ↔
      decodeAddresses b = .ok (found, r) := by
  refine readCollected_eq_ok_iff (fun found w =>
    (∀ a ∈ found, ∀ s ∈ a.canonicalName, TextFits s) ∧
      ∃ ws, List.Forall₂ AddressInfo.Spelled found ws ∧ w = ws.flatten ++ endFrame)
    collects_addresses ?_ ?_
  · intro b found r
    rw [decodeAddresses_eq_ok_iff]
    constructor
    · rintro ⟨short, ws, spelled, rfl⟩
      exact ⟨_, ⟨short, ws, spelled, rfl⟩, rfl⟩
    · rintro ⟨_, ⟨short, ws, spelled, rfl⟩, rfl⟩
      exact ⟨short, ws, spelled, rfl⟩
  · rintro found w ⟨short, ws, spelled, rfl⟩
    exact hasListShape_of_spelled short spelled

end NetControl.Lookup
