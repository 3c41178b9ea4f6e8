import NetControl.Proofs.Net.Literals
import NetControl.Proofs.Tether.Framing
import NetControl.Proofs.Text.Digits

/-!
# What the daemon makes of a list of name servers

The daemon cuts a frame at its bars, and the controller puts the servers into it as they are. Of the
texts that pass for a server only one kind can have a bar: an IPv6 address with a scope, whose scope
may be anything. `read_updateServers_iff` says that the daemon reads exactly the servers that the
controller keeps, just if there is none of this kind among them; `read_barred_scope` shows one that
makes two.
-/

namespace NetControl.Tether

/-- The text is an IPv6 address with a scope, and there is a bar in the scope. -/
def BarsScope (server : String) : Prop :=
  ∃ address scope, server.toList = address ++ '%' :: scope ∧
    (Net.parseV6 address).isSome ∧ '|' ∈ scope

theorem not_isLiteralChar_bar : ¬Net.IsLiteralChar '|' := by
  unfold Net.IsLiteralChar
  decide

/-- A text that passes for a server has a bar just if it has one in its scope. -/
theorem bar_mem_iff_barsScope {server : String} (accepted : isNumericHost server = true) :
    '|' ∈ server.toList ↔ BarsScope server := by
  constructor
  · intro inside
    unfold isNumericHost at accepted
    -- A literal address has no bar; of a scoped one the part before the percent sign is literal.
    split at accepted
    · next parsed =>
      exact (not_isLiteralChar_bar (Net.isLiteralChar_of_parse? parsed _ inside)).elim
    dsimp only at accepted
    split at accepted
    · next c scope behind =>
      have whole : server.toList = server.toList.takeWhile (· ≠ '%') ++ c :: scope := by
        rw [← behind]
        exact (List.prefix_iff_eq_append.mp (List.takeWhile_prefix _)).symm
      have dropped : server.toList.dropWhile (· ≠ '%') = c :: scope :=
        List.append_cancel_left (List.takeWhile_append_dropWhile.trans whole)
      have percent : c = '%' := by
        have stops := List.head?_dropWhile_not (· ≠ '%') server.toList
        rw [dropped] at stops
        simpa using stops
      subst percent
      rw [Bool.and_eq_true] at accepted
      refine ⟨_, scope, whole, accepted.2, ?_⟩
      rw [whole, List.mem_append, List.mem_cons] at inside
      rcases inside with front | other | behind
      · exact (not_isLiteralChar_bar (Net.isLiteralChar_of_parseV6 accepted.2 _ front)).elim
      · cases other
      · exact behind
    · cases accepted
  · rintro ⟨address, scope, text, -, inside⟩
    rw [text]
    exact List.mem_append_right _ (List.mem_cons_of_mem _ inside)

/-! ## The mark -/

/-- The digits of a number in base sixteen are digits of that base. -/
theorem digit?_of_mem_toDigits {n : Nat} {c : Char} (member : c ∈ Nat.toDigits 16 n) :
    (Net.digit? 16 c).isSome := by
  have single : ∀ d < 16, (Net.digit? 16 (Nat.digitChar d)).isSome := by decide
  obtain ⟨d, small, rfl⟩ := Text.exists_digitChar_of_mem_toDigits (by decide) member
  exact single d small

theorem not_mem_hex {mark : Mark} {c : Char} (other : ¬(Net.digit? 16 c).isSome) :
    c ∉ mark.hex.toList := by
  unfold Mark.hex
  rw [String.toList_ofList]
  exact fun member => other (digit?_of_mem_toDigits member)

/-! ## Reading a list of name servers back -/

/-- From the frame with name servers, none of which has a NUL, the daemon reads the command, the
mark, and exactly the servers that were accepted, in order and unchanged, just if there is no bar in
the scope of one of them. -/
theorem read_updateServers_iff {netId : UInt32} {servers : List String} {update : ServerUpdate}
    (clean : ∀ server ∈ servers, '\x00' ∉ server.toList)
    (accepted : updateServers (Mark.forDns netId) servers = .ok update) :
    Frame.read? update.frame.bytes =
        some (("update_dns" :: ("0x" ++ (Mark.forDns netId).hex) :: update.servers).map
          Bytes.ofString) ↔
      ∀ server ∈ update.servers, ¬BarsScope server := by
  obtain ⟨bytes, first⟩ := bytes_of_updateServers accepted
  have mark {c : Char} (other : ¬(Net.digit? 16 c).isSome) (head : c ∉ "0x".toList) :
      c ∉ ("0x" ++ (Mark.forDns netId).hex).toList := by
    rw [String.toList_append, List.mem_append, not_or]
    exact ⟨head, not_mem_hex other⟩
  have nul : ∀ field ∈ "update_dns" :: ("0x" ++ (Mark.forDns netId).hex) :: update.servers,
      '\x00' ∉ field.toList := by
    rw [List.forall_mem_cons, List.forall_mem_cons]
    exact ⟨by decide, mark (by decide) (by decide), fun s member => clean s (first.mem member)⟩
  rw [bytes, Frame.read?_eq_iff nul, List.forall_mem_cons, List.forall_mem_cons]
  constructor
  · rintro ⟨-, -, free⟩ server member bars
    have passed := isNumericHost_of_updateServers accepted server member
    exact free server member ((bar_mem_iff_barsScope passed).mpr bars)
  · intro free
    refine ⟨by decide, mark (by decide) (by decide), ?_⟩
    intro server member inside
    have passed := isNumericHost_of_updateServers accepted server member
    exact free server member ((bar_mem_iff_barsScope passed).mp inside)

/-- Servers without a bar, one of them with a scope, are read back as they are. -/
theorem read_plain_servers :
    (∀ server ∈ ["8.8.8.8", "fe80::1%wlan0"], '\x00' ∉ server.toList) ∧
      ∃ update, updateServers (Mark.forDns 100) ["8.8.8.8", "fe80::1%wlan0"] = .ok update ∧
        Frame.read? update.frame.bytes =
          some (["update_dns", "0xf0064", "8.8.8.8", "fe80::1%wlan0"].map Bytes.ofString) := by
  have clean : ∀ server ∈ ["8.8.8.8", "fe80::1%wlan0"], '\x00' ∉ server.toList := by decide
  have accepted : updateServers (Mark.forDns 100) ["8.8.8.8", "fe80::1%wlan0"] =
      .ok ⟨⟨"update_dns|0xf0064|8.8.8.8|fe80::1%wlan0"⟩, ["8.8.8.8", "fe80::1%wlan0"]⟩ := rfl
  refine ⟨clean, _, accepted, (read_updateServers_iff clean accepted).mpr ?_⟩
  intro server member bars
  have passed := isNumericHost_of_updateServers accepted server member
  have free : ∀ server ∈ ["8.8.8.8", "fe80::1%wlan0"], '|' ∉ server.toList := by decide
  exact free server member ((bar_mem_iff_barsScope passed).mpr bars)

/-- One accepted server with a bar in its scope is read as two. -/
theorem read_barred_scope :
    ∃ update, updateServers (Mark.forDns 100) ["::1%|8.8.8.8"] = .ok update ∧
      (∀ server ∈ ["::1%|8.8.8.8"], '\x00' ∉ server.toList) ∧
      update.servers = ["::1%|8.8.8.8"] ∧
      Frame.read? update.frame.bytes =
        some (["update_dns", "0xf0064", "::1%", "8.8.8.8"].map Bytes.ofString) ∧
      Frame.read? update.frame.bytes ≠
        some (("update_dns" :: ("0x" ++ (Mark.forDns 100).hex) :: update.servers).map
          Bytes.ofString) := by
  refine ⟨⟨⟨"update_dns|0xf0064|::1%|8.8.8.8"⟩, ["::1%|8.8.8.8"]⟩, rfl, ?_, rfl, ?_, ?_⟩
  · decide
  · decide +kernel
  · decide +kernel

end NetControl.Tether
