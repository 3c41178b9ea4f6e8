import NetControl.Proofs.Tether.Orderly

/-!
# Frames with interfaces

The names of interfaces have neither a bar nor a NUL, so that a frame with interfaces can be cut at
its bars and nowhere else. What does not fit is left out from the end: the frame lists the longest
beginning of the list with which it keeps its size (`Frame.length_added_fill`).

* `Controller.interfaces_of_lifetime`: the list of a controller, and every frame that it ever makes
  of it. The list is that of the moment in which the frame is sent, which need not be the one before
  the operation or the one after it.
-/

namespace NetControl.Tether

open Plan

namespace Frame

/-! ## The longest beginning that fits -/

variable {acceptable : String → Bool} {f : Frame} {fields : List String}

/-- A frame that keeps its size keeps it when it is filled. -/
theorem utf8ByteSize_fill (small : f.text.utf8ByteSize + 1 < sizeLimit) :
    (fill acceptable f fields).frame.text.utf8ByteSize + 1 < sizeLimit := by
  induction fields generalizing f with
  | nil => exact small
  | cons field rest ih =>
    unfold fill
    split
    · split
      · exact small
      · next pushed => exact ih (utf8ByteSize_of_push? pushed)
    · exact small

/-- Of acceptable fields, no longer beginning than the one that was added keeps the size. -/
theorem length_added_fill (accepted : ∀ field ∈ fields, acceptable field = true)
    {taken : List String} (first : taken <+: fields)
    (fits : (Bytes.ofString f.text ++ barred taken).length + 1 < sizeLimit) :
    taken.length ≤ (fill acceptable f fields).added.length := by
  induction fields generalizing f taken with
  | nil =>
    rw [List.prefix_nil.mp first]
    exact Nat.zero_le _
  | cons field rest ih =>
    cases taken with
    | nil => exact Nat.zero_le _
    | cons field' others =>
      obtain ⟨rfl, later⟩ := List.cons_prefix_cons.mp first
      rw [List.forall_mem_cons] at accepted
      have whole : barred (field' :: others) = barred [field'] ++ barred others := by simp
      rw [whole, ← List.append_assoc] at fits
      have next : (Bytes.ofString f.text ++ barred [field']).length + 1 < sizeLimit := by
        rw [List.length_append] at fits
        omega
      obtain ⟨longer, pushed⟩ := push?_of_fits next
      rw [← ofString_of_push? pushed] at fits
      unfold fill
      rw [if_pos accepted.1, pushed]
      exact Nat.succ_le_succ (ih accepted.2 later fits)

/-- What is read in a frame stood between its bars, before its only NUL. -/
theorem exists_line_of_read? {b : Bytes} {pieces : List Bytes} (read : read? b = some pieces) :
    ∃ line, b = line ++ [0] ∧ 0 ∉ line ∧ line.splitOn bar = pieces := by
  unfold read? at read
  dsimp only at read
  split at read
  · next whole =>
    refine ⟨_, whole, ?_, Option.some.inj read⟩
    intro inside
    have clean := List.all_eq_true.mp List.all_takeWhile 0 inside
    simp at clean
  · cases read

end Frame

/-! ## One frame -/

/-- The bytes of a frame with these interfaces, however many they are. -/
def interfaceBytes (interfaces : List String) : Bytes :=
  Bytes.ofString "update_ifaces" ++ Frame.barred interfaces ++ [0]

/-- The frame has the longest beginning of the list with which it keeps its size. -/
theorem longest_of_updateInterfaces {interfaces : List String} {f : Frame}
    (framed : updateInterfaces interfaces = some f) :
    ∃ taken, taken ≠ [] ∧ taken <+: interfaces ∧ f.bytes = interfaceBytes taken ∧
      f.bytes.length < Frame.sizeLimit ∧
      ∀ longer, longer <+: interfaces → (interfaceBytes longer).length < Frame.sizeLimit →
        longer.length ≤ taken.length := by
  unfold updateInterfaces at framed
  dsimp only at framed
  split at framed
  · cases framed
  · next some =>
    cases framed
    refine ⟨_, some, Frame.added_fill_prefix, ?_, ?_, ?_⟩
    · unfold Frame.bytes fillInterfaces
      rw [Frame.ofString_fill]
      rfl
    · unfold Frame.bytes
      rw [List.length_append, Bytes.length_ofString]
      exact Frame.utf8ByteSize_fill (by decide)
    · intro longer first fits
      apply Frame.length_added_fill (fun _ _ => rfl) first
      unfold interfaceBytes at fits
      rwa [List.length_append] at fits

/-- The daemon reads a frame of names as the names. -/
theorem read?_interfaceBytes {interfaces : List String}
    (named : ∀ i ∈ interfaces, isInterfaceName i = true) :
    Frame.read? (interfaceBytes interfaces) =
      some (("update_ifaces" :: interfaces).map Bytes.ofString) := by
  have clean {c : Char} (other : isInterfaceChar c = false) (head : c ∉ "update_ifaces".toList) :
      ∀ field ∈ "update_ifaces" :: interfaces, c ∉ field.toList := by
    rw [List.forall_mem_cons]
    exact ⟨head, fun i member => not_mem_of_isInterfaceName (named i member) other⟩
  apply (Frame.read?_eq_iff (clean (c := '\x00') (by decide) (by decide))).mpr
  exact clean (by decide) (by decide)

/-! ## Lifetimes -/

namespace Controller

/-- Whatever operations are carried out and whatever fails: the list of interfaces has names only,
each of them once; and every frame with interfaces that was sent, whether or not it arrived, has at
most 1023 bytes with its NUL, which is its only one, and is cut at its bars into the command and the
longest beginning that fits of the list in the state in which it was sent. -/
theorem interfaces_of_lifetime {ω : Type} (answer : (c : Call) → ω → c.Answer × ω) (mode : String)
    (switches : Switches) (places : Places) (w : ω) (ops : List Operation) :
    let first := Lifetime.begin answer mode switches places w
    let l := first.performAll answer ops
    let asks := first.asks answer ops
    (l.controller.interfaces.Nodup ∧ ∀ i ∈ l.controller.interfaces, isInterfaceName i = true) ∧
      (∀ x ∈ first.booting, x.IsSwitch) ∧
      l.exchanges = first.booting ++ asks.map Prod.snd ∧
      ∀ c frame r, (c, ⟨.send frame, r⟩) ∈ asks → ListsInterfaces frame →
        (c.interfaces.Nodup ∧ ∀ i ∈ c.interfaces, isInterfaceName i = true) ∧
        frame.length ≤ 1023 ∧
        ∃ line taken, frame = line ++ [0] ∧ 0 ∉ line ∧
          line.splitOn Frame.bar = ("update_ifaces" :: taken).map Bytes.ofString ∧
          taken ≠ [] ∧ taken <+: c.interfaces ∧
          ∀ longer, longer <+: c.interfaces → (interfaceBytes longer).length ≤ 1023 →
            longer.length ≤ taken.length := by
  intro first l asks
  obtain ⟨quiet, all, kept, last⟩ := Lifetime.orderly answer mode switches places w ops
  refine ⟨⟨last.listed.nodup, last.listed.named⟩, quiet, all, ?_⟩
  intro c frame r member lists
  obtain ⟨before, after, split⟩ := List.append_of_mem member
  obtain ⟨state, -, makes⟩ := kept before c ⟨.send frame, r⟩ after split
  refine ⟨⟨state.listed.nodup, state.listed.named⟩, ?_⟩
  cases makes with
  | servers accepted => exact (not_listsInterfaces_of_updateServers accepted lists).elim
  | @interfaces f framed =>
    obtain ⟨taken, nonempty, beginning, bytes, small, longest⟩ := longest_of_updateInterfaces framed
    have named : ∀ i ∈ taken, isInterfaceName i = true :=
      fun i inside => state.listed.named i (beginning.subset inside)
    have read := read?_interfaceBytes named
    rw [← bytes] at read
    obtain ⟨line, whole, clean, pieces⟩ := Frame.exists_line_of_read? read
    refine ⟨Nat.le_of_lt_succ small, line, taken, whole, clean, pieces, nonempty, beginning, ?_⟩
    exact fun longer first fits => longest longer first (Nat.lt_succ_of_le fits)

end Controller

end NetControl.Tether
