import NetControl.Proofs.Lookup.ReplyStream

/-!
# Results of which only the beginning has arrived

A reader may be given the beginning of a result. It then has to call for more: it must not take the
beginning for a shorter result, nor reject it for a fault that is none. `Outcome` says what a reader
may make of bytes so that this follows, and the outcomes of the parts of a result make up that of
the whole. The loops over lists are taken turn by turn: `Turn` says what one turn makes of bytes,
whatever the turns after it do, and `outcome_of_turns` is the induction.

`incomplete_is_truncated` draws the conclusion for both kinds of results, wherever they are cut off.
-/

namespace NetControl.Lookup

variable {α β : Type} {b : Bytes}

/-! ## Outcomes -/

/-- What a reader makes of bytes, and would make of more of them. The bytes after a result have no
part in it, and where bytes are malformed, nothing that follows can mend it. -/
inductive Outcome (read : Bytes → Except DecodeError (α × Bytes)) (b : Bytes) : Prop
  | found (a : α) (used rest : Bytes) (split : b = used ++ rest)
      (reads : ∀ more, read (used ++ more) = .ok (a, more))
  | malformed (why : Malformation) (reads : ∀ more, read (b ++ more) = .error (.malformed why))
  | truncated (reads : read b = .error .truncated)

theorem Outcome.pure (a : α) (b : Bytes) : Outcome (fun b => .ok (a, b)) b :=
  .found a [] b rfl fun _ => rfl

/-- What has been read is looked at, without reading on. -/
theorem Outcome.check {check : Except DecodeError α}
    {next : α → Bytes → Except DecodeError (β × Bytes)} (others : ∀ a, Outcome (next a) b) :
    Outcome (fun b => check >>= fun a => next a b) b := by
  cases check with
  | ok a => exact others a
  | error e =>
    cases e with
    | truncated => exact .truncated rfl
    | malformed why => exact .malformed why fun _ => rfl

/-- One part is read after the other. -/
theorem Outcome.bind {read : Bytes → Except DecodeError (α × Bytes)}
    {next : α × Bytes → Except DecodeError (β × Bytes)} (first : Outcome read b)
    (others : ∀ a rest, Outcome (fun b => next (a, b)) rest) :
    Outcome (fun b => read b >>= next) b := by
  cases first with
  | malformed why reads =>
    refine .malformed why fun more => ?_
    rw [reads]
    rfl
  | truncated reads =>
    refine .truncated ?_
    rw [reads]
    rfl
  | found a used rest split reads =>
    subst split
    cases others a rest with
    | found a' used' rest' split' reads' =>
      refine .found a' (used ++ used') rest' (by rw [split', List.append_assoc]) fun more => ?_
      rw [List.append_assoc, reads]
      exact reads' more
    | malformed why reads' =>
      refine .malformed why fun more => ?_
      rw [List.append_assoc, reads]
      exact reads' more
    | truncated reads' =>
      refine .truncated ?_
      rw [reads]
      exact reads'

/-- Where a reader has these outcomes, it calls for more as long as it has not got the whole of a
result. -/
theorem truncated_of_take {read : Bytes → Decoded α} (outcome : ∀ b, Outcome read b) {w : Bytes}
    {a : α} (whole : read w = .ok (a, [])) {n : Nat} (short : n < w.length) :
    read (w.take n) = .error .truncated := by
  have parts : w.take n ++ w.drop n = w := List.take_append_drop n w
  cases outcome (w.take n) with
  | truncated reads => exact reads
  | malformed why reads =>
    have rejected := reads (w.drop n)
    rw [parts, whole] at rejected
    cases rejected
  | found a' used rest split reads =>
    have longer := reads (rest ++ w.drop n)
    rw [← List.append_assoc, ← split, parts, whole, Except.ok.injEq, Prod.mk.injEq] at longer
    have nothing : w.drop n = [] := (List.append_eq_nil_iff.mp longer.2.symm).2
    exact absurd (List.drop_eq_nil_iff.mp nothing) (by omega)

/-! ## Frames and numbers -/

theorem readFrame_eq_truncated {e : DecodeError} (read : readFrame b = .error e) :
    e = .truncated := by
  unfold readFrame at read
  split at read
  · simp only at read
    split at read
    · cases read
      rfl
    · cases read
  · cases read
    rfl

theorem outcome_readFrame (b : Bytes) : Outcome readFrame b := by
  cases read : readFrame b with
  | error e => exact .truncated (readFrame_eq_truncated read ▸ read)
  | ok one =>
    obtain ⟨data, rest⟩ := one
    obtain ⟨fits, split⟩ := readFrame_eq_ok_iff.mp read
    exact .found data (frame data) rest split fun _ => readFrame_eq_ok_iff.mpr ⟨fits, rfl⟩

theorem readInt32_eq_truncated {e : DecodeError} (read : readInt32 b = .error e) :
    e = .truncated := by
  unfold readInt32 at read
  split at read
  · cases read
  · cases read
    rfl

theorem outcome_readInt32 (b : Bytes) : Outcome readInt32 b := by
  cases read : readInt32 b with
  | error e => exact .truncated (readInt32_eq_truncated read ▸ read)
  | ok one =>
    obtain ⟨n, rest⟩ := one
    exact .found n (int32 n) rest (readInt32_eq_ok_iff.mp read) fun _ =>
      readInt32_eq_ok_iff.mpr rfl

/-! ## Lists -/

/-- What one turn of a loop over a list makes of bytes, whatever the turns after it do. Unless it
calls for more, there are at least four bytes, which it takes off. -/
inductive Turn (item : Bytes → Bytes → Decoded α) (b : Bytes) : Prop
  | ends (used rest : Bytes) (four : 4 ≤ used.length) (split : b = used ++ rest)
      (turns : ∀ more after, listStep item more (used ++ after) = .ok ([], after))
  | goesOn (a : α) (used rest : Bytes) (four : 4 ≤ used.length) (split : b = used ++ rest)
      (turns : ∀ more after, listStep item more (used ++ after) =
        (more after).map fun (found, last) => (a :: found, last))
  | malformed (why : Malformation) (four : 4 ≤ b.length)
      (turns : ∀ more after, listStep item more (b ++ after) = .error (.malformed why))
  | truncated (turns : ∀ more, listStep item more b = .error .truncated)

theorem four_le_length_frame (data rest : Bytes) : 4 ≤ (frame data ++ rest).length := by
  rw [frame, List.append_assoc, List.length_append]
  exact Nat.le_add_right 4 _

theorem turn_of_outcome {item : Bytes → Bytes → Decoded α}
    (outcome : ∀ data rest, Outcome (item data) rest) (b : Bytes) : Turn item b := by
  rcases readFrame_cases b with ⟨e, read⟩ | ⟨rest, read⟩ | ⟨data, tail, read, present⟩
  · obtain rfl := readFrame_eq_truncated read
    exact .truncated fun more => listStep_of_error read
  · obtain ⟨-, rfl⟩ := readFrame_eq_ok_iff.mp read
    exact .ends endFrame rest (Nat.le_refl 4) rfl fun more after => listStep_of_end readFrame_end
  · obtain ⟨fits, rfl⟩ := readFrame_eq_ok_iff.mp read
    have again : ∀ after, readFrame (frame data ++ after) = .ok (data, after) :=
      fun _ => readFrame_eq_ok_iff.mpr ⟨fits, rfl⟩
    cases outcome data tail with
    | found a used rest split reads =>
      refine .goesOn a (frame data ++ used) rest (four_le_length_frame data used)
        (by rw [split, List.append_assoc]) fun more after => ?_
      rw [List.append_assoc, listStep_of_item (again _) present, reads]
    | malformed why reads =>
      refine .malformed why (four_le_length_frame data tail) fun more after => ?_
      rw [List.append_assoc, listStep_of_item (again _) present, reads]
    | truncated reads =>
      refine .truncated fun more => ?_
      rw [listStep_of_item read present, reads]

/-- The list is read by a loop, which goes turn by turn. -/
structure Loop (item : Bytes → Bytes → Decoded α) (list : Bytes → Decoded (List α)) : Prop where
  unfolds : ∀ b, list b = listStep item list b
  turn : ∀ b, Turn item b

theorem outcome_of_turns {item : Bytes → Bytes → Decoded α} {list : Bytes → Decoded (List α)}
    (loop : Loop item list) (b : Bytes) : Outcome list b := by
  cases loop.turn b with
  | ends used rest four split turns =>
    refine .found [] used rest split fun more => ?_
    rw [loop.unfolds, turns]
  | malformed why four turns =>
    refine .malformed why fun more => ?_
    rw [loop.unfolds, turns]
  | truncated turns =>
    refine .truncated ?_
    rw [loop.unfolds, turns]
  | goesOn a used rest four split turns =>
    subst split
    have step : ∀ after, list (used ++ after) =
        (list after).map fun (found, last) => (a :: found, last) := by
      intro after
      rw [loop.unfolds, turns]
    cases outcome_of_turns loop rest with
    | found as used' rest' split' reads =>
      refine .found (a :: as) (used ++ used') rest' (by rw [split', List.append_assoc])
        fun more => ?_
      rw [List.append_assoc, step, reads]
      rfl
    | malformed why reads =>
      refine .malformed why fun more => ?_
      rw [List.append_assoc, step, reads]
      rfl
    | truncated reads =>
      refine .truncated ?_
      rw [step, reads]
      rfl
termination_by b.length
decreasing_by
  rw [split, List.length_append]
  omega

/-! ## The three lists -/

/-- Reads one text. -/
def takeText (data rest : Bytes) : Decoded String :=
  (readText data).map fun s => (s, rest)

theorem outcome_takeText (data rest : Bytes) : Outcome (takeText data) rest := by
  unfold takeText
  cases readText data with
  | ok s => exact .pure s rest
  | error e =>
    cases e with
    | truncated => exact .truncated rfl
    | malformed why => exact .malformed why fun _ => rfl

theorem outcome_takeAddress (length : Int32) (data rest : Bytes) :
    Outcome (takeAddress length data) rest := by
  unfold takeAddress
  split
  · exact .malformed .addressLength fun _ => rfl
  · exact .pure data rest

theorem outcome_takeInfo (data rest : Bytes) : Outcome (takeInfo data) rest := by
  refine Outcome.check fun (h, size) => ?_
  refine Outcome.bind (outcome_readFrame rest) fun memory rest => ?_
  refine Outcome.check fun address => ?_
  refine Outcome.bind (outcome_readFrame rest) fun name rest => ?_
  exact Outcome.check fun canonicalName => .pure _ rest

theorem loop_readTexts : Loop takeText readTexts where
  unfolds := readTexts_unfolds
  turn := turn_of_outcome outcome_takeText

theorem loop_readAddresses (length : Int32) : Loop (takeAddress length) (readAddresses length) where
  unfolds := readAddresses_unfolds length
  turn := turn_of_outcome (outcome_takeAddress length)

theorem loop_decodeAddresses : Loop takeInfo decodeAddresses where
  unfolds := decodeAddresses_unfolds
  turn := turn_of_outcome outcome_takeInfo

/-! ## Results -/

theorem outcome_decodeHost (b : Bytes) : Outcome decodeHost b := by
  refine Outcome.bind (outcome_readFrame b) fun data b => ?_
  refine Outcome.check fun name => ?_
  refine Outcome.bind (outcome_of_turns loop_readTexts b) fun aliases b => ?_
  refine Outcome.bind (outcome_readInt32 b) fun addressType b => ?_
  refine Outcome.bind (outcome_readInt32 b) fun length b => ?_
  refine Outcome.bind (outcome_of_turns (loop_readAddresses length) b) fun addresses b => ?_
  exact .pure _ b

theorem outcome_decodeAddresses (b : Bytes) : Outcome decodeAddresses b :=
  outcome_of_turns loop_decodeAddresses b

theorem readInt32_of_length (b : Bytes) (four : 4 ≤ b.length) :
    ∃ n rest, readInt32 b = .ok (n, rest) ∧ rest.length + 4 = b.length := by
  match b with
  | w :: x :: y :: z :: rest => exact ⟨_, rest, rfl, rfl⟩

/-- The numbers of a header are inside it. -/
theorem readHeader_eq_error {data : Bytes} {e : DecodeError} (read : readHeader data = .error e) :
    e = .malformed .headerLength := by
  by_cases length : data.length = 20
  · obtain ⟨flags, b₁, first, length₁⟩ := readInt32_of_length data (by omega)
    obtain ⟨family, b₂, second, length₂⟩ := readInt32_of_length b₁ (by omega)
    obtain ⟨socketType, b₃, third, length₃⟩ := readInt32_of_length b₂ (by omega)
    obtain ⟨protocol, b₄, fourth, length₄⟩ := readInt32_of_length b₃ (by omega)
    obtain ⟨size, b₅, fifth, -⟩ := readInt32_of_length b₄ (by omega)
    have whole : readHeader data = .ok (⟨flags, family, socketType, protocol⟩, size) := by
      rw [readHeader, if_pos length]
      refine bind_eq_ok.mpr ⟨_, first, bind_eq_ok.mpr ⟨_, second, ?_⟩⟩
      refine bind_eq_ok.mpr ⟨_, third, bind_eq_ok.mpr ⟨_, fourth, ?_⟩⟩
      exact bind_eq_ok.mpr ⟨_, fifth, rfl⟩
    rw [whole] at read
    cases read
  · rw [readHeader, if_neg length] at read
    cases read
    rfl

theorem decodeHost_take {h : HostEntry} (wellFormed : h.WellFormed) :
    decodeHost h.encode = .ok (h, []) ∧
      ∀ n < h.encode.length, decodeHost (h.encode.take n) = .error .truncated := by
  have whole := decodeHost_encode wellFormed []
  rw [List.append_nil] at whole
  exact ⟨whole, fun n short => truncated_of_take outcome_decodeHost whole short⟩

theorem decodeAddresses_take {found : List AddressInfo}
    (fit : ∀ a ∈ found, ∀ s ∈ a.canonicalName, TextFits s) :
    decodeAddresses (encodeAddresses found) = .ok (found, []) ∧
      ∀ n < (encodeAddresses found).length,
        decodeAddresses ((encodeAddresses found).take n) = .error .truncated := by
  have whole := decodeAddresses_encode fit []
  rw [List.append_nil] at whole
  exact ⟨whole, fun n short => truncated_of_take outcome_decodeAddresses whole short⟩

/-- The encoding of an entry and the list in a response are read back when their last byte is there,
and wherever they are cut off, the reader calls for more. Whatever bytes a reader is given, it comes
to an outcome in which nothing past the bytes has a part: each of its loops takes at least four
bytes off in every turn that does not call for more, and the numbers of a header are all inside
it. -/
theorem incomplete_is_truncated :
    (∀ h : HostEntry, h.WellFormed → decodeHost h.encode = .ok (h, []) ∧
        ∀ n < h.encode.length, decodeHost (h.encode.take n) = .error .truncated) ∧
      (∀ found : List AddressInfo, (∀ a ∈ found, ∀ s ∈ a.canonicalName, TextFits s) → ∀ body,
        (Answer.addresses found).encode = Bytes.ofString "222" ++ [0] ++ body →
          decodeAddresses body = .ok (found, []) ∧
            ∀ n < body.length, decodeAddresses (body.take n) = .error .truncated) ∧
      (∀ b, Outcome decodeHost b ∧ Outcome decodeAddresses b) ∧
      Loop takeText readTexts ∧ (∀ length, Loop (takeAddress length) (readAddresses length)) ∧
      Loop takeInfo decodeAddresses ∧
      ∀ data e, readHeader data = .error e → e = .malformed .headerLength := by
  refine ⟨fun h wellFormed => decodeHost_take wellFormed, fun found fit body response => ?_,
    fun b => ⟨outcome_decodeHost b, outcome_decodeAddresses b⟩, loop_readTexts,
    loop_readAddresses, loop_decodeAddresses, fun data e => readHeader_eq_error⟩
  rw [Answer.encode, encodeCode_lookupResult] at response
  obtain rfl := List.append_cancel_left response
  exact decodeAddresses_take fit

/-- An entry that breaks off inside the length of an alias, and a list that breaks off where the
frame of a header ends. -/
theorem incomplete_entry_and_list :
    nulledEntry.WellFormed ∧ 7 < nulledEntry.encode.length ∧
      decodeHost (nulledEntry.encode.take 7) = .error .truncated ∧
      (∀ a ∈ twoAddresses, ∀ s ∈ a.canonicalName, TextFits s) ∧
      24 < (encodeAddresses twoAddresses).length ∧
      decodeAddresses ((encodeAddresses twoAddresses).take 24) = .error .truncated := by
  have wellFormed : nulledEntry.WellFormed := by decide +kernel
  have short : 7 < nulledEntry.encode.length := by decide +kernel
  have fit : ∀ a ∈ twoAddresses, ∀ s ∈ a.canonicalName, TextFits s := by decide +kernel
  have short' : 24 < (encodeAddresses twoAddresses).length := by decide +kernel
  obtain ⟨entry, list, -⟩ := incomplete_is_truncated
  refine ⟨wellFormed, short, (entry _ wellFormed).2 7 short, fit, short', ?_⟩
  exact (list _ fit _ (congrArg (· ++ _) encodeCode_lookupResult)).2 24 short'

end NetControl.Lookup
