import Mathlib.Order.Bounds.Basic
import NetControl.Proofs.Tether.Framing

/-!
# Where a frame is cut

A frame is filled field by field: a field is looked at, then its size is, and the first one for
which there is no room ends the frame. What this comes to can be said without the steps. The number
of fields in a frame is the greatest one with which it keeps its size, and the fields that were
looked at are those and the one behind them, so that a field further on makes no difference, not
even if it is not acceptable (`longest_frames`).

The text of a frame is stated here as its fields with bars between them. A longer beginning makes a
longer text (`Fits.mono`); the greatest beginning that fits is therefore the one that fits while the
next does not (`isGreatest_fits_iff`), which is how `Frame.fill` finds it.
-/

namespace NetControl.Tether

namespace Frame

/-- The frame with a head and fields, whatever its size. -/
def joined (head : String) (fields : List String) : Frame :=
  ⟨"|".intercalate (head :: fields)⟩

/-- The first `n` of the fields are in the list and have room in one frame, with its NUL. -/
def Fits (head : String) (fields : List String) (n : Nat) : Prop :=
  n ≤ fields.length ∧ (joined head (fields.take n)).bytes.length < 1024

/-! ## Beginnings that fit -/

variable {head field : String} {fields rest : List String} {n m k : Nat}

/-- A first field can be counted to the head. -/
theorem joined_cons : joined head (field :: rest) = joined (head ++ "|" ++ field) rest := rfl

theorem ofString_joined (head : String) (fields : List String) :
    Bytes.ofString (joined head fields).text = Bytes.ofString head ++ barred fields := by
  induction fields generalizing head with
  | nil => exact (List.append_nil _).symm
  | cons field rest ih =>
    have separated : Bytes.ofString "|" = [bar] := rfl
    rw [joined_cons, ih, Bytes.ofString_append, Bytes.ofString_append, separated]
    simp

theorem length_bytes_joined (head : String) (fields : List String) :
    (joined head fields).bytes.length = head.utf8ByteSize + (barred fields).length + 1 := by
  rw [bytes, ofString_joined, List.length_append, List.length_append, Bytes.length_ofString]
  rfl

/-- A shorter beginning is no larger. -/
theorem length_barred_take_le (fields : List String) (shorter : m ≤ n) :
    (barred (fields.take m)).length ≤ (barred (fields.take n)).length := by
  induction fields generalizing m n with
  | nil => simp
  | cons field rest ih =>
    cases m with
    | zero => exact Nat.zero_le _
    | succ m =>
      obtain ⟨n, rfl⟩ : ∃ n', n = n' + 1 := ⟨n - 1, by omega⟩
      have later := ih (Nat.le_of_succ_le_succ shorter)
      simp only [List.take_succ_cons, barred_cons, List.length_cons, List.length_append]
      omega

theorem Fits.mono (fits : Fits head fields n) (shorter : m ≤ n) : Fits head fields m := by
  obtain ⟨inside, small⟩ := fits
  have smaller := length_barred_take_le fields shorter
  rw [length_bytes_joined] at small
  refine ⟨Nat.le_trans shorter inside, ?_⟩
  rw [length_bytes_joined]
  omega

/-- The greatest beginning that fits is the one behind which there is no room. -/
theorem isGreatest_fits_iff :
    IsGreatest {n | Fits head fields n} k ↔ Fits head fields k ∧ ¬Fits head fields (k + 1) := by
  constructor
  · rintro ⟨fits, greatest⟩
    exact ⟨fits, fun next => Nat.not_succ_le_self k (greatest next)⟩
  · rintro ⟨fits, full⟩
    refine ⟨fits, fun n longer => Nat.not_lt.mp fun more => full ?_⟩
    exact Fits.mono longer more

theorem fits_zero (small : head.utf8ByteSize + 1 < sizeLimit) : Fits head fields 0 :=
  ⟨Nat.zero_le _, by rw [length_bytes_joined]; exact small⟩

/-- One more field fits if it can be added to the head and the others fit behind it. -/
theorem fits_succ_iff : Fits head (field :: rest) (n + 1) ↔
    (push? ⟨head⟩ field = some ⟨head ++ "|" ++ field⟩ ∧ Fits (head ++ "|" ++ field) rest n) := by
  constructor
  · rintro ⟨inside, small⟩
    rw [List.take_succ_cons, joined_cons] at small
    refine ⟨if_pos ?_, Nat.le_of_succ_le_succ inside, small⟩
    rw [length_bytes_joined] at small
    change (head ++ "|" ++ field).utf8ByteSize + 1 < 1024
    omega
  · rintro ⟨-, inside, small⟩
    refine ⟨Nat.succ_le_succ inside, ?_⟩
    rwa [List.take_succ_cons, joined_cons]

/-- Where a field does not fit, nothing does. -/
theorem eq_zero_of_full (full : push? ⟨head⟩ field = none)
    (greatest : IsGreatest {n | Fits head (field :: rest) n} k) : k = 0 := by
  cases k with
  | zero => rfl
  | succ k =>
    have pushed := (fits_succ_iff.mp greatest.1).1
    rw [full] at pushed
    cases pushed

/-- Where a field fits, the greatest beginning has it and the greatest one behind it. -/
theorem exists_of_pushed (pushed : push? ⟨head⟩ field = some ⟨head ++ "|" ++ field⟩)
    (greatest : IsGreatest {n | Fits head (field :: rest) n} k) :
    ∃ k', k = k' + 1 ∧ IsGreatest {n | Fits (head ++ "|" ++ field) rest n} k' := by
  obtain ⟨fits, full⟩ := isGreatest_fits_iff.mp greatest
  cases k with
  | zero =>
    exact (full (fits_succ_iff.mpr ⟨pushed, fits_zero (utf8ByteSize_of_push? pushed)⟩)).elim
  | succ k =>
    refine ⟨k, rfl, isGreatest_fits_iff.mpr ⟨(fits_succ_iff.mp fits).2, fun next => ?_⟩⟩
    exact full (fits_succ_iff.mpr ⟨pushed, next⟩)

/-- Every list has a greatest beginning that fits behind a head that does. -/
theorem exists_isGreatest_fits (small : head.utf8ByteSize + 1 < sizeLimit)
    (fields : List String) : ∃ k, IsGreatest {n | Fits head fields n} k := by
  induction fields generalizing head with
  | nil =>
    refine ⟨0, isGreatest_fits_iff.mpr ⟨fits_zero small, fun next => ?_⟩⟩
    exact Nat.not_succ_le_zero 0 next.1
  | cons field rest ih =>
    cases pushed : push? ⟨head⟩ field with
    | none =>
      refine ⟨0, isGreatest_fits_iff.mpr ⟨fits_zero small, fun next => ?_⟩⟩
      have fits := (fits_succ_iff.mp next).1
      rw [pushed] at fits
      cases fits
    | some longer =>
      obtain rfl : longer = ⟨head ++ "|" ++ field⟩ := eq_of_push? pushed
      obtain ⟨k, greatest⟩ := ih (utf8ByteSize_of_push? pushed)
      obtain ⟨fits, full⟩ := isGreatest_fits_iff.mp greatest
      refine ⟨k + 1, isGreatest_fits_iff.mpr ⟨fits_succ_iff.mpr ⟨pushed, fits⟩, fun next => ?_⟩⟩
      exact full (fits_succ_iff.mp next).2

/-- The next field decides about the greatest beginning, and no field behind it. -/
theorem isGreatest_fits_take_append (greatest : IsGreatest {n | Fits head fields n} k)
    (more : k < fields.length) (others : List String) :
    IsGreatest {n | Fits head (fields.take (k + 1) ++ others) n} k := by
  obtain ⟨fits, full⟩ := isGreatest_fits_iff.mp greatest
  have same {n : Nat} (first : n ≤ k + 1) :
      Fits head (fields.take (k + 1) ++ others) n ↔ Fits head fields n := by
    have whole : (fields.take (k + 1)).length = k + 1 := List.length_take_of_le more
    unfold Fits
    rw [List.take_append_of_le_length (by omega), List.take_take, Nat.min_eq_left first,
      List.length_append, whole]
    exact and_congr_left fun _ => ⟨fun _ => by omega, fun _ => by omega⟩
  refine isGreatest_fits_iff.mpr ⟨(same (Nat.le_succ k)).mpr fits, ?_⟩
  rwa [same (Nat.le_refl (k + 1))]

/-! ## What filling comes to -/

variable {acceptable : String → Bool}

/-- The first field that is not acceptable is reported if it is in the greatest beginning that fits
or right behind it. -/
theorem ending_fill_of_find? (greatest : IsGreatest {n | Fits head fields n} k)
    (found : (fields.take (k + 1)).find? (fun x => !acceptable x) = some field) :
    (fill acceptable ⟨head⟩ fields).ending = .rejected field := by
  induction fields generalizing head k with
  | nil => cases found
  | cons first rest ih =>
    rw [List.take_succ_cons] at found
    cases accepted : acceptable first with
    | false =>
      rw [List.find?_cons_of_pos (by rw [accepted]; rfl), Option.some_inj] at found
      rw [fill_of_rejected accepted, found]
    | true =>
      rw [List.find?_cons_of_neg (by rw [accepted]; simp)] at found
      cases pushed : push? ⟨head⟩ first with
      | none =>
        obtain rfl := eq_zero_of_full pushed greatest
        cases found
      | some longer =>
        obtain rfl : longer = ⟨head ++ "|" ++ first⟩ := eq_of_push? pushed
        obtain ⟨k', rfl, later⟩ := exists_of_pushed pushed greatest
        rw [fill_of_pushed accepted pushed]
        exact ih later found

/-- If there is no such field, the frame has the greatest beginning that fits. -/
theorem fill_of_find?_eq_none (greatest : IsGreatest {n | Fits head fields n} k)
    (clean : (fields.take (k + 1)).find? (fun x => !acceptable x) = none) :
    fill acceptable ⟨head⟩ fields = ⟨joined head (fields.take k), fields.take k,
      if k = fields.length then .complete else .full⟩ := by
  induction fields generalizing head k with
  | nil =>
    obtain rfl : k = 0 := Nat.le_zero.mp greatest.1.1
    rfl
  | cons first rest ih =>
    rw [List.take_succ_cons] at clean
    cases accepted : acceptable first with
    | false =>
      rw [List.find?_cons_of_pos (by rw [accepted]; rfl)] at clean
      cases clean
    | true =>
      rw [List.find?_cons_of_neg (by rw [accepted]; simp)] at clean
      cases pushed : push? ⟨head⟩ first with
      | none =>
        obtain rfl := eq_zero_of_full pushed greatest
        exact fill_of_full accepted pushed
      | some longer =>
        obtain rfl : longer = ⟨head ++ "|" ++ first⟩ := eq_of_push? pushed
        obtain ⟨k', rfl, later⟩ := exists_of_pushed pushed greatest
        rw [fill_of_pushed accepted pushed, ih later clean, List.take_succ_cons, joined_cons]
        simp

end Frame

/-! ## The two kinds of frames -/

variable {mark : Mark} {servers interfaces : List String} {k : Nat}

/-- The head of a frame with name servers leaves room for some. -/
theorem utf8ByteSize_hex_le (mark : Mark) : mark.hex.utf8ByteSize ≤ 32 := by
  have digits : (Nat.toDigits 16 mark.value.toNat).length ≤ 8 :=
    (Nat.length_toDigits_le_iff (by decide) (by decide)).mpr mark.value.toNat_lt
  have size := Bytes.utf8ByteSize_le mark.hex
  rw [Mark.hex, String.toList_ofList] at size
  rw [Mark.hex]
  omega

theorem updateServers_of_isGreatest
    (greatest : IsGreatest {n | Frame.Fits ("update_dns|0x" ++ mark.hex) servers n} k) :
    updateServers mark servers =
      match (servers.take (k + 1)).find? (fun server => !isNumericHost server) with
      | some server => .error server
      | none => .ok ⟨.joined ("update_dns|0x" ++ mark.hex) (servers.take k), servers.take k⟩ := by
  unfold updateServers fillServers
  have head : serversHead mark = ⟨"update_dns|0x" ++ mark.hex⟩ := rfl
  rw [head]
  cases found : (servers.take (k + 1)).find? (fun server => !isNumericHost server) with
  | some server =>
    have ending := Frame.ending_fill_of_find? greatest found
    dsimp only
    rw [ending]
  | none =>
    rw [Frame.fill_of_find?_eq_none greatest found]
    by_cases all : k = servers.length
    · rw [if_pos all]
    · rw [if_neg all]

theorem updateInterfaces_of_isGreatest
    (greatest : IsGreatest {n | Frame.Fits "update_ifaces" interfaces n} k) :
    updateInterfaces interfaces =
      if k = 0 then none else some (.joined "update_ifaces" (interfaces.take k)) := by
  have clean : (interfaces.take (k + 1)).find? (fun _ => !true) = none := by simp
  unfold updateInterfaces fillInterfaces
  rw [Frame.fill_of_find?_eq_none greatest clean]
  dsimp only
  have inside : k ≤ interfaces.length := greatest.1.1
  by_cases none : k = 0
  · subst none
    rfl
  · rw [if_neg none, if_neg]
    rw [List.take_eq_nil_iff]
    rintro (zero | empty)
    · exact none zero
    · subst empty
      exact none (Nat.le_zero.mp inside)

/-- A list of name servers is refused with the first one that is no literal address, if that is in
the longest beginning that fits into a frame or right behind it. Otherwise the frame is the head and
that beginning, which is also the list that is kept, whatever comes behind the server that does not
fit. A frame with interfaces has the longest beginning that fits, and there is none just if that is
empty. -/
theorem longest_frames (mark : Mark) (servers interfaces : List String) :
    (∃ k, IsGreatest {n | Frame.Fits ("update_dns|0x" ++ mark.hex) servers n} k ∧
        updateServers mark servers =
          (match (servers.take (k + 1)).find? (fun server => !isNumericHost server) with
          | some server => .error server
          | none => .ok ⟨.joined ("update_dns|0x" ++ mark.hex) (servers.take k), servers.take k⟩) ∧
        (k < servers.length → ∀ others,
          updateServers mark (servers.take (k + 1) ++ others) = updateServers mark servers)) ∧
      ∃ k, IsGreatest {n | Frame.Fits "update_ifaces" interfaces n} k ∧
        updateInterfaces interfaces =
          if k = 0 then none else some (.joined "update_ifaces" (interfaces.take k)) := by
  constructor
  · have small : ("update_dns|0x" ++ mark.hex).utf8ByteSize + 1 < Frame.sizeLimit := by
      have digits := utf8ByteSize_hex_le mark
      have word : "update_dns|0x".utf8ByteSize = 13 := rfl
      rw [String.utf8ByteSize_append, word, Frame.sizeLimit]
      omega
    obtain ⟨k, greatest⟩ := Frame.exists_isGreatest_fits small servers
    refine ⟨k, greatest, updateServers_of_isGreatest greatest, fun more others => ?_⟩
    have same := Frame.isGreatest_fits_take_append greatest more others
    have whole : (servers.take (k + 1)).length = k + 1 := List.length_take_of_le more
    rw [updateServers_of_isGreatest same, updateServers_of_isGreatest greatest,
      List.take_append_of_le_length (by omega), List.take_append_of_le_length (by omega),
      List.take_take, List.take_take, Nat.min_self, Nat.min_eq_left (Nat.le_succ k)]
  · have small : "update_ifaces".utf8ByteSize + 1 < Frame.sizeLimit := by decide
    obtain ⟨k, greatest⟩ := Frame.exists_isGreatest_fits small interfaces
    exact ⟨k, greatest, updateInterfaces_of_isGreatest greatest⟩

-- The mark of network 100: its number below the bits of a mark for name servers.
example : updateServers (Mark.forDns 100) ["8.8.8.8", "::1"] =
    .ok ⟨⟨"update_dns|0xf0064|8.8.8.8|::1"⟩, ["8.8.8.8", "::1"]⟩ := by
  rfl

end NetControl.Tether
