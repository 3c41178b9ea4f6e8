import NetControl.Proofs.Lookup.Collecting
import NetControl.Proofs.Text.Digits
import NetControl.Proofs.Text.Plain

/-!
# Streams of responses

The responses of a connection stand one after the other, with nothing between them and in three
different framings. `readReply_encode` says that a client reads back each response it is sent, if it
knows which kind of lookup the response answers, and that it stops where the response ends, whatever
follows there. `replies_delimited` carries this over whole streams, and adds what the first four
bytes of a response tell by themselves: whether it is a text, and which of the two codes of a lookup
it has.
-/

namespace NetControl.Lookup

open Command

variable {rest : Bytes} {kind : Kind}

/-! ## What may be sent -/

/-- The answer is one to a lookup of the kind, or says that the lookup failed. -/
def Answer.Suits : Answer → Kind → Prop
  | addresses _, kind => kind = .addresses
  | host _, kind => kind = .hostByName
  | hostName _, kind => kind = .hostByAddress
  | failed _, _ => True

/-- A rejection is a response to a lookup of any kind. -/
def Reply.Suits : Reply → Kind → Prop
  | rejected _ _, _ => True
  | answered answer, kind => answer.Suits kind

/-- The texts of the answer are short enough for their frames, and the addresses of an entry have
the length that the entry says. -/
def Answer.Sendable : Answer → Prop
  | addresses found => ∀ a ∈ found, ∀ s ∈ a.canonicalName, TextFits s
  | host entry => entry.WellFormed
  | hostName name => ∀ s ∈ name, TextFits s
  | failed _ => True

/-- A rejection has a code of three digits and a message without a NUL. -/
def Reply.Sendable : Reply → Prop
  | rejected code message => code.toNat < 1000 ∧ Text.IsPlain message
  | answered answer => answer.Sendable

instance : (answer : Answer) → Decidable answer.Sendable
  | .addresses found =>
    inferInstanceAs (Decidable (∀ a ∈ found, ∀ s ∈ a.canonicalName, TextFits s))
  | .host entry => inferInstanceAs (Decidable entry.WellFormed)
  | .hostName name => inferInstanceAs (Decidable (∀ s ∈ name, TextFits s))
  | .failed _ => inferInstanceAs (Decidable True)

instance : (r : Reply) → Decidable r.Sendable
  | .rejected code message =>
    inferInstanceAs (Decidable (code.toNat < 1000 ∧ Text.IsPlain message))
  | .answered answer => inferInstanceAs (Decidable answer.Sendable)

theorem suits_answerOf {α : Type} (present : α → Answer) (suits : ∀ a, (present a).Suits kind)
    (result : Except Failure α) : (Query.answerOf present result).Suits kind := by
  cases result with
  | ok found => exact suits found
  | error failure => exact trivial

/-- Every lookup is answered in its kind. -/
theorem suits_answer (q : Query) (r : Resolver) (interface : Option String) :
    (q.answer r interface).Suits q.kind := by
  cases q with
  | addresses host service hints => exact suits_answerOf .addresses (fun _ => rfl) _
  | hostByName name family => exact suits_answerOf .host (fun _ => rfl) _
  | hostByAddress address family =>
    exact suits_answerOf (fun h : HostEntry => .hostName h.name) (fun _ => rfl) _

/-! ## Codes of lookups -/

theorem readCode_lookupResult (b : Bytes) :
    readCode (50 :: 50 :: 50 :: 0 :: b) = .ok (Code.lookupResult, b) := by
  have code : codeOf? 50 50 50 = some Code.lookupResult := by decide +kernel
  rw [readCode, code]
  rfl

theorem readCode_lookupFailed (b : Bytes) :
    readCode (52 :: 48 :: 49 :: 0 :: b) = .ok (Code.lookupFailed, b) := by
  have code : codeOf? 52 48 49 = some Code.lookupFailed := by decide +kernel
  rw [readCode, code]
  rfl

/-- After the code of a result stands what the lookup has found. -/
theorem readReply_found {b : Bytes} {answer : Answer}
    (found : readFound kind b = .ok (answer, rest)) :
    readReply kind (Response.encodeCode Code.lookupResult ++ b) = .ok (.answered answer, rest) := by
  have bytes : Response.encodeCode Code.lookupResult ++ b = 50 :: 50 :: 50 :: 0 :: b := by
    rw [encodeCode_lookupResult]
    rfl
  rw [bytes, readReply, if_pos rfl]
  refine bind_eq_ok.mpr ⟨_, readCode_lookupResult b, ?_⟩
  dsimp only
  rw [if_neg (by decide)]
  exact bind_eq_ok.mpr ⟨_, found, rfl⟩

/-- After the code of a failure stands a frame with the resolver's code. -/
theorem readReply_failed {b data : Bytes} {answer : Answer}
    (frame : readFrame b = .ok (data, rest)) (failure : readFailure data = .ok answer) :
    readReply kind (Response.encodeCode Code.lookupFailed ++ b) = .ok (.answered answer, rest) := by
  have bytes : Response.encodeCode Code.lookupFailed ++ b = 52 :: 48 :: 49 :: 0 :: b := by
    rw [encodeCode_lookupFailed]
    rfl
  rw [bytes, readReply, if_pos rfl]
  refine bind_eq_ok.mpr ⟨_, readCode_lookupFailed b, ?_⟩
  dsimp only
  rw [if_pos rfl]
  refine bind_eq_ok.mpr ⟨_, frame, ?_⟩
  exact bind_eq_ok.mpr ⟨_, failure, rfl⟩

/-! ## Answers -/

theorem readFailure_le32 (code : UInt32) : readFailure (Bytes.le32 code) = .ok (.failed code) := by
  have same := Bytes.readBE32_be32 code
  unfold readFailure Bytes.le32 Bytes.be32
  simp only [List.reverse_cons, List.reverse_nil, List.nil_append, List.cons_append, same]

theorem readReply_answer {answer : Answer} (suits : answer.Suits kind)
    (sendable : answer.Sendable) (rest : Bytes) :
    readReply kind (answer.encode ++ rest) = .ok (.answered answer, rest) := by
  cases answer with
  | addresses found =>
    obtain rfl : kind = .addresses := suits
    rw [Answer.encode, List.append_assoc]
    refine readReply_found (map_eq_ok.mpr ⟨(found, rest), ?_, rfl⟩)
    exact readCollected_addresses_eq_ok_iff.mpr (decodeAddresses_encode sendable rest)
  | host entry =>
    obtain rfl : kind = .hostByName := suits
    rw [Answer.encode, List.append_assoc]
    refine readReply_found (map_eq_ok.mpr ⟨(entry, rest), ?_, rfl⟩)
    exact readCollected_host_eq_ok_iff.mpr (decodeHost_encode sendable rest)
  | hostName name =>
    obtain rfl : kind = .hostByAddress := suits
    rw [Answer.encode, Response.encode, List.append_assoc, List.append_assoc]
    refine readReply_found (bind_eq_ok.mpr ⟨(nameData name, rest), ?_, ?_⟩)
    · refine readFrame_eq_ok_iff.mpr ⟨length_nameData_lt_iff.mpr sendable, ?_⟩
      rw [frame, List.append_assoc]
    · exact bind_eq_ok.mpr ⟨name, readOption_eq_ok_iff.mpr rfl, rfl⟩
  | failed code =>
    rw [Answer.encode, Response.encode, List.append_assoc, List.append_assoc]
    have read : readFrame (Bytes.be32 (UInt32.ofNat (Bytes.le32 code).length) ++
        (Bytes.le32 code ++ rest)) = .ok (Bytes.le32 code, rest) := by
      refine readFrame_eq_ok_iff.mpr ⟨by rw [Bytes.length_le32]; omega, ?_⟩
      rw [frame, List.append_assoc]
    exact readReply_failed read (readFailure_le32 code)

/-! ## Rejections -/

/-- The digits of a code are three, and they are read as the code. -/
theorem exists_digits {code : Code} (small : code.toNat < 1000) :
    ∃ x y z, code.digits = [x, y, z] ∧ Text.readDigits? [x, y, z] = some code.toNat := by
  have whole : code.toNat % 1000 = code.toNat := Nat.mod_eq_of_lt small
  have fits : (Nat.toDigits 10 code.toNat).length ≤ 3 :=
    (Nat.length_toDigits_le_iff (by decide) (by decide)).mpr small
  have three : code.digits.length = 3 := by
    rw [Code.digits, whole, Text.length_padded fits]
  have value : Text.readDigits? code.digits = some code.toNat := by
    rw [Code.digits, whole, Text.readDigits?_padded_toDigits]
  match read : code.digits with
  | [x, y, z] => exact ⟨x, y, z, rfl, read ▸ value⟩
  | [] | [_] | [_, _] | _ :: _ :: _ :: _ :: _ => simp [read] at three

theorem readLine_ofString {s : String} (plain : Text.IsPlain s) (rest : Bytes) :
    readLine (Bytes.ofString s ++ [0] ++ rest) = .ok (s, rest) := by
  have unbroken : ∀ x ∈ Bytes.ofString s, decide (x ≠ 0) = true := by
    intro x member
    exact decide_eq_true fun zero => Text.not_mem_ofString_iff.mpr plain (zero ▸ member)
  rw [List.append_assoc, readLine, List.dropWhile_append_of_pos unbroken,
    List.takeWhile_append_of_pos unbroken]
  simp [Bytes.toString?_ofString]

/-- The text of a rejection: three digits, a blank and the message. -/
theorem line_eq {code : Code} {x y z : Char} (digits : code.digits = [x, y, z])
    (message : String) :
    Response.line code none message = String.ofList [x, y, z, ' '] ++ message := by
  have blank : String.ofList [x, y, z] ++ " " = String.ofList ([x, y, z] ++ [' ']) :=
    String.ofList_append.symm
  rw [Response.line, digits, blank]
  rfl

theorem readRejection_line {code : Code} (small : code.toNat < 1000) (message : String) :
    readRejection (Response.line code none message) = .ok (.rejected code message) := by
  obtain ⟨x, y, z, digits, value⟩ := exists_digits small
  have characters : (Response.line code none message).toList =
      x :: y :: z :: ' ' :: message.toList := by
    rw [line_eq digits, String.toList_append, String.toList_ofList]
    rfl
  unfold readRejection
  rw [characters]
  simp only [value, String.ofList_toList, UInt16.ofNat_toNat]

theorem isPlain_line {code : Code} {message : String} (small : code.toNat < 1000)
    (plain : Text.IsPlain message) : Text.IsPlain (Response.line code none message) := by
  obtain ⟨x, y, z, digits, value⟩ := exists_digits small
  rw [line_eq digits, Text.isPlain_append]
  refine ⟨?_, plain⟩
  unfold Text.IsPlain
  rw [String.toList_ofList]
  intro inside
  rcases List.mem_append.mp (show '\x00' ∈ [x, y, z] ++ [' '] from inside) with digit | blank
  · cases Text.isDigit_of_readDigits? value _ digit
  · cases List.mem_singleton.mp blank

/-- The first three bytes of a rejection are its digits, the fourth is a blank. -/
theorem ofString_line {code : Code} (small : code.toNat < 1000) (message : String) :
    ∃ a b c, Bytes.ofString (Response.line code none message) =
      a :: b :: c :: 32 :: Bytes.ofString message := by
  obtain ⟨x, y, z, digits, value⟩ := exists_digits small
  have ascii : ∀ c ∈ [x, y, z], String.utf8EncodeChar c = [UInt8.ofNat c.toNat] := fun c member =>
    Bytes.utf8EncodeChar_of_ascii
      (Text.toNat_lt_of_isDigit (Text.isDigit_of_readDigits? value c member))
  simp only [List.forall_mem_cons] at ascii
  refine ⟨UInt8.ofNat x.toNat, UInt8.ofNat y.toNat, UInt8.ofNat z.toNat, ?_⟩
  rw [line_eq digits, Bytes.ofString_append, Bytes.ofString_eq_flatMap (String.ofList _),
    String.toList_ofList]
  simp only [List.flatMap_cons, List.flatMap_nil, ascii]
  rfl

theorem readReply_rejected {code : Code} {message : String} (small : code.toNat < 1000)
    (plain : Text.IsPlain message) (rest : Bytes) :
    readReply kind ((Reply.rejected code message).encode ++ rest) =
      .ok (.rejected code message, rest) := by
  obtain ⟨a, b, c, opening⟩ := ofString_line small message
  have line := readLine_ofString (isPlain_line small plain) rest
  rw [Reply.encode, Response.encode, readReply.eq_def]
  rw [opening] at line ⊢
  simp only [List.cons_append] at line ⊢
  rw [if_neg (by decide)]
  refine bind_eq_ok.mpr ⟨_, line, ?_⟩
  exact bind_eq_ok.mpr ⟨_, readRejection_line small message, rfl⟩

/-! ## Streams -/

/-- A client that knows the kind of the lookup reads the response, and stops where it ends. -/
theorem readReply_encode {r : Reply} (suits : r.Suits kind) (sendable : r.Sendable)
    (rest : Bytes) : readReply kind (r.encode ++ rest) = .ok (r, rest) := by
  cases r with
  | rejected code message => exact readReply_rejected sendable.1 sendable.2 rest
  | answered answer => exact readReply_answer suits sendable rest

theorem readReplies_encode {kinds : List Kind} {replies : List Reply}
    (suit : List.Forall₂ (fun kind r => r.Suits kind) kinds replies)
    (sendable : ∀ r ∈ replies, r.Sendable) (rest : Bytes) :
    readReplies kinds (replies.flatMap Reply.encode ++ rest) = .ok (replies, rest) := by
  induction suit with
  | nil => rfl
  | @cons kind r kinds replies first others ih =>
    rw [List.forall_mem_cons] at sendable
    rw [List.flatMap_cons, List.append_assoc]
    refine bind_eq_ok.mpr ⟨_, readReply_encode first sendable.1 _, ?_⟩
    exact bind_eq_ok.mpr ⟨_, ih sendable.2, rfl⟩

/-- What the first four bytes of a response tell. -/
structure Reply.OpensWith (r : Reply) (opening : Bytes) : Prop where
  four : opening.length = 4
  /-- A blank in the fourth place says that a text follows. -/
  text : opening[3]? = some 32 ↔ ∃ code message, r = .rejected code message
  /-- A NUL in the fourth place says that no text follows. -/
  binary : opening[3]? = some 0 ↔ ∃ answer, r = .answered answer
  failed : opening = Bytes.ofString "401" ++ [0] ↔ ∃ code, r = .answered (.failed code)
  found : opening = Bytes.ofString "222" ++ [0] ↔
    ∃ answer, r = .answered answer ∧ ∀ code, answer ≠ .failed code

theorem opensWith_result {answer : Answer} (found : ∀ code, answer ≠ .failed code) :
    (Reply.answered answer).OpensWith (Bytes.ofString "222" ++ [0]) where
  four := by decide +kernel
  text := iff_of_false (by decide +kernel) (by simp)
  binary := iff_of_true (by decide +kernel) ⟨answer, rfl⟩
  failed := iff_of_false (by decide +kernel) (by simp [found])
  found := iff_of_true rfl ⟨answer, rfl, found⟩

theorem opensWith_failure (code : UInt32) :
    (Reply.answered (.failed code)).OpensWith (Bytes.ofString "401" ++ [0]) where
  four := by decide +kernel
  text := iff_of_false (by decide +kernel) (by simp)
  binary := iff_of_true (by decide +kernel) ⟨_, rfl⟩
  failed := iff_of_true rfl ⟨code, rfl⟩
  found := iff_of_false (by decide +kernel) (by simp)

theorem opensWith_rejection (code : Code) (message : String) (a b c : UInt8) :
    (Reply.rejected code message).OpensWith [a, b, c, 32] where
  four := rfl
  text := iff_of_true rfl ⟨code, message, rfl⟩
  binary := iff_of_false (by simp) (by simp)
  failed := by
    have codes : Bytes.ofString "401" ++ [0] = [52, 48, 49, 0] := by decide +kernel
    rw [codes]
    exact iff_of_false (by simp) (by simp)
  found := by
    have codes : Bytes.ofString "222" ++ [0] = [50, 50, 50, 0] := by decide +kernel
    rw [codes]
    exact iff_of_false (by simp) (by simp)

theorem take_encode_answer {code : Code} {opening : Bytes}
    (codes : Response.encodeCode code = opening) (four : opening.length = 4) (b : Bytes) :
    (Response.encodeCode code ++ b).take 4 = opening := by
  rw [codes, ← four, List.take_left]

theorem opensWith_take {r : Reply} (sendable : r.Sendable) : r.OpensWith (r.encode.take 4) := by
  cases r with
  | rejected code message =>
    obtain ⟨a, b, c, opening⟩ := ofString_line sendable.1 message
    rw [Reply.encode, Response.encode, opening]
    exact opensWith_rejection code message a b c
  | answered answer =>
    cases answer with
    | addresses found =>
      rw [Reply.encode, Answer.encode, take_encode_answer encodeCode_lookupResult rfl]
      exact opensWith_result (by simp)
    | host entry =>
      rw [Reply.encode, Answer.encode, take_encode_answer encodeCode_lookupResult rfl]
      exact opensWith_result (by simp)
    | hostName name =>
      rw [Reply.encode, Answer.encode, Response.encode, List.append_assoc,
        take_encode_answer encodeCode_lookupResult rfl]
      exact opensWith_result (by simp)
    | failed code =>
      rw [Reply.encode, Answer.encode, Response.encode, List.append_assoc,
        take_encode_answer encodeCode_lookupFailed rfl]
      exact opensWith_failure code

/-- However many responses stand one after the other, and whatever follows them, a client that knows
the kinds of the lookups reads every response exactly, each where the one before it ends. Whether a
response is a text, and whether its lookup has failed, stands in its first four bytes. -/
theorem replies_delimited {kinds : List Kind} {replies : List Reply}
    (suit : List.Forall₂ (fun kind r => r.Suits kind) kinds replies)
    (sendable : ∀ r ∈ replies, r.Sendable) (rest : Bytes) :
    readReplies kinds (replies.flatMap Reply.encode ++ rest) = .ok (replies, rest) ∧
      (∀ i kind r, kinds[i]? = some kind → replies[i]? = some r →
        readReply kind ((replies.drop i).flatMap Reply.encode ++ rest) =
          .ok (r, (replies.drop (i + 1)).flatMap Reply.encode ++ rest)) ∧
      ∀ r ∈ replies, r.OpensWith (r.encode.take 4) := by
  refine ⟨readReplies_encode suit sendable rest, ?_,
    fun r member => opensWith_take (sendable r member)⟩
  intro i kind r asked sent
  obtain ⟨inside, rfl⟩ := List.getElem?_eq_some_iff.mp sent
  obtain ⟨known, rfl⟩ := List.getElem?_eq_some_iff.mp asked
  have suits : replies[i].Suits kinds[i] := suit.get known inside
  rw [List.drop_eq_getElem_cons inside, List.flatMap_cons, List.append_assoc]
  exact readReply_encode suits (sendable _ (List.getElem_mem inside)) _

/-- Responses in every framing. Some of the texts have a code that lookups have too. -/
def mixedReplies : List Reply :=
  [.answered (.host nulledEntry), .rejected 401 "222", .answered (.addresses twoAddresses),
    .rejected 222 "", .answered (.failed 4294967295), .answered (.hostName none),
    .answered (.hostName (some "")), .answered (.addresses [])]

/-- The kinds of the lookups that these answer. -/
def mixedKinds : List Kind :=
  [.hostByName, .addresses, .addresses, .hostByAddress, .hostByName, .hostByAddress,
    .hostByAddress, .addresses]

theorem replies_delimited_mixed :
    List.Forall₂ (fun kind r => r.Suits kind) mixedKinds mixedReplies ∧
      (∀ r ∈ mixedReplies, r.Sendable) ∧
      readReplies mixedKinds (mixedReplies.flatMap Reply.encode ++ [50, 50]) =
        .ok (mixedReplies, [50, 50]) := by
  have suit : List.Forall₂ (fun kind r => r.Suits kind) mixedKinds mixedReplies := by
    repeat' constructor
  have sendable : ∀ r ∈ mixedReplies, r.Sendable := by decide +kernel
  exact ⟨suit, sendable, (replies_delimited suit sendable [50, 50]).1⟩

end NetControl.Lookup
