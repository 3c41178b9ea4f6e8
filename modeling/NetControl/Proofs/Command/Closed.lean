import NetControl.Command.Client
import NetControl.Proofs.Text.Plain

/-!
# Responses that a NUL closes

A text response with a plain message has one NUL, its last byte (`Response.isClosed_text`). The peer
that cuts what it receives at the NULs therefore gets the responses back one by one
(`Response.splitOn_output`).
-/

namespace NetControl.Command

open Text

/-- The bytes of a code's digits. -/
theorem Code.isPlain_digits (code : Code) : IsPlain (String.ofList code.digits) := by
  unfold IsPlain Code.digits Text.padded
  rw [String.toList_ofList, List.mem_append, not_or]
  refine ⟨fun inside => ?_, isPlain_toDigits _⟩
  cases List.eq_of_mem_replicate inside

namespace Response

/-- The response has one NUL, which is its last byte. -/
def IsClosed (r : Response) : Prop :=
  ∃ body, 0 ∉ body ∧ r.encode = body ++ [0]

theorem isPlain_line {code : Code} {sequence : Option Int32} {message : String}
    (plain : IsPlain message) : IsPlain (line code sequence message) := by
  have blank : IsPlain " " := by decide
  cases sequence with
  | none =>
    unfold line
    simp only [isPlain_append]
    exact ⟨⟨code.isPlain_digits, blank⟩, plain⟩
  | some n =>
    unfold line
    simp only [isPlain_append]
    exact ⟨⟨⟨⟨code.isPlain_digits, blank⟩, isPlain_decimal _⟩, blank⟩, plain⟩

theorem isClosed_text {code : Code} {sequence : Option Int32} {message : String}
    (plain : IsPlain message) : (text code sequence message).IsClosed :=
  ⟨_, not_mem_ofString_iff.mpr (isPlain_line plain), rfl⟩

/-- Cut at the NULs, the bytes of closed responses are the responses without their NULs, and nothing
after the last. -/
theorem splitOn_output {responses : List Response} (closed : ∀ r ∈ responses, r.IsClosed) :
    (responses.flatMap encode).splitOn 0 = responses.map (fun r => r.encode.dropLast) ++ [[]] := by
  induction responses with
  | nil => rfl
  | cons r rest ih =>
    obtain ⟨body, unbroken, encoded⟩ := closed r List.mem_cons_self
    have whole : body.splitOn 0 = [body] := by
      have single : ([0].intercalate [body]).splitOn 0 = [body] :=
        List.splitOn_intercalate 0 (List.forall_mem_singleton.mpr unbroken) (List.cons_ne_nil _ _)
      rwa [List.intercalate_singleton] at single
    rw [List.flatMap_cons, encoded, List.append_assoc, List.singleton_append,
      List.splitOn_append_cons_self, whole, ih fun r' member => closed r' (.tail r member),
      List.map_cons, encoded, List.dropLast_concat]
    rfl

end Response

end NetControl.Command
