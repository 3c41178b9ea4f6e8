import Mathlib.Algebra.Ring.Parity
import NetControl.Proofs.Command.Quoting

/-!
# The grammar of a request line

Whether a line has an argument list can be read off its signs: a backslash and the character after
it are one sign, every other character is one by itself (`Line.signs`). A line is refused for its
escapes if one of its signs is a backslash that escapes nothing, wherever it stands, and otherwise
for its quotes if their number is odd (`Line.verdict_fields`).

`Line.lines_follow_grammar` says this of whole lines, and that lines can be put together: with a
blank between them, two lines are read as the one and then the other.
-/

namespace NetControl.Command.Line

/-! ## Signs -/

/-- What is read of a line at once. -/
inductive Sign where
  /-- A character other than a backslash. -/
  | plain (c : Char)
  /-- A backslash, with the character after it if the line does not end there. -/
  | escape (after : Option Char)
deriving DecidableEq

/-- The signs of a line, from left to right. -/
def signs : List Char → List Sign
  | [] => []
  | ['\\'] => [.escape none]
  | '\\' :: c :: rest => .escape (some c) :: signs rest
  | c :: rest => .plain c :: signs rest

/-- The sign is a backslash that escapes nothing: it stands before neither a backslash nor a double
quote. -/
def Sign.EscapesNothing : Sign → Prop
  | plain _ => False
  | escape after => after ≠ some '\\' ∧ after ≠ some '"'

/-- The number of double quotes that are not escaped. -/
def quoteCount (line : List Char) : Nat :=
  (signs line).count (.plain '"')

/-- Some backslash of the line escapes nothing. -/
def HasBadEscape (line : List Char) : Prop :=
  ∃ s ∈ signs line, s.EscapesNothing

section

variable {c : Char} {rest : List Char}

/-- A character that neither escapes the next one nor is a backslash at the end is no backslash. -/
theorem ne_backslash (last : c = '\\' → rest = [] → False)
    (escapes : ∀ c' rest', c = '\\' → rest = c' :: rest' → False) : c ≠ '\\' := by
  intro same
  cases rest with
  | nil => exact last same rfl
  | cons c' rest' => exact escapes c' rest' same rfl

theorem signs_plain (backslash : c ≠ '\\') : signs (c :: rest) = .plain c :: signs rest := by
  rw [signs]
  · exact fun same => (backslash same).elim
  · exact fun c' rest' same => (backslash same).elim

theorem hasBadEscape_escape :
    HasBadEscape ('\\' :: c :: rest) ↔ ¬(c = '\\' ∨ c = '"') ∨ HasBadEscape rest := by
  unfold HasBadEscape
  rw [signs]
  simp [Sign.EscapesNothing]

theorem hasBadEscape_plain (backslash : c ≠ '\\') :
    HasBadEscape (c :: rest) ↔ HasBadEscape rest := by
  unfold HasBadEscape
  rw [signs_plain backslash]
  simp [Sign.EscapesNothing]

theorem quoteCount_escape : quoteCount ('\\' :: c :: rest) = quoteCount rest := by
  unfold quoteCount
  rw [signs]
  exact List.count_cons_of_ne Sign.noConfusion

theorem quoteCount_mark : quoteCount ('"' :: rest) = quoteCount rest + 1 := by
  unfold quoteCount
  rw [signs_plain (by decide), List.count_cons_self]

theorem quoteCount_plain (backslash : c ≠ '\\') (mark : c ≠ '"') :
    quoteCount (c :: rest) = quoteCount rest := by
  unfold quoteCount
  rw [signs_plain backslash, List.count_cons_of_ne]
  exact fun same => mark (Sign.plain.inj same)

end

/-! ## What the signs decide -/

/-- What the signs of the rest of a line have to be for an outcome, where a quote may be open. -/
def Verdict {α : Type} (quoted : Bool) (line : List Char) : Except LineError α → Prop
  | .error .badEscape => HasBadEscape line
  | .error .unclosedQuote => ¬HasBadEscape line ∧ Odd (quoteCount line + quoted.toNat)
  | .error .tooLong => False
  | .ok _ => ¬HasBadEscape line ∧ Even (quoteCount line + quoted.toNat)

namespace Verdict

variable {α β : Type} {quoted : Bool} {line : List Char} {outcome : Except LineError α}

/-- What is made of the fields plays no part. -/
theorem map (verdict : Verdict quoted line outcome) (f : α → β) :
    Verdict quoted line (outcome.map f) := by
  cases outcome with
  | error e => cases e <;> exact verdict
  | ok found => exact verdict

/-- Signs that agree on escapes and on the parity of the quotes decide the same. -/
theorem congr {quoted' : Bool} {line' : List Char} (verdict : Verdict quoted line outcome)
    (escapes : HasBadEscape line' ↔ HasBadEscape line)
    (quotes : Even (quoteCount line' + quoted'.toNat) ↔ Even (quoteCount line + quoted.toNat)) :
    Verdict quoted' line' outcome := by
  cases outcome with
  | error e =>
    cases e with
    | badEscape => exact escapes.mpr verdict
    | unclosedQuote =>
      refine ⟨mt escapes.mp verdict.1, ?_⟩
      rw [← Nat.not_even_iff_odd, quotes, Nat.not_even_iff_odd]
      exact verdict.2
    | tooLong => exact verdict
  | ok found => exact ⟨mt escapes.mp verdict.1, quotes.mpr verdict.2⟩

theorem badEscape_iff (verdict : Verdict quoted line outcome) :
    outcome = .error .badEscape ↔ HasBadEscape line := by
  constructor
  · rintro rfl
    exact verdict
  · intro bad
    match outcome, verdict with
    | .error .badEscape, _ => rfl
    | .error .unclosedQuote, verdict => exact (verdict.1 bad).elim
    | .ok _, verdict => exact (verdict.1 bad).elim

theorem unclosedQuote_iff (verdict : Verdict quoted line outcome) :
    outcome = .error .unclosedQuote ↔
      ¬HasBadEscape line ∧ Odd (quoteCount line + quoted.toNat) := by
  constructor
  · rintro rfl
    exact verdict
  · rintro ⟨good, odd⟩
    match outcome, verdict with
    | .error .badEscape, bad => exact (good bad).elim
    | .error .unclosedQuote, _ => rfl
    | .ok _, verdict => exact (Nat.not_even_iff_odd.mpr odd verdict.2).elim

theorem ok_iff (verdict : Verdict quoted line outcome) :
    (∃ found, outcome = .ok found) ↔
      ¬HasBadEscape line ∧ Even (quoteCount line + quoted.toNat) := by
  constructor
  · rintro ⟨found, rfl⟩
    exact verdict
  · rintro ⟨good, even⟩
    match outcome, verdict with
    | .error .badEscape, bad => exact (good bad).elim
    | .error .unclosedQuote, verdict => exact (Nat.not_even_iff_odd.mpr verdict.2 even).elim
    | .ok found, _ => exact ⟨found, rfl⟩

end Verdict

/-- The signs of a line decide whether it has fields, and why it has none. -/
theorem verdict_fields (quoted : Bool) (line : List Char) :
    Verdict quoted line (fields quoted line) := by
  fun_induction fields quoted line with
  | case1 => exact ⟨by simp [HasBadEscape, signs], by decide⟩
  | case2 => exact ⟨by simp [HasBadEscape, signs], by decide⟩
  | case3 quoted =>
    exact ⟨_, List.mem_singleton_self _, (Option.some_ne_none _).symm, (Option.some_ne_none _).symm⟩
  | case4 quoted c rest escaped ih =>
    refine (ih.map _).congr ?_ (by rw [quoteCount_escape])
    rw [hasBadEscape_escape]
    exact or_iff_right (not_not.mpr escaped)
  | case5 quoted c rest bad => exact hasBadEscape_escape.mpr (Or.inl bad)
  | case6 quoted rest ih =>
    refine ih.congr (hasBadEscape_plain (by decide)) ?_
    -- the quote counts, and what was open is closed or the other way round
    rw [quoteCount_mark]
    cases quoted <;> simp [Nat.even_add_one]
  | case7 quoted c rest last escapes mark blank ih =>
    obtain ⟨rfl, rfl⟩ := blank
    refine (ih.map _).congr (hasBadEscape_plain (by decide)) ?_
    rw [quoteCount_plain (by decide) (by decide)]
  | case8 quoted c rest last escapes mark inside ih =>
    have backslash := ne_backslash last escapes
    refine (ih.map _).congr (hasBadEscape_plain backslash) ?_
    rw [quoteCount_plain backslash mark]

/-- The signs of a line decide whether it has an argument list, and why it has none. -/
theorem verdict_parse (line : String) : Verdict false line.toList (parse line) :=
  ((verdict_fields false line.toList).map _).map _

/-! ## Lines put together -/

/-- Whatever comes after a line, a backslash in it that escapes nothing does not escape the blank
either. -/
theorem hasBadEscape_append_blank {line : List Char} (bad : HasBadEscape line)
    (rest : List Char) : HasBadEscape (line ++ ' ' :: rest) := by
  fun_induction signs line with
  | case1 =>
    obtain ⟨s, member, -⟩ := bad
    cases member
  | case2 => exact hasBadEscape_escape.mpr (Or.inl (by decide))
  | case3 c line ih =>
    refine hasBadEscape_escape.mpr ?_
    exact (hasBadEscape_escape.mp bad).imp_right ih
  | case4 c line last escapes ih =>
    have backslash := ne_backslash last escapes
    rw [List.cons_append, hasBadEscape_plain backslash]
    exact ih ((hasBadEscape_plain backslash).mp bad)

/-- The fields of a line as texts: its arguments, where no arguments are one empty field. -/
def parseFields (line : String) : Except LineError (List String) :=
  (parse line).map fun arguments => if arguments = [] then [""] else arguments

theorem parseFields_eq (line : String) :
    parseFields line = (fields false line.toList).map (·.map String.ofList) := by
  unfold parseFields parse arguments
  cases read : fields false line.toList with
  | error e => rfl
  | ok found =>
    change Except.ok (if List.map String.ofList (if found = [[]] then [] else found) = [] then [""]
      else List.map String.ofList (if found = [[]] then [] else found)) = _
    by_cases lone : found = [[]]
    · rw [lone]
      rfl
    · have some := (reads_of_fields read).ne_nil
      rw [if_neg lone, if_neg (mt List.map_eq_nil_iff.mp some)]
      rfl

theorem toList_append_blank (a b : String) :
    (a ++ " " ++ b).toList = a.toList ++ ' ' :: b.toList := by
  rw [String.toList_append, String.toList_append, List.append_assoc]
  rfl

/-- After a line that has fields, and a blank, another line goes on with its own. -/
theorem parseFields_append {a : String} {found : List String} (read : parseFields a = .ok found)
    (b : String) : parseFields (a ++ " " ++ b) = (parseFields b).map (found ++ ·) := by
  rw [parseFields_eq] at read ⊢
  obtain ⟨first, reads, rfl⟩ := map_eq_ok.mp read
  rw [parseFields_eq, toList_append_blank, fields_append_blank (reads_of_fields reads)]
  cases fields false b.toList with
  | error e => rfl
  | ok second => exact congrArg Except.ok List.map_append

theorem parseFields_eq_error_iff {line : String} {e : LineError} :
    parseFields line = .error e ↔ parse line = .error e := by
  unfold parseFields
  cases parse line <;> simp [Except.map]

/-- A line is refused for its escapes just if some backslash in it escapes nothing, otherwise for
its quotes just if their number is odd, and otherwise it has arguments. Two lines with a blank
between them have the fields of the first and then those of the second, and are refused for what the
second is refused for where the first is not; a first line that is refused for its escapes cannot be
mended by what follows it. -/
theorem lines_follow_grammar :
    (∀ line : String,
      (parse line = .error .badEscape ↔ HasBadEscape line.toList) ∧
        (parse line = .error .unclosedQuote ↔
          ¬HasBadEscape line.toList ∧ Odd (quoteCount line.toList)) ∧
        ((∃ arguments, parse line = .ok arguments) ↔
          ¬HasBadEscape line.toList ∧ Even (quoteCount line.toList))) ∧
      (∀ (a : String) (arguments : List String), parse a = .ok arguments →
        ∃ first, parseFields a = .ok first ∧
          (∀ b second, parseFields b = .ok second →
            parseFields (a ++ " " ++ b) = .ok (first ++ second)) ∧
          ∀ b e, parse b = .error e → parse (a ++ " " ++ b) = .error e) ∧
      ∀ a b : String, parse a = .error .badEscape →
        parse (a ++ " " ++ b) = .error .badEscape := by
  refine ⟨fun line => ?_, fun a arguments read => ?_, fun a b refused => ?_⟩
  · have verdict := verdict_parse line
    exact ⟨verdict.badEscape_iff, verdict.unclosedQuote_iff, verdict.ok_iff⟩
  · obtain ⟨first, found⟩ : ∃ first, parseFields a = .ok first :=
      ⟨_, map_eq_ok.mpr ⟨arguments, read, rfl⟩⟩
    refine ⟨first, found, fun b second others => ?_, fun b e refused => ?_⟩
    · rw [parseFields_append found, others]
      rfl
    · rw [← parseFields_eq_error_iff, parseFields_append found,
        parseFields_eq_error_iff.mpr refused]
      rfl
  · rw [(verdict_parse _).badEscape_iff, toList_append_blank]
    exact hasBadEscape_append_blank ((verdict_parse a).badEscape_iff.mp refused) _

/-- Quotes in the middle of a word, a trailing blank, and an empty line after it. -/
theorem lines_follow_grammar_quoted :
    parse "say a\"b c\" " = .ok ["say", "ab c", ""] ∧
      parseFields ("say a\"b c\" " ++ " " ++ "") = .ok ["say", "ab c", "", ""] := by
  have read : parse "say a\"b c\" " = .ok ["say", "ab c", ""] := rfl
  obtain ⟨first, found, goesOn, -⟩ := lines_follow_grammar.2.1 _ _ read
  cases found
  exact ⟨read, goesOn "" [""] rfl⟩

end NetControl.Command.Line
