import NetControl.Command.Dispatch
import NetControl.Proofs.Except

/-!
# Arguments between quotes

A client that puts every argument between quotes does not have to know which characters have a
meaning in a request line. `Line.fields_append_blank` is the reason: after a blank that stands
outside of quotes, the rest of a line is read as a line of its own, so that a line can be read
argument by argument. The one argument list that cannot be sent is the list with a lone empty
argument, and no line has that list (`Line.quoted_reads_back`).
-/

namespace NetControl.Command.Line

variable {quoted : Bool} {c : Char} {line : List Char} {found : List (List Char)}

/-! ## One character -/

section

variable {rest : List Char}

theorem fields_escape (escaped : c = '\\' ∨ c = '"') :
    fields quoted ('\\' :: c :: rest) = (fields quoted rest).map (extend c) := by
  rw [fields, if_pos escaped]

theorem fields_quote : fields quoted ('"' :: rest) = fields (!quoted) rest := by
  rw [fields]

/-- A character without a meaning, as a blank is one between quotes. -/
theorem fields_plain (backslash : c ≠ '\\') (mark : c ≠ '"')
    (inside : ¬(c = ' ' ∧ quoted = false)) :
    fields quoted (c :: rest) = (fields quoted rest).map (extend c) := by
  rw [fields, if_neg inside]
  · exact fun same => (backslash same).elim
  · exact fun c' rest' same => (backslash same).elim
  · exact mark

theorem fields_blank : fields false (' ' :: rest) = (fields false rest).map ([] :: ·) := by
  rw [fields, if_pos ⟨rfl, rfl⟩] <;> simp

end

/-! ## The language of lines -/

/-- `Reads quoted line found`: what is left of a line, inside or outside of quotes, has these
fields. There is a rule for each way in which a line can go on. -/
inductive Reads : (quoted : Bool) → List Char → List (List Char) → Prop
  | nil : Reads false [] [[]]
  | escape {quoted : Bool} {c : Char} {rest : List Char} {found : List (List Char)}
    (escaped : c = '\\' ∨ c = '"') (reads : Reads quoted rest found) :
    Reads quoted ('\\' :: c :: rest) (extend c found)
  | quote {quoted : Bool} {rest : List Char} {found : List (List Char)}
    (reads : Reads (!quoted) rest found) : Reads quoted ('"' :: rest) found
  | blank {rest : List Char} {found : List (List Char)} (reads : Reads false rest found) :
    Reads false (' ' :: rest) ([] :: found)
  | plain {quoted : Bool} {c : Char} {rest : List Char} {found : List (List Char)}
    (backslash : c ≠ '\\') (mark : c ≠ '"') (inside : ¬(c = ' ' ∧ quoted = false))
    (reads : Reads quoted rest found) : Reads quoted (c :: rest) (extend c found)

theorem reads_of_fields (read : fields quoted line = .ok found) : Reads quoted line found := by
  fun_induction fields quoted line generalizing found with
  | case1 => cases read
  | case2 =>
    cases read
    exact .nil
  | case3 quoted => cases read
  | case4 quoted c rest escaped ih =>
    obtain ⟨later, readRest, rfl⟩ := map_eq_ok.mp read
    exact .escape escaped (ih readRest)
  | case5 quoted c rest bad => cases read
  | case6 quoted rest ih => exact .quote (ih read)
  | case7 quoted c rest last escapes mark blank ih =>
    obtain ⟨rfl, rfl⟩ := blank
    obtain ⟨later, readRest, rfl⟩ := map_eq_ok.mp read
    exact .blank (ih readRest)
  | case8 quoted c rest last escapes mark inside ih =>
    obtain ⟨later, readRest, rfl⟩ := map_eq_ok.mp read
    refine .plain (fun backslash => ?_) mark inside (ih readRest)
    cases rest with
    | nil => exact last backslash rfl
    | cons c' rest' => exact escapes c' rest' backslash rfl

theorem fields_of_reads (reads : Reads quoted line found) : fields quoted line = .ok found := by
  induction reads with
  | nil => rfl
  | escape escaped reads ih =>
    rw [fields_escape escaped, ih]
    rfl
  | quote reads ih => rw [fields_quote, ih]
  | blank reads ih =>
    rw [fields_blank, ih]
    rfl
  | plain backslash mark inside reads ih =>
    rw [fields_plain backslash mark inside, ih]
    rfl

theorem extend_ne_nil (c : Char) (found : List (List Char)) : extend c found ≠ [] := by
  cases found <;> exact List.cons_ne_nil _ _

/-- A line has at least one field. -/
theorem Reads.ne_nil (reads : Reads quoted line found) : found ≠ [] := by
  induction reads with
  | nil => exact List.cons_ne_nil _ _
  | escape escaped reads ih => exact extend_ne_nil _ _
  | quote reads ih => exact ih
  | blank reads ih => exact List.cons_ne_nil _ _
  | plain backslash mark inside reads ih => exact extend_ne_nil _ _

/-- A character in front of some fields and others goes to the first of the former. -/
theorem map_extend (some : found ≠ []) (c : Char) (more : Except LineError (List (List Char))) :
    (more.map (found ++ ·)).map (extend c) = more.map (extend c found ++ ·) := by
  obtain ⟨first, others, rfl⟩ := List.exists_cons_of_ne_nil some
  cases more <;> rfl

/-- After a line that is read to its end, a blank separates: what follows it is read as a line of
its own. -/
theorem fields_append_blank (reads : Reads quoted line found) (rest : List Char) :
    fields quoted (line ++ ' ' :: rest) = (fields false rest).map (found ++ ·) := by
  induction reads with
  | nil => exact fields_blank
  | escape escaped reads ih =>
    rw [List.cons_append, List.cons_append, fields_escape escaped, ih, map_extend reads.ne_nil]
  | quote reads ih => rw [List.cons_append, fields_quote, ih]
  | blank reads ih =>
    rw [List.cons_append, fields_blank, ih]
    cases fields false rest <;> rfl
  | plain backslash mark inside reads ih =>
    rw [List.cons_append, fields_plain backslash mark inside, ih, map_extend reads.ne_nil]

/-! ## Quoting -/

/-- Between quotes, an escaped character is itself. -/
theorem fields_append_escape (c : Char) (rest : List Char) :
    fields true (escape c ++ rest) = (fields true rest).map (extend c) := by
  unfold escape
  split
  · next escaped => exact fields_escape escaped
  · next other =>
    rw [not_or] at other
    exact fields_plain other.1 other.2 fun both => Bool.noConfusion both.2

/-- An argument between quotes is one field. -/
theorem reads_quote (argument : List Char) : Reads false (quote argument) [argument] := by
  have body : fields true (argument.flatMap escape ++ ['"']) = .ok [argument] := by
    induction argument with
    | nil => rfl
    | cons c rest ih =>
      rw [List.flatMap_cons, List.append_assoc, fields_append_escape, ih]
      rfl
  exact .quote (reads_of_fields body)

/-- Quoted arguments with blanks between them are read as the arguments. -/
theorem fields_intercalate_quote {arguments : List (List Char)} (some : arguments ≠ []) :
    fields false ([' '].intercalate (arguments.map quote)) = .ok arguments := by
  induction arguments with
  | nil => exact (some rfl).elim
  | cons first rest ih =>
    cases rest with
    | nil =>
      rw [List.map_singleton, List.intercalate_singleton]
      exact fields_of_reads (reads_quote first)
    | cons second others =>
      have later := ih (List.cons_ne_nil _ _)
      rw [List.map_cons, List.map_cons, List.intercalate_cons_cons, List.append_assoc,
        List.singleton_append, fields_append_blank (reads_quote first), ← List.map_cons, later]
      rfl

/-- The line in which a client puts every argument between quotes. -/
def quoteAll (arguments : List String) : String :=
  String.ofList ([' '].intercalate (arguments.map fun argument => quote argument.toList))

theorem toList_quoteAll (arguments : List String) :
    (quoteAll arguments).toList = [' '].intercalate ((arguments.map String.toList).map quote) := by
  unfold quoteAll
  rw [String.toList_ofList, List.map_map]
  rfl

/-- Texts that are read back as lists of characters are the texts. -/
theorem map_ofList_toList (texts : List String) :
    (texts.map String.toList).map String.ofList = texts := by
  rw [List.map_map]
  exact List.map_id'' (fun text => String.ofList_toList) texts

/-- A list of quoted arguments is read back, unless it is the list with a lone empty argument. -/
theorem parse_quoteAll {arguments : List String} (sendable : arguments ≠ [""]) :
    parse (quoteAll arguments) = .ok arguments := by
  cases arguments with
  | nil => rfl
  | cons first rest =>
    have others : (first :: rest).map String.toList ≠ [[]] := by
      intro lone
      rw [← map_ofList_toList (first :: rest), lone] at sendable
      exact sendable rfl
    unfold parse arguments
    have some : (first :: rest).map String.toList ≠ [] := by simp
    have read := fields_intercalate_quote some
    rw [toList_quoteAll, read]
    change Except.ok ((if _ then [] else _).map String.ofList) = _
    rw [if_neg others, map_ofList_toList]

/-- No line has a lone empty argument. -/
theorem parse_ne_lone_empty (line : String) : parse line ≠ .ok [""] := by
  intro read
  obtain ⟨characters, trimmed, same⟩ := map_eq_ok.mp read
  obtain ⟨found, -, rfl⟩ := map_eq_ok.mp trimmed
  split at same
  · cases same
  · next some =>
    have lone : found = [[]] := by
      have back := congrArg (List.map String.toList) same
      simpa using back
    exact some lone

/-! ## What a quoting client can send -/

/-- What a line is accepted as depends on its arguments only. -/
theorem accept_congr {line line' : String} (same : parse line = parse line')
    (commands : List String) (client : Client) :
    Dispatch.accept commands client line = Dispatch.accept commands client line' := by
  unfold Dispatch.accept
  rw [same]

/-- Every list of arguments but the list with a lone empty one reads back from the line in which
each argument is quoted, which for no arguments is the empty line; and no line has that one list. So
the arguments that a command can be given, by whatever line, are those that it can be given by a
client that quotes. -/
theorem quoted_reads_back :
    (∀ arguments : List String,
        parse (quoteAll arguments) = .ok arguments ↔ arguments ≠ [""]) ∧
      quoteAll [] = "" ∧ (∀ line, parse line ≠ .ok [""]) ∧
      ∀ (commands : List String) (client : Client) (arguments : List String),
        (∃ line, (Dispatch.accept commands client line).2 = .ok arguments) ↔
          ∃ sent, (Dispatch.accept commands client (quoteAll sent)).2 = .ok arguments := by
  refine ⟨fun arguments => ⟨?_, parse_quoteAll⟩, rfl, parse_ne_lone_empty, ?_⟩
  · rintro read rfl
    exact parse_ne_lone_empty _ read
  · intro commands client arguments
    constructor
    · rintro ⟨line, accepted⟩
      cases read : parse line with
      | error e =>
        rw [Dispatch.accept, read] at accepted
        cases accepted
      | ok sent =>
        have sendable : sent ≠ [""] := by
          rintro rfl
          exact parse_ne_lone_empty line read
        refine ⟨sent, ?_⟩
        rw [accept_congr ((parse_quoteAll sendable).trans read.symm)]
        exact accepted
    · rintro ⟨sent, accepted⟩
      exact ⟨quoteAll sent, accepted⟩

/-- Empty arguments, a blank, a quote and a backslash. -/
example : parse (quoteAll ["", "a b", "say \"\\\"", ""]) = .ok ["", "a b", "say \"\\\"", ""] := by
  rfl

end NetControl.Command.Line
