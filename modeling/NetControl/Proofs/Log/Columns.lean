import NetControl.Log.Layout
import NetControl.Proofs.Text.Lines

/-!
# Events as lines of columns

An event is on one line if whoever cuts a log at its newlines, and a line at its tabs, gets the
event's line, and on it the event's columns (`Event.IsOneLine`). This is so just if no column has a
newline or a tab (`Event.isOneLine_iff`), for nothing is quoted but the values of fields.
-/

namespace NetControl.Log

/-- The columns of an event. -/
def Event.columns (time : String) (e : Event) : List String :=
  [time, e.level.name.toLower, Layout.shortTarget e.target ++ e.span?.elim "" Layout.spanText] ++
    if e.message = "" then [Layout.fieldsText e.fields]
    else if e.fields = [] then [e.message]
    else [e.message, Layout.fieldsText e.fields]

/-- The event is written as one line, whose only newline is at its end, and the columns of the line
are those of the event. -/
def Event.IsOneLine (time : String) (e : Event) : Prop :=
  ∃ line, (Layout.columnsText time e).toList = line ++ ['\n'] ∧ '\n' ∉ line ∧
    line.splitOn '\t' = (e.columns time).map String.toList

variable {time : String} {e : Event}

theorem columnsText_eq_intercalate :
    Layout.columnsText time e = "\t".intercalate (e.columns time) ++ "\n" := by
  unfold Layout.columnsText Layout.contentText Event.columns
  split
  · simp [String.intercalate_cons_cons, String.append_assoc]
  · split <;> simp [String.intercalate_cons_cons, String.append_assoc]

theorem Event.isOneLine_iff :
    e.IsOneLine time ↔ ∀ column ∈ e.columns time, Text.IsUnbroken column := by
  have text : (Layout.columnsText time e).toList =
      ['\t'].intercalate ((e.columns time).map String.toList) ++ ['\n'] := by
    rw [columnsText_eq_intercalate, String.toList_append, String.toList_intercalate]
    rfl
  have newlines : '\n' ∉ ['\t'].intercalate ((e.columns time).map String.toList) ↔
      ∀ column ∈ e.columns time, '\n' ∉ column.toList := by
    rw [not_mem_intercalate (by decide), List.forall_mem_map]
  constructor
  · rintro ⟨line, written, plain, cut⟩ column member
    rw [text, List.append_cancel_right_eq] at written
    subst written
    have piece := List.mem_map_of_mem (f := String.toList) member
    rw [← cut] at piece
    exact ⟨newlines.mp plain column member, not_mem_of_mem_splitOn piece⟩
  · intro unbroken
    refine ⟨_, text, newlines.mpr fun column member => (unbroken column member).1, ?_⟩
    refine List.splitOn_intercalate '\t' ?_ (by simp [Event.columns])
    rw [List.forall_mem_map]
    exact fun column member => (unbroken column member).2

/-! ## What an event says -/

/-- Nothing that the event says has a newline or a tab when it is written. -/
structure Event.IsUnbroken (e : Event) : Prop where
  target : Text.IsUnbroken e.target
  message : Text.IsUnbroken e.message
  fields : ∀ field ∈ e.fields, Text.IsUnbroken field.1 ∧ Text.IsUnbroken field.2.written

theorem Event.isUnbroken_iff : e.IsUnbroken ↔
    Text.IsUnbroken e.target ∧ Text.IsUnbroken e.message ∧
      ∀ field ∈ e.fields, Text.IsUnbroken field.1 ∧ Text.IsUnbroken field.2.written :=
  ⟨fun ⟨target, message, fields⟩ => ⟨target, message, fields⟩,
    fun ⟨target, message, fields⟩ => ⟨target, message, fields⟩⟩

@[simp] theorem isUnbroken_written_text (s : String) :
    Text.IsUnbroken (Value.text s).written :=
  Text.isUnbroken_quoted s

@[simp] theorem isUnbroken_written_shown {s : String} :
    Text.IsUnbroken (Value.shown s).written ↔ Text.IsUnbroken s := Iff.rfl

@[simp] theorem isUnbroken_written_number (n : Int) : Text.IsUnbroken (Value.number n).written :=
  Text.isUnbroken_decimal n

@[simp] theorem isUnbroken_of {level : Level} {target component message : String}
    {fields : List (String × Value)} :
    (Log.of level target component message fields).IsUnbroken ↔
      Text.IsUnbroken target ∧ Text.IsUnbroken message ∧
        ∀ field ∈ fields, Text.IsUnbroken field.1 ∧ Text.IsUnbroken field.2.written := by
  have name : Text.IsUnbroken "component" := by decide
  rw [Event.isUnbroken_iff, Log.of, List.forall_mem_cons]
  exact and_congr_right' (and_congr_right'
    (and_iff_right ⟨name, isUnbroken_written_text component⟩))

theorem isUnbroken_message {level : Level} {target component message : String}
    (plain : Text.IsUnbroken target) (unbroken : Text.IsUnbroken message) :
    (Log.of level target component message).IsUnbroken :=
  isUnbroken_of.mpr ⟨plain, unbroken, List.forall_mem_nil _⟩

@[simp] theorem isUnbroken_within {listener : String} :
    (e.within listener).IsUnbroken ↔ e.IsUnbroken := by
  rw [Event.isUnbroken_iff, Event.isUnbroken_iff]
  exact Iff.rfl

theorem isUnbroken_fieldsText {fields : List (String × Value)} :
    Text.IsUnbroken (Layout.fieldsText fields) ↔
      ∀ field ∈ fields, Text.IsUnbroken field.1 ∧ Text.IsUnbroken field.2.written := by
  have equals : Text.IsUnbroken "=" := by decide
  unfold Layout.fieldsText
  rw [Text.isUnbroken_intercalate (by decide), List.forall_mem_map]
  simp only [Text.isUnbroken_append, equals, and_true]

theorem isUnbroken_shortTarget {target : String} :
    Text.IsUnbroken (Layout.shortTarget target) ↔ Text.IsUnbroken target := by
  unfold Layout.shortTarget
  split
  · next stem =>
    obtain ⟨rest, whole⟩ := List.isPrefixOf_iff_prefix.mp stem
    have cut : String.ofList (target.toList.drop Layout.targetStem.length) =
        String.ofList rest := by
      rw [← whole, ← String.length_toList, List.drop_left]
    have plain : Text.IsUnbroken Layout.targetStem := by decide
    have target : target = Layout.targetStem ++ String.ofList rest := by
      rw [← String.toList_inj, String.toList_append, String.toList_ofList, whole]
    rw [cut, target, Text.isUnbroken_append]
    exact (and_iff_right plain).symm
  · exact Iff.rfl

theorem isUnbroken_spanText (service : String) :
    Text.IsUnbroken (Layout.spanText (Span.listener service)) := by
  have fields : Text.IsUnbroken (Layout.fieldsText [("name", .text service)]) :=
    isUnbroken_fieldsText.mpr <|
      List.forall_mem_singleton.mpr ⟨(by decide : Text.IsUnbroken "name"),
        Text.isUnbroken_quoted service⟩
  have plain : Text.IsUnbroken ":" ∧ Text.IsUnbroken "listener" ∧ Text.IsUnbroken "\x7b" ∧
      Text.IsUnbroken "\x7d" ∧ Text.IsUnbroken "" := by decide
  unfold Layout.spanText Span.listener
  dsimp only
  split <;> simp only [Text.isUnbroken_append, plain, fields, and_self]

/-- An event is on one line just if nothing that it says has a newline or a tab. -/
theorem Event.isOneLine_iff_isUnbroken (unbroken : Text.IsUnbroken time) :
    e.IsOneLine time ↔ e.IsUnbroken := by
  have level : Text.IsUnbroken e.level.name.toLower := by
    cases e.level <;> decide +kernel
  have span : Text.IsUnbroken (e.span?.elim "" Layout.spanText) := by
    unfold Event.span?
    cases e.listener with
    | none => exact (by decide : Text.IsUnbroken "")
    | some service => exact isUnbroken_spanText service
  have empty : Text.IsUnbroken "" := by decide
  rw [Event.isOneLine_iff, Event.isUnbroken_iff, Event.columns, List.forall_mem_append]
  simp only [List.forall_mem_cons, Text.isUnbroken_append, isUnbroken_shortTarget, unbroken, level,
    span, true_and, and_true]
  refine and_congr (and_iff_left (List.forall_mem_nil _)) ?_
  split
  · next wordless => simp [wordless, empty, isUnbroken_fieldsText]
  split
  · next fieldless => simp [fieldless]
  · simp [isUnbroken_fieldsText]

end NetControl.Log
