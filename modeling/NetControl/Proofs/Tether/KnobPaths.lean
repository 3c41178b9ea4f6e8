import NetControl.Tether.KnobTree
import NetControl.Proofs.Tether.Framing
import NetControl.Proofs.Tether.Knobs

/-!
# Which files settings are written to

A path is read step by step (`steps`): pieces between slashes are names, where empty pieces and dots
lead nowhere and two dots lead back. Joining a directory name to a path adds just one step
(`steps_joinPath`), whatever the path is, so that a knob's file is two steps below the root.
`KnobTree.knobs_stay_below_root` draws from this where settings can be written at all, and where
those of a controller are.
-/

namespace NetControl.Tether

/-! ## The steps of a path -/

/-- A step on the way that a path leads. -/
inductive PathStep where
  /-- To the root of all paths. -/
  | root
  /-- To where one is. -/
  | current
  /-- Back to the parent. -/
  | parent
  /-- To what has this name. -/
  | name (text : String)
deriving Repr, DecidableEq

/-- The step of a piece between slashes, if it leads anywhere. -/
def PathStep.ofPiece? (piece : List Char) : Option PathStep :=
  if piece = [] ∨ piece = ['.'] then none
  else if piece = ['.', '.'] then some .parent
  else some (.name (String.ofList piece))

/-- What a path begins with, if it is not the name of a piece. -/
def beginning (path : List Char) : List PathStep :=
  if path.head? = some '/' then [.root]
  else if (path.splitOn '/').head? = some ['.'] then [.current]
  else []

def stepsOf (path : List Char) : List PathStep :=
  beginning path ++ (path.splitOn '/').filterMap PathStep.ofPiece?

/-- The steps that a path consists of. -/
def steps (path : String) : List PathStep :=
  stepsOf path.toList

example : steps "./conf//wlan0/./accept_ra/" =
    [.current, .name "conf", .name "wlan0", .name "accept_ra"] := by decide

theorem splitOn_slash (front rest : List Char) :
    (front ++ '/' :: rest).splitOn '/' = front.splitOn '/' ++ rest.splitOn '/' :=
  List.splitOnP_append_cons front rest (beq_self_eq_true '/')

/-- What comes after a slash is read by itself. -/
theorem stepsOf_append (front rest : List Char) :
    stepsOf (front ++ '/' :: rest) =
      stepsOf (front ++ ['/']) ++ (rest.splitOn '/').filterMap PathStep.ofPiece? := by
  have same : beginning (front ++ '/' :: rest) = beginning (front ++ ['/']) := by
    obtain ⟨piece, more, pieces⟩ := List.exists_cons_of_ne_nil (List.splitOn_ne_nil '/' front)
    unfold beginning
    rw [splitOn_slash, splitOn_slash, pieces]
    cases front <;> rfl
  unfold stepsOf
  rw [same, splitOn_slash, splitOn_slash, List.filterMap_append, List.filterMap_append]
  simp [PathStep.ofPiece?]

/-- A slash at the end makes no difference. -/
theorem stepsOf_slash {path : List Char} (some : path ≠ []) :
    stepsOf (path ++ ['/']) = stepsOf path := by
  obtain ⟨first, others, rfl⟩ := List.exists_cons_of_ne_nil some
  have same : beginning (first :: others ++ ['/']) = beginning (first :: others) := by
    obtain ⟨piece, more, pieces⟩ :=
      List.exists_cons_of_ne_nil (List.splitOn_ne_nil '/' (first :: others))
    unfold beginning
    rw [splitOn_slash, pieces]
    rfl
  unfold stepsOf
  rw [same, splitOn_slash, List.filterMap_append]
  simp [PathStep.ofPiece?]

namespace KnobTree

variable {name interface : String}

/-- A directory name has no slash and is no dot and no two dots. -/
theorem isDirectoryName_iff : isDirectoryName name = true ↔
    name.toList ≠ [] ∧ '/' ∉ name.toList ∧ name.toList ≠ ['.'] ∧ name.toList ≠ ['.', '.'] := by
  have text (other : String) : name = other ↔ name.toList = other.toList := String.toList_inj.symm
  simp only [isDirectoryName, text, Bool.and_eq_true, decide_eq_true_eq, Bool.not_eq_true',
    List.contains_eq_mem, decide_eq_false_iff_not, ne_eq, and_assoc]
  rfl

theorem pieces_of_isDirectoryName (valid : isDirectoryName name = true) :
    (name.toList.splitOn '/').filterMap PathStep.ofPiece? = [.name name] := by
  obtain ⟨some, plain, dot, dots⟩ := isDirectoryName_iff.mp valid
  rw [List.splitOn_eq_singleton plain, List.filterMap_cons_some, List.filterMap_nil]
  simp [PathStep.ofPiece?, some, dot, dots]

/-- A directory name by itself is one step. -/
theorem steps_of_isDirectoryName (valid : isDirectoryName name = true) :
    steps name = [.name name] := by
  obtain ⟨-, plain, dot, -⟩ := isDirectoryName_iff.mp valid
  have unrooted : name.toList.head? ≠ some '/' := fun first => plain (List.mem_of_head? first)
  unfold steps stepsOf beginning
  rw [pieces_of_isDirectoryName valid, if_neg unrooted, List.splitOn_eq_singleton plain]
  simp [dot]

/-- Joining a directory name to a path adds one step to it. -/
theorem steps_joinPath (directory : String) (valid : isDirectoryName name = true) :
    steps (Controller.joinPath directory name) = steps directory ++ [.name name] := by
  obtain ⟨-, plain, -, -⟩ := isDirectoryName_iff.mp valid
  have unrooted : name.toList.head? ≠ some '/' := fun first => plain (List.mem_of_head? first)
  unfold Controller.joinPath
  by_cases empty : directory = ""
  · subst empty
    exact steps_of_isDirectoryName valid
  have some : directory.toList ≠ [] := fun none => empty (String.toList_inj.mp none)
  rw [if_neg (by simp [empty, unrooted])]
  split
  · next slash =>
    obtain ⟨front, path⟩ := List.getLast?_eq_some_iff.mp slash
    unfold steps
    rw [String.toList_append, path, List.append_assoc, List.singleton_append, stepsOf_append,
      pieces_of_isDirectoryName valid]
  · unfold steps
    have path : (directory ++ "/" ++ name).toList = directory.toList ++ '/' :: name.toList := by
      simp
    rw [path, stepsOf_append, stepsOf_slash some, pieces_of_isDirectoryName valid]

theorem isDirectoryName_fileName (k : Knob) : isDirectoryName k.fileName = true := by
  cases k <;> decide

theorem fileName_injective {k l : Knob} (same : k.fileName = l.fileName) : k = l := by
  revert same
  cases k <;> cases l <;> decide

/-! ## Knob files -/

/-- The file of a knob is two steps below the root. -/
theorem steps_knobPath (root : String) (valid : isDirectoryName interface = true) (k : Knob) :
    steps (Controller.knobPath root interface k) =
      steps root ++ [.name interface, .name k.fileName] := by
  unfold Controller.knobPath
  rw [steps_joinPath _ (isDirectoryName_fileName k), steps_joinPath root valid, List.append_assoc]
  rfl

/-- No two knobs have the same file. -/
theorem eq_of_knobPath {root i j : String} {k l : Knob} (valid : isDirectoryName i = true)
    (valid' : isDirectoryName j = true)
    (same : Controller.knobPath root i k = Controller.knobPath root j l) : i = j ∧ k = l := by
  have steps := congrArg steps same
  rw [steps_knobPath root valid, steps_knobPath root valid', List.append_cancel_left_eq] at steps
  simp only [List.cons.injEq, PathStep.name.injEq, and_true] at steps
  exact ⟨steps.1, fileName_injective steps.2⟩

/-- The characters of a joined path, slashes apart, are those of its parts. -/
theorem mem_joinPath {directory : String} (valid : isDirectoryName name = true) {c : Char}
    (other : c ≠ '/') :
    c ∈ (Controller.joinPath directory name).toList ↔ c ∈ directory.toList ∨ c ∈ name.toList := by
  obtain ⟨-, plain, -, -⟩ := isDirectoryName_iff.mp valid
  have unrooted : name.toList.head? ≠ some '/' := fun first => plain (List.mem_of_head? first)
  unfold Controller.joinPath
  by_cases empty : directory = ""
  · simp [empty]
  · rw [if_neg (by simp [empty, unrooted])]
    split <;> simp [other]

theorem nul_mem_knobPath {root : String} (valid : isDirectoryName interface = true) (k : Knob) :
    '\x00' ∈ (Controller.knobPath root interface k).toList ↔
      '\x00' ∈ root.toList ∨ '\x00' ∈ interface.toList := by
  have plain : '\x00' ∉ k.fileName.toList := by cases k <;> decide
  unfold Controller.knobPath
  rw [mem_joinPath (isDirectoryName_fileName k) (by decide), mem_joinPath valid (by decide)]
  simp [plain]

section Writing

variable {ω : Type} {overwrite : (path text : String) → ω → Except OsError Unit × ω}
  {root : String} {s : Setting} {w : ω}

/-- A text that is no directory name is refused, and nothing is opened. -/
theorem writeSetting_of_not_isDirectoryName (barred : isDirectoryName interface = false) :
    writeSetting overwrite root interface s w = (.error (nameError interface), w) := by
  simp [writeSetting, file?, barred]

/-- A path with a character that no path can have is refused, and nothing is opened. -/
theorem writeSetting_of_nul (valid : isDirectoryName interface = true)
    (nul : '\x00' ∈ root.toList ∨ '\x00' ∈ interface.toList) :
    writeSetting overwrite root interface s w = (.error OsError.nulInPath, w) := by
  simp [writeSetting, file?, valid, (nul_mem_knobPath valid s.knob).mpr nul]

theorem writeSetting_eq_overwrite (valid : isDirectoryName interface = true)
    (plain : ¬('\x00' ∈ root.toList ∨ '\x00' ∈ interface.toList)) :
    writeSetting overwrite root interface s w =
      overwrite (Controller.knobPath root interface s.knob) s.text w := by
  simp [writeSetting, file?, valid, mt (nul_mem_knobPath valid s.knob).mp plain]

end Writing

/-! ## The controller -/

/-- Whatever may name an interface is a directory name. -/
theorem isDirectoryName_of_isInterfaceName (valid : isInterfaceName name = true) :
    isDirectoryName name = true := by
  have dotless : '.' ∉ name.toList := not_mem_of_isInterfaceName valid (by decide)
  refine isDirectoryName_iff.mpr ⟨?_, not_mem_of_isInterfaceName valid (by decide), ?_, ?_⟩
  · intro empty
    rw [isInterfaceName, empty] at valid
    cases valid
  · intro dot
    rw [dot] at dotless
    exact dotless (List.mem_singleton_self _)
  · intro dots
    rw [dots] at dotless
    exact dotless List.mem_cons_self

/-- A controller writes settings only under texts that may name an interface. -/
theorem isInterfaceName_of_lifetime {ω : Type} (answer : (c : Call) → ω → c.Answer × ω)
    (mode : String) (switches : Switches) (places : Places) (w : ω)
    (ops : List Controller.Operation) {x : Exchange} {s : Setting}
    (asked : x ∈ ((Controller.Lifetime.begin answer mode switches places w).performAll answer
      ops).exchanges) (call : x.call = .set interface s) : isInterfaceName interface = true := by
  obtain ⟨ok, attempt⟩ := knobWrite?_of_call call
  have settled := (Controller.Lifetime.past answer mode switches places w ops).knobsSettled
  exact settled.named _ (List.mem_filterMap.mpr ⟨x, asked, attempt⟩)

/-- Whatever the root and the text for the interface are: a text that is no directory name, or a
path with a character that no path can have, is refused before any file is opened, and otherwise
nothing is opened but the file two steps below the root, named for the interface and the knob. No two
of these files are the same. And whatever a controller is asked to do and is answered, it writes
settings only under texts that may name an interface, and these are not refused. -/
theorem knobs_stay_below_root :
    (∀ (ω : Type) (overwrite : (path text : String) → ω → Except OsError Unit × ω)
      (root interface : String) (s : Setting) (w : ω),
      let path := Controller.knobPath root interface s.knob
      let nul := '\x00' ∈ root.toList ∨ '\x00' ∈ interface.toList
      let written := writeSetting overwrite root interface s w
      (isDirectoryName interface = false ∧ written = (.error (nameError interface), w)) ∨
        (isDirectoryName interface = true ∧ nul ∧ written = (.error OsError.nulInPath, w)) ∨
        (isDirectoryName interface = true ∧ ¬nul ∧ written = overwrite path s.text w ∧
          steps path = steps root ++ [.name interface, .name s.knob.fileName])) ∧
      (∀ (root i j : String) (k l : Knob), isDirectoryName i = true → isDirectoryName j = true →
        Controller.knobPath root i k = Controller.knobPath root j l → i = j ∧ k = l) ∧
      ∀ (ω : Type) (answer : (c : Call) → ω → c.Answer × ω) (mode : String) (switches : Switches)
        (places : Places) (w : ω) (ops : List Controller.Operation),
        ∀ x ∈ ((Controller.Lifetime.begin answer mode switches places w).performAll answer
          ops).exchanges,
        ∀ interface s, x.call = .set interface s →
          isInterfaceName interface = true ∧ isDirectoryName interface = true ∧
            '\x00' ∉ interface.toList := by
  refine ⟨?_, fun root i j k l valid valid' => eq_of_knobPath valid valid', ?_⟩
  · intro ω overwrite root interface s w path nul written
    cases valid : isDirectoryName interface with
    | false => exact .inl ⟨rfl, writeSetting_of_not_isDirectoryName valid⟩
    | true =>
      by_cases has : nul
      · exact .inr (.inl ⟨rfl, has, writeSetting_of_nul valid has⟩)
      · exact .inr (.inr ⟨rfl, has, writeSetting_eq_overwrite valid has,
          steps_knobPath root valid s.knob⟩)
  · intro ω answer mode switches places w ops x asked interface s call
    have valid := isInterfaceName_of_lifetime answer mode switches places w ops asked call
    exact ⟨valid, isDirectoryName_of_isInterfaceName valid,
      not_mem_of_isInterfaceName valid (by decide)⟩

end KnobTree

end NetControl.Tether
