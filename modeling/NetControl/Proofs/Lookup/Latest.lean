import Mathlib.Data.List.Induction
import NetControl.Lookup.Associations

/-!
# The latest association of a process

The table of associations is what a list of changes has made of it. `Associations.latest` reads the
interface of a process off the changes themselves: the last one that names the process decides, and
where it gives no interface the last default does. `Associations.interfaceFor_foldl` says that the
table agrees.
-/

namespace NetControl.Lookup.Associations

/-- The process that a change names. -/
def Change.pid? : Change → Option Int32
  | associate _ pid => some pid
  | clear pid => some pid
  | setDefault _ => none

/-- The default that a change sets. -/
def Change.default? : Change → Option String
  | setDefault interface => some interface
  | _ => none

/-- The last change that names the process. -/
def lastFor (changes : List Change) (pid : Int32) : Option Change :=
  (changes.filter fun c => c.pid? = some pid).getLast?

/-- The default that was set last, even if it is empty. -/
def lastDefault (changes : List Change) : Option String :=
  (changes.filterMap Change.default?).getLast?

/-- The interface of the last association of the process, if it was not cleared since, or else the
default that was set last, if it is not empty. -/
def latest (changes : List Change) (pid : Int32) : Option String :=
  match lastFor changes pid with
  | some (.associate interface _) => some interface
  | _ => (lastDefault changes).filter (· ≠ "")

variable {pid : Int32}

theorem lastFor_concat (changes : List Change) (c : Change) (pid : Int32) :
    lastFor (changes ++ [c]) pid = if c.pid? = some pid then some c else lastFor changes pid := by
  unfold lastFor
  rw [List.filter_append]
  split
  · next names =>
    have itself : [c].filter (fun c => c.pid? = some pid) = [c] :=
      List.filter_cons_of_pos (decide_eq_true names)
    rw [itself, List.getLast?_concat]
  · next other =>
    have gone : [c].filter (fun c => c.pid? = some pid) = [] :=
      List.filter_cons_of_neg (by simpa using other)
    rw [gone, List.append_nil]

theorem lastDefault_concat (changes : List Change) (c : Change) :
    lastDefault (changes ++ [c]) = c.default?.or (lastDefault changes) := by
  unfold lastDefault
  rw [List.filterMap_append]
  cases set : c.default? with
  | none => simp [set]
  | some interface => simp [set]

/-! ## The table -/

theorem lookup_without (a : Associations) (pid pid' : Int32) :
    (a.without pid).lookup pid' = if pid = pid' then none else a.byPid.lookup pid' := by
  unfold without
  induction a.byPid with
  | nil => simp
  | cons entry rest ih =>
    obtain ⟨owner, interface⟩ := entry
    by_cases removed : owner = pid
    · rw [List.filter_cons_of_neg (by simpa using removed), ih]
      split
      · rfl
      · next other =>
        have differs : (pid' == owner) = false := by
          rw [beq_eq_false_iff_ne, removed]
          exact Ne.symm other
        rw [List.lookup_cons, differs]
    · rw [List.filter_cons_of_pos (by simpa using removed), List.lookup_cons, List.lookup_cons, ih]
      split
      · next same =>
        rw [beq_iff_eq] at same
        rw [if_neg fun here => removed (same.symm.trans here.symm)]
      · rfl

theorem lookup_foldl (changes : List Change) (pid : Int32) :
    (changes.foldl change {}).byPid.lookup pid =
      match lastFor changes pid with
      | some (.associate interface _) => some interface
      | _ => none := by
  induction changes using List.reverseRecOn with
  | nil => rfl
  | append_singleton before c ih =>
    rw [List.foldl_append, lastFor_concat]
    cases c with
    | associate interface owner =>
      change ((owner, interface) :: without _ owner).lookup pid = _
      rw [List.lookup_cons, lookup_without, ih]
      by_cases here : owner = pid
      · simp [Change.pid?, here]
      · have differs : (pid == owner) = false := beq_eq_false_iff_ne.mpr (Ne.symm here)
        simp [Change.pid?, here, differs]
    | clear owner =>
      change (without _ owner).lookup pid = _
      rw [lookup_without, ih]
      by_cases here : owner = pid
      · simp [Change.pid?, here]
      · simp [Change.pid?, here]
    | setDefault interface => exact ih

theorem fallback_foldl (changes : List Change) :
    (changes.foldl change {}).fallback = (lastDefault changes).filter (· ≠ "") := by
  induction changes using List.reverseRecOn with
  | nil => rfl
  | append_singleton before c ih =>
    rw [List.foldl_append, lastDefault_concat]
    cases c with
    | associate interface owner => exact ih
    | clear owner => exact ih
    | setDefault interface =>
      change (if interface = "" then none else some interface) = (some interface).filter (· ≠ "")
      unfold Option.filter
      by_cases empty : interface = ""
      · simp [empty]
      · simp [empty]

/-- The table gives every process its latest interface. -/
theorem interfaceFor_foldl (changes : List Change) (pid : Int32) :
    (changes.foldl change {}).interfaceFor pid = latest changes pid := by
  unfold interfaceFor latest
  rw [lookup_foldl, fallback_foldl]
  cases lastFor changes pid with
  | none => rfl
  | some c => cases c <;> rfl

/-! ## Changes that make no difference -/

/-- Changes that name other processes make no difference. -/
theorem latest_filter (changes : List Change) (pid : Int32) :
    latest (changes.filter fun c => c.pid? = none ∨ c.pid? = some pid) pid =
      latest changes pid := by
  have own : lastFor (changes.filter fun c => c.pid? = none ∨ c.pid? = some pid) pid =
      lastFor changes pid := by
    unfold lastFor
    rw [List.filter_filter]
    refine congrArg List.getLast? (List.filter_congr fun c _ => ?_)
    by_cases names : c.pid? = some pid <;> simp [names]
  have fallback : lastDefault (changes.filter fun c => c.pid? = none ∨ c.pid? = some pid) =
      lastDefault changes := by
    unfold lastDefault
    rw [List.filterMap_filter]
    refine congrArg (fun f => (changes.filterMap f).getLast?) (funext fun c => ?_)
    cases c <;> simp [Change.pid?, Change.default?]
  unfold latest
  rw [own, fallback]

/-- Nor does an association of the process that a later change has replaced. -/
theorem latest_of_replaced (older newer : List Change) (interface : String)
    (replaced : ∃ c ∈ newer, c.pid? = some pid) :
    latest (older ++ .associate interface pid :: newer) pid = latest (older ++ newer) pid := by
  have own : lastFor (older ++ .associate interface pid :: newer) pid =
      lastFor (older ++ newer) pid := by
    obtain ⟨c, member, names⟩ := replaced
    have some : newer.filter (fun c => c.pid? = some pid) ≠ [] := by
      intro none
      exact List.filter_eq_nil_iff.mp none c member (decide_eq_true names)
    unfold lastFor
    rw [List.filter_append, List.filter_append, List.filter_cons_of_pos (by simp [Change.pid?]),
      List.getLast?_append, List.getLast?_append, List.getLast?_cons_of_ne_nil some]
  have fallback : lastDefault (older ++ .associate interface pid :: newer) =
      lastDefault (older ++ newer) := by
    unfold lastDefault
    rw [List.filterMap_append, List.filterMap_append]
    rfl
  unfold latest
  rw [own, fallback]

end NetControl.Lookup.Associations
