import Mathlib.Data.List.Basic
import NetControl.Proofs.Tether.Switching
import NetControl.Proofs.Tether.Transition

/-!
# Requesters by the calls that name them

A requester is registered if the last call that names it registers it. This is said over the calls
alone: it knows no list of requesters. `Keeps` relates it to the list that is kept, and
`of_follows_plan` says what one call does to the list and whether it tries the switches.
-/

namespace NetControl.Tether

/-! ## Sorted lists of names -/

theorem mem_insertName {name other : String} {names : List String} :
    other ∈ insertName name names ↔ other = name ∨ other ∈ names := by
  induction names with
  | nil => simp [insertName]
  | cons first rest ih =>
    unfold insertName
    split
    · next same =>
      rw [same, List.mem_cons]
      exact ⟨Or.inr, fun either => either.elim Or.inl id⟩
    split
    · rw [List.mem_cons]
    · rw [List.mem_cons, ih, List.mem_cons]
      exact or_left_comm

theorem pairwise_insertName {name : String} {names : List String}
    (sorted : names.Pairwise (· < ·)) : (insertName name names).Pairwise (· < ·) := by
  induction names with
  | nil => exact List.pairwise_singleton _ _
  | cons first rest ih =>
    obtain ⟨below, ascending⟩ := List.pairwise_cons.mp sorted
    unfold insertName
    split
    · exact sorted
    next different =>
    split
    · next before =>
      refine List.pairwise_cons.mpr ⟨fun other member => ?_, sorted⟩
      rcases List.mem_cons.mp member with rfl | later
      · exact before
      · exact String.lt_trans before (below other later)
    · next behind =>
      refine List.pairwise_cons.mpr ⟨fun other member => ?_, ih ascending⟩
      rcases mem_insertName.mp member with rfl | later
      · have least : first ≤ other := String.not_lt.mp behind
        exact String.not_le.mp fun most => different (String.le_antisymm most least)
      · exact below other later

theorem nodup_of_sorted {names : List String} (sorted : names.Pairwise (· < ·)) : names.Nodup := by
  apply sorted.imp
  rintro name _ less rfl
  exact String.lt_irrefl name less

/-! ## Calls -/

/-- A call on the forwarding of packets. -/
inductive ForwardingCall where
  | enable (who : String)
  | disable (who : String)
  | apply
deriving Repr, DecidableEq

namespace ForwardingCall

/-- The requester that the call names. -/
def who? : ForwardingCall → Option String
  | enable who => some who
  | disable who => some who
  | apply => none

/-- The last of the calls that name the requester registers it. -/
def Registered (calls : List ForwardingCall) (who : String) : Prop :=
  (calls.filter fun call => call.who? = some who).getLast? = some (.enable who)

instance (calls : List ForwardingCall) (who : String) : Decidable (Registered calls who) :=
  inferInstanceAs (Decidable (_ = _))

/-- Somebody is registered. -/
def Needed (calls : List ForwardingCall) : Prop :=
  ∃ who, Registered calls who

theorem mem_of_registered {calls : List ForwardingCall} {who : String}
    (registered : Registered calls who) : .enable who ∈ calls :=
  List.mem_of_mem_filter (List.mem_of_getLast? registered)

instance (calls : List ForwardingCall) : Decidable (Needed calls) :=
  decidable_of_iff (∃ call ∈ calls, ∃ who ∈ call.who?, Registered calls who)
    ⟨fun ⟨_, _, who, _, registered⟩ => ⟨who, registered⟩,
      fun ⟨who, registered⟩ => ⟨_, mem_of_registered registered, who, rfl, registered⟩⟩

/-- The switches are to be tried at the call: it asks for that, or somebody is registered after it
and nobody was before, or the other way about. -/
def Tries (before : List ForwardingCall) (call : ForwardingCall) : Prop :=
  call = .apply ∨ ¬(Needed before ↔ Needed (before ++ [call]))

instance (before : List ForwardingCall) (call : ForwardingCall) : Decidable (Tries before call) :=
  inferInstanceAs (Decidable (_ ∨ _))

variable {calls : List ForwardingCall} {call : ForwardingCall} {who : String}

theorem registered_append_of_named (named : call.who? = some who) :
    Registered (calls ++ [call]) who ↔ call = .enable who := by
  rw [Registered, List.filter_append, List.filter_cons_of_pos (by simpa using named),
    List.filter_nil, List.getLast?_concat, Option.some_inj]

theorem registered_append_of_other (other : call.who? ≠ some who) :
    Registered (calls ++ [call]) who ↔ Registered calls who := by
  rw [Registered, List.filter_append, List.filter_cons_of_neg (by simpa using other),
    List.filter_nil, List.append_nil, Registered]

/-! ## The list that is kept -/

/-- The requesters after the call. -/
def after (names : List String) : ForwardingCall → List String
  | enable who => insertName who names
  | disable who => names.erase who
  | apply => names

/-- The list holds those whom the calls have registered, each once and in order. -/
structure Keeps (calls : List ForwardingCall) (names : List String) : Prop where
  sorted : names.Pairwise (· < ·)
  mem_iff (who : String) : who ∈ names ↔ Registered calls who

namespace Keeps

variable {names : List String}

theorem nil : Keeps [] [] where
  sorted := List.Pairwise.nil
  mem_iff who := by simp [Registered]

theorem needed_iff (keeps : Keeps calls names) : Needed calls ↔ names ≠ [] := by
  have members : Needed calls ↔ ∃ who, who ∈ names :=
    exists_congr fun who => (keeps.mem_iff who).symm
  rw [members]
  exact ⟨fun ⟨_, member⟩ => List.ne_nil_of_mem member, List.exists_mem_of_ne_nil names⟩

theorem append (keeps : Keeps calls names) (call : ForwardingCall) :
    Keeps (calls ++ [call]) (call.after names) := by
  cases call with
  | enable name =>
    refine ⟨pairwise_insertName keeps.sorted, fun who => ?_⟩
    rw [after, mem_insertName]
    by_cases same : who = name
    · rw [same, registered_append_of_named rfl]
      exact ⟨fun _ => rfl, fun _ => Or.inl rfl⟩
    · have other : (enable name).who? ≠ some who := fun named => same (Option.some.inj named).symm
      rw [registered_append_of_other other, keeps.mem_iff who, or_iff_right same]
  | disable name =>
    refine ⟨keeps.sorted.sublist List.erase_sublist, fun who => ?_⟩
    rw [after, (nodup_of_sorted keeps.sorted).mem_erase_iff]
    by_cases same : who = name
    · rw [same, registered_append_of_named rfl]
      exact ⟨fun both => (both.1 rfl).elim, nofun⟩
    · have other : (disable name).who? ≠ some who := fun named => same (Option.some.inj named).symm
      rw [registered_append_of_other other, keeps.mem_iff who, and_iff_right same]
  | apply =>
    refine ⟨keeps.sorted, fun who => ?_⟩
    rw [registered_append_of_other (by nofun)]
    exact keeps.mem_iff who

theorem tries_iff (keeps : Keeps calls names) (call : ForwardingCall) :
    Tries calls call ↔ call = .apply ∨ ¬(names = [] ↔ call.after names = []) := by
  rw [Tries, keeps.needed_iff, (keeps.append call).needed_iff, not_iff_not]

end Keeps

/-! ## Plans -/

/-- The plan of the call. -/
def plan : ForwardingCall → Plan Controller (Except Error Unit)
  | enable who => Controller.enableForwarding who
  | disable who => Controller.disableForwarding who
  | apply => do return (← Controller.onForwarding Forwarding.apply).mapError .forwarding

open Plan

theorem follows_reported {p : Plan Forwarding (Except SwitchError Unit)} {c c' : Controller}
    {h : List Exchange} {r : Except Error Unit} :
    (do return (← Controller.onForwarding p).mapError Error.forwarding :
      Plan Controller (Except Error Unit)).Follows c h r c' ↔
      ∃ r', (Controller.onForwarding p).Follows c h r' c' ∧ r = r'.mapError .forwarding := by
  constructor
  · intro follows
    obtain ⟨r', _, _, _, inner, ending, rfl⟩ := follows_bind.mp follows
    obtain ⟨rfl, rfl, rfl⟩ := follows_pure.mp ending
    rw [List.append_nil]
    exact ⟨r', inner, rfl⟩
  · rintro ⟨r', follows, rfl⟩
    exact follows_bind.mpr ⟨r', c', h, [], follows, follows_pure.mpr ⟨rfl, rfl, rfl⟩,
      (List.append_nil h).symm⟩

/-- A call changes the requesters, and applies them just where the switches are to be tried. -/
theorem of_follows_plan {c c' : Controller} {h : List Exchange} {r : Except Error Unit}
    (keeps : Keeps calls c.forwarding.requesters) (follows : call.plan.Follows c h r c') :
    c' = { c with
        forwarding := { c.forwarding with requesters := call.after c.forwarding.requesters } } ∧
      ∃ r', r = r'.mapError .forwarding ∧
        ((¬Tries calls call ∧ h = [] ∧ r' = .ok ()) ∨
          (Tries calls call ∧ Forwarding.apply.Follows c'.forwarding h r' c'.forwarding)) := by
  rw [keeps.tries_iff]
  cases call with
  | enable who =>
    obtain ⟨r', inner, rfl⟩ := follows_reported.mp follows
    obtain ⟨f, switched, rfl⟩ := Controller.of_follows_onForwarding inner
    have some : insertName who c.forwarding.requesters ≠ [] :=
      List.ne_nil_of_mem (mem_insertName.mpr (Or.inl rfl))
    obtain ⟨rfl, ⟨others, rfl, rfl⟩ | ⟨first, applied⟩⟩ := Forwarding.of_follows_enable switched
    · refine ⟨rfl, _, rfl, Or.inl ⟨?_, rfl, rfl⟩⟩
      simp [after, others, some]
    · refine ⟨rfl, _, rfl, Or.inr ⟨?_, applied⟩⟩
      simp [after, first, insertName]
  | disable who =>
    obtain ⟨r', inner, rfl⟩ := follows_reported.mp follows
    obtain ⟨f, switched, rfl⟩ := Controller.of_follows_onForwarding inner
    obtain ⟨rfl, ⟨others, rfl, rfl⟩ | ⟨some, last, applied⟩⟩ :=
      Forwarding.of_follows_disable switched
    · refine ⟨rfl, _, rfl, Or.inl ⟨?_, rfl, rfl⟩⟩
      rw [or_iff_right (by nofun), not_not, after]
      refine ⟨fun empty => by rw [empty]; rfl, fun none => ?_⟩
      exact not_not.mp fun some => others ⟨some, none⟩
    · refine ⟨rfl, _, rfl, Or.inr ⟨?_, applied⟩⟩
      simp [after, some, last]
  | apply =>
    obtain ⟨r', inner, rfl⟩ := follows_reported.mp follows
    obtain ⟨f, applied, rfl⟩ := Controller.of_follows_onForwarding inner
    obtain ⟨rfl, -⟩ := Forwarding.of_follows_apply applied
    exact ⟨rfl, _, rfl, Or.inr ⟨Or.inl rfl, applied⟩⟩

end ForwardingCall

end NetControl.Tether
