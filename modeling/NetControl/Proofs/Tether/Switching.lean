import NetControl.Proofs.Tether.Exchange
import NetControl.Tether.Forwarding

/-!
# What the operations on forwarding ask

Every exchange of an operation on forwarding is about a switch, and an operation that writes the
switches at all writes that of IPv4 and then that of IPv6, whatever became of the first.
-/

namespace NetControl.Tether

/-- The exchange is about a switch. -/
def Exchange.IsSwitch (x : Exchange) : Prop :=
  ∃ family on, x.call = .switch family on

namespace Forwarding

open Plan

variable {f f' : Forwarding} {h : List Exchange} {r : Except SwitchError Unit}

/-- The result of a try at a switch. -/
def switchResult (f : Forwarding) (family : Family) (on : Bool) (answer : Except OsError Unit) :
    Except SwitchError Unit :=
  answer.mapError fun cause => ⟨f.switches.path family, on, cause⟩

theorem of_follows_writeSwitch {family : Family} {on : Bool}
    (follows : (writeSwitch family on).Follows f h r f') :
    f' = f ∧ ∃ answer, h = [⟨.switch family on, answer⟩] ∧ r = f.switchResult family on answer := by
  unfold writeSwitch at follows
  obtain ⟨answer, _, asked, rfl⟩ := follows_request_bind.mp (follows_get_bind.mp follows)
  cases answer with
  | ok _ =>
    obtain ⟨rfl, rfl, rfl⟩ := follows_pure.mp asked
    exact ⟨rfl, _, rfl, rfl⟩
  | error cause =>
    simp only [follows_log_bind, follows_pure] at asked
    obtain ⟨rfl, rfl, rfl⟩ := asked
    exact ⟨rfl, _, rfl, rfl⟩

/-- Applying the state tries both switches, and fails as the first that fails. -/
theorem of_follows_apply (follows : apply.Follows f h r f') :
    f' = f ∧ ∃ first second,
      h = [⟨.switch .ipv4 f.isEnabled, first⟩, ⟨.switch .ipv6 f.isEnabled, second⟩] ∧
        r = match f.switchResult .ipv4 f.isEnabled first with
          | .ok _ => f.switchResult .ipv6 f.isEnabled second
          | .error e => .error e := by
  unfold apply at follows
  have started := follows_log_bind.mp (follows_get_bind.mp follows)
  obtain ⟨_, _, _, _, ipv4, rest, rfl⟩ := follows_bind.mp started
  obtain ⟨rfl, first, rfl, rfl⟩ := of_follows_writeSwitch ipv4
  obtain ⟨_, _, _, _, ipv6, ending, rfl⟩ := follows_bind.mp rest
  obtain ⟨rfl, second, rfl, rfl⟩ := of_follows_writeSwitch ipv6
  obtain ⟨rfl, rfl, rfl⟩ := follows_pure.mp ending
  exact ⟨rfl, first, second, rfl, rfl⟩

theorem isSwitch_of_apply (follows : apply.Follows f h r f') : ∀ x ∈ h, x.IsSwitch := by
  obtain ⟨-, first, second, rfl, -⟩ := of_follows_apply follows
  intro x member
  simp only [List.mem_cons, List.not_mem_nil, or_false] at member
  rcases member with rfl | rfl
  · exact ⟨_, _, rfl⟩
  · exact ⟨_, _, rfl⟩

/-- Registering a requester tries the switches just if there was none. -/
theorem of_follows_enable {who : String} (follows : (enable who).Follows f h r f') :
    f' = { f with requesters := insertName who f.requesters } ∧
      ((f.requesters ≠ [] ∧ h = [] ∧ r = .ok ()) ∨
        (f.requesters = [] ∧ apply.Follows f' h r f')) := by
  unfold enable at follows
  have started := follows_put_bind.mp (follows_get_bind.mp follows)
  by_cases empty : f.requesters = []
  · have off : f.isEnabled = false := by rw [isEnabled, empty]; rfl
    rw [off, if_neg Bool.false_ne_true] at started
    obtain ⟨rfl, -⟩ := of_follows_apply started
    exact ⟨rfl, Or.inr ⟨empty, started⟩⟩
  · have on : f.isEnabled = true := by
      rw [isEnabled, Bool.not_eq_true', List.isEmpty_eq_false_iff]
      exact empty
    rw [on, if_pos rfl] at started
    obtain ⟨rfl, rfl, rfl⟩ := follows_pure.mp started
    exact ⟨rfl, Or.inl ⟨empty, rfl, rfl⟩⟩

/-- Removing a requester tries the switches just if it was the last one. -/
theorem of_follows_disable {who : String} (follows : (disable who).Follows f h r f') :
    f' = { f with requesters := f.requesters.erase who } ∧
      ((¬(f.requesters ≠ [] ∧ f.requesters.erase who = []) ∧ h = [] ∧ r = .ok ()) ∨
        (f.requesters ≠ [] ∧ f.requesters.erase who = [] ∧ apply.Follows f' h r f')) := by
  unfold disable at follows
  have started := follows_put_bind.mp (follows_get_bind.mp follows)
  have last : (f.isEnabled && (f.requesters.erase who).isEmpty) = true ↔
      f.requesters ≠ [] ∧ f.requesters.erase who = [] := by
    rw [Bool.and_eq_true, isEnabled, Bool.not_eq_true', List.isEmpty_eq_false_iff,
      List.isEmpty_iff]
  by_cases turns : f.requesters ≠ [] ∧ f.requesters.erase who = []
  · rw [if_pos (last.mpr turns)] at started
    obtain ⟨rfl, -⟩ := of_follows_apply started
    exact ⟨rfl, Or.inr ⟨turns.1, turns.2, started⟩⟩
  · rw [if_neg (mt last.mp turns)] at started
    obtain ⟨rfl, rfl, rfl⟩ := follows_pure.mp started
    exact ⟨rfl, Or.inl ⟨turns, rfl, rfl⟩⟩

theorem isSwitch_of_enable {who : String} (follows : (enable who).Follows f h r f') :
    ∀ x ∈ h, x.IsSwitch := by
  obtain ⟨-, ⟨-, rfl, -⟩ | ⟨-, applied⟩⟩ := of_follows_enable follows
  · simp
  · exact isSwitch_of_apply applied

theorem isSwitch_of_disable {who : String} (follows : (disable who).Follows f h r f') :
    ∀ x ∈ h, x.IsSwitch := by
  obtain ⟨-, ⟨-, rfl, -⟩ | ⟨-, -, applied⟩⟩ := of_follows_disable follows
  · simp
  · exact isSwitch_of_apply applied

end Forwarding

end NetControl.Tether
