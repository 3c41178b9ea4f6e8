import NetControl.Lifecycle.Drain

/-!
# What the channels of a drain know

The channels know nothing of watchers and blockers but how many ends are left. `Account` says which
numbers of watchers and blockers these ends stand for, and what was signalled; each operation on the
channels takes an account to the account of what the operation does (`Account.cloneWatcher` and the
others). What the channels tell is then read off their account: whether the drain is over
(`Account.isOver_iff`), and which mode a watcher learns (`Account.mode?_eq`).
-/

namespace NetControl.Lifecycle.DrainChannels

/-- The channels are those of so many watchers and blockers. The signal was sent with the mode
`sent`, or not at all; the trigger is there or not. -/
structure Account (c : DrainChannels) (watchers blockers : Nat) (sent : Option DrainMode)
    (hasTrigger : Bool) : Prop where
  receivers : c.signal.receivers = watchers
  senders : c.releases.senders = watchers + blockers
  hasSender : c.signal.hasSender = hasTrigger
  /-- A signal that nobody receives is lost. -/
  value : watchers ≠ 0 → c.signal.value = sent

namespace Account

variable {c : DrainChannels} {watchers blockers : Nat} {sent : Option DrainMode}
  {hasTrigger : Bool}

theorem new : Account {} 1 0 none true where
  receivers := rfl
  senders := rfl
  hasSender := rfl
  value _ := rfl

/-! ## Operations -/

theorem cloneWatcher (account : c.Account (watchers + 1) blockers sent hasTrigger) :
    c.cloneWatcher.Account (watchers + 2) blockers sent hasTrigger where
  receivers := congrArg (· + 1) account.receivers
  senders := by
    have senders := account.senders
    simp only [DrainChannels.cloneWatcher, Queue.addSender]
    omega
  hasSender := account.hasSender
  value _ := account.value (Nat.succ_ne_zero watchers)

theorem dropWatcher (account : c.Account (watchers + 1) blockers sent hasTrigger) :
    c.dropWatcher.Account watchers blockers sent hasTrigger where
  receivers := congrArg (· - 1) account.receivers
  senders := by
    have senders := account.senders
    simp only [DrainChannels.dropWatcher, Queue.dropSender]
    omega
  hasSender := account.hasSender
  value _ := account.value (Nat.succ_ne_zero watchers)

theorem toBlocker (account : c.Account (watchers + 1) blockers sent hasTrigger) :
    c.toBlocker.Account watchers (blockers + 1) sent hasTrigger where
  receivers := congrArg (· - 1) account.receivers
  senders := by
    have senders := account.senders
    simp only [DrainChannels.toBlocker]
    omega
  hasSender := account.hasSender
  value _ := account.value (Nat.succ_ne_zero watchers)

theorem dropBlocker (account : c.Account watchers (blockers + 1) sent hasTrigger) :
    c.dropBlocker.Account watchers blockers sent hasTrigger where
  receivers := account.receivers
  senders := by
    have senders := account.senders
    simp only [DrainChannels.dropBlocker, Queue.dropSender]
    omega
  hasSender := account.hasSender
  value := account.value

theorem start (account : c.Account watchers blockers sent hasTrigger) (mode : DrainMode) :
    (c.start mode).Account watchers blockers (some mode) hasTrigger := by
  obtain ⟨rfl, senders, hasSender, -⟩ := account
  unfold DrainChannels.start Watch.send
  split
  · next nobody => exact ⟨rfl, senders, hasSender, fun somebody => (somebody nobody).elim⟩
  · exact ⟨rfl, senders, hasSender, fun _ => rfl⟩

theorem dropTrigger (account : c.Account watchers blockers sent hasTrigger) :
    c.dropTrigger.Account watchers blockers sent false where
  receivers := account.receivers
  senders := account.senders
  hasSender := rfl
  value := account.value

/-! ## What the channels tell -/

/-- The drain is over just if no watcher and no blocker is left. -/
theorem isOver_iff (account : c.Account watchers blockers sent hasTrigger) :
    c.isOver = true ↔ watchers = 0 ∧ blockers = 0 := by
  have none : c.releases.messages = [] :=
    List.eq_nil_iff_forall_not_mem.mpr fun never => nomatch never
  have senders := account.senders
  unfold isOver Queue.receive
  rw [none]
  by_cases empty : c.releases.senders = 0
  · simp only [if_pos empty, true_iff]
    omega
  · simp only [if_neg empty, Bool.false_eq_true, false_iff]
    omega

/-- The mode that a watcher learns: the one that was sent, or that of a trigger that has gone
without a signal. -/
def learntMode (sent : Option DrainMode) (hasTrigger : Bool) : Option DrainMode :=
  match sent with
  | some mode => some mode
  | none => if hasTrigger then none else some .immediate

theorem mode?_eq (account : c.Account (watchers + 1) blockers sent hasTrigger) :
    c.mode? = learntMode sent hasTrigger := by
  unfold mode? Watch.waitFor
  rw [account.value (Nat.succ_ne_zero watchers), account.hasSender]
  cases sent with
  | some mode => rfl
  | none => cases hasTrigger <;> rfl

end Account

end NetControl.Lifecycle.DrainChannels
