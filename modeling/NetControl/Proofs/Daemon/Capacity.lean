import NetControl.Proofs.Settings.Precedence
import NetControl.Rehearsal.Invocation

/-!
# Starts that break down

The threads of the daemon and the permits of its lookups are made in numbers that the configuration
gives. A number of none is raised to one for both, but there is also a greatest number of permits,
and nothing lowers the number of lookups to it or refuses a greater one. `isStartable_iff` says that
only this can go wrong. `starts_within_range` follows the number from its sources to the start and
says which invocations of the program break down, with the control socket bound already.
-/

namespace NetControl

open Daemon Settings

namespace Daemon

variable {c : Config}

/-- The numbers of threads and permits that the daemon is made with are in range: there is a thread,
and no more permits than there can be. -/
def IsStartable (c : Config) : Prop :=
  1 ≤ threads c ∧ permits c ≤ Lookup.Pool.permitLimit

theorem one_le_threads (c : Config) : 1 ≤ threads c :=
  Nat.le_max_right _ _

theorem permits_le_iff : permits c ≤ Lookup.Pool.permitLimit ↔
    c.maxLookups.toNat ≤ Lookup.Pool.permitLimit := by
  have positive : 1 ≤ Lookup.Pool.permitLimit := by decide
  unfold permits Lookup.Pool.capacity
  omega

theorem isStartable_iff : IsStartable c ↔ c.maxLookups.toNat ≤ Lookup.Pool.permitLimit := by
  rw [IsStartable, and_iff_right (one_le_threads c), permits_le_iff]

theorem breakdown?_eq_none_iff : breakdown? c = none ↔ IsStartable c := by
  unfold breakdown?
  rw [isStartable_iff, ← permits_le_iff]
  split
  · next beyond => exact iff_of_false nofun (Nat.not_le.mpr beyond)
  · next within => exact iff_of_true rfl (Nat.not_lt.mp within)

section Start

variable {env : Environment} {files : String → Except OsError (Option Bytes)}
  {arguments : List String}

/-- The daemon runs if there is a configuration and the arguments ask for it. -/
theorem ofInvocation_eq_run_iff : Start.ofInvocation env files arguments = .run c ↔
    Config.load env files = .ok c ∧ Task.ofArguments arguments = .run := by
  unfold Start.ofInvocation
  cases Config.load env files with
  | error e => exact iff_of_false nofun nofun
  | ok found =>
    cases Task.ofArguments arguments with
    | run => simp [Task.start]
    | version | help | unknown => exact iff_of_false nofun nofun

/-- Where the daemon does not run, nothing breaks down. -/
theorem status_of_finished {f : Finish}
    (finished : Start.ofInvocation env files arguments = .finished f) : f.status ≤ 1 := by
  unfold Start.ofInvocation at finished
  revert finished
  cases Config.load env files with
  | error e =>
    intro finished
    cases finished
    exact Nat.le_refl 1
  | ok found =>
    cases Task.ofArguments arguments with
    | run => nofun
    | version | help =>
      intro finished
      cases finished
      exact Nat.zero_le 1
    | unknown word =>
      intro finished
      cases finished
      exact Nat.le_refl 1

end Start

/-- A socket takes its path if what is there can be removed, or nothing is there, and the system
lets it. -/
theorem Listener.bind_eq_ok_iff {l : Listener} {answers : PathAnswers} :
    (l.bind answers).1 = .ok () ↔
      (answers.removal = .ok () ∨ answers.removal = .error OsError.notFound) ∧
        answers.binding = .ok () := by
  unfold bind
  cases answers.removal with
  | ok => cases answers.binding <;> simp
  | error e =>
    by_cases missing : e = OsError.notFound
    · cases answers.binding <;> simp [missing]
    · simp [missing]

end Daemon

namespace Rehearsal

/-- A socket takes its path unless the system refuses it. -/
theorem Session.bindSocket_fst_eq_none_iff (s : Session) (l : Listener) :
    (s.bindSocket l).1 = none ↔ (l.bind (s.paths.answers l.path)).1 = .ok () := by
  unfold bindSocket
  split
  · next bound => exact iff_of_true rfl (by rw [bound])
  · next failed => exact iff_of_false nofun (by rw [failed]; nofun)

namespace Invocation

variable (p : Invocation) (c : Config) (resolver : Lookup.Resolver) (visits : List Visit)
  (signal : Signal)

/-- The control socket of a configuration can take its path. -/
def BindsControl : Prop :=
  ((Listener.control c.controlSocket).bind (p.allPaths.answers c.controlSocket)).1 = .ok ()

/-- The daemon with its controller set up, before its sockets are bound. -/
def booted : Session :=
  ((Session.ofConfig c (p.host c) p.allPaths { resolver }).log (startNotes c)).boot c.bootMode

theorem booted_bindSocket_iff :
    ((p.booted c resolver).bindSocket (.control c.controlSocket)).1 = none ↔ p.BindsControl c :=
  Session.bindSocket_fst_eq_none_iff _ _

/-- The daemon breaks down when its control socket is bound and its numbers are out of range. -/
theorem status_live :
    (p.live c resolver visits signal).1.status = 101 ↔ p.BindsControl c ∧ ¬IsStartable c := by
  rw [← p.booted_bindSocket_iff c resolver, ← breakdown?_eq_none_iff]
  unfold live
  dsimp only
  split
  · next e s taken =>
    have refused := congrArg Prod.fst taken
    exact iff_of_false nofun fun broken => nomatch broken.1.symm.trans refused
  · next s message taken broken =>
    rw [broken]
    exact iff_of_true rfl ⟨congrArg Prod.fst taken, nofun⟩
  · next sound =>
    refine iff_of_false ?_ fun broken => broken.2 sound
    split <;> nofun

theorem status_run (time : String) (files : List String) :
    (p.run resolver visits signal time files).1.finish.status = 101 ↔
      ∃ c, p.config = .ok c ∧ Task.ofArguments p.arguments = .run ∧ p.BindsControl c ∧
        Lookup.Pool.permitLimit < c.maxLookups.toNat := by
  have runs {c : Config} : Start.ofInvocation p.environment p.read p.arguments = .run c ↔
      p.config = .ok c ∧ Task.ofArguments p.arguments = .run := ofInvocation_eq_run_iff
  unfold run
  cases started : Start.ofInvocation p.environment p.read p.arguments with
  | finished f =>
    have status := status_of_finished started
    refine iff_of_false (fun broken => ?_) ?_
    · change f.status = 101 at broken
      omega
    · rintro ⟨c, accepted, asked, -⟩
      rw [runs.mpr ⟨accepted, asked⟩] at started
      cases started
  | run c =>
    obtain ⟨accepted, asked⟩ := runs.mp started
    have live := p.status_live c resolver visits signal
    rw [isStartable_iff, Nat.not_le] at live
    refine live.trans ⟨fun broken => ⟨c, accepted, asked, broken⟩, ?_⟩
    rintro ⟨c', accepted', -, broken⟩
    rw [accepted] at accepted'
    cases accepted'
    exact broken

/-- However a configuration comes about, there is a thread for the daemon, and its permits are in
range just if its number of lookups is, which is that of the variable, else that of the file, else
the default. An invocation with the configuration breaks down just if it runs the daemon, the
control socket is bound and the number of lookups is out of range. -/
theorem starts_within_range {env : Environment}
    {files : String → Except OsError (Option Bytes)} {c : Config}
    (accepted : Config.load env files = .ok c) :
    (1 ≤ threads c ∧
      (permits c ≤ Lookup.Pool.permitLimit ↔ c.maxLookups.toNat ≤ Lookup.Pool.permitLimit)) ∧
      (∃ file, Config.readFile env files = .ok file ∧
        Key.maxLookups.Takes env file c.maxLookups) ∧
      ∀ (p : Invocation) (resolver : Lookup.Resolver) (visits : List Visit) (signal : Signal)
        (time : String) (paths : List String), p.config = .ok c →
        ((p.run resolver visits signal time paths).1.finish.status = 101 ↔
          Task.ofArguments p.arguments = .run ∧ p.BindsControl c ∧
            Lookup.Pool.permitLimit < c.maxLookups.toNat) := by
  obtain ⟨file, read, resolved⟩ := bind_eq_ok.mp accepted
  have takes := (resolve_eq_ok_iff.mp resolved).2 .maxLookups
  refine ⟨⟨one_le_threads c, permits_le_iff⟩, ⟨file, read, takes⟩, ?_⟩
  intro p resolver visits signal time paths configured
  refine (p.status_run resolver visits signal time paths).trans ⟨?_, fun broken => ?_⟩
  · rintro ⟨c', configured', broken⟩
    rw [configured] at configured'
    cases configured'
    exact broken
  · exact ⟨c, configured, broken⟩

/-- A start with a number of lookups in the variable for it. -/
def withLookups (count : String) : Invocation :=
  { environment := ⟨[("NETD_SOCKET", Bytes.ofString "n"),
      ("DNSPROXY_MAX_CONCURRENT_QUERIES", Bytes.ofString count)]⟩ }

/-- The greatest number of lookups that is in range is taken from its variable, and the daemon
starts with it. -/
theorem starts_at_permitLimit :
    ∃ c, (withLookups "2305843009213693951").config = .ok c ∧
      permits c ≤ Lookup.Pool.permitLimit ∧
      (∃ file,
        Key.maxLookups.Takes (withLookups "2305843009213693951").environment file c.maxLookups) ∧
      ((withLookups "2305843009213693951").run unpreparedResolver [] .terminate ""
        []).1.finish.status ≠ 101 := by
  have accepted : (withLookups "2305843009213693951").config = .ok _ := rfl
  obtain ⟨⟨-, inRange⟩, ⟨file, -, takes⟩, ends⟩ := starts_within_range accepted
  refine ⟨_, accepted, inRange.mpr (by decide), ⟨file, takes⟩, fun broken => ?_⟩
  obtain ⟨-, -, beyond⟩ := (ends _ _ _ _ _ _ accepted).mp broken
  exact absurd beyond (by decide)

/-- One lookup more is accepted as well, and the daemon breaks down when its control socket is
bound. -/
theorem breaks_beyond_permitLimit :
    ∃ c, (withLookups "2305843009213693952").config = .ok c ∧
      (withLookups "2305843009213693952").BindsControl c ∧
      Lookup.Pool.permitLimit < permits c ∧
      ∀ resolver visits signal time files,
        ((withLookups "2305843009213693952").run resolver visits signal time
          files).1.finish.status = 101 := by
  have accepted : (withLookups "2305843009213693952").config =
    .ok { controlSocket := "n", maxLookups := 2305843009213693952 } := rfl
  have pieces : "n".splitOn "/" = ["n"] := by
    rw [String.splitOn, if_neg (by decide), String.splitOnAux, if_neg (by decide),
      if_neg (by decide), String.splitOnAux, if_pos (by decide)]
    rfl
  have names : Paths.namesOf "n" = ["n"] := by
    rw [Paths.namesOf, pieces]
    rfl
  have missing : Paths.bare.removal "n" = .error OsError.notFound := by
    rw [Paths.removal, names]
    rfl
  have taken : Paths.bare.binding "n" = .ok () := by
    rw [Paths.binding, names]
    rfl
  have binds : (withLookups "2305843009213693952").BindsControl
      { controlSocket := "n", maxLookups := 2305843009213693952 } :=
    Listener.bind_eq_ok_iff.mpr ⟨.inr missing, taken⟩
  refine ⟨_, accepted, binds, by decide, fun resolver visits signal time files => ?_⟩
  exact (status_run _ _ _ _ _ _).mpr ⟨_, accepted, rfl, binds, by decide⟩

end Invocation

end Rehearsal

end NetControl
