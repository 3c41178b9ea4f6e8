import NetControl.Proofs.Except
import NetControl.Settings.Config

/-!
# Which source decides a setting

A setting has three sources: its variable, the settings file and its default. It takes the value of
the first of them that has one (`Key.Takes`). The sources can be at fault in two ways: the grace
period in the file is no period, even where a variable overrides it, or one of the three variables
that are more than text has no value. `resolve_eq_ok_iff` says that there is a configuration just if
there is no fault and which one it is then, and `firstFault_of_error` that otherwise the error is
the first fault in a fixed order. `settings_by_precedence` puts both together, setting by setting.
-/

namespace NetControl.Settings

/-- The settings of the daemon. -/
inductive Key where
  | controlSocket
  | lookupSocket
  | daemonPath
  | ipv4Switch
  | ipv6Switch
  | knobRoot
  | bootMode
  | maxLookups
  | gracePeriod
  | workers
deriving Repr, DecidableEq

namespace Key

/-- The variable that sets it. -/
def variableName : Key → String
  | controlSocket => "NETD_SOCKET"
  | lookupSocket => "DNSPROXYD_SOCKET"
  | daemonPath => "TETHER_DAEMON_PATH"
  | ipv4Switch => "IPV4_FORWARDING_PATH"
  | ipv6Switch => "IPV6_FORWARDING_PATH"
  | knobRoot => "IPV6_CONF_ROOT"
  | bootMode => "BOOT_MODE"
  | maxLookups => "DNSPROXY_MAX_CONCURRENT_QUERIES"
  | gracePeriod => "TERMINATION_GRACE_PERIOD"
  | workers => "NETD_WORKER_THREADS"

/-- What kind of values it has. -/
abbrev Value : Key → Type
  | maxLookups => UInt64
  | gracePeriod => Period
  | workers => UInt64
  | _ => String

/-- The value that a text denotes. -/
def parse : (k : Key) → String → Option k.Value
  | controlSocket => some
  | lookupSocket => some
  | daemonPath => some
  | ipv4Switch => some
  | ipv6Switch => some
  | knobRoot => some
  | bootMode => some
  | maxLookups => Text.readUInt64?
  | gracePeriod => Period.parse?
  | workers => Text.readUInt64?

/-- The value in a configuration. -/
def ofConfig (c : Config) : (k : Key) → k.Value
  | controlSocket => c.controlSocket
  | lookupSocket => c.lookupSocket
  | daemonPath => c.daemonPath
  | ipv4Switch => c.ipv4Switch
  | ipv6Switch => c.ipv6Switch
  | knobRoot => c.knobRoot
  | bootMode => c.bootMode
  | maxLookups => c.maxLookups
  | gracePeriod => c.gracePeriod
  | workers => c.workers

/-- The value in a settings file, if it has one. -/
def ofFile (file : FileSettings) : (k : Key) → Option k.Value
  | controlSocket => file.controlSocket
  | lookupSocket => file.lookupSocket
  | daemonPath => file.daemonPath
  | ipv4Switch => file.ipv4Switch
  | ipv6Switch => file.ipv6Switch
  | knobRoot => file.knobRoot
  | bootMode => file.bootMode
  | maxLookups => file.maxLookups
  | gracePeriod => file.gracePeriod.bind Period.parse?
  | workers => file.workers

/-- The settings whose values are more than text, in the order in which they are read. -/
def parsed : List Key := [maxLookups, gracePeriod, workers]

variable (env : Environment) (file : FileSettings)

/-- The value where no source has one. -/
def default (k : Key) : k.Value :=
  ofConfig {} k

/-- The variable of the setting has a value, if it is set. -/
def IsSound (k : Key) : Prop :=
  ∀ text, env.get? k.variableName = some text → ∃ x, k.parse text = some x

/-- The setting takes this value: that of its variable if it is set, else that of the file if there
is one, else the default. -/
inductive Takes (k : Key) : k.Value → Prop where
  | ofVariable {text : String} {x : k.Value} (given : env.get? k.variableName = some text)
    (denotes : k.parse text = some x) : Takes k x
  | ofFile {x : k.Value} (unset : env.get? k.variableName = none)
    (written : k.ofFile file = some x) : Takes k x
  | byDefault (unset : env.get? k.variableName = none) (unwritten : k.ofFile file = none) :
    Takes k k.default

end Key

/-- The grace period in the file is a period, if there is one. -/
def FileSettings.IsSound (file : FileSettings) : Prop :=
  ∀ text, file.gracePeriod = some text → ∃ p, Period.parse? text = some p

/-- The first thing that is wrong with the sources: the file is looked at before the variables, and
they in their order. -/
inductive FirstFault (env : Environment) (file : FileSettings) : ConfigError → Prop where
  | inFile {text : String} (written : file.gracePeriod = some text)
    (meaningless : Period.parse? text = none) : FirstFault env file (.gracePeriod text)
  | inVariable {before after : List Key} {k : Key} {text : String} (sound : file.IsSound)
    (order : Key.parsed = before ++ k :: after) (earlier : ∀ j ∈ before, j.IsSound env)
    (given : env.get? k.variableName = some text) (meaningless : k.parse text = none) :
    FirstFault env file (.variable k.variableName text)

variable {env : Environment} {file : FileSettings} {k : Key} {e : ConfigError}

/-! ## One setting -/

theorem Key.Takes.isSound {x : k.Value} (takes : k.Takes env file x) : k.IsSound env := by
  intro text given
  cases takes with
  | ofVariable given' denotes =>
    rw [given] at given'
    cases given'
    exact ⟨x, denotes⟩
  | ofFile unset | byDefault unset =>
    rw [given] at unset
    cases unset

/-- What a setting takes depends on its own variable and its own entry in the file. -/
theorem Key.Takes.unique {env' : Environment} {file' : FileSettings} {x y : k.Value}
    (sameVariable : env'.get? k.variableName = env.get? k.variableName)
    (sameEntry : k.ofFile file' = k.ofFile file) (takes : k.Takes env file x)
    (takes' : k.Takes env' file' y) : y = x := by
  cases takes with
  | ofVariable given denotes =>
    cases takes' with
    | ofVariable given' denotes' =>
      rw [sameVariable, given] at given'
      cases given'
      exact Option.some.inj (denotes'.symm.trans denotes)
    | ofFile unset | byDefault unset => simp [sameVariable, given] at unset
  | ofFile unset written =>
    cases takes' with
    | ofVariable given' => simp [sameVariable, unset] at given'
    | ofFile _ written' =>
      rw [sameEntry, written] at written'
      exact (Option.some.inj written').symm
    | byDefault _ unwritten => simp [sameEntry, written] at unwritten
  | byDefault unset unwritten =>
    cases takes' with
    | ofVariable given' => simp [sameVariable, unset] at given'
    | ofFile _ written' => simp [sameEntry, unwritten] at written'
    | byDefault => rfl

/-- The value that is chosen for a setting. -/
def Key.choose (env : Environment) (file : FileSettings) (k : Key) : Except ConfigError k.Value :=
  Config.choose env k.variableName k.parse (k.ofFile file) k.default

theorem Key.choose_eq_ok_iff {x : k.Value} : k.choose env file = .ok x ↔ k.Takes env file x := by
  unfold Key.choose Config.choose Environment.read
  constructor
  · intro chosen
    cases given : env.get? k.variableName with
    | none =>
      rw [given] at chosen
      cases written : k.ofFile file with
      | none =>
        rw [written] at chosen
        cases chosen
        exact .byDefault given written
      | some y =>
        rw [written] at chosen
        cases chosen
        exact .ofFile given written
    | some text =>
      rw [given] at chosen
      cases denotes : k.parse text with
      | none => simp [denotes, Except.map] at chosen
      | some y =>
        simp only [denotes, Except.map, Option.some_or, Option.getD_some, Except.ok.injEq] at chosen
        exact chosen ▸ .ofVariable given denotes
  · rintro (⟨given, denotes⟩ | ⟨unset, written⟩ | ⟨unset, unwritten⟩)
    · simp [given, denotes, Except.map]
    · simp [unset, written, Except.map]
    · simp [unset, unwritten, Except.map]

theorem Key.choose_eq_error_iff :
    k.choose env file = .error e ↔ ∃ text, env.get? k.variableName = some text ∧
      k.parse text = none ∧ e = .variable k.variableName text := by
  unfold Key.choose Config.choose Environment.read
  cases given : env.get? k.variableName with
  | none => simp [Except.map]
  | some text =>
    cases denotes : k.parse text with
    | none => simp [Except.map, denotes, eq_comm]
    | some x => simp [Except.map, denotes]

theorem period_eq_ok_iff {p : Option Period} :
    file.period = .ok p ↔ file.IsSound ∧ p = Key.gracePeriod.ofFile file := by
  unfold FileSettings.period FileSettings.IsSound Key.ofFile
  cases written : file.gracePeriod with
  | none => simp [eq_comm]
  | some text => cases denotes : Period.parse? text <;> simp [denotes, eq_comm]

theorem period_eq_error_iff :
    file.period = .error e ↔ ∃ text, file.gracePeriod = some text ∧
      Period.parse? text = none ∧ e = .gracePeriod text := by
  unfold FileSettings.period
  cases written : file.gracePeriod with
  | none => simp
  | some text => cases denotes : Period.parse? text <;> simp [denotes, eq_comm]

theorem resolve_eq_ok_iff {c : Config} :
    Config.resolve env file = .ok c ↔ file.IsSound ∧ ∀ k, Key.Takes env file k (k.ofConfig c) := by
  unfold Config.resolve
  simp only [bind_eq_ok, pure, Except.pure]
  constructor
  · rintro ⟨p, period, a, ha, b, hb, c, hc, d, hd, e, he, f, hf, g, hg, h, hh, i, hi, j, hj, same⟩
    cases same
    obtain ⟨sound, rfl⟩ := period_eq_ok_iff.mp period
    refine ⟨sound, fun k => Key.choose_eq_ok_iff.mp ?_⟩
    cases k <;> assumption
  · rintro ⟨sound, takes⟩
    have chosen (k : Key) := Key.choose_eq_ok_iff.mpr (takes k)
    exact ⟨_, period_eq_ok_iff.mpr ⟨sound, rfl⟩, _, chosen .controlSocket, _, chosen .lookupSocket,
      _, chosen .daemonPath, _, chosen .ipv4Switch, _, chosen .ipv6Switch, _, chosen .knobRoot,
      _, chosen .bootMode, _, chosen .maxLookups, _, chosen .gracePeriod, _, chosen .workers, rfl⟩

theorem firstFault_of_choose (before : List Key) (k : Key) {after : List Key}
    (sound : file.IsSound) (order : Key.parsed = before ++ k :: after)
    (earlier : ∀ j ∈ before, j.IsSound env) (failed : k.choose env file = .error e) :
    FirstFault env file e := by
  obtain ⟨text, given, meaningless, rfl⟩ := Key.choose_eq_error_iff.mp failed
  exact .inVariable sound order earlier given meaningless

theorem firstFault_of_error (failed : Config.resolve env file = .error e) :
    FirstFault env file e := by
  -- Every text is a value of the settings that are text, so that only the others can fail.
  have text {name : String} {written : Option String} {d : String} :
      Config.choose env name some written d ≠ .error e := by
    unfold Config.choose Environment.read
    cases env.get? name <;> nofun
  unfold Config.resolve at failed
  simp only [bind_eq_error, text, false_or, pure, Except.pure, reduceCtorEq, and_false,
    exists_false, or_false] at failed
  rcases failed with failed | ⟨p, period, _, -, _, -, _, -, _, -, _, -, _, -, _, -, failed⟩
  · obtain ⟨text, written, meaningless, rfl⟩ := period_eq_error_iff.mp failed
    exact .inFile written meaningless
  obtain ⟨sound, rfl⟩ := period_eq_ok_iff.mp period
  have sound_of (k : Key) {x : k.Value} (chosen : k.choose env file = .ok x) : k.IsSound env :=
    (Key.choose_eq_ok_iff.mp chosen).isSound
  rcases failed with failed | ⟨_, lookups, failed | ⟨_, grace, failed⟩⟩
  · exact firstFault_of_choose [] .maxLookups sound rfl nofun failed
  · refine firstFault_of_choose [.maxLookups] .gracePeriod sound rfl ?_ failed
    exact List.forall_mem_singleton.mpr (sound_of .maxLookups lookups)
  · refine firstFault_of_choose [.maxLookups, .gracePeriod] .workers sound rfl ?_ failed
    refine List.forall_mem_cons.mpr ⟨sound_of .maxLookups lookups, ?_⟩
    exact List.forall_mem_singleton.mpr (sound_of .gracePeriod grace)

theorem FileSettings.not_isSound {text : String} (written : file.gracePeriod = some text)
    (meaningless : Period.parse? text = none) : ¬file.IsSound := by
  intro sound
  obtain ⟨p, denotes⟩ := sound text written
  rw [meaningless] at denotes
  cases denotes

theorem Key.not_isSound {text : String} (given : env.get? k.variableName = some text)
    (meaningless : k.parse text = none) : ¬k.IsSound env := by
  intro sound
  obtain ⟨x, denotes⟩ := sound text given
  rw [meaningless] at denotes
  cases denotes

theorem FirstFault.not_sound (fault : FirstFault env file e) :
    ¬(file.IsSound ∧ ∀ k ∈ Key.parsed, k.IsSound env) := by
  rintro ⟨soundFile, sound⟩
  cases fault with
  | inFile written meaningless => exact FileSettings.not_isSound written meaningless soundFile
  | @inVariable before after k text _ order _ given meaningless =>
    have member : k ∈ Key.parsed := by simp [order]
    exact Key.not_isSound given meaningless (sound k member)

theorem FirstFault.isOfFile_iff (fault : FirstFault env file e) :
    e.isOfFile = true ↔ ¬file.IsSound := by
  cases fault with
  | inFile written meaningless =>
    exact iff_of_true rfl (FileSettings.not_isSound written meaningless)
  | inVariable sound => exact iff_of_false nofun (not_not_intro sound)

/-- For every environment and every settings file: there is a configuration just if the grace period
in the file is a period and the three variables that are more than text have values, each if it is
there. Then every setting takes the value of its variable, else that of the file, else its default,
whatever the other variables and the rest of the file are. Without a configuration the error is
about the file just if the file's grace period is none, and otherwise about the first variable, in
their order, that has no value. -/
theorem settings_by_precedence (env : Environment) (file : FileSettings) :
    ((∃ c, Config.resolve env file = .ok c) ↔
        file.IsSound ∧ ∀ k ∈ Key.parsed, k.IsSound env) ∧
      (∀ c, Config.resolve env file = .ok c → ∀ k : Key, k.Takes env file (k.ofConfig c)) ∧
      (∀ c env' file' c', Config.resolve env file = .ok c → Config.resolve env' file' = .ok c' →
        ∀ k : Key, env'.get? k.variableName = env.get? k.variableName →
          k.ofFile file' = k.ofFile file → k.ofConfig c' = k.ofConfig c) ∧
      ∀ e, Config.resolve env file = .error e →
        (e.isOfFile = true ↔ ¬file.IsSound) ∧ FirstFault env file e := by
  refine ⟨⟨?_, fun sound => ?_⟩, fun c resolved => (resolve_eq_ok_iff.mp resolved).2,
    fun c env' file' c' resolved resolved' k sameVariable sameEntry => ?_, fun e failed => ?_⟩
  · rintro ⟨c, resolved⟩
    obtain ⟨soundFile, takes⟩ := resolve_eq_ok_iff.mp resolved
    exact ⟨soundFile, fun k _ => (takes k).isSound⟩
  · cases outcome : Config.resolve env file with
    | ok c => exact ⟨c, rfl⟩
    | error e => exact absurd sound (firstFault_of_error outcome).not_sound
  · have takes := (resolve_eq_ok_iff.mp resolved).2 k
    exact takes.unique sameVariable sameEntry ((resolve_eq_ok_iff.mp resolved').2 k)
  · have fault := firstFault_of_error failed
    exact ⟨fault.isOfFile_iff, fault⟩

/-- A settings file with three entries. -/
def toolsFile : FileSettings :=
  { bootMode := some "bp-tools", gracePeriod := some "1m30s", workers := some 11 }

/-- With a variable for the grace period and one that is no text, the grace period is that of its
variable, the number of workers that of the file, and the rest is as it is by default. Where two
variables have no values, the error is about the one that is read first. -/
theorem precedence_over_toolsFile :
    (∀ k : Key, k.Takes
        ⟨[("TERMINATION_GRACE_PERIOD", Bytes.ofString "2h"), ("NETD_WORKER_THREADS", [255])]⟩
        toolsFile
        (k.ofConfig { bootMode := "bp-tools", gracePeriod := ⟨7200000000000⟩, workers := 11 })) ∧
      FirstFault
        ⟨[("NETD_WORKER_THREADS", Bytes.ofString "x"),
          ("TERMINATION_GRACE_PERIOD", Bytes.ofString "soon")]⟩
        toolsFile (.variable "TERMINATION_GRACE_PERIOD" "soon") :=
  ⟨(settings_by_precedence _ _).2.1 _ rfl, ((settings_by_precedence _ _).2.2.2 _ rfl).2⟩

end NetControl.Settings
