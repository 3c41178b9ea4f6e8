import NetControl.OsError
import NetControl.Settings.Environment
import NetControl.Settings.File
import NetControl.Settings.Period
import NetControl.Text.Quoted

/-!
The configuration of the daemon. Each setting comes from its environment variable, else from the
settings file, else from its default. A variable or a file that cannot be used is an error, even
where another source would decide.
-/

namespace NetControl.Settings

/-- The configuration of the daemon. -/
structure Config where
  /-- The path of the socket for control requests. -/
  controlSocket : String := "/dev/socket/netd"
  /-- The path of the socket for lookups. -/
  lookupSocket : String := "/dev/socket/dnsproxyd"
  /-- The program that is launched when tethering starts. -/
  daemonPath : String := "/system/bin/dnsmasq"
  ipv4Switch : String := "/proc/sys/net/ipv4/ip_forward"
  ipv6Switch : String := "/proc/sys/net/ipv6/conf/all/forwarding"
  /-- The directory with the knobs of interfaces. -/
  knobRoot : String := "/proc/sys/net/ipv6/conf"
  bootMode : String := "unknown"
  /-- How many lookups may run at once. -/
  maxLookups : UInt64 := 64
  /-- How long a shutdown may wait for open connections. -/
  gracePeriod : Period := ⟨5000000000⟩
  /-- How many threads the daemon works with. -/
  workers : UInt64 := 2
deriving Repr, DecidableEq

/-! ## Errors -/

/-- Why there is no configuration. -/
inductive ConfigError where
  /-- A variable has a value that its setting cannot have. -/
  | variable (name value : String)
  /-- The settings file cannot be opened. -/
  | opening (path : String) (cause : OsError)
  /-- The settings file cannot be read, or does not hold settings. -/
  | parsing (path : String)
  /-- The grace period in the settings file is no period. -/
  | gracePeriod (text : String)
deriving Repr, DecidableEq

namespace ConfigError

def isOfFile : ConfigError → Bool
  | .variable _ _ => false
  | _ => true

/-- The error in words. -/
def message : ConfigError → String
  | .variable name value => "invalid env var " ++ name ++ "=" ++ value
  | .opening path cause =>
    "error parsing config file: failed opening " ++ path ++ ": " ++ cause.message
  | .parsing path => "error parsing config file: failed parsing " ++ path
  | .gracePeriod text =>
    "error parsing config file: invalid terminationGracePeriod " ++ Text.quoted text

end ConfigError

/-! ## Sources -/

def Environment.read {α : Type} (env : Environment) (name : String)
    (parse : String → Option α) : Except ConfigError (Option α) :=
  match env.get? name with
  | none => .ok none
  | some value =>
    match parse value with
    | some x => .ok (some x)
    | none => .error (.variable name value)

def FileSettings.period (file : FileSettings) : Except ConfigError (Option Period) :=
  match file.gracePeriod with
  | none => .ok none
  | some text =>
    match Period.parse? text with
    | some p => .ok (some p)
    | none => .error (.gracePeriod text)

namespace Config

/-- The value of a setting: the variable's, else the file's, else the default. -/
def choose {α : Type} (env : Environment) (name : String) (parse : String → Option α)
    (file : Option α) (default : α) : Except ConfigError α :=
  (env.read name parse).map fun value => (value.or file).getD default

/-- The configuration that an environment and a settings file give. -/
def resolve (env : Environment) (file : FileSettings) : Except ConfigError Config := do
  let d : Config := {}
  let filePeriod ← file.period
  let controlSocket ← choose env "NETD_SOCKET" some file.controlSocket d.controlSocket
  let lookupSocket ← choose env "DNSPROXYD_SOCKET" some file.lookupSocket d.lookupSocket
  let daemonPath ← choose env "TETHER_DAEMON_PATH" some file.daemonPath d.daemonPath
  let ipv4Switch ← choose env "IPV4_FORWARDING_PATH" some file.ipv4Switch d.ipv4Switch
  let ipv6Switch ← choose env "IPV6_FORWARDING_PATH" some file.ipv6Switch d.ipv6Switch
  let knobRoot ← choose env "IPV6_CONF_ROOT" some file.knobRoot d.knobRoot
  let bootMode ← choose env "BOOT_MODE" some file.bootMode d.bootMode
  let maxLookups ←
    choose env "DNSPROXY_MAX_CONCURRENT_QUERIES" Text.readUInt64? file.maxLookups d.maxLookups
  let gracePeriod ← choose env "TERMINATION_GRACE_PERIOD" Period.parse? filePeriod d.gracePeriod
  let workers ← choose env "NETD_WORKER_THREADS" Text.readUInt64? file.workers d.workers
  return { controlSocket, lookupSocket, daemonPath, ipv4Switch, ipv6Switch, knobRoot, bootMode,
           maxLookups, gracePeriod, workers }

/-- Reads the settings file that the environment names, if it names one. The files are given by what
opening one answers: an error, or its content, if that can be read. -/
def readFile (env : Environment) (files : String → Except OsError (Option Bytes)) :
    Except ConfigError FileSettings :=
  match env.get? "NETD_CONFIG" with
  | none => .ok {}
  | some path =>
    match files path with
    | .error cause => .error (.opening path cause)
    | .ok content =>
      match content.bind FileSettings.parse? with
      | some file => .ok file
      | none => .error (.parsing path)

/-- The configuration of a process. -/
def load (env : Environment) (files : String → Except OsError (Option Bytes)) :
    Except ConfigError Config := do
  resolve env (← readFile env files)

end Config

end NetControl.Settings
