import NetControl.Tether.Forwarding

/-!
Why a tethering operation fails, and the error number that clients read.
-/

namespace NetControl.Tether

/-- The failure of a tethering operation. -/
inductive Error where
  /-- The text may not name an interface. -/
  | invalidName (name : String)
  /-- Addresses of ranges that do not come in pairs. -/
  | oddRanges (count : Nat)
  /-- A name server that is no literal address. -/
  | invalidServer (server : String)
  /-- The interface is tethered already. -/
  | alreadyTethered (name : String)
  /-- The daemon is running already. -/
  | alreadyRunning
  /-- The interface is not tethered. -/
  | notTethered (name : String)
  /-- The daemon could not be started. -/
  | launch (cause : OsError)
  /-- The daemon could not be ended. -/
  | terminate (cause : OsError)
  /-- An interface could not be configured. -/
  | configure (name : String) (cause : OsError)
  /-- The daemon could not be told. -/
  | update (cause : OsError)
  /-- A switch could not be written. -/
  | forwarding (cause : SwitchError)
deriving Repr, DecidableEq

namespace Error

/-- What is said about a name server that is no literal address. -/
def serverMessage (server : String) : String :=
  "failed to parse DNS server '" ++ server ++ "'"

/-- The error as one line. -/
def message : Error → String
  | invalidName name => "invalid interface name " ++ Text.quoted name
  | oddRanges count =>
    "invalid argument: DHCP ranges must come in pairs, got " ++ Text.decimal count ++ " addresses"
  | invalidServer server => "invalid argument: " ++ serverMessage server
  | alreadyTethered name => "interface " ++ name ++ " is already tethered"
  | alreadyRunning => "tethering already started"
  | notTethered name => "interface " ++ name ++ " is not tethered"
  | launch cause => "failed to start tethering daemon: " ++ cause.message
  | terminate cause => "failed to stop tethering daemon: " ++ cause.message
  | configure name cause => "failed to configure " ++ name ++ ": " ++ cause.message
  | update cause => "failed to send update to tethering daemon: " ++ cause.message
  | forwarding cause => cause.message

/-- The error number of a failed request to the system. -/
def causeNumber (cause : OsError) : Int :=
  match cause.number? with
  | some number => OsError.recognised number
  | none => eio

/-- The error number that clients read. -/
def number : Error → Int
  | invalidName _ => enoent
  | oddRanges _ => einval
  | invalidServer _ => einval
  | alreadyTethered _ => eexist
  | alreadyRunning => ebusy
  | notTethered _ => enoent
  | launch cause => causeNumber cause
  | terminate cause => causeNumber cause
  | configure _ cause => causeNumber cause
  | update _ => eremoteio
  | forwarding cause => causeNumber cause.cause

end Error

end NetControl.Tether
