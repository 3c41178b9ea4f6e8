/-!
The arguments of the forwarding daemon: fixed flags, then one range of addresses for each pair of
a lowest and a highest address.
-/

namespace NetControl.Tether

/-- The flags that the daemon always runs with. -/
def fixedArguments : List String :=
  ["--keep-in-foreground", "--no-resolv", "--no-poll", "--dhcp-authoritative",
    "--dhcp-option-force=43,ANDROID_METERED", "--pid-file", ""]

/-- One argument for each pair of addresses; an address left over gives none. -/
def rangeArguments : List String → List String
  | low :: high :: rest => ("--dhcp-range=" ++ low ++ "," ++ high ++ ",1h") :: rangeArguments rest
  | _ => []

/-- The arguments that serve the given ranges. -/
def daemonArguments (ranges : List String) : List String :=
  fixedArguments ++ rangeArguments ranges

end NetControl.Tether
