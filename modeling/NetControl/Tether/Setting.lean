/-!
Interfaces and their IPv6 settings. A setting is one value written to one knob of one interface;
the knobs' files hold digits. Router mode and client mode are fixed lists of settings.
-/

namespace NetControl.Tether

/-- Letters and digits of ASCII. -/
def isAlphanumeric (c : Char) : Bool :=
  ('a' ≤ c && c ≤ 'z') || ('A' ≤ c && c ≤ 'Z') || ('0' ≤ c && c ≤ '9')

def interfaceNameSize : Nat := 16

/-- Whether these characters may name an interface: a letter or digit, then letters, digits and
`_`, `-`, `:`, sixteen at most. All of them are ASCII, so bytes and characters count alike. -/
def isInterfaceChars : List Char → Bool
  | [] => false
  | first :: rest =>
    isAlphanumeric first && rest.length < interfaceNameSize
      && rest.all fun c => isAlphanumeric c || c = '_' || c = '-' || c = ':'

def isInterfaceName (name : String) : Bool :=
  isInterfaceChars name.toList

/-- The four knobs of an interface. -/
inductive Knob where
  /-- Turns IPv6 off. -/
  | disableIpv6
  /-- Accepts router advertisements. -/
  | acceptRa
  /-- Detects duplicate addresses. -/
  | acceptDad
  /-- The number of probes for duplicate addresses. -/
  | dadTransmits
deriving Repr, DecidableEq

namespace Knob

def all : List Knob := [disableIpv6, acceptRa, acceptDad, dadTransmits]

def fileName : Knob → String
  | disableIpv6 => "disable_ipv6"
  | acceptRa => "accept_ra"
  | acceptDad => "accept_dad"
  | dadTransmits => "dad_transmits"

end Knob

/-- A value for one knob. -/
inductive Setting where
  /-- Turns IPv6 on or off. -/
  | enableIpv6 (on : Bool)
  /-- Accepts router advertisements or ignores them. -/
  | acceptRa (on : Bool)
  /-- Detects duplicate addresses or does not. -/
  | acceptDad (on : Bool)
  /-- Sets the number of probes for duplicate addresses. -/
  | dadTransmits (value : String)
deriving Repr, DecidableEq

namespace Setting

def knob : Setting → Knob
  | enableIpv6 _ => .disableIpv6
  | acceptRa _ => .acceptRa
  | acceptDad _ => .acceptDad
  | dadTransmits _ => .dadTransmits

/-- A digit for on or off. -/
def flag (on : Bool) : String :=
  if on then "1" else "0"

/-- The text written to the knob's file. The knob for IPv6 turns it off, so its digit is the
opposite of the setting. -/
def text : Setting → String
  | enableIpv6 on => flag (!on)
  | acceptRa on => flag on
  | acceptDad on => flag on
  | dadTransmits value => value

/-- Router mode: IPv6 goes off and on again, with advertisements and the detection of duplicates
turned off in between. -/
def router : List Setting :=
  [enableIpv6 false, acceptRa false, acceptDad false, dadTransmits "0", enableIpv6 true]

/-- Client mode, with the name of each step. -/
def client : List (String × Setting) :=
  [("accept_ra", acceptRa true), ("accept_dad", acceptDad true),
    ("dad_transmits", dadTransmits "1"), ("disable_ipv6", enableIpv6 false)]

end Setting

end NetControl.Tether
