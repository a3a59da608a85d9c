import PacketServer.Text.Quoted

/-!
# Network addresses

Addresses of the fourth and sixth kind, ports, and their pair, the address of
a socket, with their texts.

An address of the sixth kind is written in groups of hexadecimal digits; the
first of the longest runs of at least two zero groups is written as two
colons, and an embedded address of the fourth kind (`::ffff:0:0/96`) in
decimals. In the address of a socket it may name the *zone* that it is meant
in, such as one of the host's links.

A port may be one that the host chose, or that somebody else on the host
holds. Its number is the host's affair: texts name it `<port>`.
-/

namespace PacketServer

/-- A network address. -/
inductive Ip
  | v4 (a b c d : UInt8)
  | v6 (groups : Vector UInt16 8)
deriving DecidableEq

namespace Ip

/-- The four numbers of an address of the fourth kind. -/
def dotted (a b c d : Nat) : String :=
  ".".intercalate [toString a, toString b, toString c, toString d]

/-- Groups in hexadecimal between colons. -/
def colons (groups : List UInt16) : String :=
  ":".intercalate (groups.map fun g => Text.hexadecimal g.toNat)

/-- How many zero groups the list starts with. -/
def leadingZeros (groups : List UInt16) : Nat := (groups.takeWhile (· == 0)).length

/-- The first of the longest runs of zero groups: where it starts, counted
from `i` on, and its length. -/
def longestZeros : Nat → List UInt16 → Nat × Nat
  | i, [] => (i, 0)
  | i, g :: rest =>
    let here := leadingZeros (g :: rest)
    let later := longestZeros (i + 1) rest
    if here ≥ later.2 then (i, here) else later

/-- The text of groups, the first of the longest runs of at least two zero
groups left out. -/
def groupsText (groups : List UInt16) : String :=
  let (start, length) := longestZeros 0 groups
  if length > 1 then
    colons (groups.take start) ++ "::" ++ colons (groups.drop (start + length))
  else colons groups

/-- The address of the fourth kind that is embedded in one of the sixth kind;
any other address as it is. -/
def unembedded (ip : Ip) : Ip :=
  match ip with
  | v4 .. => ip
  | v6 groups =>
    match groups.toList with
    | [0, 0, 0, 0, 0, 0xFFFF, high, low] =>
      v4 (.ofNat (high.toNat / 256)) (.ofNat (high.toNat % 256)) (.ofNat (low.toNat / 256))
        (.ofNat (low.toNat % 256))
    | _ => ip

/-- The text of an address. -/
def text (ip : Ip) : String :=
  match ip, ip.unembedded with
  | v4 a b c d, _ => dotted a.toNat b.toNat c.toNat d.toNat
  | v6 _, v4 a b c d => "::ffff:" ++ dotted a.toNat b.toNat c.toNat d.toNat
  | v6 groups, _ => groupsText groups.toList

/-- Every local address of the fourth kind. -/
def any4 : Ip := v4 0 0 0 0

/-- This host, as an address of the fourth kind. -/
def loopback4 : Ip := v4 127 0 0 1

/-- This host, as an address of the sixth kind. -/
def loopback6 : Ip := v6 #v[0, 0, 0, 0, 0, 0, 0, 1]

/-- This host, as an address of the same kind. -/
def loopback : Ip → Ip
  | v4 .. => loopback4
  | v6 _ => loopback6

/-- Whether the address stands for every local one of its kind; one of the
sixth kind stands for those of the fourth kind too. -/
def isUnspecified : Ip → Bool
  | v4 a b c d => a == 0 && b == 0 && c == 0 && d == 0
  | v6 groups => groups.toList.all (· == 0)

/-- Whether the address is one of the fourth kind. -/
def isV4 : Ip → Bool
  | v4 .. => true
  | v6 _ => false

/-- The first group of an address of the sixth kind. -/
def firstGroup : Ip → Nat
  | v4 .. => 0
  | v6 groups => (groups.toList.headD 0).toNat

/-- Whether the address is that of a group of hosts, of the sixth kind. -/
def isMulticast6 (ip : Ip) : Bool := ip.firstGroup / 256 == 0xFF

/-- Whether the address is that of one host on one link, of the sixth kind. -/
def isLinkLocal6 (ip : Ip) : Bool := ip.firstGroup / 64 == 0xFE80 / 64

/-- Whether the address has a meaning on one link only, of the sixth kind. -/
def isOfOneLink6 (ip : Ip) : Bool :=
  ip.isLinkLocal6 ||
    (ip.isMulticast6 && (ip.firstGroup % 16 == 1 || ip.firstGroup % 16 == 2))

end Ip

/-- A port. -/
inductive Port
  /-- A port known by its number; zero asks the host to choose one. -/
  | number (n : UInt16)
  /-- A port that the host chose, or that somebody else holds; hosts tell
  them apart by `serial`. -/
  | assigned (serial : Nat)
deriving DecidableEq

namespace Port

/-- The text of a port. -/
def text : Port → String
  | number n => toString n.toNat
  | assigned _ => "<port>"

/-- Whether the port is left to the host. -/
def isEphemeral : Port → Bool
  | number n => n == 0
  | assigned _ => false

end Port

/-- The address of a socket. -/
structure Address where
  ip : Ip
  port : Port
  /-- The zone of an address of the sixth kind; zero if none is named. -/
  zone : UInt32 := 0
deriving DecidableEq

namespace Address

/-- The address of a socket in no particular zone. -/
def ofIp (ip : Ip) (port : Port) : Address := { ip := ip, port := port }

/-- The text of a zone, if one is named. -/
def zoneText (zone : UInt32) : String :=
  if zone == 0 then "" else "%" ++ toString zone.toNat

/-- The text of a socket's address. -/
def text (a : Address) : String :=
  match a.ip with
  | .v4 .. => a.ip.text ++ ":" ++ a.port.text
  | .v6 .. => "[" ++ a.ip.text ++ zoneText a.zone ++ "]:" ++ a.port.text

end Address

end PacketServer
