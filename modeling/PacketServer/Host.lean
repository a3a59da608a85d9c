import PacketServer.Fault
import PacketServer.Text.Record

/-!
# The host that servers run on

What a server meets of its host: the name of the operating system, the
listening sockets that are open on it, and whether a peer can reach it.

Every address of the fourth kind can be listened on, also one embedded in an
address of the sixth kind. Of the sixth kind it is only the address that
stands for all and those that the host has; addresses of groups are no
addresses to listen on, and an address of one link needs that link's zone. The
lowest ports are reserved for others, whatever the address.
Two sockets cannot listen on one port of overlapping addresses unless both
agreed to share it.
-/

namespace PacketServer

/-- A fault as the operating system numbers and words it. -/
structure OsError where
  kind : IoKind
  code : Nat
  text : String
deriving DecidableEq

namespace OsError

/-- There is no such zone. -/
def noSuchDevice : OsError := ⟨.uncategorized, 19, "No such device"⟩

/-- The address is none to listen on. -/
def invalidArgument : OsError := ⟨.invalidInput, 22, "Invalid argument"⟩

/-- The port is reserved for others. -/
def permissionDenied : OsError := ⟨.permissionDenied, 13, "Permission denied"⟩

/-- The address is being listened on. -/
def addressInUse : OsError := ⟨.addrInUse, 98, "Address already in use"⟩

/-- The host has no such address. -/
def addressNotAvailable : OsError :=
  ⟨.addrNotAvailable, 99, "Cannot assign requested address"⟩

/-- No route leads to the address. -/
def networkUnreachable : OsError := ⟨.networkUnreachable, 101, "Network is unreachable"⟩

/-- Nobody listens on the address. -/
def connectionRefused : OsError := ⟨.connectionRefused, 111, "Connection refused"⟩

/-- The fault without its number. -/
def io (e : OsError) : IoError :=
  ⟨e.kind, e.text ++ " (os error " ++ toString e.code ++ ")"⟩

/-- The fault in a log. -/
def logText (e : OsError) : String :=
  Text.record "Os"
    [("code", toString e.code), ("kind", e.kind.name), ("message", Text.quoted e.text)]

end OsError

/-- A listening socket. -/
structure Listening where
  address : Address
  /-- Whether the port may be shared with sockets that allow it too. -/
  shared : Bool
deriving DecidableEq

/-- A host. -/
structure Host where
  osName : Option String := some "linux x86_64"
  /-- The addresses of the sixth kind that the host has. -/
  addresses6 : List Ip := []
  /-- The zones of the host's links. -/
  zones : List UInt32 := [1]
  /-- Ports below this number are reserved, apart from zero. -/
  firstFreePort : UInt16 := 1024
  /-- Whether peers can reach the host. -/
  routed : Bool := false
  listening : List Listening := []
  /-- How many ports the host has chosen. -/
  assigned : Nat := 0

namespace Ip

/-- Whether a connection to `b` can be one to `a`. -/
def covers (a b : Ip) : Bool :=
  let a := a.unembedded
  let b := b.unembedded
  a == b || (a.isUnspecified && (b.isV4 || !a.isV4))

/-- Whether a connection can be one to both addresses. -/
def overlaps (a b : Ip) : Bool := a.covers b || b.covers a

end Ip

namespace Host

/-- The port that somebody else holds on a host with such a port. -/
def heldPort : Port := .assigned 0

/-- A host that no peer can reach and that has no address of the sixth kind. -/
def isolated : Host := {}

/-- A host whose processes can reach each other. -/
def looped : Host :=
  { addresses6 := [.loopback6], routed := true }

/-- The host with `heldPort` held by somebody who does not share it. -/
def occupied (h : Host) : Host :=
  { h with
    listening := ⟨.ofIp .loopback4 heldPort, false⟩ :: h.listening
    assigned := h.assigned + 1 }

/-- Whether a port is reserved. -/
def reserves (h : Host) : Port → Bool
  | .number n => n != 0 && n < h.firstFreePort
  | .assigned _ => false

/-- Why an address is none of the host's to listen on, if it is none. -/
def refusal? (h : Host) (address : Address) : Option OsError :=
  let ip := address.ip
  if ip.isMulticast6 then some .invalidArgument
  else if h.reserves address.port then some .permissionDenied
  else if ip.unembedded.isV4 || ip.isUnspecified then none
  else if ip.isLinkLocal6 && address.zone == 0 then some .invalidArgument
  else if ip.isLinkLocal6 && !h.zones.contains address.zone then some .noSuchDevice
  else if h.addresses6.contains ip then none
  else some .addressNotAvailable

/-- Whether somebody listens on an address and does not share its port. -/
def isTaken (h : Host) (address : Address) (shared : Bool) : Bool :=
  h.listening.any fun other =>
    other.address.port == address.port && other.address.ip.overlaps address.ip &&
      !(other.shared && shared)

/-- Opens a listening socket: the address it listens on, with the port that
the host chose if it was left to the host. -/
def listen (h : Host) (address : Address) (shared : Bool) : Except OsError Address × Host :=
  match h.refusal? address with
  | some e => (.error e, h)
  | none =>
    if address.port.isEphemeral then
      let bound := .ofIp address.ip (.assigned h.assigned)
      (.ok bound,
        { h with assigned := h.assigned + 1, listening := ⟨bound, shared⟩ :: h.listening })
    else if h.isTaken address shared then (.error .addressInUse, h)
    else
      let bound := .ofIp address.ip address.port
      (.ok bound, { h with listening := ⟨bound, shared⟩ :: h.listening })

/-- Closes a listening socket. -/
def close (h : Host) (address : Address) : Host :=
  { h with listening := h.listening.eraseP fun other => other.address == address }

/-- Connects to an address from this host: the address that the connection
comes from. Without a route there is no way to an address of the fourth kind,
and no address to come from to one of the sixth kind. -/
def connect (h : Host) (address : Address) : Except OsError Address × Host :=
  if !h.routed then
    (.error (if address.ip.unembedded.isV4 then .networkUnreachable else .addressNotAvailable), h)
  else if h.listening.any fun other =>
      other.address.port == address.port && other.address.ip.overlaps address.ip then
    (.ok (.ofIp address.ip.loopback (.assigned h.assigned)), { h with assigned := h.assigned + 1 })
  else (.error .connectionRefused, h)

end Host

end PacketServer
