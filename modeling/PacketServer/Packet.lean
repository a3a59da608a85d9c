import PacketServer.Bytes

/-!
# Packets

A packet is what the application sends and receives: a command, flags, the
session it belongs to and a body. A *heartbeat* is a packet that stands for
"still there": on a stream it is one fixed byte, whatever its fields hold.
-/

namespace PacketServer

/-- A unit of application traffic. -/
structure Packet where
  /-- What the receiver shall do. -/
  cmd : UInt8 := 0
  /-- Bit flags; see `Packet.hasFlag`. -/
  flags : UInt8 := 0
  /-- The session that the packet belongs to. -/
  session : UInt32 := 0
  /-- The payload. -/
  body : Bytes := []
  /-- Whether the packet is a heartbeat. -/
  isHeartbeat : Bool := false
deriving DecidableEq, Inhabited

namespace Packet

/-- The length of a frame's header, check byte included. -/
def headerLength : Nat := 11

/-- The byte that a heartbeat is on a stream. -/
def heartbeatByte : UInt8 := 0xDF

/-- The longest body that a decoder takes unless it is told otherwise. -/
def defaultLimit : Nat := 10 * 1024 * 1024

/-- The plain heartbeat. -/
def heartbeat : Packet := { isHeartbeat := true }

/-- Whether the packet carries one of the bits of `flag`. -/
def hasFlag (p : Packet) (flag : UInt8) : Bool := p.flags &&& flag != 0

/-- How many bytes the packet takes on a stream. -/
def encodedLength (p : Packet) : Nat :=
  if p.isHeartbeat then 1 else headerLength + p.body.length

theorem encodedLength_pos (p : Packet) : 0 < p.encodedLength := by
  unfold encodedLength headerLength
  split <;> omega

end Packet

end PacketServer
