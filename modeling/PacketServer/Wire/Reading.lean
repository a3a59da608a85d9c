import PacketServer.Wire.Basic

/-!
# Reading a packet by position

`decode` takes bytes apart by their shape. A decoder that works in place reads
them at positions instead: it looks at a byte by its index, cuts a front part
of a declared length off, and asks for room for bytes that are lacking. Each of
these is only possible within the buffer. `readPacket` spells the decoder out
in such steps and has no answer if one of them leaves the buffer or takes a
greater length from a smaller one. That none of them ever does, and that the
answers are those of `decode`, is proved in `PacketServer.Proofs.Wire.Undone`.
-/

namespace PacketServer.Wire

namespace Reading

/-- The first `n` bytes. -/
def front? (n : Nat) (s : Bytes) : Option Bytes := (Bytes.splitAt? n s).map (·.1)

/-- What is behind the first `n` bytes. -/
def behind? (n : Nat) (s : Bytes) : Option Bytes := (Bytes.splitAt? n s).map (·.2)

/-- The next byte, and what is behind it. -/
def byte? : Bytes → Option (UInt8 × Bytes)
  | b :: s => some (b, s)
  | [] => none

/-- The number in the next four bytes, and what is behind them. -/
def word? : Bytes → Option (Nat × Bytes)
  | a :: b :: c :: d :: s => some (Bytes.unword a b c d, s)
  | _ => none

/-- How much greater `a` is than `b`. -/
def excess? (a b : Nat) : Option Nat := if b ≤ a then some (a - b) else none

end Reading

open Reading

/-- The length that the first four bytes declare. -/
def readLength (src : Bytes) : Option Nat := do
  return Bytes.unword (← src[0]?) (← src[1]?) (← src[2]?) (← src[3]?)

/-- Takes the fields and the body of a frame, whose length is known, off `src`. -/
def readFrame (length : Nat) (src : Bytes) : Option (Packet × Bytes) := do
  let (header, rest) ← Bytes.splitAt? Packet.headerLength src
  let fields ← behind? 4 header
  let (cmd, fields) ← byte? fields
  let (flags, fields) ← byte? fields
  let (session, _) ← word? fields
  let (body, rest) ← Bytes.splitAt? length rest
  return ({ cmd := cmd, flags := flags, session := .ofNat session, body := body }, rest)

/-- Reads the packet at the front of `src`, which has a header and declares
`length` bytes of body. -/
def readDeclared (limit length : Nat) (src : Bytes) : Option (Attempt × Nat) :=
  if limit < length then some ((.error (.frameTooLarge length limit), src), 0)
  else do
    let expected := Bytes.xor (← front? (Packet.headerLength - 1) src)
    let check ← src[Packet.headerLength - 1]?
    if expected ≠ check then return ((.error (.checksum expected check), src), 0)
    else if src.length < Packet.headerLength + length then
      return ((.ok none, src), ← excess? (Packet.headerLength + length) src.length)
    else
      let (packet, rest) ← readFrame length src
      return ((.ok (some packet), rest), 0)

/-- Reads the packet at the front of `src`: the answer, the bytes left, and for
how many more bytes room is asked. -/
def readPacket (limit : Nat) (src : Bytes) : Option (Attempt × Nat) :=
  if src = [] then some ((.ok none, src), 0)
  else do
    if (← src[0]?) = Packet.heartbeatByte then
      return ((.ok (some .heartbeat), ← behind? 1 src), 0)
    else if src.length < Packet.headerLength then
      return ((.ok none, src), ← excess? Packet.headerLength src.length)
    else readDeclared limit (← readLength src) src

end PacketServer.Wire
