import PacketServer.Wire.Basic

/-!
# The language of whole streams

A stream is a sequence of *units*, each the form of one packet. The relation
is stated without the decoder: a unit is the heartbeat's byte, or eleven
bytes whose first four declare the body's length, whose first byte is not the
heartbeat's and whose last is the exclusive-or of the ten before it, and a
body of that length. `defect` names what is wrong with bytes that start with
no unit, likewise without the decoder.
-/

namespace PacketServer.Wire

/-- `Form limit s p` says that `s` is the form of the packet `p` on a stream
whose bodies have at most `limit` bytes. -/
inductive Form (limit : Nat) : Bytes → Packet → Prop
  | heartbeat : Form limit [0xDF] Packet.heartbeat
  | frame (l₃ l₂ l₁ l₀ cmd flags s₃ s₂ s₁ s₀ check : UInt8) (body : Bytes)
      (notHeartbeat : l₃ ≠ 0xDF)
      (length : Bytes.unword l₃ l₂ l₁ l₀ = body.length)
      (fits : body.length ≤ limit)
      (checked : check = l₃ ^^^ l₂ ^^^ l₁ ^^^ l₀ ^^^ cmd ^^^ flags ^^^ s₃ ^^^ s₂ ^^^ s₁ ^^^ s₀) :
      Form limit
        ([l₃, l₂, l₁, l₀, cmd, flags, s₃, s₂, s₁, s₀, check] ++ body)
        { cmd := cmd, flags := flags, session := .ofNat (Bytes.unword s₃ s₂ s₁ s₀),
          body := body }

/-- `Stream limit s ps` says that `s` is the forms of the packets `ps`, one
after the other. -/
inductive Stream (limit : Nat) : Bytes → List Packet → Prop
  | nil : Stream limit [] []
  | cons {s t : Bytes} {p : Packet} {ps : List Packet}
      (form : Form limit s p) (rest : Stream limit t ps) : Stream limit (s ++ t) (p :: ps)

/-- No unit starts a byte string. -/
def Stuck (limit : Nat) (s : Bytes) : Prop :=
  ∀ t u p, s = t ++ u → ¬ Form limit t p

/-- What is wrong with bytes that no unit starts if no more of them come: the
declared length, or else the check byte, or else that they are too few. -/
def defect (limit : Nat) (s : Bytes) : CodecError :=
  match s with
  | l₃ :: l₂ :: l₁ :: l₀ :: cmd :: flags :: s₃ :: s₂ :: s₁ :: s₀ :: check :: _ =>
    let length := Bytes.unword l₃ l₂ l₁ l₀
    let sum := l₃ ^^^ l₂ ^^^ l₁ ^^^ l₀ ^^^ cmd ^^^ flags ^^^ s₃ ^^^ s₂ ^^^ s₁ ^^^ s₀
    if limit < length then .frameTooLarge length limit
    else if sum ≠ check then .checksum sum check
    else .truncated s.length
  | _ => .truncated s.length

end PacketServer.Wire
