import PacketServer.Packet
import PacketServer.Fault

/-!
# Packets on a stream

A heartbeat is the byte `0xDF`. Every other packet is a *frame*: a header of
eleven bytes and the body. The header holds the body's length (four bytes,
most significant first), the command, the flags, the session (four bytes) and
a check byte, the exclusive-or of the ten bytes before it.

A decoder takes one packet off the front of what has arrived. It refuses a
frame by its length before it looks at the check byte, and it takes nothing
unless it takes a whole packet.

## Main results

* `put_eq` — a packet is put behind whatever there is, and its bytes do not
  depend on that.
* `decode_rest_of_packet` — taking a packet takes at least one byte.
* `decode_unchanged` — otherwise nothing is taken.
* `decode_of_lacks` — how many bytes must at least arrive before there is
  something to take can be read off those that are there.
-/

namespace PacketServer.Wire

/-- What a header says of its frame. -/
structure Header where
  /-- The length of the body. -/
  length : Nat
  cmd : UInt8
  flags : UInt8
  session : UInt32
deriving DecidableEq

namespace Header

/-- The ten bytes that the check byte covers. -/
def fields (h : Header) : Bytes :=
  Bytes.word h.length ++ [h.cmd, h.flags] ++ Bytes.word h.session.toNat

/-- The header on the stream. -/
def encode (h : Header) : Bytes := h.fields ++ [Bytes.xor h.fields]

/-- The header of a packet's frame. -/
def ofPacket (p : Packet) : Header :=
  { length := p.body.length, cmd := p.cmd, flags := p.flags, session := p.session }

/-- The packet of a frame with this header. -/
def packet (h : Header) (body : Bytes) : Packet :=
  { cmd := h.cmd, flags := h.flags, session := h.session, body := body }

/-- The header at the front of a byte string, its check byte, and the bytes
behind it. -/
def read? : Bytes → Option (Header × UInt8 × Bytes)
  | l₃ :: l₂ :: l₁ :: l₀ :: cmd :: flags :: s₃ :: s₂ :: s₁ :: s₀ :: check :: rest =>
    some ({ length := Bytes.unword l₃ l₂ l₁ l₀, cmd := cmd, flags := flags,
            session := .ofNat (Bytes.unword s₃ s₂ s₁ s₀) }, check, rest)
  | _ => none

end Header

/-- Puts a packet behind `dst`: the fields of its header one after the other, a
check byte over what was put since `start`, and the body. A packet that has no
bytes leaves `dst` as it is. -/
def put (dst : Array UInt8) (p : Packet) : Except CodecError Unit × Array UInt8 :=
  if p.isHeartbeat then (.ok (), dst.push Packet.heartbeatByte)
  else if Bytes.wordBound ≤ p.body.length then
    (.error (.frameTooLarge p.body.length (Bytes.wordBound - 1)), dst)
  else
    let start := dst.size
    let dst := dst ++ Bytes.word p.body.length
    let dst := dst.push p.cmd
    let dst := dst.push p.flags
    let dst := dst ++ Bytes.word p.session.toNat
    let dst := dst.push (Bytes.xor (dst.extract start).toList)
    (.ok (), dst ++ p.body)

/-- The bytes of a packet on the stream: what is put where nothing was. -/
def encode (p : Packet) : Except CodecError Bytes :=
  match put #[] p with
  | (.ok (), dst) => .ok dst.toList
  | (.error e, _) => .error e

/-- Puts packets behind `dst` one after the other. -/
def putAll : Array UInt8 → List Packet → List (Except CodecError Unit) × Array UInt8
  | dst, [] => ([], dst)
  | dst, p :: ps =>
    let (result, dst) := put dst p
    let (results, dst) := putAll dst ps
    (result :: results, dst)

/-- What stands behind `start` is what was put since. -/
theorem extract_append (dst : Array UInt8) (s : Bytes) :
    ((dst ++ s).extract dst.size).toList = s := by
  have size : (dst ++ s).size = dst.size + s.length := by
    simp [← Array.length_toList]
  simp [size]

/-- Whatever `dst` holds, a header and a body are put behind it, and the check
byte is that of the header alone. -/
theorem put_eq_append (dst : Array UInt8) (p : Packet) :
    put dst p =
      if p.isHeartbeat then (.ok (), dst ++ [Packet.heartbeatByte])
      else if Bytes.wordBound ≤ p.body.length then
        (.error (.frameTooLarge p.body.length (Bytes.wordBound - 1)), dst)
      else (.ok (), dst ++ ((Header.ofPacket p).encode ++ p.body)) := by
  have fields : (((dst ++ Bytes.word p.body.length).push p.cmd).push p.flags) ++
      Bytes.word p.session.toNat = dst ++ (Header.ofPacket p).fields := by
    apply Array.ext'
    simp [Header.fields, Header.ofPacket]
  unfold put
  split
  · simp
  · split
    · rfl
    · dsimp only
      rw [fields, extract_append]
      apply congrArg (Prod.mk _)
      apply Array.ext'
      simp [Header.encode]

/-- The bytes of a packet are its header and its body. -/
theorem encode_eq (p : Packet) :
    encode p =
      if p.isHeartbeat then .ok [Packet.heartbeatByte]
      else if Bytes.wordBound ≤ p.body.length then
        .error (.frameTooLarge p.body.length (Bytes.wordBound - 1))
      else .ok ((Header.ofPacket p).encode ++ p.body) := by
  rw [encode, put_eq_append]
  cases p.isHeartbeat with
  | true => rfl
  | false =>
    by_cases long : Bytes.wordBound ≤ p.body.length
    · simp [long]
    · simp [long]

/-- **Putting a packet behind others puts its bytes there**, whatever there was. -/
theorem put_eq (dst : Array UInt8) (p : Packet) :
    put dst p = match encode p with
      | .ok s => (.ok (), dst ++ s)
      | .error e => (.error e, dst) := by
  rw [put_eq_append, encode_eq]
  split
  · rfl
  · split <;> rfl

/-- What a decoder answers, and the bytes that it leaves: a packet, nothing
yet, or a fault. -/
abbrev Attempt := Except CodecError (Option Packet) × Bytes

/-- Takes the packet at the front of `src`, bodies longer than `limit` being
refused. -/
def decode (limit : Nat) (src : Bytes) : Attempt :=
  match src with
  | [] => (.ok none, src)
  | first :: behind =>
    if first = Packet.heartbeatByte then (.ok (some Packet.heartbeat), behind)
    else
      match Header.read? src with
      | none => (.ok none, src)
      | some (header, check, rest) =>
        let expected := Bytes.xor header.fields
        if limit < header.length then
          (.error (.frameTooLarge header.length limit), src)
        else if expected ≠ check then (.error (.checksum expected check), src)
        else
          match Bytes.splitAt? header.length rest with
          | none => (.ok none, src)
          | some (body, rest) => (.ok (some (header.packet body)), rest)

/-- What is left when the stream has ended is at fault if it is no packet. -/
def atEnd (attempt : Attempt) : Attempt :=
  match attempt with
  | (.ok none, b :: src) => (.error (.truncated (src.length + 1)), b :: src)
  | other => other

/-- Takes the packet at the front of `src`, to which nothing will be added. -/
def decodeEnd (limit : Nat) (src : Bytes) : Attempt := atEnd (decode limit src)

theorem Header.read?_length {src : Bytes} {h : Header} {check : UInt8} {rest : Bytes}
    (e : read? src = some (h, check, rest)) : src.length = Packet.headerLength + rest.length := by
  unfold read? at e
  split at e
  · simp only [Option.some.injEq, Prod.mk.injEq] at e
    obtain ⟨-, -, rfl⟩ := e
    simp only [List.length_cons, Packet.headerLength]
    omega
  · simp at e

/-- A packet takes at least one byte. -/
theorem decode_rest_of_packet {limit : Nat} {src rest : Bytes} {p : Packet}
    (h : decode limit src = (.ok (some p), rest)) : rest.length < src.length := by
  unfold decode at h
  split at h
  · simp at h
  · rename_i first behind
    split at h
    · simp only [Prod.mk.injEq] at h
      simp [← h.2]
    · split at h
      · simp at h
      · rename_i header check tail hread
        have hlen := Header.read?_length hread
        simp only [] at h
        split at h
        · simp at h
        · split at h
          · simp at h
          · split at h
            · simp at h
            · rename_i body rest' hsplit
              simp only [Prod.mk.injEq] at h
              obtain ⟨-, rfl⟩ := h
              have hs := (Bytes.splitAt?_eq_some.mp hsplit).2
              have : tail.length = body.length + rest'.length := by simp [hs]
              simp only [Packet.headerLength] at hlen
              omega

/-- Nothing is taken unless a packet is. -/
theorem decode_unchanged {limit : Nat} {src : Bytes}
    (h : ∀ p, (decode limit src).1 ≠ .ok (some p)) : (decode limit src).2 = src := by
  unfold decode at h ⊢
  split
  · rfl
  · split
    · rename_i hb; simp [hb] at h
    · rename_i hb
      split
      · rfl
      · rename_i hread
        simp only []
        split
        · rfl
        · split
          · rfl
          · split
            · rfl
            · rename_i hl hc _ _ _ hsplit
              simp [hb, hread, hl, hc, hsplit] at h

/-- A number of bytes: unless so many arrive behind `src` there is nothing to
take. -/
def lacks (limit : Nat) (src : Bytes) : Nat :=
  match src with
  | [] => 1
  | first :: _ =>
    if first = Packet.heartbeatByte then 0
    else
      match Header.read? src with
      | none => Packet.headerLength - src.length
      | some (header, check, rest) =>
        if limit < header.length ∨ Bytes.xor header.fields ≠ check then 0
        else header.length - rest.length

theorem Header.read?_of_short {src : Bytes} (h : src.length < Packet.headerLength) :
    read? src = none := by
  cases e : read? src with
  | none => rfl
  | some found =>
    obtain ⟨header, check, rest⟩ := found
    have := read?_length e
    omega

theorem Header.read?_append {src more : Bytes} {h : Header} {check : UInt8} {rest : Bytes}
    (e : read? src = some (h, check, rest)) :
    read? (src ++ more) = some (h, check, rest ++ more) := by
  unfold read? at e
  split at e
  · simp only [Option.some.injEq, Prod.mk.injEq] at e
    obtain ⟨rfl, rfl, rfl⟩ := e
    rfl
  · simp at e

/-- As long as bytes are lacking there is nothing to take. -/
theorem decode_of_lacks {limit : Nat} {src more : Bytes}
    (h : more.length < lacks limit src) :
    decode limit (src ++ more) = (.ok none, src ++ more) := by
  unfold lacks at h
  split at h
  · have : more = [] := List.length_eq_zero_iff.mp (by omega)
    simp [this, decode]
  · rename_i first tail
    split at h
    · omega
    · rename_i hb
      split at h
      · rename_i hread
        have hnone : Header.read? (first :: tail ++ more) = none := by
          apply Header.read?_of_short
          rw [List.length_append]
          omega
        simp only [List.cons_append] at hnone ⊢
        simp [decode, hb, hnone]
      · rename_i header check rest hread
        have happ : Header.read? (first :: tail ++ more) = some (header, check, rest ++ more) :=
          Header.read?_append hread
        split at h
        · omega
        · rename_i hok
          have hsplit : Bytes.splitAt? header.length (rest ++ more) = none := by
            rw [Bytes.splitAt?_eq_none, List.length_append]
            omega
          simp only [List.cons_append] at happ ⊢
          have hlimit : ¬ limit < header.length := fun hl => hok (.inl hl)
          have hcheck : ¬ Bytes.xor header.fields ≠ check := fun hc => hok (.inr hc)
          simp only [decode, hb, happ, hlimit, hcheck, hsplit, if_false]

theorem decodeEnd_rest_of_packet {limit : Nat} {src rest : Bytes} {p : Packet}
    (h : decodeEnd limit src = (.ok (some p), rest)) : rest.length < src.length := by
  unfold decodeEnd atEnd at h
  split at h
  · simp at h
  · exact decode_rest_of_packet h

end PacketServer.Wire
