import PacketServer.Config.Basic
import PacketServer.Proofs.Wire.Outcome

/-!
# Packets written and read back

Packets that are written one after the other are read back one after the
other, whatever was written before them and whatever follows. There is one
exception, and it is exact: the first byte of a frame is the greatest byte of
its body's length, and a decoder takes a frame that starts with `0xDF` for a
heartbeat.

So all frames whose bodies are within a limit are read back exactly if the
limit is below `0xDF000000`, and these are the limits that settings may have.

## Main results

* `put_onStream` — encoding a packet puts its bytes behind what is there.
* `decode_onStream` — a packet's bytes are read back in front of any others.
* `decode_onStream_mistaken` — unless they are taken for a heartbeat.
* `stream_read_back_exactly` — the round trip of whole streams, and where it
  ends.
-/

namespace PacketServer

/-- The bytes that a packet is on a stream, as far as it has such bytes. -/
def Packet.onStream (p : Packet) : Bytes :=
  if p.isHeartbeat then [Packet.heartbeatByte] else (Wire.Header.ofPacket p).encode ++ p.body

/-- The packet that a receiver sees: of a heartbeat it sees no fields. -/
def Packet.received (p : Packet) : Packet := if p.isHeartbeat then .heartbeat else p

/-- The packet's body can be declared in four bytes and is within a limit. -/
def Packet.Fits (limit : Nat) (p : Packet) : Prop :=
  p.body.length ≤ limit ∧ p.body.length < Bytes.wordBound

/-- The packet is a frame whose first byte is that of a heartbeat. -/
def Packet.Mistaken (p : Packet) : Prop :=
  p.isHeartbeat = false ∧ p.body.length / 0x1000000 = 0xDF

instance (limit : Nat) (p : Packet) : Decidable (p.Fits limit) := by
  unfold Packet.Fits
  infer_instance

instance (p : Packet) : Decidable p.Mistaken := by
  unfold Packet.Mistaken
  infer_instance

namespace Wire

/-! ## Writing -/

theorem Header.length_encode (h : Header) : h.encode.length = Packet.headerLength := rfl

theorem length_onStream (p : Packet) : p.onStream.length = p.encodedLength := by
  unfold Packet.onStream Packet.encodedLength
  cases p.isHeartbeat with
  | true => rfl
  | false =>
    simp only [Bool.false_eq_true, if_false]
    rw [List.length_append, Header.length_encode]

/-- A packet whose length fits in four bytes is encoded. -/
theorem encode_onStream {p : Packet} (h : p.body.length < Bytes.wordBound) :
    encode p = .ok p.onStream := by
  rw [encode_eq]
  unfold Packet.onStream
  cases p.isHeartbeat with
  | true => rfl
  | false =>
    simp only [Bool.false_eq_true, if_false]
    rw [if_neg (Nat.not_le.mpr h)]

/-- What a packet is encoded as is what it is on a stream. -/
theorem onStream_of_encode {p : Packet} {bytes : Bytes} (h : encode p = .ok bytes) :
    p.onStream = bytes := by
  by_cases hword : p.body.length < Bytes.wordBound
  · rw [encode_onStream hword] at h
    exact Except.ok.inj h
  · have hbeat : p.isHeartbeat = true := by
      cases hb : p.isHeartbeat with
      | true => rfl
      | false =>
        rw [encode_eq, hb, if_neg Bool.false_ne_true, if_pos (Nat.le_of_not_lt hword)] at h
        simp at h
    rw [encode_eq, if_pos hbeat] at h
    rw [Packet.onStream, if_pos hbeat]
    exact Except.ok.inj h

/-- Encoding a packet puts its bytes behind what is there. -/
theorem put_onStream {p : Packet} (h : p.body.length < Bytes.wordBound) (dst : Array UInt8) :
    put dst p = (.ok (), dst ++ p.onStream) := by
  rw [put_eq, encode_onStream h]

theorem putAll_onStream {ps : List Packet} (h : ∀ p ∈ ps, p.body.length < Bytes.wordBound)
    (dst : Array UInt8) :
    putAll dst ps = (ps.map fun _ => .ok (), dst ++ ps.flatMap Packet.onStream) := by
  induction ps generalizing dst with
  | nil => simp [putAll]
  | cons p ps ih =>
    have hp := h p (by simp)
    have hps : ∀ q ∈ ps, q.body.length < Bytes.wordBound := fun q hq => h q (by simp [hq])
    have happend : dst ++ p.onStream ++ ps.flatMap Packet.onStream =
        dst ++ (p.onStream ++ ps.flatMap Packet.onStream) := by
      apply Array.ext'
      simp only [Array.toList_appendList, List.append_assoc]
    simp only [putAll, put_onStream hp, ih hps, List.map_cons, List.flatMap_cons, happend]

/-! ## Reading -/

/-- A header is read back from the bytes it was written as. -/
theorem Header.read?_encode {h : Header} (fits : h.length < Bytes.wordBound) (rest : Bytes) :
    Header.read? (h.encode ++ rest) = some (h, Bytes.xor h.fields, rest) := by
  have hlength := Bytes.unword_word h.length fits
  have hsession := Bytes.unword_word h.session.toNat h.session.toNat_lt
  show some (({ length := _, cmd := h.cmd, flags := h.flags, session := _ } : Header),
    Bytes.xor h.fields, rest) = _
  rw [hlength, hsession, UInt32.ofNat_toNat]

/-- A frame starts with the greatest byte of its body's length. -/
theorem plain_encode {h : Header} (fits : h.length < Bytes.wordBound) (rest : Bytes) :
    Plain (h.encode ++ rest) ↔ h.length / 0x1000000 ≠ 0xDF := by
  have hfirst : (h.encode ++ rest).head? = some (.ofNat (h.length / 0x1000000)) := rfl
  have hbyte : UInt8.ofNat (h.length / 0x1000000) = Packet.heartbeatByte ↔
      h.length / 0x1000000 = 0xDF := by
    rw [← UInt8.toNat_inj, UInt8.toNat_ofNat']
    unfold Packet.heartbeatByte
    unfold Bytes.wordBound at fits
    have hsmall : h.length / 0x1000000 < 2 ^ 8 := by omega
    rw [Nat.mod_eq_of_lt hsmall]
    exact Iff.rfl
  rw [Plain, hfirst, ne_eq, Option.some.injEq, hbyte]

/-- A packet's bytes are read back, whatever follows. -/
theorem decode_onStream {limit : Nat} {p : Packet} (fits : p.Fits limit)
    (clear : ¬ p.Mistaken) (tail : Bytes) :
    decode limit (p.onStream ++ tail) = (.ok (some p.received), tail) := by
  obtain ⟨hlimit, hword⟩ := fits
  unfold Packet.onStream Packet.received
  cases hbeat : p.isHeartbeat with
  | true => exact decode_heartbeat limit tail
  | false =>
    have hplain : Plain ((Header.ofPacket p).encode ++ (p.body ++ tail)) :=
      (plain_encode hword _).mpr fun hfirst => clear ⟨hbeat, hfirst⟩
    simp only [Bool.false_eq_true, if_false, List.append_assoc]
    have hpacket : (Header.ofPacket p).packet p.body = p := by
      cases p
      simp_all [Header.ofPacket, Header.packet]
    have hframe := Outcome.frame hplain (Header.read?_encode hword _) hlimit rfl rfl
    rw [hpacket] at hframe
    exact hframe.eq

/-- A frame that starts with the heartbeat's byte is taken for a heartbeat. -/
theorem decode_onStream_mistaken (limit : Nat) {p : Packet} (h : p.Mistaken) (tail : Bytes) :
    (decode limit (p.onStream ++ tail)).1 = .ok (some .heartbeat) := by
  obtain ⟨hbeat, hfirst⟩ := h
  have hbyte : (Header.ofPacket p).encode =
      Packet.heartbeatByte :: (Header.ofPacket p).encode.tail := by
    have hhead : UInt8.ofNat (p.body.length / 0x1000000) = Packet.heartbeatByte := by
      rw [hfirst]; rfl
    rw [← hhead]; rfl
  unfold Packet.onStream
  rw [hbeat]
  simp only [Bool.false_eq_true, if_false]
  rw [hbyte, List.append_assoc, List.cons_append, decode_heartbeat]

/-- What `n` attempts in a row answer, and the bytes left. -/
def takes (limit : Nat) : Nat → Bytes → List (Except CodecError (Option Packet)) × Bytes
  | 0, src => ([], src)
  | n + 1, src =>
    let (answer, rest) := decode limit src
    let (answers, rest) := takes limit n rest
    (answer :: answers, rest)

/-- Packets are read back one after the other. -/
theorem takes_onStream {limit : Nat} {ps : List Packet} (fits : ∀ p ∈ ps, p.Fits limit)
    (clear : ∀ p ∈ ps, ¬ p.Mistaken) (tail : Bytes) :
    takes limit ps.length (ps.flatMap Packet.onStream ++ tail) =
      (ps.map fun p => .ok (some p.received), tail) := by
  induction ps with
  | nil => rfl
  | cons p ps ih =>
    have htake := decode_onStream (fits p (by simp)) (clear p (by simp))
      (ps.flatMap Packet.onStream ++ tail)
    have hlater := ih (fun q hq => fits q (by simp [hq])) (fun q hq => clear q (by simp [hq]))
    simp only [List.length_cons, takes, List.flatMap_cons, List.append_assoc, htake, hlater,
      List.map_cons]

/-- If packets are read one after the other, so is the first. -/
theorem takes_cons {limit : Nat} {p : Packet} {ps : List Packet} {src tail : Bytes}
    (reads : takes limit (p :: ps).length src = ((p :: ps).map fun p => .ok (some p), tail)) :
    ∃ rest, decode limit src = (.ok (some p), rest) ∧
      takes limit ps.length rest = (ps.map fun p => .ok (some p), tail) := by
  simp only [List.length_cons, takes, List.map_cons, Prod.mk.injEq, List.cons.injEq] at reads
  obtain ⟨⟨first, later⟩, left⟩ := reads
  exact ⟨(decode limit src).2, Prod.ext first rfl, Prod.ext later left⟩

/-! ## Where the round trip ends -/

/-- The packet has bytes, and they are read back in front of any others. -/
def RoundTrips (limit : Nat) (p : Packet) : Prop :=
  ∃ bytes, encode p = .ok bytes ∧ ∀ tail, decode limit (bytes ++ tail) = (.ok (some p), tail)

/-- A frame within the limit is read back exactly if it is not mistaken. -/
theorem decode_onStream_iff {limit : Nat} {p : Packet} (hbeat : p.isHeartbeat = false)
    (fits : p.Fits limit) (tail : Bytes) :
    (decode limit (p.onStream ++ tail)).1 = .ok (some p) ↔ ¬ p.Mistaken := by
  constructor
  · intro hread hmistaken
    rw [decode_onStream_mistaken limit hmistaken] at hread
    simp only [Except.ok.injEq, Option.some.injEq] at hread
    rw [← hread] at hbeat
    exact absurd hbeat (by decide)
  · intro hclear
    rw [decode_onStream fits hclear tail, Packet.received, hbeat]
    rfl

/-- The shortest frame that is mistaken for a heartbeat. -/
def mistakenFrame : Packet := { body := List.replicate Config.frameBound 0 }

theorem length_mistakenFrame : mistakenFrame.body.length = Config.frameBound :=
  List.length_replicate ..

theorem mistaken_mistakenFrame : mistakenFrame.Mistaken := by
  refine ⟨rfl, ?_⟩
  rw [length_mistakenFrame]
  rfl

/-- All frames within a limit are read back exactly if the limit is below the
bound for the limits of servers. -/
theorem roundTrips_iff (limit : Nat) :
    (∀ p : Packet, p.isHeartbeat = false → p.body.length ≤ limit → RoundTrips limit p) ↔
      limit < Config.frameBound := by
  constructor
  · intro hall
    -- From the bound on, the shortest mistaken frame is within the limit.
    refine Nat.lt_of_not_le fun hbound => ?_
    have hlimit : mistakenFrame.body.length ≤ limit := length_mistakenFrame ▸ hbound
    have hword : mistakenFrame.body.length < Bytes.wordBound := by
      rw [length_mistakenFrame]; decide
    obtain ⟨bytes, hencode, hread⟩ := hall mistakenFrame rfl hlimit
    rw [encode_onStream hword, Except.ok.injEq] at hencode
    have hfirst : (decode limit (mistakenFrame.onStream ++ [])).1 = .ok (some mistakenFrame) := by
      rw [hencode, hread]
    exact (decode_onStream_iff rfl ⟨hlimit, hword⟩ []).mp hfirst mistaken_mistakenFrame
  · intro hbound p hbeat hlimit
    have hlength : p.body.length < 0xDF000000 := Nat.lt_of_le_of_lt hlimit hbound
    have hword : p.body.length < Bytes.wordBound := by unfold Bytes.wordBound; omega
    have hclear : ¬ p.Mistaken := fun hmistaken => by
      have := hmistaken.2
      omega
    refine ⟨p.onStream, encode_onStream hword, fun tail => ?_⟩
    rw [decode_onStream ⟨hlimit, hword⟩ hclear, Packet.received, hbeat]
    rfl

/-- The limits that settings may have are those above zero and below the
bound. -/
theorem valid_maxFrame_iff (limit : Nat) :
    (∃ c : Config, c.maxFrame = limit ∧ c.validate = .ok ()) ↔
      0 < limit ∧ limit < Config.frameBound := by
  constructor
  · rintro ⟨c, rfl, hvalid⟩
    have hmeets := (Config.validate_ok_iff c).mp hvalid
    have hpositive := hmeets .framePositive
    have hbounded := hmeets .frameBounded
    simp only [Config.Constraint.violated, beq_eq_false_iff_ne, decide_eq_false_iff_not]
      at hpositive hbounded
    omega
  · rintro ⟨hpositive, hbounded⟩
    refine ⟨{ Config.ofPort none (.number 0) with maxFrame := limit }, rfl, ?_⟩
    rw [Config.validate_ok_iff]
    intro constraint
    cases constraint with
    | framePositive =>
      simp only [Config.Constraint.violated, beq_eq_false_iff_ne]
      omega
    | frameBounded =>
      simp only [Config.Constraint.violated, decide_eq_false_iff_not]
      omega
    | _ => rfl

/-- **Streams of packets are written and read back**, and exactly where this
ends: at frames that are mistaken for a heartbeat, and so at the limits that no
server can be set to. -/
theorem stream_read_back_exactly (limit : Nat) :
    (∀ ps : List Packet, (∀ p ∈ ps, p.Fits limit) →
      (∀ p ∈ ps, p.onStream.length = p.encodedLength ∧
        ∀ dst, put dst p = (.ok (), dst ++ p.onStream)) ∧
      (∀ dst, putAll dst ps = (ps.map fun _ => .ok (), dst ++ ps.flatMap Packet.onStream)) ∧
      ((∀ p ∈ ps, ¬ p.Mistaken) → ∀ tail,
        takes limit ps.length (ps.flatMap Packet.onStream ++ tail) =
          (ps.map fun p => .ok (some p.received), tail))) ∧
    (∀ p : Packet, p.isHeartbeat = false → p.Fits limit → ∀ tail,
      ((decode limit (p.onStream ++ tail)).1 = .ok (some p) ↔
        p.body.length / 0x1000000 ≠ 0xDF) ∧
      (p.body.length / 0x1000000 = 0xDF →
        (decode limit (p.onStream ++ tail)).1 = .ok (some .heartbeat))) ∧
    (0 < limit →
      ((∀ p : Packet, p.isHeartbeat = false → p.body.length ≤ limit → RoundTrips limit p) ↔
        limit < Config.frameBound) ∧
      (limit < Config.frameBound ↔ ∃ c : Config, c.maxFrame = limit ∧ c.validate = .ok ())) := by
  refine ⟨fun ps fits => ⟨?_, ?_, ?_⟩, fun p hbeat fits tail => ⟨?_, ?_⟩, fun hpositive => ⟨?_, ?_⟩⟩
  · exact fun p hp => ⟨length_onStream p, put_onStream (fits p hp).2⟩
  · exact putAll_onStream fun p hp => (fits p hp).2
  · exact takes_onStream fits
  · rw [decode_onStream_iff hbeat fits, Packet.Mistaken, not_and]
    exact ⟨fun h => h hbeat, fun h _ => h⟩
  · exact fun hfirst => decode_onStream_mistaken limit ⟨hbeat, hfirst⟩ tail
  · exact roundTrips_iff limit
  · rw [valid_maxFrame_iff]
    exact ⟨fun h => ⟨hpositive, h⟩, fun h => h.2⟩

/-- Two frames around a heartbeat that has fields, read back in front of a
piece of a header. -/
theorem stream_read_back_around_heartbeat :
    let ps : List Packet :=
      [{ cmd := 1, session := 0xDFDFDFDF, body := [0xDF, 0] },
        { cmd := 9, body := [1, 2, 3], isHeartbeat := true }, { flags := 0xFF }]
    (∀ p ∈ ps, p.Fits 3) ∧ (∀ p ∈ ps, ¬ p.Mistaken) ∧
      takes 3 3 (ps.flatMap Packet.onStream ++ [0, 0]) =
        ([.ok (some { cmd := 1, session := 0xDFDFDFDF, body := [0xDF, 0] }),
          .ok (some .heartbeat), .ok (some { flags := 0xFF })], [0, 0]) := by
  intro ps
  have hfits : ∀ p ∈ ps, p.Fits 3 := by decide
  have hclear : ∀ p ∈ ps, ¬ p.Mistaken := by decide
  exact ⟨hfits, hclear, ((stream_read_back_exactly 3).1 ps hfits).2.2 hclear [0, 0]⟩

end Wire

end PacketServer
