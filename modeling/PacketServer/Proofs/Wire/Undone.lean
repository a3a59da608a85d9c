import PacketServer.Proofs.Wire.Forms
import PacketServer.Wire.Reading

/-!
# Encoding undoes decoding

A decoder that is handed any bytes takes off the front exactly what an encoder
makes of the packet that it answers, so no byte of a packet is dropped or made
up: the declared length, the fields and the check byte are all found again in
the packet. Taking packets in a row therefore splits the bytes into encodings
and what is left, however often it is tried and whatever the answers are.

`readPacket` reads at positions. It is here that all of them are shown to lie
in the buffer, and its answer to be that of `decode`.

## Main results

* `readPacket_eq` — reading by position never leaves the buffer.
* `taken_drain`, `taken_takes` — both ways to try again and again only take
  packets.
* `decode_undone_by_encode` — the bytes taken are the packets' encodings.
-/

namespace PacketServer.Wire

variable {limit : Nat} {src rest : Bytes} {ps : List Packet}

open Reading

/-! ## No step of a reader leaves the buffer -/

theorem excess?_of_lt {a b : Nat} (h : b < a) : excess? a b = some (a - b) :=
  if_pos (Nat.le_of_lt h)

theorem readFrame_append (l₃ l₂ l₁ l₀ cmd flags s₃ s₂ s₁ s₀ check : UInt8)
    (body behind : Bytes) :
    readFrame body.length
      (l₃ :: l₂ :: l₁ :: l₀ :: cmd :: flags :: s₃ :: s₂ :: s₁ :: s₀ :: check :: (body ++ behind)) =
      some ((Header.ofBytes l₃ l₂ l₁ l₀ cmd flags s₃ s₂ s₁ s₀).packet body, behind) := by
  simp [readFrame, Packet.headerLength, Bytes.splitAt?, behind?, byte?, word?, Header.ofBytes,
    Header.packet, Bytes.splitAt?_append]

/-- The fields and the body of a frame that is there are read. -/
theorem readFrame_of_read {header : Header} {check : UInt8} {body behind : Bytes}
    (read : Header.read? src = some (header, check, body ++ behind))
    (whole : body.length = header.length) :
    readFrame header.length src = some (header.packet body, behind) := by
  obtain ⟨l₃, l₂, l₁, l₀, cmd, flags, s₃, s₂, s₁, s₀, shape, same⟩ := Header.bytes_of_read read
  rw [← whole, shape, same]
  exact readFrame_append l₃ l₂ l₁ l₀ cmd flags s₃ s₂ s₁ s₀ check body behind

/-- Reading goes on behind a header that is there. -/
theorem readDeclared_of_read {header : Header} {check : UInt8}
    (read : Header.read? src = some (header, check, rest)) :
    readDeclared limit header.length src =
      if limit < header.length then some ((.error (.frameTooLarge header.length limit), src), 0)
      else if Bytes.xor header.fields ≠ check then
        some ((.error (.checksum (Bytes.xor header.fields) check), src), 0)
      else if rest.length < header.length then
        some ((.ok none, src), header.length - rest.length)
      else (readFrame header.length src).map fun found => ((.ok (some found.1), found.2), 0) := by
  have size := Header.read?_length read
  have few : src.length < Packet.headerLength + header.length ↔ rest.length < header.length := by
    omega
  have room (h : rest.length < header.length) :
      excess? (Packet.headerLength + header.length) src.length =
        some (header.length - rest.length) := by
    rw [excess?_of_lt (few.mpr h), Option.some.injEq]
    omega
  obtain ⟨l₃, l₂, l₁, l₀, cmd, flags, s₃, s₂, s₁, s₀, shape, same⟩ := Header.bytes_of_read read
  have last : src[Packet.headerLength - 1]? = some check := by rw [shape]; rfl
  have covered : front? (Packet.headerLength - 1) src = some header.fields := by
    rw [same, Header.fields_ofBytes, shape]; rfl
  simp only [readDeclared, last, covered, Option.bind_eq_bind, Option.bind_some, Option.pure_def,
    few]
  split
  · rfl
  · split
    · rfl
    · split
      · rename_i h
        rw [room h, Option.bind_some]
      · cases readFrame header.length src <;> rfl

theorem readPacket_of_read {header : Header} {check : UInt8} (plain : Plain src)
    (read : Header.read? src = some (header, check, rest)) :
    readPacket limit src = readDeclared limit header.length src := by
  have size := Header.read?_length read
  have present := Header.ne_nil_of_read read
  have long : ¬ src.length < Packet.headerLength := by omega
  obtain ⟨l₃, l₂, l₁, l₀, cmd, flags, s₃, s₂, s₁, s₀, shape, same⟩ := Header.bytes_of_read read
  have beats : l₃ ≠ Packet.heartbeatByte := by simpa [Plain, shape] using plain
  have first : src[0]? = some l₃ := by rw [shape]; rfl
  have length : readLength src = some header.length := by rw [same, shape]; rfl
  simp only [readPacket, if_neg present, first, if_neg beats, if_neg long, length,
    Option.bind_eq_bind, Option.bind_some]

/-- Behind a header room is asked for what lacks of the body, unless the frame
is refused. -/
theorem room_of_read {header : Header} {check : UInt8} (plain : Plain src)
    (read : Header.read? src = some (header, check, rest)) :
    (if src = [] then 0 else lacks limit src) =
      if limit < header.length ∨ Bytes.xor header.fields ≠ check then 0
      else header.length - rest.length := by
  cases src with
  | nil => exact absurd rfl (Header.ne_nil_of_read read)
  | cons first behind =>
    have beats : first ≠ Packet.heartbeatByte := by simpa [Plain] using plain
    rw [if_neg (List.cons_ne_nil first behind), lacks, if_neg beats, read]

/-- **No step leaves the buffer, and the answer is the decoder's**: room is
asked for what lacks behind bytes that are no packet yet. -/
theorem readPacket_eq (limit : Nat) (src : Bytes) :
    readPacket limit src = some (decode limit src, if src = [] then 0 else lacks limit src) := by
  have outcome := outcome_decode limit src
  generalize decode limit src = attempt at outcome
  cases outcome with
  | heartbeat behind => simp [readPacket, lacks, behind?, Bytes.splitAt?]
  | short plain few =>
    cases src with
    | nil => rfl
    | cons first behind =>
      have beats : first ≠ Packet.heartbeatByte := by simpa [Plain] using plain
      have room := excess?_of_lt few
      have read := Header.read?_eq_none.mpr few
      simp only [List.length_cons] at few room
      simp [readPacket, lacks, beats, read, few, room]
  | oversize plain read big =>
    rw [readPacket_of_read plain read, readDeclared_of_read read, room_of_read plain read,
      if_pos big, if_pos (.inl big)]
  | mismatch plain read fits wrong =>
    rw [readPacket_of_read plain read, readDeclared_of_read read, room_of_read plain read,
      if_neg (Nat.not_lt.mpr fits), if_pos wrong, if_pos (.inr wrong)]
  | incomplete plain read fits right few =>
    have accepted := not_or.mpr ⟨Nat.not_lt.mpr fits, not_not_intro right⟩
    rw [readPacket_of_read plain read, readDeclared_of_read read, room_of_read plain read,
      if_neg (Nat.not_lt.mpr fits), if_neg (not_not_intro right), if_pos few, if_neg accepted]
  | frame plain read fits right whole =>
    have accepted := not_or.mpr ⟨Nat.not_lt.mpr fits, not_not_intro right⟩
    rw [readPacket_of_read plain read, readDeclared_of_read read, room_of_read plain read,
      if_neg (Nat.not_lt.mpr fits), if_neg (not_not_intro right), readFrame_of_read read whole,
      if_neg accepted]
    simp [whole]

/-! ## Taking packets again and again -/

/-- The packets among the answers of a decoder. -/
def packetsOf (answers : List (Except CodecError (Option Packet))) : List Packet :=
  answers.filterMap fun
    | .ok found => found
    | .error _ => none

theorem taken_drain (limit : Nat) (src : Bytes) :
    Taken limit src (drain limit src).packets (drain limit src).rest := by
  induction src using drain_induction limit with
  | waiting src h => rw [drain_of_waiting h]; exact .nil src
  | fault src e h => rw [drain_of_fault h]; exact .nil src
  | packet src p rest h ih => rw [drain_of_packet h]; exact .cons h ih

/-- Also attempts that go on behind a fault only take packets. -/
theorem taken_takes (limit calls : Nat) (src : Bytes) :
    Taken limit src (packetsOf (takes limit calls src).1) (takes limit calls src).2 := by
  induction calls generalizing src with
  | zero => exact .nil src
  | succ calls ih =>
    rcases first : decode limit src with ⟨e | _ | p, rest⟩
    · obtain rfl := (decode_append_fault [] first).1
      simpa only [takes, first, packetsOf, List.filterMap_cons] using ih rest
    · obtain rfl := decode_rest_of_none first
      simpa only [takes, first, packetsOf, List.filterMap_cons] using ih rest
    · simpa only [takes, first, packetsOf, List.filterMap_cons] using Taken.cons first (ih rest)

/-! ## Bytes taken are encodings -/

/-- Packets that fit are encoded one by one. -/
theorem mapM_encode {ps : List Packet} (fits : ∀ p ∈ ps, p.Fits limit) :
    ps.mapM encode = .ok (ps.map Packet.onStream) := by
  induction ps with
  | nil => rfl
  | cons p ps ih =>
    have first := encode_onStream (fits p List.mem_cons_self).2
    have later := ih fun q member => fits q (List.mem_cons_of_mem p member)
    rw [List.mapM_cons, first, later]
    rfl

/-- The bytes of packets taken in a row are their encodings. -/
theorem mapM_encode_of_taken (taken : Taken limit src ps rest) :
    ∃ units, ps.mapM encode = .ok units ∧ src = units.flatten ++ rest := by
  obtain ⟨s, rfl, stream⟩ := taken_iff_stream.mp taken
  exact ⟨ps.map Packet.onStream, mapM_encode stream.fits,
    by rw [← List.flatMap_def, stream.onStream]⟩

/-- **Encoding undoes decoding, and decoding loses no bytes.** Every position
that is read lies in the buffer. A packet that is taken is at most as long as
the limit allows and is encoded as exactly the bytes that are gone; without a
packet none are gone. Packets taken in a row are encoded, one after the other,
as exactly the bytes that are gone, in draining and in any number of attempts. -/
theorem decode_undone_by_encode (limit : Nat) (src : Bytes) :
    readPacket limit src = some (decode limit src, if src = [] then 0 else lacks limit src) ∧
    (∀ p rest, decode limit src = (.ok (some p), rest) →
      ∃ unit, encode p = .ok unit ∧ (∀ dst, put dst p = (.ok (), dst ++ unit)) ∧
        src = unit ++ rest ∧ unit.length = p.encodedLength ∧ 0 < p.encodedLength ∧
        p.body.length ≤ limit) ∧
    ((∀ p, (decode limit src).1 ≠ .ok (some p)) → (decode limit src).2 = src) ∧
    (∀ ps rest, Taken limit src ps rest →
      ∃ units, ps.mapM encode = .ok units ∧ src = units.flatten ++ rest) ∧
    Taken limit src (drain limit src).packets (drain limit src).rest ∧
    ∀ calls, Taken limit src (packetsOf (takes limit calls src).1) (takes limit calls src).2 := by
  refine ⟨readPacket_eq limit src, ?_, decode_unchanged, fun ps rest => mapM_encode_of_taken,
    taken_drain limit src, fun calls => taken_takes limit calls src⟩
  intro p rest taken
  obtain ⟨unit, split, form⟩ := form_of_decode taken
  refine ⟨unit, form.encode, fun dst => ?_, split, form.length_eq, p.encodedLength_pos,
    form.body_le⟩
  rw [put_onStream form.fits.2, form.onStream]

/-- A heartbeat, a frame and a piece of another: what is taken first, what
an attempt at the piece leaves, and what three attempts in a row take. -/
theorem decode_undone_by_encode_of_pieces :
    let src : Bytes := [0xDF, 0, 0, 0, 1, 7, 2, 0, 0, 0, 9, 13, 65, 0, 0]
    let frame : Packet := { cmd := 7, flags := 2, session := 9, body := [65] }
    (∃ unit, encode Packet.heartbeat = .ok unit ∧ src = unit ++ src.drop 1) ∧
      (decode 16 [0, 0]).2 = [0, 0] ∧
      ∃ units, [Packet.heartbeat, frame].mapM encode = .ok units ∧
        src = units.flatten ++ [0, 0] := by
  intro src frame
  have first : decode 16 src = (.ok (some .heartbeat), src.drop 1) := rfl
  have again : packetsOf (takes 16 3 src).1 = [.heartbeat, frame] ∧
      (takes 16 3 src).2 = [0, 0] := by
    decide
  have none (p : Packet) : (decode 16 [0, 0]).1 ≠ .ok (some p) := nofun
  refine ⟨?_, (decode_undone_by_encode 16 [0, 0]).2.2.1 none, ?_⟩
  · obtain ⟨unit, encoded, -, split, -⟩ := (decode_undone_by_encode 16 src).2.1 _ _ first
    exact ⟨unit, encoded, split⟩
  · have taken := (decode_undone_by_encode 16 src).2.2.2.2.2 3
    rw [again.1, again.2] at taken
    exact (decode_undone_by_encode 16 src).2.2.2.1 _ _ taken

end PacketServer.Wire
