import PacketServer.Proofs.Wire.Forms

/-!
# A header that was damaged on the way

The check byte of a header is the exclusive-or of the ten bytes before it, so
all eleven bytes together sum up to zero. Changing one of them, the check byte
included, changes the sum by just as much as the byte, and a header whose sum
is not zero is never accepted: it is refused by the length that it declares,
which may be another one now, or else by its check byte.

The first byte is special. A decoder that finds the heartbeat's byte there
looks no further, and so this one damage goes unnoticed.

## Main results

* `xor_set` — a changed byte changes the sum by the same.
* `decode_of_unbalanced` — eleven bytes whose sum is not zero are refused.
* `damaged_header_refused` — what comes of a frame with one changed byte in its
  header.
-/

namespace PacketServer

/-! ## Sums of bytes -/

namespace Bytes

theorem xor_cons (b : UInt8) (s : Bytes) : xor (b :: s) = b ^^^ xor s := by
  show s.foldl (· ^^^ ·) (0 ^^^ b) = b ^^^ s.foldl (· ^^^ ·) 0
  rw [UInt8.xor_comm 0 b, List.foldl_assoc]

theorem xor_append (s t : Bytes) : xor (s ++ t) = xor s ^^^ xor t := by
  induction s with
  | nil => exact UInt8.zero_xor.symm
  | cons b s ih => rw [List.cons_append, xor_cons, xor_cons, ih, UInt8.xor_assoc]

/-- A changed byte changes the sum by the same. -/
theorem xor_set {s : Bytes} {i : Nat} {old : UInt8} (there : s[i]? = some old) (b : UInt8) :
    xor (s.set i b) = xor s ^^^ (old ^^^ b) := by
  induction s generalizing i with
  | nil => simp at there
  | cons c s ih =>
    cases i with
    | zero =>
      have first : c = old := by simpa using there
      rw [List.set_cons_zero, xor_cons, xor_cons, first]
      calc b ^^^ xor s
          = (old ^^^ old) ^^^ (b ^^^ xor s) := by rw [UInt8.xor_self, UInt8.zero_xor]
        _ = old ^^^ xor s ^^^ (old ^^^ b) := by ac_rfl
    | succ i =>
      have behind : s[i]? = some old := by simpa using there
      rw [List.set_cons_succ, xor_cons, xor_cons, ih behind, UInt8.xor_assoc]

end Bytes

namespace Wire

variable {limit : Nat} {src rest front : Bytes}

/-! ## The sum of a header -/

/-- The bytes of a header that is written sum up to zero. -/
theorem Header.xor_encode (h : Header) : Bytes.xor h.encode = 0 := by
  rw [encode, Bytes.xor_append, Bytes.xor_cons]
  show Bytes.xor h.fields ^^^ (Bytes.xor h.fields ^^^ 0) = 0
  rw [UInt8.xor_zero, UInt8.xor_self]

/-- A header that is read is the bytes that it is read from. -/
theorem Header.eq_of_read {header : Header} {check : UInt8}
    (read : Header.read? src = some (header, check, rest)) :
    src = header.fields ++ check :: rest := by
  obtain ⟨l₃, l₂, l₁, l₀, cmd, flags, s₃, s₂, s₁, s₀, shape, same⟩ := Header.bytes_of_read read
  rw [same, Header.fields_ofBytes, shape]
  rfl

/-- Whatever as many bytes as a header has are, a header is read from them. -/
theorem Header.read?_of_length (length : front.length = Packet.headerLength) :
    ∃ header check, Header.read? front = some (header, check, []) ∧
      Bytes.xor front = Bytes.xor header.fields ^^^ check := by
  cases read : Header.read? front with
  | none =>
    have short := Header.read?_eq_none.mp read
    omega
  | some found =>
    obtain ⟨header, check, behind⟩ := found
    have all := Header.read?_length read
    have nothing : behind = [] := List.eq_nil_of_length_eq_zero (by omega)
    subst nothing
    refine ⟨header, check, rfl, ?_⟩
    rw [Header.eq_of_read read, Bytes.xor_append, Bytes.xor_cons]
    show Bytes.xor header.fields ^^^ (check ^^^ 0) = _
    rw [UInt8.xor_zero]

/-- **Eleven bytes whose sum is not zero are refused** unless they start with a
heartbeat, and the sum is by how much the check byte is wrong. -/
theorem decode_of_unbalanced (limit : Nat) (length : front.length = Packet.headerLength)
    (plain : Plain front) (unbalanced : Bytes.xor front ≠ 0) :
    ∃ header check, Bytes.xor header.fields ^^^ check = Bytes.xor front ∧
      ∀ rest, Header.read? (front ++ rest) = some (header, check, rest) ∧
        decode limit (front ++ rest) =
          (.error (if limit < header.length then .frameTooLarge header.length limit
            else .checksum (Bytes.xor header.fields) check), front ++ rest) := by
  obtain ⟨header, check, read, sum⟩ := Header.read?_of_length length
  have wrong : Bytes.xor header.fields ≠ check := by
    intro right
    rw [sum, right, UInt8.xor_self] at unbalanced
    exact unbalanced rfl
  refine ⟨header, check, sum.symm, ?_⟩
  intro rest
  have plain : Plain (front ++ rest) := plain.append (Header.ne_nil_of_read read)
  have read : Header.read? (front ++ rest) = some (header, check, rest) :=
    Header.read?_append read
  refine ⟨read, ?_⟩
  by_cases big : limit < header.length
  · rw [if_pos big]
    exact (Outcome.oversize plain read big).eq
  · rw [if_neg big]
    exact (Outcome.mismatch plain read (Nat.le_of_not_lt big) wrong).eq

/-! ## Damaged frames -/

/-- A byte in front is changed in front. -/
theorem plain_set {i : Nat} {b : UInt8} (plain : Plain front)
    (unmistaken : ¬ (i = 0 ∧ b = Packet.heartbeatByte)) : Plain (front.set i b) := by
  cases front with
  | nil => exact plain
  | cons first behind =>
    cases i with
    | zero =>
      have other : b ≠ Packet.heartbeatByte := fun same => unmistaken ⟨rfl, same⟩
      simpa [Plain] using other
    | succ i => exact plain

/-- **A frame with one changed byte in its header is refused**, and nothing is
taken, whatever follows it: by the length that the header declares now, or else
by its check byte, which is wrong by just the change. There is one exception,
and it is exact: if the first byte was changed to that of a heartbeat, a
heartbeat is taken. -/
theorem damaged_header_refused (limit : Nat) {p : Packet} {frame : Bytes} {i : Nat} {old b : UInt8}
    (notHeartbeat : p.isHeartbeat = false) (encodes : encode p = .ok frame)
    (clear : p.body.length / 0x1000000 ≠ 0xDF) (inHeader : i < Packet.headerLength)
    (there : frame[i]? = some old) (changed : b ≠ old) :
    (i = 0 ∧ b = 0xDF → ∀ tail,
      decode limit (frame.set i b ++ tail) = (.ok (some .heartbeat), frame.drop 1 ++ tail)) ∧
    (¬ (i = 0 ∧ b = 0xDF) → ∃ header check,
      Header.read? (frame.set i b) = some (header, check, p.body) ∧
      Bytes.xor header.fields ^^^ check = old ^^^ b ∧
      ∀ tail,
        decode limit (frame.set i b ++ tail) =
          (.error (if limit < header.length then .frameTooLarge header.length limit
            else .checksum (Bytes.xor header.fields) check), frame.set i b ++ tail) ∧
        (drain limit (frame.set i b ++ tail)).packets = []) := by
  -- The frame is a header and the body, and the change is in the header.
  have split : frame = (Header.ofPacket p).encode ++ p.body := by
    rw [← onStream_of_encode encodes, Packet.onStream, if_neg (by rw [notHeartbeat]; decide)]
  have word : (Header.ofPacket p).length < Bytes.wordBound := by
    rw [encode_eq, if_neg (by rw [notHeartbeat]; decide)] at encodes
    split at encodes
    · simp at encodes
    · exact Nat.lt_of_not_le ‹_›
  have length := (Header.ofPacket p).length_encode
  have balanced := (Header.ofPacket p).xor_encode
  have plain : Plain (Header.ofPacket p).encode := by
    have whole := plain_encode word []
    rw [List.append_nil] at whole
    exact whole.mpr clear
  generalize (Header.ofPacket p).encode = front at split length balanced plain
  subst split
  rw [List.getElem?_append_left (by omega)] at there
  rw [List.set_append_left _ _ (by omega)]
  constructor
  · rintro ⟨rfl, rfl⟩ tail
    cases front with
    | nil => simp at there
    | cons first behind => exact decode_heartbeat limit (behind ++ p.body ++ tail)
  · intro unmistaken
    have sum : Bytes.xor (front.set i b) = old ^^^ b := by
      rw [Bytes.xor_set there, balanced, UInt8.zero_xor]
    have unbalanced : Bytes.xor (front.set i b) ≠ 0 := by
      rw [sum, ne_eq, UInt8.xor_eq_zero_iff]
      exact changed.symm
    have length : (front.set i b).length = Packet.headerLength := by rw [List.length_set, length]
    obtain ⟨header, check, difference, refused⟩ :=
      decode_of_unbalanced limit length (plain_set plain unmistaken) unbalanced
    refine ⟨header, check, (refused p.body).1, difference.trans sum, ?_⟩
    intro tail
    have answer := (refused (p.body ++ tail)).2
    rw [← List.append_assoc] at answer
    exact ⟨answer, by rw [drain_of_fault answer]⟩

/-- A frame damaged in its declared length, in its command and in its first byte. -/
theorem damaged_header_refused_in_three_ways :
    let p : Packet := { cmd := 1, body := [97, 98, 99] }
    let frame : Bytes := [0, 0, 0, 3, 1, 0, 0, 0, 0, 0, 2, 97, 98, 99]
    encode p = .ok frame ∧
      decode 3 (frame.set 3 4 ++ [7]) = (.error (.frameTooLarge 4 3), frame.set 3 4 ++ [7]) ∧
      decode 3 (frame.set 4 9 ++ [7]) = (.error (.checksum 10 2), frame.set 4 9 ++ [7]) ∧
      decode 3 (frame.set 0 0xDF ++ [7]) = (.ok (some .heartbeat), frame.drop 1 ++ [7]) := by
  intro p frame
  have encodes : encode p = .ok frame := by rw [encode_eq]; cbv
  have clear : p.body.length / 0x1000000 ≠ 0xDF := by decide
  refine ⟨encodes, ?_, ?_, ?_⟩
  · have there : frame[3]? = some 3 := rfl
    obtain ⟨header, check, read, -, refused⟩ :=
      (damaged_header_refused 3 (b := 4) rfl encodes clear (by decide) there (by decide)).2 (by decide)
    obtain ⟨rfl, rfl, -⟩ : (⟨4, 1, 0, 0⟩ : Header) = header ∧ 2 = check ∧ _ := by
      simpa [Header.read?, frame, Bytes.unword] using read
    exact (refused [7]).1
  · have there : frame[4]? = some 1 := rfl
    obtain ⟨header, check, read, -, refused⟩ :=
      (damaged_header_refused 3 (b := 9) rfl encodes clear (by decide) there (by decide)).2 (by decide)
    obtain ⟨rfl, rfl, -⟩ : (⟨3, 9, 0, 0⟩ : Header) = header ∧ 2 = check ∧ _ := by
      simpa [Header.read?, frame, Bytes.unword] using read
    exact (refused [7]).1
  · have there : frame[0]? = some 0 := rfl
    exact (damaged_header_refused 3 (b := 0xDF) rfl encodes clear (by decide) there
      (by decide)).1 ⟨rfl, rfl⟩ [7]

end Wire

end PacketServer
