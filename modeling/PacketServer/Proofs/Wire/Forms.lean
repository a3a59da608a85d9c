import PacketServer.Proofs.Wire.RoundTrip
import PacketServer.Wire.Grammar

/-!
# Units and what is taken for them

`Form` says what the units of a stream are without a word about decoding. Here
the two are brought together: a packet can be taken exactly if a unit starts
the bytes, what is taken is the unit, and the unit is the packet's encoding.

Taking packets one after the other therefore cuts a byte string into units.
`Taken` says so of any number of packets, also if more could be taken or the
bytes left are at fault.

## Main results

* `decode_eq_packet_iff` — a packet is taken exactly if its unit is in front.
* `Form.onStream`, `Form.encode` — a unit is the encoding of its packet.
* `taken_iff_stream` — packets are taken in a row exactly if their units are.
-/

namespace PacketServer.Wire

variable {limit : Nat} {s src rest : Bytes} {p : Packet} {ps : List Packet}

/-! ## Headers -/

/-- What ten bytes say of a frame. -/
def Header.ofBytes (l₃ l₂ l₁ l₀ cmd flags s₃ s₂ s₁ s₀ : UInt8) : Header where
  length := Bytes.unword l₃ l₂ l₁ l₀
  cmd := cmd
  flags := flags
  session := .ofNat (Bytes.unword s₃ s₂ s₁ s₀)

/-- The bytes that a header is read from are those that it is written as. -/
theorem Header.fields_ofBytes (l₃ l₂ l₁ l₀ cmd flags s₃ s₂ s₁ s₀ : UInt8) :
    (ofBytes l₃ l₂ l₁ l₀ cmd flags s₃ s₂ s₁ s₀).fields =
      [l₃, l₂, l₁, l₀, cmd, flags, s₃, s₂, s₁, s₀] := by
  have hword : Bytes.unword s₃ s₂ s₁ s₀ < UInt32.size := Bytes.unword_lt s₃ s₂ s₁ s₀
  have hsession : (UInt32.ofNat (Bytes.unword s₃ s₂ s₁ s₀)).toNat = Bytes.unword s₃ s₂ s₁ s₀ :=
    UInt32.toNat_ofNat_of_lt hword
  simp only [fields, ofBytes, hsession, Bytes.word_unword, List.cons_append, List.nil_append]

theorem xor_of_bytes (l₃ l₂ l₁ l₀ cmd flags s₃ s₂ s₁ s₀ : UInt8) :
    Bytes.xor [l₃, l₂, l₁, l₀, cmd, flags, s₃, s₂, s₁, s₀] =
      l₃ ^^^ l₂ ^^^ l₁ ^^^ l₀ ^^^ cmd ^^^ flags ^^^ s₃ ^^^ s₂ ^^^ s₁ ^^^ s₀ := by
  simp only [Bytes.xor, List.foldl_cons, List.foldl_nil, UInt8.zero_xor]

/-- The bytes of a header that is read. -/
theorem Header.bytes_of_read {header : Header} {check : UInt8}
    (read : Header.read? src = some (header, check, rest)) :
    ∃ l₃ l₂ l₁ l₀ cmd flags s₃ s₂ s₁ s₀,
      src = l₃ :: l₂ :: l₁ :: l₀ :: cmd :: flags :: s₃ :: s₂ :: s₁ :: s₀ :: check :: rest ∧
      header = ofBytes l₃ l₂ l₁ l₀ cmd flags s₃ s₂ s₁ s₀ := by
  unfold Header.read? at read
  split at read
  · simp only [Option.some.injEq, Prod.mk.injEq] at read
    obtain ⟨rfl, rfl, rfl⟩ := read
    exact ⟨_, _, _, _, _, _, _, _, _, _, rfl, rfl⟩
  · simp at read

/-! ## Units are encodings -/

namespace Form

theorem body_le (form : Form limit s p) : p.body.length ≤ limit := by
  cases form with
  | heartbeat => exact Nat.zero_le limit
  | frame _ _ _ _ _ _ _ _ _ _ _ body _ _ fits => exact fits

theorem fits (form : Form limit s p) : p.Fits limit := by
  refine ⟨form.body_le, ?_⟩
  cases form with
  | heartbeat => decide
  | frame l₃ l₂ l₁ l₀ _ _ _ _ _ _ _ body _ length =>
    show body.length < Bytes.wordBound
    rw [← length]
    exact Bytes.unword_lt l₃ l₂ l₁ l₀

/-- A unit is what its packet is on a stream. -/
theorem onStream (form : Form limit s p) : p.onStream = s := by
  cases form with
  | heartbeat => rfl
  | frame l₃ l₂ l₁ l₀ cmd flags s₃ s₂ s₁ s₀ check body _ length _ checked =>
    have header : Header.ofPacket ⟨cmd, flags, .ofNat (Bytes.unword s₃ s₂ s₁ s₀), body, false⟩ =
        .ofBytes l₃ l₂ l₁ l₀ cmd flags s₃ s₂ s₁ s₀ := by
      rw [Header.ofBytes, length]
      rfl
    rw [Packet.onStream, if_neg Bool.false_ne_true, header, Header.encode, Header.fields_ofBytes,
      xor_of_bytes, ← checked]
    rfl

/-- A frame starts with no heartbeat. -/
theorem clear (form : Form limit s p) : ¬ p.Mistaken := by
  cases form with
  | heartbeat => decide
  | frame l₃ l₂ l₁ l₀ _ _ _ _ _ _ _ body notHeartbeat length =>
    rintro ⟨-, hfirst⟩
    have hfirst : body.length / 0x1000000 = 0xDF := hfirst
    have h₂ := l₂.toNat_lt
    have h₁ := l₁.toNat_lt
    have h₀ := l₀.toNat_lt
    refine notHeartbeat (UInt8.toNat_inj.mp ?_)
    rw [← length] at hfirst
    unfold Bytes.unword at hfirst
    show l₃.toNat = 0xDF
    omega

theorem received (form : Form limit s p) : p.received = p := by
  cases form <;> rfl

/-- **A unit is the encoding of its packet.** -/
theorem encode (form : Form limit s p) : Wire.encode p = .ok s := by
  rw [encode_onStream form.fits.2, form.onStream]

theorem length_eq (form : Form limit s p) : s.length = p.encodedLength := by
  rw [← form.onStream, length_onStream]

theorem length_pos (form : Form limit s p) : 0 < s.length := by
  rw [form.length_eq]
  exact p.encodedLength_pos

/-- A unit is taken, whatever follows it. -/
theorem decode (form : Form limit s p) (t : Bytes) :
    Wire.decode limit (s ++ t) = (.ok (some p), t) := by
  rw [← form.onStream, decode_onStream form.fits form.clear, form.received]

end Form

/-! ## What is taken is a unit -/

/-- A packet that is taken was a unit. -/
theorem form_of_decode (taken : decode limit src = (.ok (some p), rest)) :
    ∃ s, src = s ++ rest ∧ Form limit s p := by
  rw [decode_eq_iff] at taken
  cases taken with
  | heartbeat => exact ⟨[0xDF], rfl, .heartbeat⟩
  | @frame _ body _ header check plain read fits right whole =>
    obtain ⟨l₃, l₂, l₁, l₀, cmd, flags, s₃, s₂, s₁, s₀, rfl, rfl⟩ := Header.bytes_of_read read
    have notHeartbeat : l₃ ≠ Packet.heartbeatByte := by simpa [Plain] using plain
    have checked := right.symm
    rw [Header.fields_ofBytes, xor_of_bytes] at checked
    exact ⟨l₃ :: l₂ :: l₁ :: l₀ :: cmd :: flags :: s₃ :: s₂ :: s₁ :: s₀ :: check :: body, rfl,
      .frame l₃ l₂ l₁ l₀ cmd flags s₃ s₂ s₁ s₀ check body notHeartbeat whole.symm
        (whole ▸ fits) checked⟩

/-- **A packet is taken exactly if its unit is in front.** -/
theorem decode_eq_packet_iff :
    decode limit src = (.ok (some p), rest) ↔ ∃ s, src = s ++ rest ∧ Form limit s p := by
  constructor
  · exact form_of_decode
  · rintro ⟨s, rfl, form⟩
    exact form.decode rest

/-- No unit starts the bytes exactly if no packet can be taken off them. -/
theorem stuck_iff : Stuck limit src ↔ ∀ p rest, decode limit src ≠ (.ok (some p), rest) := by
  constructor
  · intro stuck p rest taken
    obtain ⟨s, split, form⟩ := decode_eq_packet_iff.mp taken
    exact stuck s rest p split form
  · intro untaken s rest p split form
    exact untaken p rest (decode_eq_packet_iff.mpr ⟨s, split, form⟩)

/-! ## Taking packets in a row -/

/-- `Taken limit src ps rest` says that the packets `ps` are taken off `src`
one after the other, and `rest` is left. -/
inductive Taken (limit : Nat) : Bytes → List Packet → Bytes → Prop
  | nil (src : Bytes) : Taken limit src [] src
  | cons {src mid rest : Bytes} {p : Packet} {ps : List Packet}
      (first : decode limit src = (.ok (some p), mid)) (later : Taken limit mid ps rest) :
      Taken limit src (p :: ps) rest

theorem taken_of_stream (stream : Stream limit s ps) (rest : Bytes) :
    Taken limit (s ++ rest) ps rest := by
  induction stream with
  | nil => exact .nil rest
  | @cons s t p ps form _ ih =>
    rw [List.append_assoc]
    exact .cons (form.decode (t ++ rest)) ih

theorem stream_of_taken (taken : Taken limit src ps rest) :
    ∃ s, src = s ++ rest ∧ Stream limit s ps := by
  induction taken with
  | nil src => exact ⟨[], rfl, .nil⟩
  | @cons src mid rest p ps first _ ih =>
    obtain ⟨s, rfl, form⟩ := form_of_decode first
    obtain ⟨t, rfl, stream⟩ := ih
    exact ⟨s ++ t, (List.append_assoc ..).symm, .cons form stream⟩

/-- **Packets are taken in a row exactly if their units are in front**, one
after the other. -/
theorem taken_iff_stream :
    Taken limit src ps rest ↔ ∃ s, src = s ++ rest ∧ Stream limit s ps := by
  constructor
  · exact stream_of_taken
  · rintro ⟨s, rfl, stream⟩
    exact taken_of_stream stream rest

/-- A stream is the encodings of its packets. -/
theorem Stream.onStream (stream : Stream limit s ps) : ps.flatMap Packet.onStream = s := by
  induction stream with
  | nil => rfl
  | cons form _ ih => rw [List.flatMap_cons, form.onStream, ih]

theorem Stream.fits (stream : Stream limit s ps) : ∀ p ∈ ps, p.Fits limit := by
  induction stream with
  | nil => simp
  | cons form _ ih =>
    intro q member
    rcases List.mem_cons.mp member with rfl | later
    · exact form.fits
    · exact ih q later

end PacketServer.Wire
