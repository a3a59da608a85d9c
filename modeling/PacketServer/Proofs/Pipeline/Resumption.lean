import PacketServer.Proofs.Pipeline.Frame

/-!
# Reading on where a call stopped

What has arrived is decoded and dispatched packet by packet, and between two
packets a callback may have asked to close. Bytes that arrive later make no
difference to any of it: a call that is given more bytes does what it would
have done with the first of them, and then what a second call would do with
those left and the others. `fireRead` is in this sense a homomorphism, in all
that a connection is: its context, its application's state, the encoded bytes,
the bytes left, and the journal.

`ReadRun` is the loop turn by turn, with the packets that it dispatches. Each
of them takes at least one byte, so there are no more of them than bytes.

## Main results

* `readRun_fireRead`, `ReadRun.eq_fireRead` — the loop ends, in one way.
* `ReadRun.length_le` — every dispatch takes a byte.
* `fireRead_append` — a call with more bytes is two calls.
-/

namespace PacketServer.Pipeline

variable {σ ν : Type} {p : Pipeline σ ν} {limit : Nat} {l : Live σ ν}

/-! ## The loop, turn by turn -/

/-- `ReadRun p l packets outcome` says that decoding and dispatching, one packet
after the other, dispatches `packets` and comes to `outcome`. -/
inductive ReadRun (p : Pipeline σ ν) :
    Live σ ν → List Packet → Except Fault Nat × Live σ ν → Prop
  | closing {l : Live σ ν} (asked : l.context.closing = true) : ReadRun p l [] (.ok 0, l)
  | nothing {l : Live σ ν} {rest : Bytes} {user : σ} (opened : l.context.closing = false)
      (call : p.decoder.decode l.user l.source = ((.ok none, rest), user)) :
      ReadRun p l [] (.ok 0, { l with source := rest, user := user })
  | fault {l : Live σ ν} {e : CodecError} {rest : Bytes} {user : σ}
      (opened : l.context.closing = false)
      (call : p.decoder.decode l.user l.source = ((.error e, rest), user)) :
      ReadRun p l [] (.error (.codec e), { l with source := rest, user := user })
  | stopped {l l' : Live σ ν} {packet : Packet} {rest : Bytes} {user : σ} {e : Fault}
      (opened : l.context.closing = false)
      (call : p.decoder.decode l.user l.source = ((.ok (some packet), rest), user))
      (dispatches : p.dispatch packet (l.decoded packet rest user) = (.error e, l')) :
      ReadRun p l [packet] (.error e, l')
  | onward {l l' : Live σ ν} {packet : Packet} {rest : Bytes} {user : σ} {delivered : Bool}
      {packets : List Packet} {outcome : Except Fault Nat × Live σ ν}
      (opened : l.context.closing = false)
      (call : p.decoder.decode l.user l.source = ((.ok (some packet), rest), user))
      (dispatches : p.dispatch packet (l.decoded packet rest user) = (.ok delivered, l'))
      (later : ReadRun p l' packets outcome) :
      ReadRun p l (packet :: packets) (tally delivered.toNat outcome)

/-- The loop ends, in what the function answers. -/
theorem readRun_fireRead (p : Pipeline σ ν) (l : Live σ ν) :
    ∃ packets, ReadRun p l packets (p.fireRead l) := by
  fun_induction fireRead p l with
  | case1 l asked => exact ⟨[], .closing asked⟩
  | case2 l opened e rest user call => exact ⟨[], .fault (by simpa using opened) call⟩
  | case3 l opened rest user call => exact ⟨[], .nothing (by simpa using opened) call⟩
  | case4 l opened packet rest user call e l' dispatches =>
    exact ⟨[packet], .stopped (by simpa using opened) call dispatches⟩
  | case5 l opened packet rest user call delivered l₁ dispatches _ n l' read ih =>
    obtain ⟨packets, later⟩ := ih
    rw [read] at later
    exact ⟨packet :: packets, .onward (by simpa using opened) call dispatches later⟩
  | case6 l opened packet rest user call delivered l₁ dispatches _ e l' read ih =>
    obtain ⟨packets, later⟩ := ih
    rw [read] at later
    exact ⟨packet :: packets, .onward (by simpa using opened) call dispatches later⟩

/-- What a call of the usual decoder is. -/
theorem decode_of_call {answer : Except CodecError (Option Packet)} {rest : Bytes} {user : σ}
    (usual : p.decoder = .packets limit)
    (call : p.decoder.decode l.user l.source = ((answer, rest), user)) :
    Wire.decode limit l.source = (answer, rest) ∧ l.user = user := by
  rw [usual, Decoder.decode_packets, Prod.mk.injEq] at call
  exact call

namespace ReadRun

variable {packets : List Packet} {outcome : Except Fault Nat × Live σ ν}

/-- The loop comes to nothing else. -/
theorem eq_fireRead (usual : p.decoder = .packets limit) (run : ReadRun p l packets outcome) :
    outcome = p.fireRead l := by
  induction run with
  | closing asked => exact (fireRead_of_closing asked).symm
  | @nothing l rest user opened call =>
    obtain ⟨decodes, rfl⟩ := decode_of_call usual call
    have unchanged := Wire.decode_rest_of_none decodes
    subst unchanged
    exact (fireRead_of_waiting usual decodes).symm
  | @fault l e rest user opened call =>
    obtain ⟨decodes, rfl⟩ := decode_of_call usual call
    have unchanged := (Wire.decode_append_fault [] decodes).1
    subst unchanged
    exact (fireRead_of_fault usual opened decodes).symm
  | stopped opened call dispatches =>
    obtain ⟨decodes, rfl⟩ := decode_of_call usual call
    rw [fireRead_of_packet usual opened decodes, dispatches]
  | onward opened call dispatches _ ih =>
    obtain ⟨decodes, rfl⟩ := decode_of_call usual call
    rw [fireRead_of_packet usual opened decodes, dispatches, ih]

/-- **Every dispatch takes a byte**, so there are as many at most as bytes are
taken. -/
theorem length_le (usual : p.decoder = .packets limit) (run : ReadRun p l packets outcome) :
    packets.length + outcome.2.source.length ≤ l.source.length := by
  induction run with
  | @closing l asked =>
    show 0 + l.source.length ≤ l.source.length
    omega
  | @nothing l rest user opened call =>
    have unchanged := Wire.decode_rest_of_none (decode_of_call usual call).1
    show 0 + rest.length ≤ l.source.length
    rw [unchanged]
    omega
  | @fault l e rest user opened call =>
    have unchanged := (Wire.decode_append_fault [] (decode_of_call usual call).1).1
    show 0 + rest.length ≤ l.source.length
    rw [unchanged]
    omega
  | @stopped l l' packet rest user e opened call dispatches =>
    have taken := Wire.decode_rest_of_packet (decode_of_call usual call).1
    show 1 + l'.source.length ≤ l.source.length
    rw [source_of_dispatch dispatches]
    omega
  | @onward l l' packet rest user delivered packets outcome opened call dispatches _ ih =>
    have taken := Wire.decode_rest_of_packet (decode_of_call usual call).1
    have same : (tally delivered.toNat outcome).2 = outcome.2 := by
      obtain ⟨_ | n, l₂⟩ := outcome
      · rfl
      · rfl
    rw [source_of_dispatch dispatches] at ih
    rw [same, List.length_cons]
    omega

end ReadRun

/-! ## More bytes -/

/-- A call with more bytes goes on behind what is done without them. -/
theorem fireRead_more (usual : p.decoder = .packets limit) (l : Live σ ν) (b : Bytes) :
    p.fireRead { l with source := l.source ++ b } = p.resume { source := b } (p.fireRead l) := by
  rw [← Live.within_source_eq, fireRead_within usual]

/-- **A call with more bytes is two calls.** The loop ends, and dispatches no
more packets than there are bytes. If it comes to no fault, a call with more
bytes behind the same ones comes to what a second call makes of the bytes left
and the others, its packets counted to those of the first; and if somebody has
asked to close, that is nothing. A fault is the same fault, and the other bytes
are left with those that it left. -/
theorem fireRead_append (usual : p.decoder = .packets limit) (l : Live σ ν) (b : Bytes) :
    ((∃ packets, ReadRun p l packets (p.fireRead l)) ∧
      ∀ packets outcome, ReadRun p l packets outcome →
        outcome = p.fireRead l ∧ packets.length ≤ l.source.length) ∧
    (∀ n₁ l₁, p.fireRead l = (.ok n₁, l₁) →
      (∀ n₂ l₂, p.fireRead { l₁ with source := l₁.source ++ b } = (.ok n₂, l₂) →
        p.fireRead { l with source := l.source ++ b } = (.ok (n₁ + n₂), l₂)) ∧
      (∀ e l₂, p.fireRead { l₁ with source := l₁.source ++ b } = (.error e, l₂) →
        p.fireRead { l with source := l.source ++ b } = (.error e, l₂)) ∧
      (l₁.context.closing = true →
        p.fireRead { l₁ with source := l₁.source ++ b } =
          (.ok 0, { l₁ with source := l₁.source ++ b }))) ∧
    (∀ e l₁, p.fireRead l = (.error e, l₁) →
      p.fireRead { l with source := l.source ++ b } =
        (.error e, { l₁ with source := l₁.source ++ b })) := by
  refine ⟨⟨readRun_fireRead p l, ?_⟩, ?_, ?_⟩
  · intro packets outcome run
    have taken := run.length_le usual
    exact ⟨run.eq_fireRead usual, by omega⟩
  · intro n₁ l₁ first
    have whole := fireRead_more usual l b
    rw [first, resume, Live.within_source_eq] at whole
    refine ⟨?_, ?_, ?_⟩
    · intro n₂ l₂ second
      rw [whole, second, tally, Nat.add_comm]
    · intro e l₂ second
      rw [whole, second, tally]
    · intro asked
      exact fireRead_of_closing asked
  · intro e l₁ first
    rw [fireRead_more usual l b, first, resume, Live.within_source_eq]

/-- A heartbeat and a piece of a frame are echoed in two calls as in one, and a
damaged header behind the frame is met in both. -/
theorem fireRead_append_inside_frame :
    let p : Pipeline Unit Unit := ((Spec.ofHandler .echo).limitFrames 16).assemble
    let address : Address := .ofIp (.v4 127 0 0 1) (.number 3000)
    let context : Context := { id := 1, remote := address, localAddress := address }
    let packet : Packet := { cmd := 7, flags := 2, session := 9, body := [65] }
    let l : Live Unit Unit :=
      { context := context, user := (), source := [0xDF, 0, 0, 0, 1, 7, 2] }
    let b : Bytes := [0, 0, 0, 9, 13, 65, 0, 0, 0, 0, 0, 0, 0, 0, 0, 0, 1]
    let l₁ : Live Unit Unit :=
      { l with
        source := [0, 0, 0, 1, 7, 2]
        encoded := #[0xDF]
        past := #[.decoded .heartbeat, .message context .heartbeat, .encoded .heartbeat] }
    let l₂ : Live Unit Unit :=
      { l with
        source := [0, 0, 0, 0, 0, 0, 0, 0, 0, 0, 1]
        encoded := #[0xDF, 0, 0, 0, 1, 7, 2, 0, 0, 0, 9, 13, 65]
        past := #[.decoded .heartbeat, .message context .heartbeat, .encoded .heartbeat,
          .decoded packet, .message context packet, .encoded packet] }
    p.fireRead l = (.ok 1, l₁) ∧
      p.fireRead { l₁ with source := l₁.source ++ b } = (.error (.codec (.checksum 0 1)), l₂) ∧
      p.fireRead { l with source := l.source ++ b } = (.error (.codec (.checksum 0 1)), l₂) := by
  intro p address context packet l b l₁ l₂
  have usual : p.decoder = .packets 16 := rfl
  have first : ReadRun p l [.heartbeat] (.ok 1, l₁) :=
    @ReadRun.onward _ _ p l l₁ .heartbeat _ () true [] (.ok 0, l₁) rfl rfl rfl
      (.nothing rfl rfl)
  have second : ReadRun p { l₁ with source := l₁.source ++ b } [packet]
      (.error (.codec (.checksum 0 1)), l₂) :=
    @ReadRun.onward _ _ p _ l₂ packet _ () true [] (.error (.codec (.checksum 0 1)), l₂)
      rfl (by cbv) (by cbv) (.fault rfl (by cbv))
  have first := (first.eq_fireRead usual).symm
  have second := (second.eq_fireRead usual).symm
  exact ⟨first, second, ((fireRead_append usual l b).2.1 1 l₁ first).2.1 _ l₂ second⟩

end PacketServer.Pipeline
