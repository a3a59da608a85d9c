import PacketServer.Pipeline.Run
import PacketServer.Proofs.Wire.Ending

/-!
# Handling what is left of a stream

At the end of a stream a pipeline takes packets and dispatches each of them
before it takes the next. Dispatching takes no bytes and a decoder of packets
keeps no state, so this comes to the same as taking all packets first and
dispatching them in their order: `fireEnd` is the loop over `decodeEnd`, cut
short only if a packet is dispatched in vain.

## Main results

* `fireEnd_eq_concluded` — what is handled is what the loop takes.
* `fireEnd_parses_exactly` — the end of a stream is parsed by the grammar.
-/

namespace PacketServer.Pipeline

open Wire

variable {σ ν : Type} {p : Pipeline σ ν} {limit : Nat} {l l' : Live σ ν} {front back : Bytes}
  {packets : List Packet}

/-- Dispatches packets that are in front of the bytes left, until one is
dispatched in vain. -/
def dispatchAll (p : Pipeline σ ν) : List Packet → Live σ ν → Except Fault Unit × Live σ ν
  | [], l => (.ok (), l)
  | packet :: packets, l =>
    match p.dispatch packet (l.decoded packet (l.source.drop packet.encodedLength) l.user) with
    | (.error e, l) => (.error e, l)
    | (.ok _, l) => dispatchAll p packets l

/-- After the packets, the fault that ended them counts. -/
def concluded (fault : Option CodecError) :
    Except Fault Unit × Live σ ν → Except Fault Unit × Live σ ν
  | (.ok (), l) => (fault.elim (.ok ()) fun e => .error (.codec e), l)
  | (.error e, l) => (.error e, l)

/-- A call leaves the bytes behind the packet's. -/
theorem rest_of_decodeEnd {src rest : Bytes} {packet : Packet}
    (call : decodeEnd limit src = (.ok (some packet), rest)) :
    rest = src.drop packet.encodedLength := by
  have answer := answer_decodeEnd limit src
  rw [call] at answer
  cases answer with
  | unit form t => rw [← form.length_eq, List.drop_left]

/-- A call that takes no packet takes nothing. -/
theorem source_of_decodeEnd {src rest : Bytes} {answer : Except CodecError (Option Packet)}
    (none : ∀ packet, answer ≠ .ok (some packet)) (call : decodeEnd limit src = (answer, rest)) :
    rest = src := by
  have answers := answer_decodeEnd limit src
  rw [call] at answers
  cases answers with
  | ended => rfl
  | stuck present stuck => rfl
  | unit form t => exact absurd rfl (none _)

/-- **What is handled at the end of a stream is what the loop takes**, in its
order, and what it comes to is the loop's fault if none came before it. -/
theorem fireEnd_eq_concluded (usual : p.decoder = .packets limit) (l : Live σ ν) :
    p.fireEnd l =
      concluded (drainEnd limit l.source).fault
        (p.dispatchAll (drainEnd limit l.source).packets l) := by
  fun_induction fireEnd p l with
  | case1 l e rest user call =>
    simp only [usual, Decoder.decodeEnd_packets, Prod.mk.injEq] at call
    obtain ⟨call, rfl⟩ := call
    rw [← endRun_iff_drainEnd.mp (.fault call), source_of_decodeEnd (by simp) call]
    rfl
  | case2 l rest user call =>
    simp only [usual, Decoder.decodeEnd_packets, Prod.mk.injEq] at call
    obtain ⟨call, rfl⟩ := call
    rw [← endRun_iff_drainEnd.mp (.ended call), source_of_decodeEnd (by simp) call]
    rfl
  | case3 l packet rest user call e l' dispatches =>
    simp only [usual, Decoder.decodeEnd_packets, Prod.mk.injEq] at call
    obtain ⟨call, rfl⟩ := call
    rw [← endRun_iff_drainEnd.mp (.packet call (endRun_drainEnd limit rest)), Harvest.cons,
      dispatchAll, ← rest_of_decodeEnd call, dispatches]
    rfl
  | case4 l packet rest user call delivered l' dispatches _ ih =>
    simp only [usual, Decoder.decodeEnd_packets, Prod.mk.injEq] at call
    obtain ⟨call, rfl⟩ := call
    rw [← endRun_iff_drainEnd.mp (.packet call (endRun_drainEnd limit rest)), Harvest.cons,
      dispatchAll, ← rest_of_decodeEnd call, dispatches, ih, source_of_dispatch dispatches]

/-- Dispatching a row of packets leaves the bytes behind their units. -/
theorem source_dispatchAll (stream : Wire.Stream limit front packets)
    (split : l.source = front ++ back) (all : p.dispatchAll packets l = (.ok (), l')) :
    l'.source = back := by
  induction stream generalizing l with
  | nil =>
    simp only [dispatchAll, Prod.mk.injEq, true_and] at all
    exact all ▸ split
  | @cons s t packet packets form _ ih =>
    rw [List.append_assoc] at split
    have behind : l.source.drop packet.encodedLength = t ++ back := by
      rw [split, ← form.length_eq, List.drop_left]
    rw [dispatchAll, behind] at all
    rcases dispatches : p.dispatch packet (l.decoded packet (t ++ back) l.user) with ⟨e | _, l₁⟩
    · simp [dispatches] at all
    · rw [dispatches] at all
      exact ih (source_of_dispatch dispatches) all

/-- **At the end of a stream exactly the wire grammar is accepted.** The loop
over `decodeEnd` ends, in one way: on whole streams with one packet for each
unit and no fault, on anything else by the defect at the first position where
no unit starts, behind the packets of the units before it. A pipeline handles
just these packets, in this order, and ends by just this fault, unless a packet
is dispatched in vain. -/
theorem fireEnd_parses_exactly (limit : Nat) (w : Bytes) :
    (∀ h, EndRun limit w h ↔ h = drainEnd limit w) ∧
    ((drainEnd limit w).fault = none ↔ ∃ ps, Wire.Stream limit w ps) ∧
    (∀ ps, Wire.Stream limit w ps → drainEnd limit w = ⟨ps, none, []⟩) ∧
    ((¬ ∃ ps, Wire.Stream limit w ps) → ∃ front,
      w = front ++ (drainEnd limit w).rest ∧ Wire.Stream limit front (drainEnd limit w).packets ∧
      (drainEnd limit w).rest ≠ [] ∧ Stuck limit (drainEnd limit w).rest ∧
      (drainEnd limit w).fault = some (defect limit (drainEnd limit w).rest) ∧
      ∀ front' back ps, w = front' ++ back → Wire.Stream limit front' ps →
        (drainEnd limit w).rest <:+ back ∧
          (Stuck limit back ↔ back = (drainEnd limit w).rest)) ∧
    ∀ (σ ν : Type) (p : Pipeline σ ν) (l : Live σ ν),
      p.decoder = .packets limit → l.source = w →
      p.fireEnd l =
        concluded (drainEnd limit w).fault (p.dispatchAll (drainEnd limit w).packets l) ∧
      ∀ l', p.dispatchAll (drainEnd limit w).packets l = (.ok (), l') →
        l'.source = (drainEnd limit w).rest := by
  have parse : Parse limit w (drainEnd limit w) := parse_iff_drainEnd.mpr rfl
  obtain ⟨front, split, stream⟩ := parse.split
  refine ⟨fun h => endRun_iff_drainEnd, parse.accepts_iff, ?_, ?_, ?_⟩
  · intro ps whole
    exact parse.unique (.of_stream whole)
  · intro refused
    rcases parse.stops with ⟨accepted, -⟩ | ⟨fault, present, stuck⟩
    · exact absurd (parse.accepts_iff.mp accepted) refused
    · exact ⟨front, split, stream, present, stuck, fault,
        fun front' back ps split' stream' => parse.first_stuck split' stream'⟩
  · rintro σ ν p l usual rfl
    exact ⟨fireEnd_eq_concluded usual l, fun l' => source_dispatchAll stream split⟩

/-- What an echoing connection is left with: a heartbeat and a frame, and a
piece of a header behind them or not. -/
theorem fireEnd_parses_exactly_piece_of_header :
    let w : Bytes := [0xDF, 0, 0, 0, 1, 7, 2, 0, 0, 0, 9, 13, 65]
    let ps : List Packet := [.heartbeat, { cmd := 7, flags := 2, session := 9, body := [65] }]
    let p : Pipeline Unit Unit := ((Spec.ofHandler .echo).limitFrames 16).assemble
    let address : Address := .ofIp (.v4 127 0 0 1) (.number 3000)
    let l : Live Unit Unit :=
      { context := { id := 1, remote := address, localAddress := address }, user := (),
        source := w ++ [0, 0] }
    Wire.Stream 16 w ps ∧ drainEnd 16 w = ⟨ps, none, []⟩ ∧
      (¬ ∃ ps, Wire.Stream 16 (w ++ [0, 0]) ps) ∧ Stuck 16 [0, 0] ∧
      (p.fireEnd l).1 = .error (.codec (.truncated 2)) := by
  intro w ps p address l
  have whole : EndRun 16 w ⟨ps, none, []⟩ := .packet rfl (.packet rfl (.ended rfl))
  have pieces : EndRun 16 (w ++ [0, 0]) ⟨ps, some (.truncated 2), [0, 0]⟩ :=
    .packet rfl (.packet rfl (.fault rfl))
  have accepted := ((fireEnd_parses_exactly 16 w).1 _).mp whole
  have stream : Wire.Stream 16 w ps := by
    obtain ⟨units, stream⟩ := (fireEnd_parses_exactly 16 w).2.1.mp (by rw [← accepted])
    have same := (fireEnd_parses_exactly 16 w).2.2.1 units stream
    rw [← accepted, Harvest.mk.injEq] at same
    exact same.1 ▸ stream
  have parsed := ((fireEnd_parses_exactly 16 (w ++ [0, 0])).1 _).mp pieces
  have refused : ¬ ∃ ps, Wire.Stream 16 (w ++ [0, 0]) ps := by
    rw [← (fireEnd_parses_exactly 16 (w ++ [0, 0])).2.1, ← parsed]
    exact Option.some_ne_none _
  obtain ⟨front, -, -, -, stuck, -⟩ :=
    (fireEnd_parses_exactly 16 (w ++ [0, 0])).2.2.2.1 refused
  have handled := ((fireEnd_parses_exactly 16 (w ++ [0, 0])).2.2.2.2 Unit Unit p l rfl rfl).1
  rw [← parsed] at stuck handled
  exact ⟨stream, accepted.symm, refused, stuck, by rw [handled]; rfl⟩

end PacketServer.Pipeline
