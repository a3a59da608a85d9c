import PacketServer.Proofs.Wire.Outcome

/-!
# Cutting a stream into pieces

A stream reaches a decoder in pieces that a network chooses. This module
shows that the choice does not matter, for bytes of any kind: the packets, the
fault that ends them and the bytes left are those of draining the whole stream
at once.

Feeding by pieces stops looking at the first fault, where draining the whole
keeps all bytes behind it. `Harvest.Agrees` therefore compares the bytes left
only if there is no fault. A fault itself is final: attempts behind it meet it
again and again (`attempts_of_fault`).

## Main results

* `feed_agrees_drain` — feeding pieces comes to the same as draining them
  all at once.
* `feed_agrees_of_flatten_eq` — two ways of cutting the same bytes come to
  the same, and a fault is final.
-/

namespace PacketServer.Wire

/-- Two harvests have the same packets and the same fault and, unless there is
one, leave the same bytes. -/
structure Harvest.Agrees (a b : Harvest) : Prop where
  packets : a.packets = b.packets
  fault : a.fault = b.fault
  rest : a.fault = none → a.rest = b.rest

namespace Harvest.Agrees

theorem symm {a b : Harvest} (h : a.Agrees b) : b.Agrees a :=
  ⟨h.packets.symm, h.fault.symm, fun hb => (h.rest (h.fault.trans hb)).symm⟩

theorem trans {a b c : Harvest} (h : a.Agrees b) (h' : b.Agrees c) : a.Agrees c :=
  ⟨h.packets.trans h'.packets, h.fault.trans h'.fault,
    fun ha => (h.rest ha).trans (h'.rest (h.fault ▸ ha))⟩

end Harvest.Agrees

/-! ## Feeding is draining -/

theorem feed_of_fault {limit : Nat} {buffer piece : Bytes} {e : CodecError}
    (h : (drain limit (buffer ++ piece)).fault = some e) (pieces : List Bytes) :
    feed limit buffer (piece :: pieces) = drain limit (buffer ++ piece) := by
  simp only [feed, h]

theorem feed_of_no_fault {limit : Nat} {buffer piece : Bytes}
    (h : (drain limit (buffer ++ piece)).fault = none) (pieces : List Bytes) :
    feed limit buffer (piece :: pieces) =
      { feed limit (drain limit (buffer ++ piece)).rest pieces with
        packets := (drain limit (buffer ++ piece)).packets ++
          (feed limit (drain limit (buffer ++ piece)).rest pieces).packets } := by
  simp only [feed, h]

/-- Feeding pieces behind bytes that are waiting comes to the same as draining
all of them at once. -/
theorem feed_agrees_drain {limit : Nat} {buffer : Bytes} (pieces : List Bytes)
    (h : Waiting limit buffer) :
    (feed limit buffer pieces).Agrees (drain limit (buffer ++ pieces.flatten)) := by
  -- The buffer is waiting whenever a piece comes; `waiting_drain` keeps it so.
  induction pieces generalizing buffer with
  | nil =>
    rw [feed, List.flatten_nil, List.append_nil, drain_of_waiting h]
    exact ⟨rfl, rfl, fun _ => rfl⟩
  | cons piece pieces ih =>
    rw [List.flatten_cons, ← List.append_assoc, drain_append limit (buffer ++ piece)]
    cases hfault : (drain limit (buffer ++ piece)).fault with
    | some e =>
      rw [feed_of_fault hfault, Harvest.andThen_of_fault hfault]
      exact ⟨rfl, rfl, fun hnone => absurd hnone (by simp [hfault])⟩
    | none =>
      have later := ih (waiting_drain hfault)
      rw [feed_of_no_fault hfault, Harvest.andThen_of_no_fault hfault]
      exact ⟨by rw [later.packets], later.fault, later.rest⟩

/-- A fault that ended feeding is met again at the bytes left. -/
theorem decode_feed_rest {limit : Nat} {buffer : Bytes} {pieces : List Bytes} {e : CodecError}
    (h : (feed limit buffer pieces).fault = some e) :
    decode limit (feed limit buffer pieces).rest =
      (.error e, (feed limit buffer pieces).rest) := by
  induction pieces generalizing buffer with
  | nil => simp [feed] at h
  | cons piece pieces ih =>
    cases hfault : (drain limit (buffer ++ piece)).fault with
    | some e' =>
      rw [feed_of_fault hfault] at h ⊢
      exact decode_drain_rest h
    | none =>
      rw [feed_of_no_fault hfault] at h ⊢
      exact ih h

/-! ## Attempts behind a fault -/

/-- Puts pieces behind `buffer` one by one and tries to take one packet after
each of them: the answers, and the bytes left. -/
def attempts (limit : Nat) :
    (buffer : Bytes) → (pieces : List Bytes) → List (Except CodecError (Option Packet)) × Bytes
  | buffer, [] => ([], buffer)
  | buffer, piece :: pieces =>
    let (answer, rest) := decode limit (buffer ++ piece)
    let (answers, rest) := attempts limit rest pieces
    (answer :: answers, rest)

/-- Once an attempt has met a fault, all later ones meet the same fault and
take nothing, whatever arrives. -/
theorem attempts_of_fault {limit : Nat} {src rest : Bytes} {e : CodecError}
    (h : decode limit src = (.error e, rest)) (pieces : List Bytes) :
    attempts limit rest pieces = (pieces.map fun _ => .error e, rest ++ pieces.flatten) := by
  induction pieces generalizing src rest with
  | nil => simp [attempts]
  | cons piece pieces ih =>
    obtain ⟨hrest, hnext⟩ := decode_append_fault piece h
    subst hrest
    simp only [attempts, hnext, ih hnext, List.map_cons, List.flatten_cons, List.append_assoc]

/-- **What a decoder makes of a stream does not depend on how the stream is
cut**, and a fault is final. -/
theorem feed_agrees_of_flatten_eq (limit : Nat) (cut other : List Bytes)
    (same : cut.flatten = other.flatten) :
    (feed limit [] cut).Agrees (feed limit [] other) ∧
      (∀ e, (feed limit [] cut).fault = some e → ∀ pieces,
        attempts limit (feed limit [] cut).rest pieces =
          (pieces.map fun _ => .error e, (feed limit [] cut).rest ++ pieces.flatten)) ∧
      ∀ src rest e, decode limit src = (.error e, rest) → ∀ pieces,
        attempts limit rest pieces = (pieces.map fun _ => .error e, rest ++ pieces.flatten) := by
  have hcut := feed_agrees_drain cut (waiting_nil limit)
  have hother := feed_agrees_drain other (waiting_nil limit)
  rw [same] at hcut
  refine ⟨hcut.trans hother.symm, ?_, ?_⟩
  · intro e hfault pieces
    exact attempts_of_fault (decode_feed_rest hfault) pieces
  · intro src rest e hfault pieces
    exact attempts_of_fault hfault pieces

/-- A heartbeat and a frame with a wrong check byte, in three pieces and byte
by byte with an empty piece among them. -/
theorem feed_agrees_damaged_frame :
    let bytes : Bytes := [0xDF, 0, 0, 0, 1, 7, 0, 0, 0, 0, 0, 0, 65]
    let cut := [bytes.take 5, [], bytes.drop 5]
    let other := bytes.map fun b => [b]
    cut.flatten = other.flatten ∧ (feed 16 [] cut).Agrees (feed 16 [] other) :=
  ⟨by decide, (feed_agrees_of_flatten_eq 16 _ _ (by decide)).1⟩

end PacketServer.Wire
