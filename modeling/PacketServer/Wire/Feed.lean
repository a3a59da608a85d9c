import PacketServer.Wire.Basic

/-!
# Decoding a stream piece by piece

`drain` takes packets off a buffer until no whole packet is left or a fault
is met. `feed` does so with a buffer that grows by one piece after the other
and stops for good at the first fault. `drainEnd` takes packets off a buffer
to which nothing will be added.

`feedSparingly` does what `feed` does without looking at a growing buffer
after every piece: pieces wait as long as there cannot be anything to take.

## Main results

* `feedSparingly_eq` — it comes to the same.
-/

namespace PacketServer.Wire

/-- What taking packets off a buffer came to: the packets, the fault that
ended it if one did, and the bytes left. -/
structure Harvest where
  packets : List Packet
  fault : Option CodecError
  rest : Bytes
deriving DecidableEq

/-- A packet taken before all others of a harvest. -/
def Harvest.cons (p : Packet) (h : Harvest) : Harvest := { h with packets := p :: h.packets }

/-- Takes packets until there is none or a fault is met. -/
def drain (limit : Nat) (src : Bytes) : Harvest :=
  match h : decode limit src with
  | (.ok none, rest) => ⟨[], none, rest⟩
  | (.error e, rest) => ⟨[], some e, rest⟩
  | (.ok (some p), rest) =>
    have : rest.length < src.length := decode_rest_of_packet h
    (drain limit rest).cons p
termination_by src.length

/-- Takes packets off a buffer that stays as it is, until it is empty or a
fault is met. -/
def drainEnd (limit : Nat) (src : Bytes) : Harvest :=
  match h : decodeEnd limit src with
  | (.ok none, rest) => ⟨[], none, rest⟩
  | (.error e, rest) => ⟨[], some e, rest⟩
  | (.ok (some p), rest) =>
    have : rest.length < src.length := decodeEnd_rest_of_packet h
    (drainEnd limit rest).cons p
termination_by src.length

/-- Puts the pieces behind `buffer` one by one, each time taking what packets
there are; the first fault ends it. -/
def feed (limit : Nat) : (buffer : Bytes) → (pieces : List Bytes) → Harvest
  | buffer, [] => ⟨[], none, buffer⟩
  | buffer, piece :: pieces =>
    let here := drain limit (buffer ++ piece)
    match here.fault with
    | some _ => here
    | none =>
      let later := feed limit here.rest pieces
      { later with packets := here.packets ++ later.packets }

/-- Feeds pieces behind `buffer` and the pieces that are waiting, the newest of
them first. At least `lacking` more bytes must arrive before there is
something to take. -/
def feedWaiting (limit : Nat) :
    (buffer : Bytes) → (waiting : List Bytes) → (lacking : Nat) → List Bytes → Harvest
  | buffer, waiting, _, [] => ⟨[], none, buffer ++ waiting.reverse.flatten⟩
  | buffer, waiting, lacking, piece :: pieces =>
    if piece.length < lacking then
      feedWaiting limit buffer (piece :: waiting) (lacking - piece.length) pieces
    else
      let here := drain limit (buffer ++ (piece :: waiting).reverse.flatten)
      match here.fault with
      | some _ => here
      | none =>
        let later := feedWaiting limit here.rest [] (lacks limit here.rest) pieces
        { later with packets := here.packets ++ later.packets }

/-- Feeds pieces behind a buffer. -/
def feedSparingly (limit : Nat) (buffer : Bytes) (pieces : List Bytes) : Harvest :=
  feedWaiting limit buffer [] (lacks limit buffer) pieces

theorem drain_of_lacks {limit : Nat} {src more : Bytes} (h : more.length < lacks limit src) :
    drain limit (src ++ more) = ⟨[], none, src ++ more⟩ := by
  have hd := decode_of_lacks h
  rw [drain]
  split
  · rename_i e; rw [hd] at e; simp_all
  · rename_i e; rw [hd] at e; simp at e
  · rename_i e; rw [hd] at e; simp at e

theorem feedWaiting_eq (limit : Nat) (pieces waiting : List Bytes) (buffer : Bytes)
    (lacking : Nat) (h : waiting.reverse.flatten.length + lacking = lacks limit buffer) :
    feedWaiting limit buffer waiting lacking pieces =
      feed limit (buffer ++ waiting.reverse.flatten) pieces := by
  induction pieces generalizing buffer waiting lacking with
  | nil => rfl
  | cons piece pieces ih =>
    have hcons : (piece :: waiting).reverse.flatten = waiting.reverse.flatten ++ piece := by
      simp
    rw [feedWaiting, feed, List.append_assoc, ← hcons]
    split
    · rename_i hwait
      have hlen : (piece :: waiting).reverse.flatten.length =
          waiting.reverse.flatten.length + piece.length := by
        rw [hcons, List.length_append]
      rw [drain_of_lacks (by omega), ih _ _ _ (by omega)]
      simp
    · generalize drain limit _ = here
      dsimp only
      cases here.fault with
      | some _ => rfl
      | none =>
        dsimp only
        rw [ih _ _ _ (by simp)]
        simp

/-- Letting pieces wait comes to the same. -/
theorem feedSparingly_eq (limit : Nat) (buffer : Bytes) (pieces : List Bytes) :
    feedSparingly limit buffer pieces = feed limit buffer pieces := by
  rw [feedSparingly, feedWaiting_eq _ _ _ _ _ (by simp)]
  simp

end PacketServer.Wire
