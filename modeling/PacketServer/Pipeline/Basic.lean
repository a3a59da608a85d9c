import PacketServer.Wire.Basic
import PacketServer.Text.Record

/-!
# The parts of a pipeline

A connection's application side is a *handler* behind *stages*. All of them
are callbacks: they see the connection's context and a state of their own,
and answer with a `Reaction`. Nothing is assumed of that state, which stages,
handler, decoder and encoder of one connection share, nor of the notes that a
callback may leave in the connection's journal.

What a callback does to the connection is what a reaction has room for: it
uses the context by reading it, by queueing packets and by asking to close, and
the server's work may be cancelled meanwhile. None of these takes anything back. A callback
has the whole context in its hands, however: one that put another context in the
place of its own would thereby drop the queue and a request to close. Such
callbacks are not described.
-/

namespace PacketServer

/-- What every callback of a connection can see. -/
structure Context where
  /-- The connection's number, unique for one run of a server. -/
  id : UInt64
  remote : Address
  localAddress : Address
  /-- The packets that wait for the encoder. -/
  outbound : List Packet := []
  /-- Whether somebody asked to close the connection. -/
  closing : Bool := false
deriving DecidableEq

/-- How many packets wait for the encoder. -/
def Context.pendingWrites (c : Context) : Nat := c.outbound.length

/-- What the operations of a context can do to it: queue packets, and ask to close
if `closes`. -/
def Context.update (c : Context) (writes : List Packet) (closes : Bool) : Context :=
  { c with outbound := c.outbound ++ writes, closing := c.closing || closes }

/-- What happens on a connection, in the order in which it happens. -/
inductive Event (ν : Type)
  /-- The handler is told that the connection is up. -/
  | active (context : Context)
  /-- The handler is given a packet. -/
  | message (context : Context) (packet : Packet)
  /-- The handler is told that the connection is going away. -/
  | inactive (context : Context)
  /-- A stage is given a packet on its way in. -/
  | inbound (stage : String) (context : Context) (packet : Packet)
  /-- A stage is given a packet on its way out. -/
  | outbound (stage : String) (context : Context) (packet : Packet)
  /-- A packet was taken off the bytes that had arrived. -/
  | decoded (packet : Packet)
  /-- The encoder took a packet. -/
  | encoded (packet : Packet)
  /-- A callback left a note. -/
  | note (note : ν)
  /-- The stream took bytes. -/
  | wrote (bytes : Bytes)
  /-- The stream failed to take bytes. -/
  | writeFailed
  /-- The stream was told to pass on what it took. -/
  | flushed
  /-- The stream was shut down. -/
  | shutdown

/-- Whether the event is a call of the handler. -/
def Event.isCallback {ν : Type} : Event ν → Bool
  | .active _ | .message .. | .inactive _ => true
  | _ => false

/-- Whether the event is one of the stream. -/
def Event.isOfStream {ν : Type} : Event ν → Bool
  | .wrote _ | .writeFailed | .flushed | .shutdown => true
  | _ => false

/-- What a callback answers. It uses its context by the operations of `Context.update`
only. -/
structure Reaction (σ ν α : Type) where
  value : α
  /-- The application's state after the call. -/
  state : σ
  /-- The packets that it queued. -/
  writes : List Packet := []
  /-- Whether it asked to close the connection. -/
  closes : Bool := false
  /-- Whether the server's work was cancelled during the call, by it or by others. -/
  cancels : Bool := false
  /-- The notes that it left. -/
  notes : List ν := []

/-- Takes packets off a byte string, with a state of its own. -/
structure Decoder (σ : Type) where
  /-- Takes the packet at the front, more bytes being to come. -/
  decode : σ → Bytes → Wire.Attempt × σ
  /-- Takes the packet at the front, no more bytes being to come. -/
  decodeEnd : σ → Bytes → Wire.Attempt × σ
  /-- A number of bytes that must at least arrive behind those that are there
  before anything is taken; zero if that cannot be told. -/
  lacks : Bytes → Nat := fun _ => 0
  /-- A packet takes at least one byte. -/
  decode_shrinks : ∀ {s src p rest s'},
    decode s src = ((.ok (some p), rest), s') → rest.length < src.length
  /-- A packet takes at least one byte. -/
  decodeEnd_shrinks : ∀ {s src p rest s'},
    decodeEnd s src = ((.ok (some p), rest), s') → rest.length < src.length
  /-- As long as bytes are lacking nothing happens. -/
  decode_of_lacks : ∀ {s src more},
    more.length < lacks src → decode s (src ++ more) = ((.ok none, src ++ more), s) := by
      intro _ _ _ h; exact absurd h (Nat.not_lt_zero _)

theorem Wire.atEnd_packet {attempt : Wire.Attempt} {p : Packet} {rest : Bytes}
    (h : Wire.atEnd attempt = (.ok (some p), rest)) : attempt = (.ok (some p), rest) := by
  unfold Wire.atEnd at h
  split at h
  · simp at h
  · exact h

namespace Decoder

variable {σ : Type}

/-- A decoder without a state of its own, for which what is left at the end of
a stream is at fault. -/
def ofDecode (decode : Bytes → Wire.Attempt) (lacks : Bytes → Nat)
    (shrinks : ∀ {src p rest}, decode src = (.ok (some p), rest) → rest.length < src.length)
    (lacking : ∀ {src more},
      more.length < lacks src → decode (src ++ more) = (.ok none, src ++ more)) :
    Decoder σ where
  decode s src := (decode src, s)
  decodeEnd s src := (Wire.atEnd (decode src), s)
  lacks := lacks
  decode_shrinks h := by
    simp only [Prod.mk.injEq] at h
    exact shrinks h.1
  decodeEnd_shrinks h := by
    simp only [Prod.mk.injEq] at h
    exact shrinks (Wire.atEnd_packet h.1)
  decode_of_lacks h := by rw [lacking h]

/-- The decoder of packets whose bodies have at most `limit` bytes. -/
def packets (limit : Nat) : Decoder σ :=
  ofDecode (Wire.decode limit) (Wire.lacks limit) Wire.decode_rest_of_packet Wire.decode_of_lacks

@[simp] theorem decode_packets (limit : Nat) (s : σ) (src : Bytes) :
    (packets limit).decode s src = (Wire.decode limit src, s) := rfl

@[simp] theorem decodeEnd_packets (limit : Nat) (s : σ) (src : Bytes) :
    (packets limit).decodeEnd s src = (Wire.decodeEnd limit src, s) := rfl

end Decoder

/-- Turns packets into bytes, with a state of its own. -/
structure Encoder (σ : Type) where
  encode : σ → Packet → Except CodecError Bytes × σ

/-- The encoder that decoders of packets undo. -/
def Encoder.packets {σ : Type} : Encoder σ := ⟨fun s p => (Wire.encode p, s)⟩

/-- The way that packets go through a stage. -/
inductive Direction
  | inbound
  | outbound
deriving DecidableEq

/-- A callback that every packet of one direction goes through: it may change
the packet, or keep it from going on. -/
structure Stage (σ ν : Type) where
  name : String
  direction : Direction
  run : Context → σ → Packet → Reaction σ ν (Option Packet)

/-- The application. -/
structure Handler (σ ν : Type) where
  onActive : Context → σ → Reaction σ ν (Except Fault Unit)
  onMessage : Context → σ → Packet → Reaction σ ν (Except Fault Unit)
  onInactive : Context → σ → Reaction σ ν Unit

/-- The handler that sends every packet back. -/
def Handler.echo {σ ν : Type} : Handler σ ν where
  onActive _ s := { value := .ok (), state := s }
  onMessage _ s p := { value := .ok (), state := s, writes := [p] }
  onInactive _ s := { value := (), state := s }

end PacketServer
