import PacketServer.Connection.Stream
import PacketServer.Pipeline.Run

/-!
# What a connection makes of its input

Between two looks at the input a connection is idle: `gate` says whether it
may look again, and `turn` is what it makes of what it finds. A request to
close goes before a cancellation, and both go before input. Encoded bytes are
written after each turn that did not fail. A cancellation is seen by the gate
and nowhere else: the look, the dispatch or the write in which it comes goes on.
-/

namespace PacketServer

/-- Why a connection ended well. -/
inductive CloseReason
  /-- The peer ended its side. -/
  | eof
  /-- A callback asked to close. -/
  | requested
  /-- The server's work was cancelled. -/
  | shutdown
deriving DecidableEq

/-- A connection: its pipeline, its state and the way out of its stream. -/
structure Connection (σ ν : Type) where
  pipeline : Pipeline σ ν
  live : Live σ ν
  stream : Stream

namespace Connection

variable {σ ν : Type}

/-- A connection with a pipeline of its own. -/
def ofSpec (spec : Spec σ ν) (context : Context) (user : σ) (stream : Stream)
    (cancelled : Bool) : Connection σ ν where
  pipeline := spec.assemble
  live := { context := context, user := user, cancelled := cancelled }
  stream := stream

/-- Writes events into the journal. -/
def recordAll (k : Connection σ ν) (events : List (Event ν)) : Connection σ ν :=
  { k with live := { k.live with past := k.live.past ++ events } }

/-- The server's work is cancelled, if `cancels`. -/
def cancelIf (k : Connection σ ν) (cancels : Bool) : Connection σ ν :=
  { k with live := { k.live with cancelled := k.live.cancelled || cancels } }

@[simp] theorem cancelIf_false (k : Connection σ ν) : k.cancelIf false = k := by
  rw [cancelIf, Bool.or_false]

/-- Writes the encoded bytes to the stream and tells it to pass them on. A
cancellation that comes meanwhile breaks neither off. -/
def writeOut (k : Connection σ ν) : Except Fault Unit × Connection σ ν :=
  if k.live.encoded.isEmpty then (.ok (), k)
  else
    let t := Stream.transmit k.stream.writes k.live.sink
    let k := { k with stream := { k.stream with writes := t.writes } }.recordAll t.events
    let k := k.cancelIf t.cancels
    match t.fault with
    | some e => (.error (.io e), k)
    | none =>
      let (fault, cancels, stream) := k.stream.flush
      let k := { k with stream := stream }.recordAll [.flushed]
      let k := k.cancelIf cancels
      match fault with
      | some e => (.error (.io e), k)
      | none => (.ok (), { k with live := { k.live with encoded := #[] } })

/-- Lets the pipeline do something, and if that does not fail, writes out. -/
def advance {α : Type} (act : Pipeline σ ν → Live σ ν → Except Fault α × Live σ ν) :
    Connection σ ν → Except Fault Unit × Connection σ ν
  | ⟨pipeline, live, stream⟩ =>
    match act pipeline live with
    | (.error e, live) => (.error e, ⟨pipeline, live, stream⟩)
    | (.ok _, live) => writeOut ⟨pipeline, live, stream⟩

/-- What happens first: the handler is told that the connection is up. -/
def greet (k : Connection σ ν) : Except Fault Unit × Connection σ ν :=
  k.advance Pipeline.fireActive

/-- Why the connection shall not look at its input again, if it shall not. -/
def gate (k : Connection σ ν) : Option CloseReason :=
  if k.live.context.closing then some .requested
  else if k.live.cancelled then some .shutdown
  else none

/-- What is left at the end of the stream is decoded and dispatched. -/
def endOfStream (k : Connection σ ν) : Except Fault CloseReason × Connection σ ν :=
  match k.advance Pipeline.fireEnd with
  | (.error e, k) => (.error e, k)
  | (.ok (), k) => (.ok .eof, k)

/-- Bytes that arrived are decoded and dispatched. -/
def arrive (k : Connection σ ν) (bytes : Bytes) : Except Fault Unit × Connection σ ν :=
  k.advance fun pipeline live => pipeline.fireRead { live with source := live.source ++ bytes }

/-- What the connection makes of one look at its input: how it ended, if it
did. -/
def turn (k : Connection σ ν) (poll : Poll) :
    Option (Except Fault CloseReason) × Connection σ ν :=
  let k := k.cancelIf poll.cancels
  match poll.answer with
  | none => (none, k)
  | some (.error e) => (some (.error (.io e)), k)
  | some (.ok []) =>
    let (result, k) := k.endOfStream
    (some result, k)
  | some (.ok bytes) =>
    match k.arrive bytes with
    | (.error e, k) => (some (.error e), k)
    | (.ok (), k) => (none, k)

/-- Serves looks at the input, behind which the stream has ended. -/
def attend (k : Connection σ ν) : List Poll → Except Fault CloseReason × Connection σ ν
  | [] =>
    match k.gate with
    | some reason => (.ok reason, k)
    | none => k.endOfStream
  | poll :: polls =>
    match k.gate with
    | some reason => (.ok reason, k)
    | none =>
      match k.turn poll with
      | (some result, k) => (result, k)
      | (none, k) => k.attend polls

end Connection

end PacketServer
