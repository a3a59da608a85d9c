import PacketServer.Connection.Waiting
import PacketServer.BufferPool.Basic

/-!
# The life of a connection

A connection borrows two buffers, serves until its stream ends, a callback
asks to close, the server's work is cancelled or something fails, says
farewell to its handler, shuts its stream down and gives the buffers back.

What stands in the two buffers is in the connection's state: in the one the
bytes that arrived and were not taken yet, in the other those that were encoded
and not sent yet. A new connection has neither, and an acquired buffer is empty.

## Main results

* `serve_eq` — after the greeting one look at the input is served after the
  other.
* `run_outstanding` — a run leaves as many buffers out as it found.
-/

namespace PacketServer

namespace Connection

variable {σ ν : Type}

/-- From the greeting to the end. -/
def serve (k : Connection σ ν) (polls : List Poll) :
    Except Fault CloseReason × Connection σ ν :=
  match k.greet with
  | (.error e, k) => (.error e, k)
  | (.ok (), k) => k.attendSparingly polls

/-- After the greeting one look at the input is served after the other. -/
theorem serve_eq (k : Connection σ ν) (polls : List Poll) :
    k.serve polls = match k.greet with
      | (.error e, k) => (.error e, k)
      | (.ok (), k) => k.attend polls := by
  simp only [serve, attendSparingly_eq]

/-- The farewell to the handler, and the end of the stream. Whether shutting
the stream down fails does not matter any more. -/
def farewell (k : Connection σ ν) : Connection σ ν :=
  { k with live := k.pipeline.fireInactive k.live }.recordAll [.shutdown]

/-- The room that the two buffers have in the end, by the room that they were
lent with. It depends on how byte buffers allocate and on whether bodies that
were cut out of the one for reading are still held, so any will do. -/
structure Growth where
  read : Nat → Nat := id
  write : Nat → Nat := id

/-- What was made of the buffer that was lent for reading. -/
def readBuffer (k : Connection σ ν) (growth : Growth) (lent : Buffer) : Buffer :=
  { data := k.live.source, capacity := growth.read lent.capacity }

/-- What was made of the buffer that was lent for writing. -/
def writeBuffer (k : Connection σ ν) (growth : Growth) (lent : Buffer) : Buffer :=
  { data := k.live.sink, capacity := growth.write lent.capacity }

/-- A whole life, on buffers of a pool. The buffer that was lent last goes back
first. -/
def run (k : Connection σ ν) (polls : List Poll) (pool : BufferPool) (growth : Growth := {}) :
    Except Fault CloseReason × Connection σ ν × BufferPool :=
  let (forReading, pool) := pool.acquire
  let (forWriting, pool) := pool.acquire
  let (result, k) := k.serve polls
  let k := k.farewell
  let pool := pool.release (k.writeBuffer growth forWriting)
  (result, k, pool.release (k.readBuffer growth forReading))

/-- A run leaves as many buffers out as it found. -/
theorem run_outstanding (k : Connection σ ν) (polls : List Poll) (pool : BufferPool)
    (growth : Growth) : (k.run polls pool growth).2.2.outstanding = pool.outstanding := by
  simp [run]

/-- A connection in a log. -/
def text (k : Connection σ ν) : String :=
  Text.record "Connection"
    [("id", toString k.live.context.id.toNat),
      ("remote_addr", k.live.context.remote.text), ("pipeline", k.pipeline.text)]

end Connection

end PacketServer
