import PacketServer.Pipeline.Basic

/-!
# The stream of a connection

What a stream does is a script: what each look at its input finds, how much
each writing call accepts, how flushing and shutting down end. Anything that
a peer, a network and a scheduler can do to a connection is such a script.

Writing a byte string goes on until all of it is accepted; a call that
accepts nothing fails the whole.

The server's work may be cancelled at any time. A cancellation that comes while
a connection looks at its input, writes or flushes stands in the script of what
it does then; callbacks and `Connection.ofSpec` have the others.

## Main results

* `sentBytes_transmit` — the bytes accepted are a front part of those given,
  and all of them if writing does not fail.
-/

namespace PacketServer

/-- What one look at a stream's input finds. -/
structure Poll where
  /-- Whether the server's work is cancelled in the middle of the look: a
  cancellation that was there before keeps the connection from looking. -/
  cancels : Bool := false
  /-- What is there: nothing yet, bytes (none at the end of the stream), or a
  fault. -/
  answer : Option (Except IoError Bytes)

/-- What one writing call does. -/
inductive WriteStep
  /-- Takes at most so many bytes. -/
  | accept (n : Nat)
  /-- Is not ready and is called again. -/
  | pending
  /-- Is not ready and is called again, the server's work being cancelled
  meanwhile. -/
  | cancel
  | fail (e : IoError)
deriving DecidableEq

/-- The way out of a stream. Calls beyond a script succeed, and nothing is
cancelled meanwhile. -/
structure Stream where
  writes : List WriteStep := []
  flushes : List (Option IoError) := []
  /-- Whether the server's work is cancelled in the middle of a flush, flush by
  flush. -/
  flushCancels : List Bool := []
  shutdown : Option IoError := none
deriving DecidableEq

namespace Stream

variable {ν : Type}

/-- The fault of a stream that accepts nothing. -/
def nothingAccepted : IoError := .ofKind .writeZero

/-- What writing a byte string came to: its fault, whether the server's work
was cancelled meanwhile, the events, and the script that is left. -/
structure Transmission (ν : Type) where
  fault : Option IoError := none
  cancels : Bool := false
  events : List (Event ν)
  writes : List WriteStep

/-- An event before all others of a transmission. -/
def Transmission.after (t : Transmission ν) (e : Event ν) : Transmission ν :=
  { t with events := e :: t.events }

/-- Writes all of a byte string. -/
def transmit : List WriteStep → Bytes → Transmission ν
  | writes, [] => { events := [], writes := writes }
  | [], bytes => { events := [.wrote bytes], writes := [] }
  | .pending :: writes, bytes => transmit writes bytes
  | .cancel :: writes, bytes => { transmit writes bytes with cancels := true }
  | .fail e :: writes, _ => { fault := some e, events := [.writeFailed], writes := writes }
  | .accept n :: writes, bytes =>
    if n = 0 then
      { fault := some nothingAccepted, events := [.wrote []], writes := writes }
    else (transmit writes (bytes.drop n)).after (.wrote (bytes.take n))

/-- Tells the stream to pass on what it took: whether it fails, and whether the
server's work is cancelled meanwhile. -/
def flush (s : Stream) : Option IoError × Bool × Stream :=
  (s.flushes.head?.join, s.flushCancels.headD false,
    { s with flushes := s.flushes.tail, flushCancels := s.flushCancels.tail })

end Stream

/-- The bytes that a stream took, by the journal. -/
def sentBytes {ν : Type} : List (Event ν) → Bytes
  | [] => []
  | .wrote bytes :: events => bytes ++ sentBytes events
  | _ :: events => sentBytes events

theorem sentBytes_append {ν : Type} (a b : List (Event ν)) :
    sentBytes (a ++ b) = sentBytes a ++ sentBytes b := by
  induction a with
  | nil => rfl
  | cons e a ih => cases e <;> simp [sentBytes, ih]

/-- Writing accepts a front part, and everything unless it fails. -/
theorem sentBytes_transmit {ν : Type} (writes : List WriteStep) (bytes : Bytes) :
    let t := Stream.transmit writes bytes (ν := ν)
    sentBytes t.events <+: bytes ∧ (t.fault = none → sentBytes t.events = bytes) := by
  induction writes generalizing bytes with
  | nil => cases bytes <;> simp [Stream.transmit, sentBytes]
  | cons w writes ih =>
    cases bytes with
    | nil => simp [Stream.transmit, sentBytes]
    | cons b bytes =>
      cases w with
      | pending => simpa [Stream.transmit] using ih (b :: bytes)
      | cancel => simpa [Stream.transmit] using ih (b :: bytes)
      | fail e => simp [Stream.transmit, sentBytes]
      | accept n =>
        by_cases hn : n = 0
        · simp [Stream.transmit, sentBytes, hn]
        · obtain ⟨hp, he⟩ := ih ((b :: bytes).drop n)
          simp only [Stream.transmit, hn, if_false, Stream.Transmission.after, sentBytes]
          constructor
          · obtain ⟨tail, htail⟩ := hp
            exact ⟨tail, by rw [List.append_assoc, htail, List.take_append_drop]⟩
          · intro hf
            rw [he hf, List.take_append_drop]

/-! ## Scripts of input -/

/-- One entry of a scripted input. -/
inductive ReadStep
  /-- Bytes arrive; in the middle of the look that finds the first of them the
  server's work may be cancelled. -/
  | data (bytes : Bytes) (cancels : Bool)
  | eof
  /-- Nothing is there yet. -/
  | pending
  /-- Nothing is there yet, and the server's work is cancelled meanwhile. -/
  | cancel
  | fail (e : IoError)
deriving DecidableEq

namespace ReadStep

/-- The looks at the input that an entry is: bytes arrive in pieces of at most
`size`; no bytes are the end of the stream. -/
def polls (size : Nat) : ReadStep → List Poll
  | data bytes cancels =>
    match Bytes.pieces size bytes with
    | [] => [{ cancels := cancels, answer := some (.ok []) }]
    | piece :: pieces =>
      { cancels := cancels, answer := some (.ok piece) } ::
        pieces.map fun piece => { answer := some (.ok piece) }
  | eof => [{ answer := some (.ok []) }]
  | pending => [{ answer := none }]
  | cancel => [{ cancels := true, answer := none }]
  | fail e => [{ answer := some (.error e) }]

end ReadStep

end PacketServer
