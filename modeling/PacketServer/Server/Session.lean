import PacketServer.Connection.Run

/-!
# A client's session

A connection of a server together with what its client does: it sends bytes,
ends its side, and takes the bytes that the server wrote.

Whenever the connection is not waiting for input it has worked out what
happens next, and its journal says so. The session's clock says how much of
the journal has happened. An event can be a nap, behind which nothing happens
until somebody has waited for as long as it takes; everything else happens at
once.

## Main results

* `remaining_step?` — a step brings a session nearer to its rest.
-/

namespace PacketServer.Server

/-- A connection of a server and its client's side. -/
structure Session (σ ν : Type) where
  /-- The label of the client. -/
  client : Nat
  connection : Connection σ ν
  /-- How many events of the journal have happened. -/
  clock : Nat := 0
  /-- The bytes that the client sent and the server has not read. -/
  inbox : Bytes := []
  /-- Whether the client sends no more. -/
  hungUp : Bool := false
  /-- Whether the connection was served to its end, or dropped. -/
  ended : Bool := false
  /-- How many of the server's bytes the client has taken. -/
  received : Nat := 0
  /-- How many of the events were reported. -/
  reported : Nat := 0

namespace Session

variable {σ ν : Type}

/-- What happens on the connection, as far as it is worked out. -/
def past (s : Session σ ν) : Array (Event ν) := s.connection.live.past

/-- What has happened on the connection. -/
def happened (s : Session σ ν) : List (Event ν) := s.connection.live.journal.take s.clock

/-- The bytes that the client was sent so far. -/
def sent (s : Session σ ν) : Bytes := sentBytes s.happened

/-- Whether the client sees the end of the stream behind what it was sent. -/
def isClosed (s : Session σ ν) : Bool := s.ended && s.past.size ≤ s.clock

/-- How many calls of the handler have happened. -/
def callbacks (s : Session σ ν) : Nat := s.happened.countP (·.isCallback)

/-- The connection ends in the given state: its farewell is worked out. -/
def finish (s : Session σ ν) (k : Connection σ ν) : Session σ ν :=
  { s with connection := k.farewell, inbox := [], ended := true }

/-- The session of a connection that was just accepted. -/
def accept (client : Nat) (k : Connection σ ν) : Session σ ν :=
  let s : Session σ ν := { client := client, connection := k }
  match k.greet with
  | (.error _, k) => s.finish k
  | (.ok (), k) => { s with connection := k }

/-- What the session does next without anybody waiting, if it does something:
an event happens, or behind all events the connection looks at its input. It
reads at most `size` bytes at once. -/
def step? (nap : Event ν → Option Nat) (size : Nat) (s : Session σ ν) :
    Option (Session σ ν) :=
  match s.past[s.clock]? with
  | some event => if (nap event).isSome then none else some { s with clock := s.clock + 1 }
  | none =>
    if s.ended then none
    else if s.connection.gate.isSome then some (s.finish s.connection)
    else
      match s.inbox with
      | [] =>
        if s.hungUp then some (s.finish (s.connection.turn { answer := some (.ok []) }).2)
        else none
      | b :: inbox =>
        let poll : Poll := { answer := some (.ok (b :: inbox.take (size - 1))) }
        match s.connection.turn poll with
        | (some _, k) => some (s.finish k)
        | (none, k) => some { s with connection := k, inbox := inbox.drop (size - 1) }

/-- The nap that keeps the next event from happening. -/
def nap? (nap : Event ν → Option Nat) (s : Session σ ν) : Option Nat :=
  (s.past[s.clock]?).bind nap

/-- What is left to read and to end, and then what is left to happen. -/
def remaining (s : Session σ ν) : Nat × Nat :=
  ((if s.ended then 0 else 1) + s.inbox.length, s.past.size - s.clock)

/-- A step brings a session nearer to its rest. -/
theorem remaining_step? {nap : Event ν → Option Nat} {size : Nat} {s s' : Session σ ν}
    (h : s.step? nap size = some s') : Prod.Lex (· < ·) (· < ·) s'.remaining s.remaining := by
  have finished (k : Connection σ ν) (hended : s.ended = false) :
      Prod.Lex (· < ·) (· < ·) (s.finish k).remaining s.remaining := by
    apply Prod.Lex.left
    simp only [finish, hended, List.length_nil, if_true, Bool.false_eq_true, if_false]
    omega
  unfold step? at h
  split at h
  · rename_i event he
    split at h
    · simp at h
    · rw [← Option.some.inj h]
      obtain ⟨hlt, -⟩ := Array.getElem?_eq_some_iff.mp he
      apply Prod.Lex.right
      show s.past.size - (s.clock + 1) < s.past.size - s.clock
      omega
  · split at h
    · simp at h
    · rename_i hended
      have hended : s.ended = false := by simpa using hended
      split at h
      · rw [← Option.some.inj h]; exact finished _ hended
      · split at h
        · split at h
          · rw [← Option.some.inj h]; exact finished _ hended
          · simp at h
        · rename_i b inbox hin
          dsimp only at h
          split at h
          · rw [← Option.some.inj h]; exact finished _ hended
          · rw [← Option.some.inj h]
            apply Prod.Lex.left
            simp only [hended, hin, List.length_drop, List.length_cons]
            omega

theorem remaining_nap {nap : Event ν → Option Nat} {s : Session σ ν} {ms : Nat}
    (h : s.nap? nap = some ms) :
    Prod.Lex (· < ·) (· < ·) { s with clock := s.clock + 1 }.remaining s.remaining := by
  unfold nap? at h
  obtain ⟨event, he, -⟩ := Option.bind_eq_some_iff.mp h
  obtain ⟨hlt, -⟩ := Array.getElem?_eq_some_iff.mp he
  apply Prod.Lex.right
  show s.past.size - (s.clock + 1) < s.past.size - s.clock
  omega

/-- Somebody waits until what is wanted has come about and the session does
nothing more by itself, but not longer than `patience` milliseconds. -/
def waitFor (nap : Event ν → Option Nat) (size : Nat) (wanted : Session σ ν → Bool)
    (patience : Nat) (s : Session σ ν) : Session σ ν :=
  match h : s.step? nap size with
  | some s' =>
    have := remaining_step? h
    waitFor nap size wanted patience s'
  | none =>
    match h : s.nap? nap with
    | some ms =>
      have := remaining_nap h
      if wanted s || patience < ms then s
      else waitFor nap size wanted (patience - ms) { s with clock := s.clock + 1 }
    | none => s
termination_by s.remaining
decreasing_by all_goals assumption

/-- The server's work is cancelled. -/
def cancel (s : Session σ ν) : Session σ ν :=
  { s with connection.live.cancelled := true }

/-- The connection is dropped: what has not happened does not happen. -/
def drop (s : Session σ ν) : Session σ ν :=
  { s with connection.live.past := s.past.take s.clock, inbox := [], ended := true }

/-! ## The client's side -/

/-- The client sends bytes. -/
def send (s : Session σ ν) (bytes : Bytes) : Session σ ν :=
  if s.ended then s else { s with inbox := s.inbox ++ bytes }

/-- The client sends no more. -/
def hangUp (s : Session σ ν) : Session σ ν := { s with hungUp := true }

/-- What a client wants to read. -/
inductive Want
  | bytes (n : Nat)
  | toEnd
deriving DecidableEq

/-- How reading ended. -/
inductive ReadEnd
  /-- All that was wanted is there. -/
  | complete
  /-- The stream has ended. -/
  | closed
  | timeout
deriving DecidableEq

/-- Whether a client need not wait for what it wants to read. -/
def canRead (s : Session σ ν) : Want → Bool
  | .bytes n => s.received + n ≤ s.sent.length || s.isClosed
  | .toEnd => s.isClosed

/-- The client takes what it wants to read, as far as it is there. -/
def read (s : Session σ ν) (want : Want) : Bytes × ReadEnd × Session σ ν :=
  let there := s.sent.drop s.received
  let (bytes, complete) := match want with
    | .bytes n => (there.take n, decide (n ≤ there.length))
    | .toEnd => (there, false)
  let how := if complete then .complete else if s.isClosed then .closed else .timeout
  (bytes, how, { s with received := s.received + bytes.length })

/-- The events that were not reported before. -/
def news (s : Session σ ν) : List (Event ν) := s.happened.drop s.reported

/-- Everything that has happened is reported. -/
def report (s : Session σ ν) : Session σ ν := { s with reported := s.clock }

end Session

end PacketServer.Server
