import PacketServer.Proofs.Connection.Output
import PacketServer.Proofs.Pipeline.Frame

/-!
# The course of a connection that is read to its end

A peer's bytes reach a connection in pieces, and behind the last of them the
stream ends. `Delivers` says which looks at the input bring given pieces, and
`Course` lists what a connection with the usual decoder makes of them: it does
not look again, it reads a piece and goes on, a fault is met in a piece, or it
comes to the end of the stream, where bytes that are left are at fault.
`Served` puts the greeting before it.

## Main results

* `attend_course` — serving the looks takes such a course.
* `serve_served` — behind a greeting that does not fail.
-/

namespace PacketServer

variable {σ ν : Type}

/-- Looks at the input bring these pieces, with any waiting between them, and
then the end of the stream. Nothing cancels the server's work meanwhile. -/
inductive Delivers : List Poll → List Bytes → Prop
  | ended : Delivers [] []
  | eof (polls : List Poll) : Delivers ({ answer := some (.ok []) } :: polls) []
  | pending {polls : List Poll} {pieces : List Bytes} (later : Delivers polls pieces) :
      Delivers ({ answer := none } :: polls) pieces
  | read {piece : Bytes} {polls : List Poll} {pieces : List Bytes} (nonempty : piece ≠ [])
      (later : Delivers polls pieces) :
      Delivers ({ answer := some (.ok piece) } :: polls) (piece :: pieces)

namespace Connection

/-- More bytes have arrived. -/
def fed (l : Live σ ν) (piece : Bytes) : Live σ ν := { l with source := l.source ++ piece }

/-- What a connection makes of pieces, behind which the stream ends. -/
inductive Course (limit : Nat) :
    Connection σ ν → List Bytes → Except Fault CloseReason × Connection σ ν → Prop
  | barred {k : Connection σ ν} {pieces : List Bytes} {reason : CloseReason}
      (gate : k.gate = some reason) : Course limit k pieces (.ok reason, k)
  | ended {k k' : Connection σ ν} (gate : k.gate = none) (nothing : k.live.source = [])
      (written : Written k k') : Course limit k [] (.ok .eof, k')
  | truncated {k : Connection σ ν} (gate : k.gate = none)
      (waiting : Wire.Waiting limit k.live.source) (something : k.live.source ≠ []) :
      Course limit k [] (.error (.codec (.truncated k.live.source.length)), k)
  | fault {k : Connection σ ν} {piece : Bytes} {pieces : List Bytes} {e : Fault} {l : Live σ ν}
      (gate : k.gate = none) (read : k.pipeline.fireRead (fed k.live piece) = (.error e, l)) :
      Course limit k (piece :: pieces) (.error e, { k with live := l })
  | passed {k k' : Connection σ ν} {piece : Bytes} {pieces : List Bytes} {n : Nat}
      {l : Live σ ν} {outcome : Except Fault CloseReason × Connection σ ν}
      (gate : k.gate = none) (read : k.pipeline.fireRead (fed k.live piece) = (.ok n, l))
      (written : Written { k with live := l } k') (later : Course limit k' pieces outcome) :
      Course limit k (piece :: pieces) outcome

/-- The connection has the usual decoder, its stream takes what it is given,
and nothing more comes of the bytes that are there. -/
structure Ready (limit : Nat) (k : Connection σ ν) : Prop where
  usual : k.pipeline.decoder = .packets limit
  willing : k.stream.Willing
  settled : Pipeline.Settled limit k.live

/-! ## One look at the input -/

theorem attend_of_gate {k : Connection σ ν} {reason : CloseReason} (gate : k.gate = some reason)
    (polls : List Poll) : k.attend polls = (.ok reason, k) := by
  cases polls with
  | nil => rw [attend, gate]
  | cons poll polls => rw [attend, gate]

theorem attend_nil {k : Connection σ ν} (gate : k.gate = none) :
    k.attend [] = k.endOfStream := by
  rw [attend, gate]

theorem attend_eof {k : Connection σ ν} (gate : k.gate = none) (polls : List Poll) :
    k.attend ({ answer := some (.ok []) } :: polls) = k.endOfStream := by
  have hturn : k.turn { answer := some (.ok []) } = (some k.endOfStream.1, k.endOfStream.2) := by
    simp only [turn, cancelIf_false]
  rw [attend, gate, hturn]

theorem attend_pending {k : Connection σ ν} (gate : k.gate = none) (polls : List Poll) :
    k.attend ({ answer := none } :: polls) = k.attend polls := by
  have hturn : k.turn { answer := none } = (none, k) := by
    simp only [turn, cancelIf_false]
  rw [attend, gate, hturn]

theorem attend_read {k : Connection σ ν} (gate : k.gate = none) {piece : Bytes}
    (nonempty : piece ≠ []) (polls : List Poll) :
    k.attend ({ answer := some (.ok piece) } :: polls) =
      match k.arrive piece with
      | (.error e, k) => (.error e, k)
      | (.ok (), k) => k.attend polls := by
  cases piece with
  | nil => exact absurd rfl nonempty
  | cons b bytes =>
    rw [attend, gate]
    simp only [turn, cancelIf_false]
    rcases k.arrive (b :: bytes) with ⟨e | _, k'⟩
    · rfl
    · rfl

/-- A connection that looks again was not asked to close. -/
theorem open_of_gate {k : Connection σ ν} (gate : k.gate = none) :
    k.live.context.closing = false := by
  cases closing : k.live.context.closing with
  | false => rfl
  | true =>
    rw [Connection.gate, if_pos closing] at gate
    simp at gate

/-- A connection that does not look again was asked to close, unless the
server's work was cancelled. -/
theorem closing_of_gate {k : Connection σ ν} {reason : CloseReason} (gate : k.gate = some reason)
    (uncancelled : k.live.cancelled = false) :
    k.live.context.closing = true ∧ reason = .requested := by
  unfold Connection.gate at gate
  split at gate
  · rename_i closing
    exact ⟨closing, (Option.some.inj gate).symm⟩
  · rw [uncancelled] at gate
    simp at gate

theorem waiting_of_gate {limit : Nat} {k : Connection σ ν} (ready : Ready limit k)
    (gate : k.gate = none) : Wire.Waiting limit k.live.source := by
  rcases ready.settled with closing | waiting
  · rw [open_of_gate gate] at closing
    simp at closing
  · exact waiting

/-- At the end of the stream what was encoded is written, or bytes are left. -/
theorem endOfStream_course {limit : Nat} {k : Connection σ ν} (ready : Ready limit k)
    (gate : k.gate = none) : Course limit k [] k.endOfStream := by
  have waiting := waiting_of_gate ready gate
  have hend := Pipeline.fireEnd_of_waiting ready.usual waiting
  by_cases nothing : k.live.source = []
  · rw [if_pos nothing] at hend
    obtain ⟨k', hwrite, written⟩ := writeOut_of_willing ready.willing
    have hstream : k.endOfStream = (.ok .eof, k') := by
      rw [endOfStream, advance_of_pass hend, hwrite]
    rw [hstream]
    exact .ended gate nothing written
  · rw [if_neg nothing] at hend
    have hstream : k.endOfStream = (.error (.codec (.truncated k.live.source.length)), k) := by
      rw [endOfStream, advance_of_fault hend]
    rw [hstream]
    exact .truncated gate waiting nothing

/-- Writing out leaves a connection ready. -/
theorem Written.ready {limit : Nat} {k k' : Connection σ ν} (written : Written k k')
    (usual : k.pipeline.decoder = .packets limit) (settled : Pipeline.Settled limit k.live) :
    Ready limit k' := by
  obtain ⟨events, -, -, hlive⟩ := written.live
  refine ⟨written.pipeline ▸ usual, written.stream, ?_⟩
  rw [hlive]
  exact settled

/-- **Serving looks at the input takes one of the listed courses.** -/
theorem attend_course {limit : Nat} {k : Connection σ ν} {polls : List Poll}
    {pieces : List Bytes} (ready : Ready limit k) (delivers : Delivers polls pieces) :
    Course limit k pieces (k.attend polls) := by
  -- Each look meets the connection that the looks before it left, so the
  -- connection is any that is ready.
  induction delivers generalizing k with
  | ended =>
    cases gate : k.gate with
    | some reason => rw [attend_of_gate gate]; exact .barred gate
    | none => rw [attend_nil gate]; exact endOfStream_course ready gate
  | eof polls =>
    cases gate : k.gate with
    | some reason => rw [attend_of_gate gate]; exact .barred gate
    | none => rw [attend_eof gate]; exact endOfStream_course ready gate
  | pending later ih =>
    cases gate : k.gate with
    | some reason => rw [attend_of_gate gate]; exact .barred gate
    | none => rw [attend_pending gate]; exact ih ready
  | @read piece polls pieces nonempty later ih =>
    cases gate : k.gate with
    | some reason => rw [attend_of_gate gate]; exact .barred gate
    | none =>
      rw [attend_read gate nonempty]
      rcases read : k.pipeline.fireRead (fed k.live piece) with ⟨e | n, l⟩
      · have harrive : k.arrive piece = (.error e, { k with live := l }) := advance_of_fault read
        rw [harrive]
        exact .fault gate read
      · obtain ⟨k', hwrite, written⟩ :=
          writeOut_of_willing (k := { k with live := l }) ready.willing
        have harrive : k.arrive piece = (.ok (), k') := (advance_of_pass read).trans hwrite
        have settled := Pipeline.fireRead_settled ready.usual read
        rw [harrive]
        exact .passed gate read written (ih (written.ready ready.usual settled))

/-! ## The greeting -/

/-- What a connection makes of the greeting and of pieces, behind which the
stream ends. -/
inductive Served (limit : Nat) (k : Connection σ ν) (pieces : List Bytes) :
    Except Fault CloseReason × Connection σ ν → Prop
  | ungreeted {e : Fault} {l : Live σ ν}
      (greeting : k.pipeline.fireActive k.live = (.error e, l)) :
      Served limit k pieces (.error e, { k with live := l })
  | greeted {l : Live σ ν} {k' : Connection σ ν}
      {outcome : Except Fault CloseReason × Connection σ ν}
      (greeting : k.pipeline.fireActive k.live = (.ok (), l))
      (written : Written { k with live := l } k') (ready : Ready limit k')
      (course : Course limit k' pieces outcome) : Served limit k pieces outcome

/-- Serving a connection greets, and takes a course if the greeting does not
fail. -/
theorem serve_served {limit : Nat} {k : Connection σ ν} {polls : List Poll}
    {pieces : List Bytes} (usual : k.pipeline.decoder = .packets limit)
    (willing : k.stream.Willing) (nothing : k.live.source = [])
    (delivers : Delivers polls pieces) : Served limit k pieces (k.serve polls) := by
  rw [serve_eq]
  rcases greeting : k.pipeline.fireActive k.live with ⟨e | _, l⟩
  · have hgreet : k.greet = (.error e, { k with live := l }) := advance_of_fault greeting
    rw [hgreet]
    exact .ungreeted greeting
  · obtain ⟨k', hwrite, written⟩ := writeOut_of_willing (k := { k with live := l }) willing
    have hgreet : k.greet = (.ok (), k') := (advance_of_pass greeting).trans hwrite
    have hsource : l.source = [] := by
      have hkept := Pipeline.source_fireActive k.pipeline k.live
      rw [greeting, nothing] at hkept
      exact hkept
    have settled : Pipeline.Settled limit l := .inr (hsource ▸ Wire.waiting_nil limit)
    have ready := written.ready usual settled
    rw [hgreet]
    exact .greeted greeting written ready (attend_course ready delivers)

theorem Course.pipeline {limit : Nat} {k : Connection σ ν} {pieces : List Bytes}
    {outcome : Except Fault CloseReason × Connection σ ν}
    (course : Course limit k pieces outcome) : outcome.2.pipeline = k.pipeline := by
  induction course with
  | barred gate => rfl
  | ended gate nothing written => exact written.pipeline
  | truncated gate waiting something => rfl
  | fault gate read => rfl
  | passed gate read written later ih => exact ih.trans written.pipeline

theorem Served.pipeline {limit : Nat} {k : Connection σ ν} {pieces : List Bytes}
    {outcome : Except Fault CloseReason × Connection σ ν}
    (served : Served limit k pieces outcome) : outcome.2.pipeline = k.pipeline := by
  cases served with
  | ungreeted greeting => rfl
  | greeted greeting written ready course => exact course.pipeline.trans written.pipeline

end Connection

end PacketServer
