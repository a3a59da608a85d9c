import PacketServer.Connection.Basic

/-!
# Input of which nothing comes

As long as a connection's decoder lacks bytes nothing comes of those that
arrive, and they can wait. `attendSparingly` serves looks at the input and
puts pieces that waited behind the others at once, where `attend` puts one
after the other.

What is lacking is counted down while pieces wait. That the count, with the
bytes that wait, stays what the decoder lacks is all that the proofs need.

## Main results

* `arrive_receive` — nothing comes of bytes as long as more are lacking.
* `attendSparingly_eq` — letting pieces wait comes to the same.
-/

namespace PacketServer

namespace Connection

variable {σ ν : Type}

/-- The bytes that a look at the input brings, if they are fewer than
`lacking` and nothing else comes of it. -/
def quiet? (lacking : Nat) (poll : Poll) : Option Bytes :=
  if poll.cancels then none
  else
    match poll.answer with
    | none => some []
    | some (.ok (b :: bytes)) => if bytes.length + 1 < lacking then some (b :: bytes) else none
    | _ => none

/-- Whether the connection would look at its input and has nothing to write. -/
def isIdle (k : Connection σ ν) : Bool := k.gate.isNone && k.live.encoded.isEmpty

/-- Pieces that were waiting, the newest of them first, are put behind the
bytes that are there. -/
def receive (k : Connection σ ν) (waiting : List Bytes) : Connection σ ν :=
  { k with live := { k.live with source := k.live.source ++ waiting.reverse.flatten } }

/-- How many bytes the decoder lacks. -/
def lacks (k : Connection σ ν) : Nat := k.pipeline.decoder.lacks k.live.source

/-- Serves looks at the input while pieces are waiting, besides which the
decoder lacks `lacking` bytes. -/
def attendWaiting (k : Connection σ ν) (waiting : List Bytes) (lacking : Nat) :
    List Poll → Except Fault CloseReason × Connection σ ν
  | [] => (k.receive waiting).attend []
  | poll :: polls =>
    match if k.isIdle then quiet? lacking poll else none with
    | some bytes => k.attendWaiting (bytes :: waiting) (lacking - bytes.length) polls
    | none =>
      let k := k.receive waiting
      match k.gate with
      | some reason => (.ok reason, k)
      | none =>
        match k.turn poll with
        | (some result, k) => (result, k)
        | (none, k) => k.attendWaiting [] k.lacks polls

/-- Serves looks at the input and lets those wait of which nothing comes. -/
def attendSparingly (k : Connection σ ν) (polls : List Poll) :
    Except Fault CloseReason × Connection σ ν :=
  k.attendWaiting [] k.lacks polls

theorem receive_nil (k : Connection σ ν) : k.receive [] = k := by
  simp [receive]

theorem receive_cons (k : Connection σ ν) (bytes : Bytes) (waiting : List Bytes) :
    k.receive (bytes :: waiting) = (k.receive waiting).receive [bytes] := by
  simp [receive]

/-- Nothing comes of bytes as long as more are lacking. -/
theorem arrive_receive {k : Connection σ ν} {waiting : List Bytes} {bytes : Bytes}
    (hidle : k.isIdle) (h : (waiting.reverse.flatten ++ bytes).length < k.lacks) :
    (k.receive waiting).arrive bytes = (.ok (), k.receive (bytes :: waiting)) := by
  simp only [isIdle, Bool.and_eq_true] at hidle
  have hopen : k.live.context.closing = false := by
    cases hclosing : k.live.context.closing with
    | false => rfl
    | true => simp [gate, hclosing] at hidle
  have hlacks := k.pipeline.decoder.decode_of_lacks (s := k.live.user) h
  rw [receive_cons]
  simp only [arrive, advance, receive, List.reverse_singleton, List.flatten_singleton]
  rw [Pipeline.fireRead_of_nothing]
  · simp [writeOut, hidle.2]
  · exact hopen
  · simpa only [List.append_assoc] using hlacks

/-- Nothing comes of a quiet look but the bytes that it brings. -/
theorem turn_of_quiet {k : Connection σ ν} {waiting : List Bytes} {lacking : Nat}
    {poll : Poll} {bytes : Bytes} (hidle : k.isIdle) (hquiet : quiet? lacking poll = some bytes)
    (h : waiting.reverse.flatten.length + lacking = k.lacks) :
    (k.receive waiting).turn poll = (none, k.receive (bytes :: waiting)) := by
  obtain ⟨cancels, answer⟩ := poll
  simp only [quiet?] at hquiet
  split at hquiet
  · simp at hquiet
  · rename_i hcancels
    split at hquiet
    · simp only [Option.some.injEq] at hquiet
      subst hquiet
      simp [turn, receive, hcancels]
    · rename_i b tail
      split at hquiet
      · rename_i hfew
        simp only [Option.some.injEq] at hquiet
        subst hquiet
        have harrive : (k.receive waiting).arrive (b :: tail) =
            (.ok (), k.receive ((b :: tail) :: waiting)) := by
          apply arrive_receive hidle
          simp only [List.length_append, List.length_cons]
          omega
        simp only [turn, hcancels, cancelIf_false, harrive]
      · simp at hquiet
    · simp at hquiet

theorem length_of_quiet {lacking : Nat} {poll : Poll} {bytes : Bytes}
    (h : quiet? lacking poll = some bytes) : bytes.length ≤ lacking := by
  unfold quiet? at h
  split at h
  · simp at h
  · split at h
    · simp only [Option.some.injEq] at h
      simp [← h]
    · split at h
      · simp only [Option.some.injEq] at h
        rw [← h, List.length_cons]
        omega
      · simp at h
    · simp at h

theorem attendWaiting_eq (k : Connection σ ν) (waiting : List Bytes) (lacking : Nat)
    (polls : List Poll) (h : waiting.reverse.flatten.length + lacking = k.lacks) :
    k.attendWaiting waiting lacking polls = (k.receive waiting).attend polls := by
  induction polls generalizing k waiting lacking with
  | nil => rfl
  | cons poll polls ih =>
    rw [attendWaiting]
    split
    · rename_i bytes hquiet
      split at hquiet
      · rename_i hidle
        have hgate : (k.receive waiting).gate = none := by
          simp only [isIdle, Bool.and_eq_true, Option.isNone_iff_eq_none] at hidle
          exact hidle.1
        have hlength := length_of_quiet hquiet
        rw [attend, hgate, turn_of_quiet hidle hquiet h]
        apply ih
        simp only [List.reverse_cons, List.flatten_append, List.flatten_singleton,
          List.length_append]
        omega
      · simp at hquiet
    · rw [attend]
      dsimp only
      cases (k.receive waiting).gate with
      | some reason => rfl
      | none =>
        dsimp only
        generalize (k.receive waiting).turn poll = outcome
        obtain ⟨_ | result, k⟩ := outcome
        · dsimp only
          rw [ih _ _ _ (by simp), receive_nil]
        · rfl

/-- Letting looks wait comes to the same. -/
theorem attendSparingly_eq (k : Connection σ ν) (polls : List Poll) :
    k.attendSparingly polls = k.attend polls := by
  rw [attendSparingly, attendWaiting_eq _ _ _ _ (by simp), receive_nil]

end Connection

end PacketServer
