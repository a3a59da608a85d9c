import PacketServer.Fault
import PacketServer.Text.Record

/-!
# Being told how an operation ended

A *listener* is told how an operation ended: with a value or with the fault
that caused it to fail. A *completion channel* turns being told into a value
that can be waited for. It has a listener half and a receiver half, each of
which can be given up. Only the first outcome counts; a listener half that is
given up untold has *abandoned* the receiver.

## Main results

* `notify_told` — an outcome counts only if it is the first.
-/

namespace PacketServer

/-- How an operation ended. -/
abbrev Outcome (α : Type) := Except Fault α

namespace Completion

/-- What the receiver half still expects. -/
inductive Receiver
  /-- Nothing has been taken yet. -/
  | waiting
  /-- An outcome, or the abandonment, has been taken. -/
  | finished
  /-- The half was given up or used up. -/
  | gone
deriving DecidableEq

/-- A completion channel. -/
structure Channel (α : Type) where
  /-- The first outcome that the listener half was told. -/
  told : Option (Outcome α)
  /-- Whether the listener half is held. -/
  listening : Bool
  receiver : Receiver

/-- A channel of which both halves are held. -/
def Channel.fresh {α : Type} : Channel α := ⟨none, true, .waiting⟩

/-- What can be done with a channel. -/
inductive Op (α : Type)
  | notify (outcome : Outcome α)
  | dropListener
  | dropReceiver
  /-- Takes the outcome if it is there. -/
  | tryRecv
  /-- Uses up the receiver half to wait for the outcome. -/
  | wait

/-- What an operation answers. -/
inductive Answer (α : Type)
  | nothing
  | outcome (o : Outcome α)
  /-- The outcome is not there yet. -/
  | pending
  | noReceiver
  /-- Waiting would not end, or there is nobody to wait. -/
  | wouldBlock
  /-- The receiver half was waited on although it had finished. -/
  | misuse

/-- The fault that the receiver of an abandoned channel is given. -/
def abandoned : Fault := .other "listener dropped without completing"

variable {α : Type}

/-- Tells the listener half an outcome, if it is held. -/
def Channel.notify (c : Channel α) (outcome : Outcome α) : Channel α :=
  if c.listening then { c with told := c.told.or (some outcome) } else c

/-- Whether the listener half has been told an outcome. -/
def Channel.isCompleted (c : Channel α) : Bool := c.told.isSome

/-- What is there for the receiver to take: nothing yet, the first outcome, or
the abandonment. -/
def Channel.ready (c : Channel α) : Option (Outcome α) :=
  match c.told with
  | some outcome => some outcome
  | none => if c.listening then none else some (.error abandoned)

/-- Takes the outcome if it is there. A finished receiver finds the channel
abandoned. -/
def Channel.tryRecv (c : Channel α) : Answer α × Channel α :=
  match c.receiver with
  | .gone => (.noReceiver, c)
  | .finished => (.outcome (.error abandoned), c)
  | .waiting =>
    match c.ready with
    | none => (.pending, c)
    | some outcome => (.outcome outcome, { c with receiver := .finished })

/-- Uses up the receiver half to wait for the outcome. A finished receiver
must not be waited on. -/
def Channel.wait (c : Channel α) : Answer α × Channel α :=
  match c.receiver with
  | .gone => (.wouldBlock, c)
  | .finished => (.misuse, { c with receiver := .gone })
  | .waiting =>
    match c.ready with
    | none => (.wouldBlock, c)
    | some outcome => (.outcome outcome, { c with receiver := .gone })

/-- One operation. -/
def Channel.step (c : Channel α) : Op α → Answer α × Channel α
  | .notify outcome => (.nothing, c.notify outcome)
  | .dropListener => (.nothing, { c with listening := false })
  | .dropReceiver => (.nothing, { c with receiver := .gone })
  | .tryRecv => c.tryRecv
  | .wait => c.wait

/-- The answers to a sequence of operations, and the channel after it. -/
def Channel.run (c : Channel α) : List (Op α) → List (Answer α) × Channel α
  | [] => ([], c)
  | op :: ops =>
    let (answer, c) := c.step op
    let (answers, c) := c.run ops
    (answer :: answers, c)

/-- The first outcome stays. -/
theorem notify_told (c : Channel α) (outcome : Outcome α) :
    (c.notify outcome).told =
      if c.listening then some (c.told.getD outcome) else c.told := by
  unfold Channel.notify
  split
  · cases c.told <;> rfl
  · rfl

/-- The listener half in a log. -/
def Channel.listenerText (c : Channel α) : Option String :=
  if c.listening then
    some (Text.record "Completion" [("completed", Text.truth c.isCompleted)])
  else none

/-- The receiver half in a log. -/
def Channel.receiverText (c : Channel α) : Option String :=
  if c.receiver = .gone then none else some (Text.closedRecord "CompletionReceiver")

/-- A listener made of two functions in a log. -/
def callbackText : String := Text.closedRecord "FnListener"

/-! ## Listeners -/

/-- Who is told an outcome. -/
inductive Listener
  /-- The channel's listener half. -/
  | half
  /-- A listener made of two functions, which hears every outcome. -/
  | callback
  /-- Nobody. -/
  | nobody
deriving DecidableEq

/-- A channel beside a listener made of two functions. -/
structure Desk (α : Type) where
  channel : Channel α := .fresh
  /-- What the listener made of two functions has heard. -/
  heard : List (Outcome α) := []

/-- Tells one listener an outcome. -/
def Desk.tell (d : Desk α) (listener : Listener) (outcome : Outcome α) : Desk α :=
  match listener with
  | .half => { d with channel := d.channel.notify outcome }
  | .callback => { d with heard := d.heard ++ [outcome] }
  | .nobody => d

end Completion

end PacketServer
