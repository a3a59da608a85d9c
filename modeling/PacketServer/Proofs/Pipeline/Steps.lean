import PacketServer.Proofs.Pipeline.Trail

/-!
# What a pipeline does, step by step

Whatever a pipeline does to a connection is made of nine kinds of steps: a
callback is called and its reaction takes effect, the queue is emptied, a
packet is encoded or cannot be, a packet is taken off the bytes that arrived
or none is. `Step` lists them, and an operation is shown once to be a sequence of
them.

A property that each step keeps is therefore kept by the operation, and to prove
it takes nine cases and no look at an operation.

## Main results

* `Steps.invariant` — what steps keep, sequences of them keep.
* `fireRead_steps`, `fireActive_steps`, `fireInactive_steps` — the operations are
  sequences of steps.
* `Steps.cancelled` — a cancellation is never taken back.
-/

namespace PacketServer

namespace Pipeline

variable {σ ν : Type}

/-- What a pipeline does to a connection at a time. -/
inductive Step (p : Pipeline σ ν) : Live σ ν → Live σ ν → Prop
  | offered {l : Live σ ν} {stage : Stage σ ν} (packet : Packet)
      (member : stage ∈ p.inbound ∨ stage ∈ p.outbound) :
      Step p l ((l.record (stageEvent stage l.context packet)).absorb
        (stage.run l.context l.user packet))
  | message (l : Live σ ν) (packet : Packet) :
      Step p l ((l.record (.message l.context packet)).absorb
        (p.handler.onMessage l.context l.user packet))
  | active (l : Live σ ν) :
      Step p l ((l.record (.active l.context)).absorb (p.handler.onActive l.context l.user))
  | inactive (l : Live σ ν) :
      Step p l ((l.record (.inactive l.context)).absorb (p.handler.onInactive l.context l.user))
  | dequeued (l : Live σ ν) :
      Step p l { l with context := { l.context with outbound := [] } }
  | encoded {l : Live σ ν} {packet : Packet} {bytes : Bytes} {user : σ}
      (encodes : p.encoder.encode l.user packet = (.ok bytes, user)) :
      Step p l ((Live.emit { l with user := user } bytes).record (.encoded packet))
  | refused {l : Live σ ν} {packet : Packet} {e : CodecError} {user : σ}
      (refuses : p.encoder.encode l.user packet = (.error e, user)) :
      Step p l { l with user := user }
  | taken {l : Live σ ν} {packet : Packet} {rest : Bytes} {user : σ}
      (takes : p.decoder.decode l.user l.source = ((.ok (some packet), rest), user) ∨
        p.decoder.decodeEnd l.user l.source = ((.ok (some packet), rest), user)) :
      Step p l (l.decoded packet rest user)
  | left {l : Live σ ν} {answer : Except CodecError (Option Packet)} {rest : Bytes} {user : σ}
      (none : ∀ packet, answer ≠ .ok (some packet))
      (leaves : p.decoder.decode l.user l.source = ((answer, rest), user) ∨
        p.decoder.decodeEnd l.user l.source = ((answer, rest), user)) :
      Step p l { l with source := rest, user := user }

/-- Any number of steps. -/
inductive Steps (p : Pipeline σ ν) : Live σ ν → Live σ ν → Prop
  | refl (l : Live σ ν) : Steps p l l
  | more {l l₁ l' : Live σ ν} (step : Step p l l₁) (steps : Steps p l₁ l') : Steps p l l'

namespace Steps

variable {p : Pipeline σ ν} {l l₁ l' : Live σ ν}

theorem one (step : Step p l l') : Steps p l l' := .more step (.refl l')

theorem trans (first : Steps p l l₁) (second : Steps p l₁ l') : Steps p l l' := by
  induction first with
  | refl l => exact second
  | more step _ ih => exact .more step (ih second)

/-- What steps keep, sequences of them keep. -/
theorem invariant {I : Live σ ν → Prop} (kept : ∀ {l l'}, Step p l l' → I l → I l')
    (steps : Steps p l l') (h : I l) : I l' := by
  induction steps with
  | refl l => exact h
  | more step _ ih => exact ih (kept step h)

end Steps

/-! ## The operations are sequences of steps -/

variable (p : Pipeline σ ν)

theorem Does.steps {p : Pipeline σ ν} {l l' : Live σ ν} {deed : Deed ν}
    (does : Does p l deed l') : Steps p l l' := by
  cases does with
  | offered packet member => exact .one (.offered packet member)
  | message => exact .one (.message _ _)
  | dequeued => exact .one (.dequeued _)
  | kept keeps => exact .refl _
  | encoded passes encodes => exact .one (.encoded encodes)
  | refused passes refuses => exact .one (.refused refuses)

/-- The deeds of a trail are steps. -/
theorem Trail.steps {p : Pipeline σ ν} {l l' : Live σ ν} {deeds : List (Deed ν)}
    (trail : Trail p l deeds l') : Steps p l l' := by
  induction trail with
  | refl l => exact .refl l
  | more does _ ih => exact does.steps.trans ih

theorem flushed_steps (l : Live σ ν) : Steps p l (p.flushed l).2 := by
  obtain ⟨deeds, trail, -⟩ := p.flushed_trail l
  exact trail.steps

theorem dispatch_steps (packet : Packet) (l : Live σ ν) : Steps p l (p.dispatch packet l).2 := by
  obtain ⟨deeds, trail, -⟩ := p.dispatch_trail packet l
  exact trail.steps

theorem fireActive_steps (l : Live σ ν) : Steps p l (p.fireActive l).2 := by
  simp only [fireActive]
  cases (p.handler.onActive l.context l.user).value with
  | error e => exact .one (.active l)
  | ok _ => exact .more (.active l) (p.flushed_steps _)

theorem fireInactive_steps (l : Live σ ν) : Steps p l (p.fireInactive l) := .one (.inactive l)

/-- A packet is taken off the bytes that arrived, and dispatched. -/
theorem taken_steps {l l₁ : Live σ ν} {packet : Packet} {rest : Bytes} {user : σ}
    {result : Except Fault Bool}
    (takes : p.decoder.decode l.user l.source = ((.ok (some packet), rest), user) ∨
      p.decoder.decodeEnd l.user l.source = ((.ok (some packet), rest), user))
    (dispatches : p.dispatch packet (l.decoded packet rest user) = (result, l₁)) :
    Steps p l l₁ := by
  have dispatched := p.dispatch_steps packet (l.decoded packet rest user)
  rw [dispatches] at dispatched
  exact .more (.taken takes) dispatched

theorem fireRead_steps (l : Live σ ν) : Steps p l (p.fireRead l).2 := by
  fun_induction fireRead p l with
  | case1 l => exact .refl l
  | case2 l _ e rest user h => exact .one (.left (fun _ => by simp) (.inl h))
  | case3 l _ rest user h => exact .one (.left (fun _ => by simp) (.inl h))
  | case4 l _ packet rest user h e l' hd => exact p.taken_steps (.inl h) hd
  | case5 l _ packet rest user h delivered l₁ hd _ n l' hread ih =>
    rw [hread] at ih
    exact (p.taken_steps (.inl h) hd).trans ih
  | case6 l _ packet rest user h delivered l₁ hd _ e l' hread ih =>
    rw [hread] at ih
    exact (p.taken_steps (.inl h) hd).trans ih

/-! ## What steps keep -/

variable {p} {l l' : Live σ ν}

theorem Step.cancelled (step : Step p l l') (h : l.cancelled = true) : l'.cancelled = true := by
  cases step with
  | offered packet member => simp [Live.absorb, Live.record, h]
  | message packet => simp [Live.absorb, Live.record, h]
  | active => simp [Live.absorb, Live.record, h]
  | inactive => simp [Live.absorb, Live.record, h]
  | dequeued => exact h
  | encoded encodes => exact h
  | refused refuses => exact h
  | taken takes => exact h
  | left none leaves => exact h

/-- A cancellation is never taken back. -/
theorem Steps.cancelled (steps : Steps p l l') (h : l.cancelled = true) : l'.cancelled = true :=
  steps.invariant (fun step hl => step.cancelled hl) h

end Pipeline

end PacketServer
