import PacketServer.Proofs.Connection.Conduct
import PacketServer.Proofs.Connection.Segmentation

/-!
# What waits when a connection closes on request

A packet that a callback queues waits for the next flush. A flush takes the
packets that are queued when it starts, so that those which outbound stages
queue meanwhile stay; and behind a packet that is kept back on its way in
there is none. A connection that was asked to close does not flush again, and
what waits then is lost.

Everything else is sent: packets leave the queue in the order in which they
were queued, each of them is kept back by an outbound stage or encoded, and
all encoded bytes are written before the connection closes. This is so for
callbacks that use their context by its operations; with a context that was put
in the place of another, the packets that waited in the other would be gone.

## Main results

* `Chronicle.queue`, `Chronicle.sent` — the packets and the bytes of a connection
  that met no fault.
* `Chronicle.pending` — what can wait behind the greeting.
* `run_requested` — what a run that closes on request has sent, and what it has not.
* `run_requested_unflushed` — a reply that is lost.
-/

namespace PacketServer

variable {σ ν : Type}

namespace Pipeline

variable {p : Pipeline σ ν} {l l' : Live σ ν} {act : Act ν} {acts : List (Act ν)}

/-! ## Packets and bytes -/

/-- Every packet that an act takes off the queue it settles, if it comes to no fault. -/
theorem Acts.queue (step : Acts p l act none l') :
    l.context.outbound ++ act.deeds.flatMap Deed.queued =
      act.deeds.flatMap Deed.settled ++ l'.context.outbound := by
  generalize hnone : (none : Option Fault) = fault at step
  cases step with
  | @greeted l result deeds fires trail ungreeted clear =>
    have hclear : Clear deeds := by
      cases result with
      | ok _ => exact clear rfl
      | error e => simp [faultOf] at hnone
    have hqueue := trail.queue
    rw [← hclear] at hqueue
    rw [Act.deeds, List.flatMap_cons, ← List.append_assoc]
    exact hqueue
  | looked poll opened uncancelled => exact List.append_nil _
  | @dispatched l late packet rest user result deeds opened takes dispatches trail clear =>
    have hclear : Clear deeds := by
      cases result with
      | ok delivered => exact clear delivered rfl
      | error e => simp [faultOf] at hnone
    have hqueue := trail.queue
    rw [← hclear] at hqueue
    exact hqueue
  | left opened leaves => exact List.append_nil _
  | garbled opened fails => simp at hnone
  | sent cancels transfers whole => exact List.append_nil _
  | broken cancels e transfers part => simp at hnone

/-- **Packets are settled in the order in which they were queued.** Behind them,
in the same order, come those that wait. -/
theorem Chronicle.queue (chronicle : Chronicle p l acts none l') :
    l.context.outbound ++ (acts.flatMap Act.deeds).flatMap Deed.queued =
      (acts.flatMap Act.deeds).flatMap Deed.settled ++ l'.context.outbound := by
  generalize hnone : (none : Option Fault) = fault at chronicle
  induction chronicle with
  | done l => exact List.append_nil _
  | fault step => simp at hnone
  | @more l l₁ l' act later fault step _ ih =>
    rw [List.flatMap_cons, List.flatMap_append, List.flatMap_append]
    calc l.context.outbound ++
          (act.deeds.flatMap Deed.queued ++ (later.flatMap Act.deeds).flatMap Deed.queued)
        = act.deeds.flatMap Deed.settled ++
            (l₁.context.outbound ++ (later.flatMap Act.deeds).flatMap Deed.queued) := by
          rw [← List.append_assoc, step.queue, List.append_assoc]
      _ = act.deeds.flatMap Deed.settled ++ (later.flatMap Act.deeds).flatMap Deed.settled ++
            l'.context.outbound := by
          rw [ih hnone, List.append_assoc]

/-- What an act encodes is put behind what is to be sent, or is sent. -/
theorem Acts.sent_encoded (step : Acts p l act none l') :
    sentBytes l'.journal ++ l'.sink =
      sentBytes l.journal ++ l.sink ++ act.deeds.flatMap Deed.bytes := by
  generalize hnone : (none : Option Fault) = fault at step
  cases step with
  | greeted fires trail ungreeted clear =>
    have hsent : sentBytes l'.journal = sentBytes l.journal :=
      (Steps.more (.active l) trail.steps).sentBytes_eq
    rw [hsent, trail.sink, List.append_assoc]
    rfl
  | looked poll opened uncancelled => exact (List.append_nil _).symm
  | @dispatched l late packet rest user result deeds opened takes dispatches trail clear =>
    have taken : Step p l (l.decoded packet rest user) := by
      cases late with
      | false => exact .taken (.inl takes)
      | true => exact .taken (.inr takes)
    have hsent : sentBytes l'.journal = sentBytes l.journal :=
      (Steps.more taken trail.steps).sentBytes_eq
    rw [hsent, trail.sink, List.append_assoc]
    rfl
  | left opened leaves => exact (List.append_nil _).symm
  | garbled opened fails => simp at hnone
  | @sent events cancels transfers whole =>
    have hsent : sentBytes (l.past ++ events).toList = sentBytes l.journal ++ l.sink := by
      rw [Array.toList_appendList, sentBytes_append, whole]
      rfl
    exact congrArg (· ++ []) hsent
  | broken cancels e transfers part => simp at hnone

/-- What was encoded was sent or is to be sent, in this order. -/
theorem Chronicle.sent (chronicle : Chronicle p l acts none l') :
    sentBytes l'.journal ++ l'.sink =
      sentBytes l.journal ++ l.sink ++ (acts.flatMap Act.deeds).flatMap Deed.bytes := by
  generalize hnone : (none : Option Fault) = fault at chronicle
  induction chronicle with
  | done l => exact (List.append_nil _).symm
  | fault step => simp at hnone
  | more step _ ih =>
    rw [ih hnone, step.sent_encoded, List.flatMap_cons, List.flatMap_append, List.append_assoc]

/-! ## What can wait -/

section Pending

variable {Q : Packet → Prop}

/-- All packets that wait satisfy `Q`. -/
def Pending (Q : Packet → Prop) (l : Live σ ν) : Prop := ∀ packet ∈ l.context.outbound, Q packet

/-- Whatever these stages queue satisfies `Q`. -/
def QueueOnly (Q : Packet → Prop) (stages : List (Stage σ ν)) : Prop :=
  ∀ stage ∈ stages, ∀ context user packet, ∀ w ∈ (stage.run context user packet).writes, Q w

/-- When these stages keep a packet back, what they have queued meanwhile
satisfies `Q`. -/
def KeepOnly (Q : Packet → Prop) (stages : List (Stage σ ν)) : Prop :=
  ∀ packet l l', offer stages packet l = (none, l') →
    ∀ w ∈ l'.context.outbound, w ∈ l.context.outbound ∨ Q w

theorem offer_pending {stages : List (Stage σ ν)} (queueOnly : QueueOnly Q stages)
    (packet : Packet) {l : Live σ ν} (h : Pending Q l) : Pending Q (offer stages packet l).2 := by
  induction stages generalizing packet l with
  | nil => exact h
  | cons stage stages ih =>
    have first : Pending Q ((l.record (stageEvent stage l.context packet)).absorb
        (stage.run l.context l.user packet)) := by
      intro w hw
      rcases List.mem_append.mp hw with old | new
      · exact h w old
      · exact queueOnly stage (List.mem_cons_self ..) _ _ _ w new
    have queueOnly' : QueueOnly Q stages :=
      fun s hs => queueOnly s (List.mem_cons_of_mem _ hs)
    simp only [offer]
    cases (stage.run l.context l.user packet).value with
    | none => exact first
    | some passed => exact ih queueOnly' passed first

theorem send_pending (queueOnly : QueueOnly Q p.outbound) (packets : List Packet)
    (h : Pending Q l) : Pending Q (p.send packets l).2 := by
  induction packets generalizing l with
  | nil => exact h
  | cons packet packets ih =>
    have offered := offer_pending queueOnly packet h
    simp only [send]
    rcases hoffer : offer p.outbound packet l with ⟨_ | passed, l₁⟩
    · rw [hoffer] at offered
      exact ih offered
    · rw [hoffer] at offered
      dsimp only
      rcases p.encoder.encode l₁.user passed with ⟨e | bytes, user⟩
      · exact offered
      · have encoded : Pending Q
            ((Live.emit { l₁ with user := user } bytes).record (.encoded passed)) := offered
        have sent := ih encoded
        dsimp only
        split <;> rename_i hsend <;> rw [hsend] at sent <;> exact sent

/-- A flush leaves what outbound stages queue meanwhile, whatever waited before. -/
theorem flushed_pending (queueOnly : QueueOnly Q p.outbound) (l : Live σ ν) :
    Pending Q (p.flushed l).2 := by
  have emptied : Pending Q { l with context := { l.context with outbound := [] } } := by
    intro w hw
    simp at hw
  have sent := send_pending queueOnly l.context.outbound emptied
  unfold flushed flush
  split <;> rename_i hsend <;> rw [hsend] at sent <;> exact sent

theorem dispatch_pending (queueOnly : QueueOnly Q p.outbound) (keepOnly : KeepOnly Q p.inbound)
    {packet : Packet} {delivered : Bool} (h : Pending Q l)
    (dispatches : p.dispatch packet l = (.ok delivered, l')) : Pending Q l' := by
  unfold dispatch at dispatches
  split at dispatches
  · -- The packet is kept back, and nothing is flushed.
    rename_i l₁ hoffer
    simp only [Prod.mk.injEq] at dispatches
    intro w hw
    rcases keepOnly packet l l₁ hoffer w (dispatches.2 ▸ hw) with old | new
    · exact h w old
    · exact new
  · rename_i passed l₁ hoffer
    dsimp only at dispatches
    split at dispatches
    · simp at dispatches
    · have flush := flushed_pending queueOnly
        ((l₁.record (.message l₁.context passed)).absorb
          (p.handler.onMessage l₁.context l₁.user passed))
      split at dispatches
      · rename_i l₂ hflush
        rw [hflush] at flush
        simp only [Prod.mk.injEq] at dispatches
        exact dispatches.2 ▸ flush
      · simp at dispatches

theorem fireActive_pending (queueOnly : QueueOnly Q p.outbound)
    (fires : p.fireActive l = (.ok (), l')) : Pending Q l' := by
  unfold fireActive at fires
  dsimp only at fires
  split at fires
  · simp at fires
  · have flush := flushed_pending queueOnly
      ((l.record (.active l.context)).absorb (p.handler.onActive l.context l.user))
    rw [fires] at flush
    exact flush

/-- Behind an act, what waits was waiting before, or satisfies `Q`. -/
theorem Acts.pending (queueOnly : QueueOnly Q p.outbound) (keepOnly : KeepOnly Q p.inbound)
    (step : Acts p l act none l') (h : act.isGreeting = true ∨ Pending Q l) : Pending Q l' := by
  generalize hnone : (none : Option Fault) = fault at step
  cases step with
  | @greeted l result deeds fires trail ungreeted clear =>
    cases result with
    | ok _ => exact fireActive_pending queueOnly fires
    | error e => simp [faultOf] at hnone
  | looked poll opened uncancelled => exact h.resolve_left (by simp [Act.isGreeting])
  | @dispatched l late packet rest user result deeds opened takes dispatches trail clear =>
    have waiting : Pending Q l := h.resolve_left (by simp [Act.isGreeting])
    cases result with
    | ok delivered =>
      have waiting' : Pending Q (l.decoded packet rest user) := waiting
      exact dispatch_pending queueOnly keepOnly waiting' dispatches
    | error e => simp [faultOf] at hnone
  | left opened leaves => exact h.resolve_left (by simp [Act.isGreeting])
  | garbled opened fails => simp at hnone
  | sent cancels transfers whole => exact h.resolve_left (by simp [Act.isGreeting])
  | broken cancels e transfers part => simp at hnone

/-- **Behind the greeting only such packets wait** as outbound stages queue, or as
inbound stages have queued when they keep a packet back. -/
theorem Chronicle.pending (queueOnly : QueueOnly Q p.outbound) (keepOnly : KeepOnly Q p.inbound)
    (chronicle : Chronicle p l acts none l')
    (h : (∃ deeds more, acts = .greet deeds :: more) ∨ Pending Q l) : Pending Q l' := by
  generalize hnone : (none : Option Fault) = fault at chronicle
  induction chronicle with
  | done l => exact h.resolve_left (by simp)
  | fault step => simp at hnone
  | @more l l₁ l' act later fault step _ ih =>
    apply ih _ hnone
    right
    apply step.pending queueOnly keepOnly
    rcases h with ⟨deeds, more, hacts⟩ | waiting
    · left
      rw [(List.cons.inj hacts).1]
      rfl
    · exact .inr waiting

end Pending

end Pipeline

namespace Connection

/-- **A run that closes on request.** When the connection closes, every byte that was
encoded was written, and the packets that were queued are those that were kept
back or encoded, in order, and those that still wait: such as outbound stages
queue, or as inbound stages have queued when they keep a packet back. If there
are no such packets, none wait. Callbacks are taken to queue packets and to ask to
close, and not to put another context in the place of theirs. -/
theorem run_requested (spec : Spec σ ν) (context : Context) (user : σ) (stream : Stream)
    (cancelled : Bool) (polls : List Poll) (pool : BufferPool)
    (requested :
      ((ofSpec spec context user stream cancelled).run polls pool).1 = .ok .requested) :
    let k := ofSpec spec context user stream cancelled
    ∃ acts l, k.pipeline.Chronicle k.live acts none l ∧
      (k.run polls pool).2.1.live = (k.pipeline.fireInactive l).record .shutdown ∧
      l.context.closing = true ∧ l.sink = [] ∧
      sentBytes l.journal = (acts.flatMap Act.deeds).flatMap Deed.bytes ∧
      context.outbound ++ (acts.flatMap Act.deeds).flatMap Deed.queued =
        (acts.flatMap Act.deeds).flatMap Deed.settled ++ l.context.outbound ∧
      (∀ Q, Pipeline.QueueOnly Q k.pipeline.outbound → Pipeline.KeepOnly Q k.pipeline.inbound →
        ∀ packet ∈ l.context.outbound, Q packet) ∧
      (Pipeline.QueueOnly (fun _ => False) k.pipeline.outbound →
        Pipeline.KeepOnly (fun _ => False) k.pipeline.inbound →
        l.context.pendingWrites = 0) := by
  intro k
  obtain ⟨acts, serves⟩ := serve_serves k polls
  have hresult : (k.serve polls).1 = .ok .requested := requested
  have chronicle : k.pipeline.Chronicle k.live acts none (k.serve polls).2.live := by
    have chronicle := serves.chronicle
    rwa [hresult] at chronicle
  have spent := serves.spent .requested hresult
  have hsent := chronicle.sent
  rw [spent, List.append_nil] at hsent
  have hpending : ∀ Q, Pipeline.QueueOnly Q k.pipeline.outbound →
      Pipeline.KeepOnly Q k.pipeline.inbound →
      Pipeline.Pending Q (k.serve polls).2.live := by
    intro Q queueOnly keepOnly
    obtain ⟨deeds, more, hacts, -⟩ := serves.greeting
    exact chronicle.pending queueOnly keepOnly (.inl ⟨deeds, more, hacts⟩)
  have hfarewell : (k.run polls pool).2.1.live =
      (k.pipeline.fireInactive (k.serve polls).2.live).record .shutdown := by
    rw [← serves.pipeline]
    exact farewell_live _
  refine ⟨acts, (k.serve polls).2.live, chronicle, hfarewell, serves.requested hresult, spent,
    hsent, chronicle.queue, hpending, ?_⟩
  intro queueOnly keepOnly
  have none : (k.serve polls).2.live.context.outbound = [] :=
    List.eq_nil_iff_forall_not_mem.mpr (hpending _ queueOnly keepOnly)
  rw [Context.pendingWrites, none]
  rfl

/-- A stage that answers each packet itself, asks to close and keeps the packet. -/
def answering : Stage Unit Unit where
  name := "answering"
  direction := .inbound
  run _ s packet := { value := none, state := s, writes := [packet], closes := true }

/-- A stage that asks to close at each packet and lets it pass. -/
def closingStage : Stage Unit Unit where
  name := "closing"
  direction := .inbound
  run _ s packet := { value := some packet, state := s, writes := [packet], closes := true }

/-- The stage lets the packet pass, so that its own answer and the handler's are sent. -/
theorem run_requested_flushed :
    let packet : Bytes := [0, 0, 0, 5, 7, 0, 0, 0, 0, 0, 2, 104, 101, 108, 108, 111]
    let spec : Spec Unit Unit := (Spec.ofHandler .echo).insert closingStage
    let k := ofSpec spec loopback () {} false
    let a := k.run [{ answer := some (.ok packet) }] (.ofPolicy (.pooled 4 256))
    a.1.toOption = some .requested ∧ sentBytes a.2.1.live.journal = packet ++ packet ∧
      ∃ l : Live Unit Unit, a.2.1.live = (k.pipeline.fireInactive l).record .shutdown ∧
        l.context.pendingWrites = 0 := by
  intro packet spec k a
  have requested : a.1.toOption = some .requested := by decide +kernel
  have sent : sentBytes a.2.1.live.journal = packet ++ packet := by decide +kernel
  obtain ⟨acts, l, -, hfarewell, -, -, -, -, -, none⟩ := run_requested spec loopback () {} false
    [{ answer := some (.ok packet) }] (.ofPolicy (.pooled 4 256)) (ok_of_toOption requested)
  refine ⟨requested, sent, l, hfarewell, none ?_ ?_⟩
  · intro stage hstage
    simp [ofSpec, spec, Spec.assemble, Spec.insert, Spec.ofHandler, closingStage] at hstage
  · intro packet l l' hoffer
    simp [ofSpec, spec, Spec.assemble, Spec.insert, Spec.ofHandler, closingStage,
      Pipeline.offer] at hoffer

/-- **A reply that is lost.** An inbound stage answers a packet, asks to close and
keeps the packet. The connection closes on request, the answer waits still, and
nothing was sent. -/
theorem run_requested_unflushed :
    let packet : Bytes := [0, 0, 0, 5, 7, 0, 0, 0, 0, 0, 2, 104, 101, 108, 108, 111]
    let spec : Spec Unit Unit := (Spec.ofHandler .echo).insert answering
    let a := (ofSpec spec loopback () {} false).run [{ answer := some (.ok packet) }]
      (.ofPolicy (.pooled 4 256))
    a.1.toOption = some .requested ∧ a.2.1.live.context.pendingWrites = 1 ∧
      sentBytes a.2.1.live.journal = [] ∧ a.2.1.live.sink = [] := by
  intro packet spec a
  refine ⟨?_, ?_, ?_, ?_⟩
  · decide +kernel
  · decide +kernel
  · decide +kernel
  · decide +kernel

end Connection

end PacketServer
