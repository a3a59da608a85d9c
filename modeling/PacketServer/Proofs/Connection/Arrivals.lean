import PacketServer.Proofs.Connection.Chronicle
import PacketServer.Proofs.Pipeline.Flush

/-!
# Packets on their way in

An arrival is an event of a packet's way in: it is decoded, given to an inbound
stage, or given to the handler. The journal shows it with the packet, so that
what a connection lets in can be said by its journal.

Only dispatching lets a packet in. Looking and sending do not, and neither does
greeting, since what a greeting flushes goes through outbound stages only. A
packet that is dispatched is given, as it was decoded, to the first inbound
stage, or to the handler if there is none.

## Main results

* `flushed_quiet` — a flush lets nothing in.
* `Acts.quiet` — nor does an act that dispatches nothing.
* `Acts.entry` — what the journal shows of a packet that is dispatched.
* `Entry.first` — the one who stands first is given it as it was decoded.
-/

namespace PacketServer

variable {σ ν α : Type}

/-- Whether the event belongs to a packet's way in. -/
def Event.isArrival : Event ν → Bool
  | .decoded _ | .inbound .. | .message .. => true
  | _ => false

theorem arrival_of_note {notes : List ν} {e : Event ν} (h : e ∈ notes.map Event.note) :
    e.isArrival = false := by
  obtain ⟨note, -, rfl⟩ := List.mem_map.mp h
  rfl

theorem arrival_of_transfer {e : Event ν} (h : e.isTransfer = true) : e.isArrival = false := by
  cases e <;> first | rfl | simp [Event.isTransfer] at h

/-- Whether an act dispatches a packet. -/
def Act.isDispatch : Act ν → Bool
  | .dispatch .. => true
  | _ => false

namespace Pipeline

variable {p : Pipeline σ ν} {l l' : Live σ ν} {act : Act ν} {fault : Option Fault}

/-- The stages on the way out are for packets on their way out. -/
def Outward (p : Pipeline σ ν) : Prop := ∀ stage ∈ p.outbound, stage.direction = .outbound

theorem outward_assemble (spec : Spec σ ν) : spec.assemble.Outward := by
  intro stage member
  simpa using (List.mem_filter.mp member).2

/-! ## Flushes and greetings -/

/-- What outbound stages and the encoder do is no arrival. -/
theorem Shipped.quiet {s : Shipment σ ν} (shipped : Shipped p l s l') (outward : p.Outward) :
    ∀ e ∈ s.events, e.isArrival = false := by
  obtain ⟨passed, l₁, handed, -⟩ := shipped.handed
  intro e he
  rcases List.mem_append.mp he with offered | ended
  · obtain ⟨o, ho, he⟩ := List.mem_flatMap.mp offered
    have member : o.stage ∈ p.outbound :=
      handed.stages_prefix.subset (List.mem_map_of_mem ho)
    rcases List.mem_cons.mp he with rfl | note
    · rw [Offer.event, stageEvent, outward _ member]
      rfl
    · exact arrival_of_note note
  · cases fate : s.fate with
    | kept => simp [fate] at ended
    | encoded passed bytes =>
      rw [fate, List.mem_singleton] at ended
      rw [ended]
      rfl
    | refused passed e' => simp [fate] at ended

theorem flushed_snd (p : Pipeline σ ν) (l : Live σ ν) : (p.flushed l).2 = (p.flush l).2 := by
  unfold flushed
  split <;> rename_i h <;> rw [h]

theorem flushed_quiet (outward : p.Outward) (l : Live σ ν) :
    ∃ events, (p.flushed l).2.journal = l.journal ++ events ∧
      ∀ e ∈ events, e.isArrival = false := by
  obtain ⟨shipments, unshipped, -, run, -⟩ :=
    p.send_shipments l.context.outbound { l with context := { l.context with outbound := [] } }
  refine ⟨shipments.flatMap Shipment.events, ?_, ?_⟩
  · rw [flushed_snd]
    exact run.journal
  · intro e he
    obtain ⟨s, hs, he⟩ := List.mem_flatMap.mp he
    obtain ⟨l₁, l₂, shipped⟩ := run.exists_shipped_of_mem s hs
    exact shipped.quiet outward e he

theorem fireActive_quiet (outward : p.Outward) (l : Live σ ν) :
    ∃ events, (p.fireActive l).2.journal = l.journal ++ events ∧
      ∀ e ∈ events, e.isArrival = false := by
  have hello : (p.hello l).journal = l.journal ++
      .active l.context :: (p.handler.onActive l.context l.user).notes.map .note := by
    rw [Pipeline.hello, Live.journal_absorb, Live.journal_record, List.append_assoc]
    rfl
  have greeting : ∀ e ∈ Event.active l.context ::
      (p.handler.onActive l.context l.user).notes.map .note, e.isArrival = false :=
    List.forall_mem_cons.mpr ⟨rfl, fun e note => arrival_of_note note⟩
  rw [fireActive]
  cases (p.handler.onActive l.context l.user).value with
  | error e => exact ⟨_, hello, greeting⟩
  | ok _ =>
    obtain ⟨events, flushes, quiet⟩ := flushed_quiet outward (p.hello l)
    rw [hello, List.append_assoc] at flushes
    exact ⟨_, flushes, List.forall_mem_append.mpr ⟨greeting, quiet⟩⟩

/-- **An act that dispatches nothing lets nothing in.** -/
theorem Acts.quiet (step : Acts p l act fault l') (outward : p.Outward)
    (dispatches : act.isDispatch = false) : ∀ e ∈ act.events, e.isArrival = false := by
  have journal := step.journal
  cases step with
  | greeted fires trail ungreeted clear =>
    obtain ⟨events, grows, quiet⟩ := fireActive_quiet outward l
    rw [fires, journal, List.append_cancel_left_eq] at grows
    rw [grows]
    exact quiet
  | dispatched => simp [Act.isDispatch] at dispatches
  | looked | left | garbled => simp [Act.events]
  | sent cancels transfers whole => exact fun e he => arrival_of_transfer (transfers e he)
  | broken cancels e' transfers part => exact fun e he => arrival_of_transfer (transfers e he)

/-! ## Dispatches -/

/-- What the journal shows of an offer and of the stage's answer. -/
def Offer.events (o : Offer σ ν) : List (Event ν) := o.event :: o.reaction.notes.map .note

theorem Handed.journal {stages : List (Stage σ ν)} {packet : Packet} {offers : List (Offer σ ν)}
    {passed : Option Packet} (handed : Handed stages packet l offers passed l') :
    l'.journal = l.journal ++ offers.flatMap Offer.events := by
  have answered (l : Live σ ν) (o : Offer σ ν) : (l.answered o).journal = l.journal ++ o.events := by
    rw [Live.answered, Live.journal_absorb, Live.journal_record, List.append_assoc]
    rfl
  induction handed with
  | behind => exact (List.append_nil _).symm
  | kept keeps => rw [answered, List.flatMap_singleton]
  | onward passes _ ih => rw [ih, answered, List.flatMap_cons, List.append_assoc]

/-- What the journal shows of the way in of a packet that was decoded: the
inbound stages are given it one after the other, the first of them as it is, and
the handler is given what comes out behind the last, if none keeps it. No other
packet comes in meanwhile. -/
inductive Entry (p : Pipeline σ ν) (packet : Packet) (l : Live σ ν) : List (Event ν) → Prop
  | kept {offers : List (Offer σ ν)} {l₁ : Live σ ν}
      (handed : Handed p.inbound packet l offers none l₁) :
      Entry p packet l (offers.flatMap Offer.events)
  | delivered {offers : List (Offer σ ν)} {l₁ : Live σ ν} {passed : Packet}
      {later : List (Event ν)} (handed : Handed p.inbound packet l offers (some passed) l₁)
      (quiet : ∀ e ∈ later, e.isArrival = false) :
      Entry p packet l (offers.flatMap Offer.events ++ .message l₁.context passed :: later)

theorem dispatch_entry (outward : p.Outward) (packet : Packet) (l : Live σ ν) :
    ∃ events, (p.dispatch packet l).2.journal = l.journal ++ events ∧ p.Entry packet l events := by
  obtain ⟨offers, handed⟩ := handed_offer p.inbound packet l
  simp only [dispatch]
  rcases hoffer : offer p.inbound packet l with ⟨_ | passed, l₁⟩
  · rw [hoffer] at handed
    exact ⟨_, handed.journal, .kept handed⟩
  · rw [hoffer] at handed
    dsimp only
    generalize hreaction : p.handler.onMessage l₁.context l₁.user passed = reaction
    generalize htold : (l₁.record (.message l₁.context passed)).absorb reaction = told
    have journal : told.journal = l.journal ++ (offers.flatMap Offer.events ++
        .message l₁.context passed :: reaction.notes.map .note) := by
      rw [← htold, Live.journal_absorb, Live.journal_record, handed.journal, List.append_assoc,
        List.append_assoc]
      rfl
    have noted : ∀ e ∈ reaction.notes.map Event.note, e.isArrival = false :=
      fun e note => arrival_of_note note
    cases reaction.value with
    | error e => exact ⟨_, journal, .delivered handed noted⟩
    | ok _ =>
      obtain ⟨events, flushes, quiet⟩ := flushed_quiet outward told
      rw [journal, List.append_assoc, List.append_assoc] at flushes
      refine ⟨_, ?_, .delivered handed (List.forall_mem_append.mpr ⟨noted, quiet⟩)⟩
      rcases hflush : p.flushed told with ⟨_ | _, l₂⟩ <;> rw [hflush] at flushes <;> exact flushes

/-- **A packet that is dispatched comes in as it was decoded.** -/
theorem Acts.entry {late : Bool} {packet : Packet} {deeds : List (Deed ν)}
    (step : Acts p l (.dispatch late packet deeds) fault l') (outward : p.Outward) :
    ∃ l₀, p.Entry packet l₀ (deeds.flatMap Deed.events) := by
  cases step with
  | dispatched opened takes dispatches trail clear =>
    obtain ⟨events, grows, entry⟩ := dispatch_entry outward packet (l.decoded packet _ _)
    have journal := trail.journal
    rw [dispatches, journal, List.append_cancel_left_eq] at grows
    exact ⟨_, grows ▸ entry⟩

/-- The one who stands first is given a packet: an inbound stage, or the handler. -/
def entranceEvent (p : Pipeline σ ν) (context : Context) (packet : Packet) : Event ν :=
  match p.inbound with
  | [] => .message context packet
  | stage :: _ => stageEvent stage context packet

/-- **The one who stands first is given the packet that was decoded.** -/
theorem Entry.first {packet : Packet} {events : List (Event ν)} (entry : p.Entry packet l events) :
    events.head? = some (p.entranceEvent l.context packet) := by
  unfold entranceEvent
  cases entry with
  | kept handed =>
    generalize p.inbound = stages at handed ⊢
    cases handed with
    | kept keeps => rfl
    | onward passes later => rfl
  | delivered handed quiet =>
    generalize p.inbound = stages at handed ⊢
    cases handed with
    | behind => rfl
    | onward passes later => rfl

end Pipeline

end PacketServer
