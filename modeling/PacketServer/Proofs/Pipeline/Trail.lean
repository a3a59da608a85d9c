import PacketServer.Pipeline.Run

/-!
# The trail of a pipeline

A trail lists what a pipeline does between two states of a connection, one
deed after the other: a callback is called and answers, the queue is taken, a
packet that was taken is kept back by an outbound stage, encoded, or refused
by the encoder. Each deed carries what it did to packets and requests, so
that the books of a connection can be kept by its trail alone: what was
queued with what is taken and what still waits, what was encoded with the
bytes to be sent, who asked to close and who cancelled.

Taking a packet off the bytes that arrived is not among the deeds. A pipeline
does it between two trails, and whether it may depends on the first of them.

## Main results

* `dispatch_trail`, `flushed_trail` — the operations leave trails; if they do
  not fail, every packet taken off the queue is settled.
* `Trail.queue` — packets are settled in the order in which they were queued.
* `Trail.journal`, `Trail.sink` — the journal and the encoded bytes by the trail.
* `Trail.closing`, `Trail.cancelled` — requests are those of the trail's callbacks.
-/

namespace PacketServer

variable {σ ν α : Type}

/-- Whether the event belongs to a packet's way through a pipeline. -/
def Event.isOfPipeline : Event ν → Bool
  | .message .. | .inbound .. | .outbound .. | .decoded _ | .encoded _ | .note _ => true
  | _ => false

/-- What a pipeline does at a time. -/
inductive Deed (ν : Type)
  /-- A callback is called, and answers. -/
  | call (event : Event ν) (writes : List Packet) (closes cancels : Bool) (notes : List ν)
  /-- The queue is taken, and is empty then. -/
  | unqueue (packets : List Packet)
  /-- An outbound stage keeps a packet. -/
  | keep (packet : Packet)
  /-- What the outbound stages made of a packet is encoded. -/
  | encode (packet passed : Packet) (bytes : Bytes)
  /-- The encoder refuses what they made of it. -/
  | refuse (packet : Packet)

namespace Deed

/-- The call of a callback that reacts so. -/
def ofReaction (event : Event ν) (r : Reaction σ ν α) : Deed ν :=
  .call event r.writes r.closes r.cancels r.notes

/-- What the journal shows of it. -/
def events : Deed ν → List (Event ν)
  | .call event _ _ _ notes => event :: notes.map .note
  | .encode _ passed _ => [.encoded passed]
  | _ => []

/-- The packets that it puts into the queue. -/
def queued : Deed ν → List Packet
  | .call _ writes .. => writes
  | _ => []

/-- The packets that it takes off the queue. -/
def unqueued : Deed ν → List Packet
  | .unqueue packets => packets
  | _ => []

/-- The packets, as they were queued, that it kept back or encoded. -/
def settled : Deed ν → List Packet
  | .keep packet | .encode packet .. => [packet]
  | _ => []

/-- The bytes that it puts behind those to be sent. -/
def bytes : Deed ν → Bytes
  | .encode _ _ bytes => bytes
  | _ => []

/-- Whether it asks to close the connection. -/
def closes : Deed ν → Bool
  | .call _ _ closes .. => closes
  | _ => false

/-- Whether it cancels the server's work. -/
def cancels : Deed ν → Bool
  | .call _ _ _ cancels _ => cancels
  | _ => false

end Deed

namespace Pipeline

/-- The deeds of a pipeline. What becomes of a packet is what the outbound
stages made of it just before. -/
inductive Does (p : Pipeline σ ν) : Live σ ν → Deed ν → Live σ ν → Prop
  | offered {l : Live σ ν} {stage : Stage σ ν} (packet : Packet)
      (member : stage ∈ p.inbound ∨ stage ∈ p.outbound) :
      Does p l
        (.ofReaction (stageEvent stage l.context packet) (stage.run l.context l.user packet))
        ((l.record (stageEvent stage l.context packet)).absorb
          (stage.run l.context l.user packet))
  | message (l : Live σ ν) (packet : Packet) :
      Does p l
        (.ofReaction (.message l.context packet) (p.handler.onMessage l.context l.user packet))
        ((l.record (.message l.context packet)).absorb
          (p.handler.onMessage l.context l.user packet))
  | dequeued (l : Live σ ν) :
      Does p l (.unqueue l.context.outbound)
        { l with context := { l.context with outbound := [] } }
  | kept {l₀ l : Live σ ν} {packet : Packet} (keeps : offer p.outbound packet l₀ = (none, l)) :
      Does p l (.keep packet) l
  | encoded {l₀ l : Live σ ν} {packet passed : Packet} {bytes : Bytes} {user : σ}
      (passes : offer p.outbound packet l₀ = (some passed, l))
      (encodes : p.encoder.encode l.user passed = (.ok bytes, user)) :
      Does p l (.encode packet passed bytes)
        ((Live.emit { l with user := user } bytes).record (.encoded passed))
  | refused {l₀ l : Live σ ν} {packet passed : Packet} {e : CodecError} {user : σ}
      (passes : offer p.outbound packet l₀ = (some passed, l))
      (refuses : p.encoder.encode l.user passed = (.error e, user)) :
      Does p l (.refuse packet) { l with user := user }

/-- Deeds one after the other. -/
inductive Trail (p : Pipeline σ ν) : Live σ ν → List (Deed ν) → Live σ ν → Prop
  | refl (l : Live σ ν) : Trail p l [] l
  | more {l l₁ l' : Live σ ν} {deed : Deed ν} {deeds : List (Deed ν)}
      (does : Does p l deed l₁) (later : Trail p l₁ deeds l') : Trail p l (deed :: deeds) l'

/-- Every packet that was taken off the queue was kept back or encoded. -/
def Clear (deeds : List (Deed ν)) : Prop :=
  deeds.flatMap Deed.settled = deeds.flatMap Deed.unqueued

variable {p : Pipeline σ ν} {l l₁ l' : Live σ ν} {deed : Deed ν} {deeds more : List (Deed ν)}

theorem Trail.one (does : Does p l deed l') : Trail p l [deed] l' := .more does (.refl l')

theorem Trail.trans (first : Trail p l deeds l₁) (second : Trail p l₁ more l') :
    Trail p l (deeds ++ more) l' := by
  induction first with
  | refl l => exact second
  | more does _ ih => exact .more does (ih second)

theorem clear_append (first : Clear deeds) (second : Clear more) : Clear (deeds ++ more) := by
  unfold Clear at *
  rw [List.flatMap_append, List.flatMap_append, first, second]

/-! ## The operations leave trails -/

variable (p)

/-- Offering a packet to stages calls them and does nothing else. -/
theorem offer_trail (stages : List (Stage σ ν)) (packet : Packet) (l : Live σ ν)
    (members : ∀ stage ∈ stages, stage ∈ p.inbound ∨ stage ∈ p.outbound) :
    ∃ deeds, Trail p l deeds (offer stages packet l).2 ∧
      deeds.flatMap Deed.unqueued = [] ∧ deeds.flatMap Deed.settled = [] := by
  induction stages generalizing packet l with
  | nil => exact ⟨[], .refl l, rfl, rfl⟩
  | cons stage stages ih =>
    have first : Does p l _ _ := .offered packet (members stage (List.mem_cons_self ..))
    have members' : ∀ s ∈ stages, s ∈ p.inbound ∨ s ∈ p.outbound := by
      intro s hs
      exact members s (List.mem_cons_of_mem _ hs)
    simp only [offer]
    cases (stage.run l.context l.user packet).value with
    | none => exact ⟨_, .one first, rfl, rfl⟩
    | some passed =>
      obtain ⟨deeds, trail, unqueued, settled⟩ := ih passed _ members'
      exact ⟨_, .more first trail, unqueued, settled⟩

/-- If sending packets does not fail, it settles just these. -/
theorem send_trail (packets : List Packet) (l : Live σ ν) :
    ∃ deeds, Trail p l deeds (p.send packets l).2 ∧
      ∀ n, (p.send packets l).1 = .ok n →
        deeds.flatMap Deed.unqueued = [] ∧ deeds.flatMap Deed.settled = packets := by
  induction packets generalizing l with
  | nil => exact ⟨[], .refl l, fun _ _ => ⟨rfl, rfl⟩⟩
  | cons packet packets ih =>
    obtain ⟨calls, offered, takesNone, settlesNone⟩ :=
      p.offer_trail p.outbound packet l fun _ hs => .inr hs
    simp only [send]
    rcases hoffer : offer p.outbound packet l with ⟨_ | passed, l₁⟩
    · rw [hoffer] at offered
      obtain ⟨deeds, sent, clear⟩ := ih l₁
      refine ⟨calls ++ .keep packet :: deeds, offered.trans (.more (.kept hoffer) sent), ?_⟩
      intro n hn
      obtain ⟨unqueued, settled⟩ := clear n hn
      simp only [List.flatMap_append, List.flatMap_cons, takesNone, settlesNone, unqueued, settled]
      exact ⟨rfl, rfl⟩
    · rw [hoffer] at offered
      dsimp only
      rcases hencode : p.encoder.encode l₁.user passed with ⟨e | bytes, user⟩
      · refine ⟨calls ++ [.refuse packet], offered.trans (.one (.refused hoffer hencode)), ?_⟩
        intro n hn
        simp at hn
      · obtain ⟨deeds, sent, clear⟩ :=
          ih ((Live.emit { l₁ with user := user } bytes).record (.encoded passed))
        have whole := offered.trans (.more (.encoded hoffer hencode) sent)
        refine ⟨calls ++ .encode packet passed bytes :: deeds, ?_, ?_⟩
        · dsimp only
          split <;> rename_i hsend <;> rw [hsend] at whole <;> exact whole
        · intro n hn
          dsimp only at hn
          split at hn
          · rename_i m l₂ hsend
            obtain ⟨unqueued, settled⟩ := clear m (by rw [hsend])
            simp only [List.flatMap_append, List.flatMap_cons, takesNone, settlesNone, unqueued, settled]
            exact ⟨rfl, rfl⟩
          · simp at hn

/-- A flush takes the queue and settles it, unless the encoder refuses a packet. -/
theorem flushed_trail (l : Live σ ν) :
    ∃ deeds, Trail p l deeds (p.flushed l).2 ∧ ((p.flushed l).1 = .ok () → Clear deeds) := by
  obtain ⟨deeds, sent, clear⟩ :=
    p.send_trail l.context.outbound { l with context := { l.context with outbound := [] } }
  refine ⟨.unqueue l.context.outbound :: deeds, ?_, ?_⟩
  · have whole := Trail.more (.dequeued l) sent
    unfold flushed flush
    split <;> rename_i hsend <;> rw [hsend] at whole <;> exact whole
  · intro hok
    unfold flushed flush at hok
    split at hok
    · rename_i n l' hsend
      obtain ⟨unqueued, settled⟩ := clear n (by rw [hsend])
      rw [Clear, List.flatMap_cons, List.flatMap_cons, unqueued, settled]
      exact (List.append_nil _).symm
    · simp at hok

theorem dispatch_trail (packet : Packet) (l : Live σ ν) :
    ∃ deeds, Trail p l deeds (p.dispatch packet l).2 ∧
      ∀ delivered, (p.dispatch packet l).1 = .ok delivered → Clear deeds := by
  obtain ⟨calls, offered, takesNone, settlesNone⟩ := p.offer_trail p.inbound packet l fun _ hs => .inl hs
  have hcalls : Clear calls := by rw [Clear, takesNone, settlesNone]
  simp only [dispatch]
  rcases hoffer : offer p.inbound packet l with ⟨_ | passed, l₁⟩
  · rw [hoffer] at offered
    exact ⟨calls, offered, fun _ _ => hcalls⟩
  · rw [hoffer] at offered
    have handled := offered.trans (.one (.message l₁ passed))
    have hhandled := clear_append hcalls
      (show Clear [Deed.ofReaction (.message l₁.context passed)
        (p.handler.onMessage l₁.context l₁.user passed)] from rfl)
    dsimp only
    cases (p.handler.onMessage l₁.context l₁.user passed).value with
    | error e => exact ⟨_, handled, by simp⟩
    | ok _ =>
      obtain ⟨deeds, flush, clear⟩ := p.flushed_trail ((l₁.record (.message l₁.context passed)).absorb
        (p.handler.onMessage l₁.context l₁.user passed))
      dsimp only
      rcases hflush : p.flushed ((l₁.record (.message l₁.context passed)).absorb
        (p.handler.onMessage l₁.context l₁.user passed)) with ⟨e | _, l₂⟩
      · rw [hflush] at flush
        exact ⟨_, handled.trans flush, by simp⟩
      · rw [hflush] at flush clear
        exact ⟨_, handled.trans flush, fun _ _ => clear_append hhandled (clear rfl)⟩

variable {p}

/-! ## The books of a connection, by the trail -/

theorem Does.journal (does : Does p l deed l') : l'.journal = l.journal ++ deed.events := by
  cases does with
  | offered packet member =>
    rw [Live.journal_absorb, Live.journal_record, List.append_assoc]
    rfl
  | message packet =>
    rw [Live.journal_absorb, Live.journal_record, List.append_assoc]
    rfl
  | dequeued => exact (List.append_nil _).symm
  | kept keeps => exact (List.append_nil _).symm
  | encoded passes encodes => exact Live.journal_record _ _
  | refused passes refuses => exact (List.append_nil _).symm

theorem Trail.journal (trail : Trail p l deeds l') :
    l'.journal = l.journal ++ deeds.flatMap Deed.events := by
  induction trail with
  | refl l => exact (List.append_nil _).symm
  | more does _ ih => rw [ih, does.journal, List.flatMap_cons, List.append_assoc]

theorem Does.queue (does : Does p l deed l') :
    l.context.outbound ++ deed.queued = deed.unqueued ++ l'.context.outbound := by
  cases does with
  | offered packet member => rfl
  | message packet => rfl
  | dequeued => rfl
  | kept keeps => exact List.append_nil _
  | encoded passes encodes => exact List.append_nil _
  | refused passes refuses => exact List.append_nil _

/-- What waits and what is queued is what is taken off the queue, in this
order, and what waits then. -/
theorem Trail.queue (trail : Trail p l deeds l') :
    l.context.outbound ++ deeds.flatMap Deed.queued =
      deeds.flatMap Deed.unqueued ++ l'.context.outbound := by
  induction trail with
  | refl l => exact List.append_nil _
  | @more l l₁ l' deed deeds does _ ih =>
    calc l.context.outbound ++ (deed :: deeds).flatMap Deed.queued
        = (l.context.outbound ++ deed.queued) ++ deeds.flatMap Deed.queued := by
          rw [List.flatMap_cons, List.append_assoc]
      _ = deed.unqueued ++ (l₁.context.outbound ++ deeds.flatMap Deed.queued) := by
          rw [does.queue, List.append_assoc]
      _ = (deed :: deeds).flatMap Deed.unqueued ++ l'.context.outbound := by
          rw [ih, List.flatMap_cons, List.append_assoc]

theorem Does.sink (does : Does p l deed l') : l'.sink = l.sink ++ deed.bytes := by
  cases does with
  | offered packet member => exact (List.append_nil _).symm
  | message packet => exact (List.append_nil _).symm
  | dequeued => exact (List.append_nil _).symm
  | kept keeps => exact (List.append_nil _).symm
  | @encoded l₀ l packet passed bytes user passes encodes =>
    exact Live.sink_emit { l with user := user } bytes
  | refused passes refuses => exact (List.append_nil _).symm

theorem Trail.sink (trail : Trail p l deeds l') :
    l'.sink = l.sink ++ deeds.flatMap Deed.bytes := by
  induction trail with
  | refl l => exact (List.append_nil _).symm
  | more does _ ih => rw [ih, does.sink, List.flatMap_cons, List.append_assoc]

theorem Does.closing (does : Does p l deed l') :
    l'.context.closing = (l.context.closing || deed.closes) := by
  cases does with
  | offered packet member => rfl
  | message packet => rfl
  | dequeued => exact (Bool.or_false _).symm
  | kept keeps => exact (Bool.or_false _).symm
  | encoded passes encodes => exact (Bool.or_false _).symm
  | refused passes refuses => exact (Bool.or_false _).symm

/-- A connection is to close once a callback asked for it. -/
theorem Trail.closing (trail : Trail p l deeds l') :
    l'.context.closing = (l.context.closing || deeds.any Deed.closes) := by
  induction trail with
  | refl l => exact (Bool.or_false _).symm
  | more does _ ih => rw [ih, does.closing, List.any_cons, Bool.or_assoc]

theorem Does.cancelled (does : Does p l deed l') :
    l'.cancelled = (l.cancelled || deed.cancels) := by
  cases does with
  | offered packet member => rfl
  | message packet => rfl
  | dequeued => exact (Bool.or_false _).symm
  | kept keeps => exact (Bool.or_false _).symm
  | encoded passes encodes => exact (Bool.or_false _).symm
  | refused passes refuses => exact (Bool.or_false _).symm

/-- A pipeline cancels the server's work by its callbacks only. -/
theorem Trail.cancelled (trail : Trail p l deeds l') :
    l'.cancelled = (l.cancelled || deeds.any Deed.cancels) := by
  induction trail with
  | refl l => exact (Bool.or_false _).symm
  | more does _ ih => rw [ih, does.cancelled, List.any_cons, Bool.or_assoc]

theorem isOfPipeline_note {notes : List ν} {e : Event ν} (h : e ∈ notes.map Event.note) :
    e.isOfPipeline = true := by
  obtain ⟨note, -, rfl⟩ := List.mem_map.mp h
  rfl

theorem stageEvent_isOfPipeline (stage : Stage σ ν) (context : Context) (packet : Packet) :
    (stageEvent stage context packet).isOfPipeline = true := by
  unfold stageEvent
  split <;> rfl

theorem Does.isOfPipeline (does : Does p l deed l') : ∀ e ∈ deed.events, e.isOfPipeline = true := by
  intro e he
  cases does with
  | offered packet member =>
    rcases List.mem_cons.mp he with rfl | note
    · exact stageEvent_isOfPipeline ..
    · exact isOfPipeline_note note
  | message packet =>
    rcases List.mem_cons.mp he with rfl | note
    · rfl
    · exact isOfPipeline_note note
  | dequeued => simp [Deed.events] at he
  | kept keeps => simp [Deed.events] at he
  | encoded passes encodes => rw [List.mem_singleton.mp he]; rfl
  | refused passes refuses => simp [Deed.events] at he

/-- A trail neither greets nor says farewell, and it does nothing to the stream. -/
theorem Trail.isOfPipeline (trail : Trail p l deeds l') :
    ∀ e ∈ deeds.flatMap Deed.events, e.isOfPipeline = true := by
  induction trail with
  | refl l => simp
  | more does _ ih =>
    intro e he
    rw [List.flatMap_cons] at he
    rcases List.mem_append.mp he with first | later
    · exact does.isOfPipeline e first
    · exact ih e later

end Pipeline

end PacketServer
