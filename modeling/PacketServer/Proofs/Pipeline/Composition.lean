import PacketServer.Proofs.Pipeline.Exchange
import PacketServer.Proofs.Wire.RoundTrip

/-!
# Stages compose by direction

What the stages of one direction do together is best seen of *pure* stages.
A `PureStage` is a partial function on packets, and stages in a row are their
composition, `composed`. An `AnsweringHandler` writes packets that depend on the
packet that it is given. With such parts the loop over the bytes that arrived,
with its two inner loops and their early ends, is a map: the handler is given
`ps.filterMap` of the inbound composition, and the encoder is given the answers
mapped by the outbound one.

A connection is compared by its `View`, which leaves out what such parts may do
unseen: the application's state and its notes. A `PureApp` is an application of
such parts, and `View.served` is what dispatching packets to it does to a view.

## Main results

* `view_offer`, `view_send`, `view_dispatch` — one round of such a pipeline.
* `view_fireRead` — the loop over what arrived.
* `fireRead_composes` — what the handler is given, what is encoded, and that the
  order between directions does not matter.
-/

namespace PacketServer

variable {σ ν : Type}

/-! ## Pure stages -/

/-- A stage that is a partial function on packets. -/
structure PureStage (σ ν : Type) extends Stage σ ν where
  /-- What becomes of a packet; nothing if the stage keeps it. -/
  function : Packet → Option Packet
  value_run : ∀ context user packet, (run context user packet).value = function packet
  writes_run : ∀ context user packet, (run context user packet).writes = []
  closes_run : ∀ context user packet, (run context user packet).closes = false

/-- A handler that answers every packet with packets that depend on it only,
and neither fails nor closes. -/
structure AnsweringHandler (σ ν : Type) extends Handler σ ν where
  /-- The packets that are written for a packet. -/
  answers : Packet → List Packet
  value_onMessage : ∀ context user packet, (onMessage context user packet).value = .ok ()
  writes_onMessage : ∀ context user packet, (onMessage context user packet).writes = answers packet
  closes_onMessage : ∀ context user packet, (onMessage context user packet).closes = false

/-- Every partial function is such a stage. -/
def PureStage.ofFunction (name : String) (direction : Direction)
    (function : Packet → Option Packet) : PureStage σ ν where
  name := name
  direction := direction
  run _ user packet := { value := function packet, state := user }
  function := function
  value_run _ _ _ := rfl
  writes_run _ _ _ := rfl
  closes_run _ _ _ := rfl

/-- The handler that does nothing but answer so. -/
def AnsweringHandler.ofAnswers (answers : Packet → List Packet) : AnsweringHandler σ ν where
  onActive _ user := { value := .ok (), state := user }
  onMessage _ user packet := { value := .ok (), state := user, writes := answers packet }
  onInactive _ user := { value := (), state := user }
  answers := answers
  value_onMessage _ _ _ := rfl
  writes_onMessage _ _ _ := rfl
  closes_onMessage _ _ _ := rfl

/-- What stages in a row make of a packet, as far as it comes. -/
def composed (stages : List (PureStage σ ν)) (packet : Packet) : Option Packet :=
  stages.foldlM (fun packet stage => stage.function packet) packet

/-- An application of such parts, its stages by direction. -/
structure PureApp (σ ν : Type) where
  inbound : List (PureStage σ ν)
  outbound : List (PureStage σ ν)
  handler : AnsweringHandler σ ν

namespace PureApp

/-- The application of stages that were inserted in this order. -/
def ofStages (stages : List (PureStage σ ν)) (handler : AnsweringHandler σ ν) : PureApp σ ν where
  inbound := stages.filter (·.direction = .inbound)
  outbound := stages.filter (·.direction = .outbound)
  handler := handler

/-- The packets that the handler is given for those that arrive. -/
def delivered (a : PureApp σ ν) (ps : List Packet) : List Packet :=
  ps.filterMap (composed a.inbound)

/-- The packets that the encoder is given for those that arrive. -/
def sent (a : PureApp σ ν) (ps : List Packet) : List Packet :=
  ((a.delivered ps).flatMap a.handler.answers).filterMap (composed a.outbound)

/-- The application behind the usual decoder and encoder. -/
def pipeline (a : PureApp σ ν) (names : List String) (limit : Nat) : Pipeline σ ν where
  names := names
  decoder := .packets limit
  encoder := .packets
  inbound := a.inbound.map (·.toStage)
  outbound := a.outbound.map (·.toStage)
  handler := a.handler.toHandler

theorem delivered_append (a : PureApp σ ν) (ps qs : List Packet) :
    a.delivered (ps ++ qs) = a.delivered ps ++ a.delivered qs := List.filterMap_append ..

theorem sent_append (a : PureApp σ ν) (ps qs : List Packet) :
    a.sent (ps ++ qs) = a.sent ps ++ a.sent qs := by
  simp only [sent, delivered_append, List.flatMap_append, List.filterMap_append]

end PureApp

/-- The packet that the handler is given, if the event is that. -/
def Event.delivered? : Event ν → Option Packet
  | .message _ packet => some packet
  | _ => none

/-- A queue that is filled and taken leaves the context as it was. -/
theorem Context.taken_update {c : Context} (idle : c.outbound = []) (writes : List Packet) :
    { c.update writes false with outbound := [] } = c := by
  rw [← idle]
  simp only [Context.update, Bool.or_false]

theorem Context.update_nothing (c : Context) : c.update [] false = c := by
  simp only [Context.update, List.append_nil, Bool.or_false]

namespace Live

/-- What is seen of a connection apart from its application's state. -/
structure View where
  context : Context
  source : Bytes
  sink : Bytes
  /-- The packets that the handler was given. -/
  delivered : List Packet

/-- What is seen once packets were dispatched to such an application. -/
def View.served (v : View) (a : PureApp σ ν) (ps : List Packet) : View :=
  { v with
    sink := v.sink ++ (a.sent ps).flatMap Packet.onStream
    delivered := v.delivered ++ a.delivered ps }

theorem View.served_append (v : View) (a : PureApp σ ν) (ps qs : List Packet) :
    v.served a (ps ++ qs) = (v.served a ps).served a qs := by
  simp only [served, a.sent_append, a.delivered_append, List.flatMap_append, List.append_assoc]

/-- What is seen of the connection. -/
def view (l : Live σ ν) : View where
  context := l.context
  source := l.source
  sink := l.sink
  delivered := l.journal.filterMap Event.delivered?

theorem view_record (l : Live σ ν) (e : Event ν) :
    (l.record e).view =
      { l.view with delivered := l.view.delivered ++ e.delivered?.toList } := by
  have event : [e].filterMap Event.delivered? = e.delivered?.toList := by
    rw [List.filterMap_cons]
    cases e.delivered? <;> rfl
  simp only [view, journal_record, List.filterMap_append, event]
  rfl

theorem view_absorb {α : Type} (l : Live σ ν) (r : Reaction σ ν α) :
    (l.absorb r).view = { l.view with context := l.context.update r.writes r.closes } := by
  have notes : (r.notes.map Event.note).filterMap Event.delivered? = [] := by
    rw [List.filterMap_map]
    exact List.filterMap_eq_nil_iff.mpr fun _ _ => rfl
  simp only [view, journal_absorb, List.filterMap_append, notes, List.append_nil]
  rfl

theorem view_emit (l : Live σ ν) (bytes : Bytes) :
    (l.emit bytes).view = { l.view with sink := l.view.sink ++ bytes } := by
  simp only [view, sink_emit]
  rfl

/-- An event that is no call of the handler is not seen. -/
theorem view_record_of_none (l : Live σ ν) {e : Event ν} (quiet : e.delivered? = none) :
    (l.record e).view = l.view := by
  rw [view_record, quiet, Option.toList_none, List.append_nil]

theorem view_encoded (l : Live σ ν) (user : σ) (packet : Packet) (bytes : Bytes) :
    ((emit { l with user := user } bytes).record (.encoded packet)).view =
      { l.view with sink := l.view.sink ++ bytes } := by
  rw [view_record_of_none _ rfl, view_emit]
  rfl

theorem view_decoded (l : Live σ ν) (packet : Packet) (rest : Bytes) (user : σ) :
    (l.decoded packet rest user).view = { l.view with source := rest } := by
  rw [decoded, view_record_of_none _ rfl]
  rfl

end Live

namespace Pipeline

/-! ## One round -/

theorem delivered_stageEvent (stage : Stage σ ν) (context : Context) (packet : Packet) :
    (stageEvent stage context packet).delivered? = none := by
  unfold stageEvent
  split <;> rfl

/-- Pure stages compose, and nothing else is seen of them. -/
theorem view_offer (stages : List (PureStage σ ν)) (packet : Packet) (l : Live σ ν) :
    ∃ l', offer (stages.map (·.toStage)) packet l = (composed stages packet, l') ∧
      l'.view = l.view := by
  induction stages generalizing packet l with
  | nil => exact ⟨l, rfl, rfl⟩
  | cons stage stages ih =>
    have unseen : ((l.record (stageEvent stage.toStage l.context packet)).absorb
        (stage.run l.context l.user packet)).view = l.view := by
      rw [Live.view_absorb, Live.view_record_of_none _ (delivered_stageEvent ..),
        stage.writes_run, stage.closes_run, Context.update_nothing]
      rfl
    simp only [List.map_cons, offer, stage.value_run, composed, List.foldlM_cons]
    cases stage.function packet with
    | none => exact ⟨_, rfl, unseen⟩
    | some next =>
      obtain ⟨l', offered, seen⟩ := ih next
        ((l.record (stageEvent stage.toStage l.context packet)).absorb
          (stage.run l.context l.user packet))
      exact ⟨l', offered, seen.trans unseen⟩

variable (a : PureApp σ ν) (names : List String) (limit : Nat)

/-- What is sent is encoded as far as the outbound stages let it through. -/
theorem view_send (packets : List Packet) (l : Live σ ν)
    (encodable : ∀ q ∈ packets.filterMap (composed a.outbound), ∃ bytes, Wire.encode q = .ok bytes) :
    ∃ n l', (a.pipeline names limit).send packets l = (.ok n, l') ∧
      l'.view =
        { l.view with
          sink := l.view.sink ++
            (packets.filterMap (composed a.outbound)).flatMap Packet.onStream } := by
  induction packets generalizing l with
  | nil => exact ⟨0, l, rfl, by simp⟩
  | cons packet packets ih =>
    obtain ⟨l₁, offered, unseen⟩ := view_offer a.outbound packet l
    have offered : offer (a.pipeline names limit).outbound packet l = _ := offered
    simp only [send, offered]
    cases answer : composed a.outbound packet with
    | none =>
      rw [List.filterMap_cons_none answer] at encodable ⊢
      obtain ⟨n, l', sent, seen⟩ := ih l₁ encodable
      rw [unseen] at seen
      exact ⟨n, l', sent, seen⟩
    | some passed =>
      rw [List.filterMap_cons_some answer] at encodable ⊢
      obtain ⟨⟨bytes, encodes⟩, encodable⟩ := List.forall_mem_cons.mp encodable
      obtain ⟨n, l', sent, seen⟩ :=
        ih ((Live.emit { l₁ with user := l₁.user } bytes).record (.encoded passed)) encodable
      have called : (a.pipeline names limit).encoder.encode l₁.user passed =
          (.ok bytes, l₁.user) := congrArg (·, l₁.user) encodes
      simp only [called, sent]
      refine ⟨n + 1, l', rfl, ?_⟩
      rw [seen, Live.view_encoded, unseen, List.flatMap_cons, Wire.onStream_of_encode encodes,
        List.append_assoc]

/-- A flush sends the queue. -/
theorem view_flushed (l : Live σ ν)
    (encodable : ∀ q ∈ l.context.outbound.filterMap (composed a.outbound),
      ∃ bytes, Wire.encode q = .ok bytes) :
    ∃ l', (a.pipeline names limit).flushed l = (.ok (), l') ∧
      l'.view =
        { l.view with
          context := { l.context with outbound := [] }
          sink := l.view.sink ++
            (l.context.outbound.filterMap (composed a.outbound)).flatMap Packet.onStream } := by
  obtain ⟨n, l', sent, seen⟩ := view_send a names limit l.context.outbound
    { l with context := { l.context with outbound := [] } } encodable
  refine ⟨l', ?_, seen⟩
  rw [flushed, flush, sent]

/-- The handler is given a packet, and its answers are sent. -/
theorem view_handled (packet : Packet) (l : Live σ ν) (idle : l.context.outbound = [])
    (encodable : ∀ q ∈ (a.handler.answers packet).filterMap (composed a.outbound),
      ∃ bytes, Wire.encode q = .ok bytes) :
    ∃ l', (a.pipeline names limit).flushed
        ((l.record (.message l.context packet)).absorb
          (a.handler.onMessage l.context l.user packet)) = (.ok (), l') ∧
      l'.view =
        { l.view with
          sink := l.view.sink ++
            ((a.handler.answers packet).filterMap (composed a.outbound)).flatMap Packet.onStream
          delivered := l.view.delivered ++ [packet] } := by
  have called := (l.record (.message l.context packet)).view_absorb
    (a.handler.onMessage l.context l.user packet)
  rw [Live.view_record, a.handler.writes_onMessage, a.handler.closes_onMessage] at called
  generalize (l.record (.message l.context packet)).absorb
    (a.handler.onMessage l.context l.user packet) = l₁ at called ⊢
  have context : l₁.context = l.context.update (a.handler.answers packet) false :=
    congrArg Live.View.context called
  have queue : l₁.context.outbound = a.handler.answers packet := by
    rw [context, Context.update, idle, List.nil_append]
  obtain ⟨l', flushed, seen⟩ := view_flushed a names limit l₁ (by rw [queue]; exact encodable)
  refine ⟨l', flushed, ?_⟩
  rw [seen, queue, context, Context.taken_update idle, called]
  rfl

/-- A packet that was taken is given to the handler as far as the inbound
stages let it through, and its answers are sent. -/
theorem view_dispatch (packet : Packet) (l : Live σ ν) (idle : l.context.outbound = [])
    (encodable : ∀ q ∈ a.sent [packet], ∃ bytes, Wire.encode q = .ok bytes) :
    ∃ l', (a.pipeline names limit).dispatch packet l =
        (.ok (composed a.inbound packet).isSome, l') ∧
      l'.view = l.view.served a [packet] := by
  obtain ⟨l₁, offered, unseen⟩ := view_offer a.inbound packet l
  have offered : offer (a.pipeline names limit).inbound packet l = _ := offered
  simp only [dispatch, offered]
  cases answer : composed a.inbound packet with
  | none =>
    have nobody : a.delivered [packet] = [] := List.filterMap_cons_none answer
    have nothing : a.sent [packet] = [] := by rw [PureApp.sent, nobody]; rfl
    refine ⟨l₁, rfl, ?_⟩
    simp only [unseen, Live.View.served, nobody, nothing, List.flatMap_nil, List.append_nil]
  | some passed =>
    have given : a.delivered [packet] = [passed] := List.filterMap_cons_some answer
    have written : a.sent [packet] =
        (a.handler.answers passed).filterMap (composed a.outbound) := by
      rw [PureApp.sent, given, List.flatMap_singleton]
    have context : l₁.context = l.context := congrArg Live.View.context unseen
    have accepted : ((a.pipeline names limit).handler.onMessage l₁.context l₁.user passed).value =
        .ok () := a.handler.value_onMessage ..
    rw [written] at encodable
    obtain ⟨l', flushed, seen⟩ := view_handled a names limit passed l₁ (by rw [context, idle]) encodable
    have flushed : (a.pipeline names limit).flushed ((l₁.record (.message l₁.context passed)).absorb
      ((a.pipeline names limit).handler.onMessage l₁.context l₁.user passed)) = _ := flushed
    simp only [accepted, flushed]
    refine ⟨l', rfl, ?_⟩
    rw [seen, unseen, Live.View.served, given, written]

/-! ## The whole of what arrived -/

/-- Packets that have arrived are dispatched one after the other. -/
theorem view_fireRead (ps : List Packet) (l : Live σ ν) (idle : l.context.outbound = [])
    (opened : l.context.closing = false)
    (reads : Wire.takes limit ps.length l.source = (ps.map fun p => .ok (some p), []))
    (encodable : ∀ q ∈ a.sent ps, ∃ bytes, Wire.encode q = .ok bytes) :
    ∃ l', (a.pipeline names limit).fireRead l = (.ok (a.delivered ps).length, l') ∧
      l'.view = { l.view.served a ps with source := [] } := by
  induction ps generalizing l with
  | nil =>
    have nothing : l.source = [] := congrArg Prod.snd reads
    have waiting : Wire.Waiting limit l.source := nothing ▸ Wire.waiting_nil limit
    refine ⟨l, fireRead_of_waiting rfl waiting, ?_⟩
    have source : l.view.source = [] := nothing
    have nobody : a.delivered [] = [] := rfl
    have nothing_sent : a.sent [] = [] := rfl
    simp only [Live.View.served, nobody, nothing_sent, List.flatMap_nil, List.append_nil]
    rw [← source]
  | cons p ps ih =>
    obtain ⟨rest, first, later⟩ := Wire.takes_cons reads
    have parted : p :: ps = [p] ++ ps := rfl
    rw [parted, a.sent_append, List.forall_mem_append] at encodable
    obtain ⟨l₁, dispatched, seen₁⟩ :=
      view_dispatch a names limit p (l.decoded p rest l.user) idle encodable.1
    rw [Live.view_decoded] at seen₁
    have context : l₁.context = l.context := congrArg Live.View.context seen₁
    have source : l₁.source = rest := congrArg Live.View.source seen₁
    obtain ⟨l', read, seen⟩ := ih l₁ (by rw [context, idle]) (by rw [context, opened])
      (by rw [source, later]) encodable.2
    have count : (a.delivered ps).length + (composed a.inbound p).isSome.toNat =
        (a.delivered (p :: ps)).length := by
      rw [PureApp.delivered, PureApp.delivered, List.filterMap_cons]
      cases composed a.inbound p with
      | none => rfl
      | some passed => rfl
    refine ⟨l', ?_, ?_⟩
    · rw [fireRead_of_packet rfl opened first, dispatched]
      simp only [read, tally, count]
    · rw [seen, seen₁, parted, Live.View.served_append]
      rfl

end Pipeline

/-! ## From a specification -/

/-- Insertions come to the stages, in their order. -/
theorem Spec.changeAll_insertions (stages : List (Stage σ ν)) (s : Spec σ ν) :
    s.changeAll (stages.map .stage) = { s with stages := s.stages ++ stages } := by
  induction stages generalizing s with
  | nil => simp [Spec.changeAll]
  | cons stage stages ih =>
    show (s.insert stage).changeAll (stages.map .stage) = _
    rw [ih, Spec.insert, List.append_assoc, List.singleton_append]

/-- The specification of an application of pure parts. -/
def Spec.ofPure (limit : Nat) (stages : List (PureStage σ ν)) (h : AnsweringHandler σ ν) :
    Spec σ ν :=
  ((Spec.ofHandler h.toHandler).changeAll
    (stages.map fun stage => .stage stage.toStage)).limitFrames limit

namespace Pipeline

/-- It is assembled from its stages by direction. -/
theorem assemble_ofPure (limit : Nat) (stages : List (PureStage σ ν)) (h : AnsweringHandler σ ν) :
    (Spec.ofPure limit stages h).assemble =
      (PureApp.ofStages stages h).pipeline (Spec.ofPure limit stages h).names limit := by
  have inserted : stages.map (fun stage => Spec.Change.stage stage.toStage) =
      (stages.map (·.toStage)).map .stage := by
    rw [List.map_map]
    rfl
  have parted : ∀ d : Direction, (stages.map (·.toStage)).filter (·.direction = d) =
      (stages.filter (·.direction = d)).map (·.toStage) := by
    intro d
    rw [List.filter_map]
    rfl
  have spec : Spec.ofPure limit stages h =
      { Spec.ofHandler h.toHandler with
        stages := stages.map (·.toStage), decoder := .packets limit } := by
    rw [Spec.ofPure, inserted, Spec.changeAll_insertions]
    rfl
  rw [spec]
  simp only [Spec.assemble, parted, PureApp.pipeline, PureApp.ofStages]
  rfl

/-- **Stages compose by direction, whatever the order of insertion.** Of packets
that are read back as they were encoded, the handler is given those that come
through the inbound stages, as these make them, in their order, and they are
counted. Behind the bytes to be sent are the encodings of the answers that come
through the outbound stages, as these make them, in their order. An inbound and
an outbound stage can be exchanged where they were inserted one after the
other: the names change their places, and what is done does not. -/
theorem fireRead_composes (limit : Nat) (stages : List (PureStage σ ν))
    (h : AnsweringHandler σ ν) :
    (∀ (ps : List Packet) (l : Live σ ν),
      let delivered := ps.filterMap (composed (stages.filter (·.direction = .inbound)))
      let sent := (delivered.flatMap h.answers).filterMap
        (composed (stages.filter (·.direction = .outbound)))
      l.context.outbound = [] → l.context.closing = false →
      l.source = ps.flatMap Packet.onStream →
      Wire.takes limit ps.length (ps.flatMap Packet.onStream) =
        (ps.map fun p => .ok (some p), []) →
      (∀ q ∈ sent, ∃ bytes, Wire.encode q = .ok bytes) →
      ∃ l', (Spec.ofPure limit stages h).assemble.fireRead l = (.ok delivered.length, l') ∧
        l'.journal.filterMap Event.delivered? =
          l.journal.filterMap Event.delivered? ++ delivered ∧
        (∀ q ∈ sent, Wire.encode q = .ok q.onStream) ∧
        l'.sink = l.sink ++ sent.flatMap Packet.onStream ∧
        l'.source = [] ∧ l'.context = l.context) ∧
    (∀ (s : Spec σ ν) (earlier later : List (Spec.Change σ ν)) (a b : Stage σ ν),
      a.direction ≠ b.direction →
      let one := s.changeAll (earlier ++ .stage a :: .stage b :: later)
      let other := s.changeAll (earlier ++ .stage b :: .stage a :: later)
      other.assemble = one.assemble.named other.names ∧
      (∃ before behind, one.names = before ++ a.name :: b.name :: behind ∧
        other.names = before ++ b.name :: a.name :: behind) ∧
      ∀ l, other.assemble.fireRead l = one.assemble.fireRead l) := by
  refine ⟨?_, ?_⟩
  · intro ps l delivered sent idle opened source reads encodable
    obtain ⟨l', read, seen⟩ := view_fireRead (PureApp.ofStages stages h)
      (Spec.ofPure limit stages h).names limit ps l idle opened (source ▸ reads) encodable
    rw [← assemble_ofPure] at read
    refine ⟨l', read, congrArg Live.View.delivered seen, ?_, congrArg Live.View.sink seen,
      congrArg Live.View.source seen, congrArg Live.View.context seen⟩
    intro q member
    obtain ⟨bytes, encodes⟩ := encodable q member
    rw [encodes, Wire.onStream_of_encode encodes]
  · intro s earlier later a b different one other
    have exchanged : Spec.Exchanged a b one other := by
      have inserted := Spec.exchanged_insert a b (s.changeAll earlier)
      have changed := inserted.changeAll later
      simp only [one, other, Spec.changeAll, List.foldl_append, List.foldl_cons]
      exact changed
    have assembled := exchanged.assemble different
    refine ⟨assembled, exchanged.names_eq, ?_⟩
    intro l
    rw [assembled, fireRead_named]

/-- Between two outbound stages, a stage that keeps heartbeats and one that
doubles commands: of two answers to the packet behind a heartbeat one is too
long to go out. The inbound stage and the outbound stage behind it can be
exchanged. -/
theorem fireRead_composes_in_mixed_order :
    let mark : PureStage Unit Unit :=
      .ofFunction "mark" .outbound fun p => some { p with flags := p.flags + 1 }
    let calm : PureStage Unit Unit :=
      .ofFunction "calm" .inbound fun p => if p.isHeartbeat then none else some p
    let short : PureStage Unit Unit :=
      .ofFunction "short" .outbound fun p => if p.body.length ≤ 1 then some p else none
    let double : PureStage Unit Unit :=
      .ofFunction "double" .inbound fun p => some { p with cmd := p.cmd + p.cmd }
    let h : AnsweringHandler Unit Unit := .ofAnswers fun p => [p, { p with body := p.body ++ p.body }]
    let address : Address := .ofIp (.v4 127 0 0 1) (.number 3000)
    let context : Context := { id := 1, remote := address, localAddress := address }
    let l : Live Unit Unit :=
      { context := context, user := (), encoded := #[0xDF]
        source := [0xDF, 0, 0, 0, 1, 3, 0, 0, 0, 0, 9, 11, 65] }
    (∃ l', (Spec.ofPure 16 [mark, calm, short, double] h).assemble.fireRead l = (.ok 1, l') ∧
      l'.journal.filterMap Event.delivered? = [{ cmd := 6, session := 9, body := [65] }] ∧
      l'.sink = [0xDF, 0, 0, 0, 1, 6, 1, 0, 0, 0, 9, 15, 65]) ∧
    ∀ l, (Spec.ofPure 16 [mark, short, calm, double] h).assemble.fireRead l =
      (Spec.ofPure 16 [mark, calm, short, double] h).assemble.fireRead l := by
  intro mark calm short double h address context l
  have composes := fireRead_composes 16 [mark, calm, short, double] h
  refine ⟨?_, ?_⟩
  · obtain ⟨l', read, given, -, sent, -⟩ := composes.1
      [.heartbeat, { cmd := 3, session := 9, body := [65] }] l rfl rfl (by cbv) (by cbv)
      (List.forall_mem_singleton.mpr ⟨[0, 0, 0, 1, 6, 1, 0, 0, 0, 9, 15, 65], by cbv⟩)
    exact ⟨l', read, given, sent⟩
  · exact (composes.2 (Spec.ofHandler h.toHandler) [.stage mark.toStage]
      [.stage double.toStage, .limit 16] calm.toStage short.toStage (by decide)).2.2

end Pipeline

end PacketServer
