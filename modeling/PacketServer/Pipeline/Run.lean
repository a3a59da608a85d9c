import PacketServer.Pipeline.Spec

/-!
# Running a pipeline

Packets decoded from what has arrived go through the inbound stages to the
handler; after each of them the packets that were queued go through the
outbound stages to the encoder.

A flush takes the packets that are queued when it starts; those that outbound
stages queue meanwhile stay. A packet that is kept back on its way in is not
followed by a flush, and neither is a handler that fails. Decoding stops when
a close was requested, but not at the end of a stream.

## Main results

* `journal_record`, `sink_emit` — the journal and the encoded bytes only grow
  at their ends.
* `source_flush`, `source_dispatch` — only decoding takes bytes that arrived.
* `fireRead_of_nothing` — if nothing is decoded, nothing happens.
-/

namespace PacketServer

/-- The parts of a connection's pipeline, the stages by direction. -/
structure Pipeline (σ ν : Type) where
  names : List String
  decoder : Decoder σ
  encoder : Encoder σ
  inbound : List (Stage σ ν)
  outbound : List (Stage σ ν)
  handler : Handler σ ν

/-- A connection as its pipeline sees it. -/
structure Live (σ ν : Type) where
  context : Context
  /-- The application's state. -/
  user : σ
  /-- The bytes that arrived and are not decoded. -/
  source : Bytes := []
  /-- The bytes that were encoded and are not sent; see `Live.sink`. -/
  encoded : Array UInt8 := #[]
  /-- Whether the server's work was cancelled. -/
  cancelled : Bool := false
  /-- What happened so far; see `Live.journal`. -/
  past : Array (Event ν) := #[]

variable {σ ν α : Type}

/-- The pipeline that a specification describes. -/
def Spec.assemble (s : Spec σ ν) : Pipeline σ ν where
  names := s.names
  decoder := s.decoder
  encoder := s.encoder
  inbound := s.stages.filter (·.direction = .inbound)
  outbound := s.stages.filter (·.direction = .outbound)
  handler := s.handler

namespace Live

/-- The bytes that were encoded and are not sent. -/
def sink (l : Live σ ν) : Bytes := l.encoded.toList

/-- What happened so far. -/
def journal (l : Live σ ν) : List (Event ν) := l.past.toList

/-- Writes an event into the journal. -/
def record (l : Live σ ν) (e : Event ν) : Live σ ν := { l with past := l.past.push e }

/-- Puts bytes behind those that were encoded. -/
def emit (l : Live σ ν) (bytes : Bytes) : Live σ ν := { l with encoded := l.encoded ++ bytes }

/-- Lets a callback's reaction take effect. -/
def absorb (l : Live σ ν) (r : Reaction σ ν α) : Live σ ν :=
  { l with
    context := l.context.update r.writes r.closes
    user := r.state
    cancelled := l.cancelled || r.cancels
    past := l.past ++ r.notes.map Event.note }

/-- A packet was taken: the bytes behind it are left. -/
def decoded (l : Live σ ν) (packet : Packet) (rest : Bytes) (user : σ) : Live σ ν :=
  { l with source := rest, user := user }.record (.decoded packet)

@[simp] theorem journal_record (l : Live σ ν) (e : Event ν) :
    (l.record e).journal = l.journal ++ [e] := by
  simp [journal, record]

@[simp] theorem journal_absorb (l : Live σ ν) (r : Reaction σ ν α) :
    (l.absorb r).journal = l.journal ++ r.notes.map .note := by
  simp [journal, absorb]

@[simp] theorem sink_emit (l : Live σ ν) (bytes : Bytes) :
    (l.emit bytes).sink = l.sink ++ bytes := by
  simp [sink, emit]

@[simp] theorem source_record (l : Live σ ν) (e : Event ν) : (l.record e).source = l.source := rfl

@[simp] theorem source_absorb (l : Live σ ν) (r : Reaction σ ν α) :
    (l.absorb r).source = l.source := rfl

end Live

namespace Pipeline

/-- The event of a stage being given a packet. -/
def stageEvent (stage : Stage σ ν) (context : Context) (packet : Packet) : Event ν :=
  match stage.direction with
  | .inbound => .inbound stage.name context packet
  | .outbound => .outbound stage.name context packet

/-- Gives a packet to stages one after the other; what comes out behind the
last one, if none of them keeps it. -/
def offer : List (Stage σ ν) → Packet → Live σ ν → Option Packet × Live σ ν
  | [], packet, l => (some packet, l)
  | stage :: stages, packet, l =>
    let reaction := stage.run l.context l.user packet
    let l := (l.record (stageEvent stage l.context packet)).absorb reaction
    match reaction.value with
    | none => (none, l)
    | some packet => offer stages packet l

/-- Sends packets through the outbound stages and the encoder; how many were
encoded. -/
def send (p : Pipeline σ ν) : List Packet → Live σ ν → Except CodecError Nat × Live σ ν
  | [], l => (.ok 0, l)
  | packet :: packets, l =>
    match offer p.outbound packet l with
    | (none, l) => send p packets l
    | (some packet, l) =>
      match p.encoder.encode l.user packet with
      | (.error e, user) => (.error e, { l with user := user })
      | (.ok bytes, user) =>
        let l := (Live.emit { l with user := user } bytes).record (.encoded packet)
        match send p packets l with
        | (.ok n, l) => (.ok (n + 1), l)
        | (.error e, l) => (.error e, l)

/-- Sends the packets that are queued now. After a fault of the encoder the
others of them are lost. -/
def flush (p : Pipeline σ ν) (l : Live σ ν) : Except CodecError Nat × Live σ ν :=
  p.send l.context.outbound { l with context := { l.context with outbound := [] } }

/-- A flush of which only the fault matters. -/
def flushed (p : Pipeline σ ν) (l : Live σ ν) : Except Fault Unit × Live σ ν :=
  match p.flush l with
  | (.ok _, l) => (.ok (), l)
  | (.error e, l) => (.error (.codec e), l)

/-- Hands a decoded packet to the stages and the handler and sends what was
queued; whether the packet reached the handler. -/
def dispatch (p : Pipeline σ ν) (packet : Packet) (l : Live σ ν) :
    Except Fault Bool × Live σ ν :=
  match offer p.inbound packet l with
  | (none, l) => (.ok false, l)
  | (some packet, l) =>
    let reaction := p.handler.onMessage l.context l.user packet
    let l := (l.record (.message l.context packet)).absorb reaction
    match reaction.value with
    | .error e => (.error e, l)
    | .ok () =>
      match p.flushed l with
      | (.ok (), l) => (.ok true, l)
      | (.error e, l) => (.error e, l)

/-- Tells the handler that the connection is up and sends what it queued. -/
def fireActive (p : Pipeline σ ν) (l : Live σ ν) : Except Fault Unit × Live σ ν :=
  let reaction := p.handler.onActive l.context l.user
  let l := (l.record (.active l.context)).absorb reaction
  match reaction.value with
  | .error e => (.error e, l)
  | .ok () => p.flushed l

/-- Tells the handler that the connection is going away. -/
def fireInactive (p : Pipeline σ ν) (l : Live σ ν) : Live σ ν :=
  (l.record (.inactive l.context)).absorb (p.handler.onInactive l.context l.user)

@[simp] theorem source_offer (stages : List (Stage σ ν)) (packet : Packet) (l : Live σ ν) :
    (offer stages packet l).2.source = l.source := by
  induction stages generalizing packet l with
  | nil => rfl
  | cons stage stages ih =>
    simp only [offer]
    split
    · rfl
    · rw [ih]; rfl

@[simp] theorem source_send (p : Pipeline σ ν) (packets : List Packet) (l : Live σ ν) :
    (p.send packets l).2.source = l.source := by
  induction packets generalizing l with
  | nil => rfl
  | cons packet packets ih =>
    have ho := source_offer p.outbound packet l
    simp only [send]
    split
    · rename_i l' he
      rw [he] at ho
      rw [ih]; exact ho
    · rename_i packet' l' he
      rw [he] at ho
      split
      · exact ho
      · rename_i bytes user henc
        have hs := ih ((Live.emit { l' with user := user } bytes).record (.encoded packet'))
        split <;> rename_i hsend <;> rw [hsend] at hs <;> exact hs.trans ho

@[simp] theorem source_flush (p : Pipeline σ ν) (l : Live σ ν) :
    (p.flush l).2.source = l.source := by
  simp [flush]

@[simp] theorem source_flushed (p : Pipeline σ ν) (l : Live σ ν) :
    (p.flushed l).2.source = l.source := by
  have h := source_flush p l
  unfold flushed
  split <;> rename_i he <;> rw [he] at h <;> exact h

@[simp] theorem source_dispatch (p : Pipeline σ ν) (packet : Packet) (l : Live σ ν) :
    (p.dispatch packet l).2.source = l.source := by
  have ho := source_offer p.inbound packet l
  simp only [dispatch]
  split
  · rename_i he; rw [he] at ho; exact ho
  · rename_i packet' l' he
    rw [he] at ho
    split
    · exact ho
    · generalize hl : (l'.record _).absorb _ = l₂
      have hl₂ : l₂.source = l.source := by rw [← hl]; exact ho
      have hf := source_flushed p l₂
      split <;> rename_i hfe <;> rw [hfe] at hf <;> exact hf.trans hl₂

theorem source_of_dispatch {p : Pipeline σ ν} {packet : Packet} {rest : Bytes} {user : σ}
    {l l' : Live σ ν} {result : Except Fault Bool}
    (h : p.dispatch packet (l.decoded packet rest user) = (result, l')) : l'.source = rest := by
  have hs := source_dispatch p packet (l.decoded packet rest user)
  rw [h] at hs
  exact hs

/-- Decodes and dispatches until no whole packet is left, a close was
requested or a fault is met; how many packets reached the handler. -/
def fireRead (p : Pipeline σ ν) (l : Live σ ν) : Except Fault Nat × Live σ ν :=
  if l.context.closing then (.ok 0, l)
  else
    match h : p.decoder.decode l.user l.source with
    | ((.error e, rest), user) => (.error (.codec e), { l with source := rest, user := user })
    | ((.ok none, rest), user) => (.ok 0, { l with source := rest, user := user })
    | ((.ok (some packet), rest), user) =>
      match hd : p.dispatch packet (l.decoded packet rest user) with
      | (.error e, l) => (.error e, l)
      | (.ok delivered, l') =>
        have : l'.source.length < l.source.length := by
          rw [source_of_dispatch hd]
          exact p.decoder.decode_shrinks h
        match fireRead p l' with
        | (.ok n, l) => (.ok (n + delivered.toNat), l)
        | (.error e, l) => (.error e, l)
termination_by l.source.length

/-- If nothing is decoded, nothing happens. -/
theorem fireRead_of_nothing {p : Pipeline σ ν} {l : Live σ ν} (hopen : l.context.closing = false)
    (h : p.decoder.decode l.user l.source = ((.ok none, l.source), l.user)) :
    p.fireRead l = (.ok 0, l) := by
  rw [fireRead, if_neg (by simp [hopen])]
  split <;> rename_i e <;> rw [h] at e <;> simp at e
  obtain ⟨rfl, rfl⟩ := e
  rfl

/-- Decodes and dispatches what is left at the end of a stream, until nothing
is or a fault is met. -/
def fireEnd (p : Pipeline σ ν) (l : Live σ ν) : Except Fault Unit × Live σ ν :=
  match h : p.decoder.decodeEnd l.user l.source with
  | ((.error e, rest), user) => (.error (.codec e), { l with source := rest, user := user })
  | ((.ok none, rest), user) => (.ok (), { l with source := rest, user := user })
  | ((.ok (some packet), rest), user) =>
    match hd : p.dispatch packet (l.decoded packet rest user) with
    | (.error e, l) => (.error e, l)
    | (.ok _, l') =>
      have : l'.source.length < l.source.length := by
        rw [source_of_dispatch hd]
        exact p.decoder.decodeEnd_shrinks h
      fireEnd p l'
termination_by l.source.length

/-- A pipeline in a log. -/
def text (p : Pipeline σ ν) : String :=
  Text.record "Pipeline" [("stages", Spec.namesText p.names)]

end Pipeline

end PacketServer
