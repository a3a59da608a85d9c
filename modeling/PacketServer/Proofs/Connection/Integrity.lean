import PacketServer.Proofs.Connection.Conduct
import PacketServer.Proofs.Connection.Segmentation

/-!
# What a stream is given

A stream takes a connection's bytes in pieces of any size, takes nothing at
all, or fails. Whatever it does, the bytes that it took are at every moment a
front part of the encodings of the packets that the encoder took, and they are
all of them once a connection ended well.

A journal is *faithful* if this holds of each of its front parts. Events that
are none of the stream keep it faithful. Those of writing out do because the
account is balanced before them: what they may send is what is encoded and not
sent. A stream that broke leaves the account open, and nothing is sent any more.

## Main results

* `Acts.faithful` — one act keeps a journal faithful, and the account balanced
  unless it comes to a fault.
* `Chronicle.faithful` — a chronicle does.
* `run_sends_encodings` — a whole run does.
-/

namespace PacketServer

variable {σ ν : Type}

/-- At every moment what the stream took is a front part of what was encoded. -/
def Faithful (events : List (Event ν)) : Prop :=
  ∀ past, past <+: events → sentBytes past <+: encodings past

theorem faithful_nil : Faithful ([] : List (Event ν)) := by
  intro past hpast
  rw [List.prefix_nil.mp hpast]
  exact List.nil_prefix

/-- Moments behind a faithful journal are looked at separately. -/
theorem Faithful.append {events more : List (Event ν)} (faithful : Faithful events)
    (next : ∀ past, past <+: more → sentBytes (events ++ past) <+: encodings (events ++ past)) :
    Faithful (events ++ more) := by
  intro past hpast
  rcases List.prefix_or_prefix_of_prefix hpast (List.prefix_append events more) with early | late
  · exact faithful past early
  · obtain ⟨behind, rfl⟩ := late
    exact next behind ((List.prefix_append_right_inj events).mp hpast)

/-- Events that send nothing leave a journal faithful. -/
theorem Faithful.append_quiet {events more : List (Event ν)} (faithful : Faithful events)
    (quiet : ∀ e ∈ more, sentBytes [e] = []) : Faithful (events ++ more) := by
  apply faithful.append
  intro past hpast
  have nothing : sentBytes past = [] := by
    have hquiet : ∀ e ∈ past, sentBytes [e] = [] := fun e he => quiet e (hpast.subset he)
    clear hpast
    induction past with
    | nil => rfl
    | cons e past ih =>
      have first := hquiet e (List.mem_cons_self ..)
      have later := ih fun e' he' => hquiet e' (List.mem_cons_of_mem _ he')
      rw [show e :: past = [e] ++ past from rfl, sentBytes_append, first, later]
      rfl
  rw [sentBytes_append, nothing, List.append_nil, encodings_append]
  exact (faithful events List.prefix_rfl).trans (List.prefix_append _ _)

/-- Events of the stream leave a journal faithful if what they send is a front
part of what is encoded and not sent. -/
theorem Faithful.append_sent {events more : List (Event ν)} {unsent : Bytes}
    (faithful : Faithful events) (balanced : sentBytes events ++ unsent = encodings events)
    (stream : ∀ e ∈ more, e.isOfStream = true) (part : sentBytes more <+: unsent) :
    Faithful (events ++ more) := by
  apply faithful.append
  rintro past ⟨behind, rfl⟩
  have hpart : sentBytes past <+: unsent := by
    rw [sentBytes_append] at part
    exact (List.prefix_append _ _).trans part
  have hencodings : encodings past = [] :=
    encodings_of_stream fun e he => stream e (List.mem_append_left _ he)
  rw [sentBytes_append, encodings_append, hencodings, List.append_nil, ← balanced]
  exact (List.prefix_append_right_inj _).mpr hpart

theorem sentBytes_of_pipeline {e : Event ν} (h : e.isOfPipeline = true) : sentBytes [e] = [] := by
  cases e <;> first | rfl | simp [Event.isOfPipeline] at h

theorem sentBytes_note {notes : List ν} {e : Event ν} (h : e ∈ notes.map Event.note) :
    sentBytes [e] = [] :=
  sentBytes_of_pipeline (Pipeline.isOfPipeline_note h)

namespace Pipeline

variable {p : Pipeline σ ν} {l l' : Live σ ν} {act : Act ν} {acts : List (Act ν)}
  {fault : Option Fault}

theorem hello_balanced (usual : p.encoder = .packets) (h : l.Balanced) : (p.hello l).Balanced :=
  (Step.active l).balanced (p := p) usual h

/-- **One act keeps a journal faithful.** -/
theorem Acts.faithful (usual : p.encoder = .packets) (step : Acts p l act fault l')
    (balanced : l.Balanced) (faithful : Faithful l.journal) :
    Faithful l'.journal ∧ (fault = none → l'.Balanced) := by
  have hjournal := step.journal
  cases step with
  | @greeted l result deeds fires trail ungreeted clear =>
    constructor
    · rw [hjournal]
      apply faithful.append_quiet
      intro e he
      rcases List.mem_append.mp he with greeting | later
      · rcases List.mem_cons.mp greeting with rfl | note
        · rfl
        · exact sentBytes_note note
      · exact sentBytes_of_pipeline (trail.isOfPipeline e later)
    · intro _
      exact trail.steps.balanced usual (hello_balanced usual balanced)
  | looked poll opened uncancelled => exact ⟨faithful, fun _ => balanced⟩
  | @dispatched l late packet rest user result deeds opened takes dispatches trail clear =>
    constructor
    · rw [hjournal]
      apply faithful.append_quiet
      intro e he
      rcases List.mem_cons.mp he with rfl | later
      · rfl
      · exact sentBytes_of_pipeline (trail.isOfPipeline e later)
    · intro _
      have taken : Step p l (l.decoded packet rest user) := by
        cases late with
        | false => exact .taken (.inl takes)
        | true => exact .taken (.inr takes)
      exact trail.steps.balanced usual (taken.balanced usual balanced)
  | left opened leaves => exact ⟨faithful, fun _ => balanced⟩
  | garbled opened fails => exact ⟨faithful, fun h => by simp at h⟩
  | @sent events cancels transfers whole =>
    have stream : ∀ e ∈ events, e.isOfStream = true :=
      fun e he => isOfStream_of_transfer (transfers e he)
    constructor
    · rw [hjournal]
      exact faithful.append_sent balanced stream (whole ▸ List.prefix_rfl)
    · -- All that was encoded is sent, and the encoder took nothing meanwhile.
      intro _
      show sentBytes _ ++ [] = encodings _
      rw [hjournal, Act.events, List.append_nil, sentBytes_append, encodings_append, whole,
        encodings_of_stream stream, List.append_nil]
      exact balanced
  | @broken events cancels e transfers part =>
    have stream : ∀ e ∈ events, e.isOfStream = true :=
      fun e he => isOfStream_of_transfer (transfers e he)
    constructor
    · rw [hjournal]
      exact faithful.append_sent balanced stream part
    · intro h
      simp at h

/-- A chronicle keeps a journal faithful, whether or not a fault ends it. -/
theorem Chronicle.faithful (usual : p.encoder = .packets) (chronicle : Chronicle p l acts fault l')
    (balanced : l.Balanced) (faithful : Faithful l.journal) :
    Faithful l'.journal ∧ (fault = none → l'.Balanced) := by
  induction chronicle with
  | done l => exact ⟨faithful, fun _ => balanced⟩
  | fault step => exact step.faithful usual balanced faithful
  | more step _ ih =>
    obtain ⟨faithful', balanced'⟩ := step.faithful usual balanced faithful
    exact ih (balanced' rfl) faithful'

end Pipeline

namespace Connection

/-- The farewell sends nothing and encodes nothing. -/
theorem farewell_faithful {k : Connection σ ν} (faithful : Faithful k.live.journal) :
    Faithful k.farewell.live.journal ∧
      encodings k.farewell.live.journal = encodings k.live.journal := by
  rw [farewell_journal]
  constructor
  · apply faithful.append_quiet
    intro e he
    rcases List.mem_cons.mp he with rfl | later
    · rfl
    · rcases List.mem_append.mp later with note | last
      · exact sentBytes_note note
      · rw [List.mem_singleton.mp last]
        rfl
  · rw [encodings_append]
    show _ ++ encodings (_ ++ [.shutdown]) = _
    rw [encodings_append, encodings_notes]
    exact List.append_nil _

/-- **A stream is given the encodings of the packets, in order.** At every moment
of a run the bytes that the stream took are a front part of the encodings of the
packets that the encoder took; none of them are missing once the run ended well. -/
theorem run_sends_encodings {spec : Spec σ ν} (usual : spec.encoder = .packets)
    (context : Context) (user : σ) (stream : Stream) (cancelled : Bool) (polls : List Poll)
    (pool : BufferPool) :
    let a := (ofSpec spec context user stream cancelled).run polls pool
    (∀ past, past <+: a.2.1.live.journal → sentBytes past <+: encodings past) ∧
      (∀ reason, a.1 = .ok reason →
        sentBytes a.2.1.live.journal = encodings a.2.1.live.journal ∧ a.2.1.live.sink = []) := by
  intro a
  obtain ⟨acts, serves⟩ := serve_serves (ofSpec spec context user stream cancelled) polls
  have balanced : (ofSpec spec context user stream cancelled).live.Balanced := rfl
  obtain ⟨faithful, account⟩ := serves.chronicle.faithful usual balanced faithful_nil
  obtain ⟨farewell, hencodings⟩ := farewell_faithful faithful
  refine ⟨farewell, ?_⟩
  intro reason hreason
  have hresult : ((ofSpec spec context user stream cancelled).serve polls).1 = .ok reason := hreason
  have spent := serves.spent reason hresult
  have hbalanced := account (by rw [hresult]; rfl)
  obtain ⟨hsent, hsink⟩ := farewell_sends ((ofSpec spec context user stream cancelled).serve polls).2
  constructor
  · calc sentBytes a.2.1.live.journal
        = sentBytes ((ofSpec spec context user stream cancelled).serve polls).2.live.journal := hsent
      _ = encodings ((ofSpec spec context user stream cancelled).serve polls).2.live.journal := by
          rw [Live.Balanced, spent, List.append_nil] at hbalanced
          exact hbalanced
      _ = encodings a.2.1.live.journal := hencodings.symm
  · exact hsink.trans spent

/-- A packet is echoed to a stream that takes five bytes, is not ready, takes one
and then the rest; another one to a stream that takes nothing after five. -/
theorem run_sends_encodings_in_parts :
    let packet : Bytes := [0, 0, 0, 5, 7, 0, 0, 0, 0, 0, 2, 104, 101, 108, 108, 111]
    let spec : Spec Unit Unit := .ofHandler .echo
    let slow : Stream := { writes := [.accept 5, .pending, .accept 1] }
    let stuck : Stream := { writes := [.accept 5, .accept 0] }
    let polls : List Poll := [{ answer := some (.ok packet) }]
    let a := (ofSpec spec loopback () slow false).run polls (.ofPolicy (.pooled 4 256))
    let b := (ofSpec spec loopback () stuck false).run polls (.ofPolicy (.pooled 4 256))
    spec.encoder = .packets ∧ a.1.toOption = some .eof ∧ encodings a.2.1.live.journal = packet ∧
      sentBytes a.2.1.live.journal = packet ∧ sentBytes b.2.1.live.journal = packet.take 5 ∧
      ∀ past, past <+: b.2.1.live.journal → sentBytes past <+: encodings past := by
  intro packet spec slow stuck polls a b
  have ended : a.1.toOption = some .eof := by decide +kernel
  have encoded : encodings a.2.1.live.journal = packet := by decide +kernel
  have cut : sentBytes b.2.1.live.journal = packet.take 5 := by decide +kernel
  have usual : spec.encoder = .packets := rfl
  have whole := (run_sends_encodings usual loopback () slow false polls
    (.ofPolicy (.pooled 4 256))).2 .eof (ok_of_toOption ended)
  have always := (run_sends_encodings usual loopback () stuck false polls
    (.ofPolicy (.pooled 4 256))).1
  exact ⟨usual, ended, encoded, whole.1.trans encoded, cut, always⟩

end Connection

end PacketServer
