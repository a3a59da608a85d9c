import PacketServer.Connection.Run
import PacketServer.Proofs.Pipeline.Steps
import PacketServer.Proofs.Wire.RoundTrip

/-!
# What a connection puts out

A pipeline encodes packets, and the connection writes what was encoded. The
account of the two is *balanced* if the bytes that the stream took, with those
that are still to be sent, are the encodings of the packets that the encoder
took, in that order. Every step of a pipeline with the usual encoder keeps the
balance, and so does writing to a stream that takes whatever it is given.

## Main results

* `Steps.balanced` — what a pipeline does keeps the account balanced.
* `Steps.sentBytes_eq` — and sends nothing.
* `Stream.send_sound` — what a stream takes of a byte string.
* `writeOut_eq` — writing out, by what the stream makes of the bytes.
* `writeOut_of_willing` — what writing to a willing stream comes to.
* `Written.balanced` — it keeps the account balanced.
-/

namespace PacketServer

variable {σ ν α : Type}

/-- The packet that the encoder took, if that is the event. -/
def Event.packetOut? : Event ν → Option Packet
  | .encoded packet => some packet
  | _ => none

/-- The encodings of the packets that the encoder took, by the journal. -/
def encodings (events : List (Event ν)) : Bytes :=
  (events.filterMap Event.packetOut?).flatMap Packet.onStream

/-- The bytes that the stream took and those that are to be sent are the
encodings of the packets that the encoder took. -/
def Live.Balanced (l : Live σ ν) : Prop := sentBytes l.journal ++ l.sink = encodings l.journal

theorem encodings_append (a b : List (Event ν)) :
    encodings (a ++ b) = encodings a ++ encodings b := by
  simp only [encodings, List.filterMap_append, List.flatMap_append]

theorem sentBytes_notes (notes : List ν) : sentBytes (notes.map Event.note) = [] := by
  induction notes with
  | nil => rfl
  | cons note notes ih => exact ih

theorem encodings_notes (notes : List ν) : encodings (notes.map Event.note) = [] := by
  induction notes with
  | nil => rfl
  | cons note notes ih => exact ih

theorem sentBytes_event {e : Event ν} (h : e.isOfStream = false) : sentBytes [e] = [] := by
  cases e <;> first | rfl | simp [Event.isOfStream] at h

theorem packetOut?_of_stream {e : Event ν} (h : e.isOfStream = true) : e.packetOut? = none := by
  cases e <;> first | rfl | simp [Event.isOfStream] at h

theorem encodings_of_stream {events : List (Event ν)} (h : ∀ e ∈ events, e.isOfStream = true) :
    encodings events = [] := by
  have hnone : events.filterMap Event.packetOut? = [] :=
    List.filterMap_eq_nil_iff.mpr fun e he => packetOut?_of_stream (h e he)
  rw [encodings, hnone, List.flatMap_nil]

/-! ## The pipeline -/

namespace Pipeline

variable {p : Pipeline σ ν} {l l' : Live σ ν}

/-- A callback's event and its reaction leave the account as it is. -/
theorem balanced_callback {e : Event ν} (hstream : e.isOfStream = false)
    (hout : e.packetOut? = none) (r : Reaction σ ν α) (h : l.Balanced) :
    ((l.record e).absorb r).Balanced := by
  have hencodings : encodings [e] = [] := by
    rw [encodings, List.filterMap_cons_none hout]; rfl
  have hsink : ((l.record e).absorb r).sink = l.sink := rfl
  rw [Live.Balanced, Live.journal_absorb, Live.journal_record, hsink]
  simp only [sentBytes_append, encodings_append, sentBytes_event hstream, hencodings,
    sentBytes_notes, encodings_notes, List.append_nil]
  exact h

theorem stageEvent_isOfStream (stage : Stage σ ν) (context : Context) (packet : Packet) :
    (stageEvent stage context packet).isOfStream = false := by
  unfold stageEvent
  split <;> rfl

theorem stageEvent_packetOut? (stage : Stage σ ν) (context : Context) (packet : Packet) :
    (stageEvent stage context packet).packetOut? = none := by
  unfold stageEvent
  split <;> rfl

/-- A packet that is encoded counts on both sides. -/
theorem balanced_encoded {packet : Packet} {bytes : Bytes} {user : σ}
    (hencode : Wire.encode packet = .ok bytes) (h : l.Balanced) :
    ((Live.emit { l with user := user } bytes).record (.encoded packet)).Balanced := by
  have hsink : ((Live.emit { l with user := user } bytes).record (.encoded packet)).sink =
      l.sink ++ bytes := Live.sink_emit { l with user := user } bytes
  have hjournal : (Live.emit { l with user := user } bytes).journal = l.journal := rfl
  have hone : encodings [(.encoded packet : Event ν)] = bytes := by
    show packet.onStream ++ [] = bytes
    rw [List.append_nil, Wire.onStream_of_encode hencode]
  rw [Live.Balanced, Live.journal_record, hsink, hjournal, sentBytes_append, encodings_append,
    sentBytes_event rfl, hone, List.append_nil, ← List.append_assoc, h]

theorem Step.balanced (usual : p.encoder = .packets) (step : Step p l l') (h : l.Balanced) :
    l'.Balanced := by
  cases step with
  | offered packet member =>
    exact balanced_callback (stageEvent_isOfStream ..) (stageEvent_packetOut? ..) _ h
  | message packet => exact balanced_callback rfl rfl _ h
  | active => exact balanced_callback rfl rfl _ h
  | inactive => exact balanced_callback rfl rfl _ h
  | dequeued => exact h
  | @encoded packet bytes user encodes =>
    -- The one step that changes the account, and it changes both sides of it.
    rw [usual] at encodes
    exact balanced_encoded (congrArg Prod.fst encodes) h
  | refused refuses => exact h
  | @taken packet rest user takes =>
    have hjournal : (l.decoded packet rest user).journal = l.journal ++ [.decoded packet] :=
      Live.journal_record _ _
    have hsink : (l.decoded packet rest user).sink = l.sink := rfl
    have hnothing : encodings [(.decoded packet : Event ν)] = [] := rfl
    rw [Live.Balanced, hjournal, hsink, sentBytes_append, encodings_append, sentBytes_event rfl,
      hnothing, List.append_nil, List.append_nil, h]
  | left none leaves => exact h

/-- What a pipeline does keeps the account balanced. -/
theorem Steps.balanced (usual : p.encoder = .packets) (steps : Steps p l l') (h : l.Balanced) :
    l'.Balanced :=
  steps.invariant (fun step hl => step.balanced usual hl) h

theorem sentBytes_callback (l : Live σ ν) {e : Event ν} (hstream : e.isOfStream = false)
    (r : Reaction σ ν α) : sentBytes ((l.record e).absorb r).journal = sentBytes l.journal := by
  rw [Live.journal_absorb, Live.journal_record]
  simp only [sentBytes_append, sentBytes_event hstream, sentBytes_notes, List.append_nil]

theorem Step.sentBytes_eq (step : Step p l l') : sentBytes l'.journal = sentBytes l.journal := by
  cases step with
  | offered packet member => exact sentBytes_callback l (stageEvent_isOfStream ..) _
  | message packet => exact sentBytes_callback l rfl _
  | active => exact sentBytes_callback l rfl _
  | inactive => exact sentBytes_callback l rfl _
  | dequeued => rfl
  | @encoded packet bytes user encodes =>
    have hjournal : (Live.emit { l with user := user } bytes).journal = l.journal := rfl
    rw [Live.journal_record, hjournal, sentBytes_append, sentBytes_event rfl, List.append_nil]
  | refused refuses => rfl
  | @taken packet rest user takes =>
    have hjournal : (l.decoded packet rest user).journal = l.journal ++ [.decoded packet] :=
      Live.journal_record _ _
    rw [hjournal, sentBytes_append, sentBytes_event rfl, List.append_nil]
  | left none leaves => rfl

/-- A pipeline sends nothing itself. -/
theorem Steps.sentBytes_eq (steps : Steps p l l') : sentBytes l'.journal = sentBytes l.journal :=
  steps.invariant (I := fun m => sentBytes m.journal = sentBytes l.journal)
    (fun step h => step.sentBytes_eq.trans h) rfl

end Pipeline

/-! ## The stream -/

/-- Whether the event is one of writing to the stream. -/
def Event.isTransfer : Event ν → Bool
  | .wrote _ | .writeFailed | .flushed => true
  | _ => false

theorem isOfStream_of_transfer {e : Event ν} (h : e.isTransfer = true) : e.isOfStream = true := by
  cases e <;> first | rfl | simp [Event.isTransfer] at h

namespace Stream

/-- Writing shows in the journal as such. -/
theorem transmit_transfers (writes : List WriteStep) (bytes : Bytes) :
    ∀ e ∈ (transmit writes bytes (ν := ν)).events, e.isTransfer = true := by
  induction writes generalizing bytes with
  | nil =>
    cases bytes with
    | nil => simp [transmit]
    | cons b bytes => simp [transmit, Event.isTransfer]
  | cons w writes ih =>
    cases bytes with
    | nil => simp [transmit]
    | cons b bytes =>
      cases w with
      | pending => exact ih (b :: bytes)
      | cancel => exact ih (b :: bytes)
      | fail e => simp [transmit, Event.isTransfer]
      | accept n =>
        by_cases hn : n = 0
        · simp [transmit, hn, Event.isTransfer]
        · simp only [transmit, if_neg hn, Transmission.after]
          intro e he
          rcases List.mem_cons.mp he with rfl | later
          · rfl
          · exact ih _ e later

/-- What the stream makes of a byte string that it is given and then told to pass
on: the fault, whether the server's work is cancelled meanwhile, the events, and
the stream that is left. -/
def send (s : Stream) (bytes : Bytes) : Option IoError × Bool × List (Event ν) × Stream :=
  let t := transmit s.writes bytes
  let s := { s with writes := t.writes }
  match t.fault with
  | some e => (some e, t.cancels, t.events, s)
  | none =>
    let (fault, cancels, s) := s.flush
    (fault, t.cancels || cancels, t.events ++ [.flushed], s)

/-- Sending takes a front part of the bytes, and all of them unless it fails. -/
theorem send_sound {s s' : Stream} {bytes : Bytes} {fault : Option IoError} {cancels : Bool}
    {events : List (Event ν)} (sends : s.send bytes = (fault, cancels, events, s')) :
    (∀ e ∈ events, e.isTransfer = true) ∧ sentBytes events <+: bytes ∧
      (fault = none → sentBytes events = bytes) := by
  have transfers := transmit_transfers (ν := ν) s.writes bytes
  have sent := sentBytes_transmit s.writes bytes (ν := ν)
  unfold send at sends
  dsimp only at sent sends
  generalize transmit s.writes bytes (ν := ν) = t at transfers sent sends
  cases failed : t.fault with
  | some e =>
    simp only [failed, Prod.mk.injEq] at sends
    obtain ⟨rfl, rfl, rfl, rfl⟩ := sends
    exact ⟨transfers, sent.1, by simp⟩
  | none =>
    simp only [failed, Prod.mk.injEq] at sends
    obtain ⟨-, -, rfl, -⟩ := sends
    have whole : sentBytes (t.events ++ [.flushed]) = bytes := by
      rw [sentBytes_append, sent.2 failed]
      exact List.append_nil _
    refine ⟨?_, whole ▸ List.prefix_rfl, fun _ => whole⟩
    intro e he
    rcases List.mem_append.mp he with transfer | last
    · exact transfers e transfer
    · rw [List.mem_singleton.mp last]
      rfl

/-- The stream takes whatever it is given, and the server's work is not cancelled
while it does. -/
structure Willing (s : Stream) : Prop where
  writes : ∀ w ∈ s.writes, w ≠ .accept 0 ∧ w ≠ .cancel ∧ ∀ e, w ≠ .fail e
  flushes : ∀ outcome ∈ s.flushes, outcome = none
  flushCancels : ∀ cancels ∈ s.flushCancels, cancels = false

/-- Writing to a willing stream does not fail and leaves it willing. -/
theorem transmit_of_willing {writes : List WriteStep}
    (h : ∀ w ∈ writes, w ≠ .accept 0 ∧ w ≠ .cancel ∧ ∀ e, w ≠ .fail e) (bytes : Bytes) :
    let t := transmit writes bytes (ν := ν)
    t.fault = none ∧ t.cancels = false ∧ ∀ w ∈ t.writes, w ∈ writes := by
  induction writes generalizing bytes with
  | nil =>
    cases bytes with
    | nil => simp [transmit]
    | cons b bytes => simp [transmit]
  | cons w writes ih =>
    have hw := h w (List.mem_cons_self ..)
    have hwrites : ∀ v ∈ writes, v ≠ .accept 0 ∧ v ≠ .cancel ∧ ∀ e, v ≠ .fail e :=
      fun v hv => h v (List.mem_cons_of_mem _ hv)
    cases bytes with
    | nil => simp [transmit]
    | cons b bytes =>
      cases w with
      | fail e => exact absurd rfl (hw.2.2 e)
      | cancel => exact absurd rfl hw.2.1
      | pending =>
        obtain ⟨hfault, hcancels, hkept⟩ := ih hwrites (b :: bytes)
        exact ⟨hfault, hcancels, fun v hv => List.mem_cons_of_mem _ (hkept v hv)⟩
      | accept n =>
        have hn : n ≠ 0 := fun hzero => hw.1 (hzero ▸ rfl)
        obtain ⟨hfault, hcancels, hkept⟩ := ih hwrites ((b :: bytes).drop n)
        simp only [transmit, if_neg hn, Transmission.after]
        exact ⟨hfault, hcancels, fun v hv => List.mem_cons_of_mem _ (hkept v hv)⟩

theorem flush_of_willing {s : Stream} (h : s.Willing) :
    ∃ s', s.flush = (none, false, s') ∧ s'.Willing := by
  have hnone : s.flushes.head?.join = none := by
    cases hflushes : s.flushes with
    | nil => rfl
    | cons outcome flushes => exact h.flushes outcome (by simp [hflushes])
  have huncancelled : s.flushCancels.headD false = false := by
    cases hcancels : s.flushCancels with
    | nil => rfl
    | cons cancels later => exact h.flushCancels cancels (by simp [hcancels])
  rw [flush, hnone, huncancelled]
  exact ⟨_, rfl, h.writes, fun o ho => h.flushes o (List.mem_of_mem_tail ho),
    fun c hc => h.flushCancels c (List.mem_of_mem_tail hc)⟩

/-- A willing stream takes all and stays willing. -/
theorem send_of_willing {s : Stream} (h : s.Willing) (bytes : Bytes) :
    ∃ (events : List (Event ν)) (s' : Stream),
      s.send bytes = (none, false, events, s') ∧ s'.Willing := by
  obtain ⟨hfault, hcancels, hkept⟩ := transmit_of_willing (ν := ν) h.writes bytes
  obtain ⟨s', hflush, willing⟩ := flush_of_willing
    (s := { s with writes := (transmit s.writes bytes (ν := ν)).writes })
    ⟨fun w hw => h.writes w (hkept w hw), h.flushes, h.flushCancels⟩
  refine ⟨(transmit s.writes bytes).events ++ [.flushed], s', ?_, willing⟩
  simp only [send, hfault, hcancels, hflush, Bool.or_false]

end Stream

namespace Connection

/-- What writing out comes to if all goes well: the bytes that were to be sent
are sent, and only events of the stream are new. -/
structure Written (k k' : Connection σ ν) : Prop where
  pipeline : k'.pipeline = k.pipeline
  stream : k'.stream.Willing
  live : ∃ events : List (Event ν), (∀ e ∈ events, e.isOfStream = true) ∧
    sentBytes events = k.live.sink ∧
    k'.live = { k.live with encoded := #[], past := k.live.past ++ events }

theorem advance_of_fault {k : Connection σ ν} {l : Live σ ν} {e : Fault}
    {act : Pipeline σ ν → Live σ ν → Except Fault α × Live σ ν}
    (h : act k.pipeline k.live = (.error e, l)) :
    k.advance act = (.error e, { k with live := l }) := by
  obtain ⟨pipeline, live, stream⟩ := k
  simp only [advance, h]

theorem advance_of_pass {k : Connection σ ν} {l : Live σ ν} {value : α}
    {act : Pipeline σ ν → Live σ ν → Except Fault α × Live σ ν}
    (h : act k.pipeline k.live = (.ok value, l)) :
    k.advance act = writeOut { k with live := l } := by
  obtain ⟨pipeline, live, stream⟩ := k
  simp only [advance, h]

/-- A connection whose stream made something of the bytes that were to be sent. -/
def sending (k : Connection σ ν) (cancels : Bool) (events : List (Event ν)) (stream : Stream) :
    Connection σ ν :=
  { (k.recordAll events).cancelIf cancels with stream := stream }

/-- **Writing out is sending what was encoded**, and if that does not fail, nothing is
left to be sent. -/
theorem writeOut_eq {k : Connection σ ν} (unsent : k.live.encoded.isEmpty = false) :
    k.writeOut = match k.stream.send k.live.sink with
      | (some e, cancels, events, stream) => (.error (.io e), k.sending cancels events stream)
      | (none, cancels, events, stream) =>
        let k := k.sending cancels events stream
        (.ok (), { k with live := { k.live with encoded := #[] } }) := by
  rw [writeOut, if_neg (by simp [unsent]), Stream.send]
  dsimp only
  generalize Stream.transmit k.stream.writes k.live.sink (ν := ν) = t
  cases t.fault with
  | some e => rfl
  | none =>
    have hpast : k.live.past ++ t.events ++ [(.flushed : Event ν)] =
        k.live.past ++ (t.events ++ [.flushed]) := by
      apply Array.ext'
      simp only [Array.toList_appendList, List.append_assoc]
    dsimp only [sending, recordAll, cancelIf]
    rcases Stream.flush { k.stream with writes := t.writes } with ⟨_ | e, cancels, stream⟩
    · simp only [hpast, Bool.or_assoc]
    · simp only [hpast, Bool.or_assoc]

/-- **Writing to a willing stream sends everything.** -/
theorem writeOut_of_willing {k : Connection σ ν} (h : k.stream.Willing) :
    ∃ k', k.writeOut = (.ok (), k') ∧ Written k k' := by
  cases hempty : k.live.encoded.isEmpty with
  | true =>
    have hnone : k.live.encoded = #[] := Array.isEmpty_iff.mp hempty
    refine ⟨k, by rw [writeOut, if_pos hempty], rfl, h, [], by simp, ?_, ?_⟩
    · rw [Live.sink, hnone]; rfl
    · obtain ⟨pipeline, live, stream⟩ := k
      cases live
      simp_all
  | false =>
    obtain ⟨events, stream, sends, willing⟩ := Stream.send_of_willing (ν := ν) h k.live.sink
    obtain ⟨transfers, -, whole⟩ := Stream.send_sound sends
    rw [writeOut_eq hempty, sends]
    refine ⟨_, rfl, rfl, willing, events, fun e he => isOfStream_of_transfer (transfers e he),
      whole rfl, ?_⟩
    simp only [sending, cancelIf_false]
    rfl

theorem Written.sink {k k' : Connection σ ν} (written : Written k k') : k'.live.sink = [] := by
  obtain ⟨events, -, -, hlive⟩ := written.live
  rw [hlive]
  rfl

theorem Written.sentBytes_eq {k k' : Connection σ ν} (written : Written k k') :
    sentBytes k'.live.journal = sentBytes k.live.journal ++ k.live.sink := by
  obtain ⟨events, -, hsent, hlive⟩ := written.live
  have hjournal : k'.live.journal = k.live.journal ++ events := by
    rw [hlive]
    simp only [Live.journal, Array.toList_appendList]
  rw [hjournal, sentBytes_append, hsent]

/-- Writing out keeps the account balanced. -/
theorem Written.balanced {k k' : Connection σ ν} (written : Written k k')
    (h : k.live.Balanced) : k'.live.Balanced := by
  obtain ⟨events, hstream, -, hlive⟩ := written.live
  have hencodings : encodings k'.live.journal = encodings k.live.journal := by
    rw [hlive, Live.journal, Array.toList_appendList, encodings_append,
      encodings_of_stream hstream, List.append_nil]
    rfl
  rw [Live.Balanced, written.sink, written.sentBytes_eq, List.append_nil, hencodings, h]

end Connection

end PacketServer
