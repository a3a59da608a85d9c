import PacketServer.Proofs.Connection.Conduct
import PacketServer.Proofs.Connection.Segmentation

/-!
# Which replies reach the peer

A connection writes what was encoded after each piece of input that it read
without a fault. If a fault is met in a piece, the replies to the packets
before the fault in the same piece are encoded and never written. So what the
peer receives depends on how its bytes were cut, although what the application
sees does not.

How far it depends is exact. The bytes that a run sends are those of the
greeting and the replies to the pieces before the one in which a fault is met,
`sends`; and what is sent, with what is lost, is the same for all cuts.

## Main results

* `course_sends` — a course sends the replies to the pieces that it passed.
* `run_sends_replies` — when two cuts of the same bytes send the same.
* `echo_reply_lost` — a cut for which a reply is lost, and one for which it is
  not.
-/

namespace PacketServer

namespace Connection

variable {σ ν : Type}

/-- The bytes that reading more input encodes. -/
def replies (p : Pipeline σ ν) (l : Live σ ν) (input : Bytes) : Bytes :=
  (p.fireRead (fed l.bare input)).2.sink

/-- The bytes of the pieces before the one in which a fault is met. -/
def passed (p : Pipeline σ ν) (l : Live σ ν) : List Bytes → Bytes
  | [] => []
  | piece :: pieces =>
    match p.fireRead (fed l piece) with
    | (.error _, _) => []
    | (.ok _, l) => piece ++ passed p l pieces

/-- The bytes that a connection sends if its input comes in these pieces: those
of the greeting, and the replies to the pieces that it passes. -/
def sends (k : Connection σ ν) (pieces : List Bytes) : Bytes :=
  match k.pipeline.fireActive k.live with
  | (.error _, _) => []
  | (.ok _, l) => l.sink ++ replies k.pipeline l (passed k.pipeline l pieces)

/-! ## Replies to several pieces -/

variable {p : Pipeline σ ν} {limit : Nat}

theorem passed_of_fault {l l' : Live σ ν} {piece : Bytes} {e : Fault}
    (read : p.fireRead (fed l piece) = (.error e, l')) (pieces : List Bytes) :
    passed p l (piece :: pieces) = [] := by
  rw [passed, read]

theorem passed_of_pass {l l' : Live σ ν} {piece : Bytes} {n : Nat}
    (read : p.fireRead (fed l piece) = (.ok n, l')) (pieces : List Bytes) :
    passed p l (piece :: pieces) = piece ++ passed p l' pieces := by
  rw [passed, read]

/-- Reading does not depend on the past and on what was encoded before. -/
theorem fireRead_bare (usual : p.decoder = .packets limit) (l : Live σ ν) (input : Bytes) :
    p.fireRead (fed l input) = l.frame.around (p.fireRead (fed l.bare input)) := by
  have hfed : fed l input = (fed l.bare input).within l.frame := by
    simp only [fed, Live.bare, Live.frame, Live.within, Array.append_empty, List.append_nil]
  rw [hfed, Pipeline.fireRead_within_nil usual _ rfl]

theorem sink_fireRead (usual : p.decoder = .packets limit) (l : Live σ ν) (input : Bytes) :
    (p.fireRead (fed l input)).2.sink = l.sink ++ replies p l input := by
  rw [fireRead_bare usual]
  show (l.encoded ++ (p.fireRead (fed l.bare input)).2.encoded).toList = _
  rw [Array.toList_append]
  rfl

theorem replies_of_settled (usual : p.decoder = .packets limit) {l : Live σ ν}
    (settled : Pipeline.Settled limit l) : replies p l [] = [] := by
  have hbare : Pipeline.Settled limit (fed l.bare []) := by
    rw [fed_nil]
    exact settled
  rw [replies, Pipeline.fireRead_of_settled usual hbare]
  rfl

theorem replies_of_closing {l : Live σ ν} (closing : l.context.closing = true)
    (input : Bytes) : replies p l input = [] := by
  have hbare : (fed l.bare input).context.closing = true := closing
  rw [replies, Pipeline.fireRead_of_closing hbare]
  rfl

/-- The replies to pieces are those to the first, and those to the others. -/
theorem replies_append {l l' : Live σ ν} {a : Bytes} {n : Nat}
    (usual : p.decoder = .packets limit) (read : p.fireRead (fed l a) = (.ok n, l'))
    (b : Bytes) : replies p l (a ++ b) = replies p l a ++ replies p l' b := by
  -- Without its past and its encoded bytes the connection encodes the same, so
  -- that what is encoded can be told apart from what was.
  rw [fireRead_bare usual] at read
  rcases hfirst : p.fireRead (fed l.bare a) with ⟨e | n', m⟩
  · rw [hfirst] at read
    simp [Frame.around] at read
  · rw [hfirst] at read
    have hl' : l' = m.within l.frame := (congrArg Prod.snd read).symm
    have hbare : m.bare = l'.bare := by
      rw [hl']
      simp only [Live.bare, Live.within, Live.frame, List.append_nil]
    have hlater : replies p l' b = replies p m b := by rw [replies, replies, hbare]
    have hwhole : replies p l (a ++ b) = (p.fireRead (fed m b)).2.sink := by
      rw [replies, fed_append, Pipeline.fireRead_within usual, hfirst, Pipeline.resume,
        within_source]
      rcases p.fireRead (fed m b) with ⟨e | k, l₂⟩
      · rfl
      · rfl
    have ha : replies p l a = m.sink := by rw [replies, hfirst]
    rw [hwhole, sink_fireRead usual, hlater, ha]

theorem replies_alike {a b : Live σ ν} (alike : a.Alike b) (source : a.source = b.source)
    (input : Bytes) : replies p a input = replies p b input := by
  rw [replies, replies, alike.bare_eq source]

theorem passed_alike (usual : p.decoder = .packets limit) {a b : Live σ ν} (alike : a.Alike b)
    (source : a.source = b.source) (pieces : List Bytes) :
    passed p a pieces = passed p b pieces := by
  induction pieces generalizing a b with
  | nil => rfl
  | cons piece pieces ih =>
    obtain ⟨hresult, halike, hleft⟩ := fireRead_fed_alike usual alike source piece
    rcases ha : p.fireRead (fed a piece) with ⟨e | n, a'⟩ <;>
      rcases hb : p.fireRead (fed b piece) with ⟨e' | n', b'⟩ <;>
      rw [ha, hb] at hresult halike hleft
    · rw [passed_of_fault ha, passed_of_fault hb]
    · simp at hresult
    · simp at hresult
    · rw [passed_of_pass ha, passed_of_pass hb, ih halike hleft]

/-- If no fault is met in all bytes at once, all pieces are passed. -/
theorem passed_of_no_fault (usual : p.decoder = .packets limit) {l : Live σ ν}
    {pieces : List Bytes}
    (unharmed : ∀ e l', p.fireRead (fed l pieces.flatten) ≠ (.error e, l')) :
    passed p l pieces = pieces.flatten := by
  induction pieces generalizing l with
  | nil => rfl
  | cons piece pieces ih =>
    rw [List.flatten_cons, fed_append, Pipeline.fireRead_within usual] at unharmed
    rcases hread : p.fireRead (fed l piece) with ⟨e | n, l'⟩
    · rw [hread] at unharmed
      exact absurd rfl (unharmed e _)
    · rw [hread, Pipeline.resume, within_source] at unharmed
      have later : passed p l' pieces = pieces.flatten := ih fun e l'' hlater => by
        rw [hlater] at unharmed
        exact unharmed e l'' rfl
      rw [passed_of_pass hread, List.flatten_cons, later]

/-! ## What a course sends -/

/-- A course keeps the account balanced. -/
theorem Course.balanced {k : Connection σ ν} {pieces : List Bytes}
    {outcome : Except Fault CloseReason × Connection σ ν}
    (course : Course limit k pieces outcome) (usual : k.pipeline.encoder = .packets)
    (h : k.live.Balanced) : outcome.2.live.Balanced := by
  induction course with
  | barred gate => exact h
  | ended gate nothing written => exact written.balanced h
  | truncated gate waiting something => exact h
  | @fault k piece pieces e l gate read =>
    have steps := k.pipeline.fireRead_steps (fed k.live piece)
    rw [read] at steps
    exact steps.balanced usual h
  | @passed k k' piece pieces n l outcome gate read written later ih =>
    have steps := k.pipeline.fireRead_steps (fed k.live piece)
    rw [read] at steps
    exact ih (written.pipeline ▸ usual) (written.balanced (steps.balanced usual h))

/-- **A course sends the replies to the pieces that it passed**, if nothing was
left to send and nothing cancels the server's work. -/
theorem course_sends {k : Connection σ ν} {pieces : List Bytes}
    {outcome : Except Fault CloseReason × Connection σ ν}
    (course : Course limit k pieces outcome) (ready : Ready limit k) (idle : k.live.sink = [])
    (uncancelled : outcome.2.live.cancelled = false) :
    sentBytes outcome.2.live.journal = sentBytes k.live.journal ++
      replies k.pipeline k.live (passed k.pipeline k.live pieces) := by
  induction course with
  | @barred k pieces reason gate =>
    have closing := (closing_of_gate gate uncancelled).1
    rw [replies_of_closing closing, List.append_nil]
  | @ended k k' gate nothing written =>
    rw [passed, replies_of_settled ready.usual ready.settled, written.sentBytes_eq, idle]
  | truncated gate waiting something =>
    rw [passed, replies_of_settled ready.usual ready.settled, List.append_nil]
  | @fault k piece pieces e l gate read =>
    -- What was encoded before the fault is in `l.sink`, and nothing sends it.
    have hsent := (k.pipeline.fireRead_steps (fed k.live piece)).sentBytes_eq
    rw [read] at hsent
    rw [passed_of_fault read, replies_of_settled ready.usual ready.settled, List.append_nil]
    exact hsent
  | @passed k k' piece pieces n l outcome gate read written later ih =>
    have hsent := (k.pipeline.fireRead_steps (fed k.live piece)).sentBytes_eq
    have hsink := sink_fireRead ready.usual k.live piece
    rw [read] at hsent hsink
    have settled := Pipeline.fireRead_settled ready.usual read
    have later := ih (written.ready ready.usual settled) written.sink uncancelled
    have first : sentBytes k'.live.journal =
        sentBytes k.live.journal ++ replies k.pipeline k.live piece := by
      rw [written.sentBytes_eq]
      show sentBytes l.journal ++ l.sink = _
      rw [hsink, idle, List.nil_append]
      exact congrArg (· ++ replies k.pipeline k.live piece) hsent
    have same : replies k'.pipeline k'.live (Connection.passed k'.pipeline k'.live pieces) =
        replies k.pipeline l (Connection.passed k.pipeline l pieces) := by
      have hpipeline : k'.pipeline = k.pipeline := written.pipeline
      rw [hpipeline, passed_alike ready.usual written.alike written.source,
        replies_alike written.alike written.source]
    rw [passed_of_pass read, replies_append ready.usual read, later, first, same,
      List.append_assoc]

/-! ## What a run sends -/

theorem Served.balanced {k : Connection σ ν} {pieces : List Bytes}
    {outcome : Except Fault CloseReason × Connection σ ν}
    (served : Served limit k pieces outcome) (usual : k.pipeline.encoder = .packets)
    (balanced : k.live.Balanced) : outcome.2.live.Balanced := by
  have steps := k.pipeline.fireActive_steps k.live
  cases served with
  | ungreeted greeting =>
    rw [greeting] at steps
    exact steps.balanced usual balanced
  | greeted greeting written ready course =>
    rw [greeting] at steps
    exact course.balanced (written.pipeline ▸ usual)
      (written.balanced (steps.balanced usual balanced))

/-- Serving a connection sends the greeting and the replies to the pieces that
it passes. -/
theorem served_sends {k : Connection σ ν} {pieces : List Bytes}
    {outcome : Except Fault CloseReason × Connection σ ν}
    (usual : k.pipeline.decoder = .packets limit) (served : Served limit k pieces outcome)
    (uncancelled : outcome.2.live.cancelled = false) :
    sentBytes outcome.2.live.journal = sentBytes k.live.journal ++ k.sends pieces := by
  have hsent := (k.pipeline.fireActive_steps k.live).sentBytes_eq
  cases served with
  | ungreeted greeting =>
    rw [greeting] at hsent
    rw [sends, greeting]
    dsimp only
    rw [List.append_nil]
    exact hsent
  | @greeted l k' outcome greeting written ready course =>
    rw [greeting] at hsent
    have later := course_sends course ready written.sink uncancelled
    have hpipeline : k'.pipeline = k.pipeline := written.pipeline
    have hgreeting : sentBytes k'.live.journal = sentBytes k.live.journal ++ l.sink := by
      rw [written.sentBytes_eq]
      exact congrArg (· ++ l.sink) hsent
    rw [later, hgreeting, hpipeline, passed_alike usual written.alike written.source,
      replies_alike written.alike written.source, sends, greeting, List.append_assoc]

/-- No fault is met if all input is read at once behind the greeting. -/
def Unharmed (k : Connection σ ν) (input : Bytes) : Prop :=
  ∀ l, k.pipeline.fireActive k.live = (.ok (), l) →
    ∀ e l', k.pipeline.fireRead (fed l input) ≠ (.error e, l')

/-- What is sent of unharmed input does not depend on how it is cut. -/
theorem sends_of_unharmed {k : Connection σ ν} {cut other : List Bytes}
    (usual : k.pipeline.decoder = .packets limit) (unharmed : k.Unharmed cut.flatten)
    (same : cut.flatten = other.flatten) : k.sends cut = k.sends other := by
  unfold sends
  rcases hactive : k.pipeline.fireActive k.live with ⟨e | _, l⟩
  · rfl
  · have hcut := unharmed l hactive
    dsimp only
    rw [passed_of_no_fault usual hcut, same]
    rw [same] at hcut
    rw [passed_of_no_fault usual hcut]

/-- A connection that ends well was unharmed. -/
theorem unharmed_of_ok {k : Connection σ ν} {input : Bytes} {reason : CloseReason}
    (well : (lifetime k.pipeline k.live input).1 = .ok reason) : k.Unharmed input := by
  intro l greeting e l' hread
  rw [lifetime, greeting] at well
  dsimp only at well
  rw [digest, hread] at well
  simp at well

theorem farewell_account (k : Connection σ ν) :
    sentBytes k.farewell.live.journal ++ k.farewell.live.sink =
      sentBytes k.live.journal ++ k.live.sink := by
  rw [(farewell_sends k).1, (farewell_sends k).2]

/-- Which packets were encoded, the application has seen. -/
theorem encodings_seen (l : Live σ ν) : encodings l.seen = encodings l.journal := by
  unfold Live.seen encodings
  induction l.journal with
  | nil => rfl
  | cons e events ih =>
    cases hstream : e.isOfStream with
    | true =>
      rw [List.filter_cons_of_neg (by simp [hstream]), ih,
        List.filterMap_cons_none (packetOut?_of_stream hstream)]
    | false =>
      rw [List.filter_cons_of_pos (by simp [hstream])]
      cases hout : e.packetOut? with
      | none => rw [List.filterMap_cons_none hout, List.filterMap_cons_none hout, ih]
      | some packet =>
        rw [List.filterMap_cons_some hout, List.filterMap_cons_some hout, List.flatMap_cons,
          List.flatMap_cons, ih]

/-- **When two cuts of the same bytes send the same replies.** Each run sends the
greeting and the replies to the pieces before the one in which a fault is met.
What is sent with what is lost is the same, so the same is sent exactly if the
same is lost, and nothing is lost of input that is unharmed, such as that of a
run that ends well. -/
theorem run_sends_replies {limit : Nat} {spec : Spec σ ν} (usual : spec.decoder = .packets limit)
    (usual' : spec.encoder = .packets) (context : Context) (user : σ)
    {polls others : List Poll} {cut other : List Bytes} (delivers : Delivers polls cut)
    (delivers' : Delivers others other) (same : cut.flatten = other.flatten)
    {stream stream' : Stream} (willing : stream.Willing) (willing' : stream'.Willing)
    (pool pool' : BufferPool)
    (uncancelled :
      ((ofSpec spec context user stream false).run polls pool).2.1.live.cancelled = false) :
    let k := ofSpec spec context user stream false
    let a := k.run polls pool
    let b := (ofSpec spec context user stream' false).run others pool'
    let sentA := sentBytes a.2.1.live.journal
    let sentB := sentBytes b.2.1.live.journal
    sentA = k.sends cut ∧ sentB = k.sends other ∧
      sentA ++ a.2.1.live.sink = sentB ++ b.2.1.live.sink ∧
      (sentA = sentB ↔ a.2.1.live.sink = b.2.1.live.sink) ∧
      (k.Unharmed cut.flatten → sentA = sentB) ∧
      (∀ reason, a.1 = .ok reason → k.Unharmed cut.flatten) := by
  intro k a b sentA sentB
  have uncancelledA := serve_uncancelled uncancelled
  have servedA : Served limit k cut (k.serve polls) := serve_served usual willing rfl delivers
  have servedB := serve_served (k := ofSpec spec context user stream' false) usual willing' rfl
    delivers'
  have ends := served_sameEnd servedA servedB usual rfl rfl same uncancelledA
  have uncancelledB := ends.alike.cancelled.symm.trans uncancelledA
  have hA : sentA = k.sends cut :=
    (farewell_sends _).1.trans (served_sends usual servedA uncancelledA)
  have hB : sentB = k.sends other :=
    (farewell_sends _).1.trans (served_sends usual servedB uncancelledB)
  have total : sentA ++ a.2.1.live.sink = sentB ++ b.2.1.live.sink := by
    have balancedA := servedA.balanced usual' rfl
    have balancedB := servedB.balanced usual' rfl
    calc sentA ++ a.2.1.live.sink
        = sentBytes (k.serve polls).2.live.journal ++ (k.serve polls).2.live.sink :=
          farewell_account (k.serve polls).2
      _ = encodings (k.serve polls).2.live.journal := balancedA
      _ = encodings ((ofSpec spec context user stream' false).serve others).2.live.journal := by
          rw [← encodings_seen, ends.alike.seen, encodings_seen]
      _ = sentBytes ((ofSpec spec context user stream' false).serve others).2.live.journal ++
            ((ofSpec spec context user stream' false).serve others).2.live.sink := balancedB.symm
      _ = sentB ++ b.2.1.live.sink :=
          (farewell_account ((ofSpec spec context user stream' false).serve others).2).symm
  refine ⟨hA, hB, total, ⟨?_, ?_⟩, ?_, ?_⟩
  · intro sent
    rw [sent] at total
    exact List.append_cancel_left total
  · intro lost
    rw [lost] at total
    exact List.append_cancel_right total
  · intro unharmed
    rw [hA, hB]
    exact sends_of_unharmed usual unharmed same
  · intro reason well
    have ended := served_lifetime usual servedA (.inl uncancelledA)
    exact unharmed_of_ok (ended.result.symm.trans well)

/-- A packet, and a header with a wrong check byte behind it. In two pieces the
reply to the packet is sent before the fault is met. -/
theorem run_sends_reply_before_fault :
    let packet : Bytes := [0, 0, 0, 5, 7, 0, 0, 0, 0, 0, 2, 104, 101, 108, 108, 111]
    let damaged : Bytes := [0, 0, 0, 0, 1, 0, 0, 0, 0, 0, 0]
    let k := ofSpec (σ := Unit) (ν := Unit) (.ofHandler .echo) loopback () {} false
    let a := k.run [{ answer := some (.ok packet) }, { answer := some (.ok damaged) }]
      (.ofPolicy (.pooled 4 256))
    a.2.1.live.cancelled = false ∧ k.sends [packet, damaged] = packet ∧
      sentBytes a.2.1.live.journal = k.sends [packet, damaged] := by
  intro packet damaged k a
  have delivers : Delivers [{ answer := some (.ok packet) }, { answer := some (.ok damaged) }]
      [packet, damaged] :=
    .read (by decide) (.read (by decide) .ended)
  have willing : Stream.Willing {} := ⟨by simp, by simp, by simp⟩
  have uncancelled : a.2.1.live.cancelled = false := by decide +kernel
  have sent : k.sends [packet, damaged] = packet := by decide +kernel
  exact ⟨uncancelled, sent, (run_sends_replies rfl rfl loopback () delivers delivers rfl willing
    willing (.ofPolicy (.pooled 4 256)) (.ofPolicy (.pooled 4 256)) uncancelled).1⟩

/-- The same bytes in one piece: the reply is encoded and lost. -/
theorem echo_reply_lost :
    let packet : Bytes := [0, 0, 0, 5, 7, 0, 0, 0, 0, 0, 2, 104, 101, 108, 108, 111]
    let damaged : Bytes := [0, 0, 0, 0, 1, 0, 0, 0, 0, 0, 0]
    let one : List Poll := [{ answer := some (.ok (packet ++ damaged)) }]
    let two : List Poll := [{ answer := some (.ok packet) }, { answer := some (.ok damaged) }]
    let k := ofSpec (σ := Unit) (ν := Unit) (.ofHandler .echo) loopback () {} false
    let a := k.run one (.ofPolicy (.pooled 4 256))
    let b := k.run two (.ofPolicy (.pooled 4 256))
    Delivers one [packet ++ damaged] ∧ Delivers two [packet, damaged] ∧
      [packet ++ damaged].flatten = [packet, damaged].flatten ∧
      k.stream.Willing ∧ a.2.1.live.cancelled = false ∧ b.2.1.live.cancelled = false ∧
      sentBytes a.2.1.live.journal = [] ∧ a.2.1.live.sink = packet ∧
      sentBytes b.2.1.live.journal = packet ∧ b.2.1.live.sink = [] := by
  intro packet damaged one two k a b
  refine ⟨.read (by decide) .ended, .read (by decide) (.read (by decide) .ended), by decide,
    ⟨by simp [k, ofSpec], by simp [k, ofSpec], by simp [k, ofSpec]⟩, ?_, ?_, ?_, ?_, ?_, ?_⟩
  · decide +kernel
  · decide +kernel
  · decide +kernel
  · decide +kernel
  · decide +kernel
  · decide +kernel

end Connection

end PacketServer
