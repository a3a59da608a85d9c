import PacketServer.Proofs.Connection.Chronicle

/-!
# What a connection does, as a chronicle

Whatever the looks at its input bring and whatever its stream does, a
connection proceeds in the same way. Each look is followed by what the
pipeline makes of it and by writing out; the connection goes on to the next
look unless that failed, the stream has ended, or its gate is shut.

The bytes to be sent are sent up before every look, so none are left when a
connection ends well.

What a chronicle says of sending is what the stream's script says: `Through` takes
the stream from one act of sending to the next, so that a cancellation stands in
the very act in which the script has it.

## Main results

* `turn_turns` — what comes of one look.
* `attend_attends` — what comes of a script of looks.
* `serve_serves` — the same behind a greeting.
* `farewell_journal` — what comes last.
-/

namespace PacketServer

variable {σ ν α : Type}

theorem Pipeline.no_packet_of_waiting {p : Pipeline σ ν} {l : Live σ ν} {limit : Nat}
    (usual : p.decoder = .packets limit) (waiting : Wire.Waiting limit l.source)
    {packet : Packet} {rest : Bytes} {user : σ} :
    p.decoder.decodeEnd l.user l.source ≠ ((.ok (some packet), rest), user) := by
  intro given
  rw [usual, Decoder.decodeEnd_packets, Wire.decodeEnd, waiting] at given
  have taken := Wire.atEnd_packet (congrArg Prod.fst given)
  simp at taken

namespace Stream

/-- `Through s acts s'` says that the acts of sending among `acts`, one after the
other, are what the stream `s` makes of byte strings, and that `s'` is left. -/
inductive Through : Stream → List (Act ν) → Stream → Prop
  | done (s : Stream) : Through s [] s
  | sent {s s₁ s' : Stream} {bytes : Bytes} {fault : Option IoError} {cancels : Bool}
      {events : List (Event ν)} {later : List (Act ν)}
      (sends : s.send bytes = (fault, cancels, events, s₁)) (through : Through s₁ later s') :
      Through s (.send cancels events :: later) s'
  | silent {s s' : Stream} {act : Act ν} {later : List (Act ν)} (silent : act.isSend = false)
      (through : Through s later s') : Through s (act :: later) s'

theorem Through.append {s s₁ s' : Stream} {acts more : List (Act ν)} (first : Through s acts s₁)
    (second : Through s₁ more s') : Through s (acts ++ more) s' := by
  induction first with
  | done s => exact second
  | sent sends _ ih => exact .sent sends (ih second)
  | silent silent _ ih => exact .silent silent (ih second)

/-- Acts that send nothing leave the stream as it is. -/
theorem Through.of_silent (s : Stream) {acts : List (Act ν)}
    (silent : ∀ act ∈ acts, act.isSend = false) : Through s acts s := by
  induction acts with
  | nil => exact .done s
  | cons act acts ih =>
    exact .silent (silent act List.mem_cons_self)
      (ih fun later hlater => silent later (List.mem_cons_of_mem _ hlater))

end Stream

namespace Connection

/-- Writing out sends, and leaves everything else as it is. -/
structure Sends (k : Connection σ ν) (acts : List (Act ν)) (result : Except Fault Unit)
    (k' : Connection σ ν) : Prop where
  chronicle : k.pipeline.Chronicle k.live acts (faultOf result) k'.live
  through : k.stream.Through acts k'.stream
  sending : ∀ act ∈ acts, act.isInner = true ∧ act.isLate = false
  pipeline : k'.pipeline = k.pipeline
  context : k'.live.context = k.live.context
  source : k'.live.source = k.live.source
  spent : result = .ok () → k'.live.sink = []

theorem writeOut_sends (k : Connection σ ν) :
    ∃ acts, Sends k acts k.writeOut.1 k.writeOut.2 := by
  cases hempty : k.live.encoded.isEmpty with
  | true =>
    have hwrite : k.writeOut = (.ok (), k) := by rw [writeOut, if_pos hempty]
    rw [hwrite]
    refine ⟨[], .done _, .done _, by simp, rfl, rfl, rfl, fun _ => ?_⟩
    rw [Live.sink, Array.isEmpty_iff.mp hempty]
  | false =>
    rw [writeOut_eq hempty]
    rcases hsend : k.stream.send k.live.sink (ν := ν) with ⟨_ | e, cancels, events, stream⟩
    · obtain ⟨transfers, -, whole⟩ := Stream.send_sound hsend
      exact ⟨[.send cancels events], .one (.sent cancels transfers (whole rfl)),
        .sent hsend (.done stream), by simp [Act.isInner, Act.isLate], rfl, rfl, rfl,
        fun _ => rfl⟩
    · obtain ⟨transfers, part, -⟩ := Stream.send_sound hsend
      exact ⟨[.send cancels events], .one (.broken cancels e transfers part),
        .sent hsend (.done stream), by simp [Act.isInner, Act.isLate], rfl, rfl, rfl, by simp⟩

/-- An operation of the pipeline, and writing out behind it unless it failed. -/
theorem advance_chronicle (op : Pipeline σ ν → Live σ ν → Except Fault α × Live σ ν)
    {k : Connection σ ν} {l : Live σ ν} {acts : List (Act ν)}
    (chronicle : k.pipeline.Chronicle l acts (faultOf (op k.pipeline k.live).1)
      (op k.pipeline k.live).2) :
    ∃ more, k.pipeline.Chronicle l (acts ++ more) (faultOf (k.advance op).1)
        (k.advance op).2.live ∧
      (∀ act ∈ more, act.isInner = true ∧ act.isLate = false) ∧
      k.stream.Through more (k.advance op).2.stream ∧
      (k.advance op).2.pipeline = k.pipeline ∧
      (k.advance op).2.live.context = (op k.pipeline k.live).2.context ∧
      (k.advance op).2.live.source = (op k.pipeline k.live).2.source ∧
      ((k.advance op).1 = .ok () → (k.advance op).2.live.sink = [] ∧
        ∃ value, (op k.pipeline k.live).1 = .ok value) := by
  rcases hop : op k.pipeline k.live with ⟨e | value, l₁⟩
  · rw [hop] at chronicle
    rw [advance_of_fault hop]
    exact ⟨[], by rwa [List.append_nil], by simp, .done _, rfl, rfl, rfl, by simp⟩
  · rw [hop] at chronicle
    rw [advance_of_pass hop]
    obtain ⟨more, sends⟩ := writeOut_sends { k with live := l₁ }
    exact ⟨more, chronicle.trans sends.chronicle, sends.sending, sends.through, sends.pipeline,
      sends.context, sends.source, fun h => ⟨sends.spent h, value, rfl⟩⟩

/-- What comes of a look at the input. `answer` is how the connection ended, if
it did. -/
structure Turns (k : Connection σ ν) (poll : Poll) (acts : List (Act ν))
    (answer : Option (Except Fault CloseReason)) (k' : Connection σ ν) : Prop where
  chronicle : k.pipeline.Chronicle k.live (.look poll :: acts) (answer.bind faultOf) k'.live
  through : k.stream.Through (.look poll :: acts) k'.stream
  inner : ∀ act ∈ acts, act.isInner = true
  pipeline : k'.pipeline = k.pipeline
  spent : k.live.sink = [] → answer.bind faultOf = none → k'.live.sink = []
  ended : ∀ reason, answer = some (.ok reason) → reason = .eof
  /-- With the usual decoder nothing is left that could be dispatched late. -/
  timely : ∀ limit, k.pipeline.decoder = .packets limit → Pipeline.Settled limit k.live →
    (∀ act ∈ acts, act.isLate = false) ∧ (answer = none → Pipeline.Settled limit k'.live)

theorem uncancelled_of_gate {k : Connection σ ν} (gate : k.gate = none) :
    k.live.cancelled = false := by
  cases cancelled : k.live.cancelled with
  | false => rfl
  | true =>
    rw [Connection.gate, if_neg (by simp [open_of_gate gate]), if_pos cancelled] at gate
    simp at gate

/-- A connection that heard what a look brings. -/
def hearing (k : Connection σ ν) (poll : Poll) : Connection σ ν :=
  { k with live := k.live.hear poll }

theorem hearing_of_nothing {poll : Poll} (nothing : poll.bytes = []) (k : Connection σ ν) :
    k.hearing poll = k.cancelIf poll.cancels := by
  rw [hearing, Live.hear_of_nothing nothing, cancelIf]

theorem turn_of_nothing {poll : Poll} (h : poll.answer = none) (k : Connection σ ν) :
    k.turn poll = (none, k.hearing poll) := by
  rw [hearing_of_nothing (by rw [Poll.bytes, h]), turn, h]

theorem turn_of_fault {poll : Poll} {e : IoError} (h : poll.answer = some (.error e))
    (k : Connection σ ν) : k.turn poll = (some (.error (.io e)), k.hearing poll) := by
  rw [hearing_of_nothing (by rw [Poll.bytes, h]), turn, h]

theorem turn_of_end {poll : Poll} (h : poll.answer = some (.ok [])) (k : Connection σ ν) :
    k.turn poll = (some (k.hearing poll).endOfStream.1, (k.hearing poll).endOfStream.2) := by
  rw [hearing_of_nothing (by rw [Poll.bytes, h]), turn, h]

theorem turn_of_bytes {poll : Poll} {b : UInt8} {bytes : Bytes}
    (h : poll.answer = some (.ok (b :: bytes))) (k : Connection σ ν) :
    k.turn poll = match (k.hearing poll).advance Pipeline.fireRead with
      | (.error e, k) => (some (.error e), k)
      | (.ok (), k) => (none, k) := by
  have hbytes : poll.bytes = b :: bytes := by rw [Poll.bytes, h]
  rw [hearing, Live.hear, hbytes, turn, h]
  rfl

theorem looked_of_gate {k : Connection σ ν} (gate : k.gate = none) (poll : Poll) :
    k.pipeline.Acts k.live (.look poll) poll.fault? (k.hearing poll).live :=
  .looked poll (open_of_gate gate) (uncancelled_of_gate gate)

/-- A look that finds no fault, even if it finds the end of the stream. -/
theorem looked_of_ok {k : Connection σ ν} (gate : k.gate = none) {poll : Poll} {bytes : Bytes}
    (h : poll.answer = some (.ok bytes)) :
    k.pipeline.Acts k.live (.look poll) none (k.hearing poll).live := by
  have looked := looked_of_gate gate poll
  rwa [Poll.fault?, h] at looked

/-- A look and what is taken off the input send nothing. -/
theorem looked_through {s s' : Stream} (poll : Poll) {acts more : List (Act ν)}
    (taking : ∀ act ∈ acts, ∃ late, act.lateness? = some late) (through : s.Through more s') :
    s.Through (.look poll :: (acts ++ more)) s' := by
  refine .silent rfl (Stream.Through.append (.of_silent s fun act hact => ?_) through)
  obtain ⟨late, h⟩ := taking act hact
  exact (Act.inner_of_lateness h).2

theorem endOfStream_turns {k : Connection σ ν} (gate : k.gate = none) {poll : Poll}
    (h : poll.answer = some (.ok [])) :
    ∃ acts, Turns k poll acts (k.turn poll).1 (k.turn poll).2 := by
  have look := looked_of_ok gate h
  obtain ⟨acts, ended, late, timely⟩ := k.pipeline.fireEnd_chronicle (k.hearing poll).live
  obtain ⟨more, whole, sending, through, pipeline, -, -, spent⟩ :=
    advance_chronicle Pipeline.fireEnd (k := k.hearing poll) ended
  have innermost : ∀ act ∈ acts ++ more, act.isInner = true := by
    intro act hact
    rcases List.mem_append.mp hact with early | later
    · exact (Act.inner_of_lateness (late act early)).1
    · exact (sending act later).1
  have threaded := looked_through poll (fun act hact => ⟨true, late act hact⟩) through
  have usually : ∀ limit, k.pipeline.decoder = .packets limit →
      Pipeline.Settled limit k.live → ∀ act ∈ acts ++ more, act.isLate = false := by
    intro limit usual settled act hact
    have waiting : Wire.Waiting limit (k.hearing poll).live.source := by
      have hsource : (k.hearing poll).live.source = k.live.source := by
        rw [hearing, Live.hear_of_nothing (by rw [Poll.bytes, h])]
      rcases settled with closing | waiting
      · simp [open_of_gate gate] at closing
      · rwa [hsource]
    rcases List.mem_append.mp hact with early | later
    · exact timely (fun packet rest user => Pipeline.no_packet_of_waiting usual waiting) act early
    · exact (sending act later).2
  refine ⟨acts ++ more, ?_⟩
  rw [turn_of_end h, endOfStream]
  rcases hadvance : (k.hearing poll).advance Pipeline.fireEnd with ⟨e | _, k'⟩
  · rw [hadvance] at whole threaded pipeline
    exact
      { chronicle := .more look whole
        through := threaded
        inner := innermost
        pipeline := pipeline
        spent := fun _ h => by simp [faultOf] at h
        ended := fun reason h => by simp at h
        timely := fun limit usual settled => ⟨usually limit usual settled, by simp⟩ }
  · rw [hadvance] at whole threaded pipeline spent
    exact
      { chronicle := .more look whole
        through := threaded
        inner := innermost
        pipeline := pipeline
        spent := fun _ _ => (spent rfl).1
        ended := fun reason h => by
          simp only [Option.some.injEq, Except.ok.injEq] at h
          exact h.symm
        timely := fun limit usual settled => ⟨usually limit usual settled, by simp⟩ }

theorem arrive_turns {k : Connection σ ν} (gate : k.gate = none) {poll : Poll} {b : UInt8}
    {bytes : Bytes} (h : poll.answer = some (.ok (b :: bytes))) :
    ∃ acts, Turns k poll acts (k.turn poll).1 (k.turn poll).2 := by
  have look := looked_of_ok gate h
  obtain ⟨acts, read, timely⟩ := k.pipeline.fireRead_chronicle (k.hearing poll).live
  obtain ⟨more, whole, sending, through, pipeline, hcontext, hsource, spent⟩ :=
    advance_chronicle Pipeline.fireRead (k := k.hearing poll) read
  have innermost : ∀ act ∈ acts ++ more, act.isInner = true ∧ act.isLate = false := by
    intro act hact
    rcases List.mem_append.mp hact with early | later
    · exact ⟨(Act.inner_of_lateness (timely act early)).1,
        Act.timely_of_lateness (timely act early)⟩
    · exact sending act later
  have threaded := looked_through poll (fun act hact => ⟨false, timely act hact⟩) through
  refine ⟨acts ++ more, ?_⟩
  rw [turn_of_bytes h]
  rcases hadvance : (k.hearing poll).advance Pipeline.fireRead with ⟨e | _, k'⟩
  · rw [hadvance] at whole threaded pipeline
    exact
      { chronicle := .more look whole
        through := threaded
        inner := fun act hact => (innermost act hact).1
        pipeline := pipeline
        spent := fun _ h => by simp [faultOf] at h
        ended := fun reason h => by simp at h
        timely := fun limit usual settled => ⟨fun act hact => (innermost act hact).2, by simp⟩ }
  · rw [hadvance] at whole threaded pipeline hcontext hsource spent
    obtain ⟨hspent, value, hvalue⟩ := spent rfl
    have settles : ∀ limit, k.pipeline.decoder = .packets limit →
        Pipeline.Settled limit k'.live := by
      intro limit usual
      have settled := Pipeline.fireRead_settled (p := k.pipeline) usual (Prod.ext hvalue rfl)
      unfold Pipeline.Settled at settled ⊢
      dsimp only at hcontext hsource
      rw [hcontext, hsource]
      exact settled
    exact
      { chronicle := .more look whole
        through := threaded
        inner := fun act hact => (innermost act hact).1
        pipeline := pipeline
        spent := fun _ _ => hspent
        ended := fun reason h => by simp at h
        timely := fun limit usual settled =>
          ⟨fun act hact => (innermost act hact).2, fun _ => settles limit usual⟩ }

/-- **A look at the input is the first act of what comes of it.** -/
theorem turn_turns {k : Connection σ ν} (gate : k.gate = none) (poll : Poll) :
    ∃ acts, Turns k poll acts (k.turn poll).1 (k.turn poll).2 := by
  have looked := looked_of_gate gate poll
  rcases h : poll.answer with _ | e | bytes
  · rw [Poll.fault?, h] at looked
    rw [turn_of_nothing h]
    exact ⟨[],
      { chronicle := .one looked
        through := .silent rfl (.done _)
        inner := by simp
        pipeline := rfl
        spent := fun spent _ => spent
        ended := fun reason h => by simp at h
        timely := fun limit usual settled => ⟨by simp, fun _ => by
          rwa [hearing, Live.hear_of_nothing (by rw [Poll.bytes, h])]⟩ }⟩
  · rw [Poll.fault?, h] at looked
    rw [turn_of_fault h]
    exact ⟨[],
      { chronicle := .one looked
        through := .silent rfl (.done _)
        inner := by simp
        pipeline := rfl
        spent := fun _ h => by simp [faultOf] at h
        ended := fun reason h => by simp at h
        timely := fun limit usual settled => ⟨by simp, by simp⟩ }⟩
  · cases bytes with
    | nil => exact endOfStream_turns gate h
    | cons b bytes => exact arrive_turns gate h

/-- What comes of a script of looks, behind which the stream has ended. -/
structure Attends (k : Connection σ ν) (polls : List Poll) (acts : List (Act ν))
    (result : Except Fault CloseReason) (k' : Connection σ ν) : Prop where
  chronicle : k.pipeline.Chronicle k.live acts (faultOf result) k'.live
  through : k.stream.Through acts k'.stream
  pipeline : k'.pipeline = k.pipeline
  looks : acts.filterMap Act.poll? <+: polls ++ [.eof]
  greeted : ∀ act ∈ acts, act.isGreeting = false
  spent : ∀ reason, k.live.sink = [] → result = .ok reason → k'.live.sink = []
  requested : result = .ok .requested → k'.live.context.closing = true
  shutdown : result = .ok .shutdown → k'.live.cancelled = true
  timely : ∀ limit, k.pipeline.decoder = .packets limit → Pipeline.Settled limit k.live →
    ∀ act ∈ acts, act.isLate = false

/-- A connection whose gate is shut was asked to close, or else its work was
cancelled. -/
theorem reason_of_gate {k : Connection σ ν} {reason : CloseReason} (gate : k.gate = some reason) :
    (reason = .requested ∧ k.live.context.closing = true) ∨
      (reason = .shutdown ∧ k.live.cancelled = true) := by
  unfold Connection.gate at gate
  split at gate
  · rename_i closing
    exact .inl ⟨(Option.some.inj gate).symm, closing⟩
  · split at gate
    · rename_i cancelled
      exact .inr ⟨(Option.some.inj gate).symm, cancelled⟩
    · simp at gate

theorem attends_of_gate {k : Connection σ ν} {reason : CloseReason} (gate : k.gate = some reason)
    (polls : List Poll) : Attends k polls [] (.ok reason) k where
  chronicle := .done _
  through := .done _
  pipeline := rfl
  looks := List.nil_prefix
  greeted := by simp
  spent := fun _ spent _ => spent
  requested := by
    intro h
    rcases reason_of_gate gate with ⟨-, closing⟩ | ⟨hreason, -⟩
    · exact closing
    · rw [hreason] at h
      simp at h
  shutdown := by
    intro h
    rcases reason_of_gate gate with ⟨hreason, -⟩ | ⟨-, cancelled⟩
    · rw [hreason] at h
      simp at h
    · exact cancelled
  timely := by simp

theorem ungreeted_of_inner {acts : List (Act ν)} (inner : ∀ act ∈ acts, act.isInner = true) :
    ∀ act ∈ acts, act.isGreeting = false := by
  intro act hact
  have hinner := inner act hact
  cases act <;> first | rfl | simp [Act.isInner] at hinner

theorem unlooked_of_inner {acts : List (Act ν)} (inner : ∀ act ∈ acts, act.isInner = true) :
    acts.filterMap Act.poll? = [] := by
  refine List.filterMap_eq_nil_iff.mpr fun act hact => ?_
  have hinner := inner act hact
  cases act <;> first | rfl | simp [Act.isInner] at hinner

theorem Turns.looks {k k' : Connection σ ν} {poll : Poll} {acts : List (Act ν)}
    {answer : Option (Except Fault CloseReason)} (turns : Turns k poll acts answer k') :
    (Act.look poll :: acts).filterMap Act.poll? = [poll] := by
  have hlook : (Act.look poll : Act ν).poll? = some poll := rfl
  rw [List.filterMap_cons_some hlook, unlooked_of_inner turns.inner]

theorem Turns.ungreeted {k k' : Connection σ ν} {poll : Poll} {acts : List (Act ν)}
    {answer : Option (Except Fault CloseReason)} (turns : Turns k poll acts answer k') :
    ∀ act ∈ Act.look poll :: acts, act.isGreeting = false := by
  intro act hact
  rcases List.mem_cons.mp hact with rfl | later
  · rfl
  · exact ungreeted_of_inner turns.inner act later

/-- A look with which the connection ended. -/
theorem Turns.attends {k k' : Connection σ ν} {poll : Poll} {acts : List (Act ν)}
    {result : Except Fault CloseReason} (turns : Turns k poll acts (some result) k')
    {polls : List Poll} (behind : [poll] <+: polls ++ [.eof]) :
    Attends k polls (.look poll :: acts) result k' where
  chronicle := turns.chronicle
  through := turns.through
  pipeline := turns.pipeline
  looks := turns.looks ▸ behind
  greeted := turns.ungreeted
  spent := by
    intro reason spent hresult
    rw [hresult] at turns
    exact turns.spent spent rfl
  requested := by
    intro hresult
    rw [hresult] at turns
    simpa using turns.ended .requested rfl
  shutdown := by
    intro hresult
    rw [hresult] at turns
    simpa using turns.ended .shutdown rfl
  timely := by
    intro limit usual settled act hact
    rcases List.mem_cons.mp hact with rfl | later
    · rfl
    · exact (turns.timely limit usual settled).1 act later

/-- A look behind which the connection goes on. -/
theorem Turns.attends_later {k k₁ k' : Connection σ ν} {poll : Poll} {polls : List Poll}
    {acts more : List (Act ν)} {result : Except Fault CloseReason}
    (turns : Turns k poll acts none k₁) (later : Attends k₁ polls more result k') :
    Attends k (poll :: polls) (.look poll :: acts ++ more) result k' where
  chronicle := turns.chronicle.trans (turns.pipeline ▸ later.chronicle)
  through := turns.through.append later.through
  pipeline := later.pipeline.trans turns.pipeline
  looks := by
    rw [List.filterMap_append, turns.looks]
    exact List.cons_prefix_cons.mpr ⟨rfl, later.looks⟩
  greeted := by
    intro act hact
    rcases List.mem_append.mp hact with first | rest
    · exact turns.ungreeted act first
    · exact later.greeted act rest
  spent := fun reason spent hresult => later.spent reason (turns.spent spent rfl) hresult
  requested := later.requested
  shutdown := later.shutdown
  timely := by
    intro limit usual settled act hact
    obtain ⟨timely, settles⟩ := turns.timely limit usual settled
    rcases List.mem_append.mp hact with first | rest
    · rcases List.mem_cons.mp first with rfl | inner
      · rfl
      · exact timely act inner
    · exact later.timely limit (turns.pipeline ▸ usual) (settles rfl) act rest

theorem turn_eof (k : Connection σ ν) : k.turn .eof = (some k.endOfStream.1, k.endOfStream.2) := by
  have hhear : k.hearing .eof = k := by
    rw [hearing, Live.hear_of_nothing rfl]
    simp only [Poll.eof, Bool.or_false]
  rw [turn_of_end rfl, hhear]

/-- **Serving looks at the input is a chronicle of them.** -/
theorem attend_attends (k : Connection σ ν) (polls : List Poll) :
    ∃ acts, Attends k polls acts (k.attend polls).1 (k.attend polls).2 := by
  induction polls generalizing k with
  | nil =>
    cases gate : k.gate with
    | some reason =>
      rw [attend_of_gate gate]
      exact ⟨[], attends_of_gate gate []⟩
    | none =>
      -- Behind the script every look finds the end of the stream.
      obtain ⟨acts, turns⟩ := turn_turns gate .eof
      rw [turn_eof] at turns
      rw [attend_nil gate]
      have behind : [Poll.eof] <+: [] ++ [Poll.eof] := List.prefix_rfl
      exact ⟨_, turns.attends behind⟩
  | cons poll polls ih =>
    cases gate : k.gate with
    | some reason =>
      rw [attend_of_gate gate]
      exact ⟨[], attends_of_gate gate (poll :: polls)⟩
    | none =>
      obtain ⟨acts, turns⟩ := turn_turns gate poll
      rw [attend, gate]
      dsimp only
      rcases hturn : k.turn poll with ⟨_ | result, k₁⟩
      · rw [hturn] at turns
        obtain ⟨more, later⟩ := ih k₁
        exact ⟨_, turns.attends_later later⟩
      · rw [hturn] at turns
        exact ⟨_, turns.attends (List.cons_prefix_cons.mpr ⟨rfl, List.nil_prefix⟩)⟩

/-- What comes of a connection that greets, and of its script of looks if the
greeting does not fail. -/
structure Serves (k : Connection σ ν) (polls : List Poll) (acts : List (Act ν))
    (result : Except Fault CloseReason) (k' : Connection σ ν) : Prop where
  chronicle : k.pipeline.Chronicle k.live acts (faultOf result) k'.live
  through : k.stream.Through acts k'.stream
  pipeline : k'.pipeline = k.pipeline
  looks : acts.filterMap Act.poll? <+: polls ++ [.eof]
  greeting : ∃ deeds more, acts = .greet deeds :: more ∧ ∀ act ∈ more, act.isGreeting = false
  spent : ∀ reason, result = .ok reason → k'.live.sink = []
  requested : result = .ok .requested → k'.live.context.closing = true
  shutdown : result = .ok .shutdown → k'.live.cancelled = true
  timely : ∀ limit, k.pipeline.decoder = .packets limit → k.live.source = [] →
    ∀ act ∈ acts, act.isLate = false

/-- **Serving is a chronicle that begins with the greeting.** -/
theorem serve_serves (k : Connection σ ν) (polls : List Poll) :
    ∃ acts, Serves k polls acts (k.serve polls).1 (k.serve polls).2 := by
  obtain ⟨deeds, greets⟩ := k.pipeline.fireActive_acts k.live
  obtain ⟨sends, greeted, sending, through, pipeline, hcontext, hsource, spent⟩ :=
    advance_chronicle Pipeline.fireActive (.one greets)
  have ungreeted := ungreeted_of_inner fun act hact => (sending act hact).1
  have unlooked := unlooked_of_inner fun act hact => (sending act hact).1
  rw [serve_eq, greet]
  rcases hgreet : k.advance Pipeline.fireActive with ⟨e | _, k₁⟩
  · rw [hgreet] at greeted through pipeline
    exact ⟨_,
      { chronicle := greeted
        through := .silent rfl through
        pipeline := pipeline
        looks := by
          rw [List.singleton_append, List.filterMap_cons_none rfl, unlooked]
          exact List.nil_prefix
        greeting := ⟨_, sends, rfl, ungreeted⟩
        spent := fun reason h => by simp at h
        requested := fun h => by simp at h
        shutdown := fun h => by simp at h
        timely := by
          intro limit usual nothing act hact
          rcases List.mem_cons.mp hact with rfl | later
          · rfl
          · exact (sending act later).2 }⟩
  · rw [hgreet] at greeted through pipeline hsource spent
    obtain ⟨acts, attends⟩ := attend_attends k₁ polls
    exact ⟨_,
      { chronicle := greeted.trans (pipeline ▸ attends.chronicle)
        through := .silent rfl (through.append attends.through)
        pipeline := attends.pipeline.trans pipeline
        looks := by
          rw [List.filterMap_append, List.singleton_append, List.filterMap_cons_none rfl, unlooked]
          exact attends.looks
        greeting := by
          refine ⟨_, sends ++ acts, rfl, ?_⟩
          intro act hact
          rcases List.mem_append.mp hact with first | rest
          · exact ungreeted act first
          · exact attends.greeted act rest
        spent := fun reason h => attends.spent reason (spent rfl).1 h
        requested := attends.requested
        shutdown := attends.shutdown
        timely := by
          intro limit usual nothing act hact
          have settled : Pipeline.Settled limit k₁.live := by
            have hkept : k₁.live.source = [] :=
              hsource.trans ((k.pipeline.source_fireActive k.live).trans nothing)
            exact .inr (hkept ▸ Wire.waiting_nil limit)
          rcases List.mem_append.mp hact with first | rest
          · rcases List.mem_cons.mp first with rfl | later
            · rfl
            · exact (sending act later).2
          · exact attends.timely limit (pipeline ▸ usual) settled act rest }⟩

/-! ## The farewell -/

/-- Behind everything else the handler is told that the connection is going
away, and the stream is shut down. -/
theorem farewell_live (k : Connection σ ν) :
    k.farewell.live = (k.pipeline.fireInactive k.live).record .shutdown := by
  simp [farewell, recordAll, Live.record]

theorem farewell_journal (k : Connection σ ν) :
    k.farewell.live.journal =
      k.live.journal ++ .inactive k.live.context ::
        ((k.pipeline.handler.onInactive k.live.context k.live.user).notes.map .note ++
          [.shutdown]) := by
  rw [farewell_live, Live.journal_record, Pipeline.fireInactive, Live.journal_absorb,
    Live.journal_record, List.append_assoc, List.append_assoc]
  rfl

/-- The farewell sends nothing and takes nothing back. -/
theorem farewell_sends (k : Connection σ ν) :
    sentBytes k.farewell.live.journal = sentBytes k.live.journal ∧
      k.farewell.live.sink = k.live.sink := by
  have told := (k.pipeline.fireInactive_steps k.live).sentBytes_eq
  have hjournal : k.farewell.live.journal =
      (k.pipeline.fireInactive k.live).journal ++ [.shutdown] := by
    simp only [farewell, recordAll, Live.journal, Array.toList_appendList]
  refine ⟨?_, rfl⟩
  rw [hjournal, sentBytes_append, told]
  exact List.append_nil _

end Connection

end PacketServer
