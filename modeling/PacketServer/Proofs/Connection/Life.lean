import PacketServer.Proofs.Connection.Conduct
import PacketServer.Proofs.Connection.Lent
import PacketServer.Proofs.Connection.Segmentation

/-!
# The life of a connection on every path

Whatever ends a connection, its handler is told once that it is up, before
everything else, and once that it goes away, behind everything else; then its
stream is shut down. Between the two a connection that was asked to close
takes nothing more off its input, and one whose work was cancelled does not
look at its input any more.

A cancellation may come at any time: before the run, in a callback, while the
connection looks at its input, or while it writes or flushes. It is seen before
the next look and not sooner. If it comes in the middle of a look that brings
bytes, they are still served.

Callbacks are taken to use their context by its operations, so that a request to
close, once it was made, is still there behind the act in which it was made. With
a callback that puts another context in the place of its own, that need not be so.
What holds where a connection stands at a request (`Chronicle.shut`, `Life.stands`)
does not depend on how it got there.

## Main results

* `Chronicle.shut` — a connection that stands at a request to close has no input.
* `Chronicle.closes_once` — behind an act that asks to close there is no input.
* `Chronicle.cancels_once` — behind an act that cancels there is no look.
* `run_life` — what a whole run comes to.
* `run_serves_look_of_cancellation` — the look in which a cancellation comes.
-/

namespace PacketServer

variable {σ ν : Type}

/-- Whether the event begins or ends a connection's life. -/
def Event.isMilestone : Event ν → Bool
  | .active _ | .inactive _ | .shutdown => true
  | _ => false

/-- Whether the handler is given a packet. -/
def Event.isMessage : Event ν → Bool
  | .message .. => true
  | _ => false

theorem amid_of_pipeline {e : Event ν} (h : e.isOfPipeline = true) : e.isMilestone = false := by
  cases e <;> first | rfl | simp [Event.isOfPipeline] at h

theorem amid_of_transfer {e : Event ν} (h : e.isTransfer = true) : e.isMilestone = false := by
  cases e <;> first | rfl | simp [Event.isTransfer] at h

namespace Pipeline

variable {p : Pipeline σ ν} {l l' : Live σ ν} {act : Act ν} {acts more : List (Act ν)}
  {fault : Option Fault}

/-- Only the greeting begins a life, and no act ends one. -/
theorem Acts.amid (step : Acts p l act fault l') (later : act.isGreeting = false) :
    ∀ e ∈ act.events, e.isMilestone = false := by
  intro e he
  cases step with
  | greeted fires trail ungreeted clear => simp [Act.isGreeting] at later
  | looked poll opened uncancelled => simp [Act.events] at he
  | dispatched opened takes dispatches trail clear =>
    rcases List.mem_cons.mp he with rfl | inner
    · rfl
    · exact amid_of_pipeline (trail.isOfPipeline e inner)
  | left opened leaves => simp [Act.events] at he
  | garbled opened fails => simp [Act.events] at he
  | sent cancels transfers whole => exact amid_of_transfer (transfers e he)
  | broken cancels e' transfers part => exact amid_of_transfer (transfers e he)

theorem Chronicle.amid (chronicle : Chronicle p l acts fault l') :
    ∀ act ∈ acts, act.isGreeting = false → ∀ e ∈ act.events, e.isMilestone = false := by
  induction chronicle with
  | done l => simp
  | fault step =>
    intro act hact later
    rw [List.mem_singleton.mp hact] at later ⊢
    exact step.amid later
  | more step _ ih =>
    intro act hact later
    rcases List.mem_cons.mp hact with rfl | rest
    · exact step.amid later
    · exact ih act rest later

/-- Where a connection stands that shall close, nothing more is looked at or taken
off the input. -/
theorem Chronicle.shut (chronicle : Chronicle p l acts fault l')
    (timely : ∀ act ∈ acts, act.isLate = false) (closing : l.context.closing = true) :
    ∀ a ∈ acts, a.isInput = false := by
  intro a ha
  have barred := chronicle.barred closing a ha
  cases hinput : a.isInput with
  | false => rfl
  | true => exact absurd ⟨hinput, timely a ha⟩ barred

/-- **Behind an act in which somebody asks to close, nothing is looked at or
taken off the input.** -/
theorem Chronicle.closes_once (chronicle : Chronicle p l acts fault l')
    (timely : ∀ act ∈ acts, act.isLate = false) {before later : List (Act ν)}
    (split : acts = before ++ act :: later) (closes : act.closes = true) :
    ∀ a ∈ later, a.isInput = false := by
  obtain ⟨l₁, l₂, fault₁, fault₂, step, rest⟩ := chronicle.after split
  have closing : l₂.context.closing = true := by rw [step.closing, closes, Bool.or_true]
  exact rest.shut (fun a ha => timely a (by simp [split, ha])) closing

/-- **Behind an act in which the server's work is cancelled, nothing is looked at.** -/
theorem Chronicle.cancels_once (chronicle : Chronicle p l acts fault l')
    {before later : List (Act ν)} (split : acts = before ++ act :: later)
    (cancels : act.cancels = true) : ∀ a ∈ later, a.poll? = none := by
  obtain ⟨l₁, l₂, fault₁, fault₂, step, rest⟩ := chronicle.after split
  have cancelled : l₂.cancelled = true := by rw [step.cancelled, cancels, Bool.or_true]
  exact rest.idle cancelled

theorem Acts.greeting {deeds : List (Deed ν)} (step : Acts p l (.greet deeds) fault l') :
    (∃ flushed, deeds =
        .ofReaction (.active l.context) (p.handler.onActive l.context l.user) :: flushed ∧
      ∀ e ∈ flushed.flatMap Deed.events, e.isOfPipeline = true) ∧
    ∀ e, (p.handler.onActive l.context l.user).value = .error e →
      fault = some e ∧
        deeds = [.ofReaction (.active l.context) (p.handler.onActive l.context l.user)] := by
  cases step with
  | greeted fires trail ungreeted clear =>
    refine ⟨⟨_, rfl, trail.isOfPipeline⟩, ?_⟩
    intro e he
    obtain ⟨rfl, rfl⟩ := ungreeted e he
    exact ⟨rfl, rfl⟩

/-- The greeting tells the handler, and if that fails nothing else is done. -/
theorem Chronicle.greeting {deeds : List (Deed ν)}
    (chronicle : Chronicle p l (.greet deeds :: more) fault l') :
    (∃ flushed, deeds =
        .ofReaction (.active l.context) (p.handler.onActive l.context l.user) :: flushed ∧
      ∀ e ∈ flushed.flatMap Deed.events, e.isOfPipeline = true) ∧
    ∀ e, (p.handler.onActive l.context l.user).value = .error e →
      fault = some e ∧ more = [] ∧
        deeds = [.ofReaction (.active l.context) (p.handler.onActive l.context l.user)] := by
  cases chronicle with
  | fault step =>
    refine ⟨step.greeting.1, ?_⟩
    intro e he
    obtain ⟨hfault, hdeeds⟩ := step.greeting.2 e he
    exact ⟨hfault, rfl, hdeeds⟩
  | more step later =>
    refine ⟨step.greeting.1, ?_⟩
    intro e he
    have hfault := (step.greeting.2 e he).1
    simp at hfault

end Pipeline

namespace Connection

/-- What the life of a connection with the usual decoder comes to: the acts
before the farewell, the state `l` that they lead to, and the end. -/
structure Life (k : Connection σ ν) (polls : List Poll) (acts : List (Act ν)) (l : Live σ ν)
    (result : Except Fault CloseReason) (k' : Connection σ ν) : Prop where
  chronicle : k.pipeline.Chronicle k.live acts (faultOf result) l
  /-- What is sent, and what is cancelled meanwhile, is what the stream's script says. -/
  through : k.stream.Through acts k'.stream
  /-- The first act, and no other, is to greet. -/
  greeting : ∃ deeds more, acts = .greet deeds :: more ∧ ∀ act ∈ more, act.isGreeting = false
  /-- Behind a greeting that fails nothing is done but the farewell. -/
  ungreeted : ∀ e, (k.pipeline.handler.onActive k.live.context k.live.user).value = .error e →
    result = .error e ∧ acts.length = 1 ∧ ∀ event ∈ k'.live.journal, event.isMessage = false
  farewell : k'.live = (k.pipeline.fireInactive l).record .shutdown
  /-- The handler is told once that the connection is up, before everything
  else, and once that it goes away, behind everything but the shutdown. -/
  journal : ∃ between,
    k'.live.journal = .active k.live.context :: between ++ .inactive l.context ::
      ((k.pipeline.handler.onInactive l.context l.user).notes.map .note ++ [.shutdown]) ∧
    ∀ event ∈ between, event.isMilestone = false
  looks : acts.filterMap Act.poll? <+: polls ++ [.eof]
  /-- No packet is dispatched at the end of the stream. -/
  timely : ∀ act ∈ acts, act.isLate = false
  requested : result = .ok .requested → l.context.closing = true
  shutdown : result = .ok .shutdown → l.cancelled = true
  /-- Behind the act in which somebody asks to close there is no input. -/
  closed : ∀ before act later, acts = before ++ act :: later → act.closes = true →
    ∀ a ∈ later, a.isInput = false
  /-- Behind the act in which the work is cancelled, be it a look, a dispatch, the
  greeting or one of sending, there is no look. -/
  cancelled : ∀ before act later, acts = before ++ act :: later → act.cancels = true →
    ∀ a ∈ later, a.poll? = none
  /-- Whatever led to it: where the connection stands before an act, it goes on without
  input if it shall close, and without a look if its work was cancelled. -/
  stands : ∀ before act later, acts = before ++ act :: later → ∃ l₁,
    k.pipeline.Chronicle k.live before none l₁ ∧
    (l₁.context.closing = true → ∀ a ∈ act :: later, a.isInput = false) ∧
    (l₁.cancelled = true → ∀ a ∈ act :: later, a.poll? = none)
  cancelledBefore : k.live.cancelled = true → ∀ a ∈ acts, a.poll? = none

/-- The journal of a connection that greeted. -/
theorem Serves.journal {k k' : Connection σ ν} {polls : List Poll} {acts : List (Act ν)}
    {result : Except Fault CloseReason} (serves : Serves k polls acts result k')
    (fresh : k.live.journal = []) :
    ∃ between, k'.live.journal = .active k.live.context :: between ∧
      (∀ event ∈ between, event.isMilestone = false) ∧
      ∀ e, (k.pipeline.handler.onActive k.live.context k.live.user).value = .error e →
        faultOf result = some e ∧ acts.length = 1 ∧
          ∀ event ∈ between, event.isMessage = false := by
  have chronicle := serves.chronicle
  have hjournal := chronicle.journal
  obtain ⟨deeds, more, rfl, later⟩ := serves.greeting
  obtain ⟨⟨flushed, rfl, inner⟩, ungreeted⟩ := chronicle.greeting
  refine ⟨(k.pipeline.handler.onActive k.live.context k.live.user).notes.map .note ++
    (flushed.flatMap Deed.events ++ more.flatMap Act.events), ?_, ?_, ?_⟩
  · rw [hjournal, fresh, List.nil_append, List.flatMap_cons, Act.events, List.flatMap_cons,
      List.append_assoc]
    rfl
  · intro event hevent
    rcases List.mem_append.mp hevent with note | rest
    · exact amid_of_pipeline (Pipeline.isOfPipeline_note note)
    · rcases List.mem_append.mp rest with flush | behind
      · exact amid_of_pipeline (inner event flush)
      · obtain ⟨act, hact, hevents⟩ := List.mem_flatMap.mp behind
        exact chronicle.amid act (List.mem_cons_of_mem _ hact) (later act hact) event hevents
  · intro e he
    obtain ⟨hfault, rfl, hdeeds⟩ := ungreeted e he
    have hnone : flushed = [] := by simpa using hdeeds
    refine ⟨hfault, rfl, ?_⟩
    intro event hevent
    rw [hnone, List.flatMap_nil, List.flatMap_nil, List.append_nil, List.append_nil] at hevent
    obtain ⟨note, -, rfl⟩ := List.mem_map.mp hevent
    rfl

/-- **The life of a connection.** Whatever its input, its stream, its stages and its
handler do, a run with the usual decoder has the same course: the greeting, looks
and dispatches as long as nobody asks to close and nothing cancels the server's
work, the farewell, the shutdown. The two buffers that it borrowed go back, with
what the connection left in them and whatever room they have got, so that as many
are out as before and the other borrowers hold what they held. Callbacks are taken
to queue packets and to ask to close, and not to put another context in the place
of theirs. -/
theorem run_life {limit : Nat} {spec : Spec σ ν} (usual : spec.decoder = .packets limit)
    (context : Context) (user : σ) (stream : Stream) (cancelled : Bool) (polls : List Poll)
    (pool : BufferPool) (growth : Growth) :
    let k := ofSpec spec context user stream cancelled
    let outcome := k.run polls pool growth
    outcome.1 = (k.serve polls).1 ∧ Borrows k pool growth outcome.2.1 outcome.2.2 ∧
      ∃ acts l, Life k polls acts l outcome.1 outcome.2.1 := by
  intro k outcome
  obtain ⟨acts, serves⟩ := serve_serves k polls
  obtain ⟨between, hjournal, amid, ungreeted⟩ := serves.journal rfl
  have timely := serves.timely limit usual rfl
  have hfarewell : outcome.2.1.live = (k.pipeline.fireInactive (k.serve polls).2.live).record
      .shutdown := by
    rw [← serves.pipeline]
    exact farewell_live _
  have hlast : outcome.2.1.live.journal = .active context :: between ++
      .inactive (k.serve polls).2.live.context ::
        ((k.pipeline.handler.onInactive (k.serve polls).2.live.context
          (k.serve polls).2.live.user).notes.map .note ++ [.shutdown]) := by
    have hbehind := farewell_journal (k.serve polls).2
    rw [hjournal, serves.pipeline] at hbehind
    exact hbehind
  have borrows := run_borrows spec context user stream cancelled polls pool growth
  refine ⟨rfl, borrows, acts, (k.serve polls).2.live, ?_⟩
  exact
    { chronicle := serves.chronicle
      through := serves.through
      greeting := serves.greeting
      ungreeted := by
        intro e he
        obtain ⟨hfault, hlength, silent⟩ := ungreeted e he
        refine ⟨error_of_faultOf hfault, hlength, ?_⟩
        intro event hevent
        rw [hlast] at hevent
        simp only [List.cons_append, List.mem_cons, List.mem_append, List.not_mem_nil,
          or_false] at hevent
        rcases hevent with rfl | inner | rfl | note | rfl
        · rfl
        · exact silent event inner
        · rfl
        · obtain ⟨note, -, rfl⟩ := List.mem_map.mp note
          rfl
        · rfl
      farewell := hfarewell
      journal := ⟨between, hlast, amid⟩
      looks := serves.looks
      timely := timely
      requested := serves.requested
      shutdown := serves.shutdown
      closed := fun before act later split closes =>
        serves.chronicle.closes_once timely split closes
      cancelled := fun before act later split cancels =>
        serves.chronicle.cancels_once split cancels
      stands := by
        intro before act later split
        obtain ⟨l₁, early, rest⟩ := serves.chronicle.since split
        have timely' : ∀ a ∈ act :: later, a.isLate = false :=
          fun a ha => timely a (split ▸ List.mem_append_right before ha)
        exact ⟨l₁, early, rest.shut timely', rest.idle⟩
      cancelledBefore := serves.chronicle.idle }

/-- A packet that asks to close, and another one behind it in the same look. The
buffer for writing has grown too much to be kept. -/
theorem run_life_until_request :
    let bytes : Bytes :=
      [0, 0, 0, 1, 9, 0, 0, 0, 0, 0, 8, 65, 0, 0, 0, 1, 7, 0, 0, 0, 0, 0, 6, 65]
    let polls : List Poll := [{ answer := some (.ok bytes) }, { answer := some (.ok bytes) }]
    let spec : Spec Nat Nat := .ofHandler countingHandler
    let k := ofSpec spec loopback 0 { writes := [.accept 3, .pending] } false
    let outcome := k.run polls (.ofPolicy (.pooled 2 8)) { write := fun _ => 65 }
    spec.decoder = .packets Packet.defaultLimit ∧ outcome.1.toOption = some .requested ∧
      outcome.2.2.idle = 1 ∧ outcome.2.2.outstanding = 0 ∧ outcome.2.2.Clean ∧
      ∃ acts l, Life k polls acts l outcome.1 outcome.2.1 := by
  intro bytes polls spec k outcome
  have requested : outcome.1.toOption = some .requested := by decide +kernel
  have kept : outcome.2.2.idle = 1 := by decide +kernel
  have usual : spec.decoder = .packets Packet.defaultLimit := rfl
  obtain ⟨-, borrows, life⟩ := run_life usual loopback 0
    { writes := [.accept 3, .pending] } false polls (.ofPolicy (.pooled 2 8))
    { write := fun _ => 65 }
  exact ⟨usual, requested, kept, borrows.outstanding, borrows.clean (BufferPool.clean_ofPolicy _),
    life⟩

/-- The work is cancelled while a reply is written. The reply is written to its end,
and what would come next is not looked at. -/
example :
    let packet : Bytes := [0, 0, 0, 1, 7, 0, 0, 0, 0, 0, 6, 65]
    let poll : Poll := { answer := some (.ok packet) }
    let stream : Stream := { writes := [.accept 3, .cancel] }
    let outcome := (ofSpec (σ := Unit) (ν := Unit) (.ofHandler .echo) loopback () stream false).run
      [poll, poll] (.ofPolicy (.pooled 4 256))
    outcome.1.toOption = some .shutdown ∧ sentBytes outcome.2.1.live.journal = packet := by
  decide +kernel

/-- The work is cancelled in the middle of the very look that brings a packet. The
packet is still decoded and given to the handler, and only then the connection
ends. -/
theorem run_serves_look_of_cancellation :
    let packet : Bytes := [0, 0, 0, 5, 7, 0, 0, 0, 0, 0, 2, 104, 101, 108, 108, 111]
    let poll : Poll := { cancels := true, answer := some (.ok packet) }
    let k := ofSpec (σ := Unit) (ν := Unit) (.ofHandler .echo) loopback () {} false
    let outcome := k.run [poll] (.ofPolicy (.pooled 4 256))
    poll.cancels = true ∧ k.live.cancelled = false ∧ outcome.1.toOption = some .shutdown ∧
      outcome.2.1.live.journal.any Event.isMessage = true ∧
      sentBytes outcome.2.1.live.journal = packet := by
  intro packet poll k outcome
  refine ⟨rfl, rfl, ?_, ?_, ?_⟩
  · decide +kernel
  · decide +kernel
  · decide +kernel

end Connection

end PacketServer
