import PacketServer.Proofs.Connection.Course
import PacketServer.Proofs.Pipeline.Trail

/-!
# The chronicle of a connection

A connection greets its handler, looks at its input, dispatches packets,
leaves bytes where they are and sends what was encoded. A chronicle lists
these acts from one state to another. A fault ends it: what a chronicle says
of a connection that met a fault is what had happened until then.

Whether a connection may look or dispatch is written into the acts. It looks
only if nobody asked to close and nothing cancelled the server's work, and it
dispatches only if nobody asked to close, unless its stream has ended and its
decoder still gives packets. It sends whatever was cancelled, and a cancellation
may come in every act but those that leave bytes where they are.

`Course` lists what becomes of a peer's bytes with the usual decoder and a
stream that takes whatever it is given. A chronicle holds of every decoder,
every encoder and every stream.

## Main results

* `fireActive_acts`, `fireRead_chronicle`, `fireEnd_chronicle` — the operations
  of a pipeline are chronicles.
* `Chronicle.journal`, `Chronicle.closing`, `Chronicle.cancelled` — journal and
  requests by the chronicle.
* `Chronicle.barred`, `Chronicle.idle` — a connection that shall close neither
  looks nor dispatches, and one whose work was cancelled does not look.
-/

namespace PacketServer

variable {σ ν α : Type}

/-- The fault that something came to, if it did. -/
def faultOf : Except Fault α → Option Fault
  | .ok _ => none
  | .error e => some e

theorem error_of_faultOf {result : Except Fault α} {e : Fault} (h : faultOf result = some e) :
    result = .error e := by
  cases result with
  | error e' => rw [Option.some.inj h]
  | ok value => simp [faultOf] at h

theorem ok_of_toOption {result : Except Fault α} {value : α} (h : result.toOption = some value) :
    result = .ok value := by
  cases result with
  | error e => simp [Except.toOption] at h
  | ok value' => rw [Option.some.inj h]

namespace Poll

/-- The look that finds the end of the stream. -/
def eof : Poll := { answer := some (.ok []) }

/-- The bytes that a look brings. -/
def bytes (poll : Poll) : Bytes :=
  match poll.answer with
  | some (.ok bytes) => bytes
  | _ => []

/-- The fault that a look finds. -/
def fault? (poll : Poll) : Option Fault :=
  match poll.answer with
  | some (.error e) => some (.io e)
  | _ => none

end Poll

namespace Live

/-- A look brings its bytes, perhaps behind a cancellation. -/
def hear (l : Live σ ν) (poll : Poll) : Live σ ν :=
  { l with cancelled := l.cancelled || poll.cancels, source := l.source ++ poll.bytes }

theorem hear_of_nothing {l : Live σ ν} {poll : Poll} (nothing : poll.bytes = []) :
    l.hear poll = { l with cancelled := l.cancelled || poll.cancels } := by
  rw [hear, nothing, List.append_nil]

end Live

/-- What a connection does at a time. -/
inductive Act (ν : Type)
  /-- The handler is told that the connection is up, and what it queued is flushed. -/
  | greet (deeds : List (Deed ν))
  | look (poll : Poll)
  /-- A packet is taken off the bytes that arrived and dispatched, `late` if no
  more are to come. -/
  | dispatch (late : Bool) (packet : Packet) (deeds : List (Deed ν))
  /-- No packet could be taken off them. -/
  | leave (late : Bool)
  /-- What was encoded is sent; `cancels` if the server's work is cancelled meanwhile. -/
  | send (cancels : Bool) (events : List (Event ν))

namespace Act

/-- What the pipeline does meanwhile. -/
def deeds : Act ν → List (Deed ν)
  | .greet deeds | .dispatch _ _ deeds => deeds
  | _ => []

/-- What the journal shows of it. -/
def events : Act ν → List (Event ν)
  | .greet deeds => deeds.flatMap Deed.events
  | .dispatch _ packet deeds => .decoded packet :: deeds.flatMap Deed.events
  | .send _ events => events
  | _ => []

def poll? : Act ν → Option Poll
  | .look poll => some poll
  | _ => none

/-- Whether somebody asks to close the connection meanwhile. -/
def closes (act : Act ν) : Bool := act.deeds.any Deed.closes

/-- Whether the server's work is cancelled meanwhile. -/
def cancels : Act ν → Bool
  | .look poll => poll.cancels
  | .send cancels _ => cancels
  | act => act.deeds.any Deed.cancels

def isGreeting : Act ν → Bool
  | .greet _ => true
  | _ => false

/-- Whether it is a look, or is about bytes behind which more are to come, or
dispatches a packet. -/
def isInput : Act ν → Bool
  | .look _ | .dispatch .. => true
  | .leave late => !late
  | _ => false

/-- Whether it dispatches a packet that the decoder gives at the end of a stream. -/
def isLate : Act ν → Bool
  | .dispatch late .. => late
  | _ => false

/-- Whether it is neither the greeting nor a look. -/
def isInner : Act ν → Bool
  | .greet _ | .look _ => false
  | _ => true

def isSend : Act ν → Bool
  | .send .. => true
  | _ => false

/-- Whether it is about the bytes that arrived, and if so whether no more bytes are
to come behind them. -/
def lateness? : Act ν → Option Bool
  | .dispatch late .. | .leave late => some late
  | _ => none

theorem inner_of_lateness {act : Act ν} {late : Bool} (h : act.lateness? = some late) :
    act.isInner = true ∧ act.isSend = false := by
  cases act <;> first | exact ⟨rfl, rfl⟩ | simp [lateness?] at h

theorem timely_of_lateness {act : Act ν} (h : act.lateness? = some false) :
    act.isLate = false := by
  cases act with
  | dispatch late packet deeds => simpa [lateness?, isLate] using h
  | _ => rfl

end Act

/-- Takes a packet off bytes, behind which more are to come unless it is late. -/
def Decoder.take (d : Decoder σ) : (late : Bool) → σ → Bytes → Wire.Attempt × σ
  | false => d.decode
  | true => d.decodeEnd

namespace Pipeline

/-- A connection of which the handler was told that it is up. -/
def hello (p : Pipeline σ ν) (l : Live σ ν) : Live σ ν :=
  (l.record (.active l.context)).absorb (p.handler.onActive l.context l.user)

/-- The acts of a connection, with the faults that they come to. -/
inductive Acts (p : Pipeline σ ν) : Live σ ν → Act ν → Option Fault → Live σ ν → Prop
  | greeted {l l' : Live σ ν} {result : Except Fault Unit} {deeds : List (Deed ν)}
      (fires : p.fireActive l = (result, l')) (trail : Trail p (p.hello l) deeds l')
      (ungreeted : ∀ e, (p.handler.onActive l.context l.user).value = .error e →
        result = .error e ∧ deeds = [])
      (clear : result = .ok () → Clear deeds) :
      Acts p l
        (.greet (.ofReaction (.active l.context) (p.handler.onActive l.context l.user) :: deeds))
        (faultOf result) l'
  | looked {l : Live σ ν} (poll : Poll) (opened : l.context.closing = false)
      (uncancelled : l.cancelled = false) : Acts p l (.look poll) poll.fault? (l.hear poll)
  | dispatched {l l' : Live σ ν} {late : Bool} {packet : Packet} {rest : Bytes}
      {user : σ} {result : Except Fault Bool} {deeds : List (Deed ν)}
      (opened : late = false → l.context.closing = false)
      (takes : p.decoder.take late l.user l.source = ((.ok (some packet), rest), user))
      (dispatches : p.dispatch packet (l.decoded packet rest user) = (result, l'))
      (trail : Trail p (l.decoded packet rest user) deeds l')
      (clear : ∀ delivered, result = .ok delivered → Clear deeds) :
      Acts p l (.dispatch late packet deeds) (faultOf result) l'
  | left {l : Live σ ν} {late : Bool} {rest : Bytes} {user : σ}
      (opened : late = false → l.context.closing = false)
      (leaves : p.decoder.take late l.user l.source = ((.ok none, rest), user)) :
      Acts p l (.leave late) none { l with source := rest, user := user }
  | garbled {l : Live σ ν} {late : Bool} {e : CodecError} {rest : Bytes} {user : σ}
      (opened : late = false → l.context.closing = false)
      (fails : p.decoder.take late l.user l.source = ((.error e, rest), user)) :
      Acts p l (.leave late) (some (.codec e)) { l with source := rest, user := user }
  | sent {l : Live σ ν} {events : List (Event ν)} (cancels : Bool)
      (transfers : ∀ e ∈ events, e.isTransfer = true) (whole : sentBytes events = l.sink) :
      Acts p l (.send cancels events) none
        { l with past := l.past ++ events, cancelled := l.cancelled || cancels, encoded := #[] }
  | broken {l : Live σ ν} {events : List (Event ν)} (cancels : Bool) (e : IoError)
      (transfers : ∀ e ∈ events, e.isTransfer = true) (part : sentBytes events <+: l.sink) :
      Acts p l (.send cancels events) (some (.io e))
        { l with past := l.past ++ events, cancelled := l.cancelled || cancels }

/-- Acts one after the other. A fault ends them. -/
inductive Chronicle (p : Pipeline σ ν) :
    Live σ ν → List (Act ν) → Option Fault → Live σ ν → Prop
  | done (l : Live σ ν) : Chronicle p l [] none l
  | fault {l l' : Live σ ν} {act : Act ν} {e : Fault} (acts : Acts p l act (some e) l') :
      Chronicle p l [act] (some e) l'
  | more {l l₁ l' : Live σ ν} {act : Act ν} {later : List (Act ν)} {fault : Option Fault}
      (acts : Acts p l act none l₁) (chronicle : Chronicle p l₁ later fault l') :
      Chronicle p l (act :: later) fault l'

variable {p : Pipeline σ ν} {l l₁ l' : Live σ ν} {act : Act ν} {acts more : List (Act ν)}
  {fault : Option Fault}

theorem Chronicle.one (step : Acts p l act fault l') : Chronicle p l [act] fault l' := by
  cases fault with
  | none => exact .more step (.done l')
  | some e => exact .fault step

theorem Chronicle.trans (first : Chronicle p l acts none l₁)
    (second : Chronicle p l₁ more fault l') : Chronicle p l (acts ++ more) fault l' := by
  generalize hnone : (none : Option Fault) = ending at first
  induction first with
  | done l => exact second
  | fault step => simp at hnone
  | more step _ ih => exact .more step (ih second hnone)

/-! ## The books of a connection, by its chronicle -/

theorem Acts.journal (step : Acts p l act fault l') : l'.journal = l.journal ++ act.events := by
  cases step with
  | greeted fires trail ungreeted clear =>
    rw [trail.journal, hello, Live.journal_absorb, Live.journal_record, Act.events,
      List.flatMap_cons, List.append_assoc, List.append_assoc, ← List.append_assoc [_]]
    rfl
  | looked poll opened uncancelled => exact (List.append_nil _).symm
  | @dispatched l late packet rest user result deeds opened takes dispatches trail clear =>
    have hjournal : (l.decoded packet rest user).journal = l.journal ++ [.decoded packet] :=
      Live.journal_record _ _
    rw [trail.journal, hjournal, List.append_assoc]
    rfl
  | left opened leaves => exact (List.append_nil _).symm
  | garbled opened fails => exact (List.append_nil _).symm
  | sent cancels transfers whole => exact Array.toList_appendList
  | broken cancels e transfers part => exact Array.toList_appendList

theorem Chronicle.journal (chronicle : Chronicle p l acts fault l') :
    l'.journal = l.journal ++ acts.flatMap Act.events := by
  induction chronicle with
  | done l => exact (List.append_nil _).symm
  | fault step => rw [step.journal, List.flatMap_singleton]
  | more step _ ih => rw [ih, step.journal, List.flatMap_cons, List.append_assoc]

theorem Acts.closing (step : Acts p l act fault l') :
    l'.context.closing = (l.context.closing || act.closes) := by
  cases step with
  | greeted fires trail ungreeted clear =>
    rw [trail.closing, Act.closes, Act.deeds, List.any_cons, ← Bool.or_assoc]
    rfl
  | looked poll opened uncancelled => exact (Bool.or_false _).symm
  | dispatched opened takes dispatches trail clear => exact trail.closing
  | left opened leaves => exact (Bool.or_false _).symm
  | garbled opened fails => exact (Bool.or_false _).symm
  | sent cancels transfers whole => exact (Bool.or_false _).symm
  | broken cancels e transfers part => exact (Bool.or_false _).symm

theorem Acts.cancelled (step : Acts p l act fault l') :
    l'.cancelled = (l.cancelled || act.cancels) := by
  cases step with
  | greeted fires trail ungreeted clear =>
    rw [trail.cancelled, Act.cancels, Act.deeds, List.any_cons, ← Bool.or_assoc]
    · rfl
    · simp
    · simp
  | looked poll opened uncancelled => rfl
  | dispatched opened takes dispatches trail clear => exact trail.cancelled
  | left opened leaves => exact (Bool.or_false _).symm
  | garbled opened fails => exact (Bool.or_false _).symm
  | sent cancels transfers whole => rfl
  | broken cancels e transfers part => rfl

theorem Chronicle.closing (chronicle : Chronicle p l acts fault l') :
    l'.context.closing = (l.context.closing || acts.any Act.closes) := by
  induction chronicle with
  | done l => exact (Bool.or_false _).symm
  | fault step => rw [step.closing, List.any_cons, List.any_nil, Bool.or_false]
  | more step _ ih => rw [ih, step.closing, List.any_cons, Bool.or_assoc]

theorem Chronicle.cancelled (chronicle : Chronicle p l acts fault l') :
    l'.cancelled = (l.cancelled || acts.any Act.cancels) := by
  induction chronicle with
  | done l => exact (Bool.or_false _).symm
  | fault step => rw [step.cancelled, List.any_cons, List.any_nil, Bool.or_false]
  | more step _ ih => rw [ih, step.cancelled, List.any_cons, Bool.or_assoc]

/-- What a connection may not do in a state, it does not do from there on, if
it cannot come into a state in which it may. -/
theorem Chronicle.never (Barred : Live σ ν → Prop) {Bad : Act ν → Prop}
    (barred : ∀ {l act fault l'}, Acts p l act fault l' → Barred l → ¬ Bad act ∧ Barred l')
    (chronicle : Chronicle p l acts fault l') (h : Barred l) : ∀ act ∈ acts, ¬ Bad act := by
  induction chronicle with
  | done l => simp
  | fault step =>
    intro act hact
    rw [List.mem_singleton.mp hact]
    exact (barred step h).1
  | more step _ ih =>
    intro act hact
    rcases List.mem_cons.mp hact with rfl | later
    · exact (barred step h).1
    · exact ih (barred step h).2 act later

/-- A connection that shall close neither looks at its input nor takes a packet
off what has arrived, except for what its decoder gives at the end of the stream. -/
theorem Chronicle.barred (chronicle : Chronicle p l acts fault l')
    (closing : l.context.closing = true) :
    ∀ act ∈ acts, ¬ (act.isInput = true ∧ act.isLate = false) := by
  refine chronicle.never (fun l => l.context.closing = true) ?_ closing
  intro l act fault l' step hclosing
  refine ⟨?_, by rw [step.closing, hclosing, Bool.true_or]⟩
  rintro ⟨input, timely⟩
  cases step with
  | looked poll opened uncancelled => simp [hclosing] at opened
  | dispatched opened takes dispatches trail clear => simp [opened timely] at hclosing
  | left opened leaves =>
    have hopen := opened (by simpa [Act.isInput] using input)
    simp [hopen] at hclosing
  | garbled opened fails =>
    have hopen := opened (by simpa [Act.isInput] using input)
    simp [hopen] at hclosing
  | _ => simp [Act.isInput] at input

/-- A connection whose work was cancelled does not look at its input. -/
theorem Chronicle.idle (chronicle : Chronicle p l acts fault l')
    (cancelled : l.cancelled = true) : ∀ act ∈ acts, act.poll? = none := by
  have unseen : ∀ act ∈ acts, ¬ act.poll?.isSome := by
    refine chronicle.never (fun l => l.cancelled = true) ?_ cancelled
    intro l act fault l' step hcancelled
    refine ⟨?_, by rw [step.cancelled, hcancelled, Bool.true_or]⟩
    intro look
    cases step with
    | looked poll opened uncancelled => simp [hcancelled] at uncancelled
    | _ => simp [Act.poll?] at look
  intro act hact
  simpa using unseen act hact

/-- A chronicle goes on from before each of its acts. -/
theorem Chronicle.since (chronicle : Chronicle p l acts fault l') {before later : List (Act ν)}
    (split : acts = before ++ act :: later) :
    ∃ l₁, Chronicle p l before none l₁ ∧ Chronicle p l₁ (act :: later) fault l' := by
  induction chronicle generalizing before with
  | done l => simp at split
  | @fault l l' first e step =>
    rcases before with _ | ⟨b, before⟩
    · rw [List.nil_append] at split
      exact ⟨l, .done l, split ▸ .fault step⟩
    · simp at split
  | @more l l₁ l' first rest fault step chronicle ih =>
    rcases before with _ | ⟨b, before⟩
    · rw [List.nil_append] at split
      exact ⟨l, .done l, split ▸ .more step chronicle⟩
    · simp only [List.cons_append, List.cons.injEq] at split
      obtain ⟨rfl, split⟩ := split
      obtain ⟨l₂, first, second⟩ := ih split
      exact ⟨l₂, .more step first, second⟩

/-- A chronicle goes on behind each of its acts. -/
theorem Chronicle.after (chronicle : Chronicle p l acts fault l') {before later : List (Act ν)}
    (split : acts = before ++ act :: later) :
    ∃ l₁ l₂ fault₁ fault₂, Acts p l₁ act fault₁ l₂ ∧ Chronicle p l₂ later fault₂ l' := by
  obtain ⟨l₁, -, rest⟩ := chronicle.since split
  cases rest with
  | fault step => exact ⟨_, _, _, _, step, .done l'⟩
  | more step chronicle => exact ⟨_, _, _, _, step, chronicle⟩

/-! ## The operations of a pipeline -/

variable (p)

theorem fireActive_acts (l : Live σ ν) :
    ∃ deeds, Acts p l
      (.greet (.ofReaction (.active l.context) (p.handler.onActive l.context l.user) :: deeds))
      (faultOf (p.fireActive l).1) (p.fireActive l).2 := by
  cases hvalue : (p.handler.onActive l.context l.user).value with
  | error e =>
    have hfires : p.fireActive l = (.error e, p.hello l) := by
      rw [fireActive, hvalue]
      rfl
    refine ⟨[], .greeted rfl ?_ ?_ fun _ => rfl⟩
    · rw [hfires]
      exact .refl _
    · intro e' he'
      rw [hvalue] at he'
      rw [hfires]
      exact ⟨congrArg Except.error (Except.error.inj he'), rfl⟩
  | ok value =>
    have hfires : p.fireActive l = p.flushed (p.hello l) := by
      rw [fireActive, hvalue]
      rfl
    obtain ⟨deeds, trail, clear⟩ := p.flushed_trail (p.hello l)
    refine ⟨deeds, .greeted rfl ?_ ?_ ?_⟩
    · rw [hfires]
      exact trail
    · intro e he
      rw [hvalue] at he
      simp at he
    · rw [hfires]
      exact clear

theorem dispatch_acts {l : Live σ ν} (late : Bool) {packet : Packet} {rest : Bytes} {user : σ}
    (opened : late = false → l.context.closing = false)
    (takes : p.decoder.take late l.user l.source = ((.ok (some packet), rest), user)) :
    ∃ deeds, Acts p l (.dispatch late packet deeds)
      (faultOf (p.dispatch packet (l.decoded packet rest user)).1)
      (p.dispatch packet (l.decoded packet rest user)).2 := by
  obtain ⟨deeds, trail, clear⟩ := p.dispatch_trail packet (l.decoded packet rest user)
  exact ⟨deeds, .dispatched opened takes rfl trail clear⟩

/-- Decoding and dispatching is a chronicle of dispatches. -/
theorem fireRead_chronicle (l : Live σ ν) :
    ∃ acts, Chronicle p l acts (faultOf (p.fireRead l).1) (p.fireRead l).2 ∧
      ∀ act ∈ acts, act.lateness? = some false := by
  fun_induction fireRead p l with
  | case1 l => exact ⟨[], .done l, by simp⟩
  | case2 l hopen e rest user h =>
    exact ⟨[.leave false], .one (.garbled (fun _ => by simpa using hopen) h), by
      simp [Act.lateness?]⟩
  | case3 l hopen rest user h =>
    exact ⟨[.leave false], .one (.left (fun _ => by simpa using hopen) h), by
      simp [Act.lateness?]⟩
  | case4 l hopen packet rest user h e l' hd =>
    obtain ⟨deeds, step⟩ := p.dispatch_acts false (fun _ => by simpa using hopen) h
    rw [hd] at step
    exact ⟨_, .one step, by simp [Act.lateness?]⟩
  | case5 l hopen packet rest user h delivered l₁ hd _ n l' hread ih =>
    obtain ⟨deeds, step⟩ := p.dispatch_acts false (fun _ => by simpa using hopen) h
    obtain ⟨acts, chronicle, inner⟩ := ih
    rw [hd] at step
    rw [hread] at chronicle
    exact ⟨_, .more step chronicle, by simpa [Act.lateness?] using inner⟩
  | case6 l hopen packet rest user h delivered l₁ hd _ e l' hread ih =>
    obtain ⟨deeds, step⟩ := p.dispatch_acts false (fun _ => by simpa using hopen) h
    obtain ⟨acts, chronicle, inner⟩ := ih
    rw [hd] at step
    rw [hread] at chronicle
    exact ⟨_, .more step chronicle, by simpa [Act.lateness?] using inner⟩

/-- What is done at the end of a stream is a chronicle of dispatches, of none
if the decoder gives no packet. -/
theorem fireEnd_chronicle (l : Live σ ν) :
    ∃ acts, Chronicle p l acts (faultOf (p.fireEnd l).1) (p.fireEnd l).2 ∧
      (∀ act ∈ acts, act.lateness? = some true) ∧
      ((∀ packet rest user,
          p.decoder.decodeEnd l.user l.source ≠ ((.ok (some packet), rest), user)) →
        ∀ act ∈ acts, act.isLate = false) := by
  fun_induction fireEnd p l with
  | case1 l e rest user h =>
    exact ⟨[.leave true], .one (.garbled (by simp) h), by simp [Act.lateness?], by
      simp [Act.isLate]⟩
  | case2 l rest user h =>
    exact ⟨[.leave true], .one (.left (by simp) h), by simp [Act.lateness?], by
      simp [Act.isLate]⟩
  | case3 l packet rest user h e l' hd =>
    obtain ⟨deeds, step⟩ := p.dispatch_acts true (by simp) h
    rw [hd] at step
    exact ⟨_, .one step, by simp [Act.lateness?], fun none => absurd h (none packet rest user)⟩
  | case4 l packet rest user h delivered l₁ hd _ ih =>
    obtain ⟨deeds, step⟩ := p.dispatch_acts true (by simp) h
    obtain ⟨acts, chronicle, inner, -⟩ := ih
    rw [hd] at step
    refine ⟨_, .more step chronicle, ?_, fun none => absurd h (none packet rest user)⟩
    intro act hact
    rcases List.mem_cons.mp hact with rfl | later
    · rfl
    · exact inner act later

end Pipeline

end PacketServer
