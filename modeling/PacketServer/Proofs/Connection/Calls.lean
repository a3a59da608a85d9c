import PacketServer.Proofs.Connection.Arrivals
import PacketServer.Proofs.Pipeline.Resumption

/-!
# Calls of a pipeline behind a request to close

The owner of a context calls its pipeline in any order, and changes the bytes
that arrived as it likes between two calls. A `History` lists the acts of every
call; a fault ends the call, but not the calls behind it.

Any callback may ask to close. Behind that, `fireRead` takes nothing more: the
act in which the request comes is the last of its call, a later call finds the
request at once, and the bytes stay. What a stream leaves at its end is not
handled with this care. `fireEnd` takes packets until its decoder gives none,
whoever asked to close, so that packets are decoded, given to inbound stages and
delivered behind a request.

A request stands once it was made: callbacks use their context by its operations,
and none of them takes a request back. A context that was put in the place of
another would be one in which nobody asked to close.

## Main results

* `fireRead_conduct`, `fireEnd_conduct`, `fireActive_conduct` — what a call does.
* `Doings.heeds` — behind a request, only what is left at the end of a stream is
  taken.
* `calls_heed_requests` — every sequence of calls has such a history.
* `fireEnd_ignores_request` — a packet delivered behind a request.
-/

namespace PacketServer

variable {σ ν : Type}

deriving instance DecidableEq for Event

namespace Pipeline

/-- What the owner of a context does. -/
inductive Call
  /-- Changes the bytes that arrived. -/
  | supply (change : Bytes → Bytes)
  | active
  | read
  | finish

variable {p : Pipeline σ ν} {l l₁ l' : Live σ ν} {act : Act ν} {acts more : List (Act ν)}
  {fault : Option Fault}

/-! ## What a call does -/

/-- What a call does, by its acts. -/
inductive Conduct (p : Pipeline σ ν) : Live σ ν → Call → List (Act ν) → Live σ ν → Prop
  | supplied (l : Live σ ν) (change : Bytes → Bytes) :
      Conduct p l (.supply change) [] { l with source := change l.source }
  /-- The bytes stay, and no packet is on its way in. -/
  | greeted {l l' : Live σ ν} {result : Except Fault Unit} {act : Act ν}
      (fires : p.fireActive l = (result, l')) (step : Acts p l act (faultOf result) l')
      (greets : act.isGreeting = true) (keeps : l'.source = l.source)
      (quiet : ∀ e ∈ act.events, e.isArrival = false) : Conduct p l .active [act] l'
  /-- A request was there before the call. -/
  | refused {l : Live σ ν} (asked : l.context.closing = true) (fires : p.fireRead l = (.ok 0, l)) :
      Conduct p l .read [] l
  /-- If a request came up in the call, its last act is the dispatch of a packet,
  and the bytes behind this packet stay. -/
  | read {l l' : Live σ ν} {result : Except Fault Nat} {acts : List (Act ν)}
      (opened : l.context.closing = false) (fires : p.fireRead l = (result, l'))
      (chronicle : Chronicle p l acts (faultOf result) l')
      (timely : ∀ act ∈ acts, act.lateness? = some false)
      (stops : l'.context.closing = true → ∃ front packet deeds l₁ user,
        acts = front ++ [.dispatch false packet deeds] ∧ Chronicle p l front none l₁ ∧
        p.decoder.decode l₁.user l₁.source = ((.ok (some packet), l'.source), user)) :
      Conduct p l .read acts l'
  /-- Packets are taken until there are none, or a fault is met. -/
  | finished {l l' : Live σ ν} {result : Except Fault Unit} {acts : List (Act ν)}
      (fires : p.fireEnd l = (result, l')) (chronicle : Chronicle p l acts (faultOf result) l')
      (late : ∀ act ∈ acts, act.lateness? = some true)
      (drains : result = .ok () → ∃ front, acts = front ++ [.leave true]) :
      Conduct p l .finish acts l'

theorem fireActive_conduct (outward : p.Outward) (l : Live σ ν) :
    ∃ act, Conduct p l .active [act] (p.fireActive l).2 := by
  obtain ⟨deeds, step⟩ := p.fireActive_acts l
  exact ⟨_, .greeted rfl step rfl (p.source_fireActive l) (step.quiet outward rfl)⟩

theorem tally_snd (n : Nat) (outcome : Except Fault Nat × Live σ ν) :
    (tally n outcome).2 = outcome.2 := by
  obtain ⟨_ | _, _⟩ := outcome <;> rfl

theorem faultOf_tally (n : Nat) (outcome : Except Fault Nat × Live σ ν) :
    faultOf (tally n outcome).1 = faultOf outcome.1 := by
  obtain ⟨_ | _, _⟩ := outcome <;> rfl

/-- The loop as a chronicle. It is empty if a request was there before it, and
ends with the dispatch in which a request comes up. -/
theorem ReadRun.chronicle {packets : List Packet} {outcome : Except Fault Nat × Live σ ν}
    (run : ReadRun p l packets outcome) :
    ∃ acts, Chronicle p l acts (faultOf outcome.1) outcome.2 ∧
      (∀ act ∈ acts, act.lateness? = some false) ∧
      (l.context.closing = true → acts = []) ∧
      (l.context.closing = false → outcome.2.context.closing = true →
        ∃ front packet deeds l₁ user, acts = front ++ [.dispatch false packet deeds] ∧
          Chronicle p l front none l₁ ∧
          p.decoder.decode l₁.user l₁.source = ((.ok (some packet), outcome.2.source), user)) := by
  induction run with
  | closing asked => exact ⟨[], .done _, by simp, fun _ => rfl, by simp [asked]⟩
  | nothing opened call =>
    exact ⟨[.leave false], .one (.left (fun _ => opened) call), by simp [Act.lateness?],
      by simp [opened], by simp [opened]⟩
  | fault opened call =>
    exact ⟨[.leave false], .one (.garbled (fun _ => opened) call), by simp [Act.lateness?],
      by simp [opened], by simp [opened]⟩
  | @stopped l l' packet rest user e opened call dispatches =>
    obtain ⟨deeds, step⟩ := p.dispatch_acts false (fun _ => opened) call
    rw [dispatches] at step
    refine ⟨_, .one step, by simp [Act.lateness?], by simp [opened], fun _ _ => ?_⟩
    refine ⟨[], packet, deeds, l, user, rfl, .done l, ?_⟩
    rw [source_of_dispatch dispatches]
    exact call
  | @onward l l' packet rest user delivered packets outcome opened call dispatches later ih =>
    obtain ⟨deeds, step⟩ := p.dispatch_acts false (fun _ => opened) call
    rw [dispatches] at step
    obtain ⟨acts, chronicle, timely, refuses, stops⟩ := ih
    rw [tally_snd, faultOf_tally]
    refine ⟨_, .more step chronicle, List.forall_mem_cons.mpr ⟨rfl, timely⟩, by simp [opened],
      fun _ asked => ?_⟩
    cases asked' : l'.context.closing with
    | true =>
      -- The request came up in this dispatch, so the call goes no further.
      obtain rfl := refuses asked'
      refine ⟨[], packet, deeds, l, user, rfl, .done l, ?_⟩
      have stays : outcome.2 = l' := by
        generalize faultOf outcome.1 = fault at chronicle
        cases chronicle with
        | done => rfl
      rw [stays, source_of_dispatch dispatches]
      exact call
    | false =>
      obtain ⟨front, last, more, l₁, user₁, rfl, before, takes⟩ := stops asked' asked
      exact ⟨_ :: front, last, more, l₁, user₁, rfl, .more step before, takes⟩

theorem fireRead_conduct (p : Pipeline σ ν) (l : Live σ ν) :
    ∃ acts, Conduct p l .read acts (p.fireRead l).2 := by
  cases asked : l.context.closing with
  | true =>
    have refuses : p.fireRead l = (.ok 0, l) := fireRead_of_closing asked
    rw [refuses]
    exact ⟨[], .refused asked refuses⟩
  | false =>
    obtain ⟨packets, run⟩ := p.readRun_fireRead l
    obtain ⟨acts, chronicle, timely, -, stops⟩ := run.chronicle
    exact ⟨acts, .read asked rfl chronicle timely (stops asked)⟩

theorem fireEnd_conduct (p : Pipeline σ ν) (l : Live σ ν) :
    ∃ acts, Conduct p l .finish acts (p.fireEnd l).2 := by
  suffices ∃ acts, Chronicle p l acts (faultOf (p.fireEnd l).1) (p.fireEnd l).2 ∧
      (∀ act ∈ acts, act.lateness? = some true) ∧
      ((p.fireEnd l).1 = .ok () → ∃ front, acts = front ++ [.leave true]) by
    obtain ⟨acts, chronicle, late, drains⟩ := this
    exact ⟨acts, .finished rfl chronicle late drains⟩
  fun_induction fireEnd p l with
  | case1 l e rest user call =>
    exact ⟨[.leave true], .one (.garbled (by simp) call), by simp [Act.lateness?], by simp⟩
  | case2 l rest user call =>
    exact ⟨[.leave true], .one (.left (by simp) call), by simp [Act.lateness?],
      fun _ => ⟨[], rfl⟩⟩
  | case3 l packet rest user call e l' dispatches =>
    obtain ⟨deeds, step⟩ := p.dispatch_acts true (by simp) call
    rw [dispatches] at step
    exact ⟨_, .one step, by simp [Act.lateness?], by simp⟩
  | case4 l packet rest user call delivered l₁ dispatches _ ih =>
    obtain ⟨deeds, step⟩ := p.dispatch_acts true (by simp) call
    obtain ⟨acts, chronicle, late, drains⟩ := ih
    rw [dispatches] at step
    refine ⟨_, .more step chronicle, List.forall_mem_cons.mpr ⟨rfl, late⟩, fun ends => ?_⟩
    obtain ⟨front, rfl⟩ := drains ends
    exact ⟨_ :: front, rfl⟩

/-! ## Sequences of calls -/

/-- Acts one after the other. A fault ends nothing, and the bytes that arrived
may change between two acts. -/
inductive Doings (p : Pipeline σ ν) : Live σ ν → List (Act ν) → Live σ ν → Prop
  | done (l : Live σ ν) : Doings p l [] l
  | act {l l₁ l' : Live σ ν} {act : Act ν} {fault : Option Fault} {more : List (Act ν)}
      (step : Acts p l act fault l₁) (later : Doings p l₁ more l') :
      Doings p l (act :: more) l'
  | supplied {l l' : Live σ ν} {acts : List (Act ν)} (source : Bytes)
      (later : Doings p { l with source := source } acts l') : Doings p l acts l'

theorem Doings.trans (first : Doings p l acts l₁) (second : Doings p l₁ more l') :
    Doings p l (acts ++ more) l' := by
  induction first with
  | done l => exact second
  | act step _ ih => exact .act step (ih second)
  | supplied source _ ih => exact .supplied source (ih second)

theorem Chronicle.doings (chronicle : Chronicle p l acts fault l') : Doings p l acts l' := by
  induction chronicle with
  | done l => exact .done l
  | fault step => exact .act step (.done _)
  | more step _ ih => exact .act step ih

theorem Doings.closing (doings : Doings p l acts l') :
    l'.context.closing = (l.context.closing || acts.any Act.closes) := by
  induction doings with
  | done l => exact (Bool.or_false _).symm
  | act step _ ih => rw [ih, step.closing, List.any_cons, Bool.or_assoc]
  | supplied source _ ih => exact ih

/-- An act about bytes behind which more are to come finds no request. -/
theorem Acts.heeds (step : Acts p l act fault l') (timely : act.lateness? = some false) :
    l.context.closing = false := by
  cases step with
  | dispatched opened | left opened | garbled opened =>
    exact opened (by simpa [Act.lateness?] using timely)
  | _ => simp [Act.lateness?] at timely

/-- **Behind a request, no bytes are touched behind which more are to come.** -/
theorem Doings.heeds (doings : Doings p l acts l') {before after : List (Act ν)}
    (split : acts = before ++ act :: after)
    (asked : (l.context.closing || before.any Act.closes) = true) :
    act.lateness? ≠ some false := by
  induction doings generalizing before with
  | done l => simp at split
  | supplied source _ ih => exact ih split asked
  | act step _ ih =>
    rcases before with _ | ⟨b, before⟩
    · obtain ⟨rfl, rfl⟩ := List.cons.inj split
      intro timely
      simp [step.heeds timely] at asked
    · obtain ⟨rfl, later⟩ := List.cons.inj split
      refine ih later ?_
      rw [step.closing, Bool.or_assoc]
      simpa using asked

/-- The acts of calls one after the other, call by call. -/
inductive History (p : Pipeline σ ν) :
    Live σ ν → List Call → List (List (Act ν)) → Live σ ν → Prop
  | done (l : Live σ ν) : History p l [] [] l
  | more {l l₁ l' : Live σ ν} {call : Call} {calls : List Call} {acts : List (Act ν)}
      {later : List (List (Act ν))} (conduct : Conduct p l call acts l₁)
      (history : History p l₁ calls later l') : History p l (call :: calls) (acts :: later) l'

variable {call : Call} {calls : List Call} {history : List (List (Act ν))}

theorem Conduct.doings (conduct : Conduct p l call acts l') : Doings p l acts l' := by
  cases conduct with
  | supplied change => exact .supplied _ (.done _)
  | greeted fires step greets keeps quiet => exact .act step (.done _)
  | refused asked fires => exact .done l
  | read opened fires chronicle timely stops => exact chronicle.doings
  | finished fires chronicle late drains => exact chronicle.doings

theorem History.doings (run : History p l calls history l') : Doings p l history.flatten l' := by
  induction run with
  | done l => exact .done l
  | more conduct _ ih => exact conduct.doings.trans ih

theorem exists_conduct (outward : p.Outward) (l : Live σ ν) (call : Call) :
    ∃ acts l', Conduct p l call acts l' := by
  cases call with
  | supply change => exact ⟨_, _, .supplied l change⟩
  | active =>
    obtain ⟨act, conduct⟩ := fireActive_conduct outward l
    exact ⟨_, _, conduct⟩
  | read =>
    obtain ⟨acts, conduct⟩ := p.fireRead_conduct l
    exact ⟨_, _, conduct⟩
  | finish =>
    obtain ⟨acts, conduct⟩ := p.fireEnd_conduct l
    exact ⟨_, _, conduct⟩

theorem exists_history (outward : p.Outward) (calls : List Call) (l : Live σ ν) :
    ∃ history l', History p l calls history l' := by
  induction calls generalizing l with
  | nil => exact ⟨[], l, .done l⟩
  | cons call calls ih =>
    obtain ⟨acts, l₁, conduct⟩ := exists_conduct outward l call
    obtain ⟨history, l', run⟩ := ih l₁
    exact ⟨acts :: history, l', .more conduct run⟩

/-- The acts of calls greet, or are about the bytes that arrived. -/
theorem Conduct.kinds (conduct : Conduct p l call acts l') :
    ∀ act ∈ acts, act.isGreeting = true ∧ (∀ e ∈ act.events, e.isArrival = false) ∨
      act.lateness?.isSome = true := by
  cases conduct with
  | supplied | refused => simp
  | greeted fires step greets keeps quiet => simpa using .inl ⟨greets, quiet⟩
  | read opened fires chronicle timely stops =>
    exact fun act member => .inr (by rw [timely act member]; rfl)
  | finished fires chronicle late drains =>
    exact fun act member => .inr (by rw [late act member]; rfl)

theorem History.kinds (run : History p l calls history l') :
    ∀ act ∈ history.flatten, act.isGreeting = true ∧ (∀ e ∈ act.events, e.isArrival = false) ∨
      act.lateness?.isSome = true := by
  induction run with
  | done l => simp
  | more conduct _ ih =>
    rw [List.flatten_cons, List.forall_mem_append]
    exact ⟨conduct.kinds, ih⟩

/-- **Behind a request, packets come in at the end of a stream only.** Whatever
stages, decoder, encoder and handler a pipeline is made of, every sequence of
calls has a history. Behind an act in which somebody asks to close, the handler
may be greeted, which brings no packet on its way in, and `fireEnd` may take a
packet or find none; nothing else is done. Callbacks are taken not to put another
context, in which nobody asked to close, in the place of theirs. -/
theorem calls_heed_requests (spec : Spec σ ν) (calls : List Call) (l : Live σ ν) :
    (∃ history l', History spec.assemble l calls history l') ∧
    ∀ history l', History spec.assemble l calls history l' →
      l'.context.closing = (l.context.closing || history.flatten.any Act.closes) ∧
      ∀ before act after, history.flatten = before ++ act :: after →
        (l.context.closing || before.any Act.closes) = true →
          (act.isGreeting = true ∧ ∀ e ∈ act.events, e.isArrival = false) ∨
            act = .leave true ∨ ∃ packet deeds, act = .dispatch true packet deeds := by
  refine ⟨exists_history (outward_assemble spec) calls l, ?_⟩
  intro history l' run
  refine ⟨run.doings.closing, ?_⟩
  intro before act after split asked
  have heeds := run.doings.heeds split asked
  have kinds := run.kinds act (by rw [split]; simp)
  cases act with
  | dispatch late packet deeds =>
    cases late with
    | false => simp [Act.lateness?] at heeds
    | true => exact .inr (.inr ⟨packet, deeds, rfl⟩)
  | leave late =>
    cases late with
    | false => simp [Act.lateness?] at heeds
    | true => exact .inr (.inl rfl)
  | greet | look | send => exact .inl (by simpa [Act.lateness?] using kinds)

/-- A handler that asks to close when it is given a packet. -/
def parting : Handler Unit Unit where
  onActive _ s := { value := .ok (), state := s }
  onMessage _ s _ := { value := .ok (), state := s, closes := true }
  onInactive _ s := { value := (), state := s }

/-- **A packet that is delivered behind a request.** Two packets have arrived.
Reading delivers the first, is asked to close, and leaves the second where it is.
At the end of the stream the second is delivered to a handler that asked to close
before. -/
theorem fireEnd_ignores_request :
    let p : Pipeline Unit Unit := (Spec.ofHandler parting).assemble
    let address : Address := .ofIp (.v4 127 0 0 1) (.number 3000)
    let context : Context := { id := 1, remote := address, localAddress := address }
    let first : Bytes := [0, 0, 0, 1, 1, 0, 0, 0, 0, 0, 0, 97]
    let second : Bytes := [0, 0, 0, 2, 2, 0, 0, 0, 0, 0, 0, 98, 98]
    let packet : Packet := { cmd := 2, flags := 0, session := 0, body := [98, 98] }
    let l : Live Unit Unit := { context := context, user := (), source := first ++ second }
    let l₁ := (p.fireRead l).2
    let l₂ := (p.fireEnd l₁).2
    l₁.context.closing = true ∧ l₁.source = second ∧ l₂.source = [] ∧
      l₂.journal = l₁.journal ++
        [.decoded packet, .message { context with closing := true } packet] := by
  refine ⟨?_, ?_, ?_, ?_⟩
  · decide +kernel
  · decide +kernel
  · decide +kernel
  · decide +kernel

end Pipeline

end PacketServer
