import PacketServer.Proofs.Connection.Arrivals
import PacketServer.Proofs.Connection.Segmentation
import PacketServer.Proofs.Connection.Conduct
import PacketServer.Proofs.Wire.Forms

/-!
# How much a peer can make a connection hold

A peer sends what it likes, in pieces of any size. With the usual decoder a
connection still lets no body in that is longer than its limit, and between two
looks at its input it never keeps as many bytes as a header and the longest body
have together.

Both come from the decoder. What it takes is a unit, and units keep to the limit.
What it leaves are bytes that it waits behind: no header is complete, or the
header that is there declares a body that fits and is not complete. The bytes of
one look may be many more, but a connection looks again only behind a drain that
left nothing to be taken, which `Turns.timely` carries from look to look.

## Main results

* `Wire.Waiting.backlog` — what a decoder leaves behind.
* `Pipeline.Acts.body_le` — what is dispatched fits.
* `waits_invariant` — what looks keep, wherever a connection waits.
* `waits_backlog` — what is kept at every look of a script.
* `run_bounded` — both, of a whole run.
-/

namespace PacketServer

variable {σ ν : Type}

namespace Wire

variable {limit : Nat} {s : Bytes}

/-- What is kept between two looks: less than a header and the longest body, and no
packet in front, neither a heartbeat nor a whole frame. -/
structure Backlog (limit : Nat) (s : Bytes) : Prop where
  few : s.length < Packet.headerLength + limit
  plain : Plain s
  /-- A header that is there is right, and bytes of its body are lacking. -/
  unfinished : ∀ header check body, Header.read? s = some (header, check, body) →
    header.length ≤ limit ∧ Bytes.xor header.fields = check ∧ body.length < header.length

/-- Whatever the limit on bodies, no unit is in front of a backlog. -/
theorem Backlog.stuck (backlog : Backlog limit s) (limit' : Nat) : Stuck limit' s := by
  rintro t u p rfl form
  cases form with
  | heartbeat => exact backlog.plain rfl
  | frame l₃ l₂ l₁ l₀ cmd flags s₃ s₂ s₁ s₀ check body notHeartbeat length fits checked =>
    obtain ⟨-, -, lacking⟩ := backlog.unfinished
      (.ofBytes l₃ l₂ l₁ l₀ cmd flags s₃ s₂ s₁ s₀) check (body ++ u) rfl
    have whole : (body ++ u).length < body.length := length ▸ lacking
    rw [List.length_append] at whole
    omega

/-- **Bytes off which nothing can be taken are a backlog.** -/
theorem Waiting.backlog (waiting : Waiting limit s) : Backlog limit s := by
  have outcome := outcome_decode limit s
  rw [waiting] at outcome
  cases outcome with
  | short plain few =>
    refine ⟨Nat.lt_add_right limit few, plain, ?_⟩
    intro header check body read
    rw [Header.read?_of_short few] at read
    simp at read
  | incomplete plain read fits right few =>
    refine ⟨?_, plain, ?_⟩
    · rw [Header.read?_length read]
      omega
    · intro header check body read'
      rw [read] at read'
      simp only [Option.some.injEq, Prod.mk.injEq] at read'
      obtain ⟨rfl, rfl, rfl⟩ := read'
      exact ⟨fits, right, few⟩

end Wire

namespace Pipeline

variable {p : Pipeline σ ν} {l l' : Live σ ν} {act : Act ν} {acts : List (Act ν)}
  {fault : Option Fault} {limit : Nat}

/-- **What is dispatched fits.** -/
theorem Acts.body_le {late : Bool} {packet : Packet} {deeds : List (Deed ν)}
    (step : Acts p l (.dispatch late packet deeds) fault l') (usual : p.decoder = .packets limit) :
    packet.body.length ≤ limit := by
  cases step with
  | dispatched opened takes dispatches trail clear =>
    rw [usual] at takes
    cases late with
    | false =>
      obtain ⟨unit, -, form⟩ := Wire.form_of_decode (congrArg Prod.fst takes)
      exact form.body_le
    | true =>
      -- At the end of a stream the decoder gives what it would have given before.
      rw [Decoder.take, Decoder.decodeEnd_packets] at takes
      have taken := Wire.atEnd_packet (congrArg Prod.fst takes)
      obtain ⟨unit, -, form⟩ := Wire.form_of_decode taken
      exact form.body_le

/-- Every act of a chronicle is one that a connection can do. -/
theorem Chronicle.step_of_mem (chronicle : Chronicle p l acts fault l') (member : act ∈ acts) :
    ∃ l₁ fault₁ l₂, Acts p l₁ act fault₁ l₂ := by
  obtain ⟨before, later, split⟩ := List.append_of_mem member
  obtain ⟨l₁, l₂, fault₁, -, step, -⟩ := chronicle.after split
  exact ⟨l₁, fault₁, l₂, step⟩

end Pipeline

namespace Connection

/-! ## Looks and what is kept between them -/

/-- The states in which a connection waits for a look, one for each look that it
takes. Behind a script the stream has ended, and the last look finds that. -/
def waits (k : Connection σ ν) : List Poll → List (Connection σ ν)
  | [] => if k.gate = none then [k] else []
  | poll :: polls =>
    match k.gate with
    | some _ => []
    | none =>
      k :: match k.turn poll with
        | (some _, _) => []
        | (none, k) => k.waits polls

variable {k k' : Connection σ ν} {limit : Nat}

/-- Where a connection waits, what one look behind the other keeps is kept. -/
theorem waits_invariant (Inv : Connection σ ν → List Poll → Prop)
    (kept : ∀ {k k₁ : Connection σ ν} {poll : Poll} {polls : List Poll}, k.gate = none →
      k.turn poll = (none, k₁) → Inv k (poll :: polls) → Inv k₁ polls)
    {polls : List Poll} (inv : Inv k polls) :
    ∀ k' ∈ k.waits polls, k'.gate = none ∧ ∃ later, Inv k' later := by
  induction polls generalizing k with
  | nil =>
    intro k' member
    rw [waits] at member
    split at member
    · rename_i gate
      rw [List.mem_singleton.mp member]
      exact ⟨gate, [], inv⟩
    · simp at member
  | cons poll polls ih =>
    intro k' member
    rw [waits] at member
    cases gate : k.gate with
    | some reason => simp [gate] at member
    | none =>
      rw [gate] at member
      rcases List.mem_cons.mp member with rfl | later
      · exact ⟨gate, poll :: polls, inv⟩
      · rcases hturn : k.turn poll with ⟨_ | result, k₁⟩ <;> rw [hturn] at later
        · exact ih (kept gate hturn inv) k' later
        · simp at later

/-- A connection that waits would look, and goes on from there. -/
theorem attend_of_mem_waits {polls : List Poll} (member : k' ∈ k.waits polls) :
    k'.gate = none ∧ ∃ front later, polls = front ++ later ∧ k.attend polls = k'.attend later := by
  obtain ⟨gate, later, front, split, same⟩ := waits_invariant
    (fun k' later => ∃ front, polls = front ++ later ∧ k.attend polls = k'.attend later)
    (by
      rintro k₁ k₂ poll later gate turn ⟨front, split, same⟩
      refine ⟨front ++ [poll], by simp [split], ?_⟩
      rw [same, attend, gate, turn])
    ⟨[], rfl, rfl⟩ k' member
  exact ⟨gate, front, later, split, same⟩

/-- **At every look of a script only a backlog is there.** -/
theorem waits_backlog (usual : k.pipeline.decoder = .packets limit)
    (settled : Pipeline.Settled limit k.live) (polls : List Poll) :
    ∀ k' ∈ k.waits polls, Wire.Backlog limit k'.live.source := by
  intro k' member
  obtain ⟨gate, -, -, settled⟩ := waits_invariant
    (fun k _ => k.pipeline.decoder = .packets limit ∧ Pipeline.Settled limit k.live)
    (by
      rintro k₁ k₂ poll later gate turn ⟨usual, settled⟩
      obtain ⟨acts, turns⟩ := turn_turns gate poll
      rw [turn] at turns
      exact ⟨turns.pipeline ▸ usual, (turns.timely limit usual settled).2 rfl⟩)
    ⟨usual, settled⟩ k' member
  rcases settled with closing | waiting
  · simp [open_of_gate gate] at closing
  · exact waiting.backlog

/-- The states in which a connection waits for a look behind its greeting. -/
def pauses (k : Connection σ ν) (polls : List Poll) : List (Connection σ ν) :=
  match k.greet with
  | (.error _, _) => []
  | (.ok (), k) => k.waits polls

theorem serve_of_mem_pauses {polls : List Poll} (member : k' ∈ k.pauses polls) :
    k'.gate = none ∧ ∃ front later, polls = front ++ later ∧ k.serve polls = k'.attend later := by
  rw [pauses] at member
  rw [serve_eq]
  rcases hgreet : k.greet with ⟨e | _, k₁⟩ <;> rw [hgreet] at member
  · simp at member
  · exact attend_of_mem_waits member

/-- A greeting leaves the bytes that arrived, and the pipeline. -/
theorem greet_keeps (k : Connection σ ν) :
    k.greet.2.live.source = k.live.source ∧ k.greet.2.pipeline = k.pipeline := by
  obtain ⟨deeds, greets⟩ := k.pipeline.fireActive_acts k.live
  obtain ⟨-, -, -, -, pipeline, -, source, -⟩ := advance_chronicle Pipeline.fireActive (.one greets)
  exact ⟨source.trans (k.pipeline.source_fireActive k.live), pipeline⟩

theorem pauses_backlog (usual : k.pipeline.decoder = .packets limit)
    (nothing : k.live.source = []) (polls : List Poll) :
    ∀ k' ∈ k.pauses polls, Wire.Backlog limit k'.live.source := by
  obtain ⟨source, pipeline⟩ := k.greet_keeps
  rw [pauses]
  rcases hgreet : k.greet with ⟨e | _, k₁⟩
  · simp
  · rw [hgreet] at source pipeline
    have settled : Pipeline.Settled limit k₁.live :=
      .inr (source.trans nothing ▸ Wire.waiting_nil limit)
    exact waits_backlog (pipeline ▸ usual) settled polls

/-! ## A whole run -/

/-- What a run lets in and keeps: the acts before the farewell, the state `l` that
they lead to, and the end. -/
structure Bounded (limit : Nat) (k : Connection σ ν) (polls : List Poll) (acts : List (Act ν))
    (l : Live σ ν) (result : Except Fault CloseReason) (k' : Connection σ ν) : Prop where
  chronicle : k.pipeline.Chronicle k.live acts (faultOf result) l
  farewell : k'.live = (k.pipeline.fireInactive l).record .shutdown
  /-- A packet that is dispatched fits, and comes in as it is: to the first inbound
  stage, or to the handler if there is none. -/
  packets : ∀ late packet deeds, .dispatch late packet deeds ∈ acts →
    packet.body.length ≤ limit ∧
      ∃ l₀, k.pipeline.Entry packet l₀ (deeds.flatMap Deed.events) ∧
        (deeds.flatMap Deed.events).head? = some (k.pipeline.entranceEvent l₀.context packet)
  /-- Nothing comes in otherwise. -/
  quiet : ∀ act ∈ acts, act.isDispatch = false → ∀ e ∈ act.events, e.isArrival = false
  /-- Wherever the run waits for a look and goes on from there, a backlog is kept. -/
  backlog : ∀ paused ∈ k.pauses polls, Wire.Backlog limit paused.live.source ∧
    (∀ limit', Wire.Stuck limit' paused.live.source) ∧ paused.gate = none ∧
      ∃ front later, polls = front ++ later ∧ k.serve polls = paused.attend later

/-- **No peer makes a connection take or hold more than its limit.** -/
theorem run_bounded {limit : Nat} {spec : Spec σ ν} (usual : spec.decoder = .packets limit)
    (context : Context) (user : σ) (stream : Stream) (cancelled : Bool) (polls : List Poll)
    (pool : BufferPool) :
    let k := ofSpec spec context user stream cancelled
    let outcome := k.run polls pool
    outcome.1 = (k.serve polls).1 ∧
      ∃ acts l, Bounded limit k polls acts l outcome.1 outcome.2.1 := by
  intro k outcome
  have outward : k.pipeline.Outward := Pipeline.outward_assemble spec
  obtain ⟨acts, serves⟩ := serve_serves k polls
  have hfarewell : outcome.2.1.live =
      (k.pipeline.fireInactive (k.serve polls).2.live).record .shutdown := by
    rw [← serves.pipeline]
    exact farewell_live _
  refine ⟨rfl, acts, (k.serve polls).2.live, ?_⟩
  exact
    { chronicle := serves.chronicle
      farewell := hfarewell
      packets := by
        intro late packet deeds member
        obtain ⟨l₁, fault, l₂, step⟩ := serves.chronicle.step_of_mem member
        obtain ⟨l₀, entry⟩ := step.entry outward
        exact ⟨step.body_le usual, l₀, entry, entry.first⟩
      quiet := by
        intro act member dispatches
        obtain ⟨l₁, fault, l₂, step⟩ := serves.chronicle.step_of_mem member
        exact step.quiet outward dispatches
      backlog := by
        intro paused member
        have backlog := pauses_backlog usual rfl polls paused member
        exact ⟨backlog, backlog.stuck, serve_of_mem_pauses member⟩ }

/-- A frame in two pieces, the end of it with a heartbeat and a piece of the next
one, under a limit of two bytes. -/
theorem run_bounded_in_pieces :
    let spec : Spec Nat Nat := (Spec.ofHandler countingHandler).limitFrames 2
    let polls : List Poll := [{ answer := some (.ok [0, 0, 0, 2, 7]) }, { answer := none },
      { answer := some (.ok [0, 0, 0, 0, 0, 5, 65, 66, 0xDF, 0, 0, 0]) }]
    let k := ofSpec spec loopback 0 { writes := [.accept 3, .pending] } false
    let outcome := k.run polls (.ofPolicy (.pooled 1 8))
    spec.decoder = .packets 2 ∧ outcome.1 = (k.serve polls).1 ∧
      (k.pauses polls).map (fun k => k.live.source) =
        [[], [0, 0, 0, 2, 7], [0, 0, 0, 2, 7], [0, 0, 0]] ∧
      ∃ acts l, Bounded 2 k polls acts l outcome.1 outcome.2.1 := by
  intro spec polls k outcome
  have usual : spec.decoder = .packets 2 := rfl
  have kept : (k.pauses polls).map (fun k => k.live.source) =
      [[], [0, 0, 0, 2, 7], [0, 0, 0, 2, 7], [0, 0, 0]] := by decide +kernel
  obtain ⟨ends, bounded⟩ := run_bounded usual loopback 0 { writes := [.accept 3, .pending] }
    false polls (.ofPolicy (.pooled 1 8))
  exact ⟨usual, ends, kept, bounded⟩

end Connection

end PacketServer
