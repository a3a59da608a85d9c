import PacketServer.Proofs.Connection.Course
import PacketServer.Proofs.Pipeline.Alike

/-!
# What an application sees of the way its input is cut

The bytes of a peer reach a connection in pieces that a network chooses, and
an application does not see the choice. What it sees, and how the connection
ends, is what comes of all the bytes at once; `digest` is defined that way,
and mentions no pieces.

Each piece that is read without a fault leaves the connection as if the bytes
before it had been read alone, but for what was written to the stream
meanwhile. A fault ends the connection where all the bytes at once would have
met it, since reading looks at the front only (`fireRead_within`).

## Main results

* `course_digest` — every course comes to the digest of its bytes.
* `served_lifetime` — and so does a whole life, behind the greeting.
* `run_alike_of_flatten_eq` — two ways of cutting the same bytes are not told
  apart.
-/

namespace PacketServer

namespace Connection

variable {σ ν : Type}

/-- How a connection ends when all input was read without a fault. -/
def conclude (l : Live σ ν) : Except Fault CloseReason :=
  if l.context.closing then .ok .requested
  else if l.source = [] then .ok .eof
  else .error (.codec (.truncated l.source.length))

/-- What comes of all input at once: how the connection ends, and what it then
is. -/
def digest (p : Pipeline σ ν) (l : Live σ ν) (input : Bytes) :
    Except Fault CloseReason × Live σ ν :=
  match p.fireRead (fed l input) with
  | (.error e, l) => (.error e, l)
  | (.ok _, l) => (conclude l, l)

/-- What comes of the greeting and all input at once. -/
def lifetime (p : Pipeline σ ν) (l : Live σ ν) (input : Bytes) :
    Except Fault CloseReason × Live σ ν :=
  match p.fireActive l with
  | (.error e, l) => (.error e, l)
  | (.ok _, l) => digest p l input

/-- The same end, and connections that the application cannot tell apart. -/
structure SameEnd (a b : Except Fault CloseReason × Live σ ν) : Prop where
  result : a.1 = b.1
  alike : a.2.Alike b.2

namespace SameEnd

theorem symm {a b : Except Fault CloseReason × Live σ ν} (h : SameEnd a b) : SameEnd b a :=
  ⟨h.result.symm, h.alike.symm⟩

theorem trans {a b c : Except Fault CloseReason × Live σ ν} (h : SameEnd a b)
    (h' : SameEnd b c) : SameEnd a c :=
  ⟨h.result.trans h'.result, h.alike.trans h'.alike⟩

end SameEnd

/-! ## The digest of several pieces -/

theorem fed_append (l : Live σ ν) (a b : Bytes) :
    fed l (a ++ b) = (fed l a).within { source := b } := by
  simp only [fed, Live.within, List.append_assoc, Array.empty_append]

theorem fed_nil (l : Live σ ν) : fed l [] = l := by
  simp only [fed, List.append_nil]

theorem within_source (l : Live σ ν) (b : Bytes) : l.within { source := b } = fed l b :=
  l.within_source_eq b

variable {p : Pipeline σ ν} {limit : Nat}

/-- A fault in the first bytes is the fault of all. -/
theorem digest_of_fault {l l' : Live σ ν} {a : Bytes} {e : Fault}
    (usual : p.decoder = .packets limit) (read : p.fireRead (fed l a) = (.error e, l'))
    (b : Bytes) : digest p l (a ++ b) = (.error e, fed l' b) := by
  rw [digest, fed_append, Pipeline.fireRead_within usual, read, Pipeline.resume, within_source]

/-- If no fault is met in the first bytes, the others go on behind them. -/
theorem digest_of_pass {l l' : Live σ ν} {a : Bytes} {n : Nat}
    (usual : p.decoder = .packets limit) (read : p.fireRead (fed l a) = (.ok n, l'))
    (b : Bytes) : digest p l (a ++ b) = digest p l' b := by
  rw [digest, fed_append, Pipeline.fireRead_within usual, read, Pipeline.resume, within_source,
    digest]
  rcases p.fireRead (fed l' b) with ⟨e | m, l''⟩
  · rfl
  · rfl

theorem digest_of_settled {l : Live σ ν} (usual : p.decoder = .packets limit)
    (settled : Pipeline.Settled limit l) : digest p l [] = (conclude l, l) := by
  rw [digest, fed_nil, Pipeline.fireRead_of_settled usual settled]

theorem digest_of_closing {l : Live σ ν} (closing : l.context.closing = true) (input : Bytes) :
    digest p l input = (.ok .requested, fed l input) := by
  have hclosing : (fed l input).context.closing = true := closing
  rw [digest, Pipeline.fireRead_of_closing hclosing]
  show (conclude (fed l input), fed l input) = _
  rw [conclude, if_pos hclosing]

/-- Connections that are alike make the same of the same input. -/
theorem fireRead_fed_alike (usual : p.decoder = .packets limit) {a b : Live σ ν}
    (alike : a.Alike b) (source : a.source = b.source) (input : Bytes) :
    (p.fireRead (fed a input)).1 = (p.fireRead (fed b input)).1 ∧
      (p.fireRead (fed a input)).2.Alike (p.fireRead (fed b input)).2 ∧
      (p.fireRead (fed a input)).2.source = (p.fireRead (fed b input)).2.source := by
  have hfed : (fed a input).Alike (fed b input) :=
    ⟨alike.context, alike.user, alike.cancelled, alike.seen⟩
  exact Pipeline.fireRead_alike usual hfed (congrArg (· ++ input) source)

/-- Connections that are alike have the same digests. -/
theorem digest_alike (usual : p.decoder = .packets limit) {a b : Live σ ν} (alike : a.Alike b)
    (source : a.source = b.source) (input : Bytes) :
    SameEnd (digest p a input) (digest p b input) := by
  obtain ⟨hresult, halike, hleft⟩ := fireRead_fed_alike usual alike source input
  unfold digest
  rcases ha : p.fireRead (fed a input) with ⟨e | n, la⟩ <;>
    rcases hb : p.fireRead (fed b input) with ⟨e' | n', lb⟩ <;>
    rw [ha, hb] at hresult halike hleft
  · exact ⟨congrArg Except.error (Except.error.inj hresult), halike⟩
  · simp at hresult
  · simp at hresult
  · refine ⟨?_, halike⟩
    show conclude la = conclude lb
    rw [conclude, conclude, halike.context, hleft]

/-- A cancellation is never taken back. -/
theorem digest_cancelled {l : Live σ ν} (cancelled : l.cancelled = true) (input : Bytes) :
    (digest p l input).2.cancelled = true := by
  have hread := (p.fireRead_steps (fed l input)).cancelled cancelled
  unfold digest
  rcases hfire : p.fireRead (fed l input) with ⟨e | n, l'⟩
  · rw [hfire] at hread
    exact hread
  · rw [hfire] at hread
    exact hread

/-! ## Every course comes to the digest of its bytes -/

theorem Written.alike {k k' : Connection σ ν} (written : Written k k') :
    k'.live.Alike k.live := by
  obtain ⟨events, hstream, -, hlive⟩ := written.live
  rw [hlive]
  exact Live.alike_written #[] hstream

theorem Written.source {k k' : Connection σ ν} (written : Written k k') :
    k'.live.source = k.live.source := by
  obtain ⟨events, -, -, hlive⟩ := written.live
  rw [hlive]

/-- **Every course comes to the digest of its bytes**, if nothing cancels the
server's work in it or in the digest. -/
theorem course_digest {k : Connection σ ν} {pieces : List Bytes}
    {outcome : Except Fault CloseReason × Connection σ ν}
    (usual : k.pipeline.decoder = .packets limit) (course : Course limit k pieces outcome)
    (uncancelled : outcome.2.live.cancelled = false ∨
      (digest k.pipeline k.live pieces.flatten).2.cancelled = false) :
    SameEnd (outcome.1, outcome.2.live) (digest k.pipeline k.live pieces.flatten) := by
  induction course with
  | @barred k pieces reason gate =>
    have hcancelled : k.live.cancelled = false := by
      cases hc : k.live.cancelled with
      | false => rfl
      | true =>
        rcases uncancelled with hleft | hright
        · exact absurd hleft (by simp [hc])
        · exact absurd hright (by simp [digest_cancelled hc])
    obtain ⟨closing, rfl⟩ := closing_of_gate gate hcancelled
    rw [digest_of_closing closing]
    exact ⟨rfl, (Live.alike_source k.live _).symm⟩
  | @ended k k' gate nothing written =>
    have settled : Pipeline.Settled limit k.live := .inr (nothing ▸ Wire.waiting_nil limit)
    rw [List.flatten_nil, digest_of_settled usual settled, conclude,
      if_neg (by simp [open_of_gate gate]), if_pos nothing]
    exact ⟨rfl, written.alike⟩
  | @truncated k gate waiting something =>
    rw [List.flatten_nil, digest_of_settled usual (.inr waiting), conclude,
      if_neg (by simp [open_of_gate gate]), if_neg something]
    exact ⟨rfl, .refl k.live⟩
  | @fault k piece pieces e l gate read =>
    rw [List.flatten_cons, digest_of_fault usual read]
    exact ⟨rfl, (Live.alike_source l _).symm⟩
  | @passed k k' piece pieces n l outcome gate read written later ih =>
    have hpipeline : k'.pipeline = k.pipeline := written.pipeline
    rw [hpipeline] at ih
    rw [List.flatten_cons, digest_of_pass usual read] at uncancelled ⊢
    -- The pieces that follow meet `k'`, which differs from `l` only in what was
    -- written meanwhile.
    have same := digest_alike usual written.alike written.source pieces.flatten
    have uncancelled' : outcome.2.live.cancelled = false ∨
        (digest k.pipeline k'.live pieces.flatten).2.cancelled = false := by
      rcases uncancelled with hleft | hright
      · exact .inl hleft
      · exact .inr (same.alike.cancelled.trans hright)
    exact (ih usual uncancelled').trans same

/-- Serving a connection comes to its lifetime, if nothing cancels the server's
work in the one or in the other. -/
theorem served_lifetime {k : Connection σ ν} {pieces : List Bytes}
    {outcome : Except Fault CloseReason × Connection σ ν}
    (usual : k.pipeline.decoder = .packets limit) (served : Served limit k pieces outcome)
    (uncancelled : outcome.2.live.cancelled = false ∨
      (lifetime k.pipeline k.live pieces.flatten).2.cancelled = false) :
    SameEnd (outcome.1, outcome.2.live) (lifetime k.pipeline k.live pieces.flatten) := by
  cases served with
  | @ungreeted e l greeting =>
    rw [lifetime, greeting]
    exact ⟨rfl, .refl l⟩
  | @greeted l k' outcome greeting written ready course =>
    have hpipeline : k'.pipeline = k.pipeline := written.pipeline
    have same := digest_alike usual written.alike written.source pieces.flatten
    have hlifetime : lifetime k.pipeline k.live pieces.flatten =
        digest k.pipeline l pieces.flatten := by
      rw [lifetime, greeting]
    rw [hlifetime] at uncancelled ⊢
    have uncancelled' : outcome.2.live.cancelled = false ∨
        (digest k'.pipeline k'.live pieces.flatten).2.cancelled = false := by
      rcases uncancelled with hleft | hright
      · exact .inl hleft
      · rw [hpipeline]
        exact .inr (same.alike.cancelled.trans hright)
    have digested := course_digest ready.usual course uncancelled'
    rw [hpipeline] at digested
    exact digested.trans same

/-! ## Whole runs -/

/-- Serving two connections that differ in their streams, cut in two ways. -/
theorem served_sameEnd {k k' : Connection σ ν} {cut other : List Bytes}
    {a b : Except Fault CloseReason × Connection σ ν} (served : Served limit k cut a)
    (served' : Served limit k' other b) (usual : k.pipeline.decoder = .packets limit)
    (pipeline : k'.pipeline = k.pipeline) (live : k'.live = k.live)
    (same : cut.flatten = other.flatten) (uncancelled : a.2.live.cancelled = false) :
    SameEnd (a.1, a.2.live) (b.1, b.2.live) := by
  -- A lifetime knows neither the stream nor the cut. The second run is
  -- uncancelled because the lifetime is, and that because the first run is.
  have first := served_lifetime usual served (.inl uncancelled)
  have hlifetime : lifetime k.pipeline k.live cut.flatten =
      lifetime k'.pipeline k'.live other.flatten := by
    rw [pipeline, live, same]
  rw [hlifetime] at first
  have uncancelled' : (lifetime k'.pipeline k'.live other.flatten).2.cancelled = false :=
    first.alike.cancelled.symm.trans uncancelled
  exact first.trans (served_lifetime (pipeline ▸ usual) served' (.inr uncancelled')).symm

/-- If nothing cancelled the server's work in a run, nothing did before the
farewell. -/
theorem serve_uncancelled {k : Connection σ ν} {polls : List Poll} {pool : BufferPool}
    (uncancelled : (k.run polls pool).2.1.live.cancelled = false) :
    (k.serve polls).2.live.cancelled = false := by
  cases cancelled : (k.serve polls).2.live.cancelled with
  | false => rfl
  | true =>
    have told : (k.serve polls).2.farewell.live.cancelled = true :=
      ((k.serve polls).2.pipeline.fireInactive_steps _).cancelled cancelled
    exact absurd uncancelled (by simp [run, told])

theorem farewell_alike {k k' : Connection σ ν} (pipeline : k.pipeline = k'.pipeline)
    (alike : k.live.Alike k'.live) : k.farewell.live.Alike k'.farewell.live := by
  have only : ∀ e ∈ [(.shutdown : Event ν)], e.isOfStream = true := by simp [Event.isOfStream]
  have shut (c : Connection σ ν) :
      c.farewell.live.Alike (c.pipeline.fireInactive c.live) := Live.alike_written _ only
  have told : (k.pipeline.fireInactive k.live).Alike (k'.pipeline.fireInactive k'.live) := by
    rw [pipeline]
    exact Pipeline.fireInactive_alike alike
  exact (shut k).trans (told.trans (shut k').symm)

/-- **What an application sees does not depend on how its input is cut.** Two
runs of a connection with the usual decoder come to the same end and call the
same callbacks in the same contexts, whatever bytes arrive, if nothing cancels
the server's work and the streams take what they are given. -/
theorem run_alike_of_flatten_eq {spec : Spec σ ν}
    (usual : spec.decoder = .packets limit) (context : Context) (user : σ)
    {polls others : List Poll} {cut other : List Bytes} (delivers : Delivers polls cut)
    (delivers' : Delivers others other) (same : cut.flatten = other.flatten)
    {stream stream' : Stream} (willing : stream.Willing) (willing' : stream'.Willing)
    (pool pool' : BufferPool)
    (uncancelled :
      ((ofSpec spec context user stream false).run polls pool).2.1.live.cancelled = false) :
    let a := (ofSpec spec context user stream false).run polls pool
    let b := (ofSpec spec context user stream' false).run others pool'
    a.1 = b.1 ∧ a.2.1.live.Alike b.2.1.live := by
  have served := serve_served (k := ofSpec spec context user stream false) usual willing rfl
    delivers
  have served' := serve_served (k := ofSpec spec context user stream' false) usual willing' rfl
    delivers'
  have ends := served_sameEnd served served' usual rfl rfl same (serve_uncancelled uncancelled)
  exact ⟨ends.result, farewell_alike (served.pipeline.trans served'.pipeline.symm) ends.alike⟩

/-- A handler that counts the packets, notes their numbers, sends them back and
asks to close at a packet with command 9. -/
def countingHandler : Handler Nat Nat where
  onActive _ count := { value := .ok (), state := count }
  onMessage _ count packet :=
    { value := .ok (), state := count + 1, writes := [packet], closes := packet.cmd = 9,
      notes := [count] }
  onInactive _ count := { value := (), state := count }

/-- The context of a connection that a host makes to itself. -/
def loopback : Context :=
  { id := 1, remote := .ofIp (.v4 127 0 0 1) (.number 50000),
    localAddress := .ofIp (.v4 127 0 0 1) (.number 3000) }

/-- A heartbeat, a packet that asks to close and a damaged one, in one piece and
in two with a look that finds nothing between them. -/
theorem run_alike_around_close :
    let bytes : Bytes :=
      [0xDF, 0, 0, 0, 1, 9, 0, 0, 0, 0, 0, 8, 65, 0, 0, 0, 1, 7, 0, 0, 0, 0, 0, 0]
    let spec : Spec Nat Nat := .ofHandler countingHandler
    let a := (ofSpec spec loopback 0 {} false).run
      [{ answer := some (.ok bytes) }] (.ofPolicy (.unpooled 64))
    let b := (ofSpec spec loopback 0 { writes := [.accept 3, .pending] } false).run
      [{ answer := some (.ok (bytes.take 8)) }, { answer := none },
        { answer := some (.ok (bytes.drop 8)) }, { answer := some (.ok []) }]
      (.ofPolicy (.pooled 1 8))
    a.2.1.live.cancelled = false ∧ a.1.toOption = some .requested ∧
      a.1 = b.1 ∧ a.2.1.live.Alike b.2.1.live := by
  intro bytes spec a b
  have delivers : Delivers [{ answer := some (.ok bytes) }] [bytes] :=
    .read (by decide) .ended
  have delivers' : Delivers [{ answer := some (.ok (bytes.take 8)) }, { answer := none },
      { answer := some (.ok (bytes.drop 8)) }, { answer := some (.ok []) }]
      [bytes.take 8, bytes.drop 8] :=
    .read (by decide) (.pending (.read (by decide) (.eof [])))
  have willing' : Stream.Willing { writes := [.accept 3, .pending] } :=
    ⟨by simp, by simp, by simp⟩
  have uncancelled : a.2.1.live.cancelled = false := by decide +kernel
  have requested : a.1.toOption = some .requested := by decide +kernel
  exact ⟨uncancelled, requested, run_alike_of_flatten_eq rfl loopback 0 delivers delivers'
    (by decide) ⟨by simp, by simp, by simp⟩ willing' _ _ uncancelled⟩

end Connection

end PacketServer
