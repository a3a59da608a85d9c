import PacketServer.Pipeline.Run
import PacketServer.Proofs.Wire.Outcome

/-!
# What a pipeline does not look at

A pipeline writes its journal and the encoded bytes at their ends and never
reads them, and of the bytes that arrived it reads the front only. A `Frame`
is what may lie around a connection without being noticed: a journal and
encoded bytes before its own, and bytes that arrived behind its own.

Operations that take no bytes commute with putting a frame around
(`offer_within`, `send_within`, `dispatch_within`). Decoding and dispatching
does not, since the bytes of the frame may complete a packet; it goes on with
them where it had stopped.

## Main results

* `fireRead_induction` — the ways in which decoding and dispatching proceeds.
* `fireRead_within` — inside a frame the same is done first, and then the rest.
* `fireRead_settled` — what is left is waiting, unless a close was requested.
* `fireEnd_of_waiting` — at the end of a stream such bytes are at fault.
-/

namespace PacketServer

variable {σ ν α : Type}

/-- What lies around a connection and is not looked at. -/
structure Frame (ν : Type) where
  past : Array (Event ν) := #[]
  encoded : Array UInt8 := #[]
  source : Bytes := []

namespace Live

/-- A connection inside a frame. -/
def within (l : Live σ ν) (f : Frame ν) : Live σ ν :=
  { l with
    past := f.past ++ l.past
    encoded := f.encoded ++ l.encoded
    source := l.source ++ f.source }

@[simp] theorem context_within (l : Live σ ν) (f : Frame ν) :
    (l.within f).context = l.context := rfl

@[simp] theorem user_within (l : Live σ ν) (f : Frame ν) : (l.within f).user = l.user := rfl

@[simp] theorem source_within (l : Live σ ν) (f : Frame ν) :
    (l.within f).source = l.source ++ f.source := rfl

theorem record_within (l : Live σ ν) (f : Frame ν) (e : Event ν) :
    (l.within f).record e = (l.record e).within f := by
  simp [record, within]

theorem absorb_within (l : Live σ ν) (f : Frame ν) (r : Reaction σ ν α) :
    (l.within f).absorb r = (l.absorb r).within f := by
  have past : (f.past ++ l.past) ++ r.notes.map Event.note =
      f.past ++ (l.past ++ r.notes.map Event.note) := Array.ext' (by simp)
  simp only [absorb, within, past]

theorem emit_within (l : Live σ ν) (f : Frame ν) (bytes : Bytes) :
    (l.within f).emit bytes = (l.emit bytes).within f := by
  have encoded : (f.encoded ++ l.encoded) ++ bytes = f.encoded ++ (l.encoded ++ bytes) :=
    Array.ext' (by simp)
  simp only [emit, within, encoded]

theorem decoded_within (l : Live σ ν) (f : Frame ν) (packet : Packet) (rest : Bytes) (user : σ) :
    (l.within f).decoded packet (rest ++ f.source) user =
      (l.decoded packet rest user).within f := by
  simp [decoded, record, within]

/-- A frame may consist of bytes that arrived later. -/
theorem within_source_eq (l : Live σ ν) (b : Bytes) :
    l.within { source := b } = { l with source := l.source ++ b } := by
  simp only [within, Array.empty_append]

end Live

namespace Frame

/-- A frame around what an operation left. -/
def around (f : Frame ν) (outcome : α × Live σ ν) : α × Live σ ν :=
  (outcome.1, outcome.2.within f)

end Frame

namespace Pipeline

/-! ## Operations that take no bytes -/

theorem offer_within (stages : List (Stage σ ν)) (packet : Packet) (l : Live σ ν) (f : Frame ν) :
    offer stages packet (l.within f) = f.around (offer stages packet l) := by
  induction stages generalizing packet l with
  | nil => rfl
  | cons stage stages ih =>
    simp only [offer, Live.context_within, Live.user_within, Live.record_within,
      Live.absorb_within]
    cases (stage.run l.context l.user packet).value with
    | none => rfl
    | some packet => exact ih packet _

theorem send_within (p : Pipeline σ ν) (packets : List Packet) (l : Live σ ν) (f : Frame ν) :
    p.send packets (l.within f) = f.around (p.send packets l) := by
  induction packets generalizing l with
  | nil => rfl
  | cons packet packets ih =>
    simp only [send, offer_within]
    obtain ⟨_ | passed, l₁⟩ := offer p.outbound packet l
    · exact ih l₁
    · simp only [Frame.around, Live.user_within]
      obtain ⟨_ | bytes, user⟩ := p.encoder.encode l₁.user passed
      · rfl
      · have hnext := ih ((Live.emit { l₁ with user := user } bytes).record (.encoded passed))
        rw [← Live.record_within, ← Live.emit_within] at hnext
        dsimp only
        rw [show ({ l₁.within f with user := user } : Live σ ν) =
          Live.within { l₁ with user := user } f from rfl, hnext]
        obtain ⟨_ | n, l₂⟩ :=
          p.send packets ((Live.emit { l₁ with user := user } bytes).record (.encoded passed))
        · rfl
        · rfl

theorem flush_within (p : Pipeline σ ν) (l : Live σ ν) (f : Frame ν) :
    p.flush (l.within f) = f.around (p.flush l) :=
  p.send_within l.context.outbound { l with context := { l.context with outbound := [] } } f

theorem flushed_within (p : Pipeline σ ν) (l : Live σ ν) (f : Frame ν) :
    p.flushed (l.within f) = f.around (p.flushed l) := by
  simp only [flushed, flush_within]
  obtain ⟨_ | n, l₁⟩ := p.flush l
  · rfl
  · rfl

theorem dispatch_within (p : Pipeline σ ν) (packet : Packet) (l : Live σ ν) (f : Frame ν) :
    p.dispatch packet (l.within f) = f.around (p.dispatch packet l) := by
  simp only [dispatch, offer_within]
  obtain ⟨_ | passed, l₁⟩ := offer p.inbound packet l
  · rfl
  · simp only [Frame.around, Live.context_within, Live.user_within, Live.record_within,
      Live.absorb_within]
    cases (p.handler.onMessage l₁.context l₁.user passed).value with
    | error e => rfl
    | ok _ =>
      simp only [flushed_within]
      obtain ⟨_ | _, l₂⟩ := p.flushed ((l₁.record (.message l₁.context passed)).absorb
        (p.handler.onMessage l₁.context l₁.user passed))
      · rfl
      · rfl

theorem source_fireActive (p : Pipeline σ ν) (l : Live σ ν) :
    (p.fireActive l).2.source = l.source := by
  simp only [fireActive]
  cases (p.handler.onActive l.context l.user).value with
  | error e => rfl
  | ok _ => exact p.source_flushed _

/-! ## Decoding and dispatching, case by case -/

variable {p : Pipeline σ ν} {limit : Nat} {l : Live σ ν}

/-- Adds to a count of packets, unless a fault was met. -/
def tally (n : Nat) : Except Fault Nat × Live σ ν → Except Fault Nat × Live σ ν
  | (.ok m, l) => (.ok (m + n), l)
  | (.error e, l) => (.error e, l)

theorem fireRead_of_closing (h : l.context.closing = true) : p.fireRead l = (.ok 0, l) := by
  rw [fireRead, if_pos h]

theorem fireRead_of_waiting (usual : p.decoder = .packets limit)
    (h : Wire.Waiting limit l.source) : p.fireRead l = (.ok 0, l) := by
  cases hclosing : l.context.closing with
  | true => exact fireRead_of_closing hclosing
  | false =>
    apply fireRead_of_nothing hclosing
    rw [usual, Decoder.decode_packets, h]

theorem fireRead_of_fault {e : CodecError} (usual : p.decoder = .packets limit)
    (hopen : l.context.closing = false)
    (h : Wire.decode limit l.source = (.error e, l.source)) :
    p.fireRead l = (.error (.codec e), l) := by
  have hdecode : p.decoder.decode l.user l.source = ((.error e, l.source), l.user) := by
    rw [usual, Decoder.decode_packets, h]
  rw [fireRead, if_neg (by simp [hopen])]
  split <;> rename_i heq <;> rw [hdecode] at heq <;> simp at heq
  obtain ⟨⟨rfl, rfl⟩, rfl⟩ := heq
  rfl

theorem fireRead_of_packet {packet : Packet} {rest : Bytes} (usual : p.decoder = .packets limit)
    (hopen : l.context.closing = false)
    (h : Wire.decode limit l.source = (.ok (some packet), rest)) :
    p.fireRead l =
      match p.dispatch packet (l.decoded packet rest l.user) with
      | (.error e, l) => (.error e, l)
      | (.ok delivered, l) => tally delivered.toNat (p.fireRead l) := by
  have hdecode : p.decoder.decode l.user l.source = ((.ok (some packet), rest), l.user) := by
    rw [usual, Decoder.decode_packets, h]
  rw [fireRead, if_neg (by simp [hopen])]
  split <;> rename_i heq <;> rw [hdecode] at heq <;> simp at heq
  obtain ⟨⟨rfl, rfl⟩, rfl⟩ := heq
  split <;> rename_i hd <;> simp only [hd]
  · rfl

/-- Decoding and dispatching ends at once if a close was requested, the bytes
left are waiting or at fault, or a packet is dispatched in vain; else it goes
on behind the packet. -/
theorem fireRead_induction (p : Pipeline σ ν) (limit : Nat) {motive : Live σ ν → Prop}
    (closing : ∀ l, l.context.closing = true → motive l)
    (waiting : ∀ l, l.context.closing = false → Wire.Waiting limit l.source → motive l)
    (fault : ∀ l e, l.context.closing = false →
      Wire.decode limit l.source = (.error e, l.source) → motive l)
    (stopped : ∀ l packet rest e l', l.context.closing = false →
      Wire.decode limit l.source = (.ok (some packet), rest) →
      p.dispatch packet (l.decoded packet rest l.user) = (.error e, l') → motive l)
    (onward : ∀ l packet rest delivered l', l.context.closing = false →
      Wire.decode limit l.source = (.ok (some packet), rest) →
      p.dispatch packet (l.decoded packet rest l.user) = (.ok delivered, l') → motive l' →
      motive l)
    (l : Live σ ν) : motive l := by
  induction hn : l.source.length using Nat.strongRecOn generalizing l with
  | ind n ih =>
    cases hclosing : l.context.closing with
    | true => exact closing l hclosing
    | false =>
      rcases h : Wire.decode limit l.source with ⟨e | _ | packet, rest⟩
      · have hrest := (Wire.decode_append_fault [] h).1
        exact fault l e hclosing (hrest ▸ h)
      · have hrest := Wire.decode_rest_of_none h
        exact waiting l hclosing (hrest ▸ h)
      · rcases hd : p.dispatch packet (l.decoded packet rest l.user) with ⟨e | delivered, l'⟩
        · exact stopped l packet rest e l' hclosing h hd
        · have hshort : l'.source.length < n := by
            rw [source_of_dispatch hd, ← hn]
            exact Wire.decode_rest_of_packet h
          exact onward l packet rest delivered l' hclosing h hd (ih _ hshort l' rfl)

/-- Goes on inside a frame behind what was done without it. -/
def resume (p : Pipeline σ ν) (f : Frame ν) :
    Except Fault Nat × Live σ ν → Except Fault Nat × Live σ ν
  | (.error e, l) => (.error e, l.within f)
  | (.ok n, l) => tally n (p.fireRead (l.within f))

theorem resume_tally (f : Frame ν) (n : Nat) (outcome : Except Fault Nat × Live σ ν) :
    p.resume f (tally n outcome) = tally n (p.resume f outcome) := by
  obtain ⟨_ | m, l⟩ := outcome
  · rfl
  · simp only [tally, resume]
    obtain ⟨_ | k, l'⟩ := p.fireRead (l.within f)
    · rfl
    · simp only [Nat.add_assoc]

theorem tally_zero (outcome : Except Fault Nat × Live σ ν) : tally 0 outcome = outcome := by
  obtain ⟨_ | n, l⟩ := outcome
  · rfl
  · rfl

/-- **Inside a frame the same is done first**, and then the rest: what was
written before does not matter, and bytes behind only once all others were
looked at. -/
theorem fireRead_within (usual : p.decoder = .packets limit) (f : Frame ν) (l : Live σ ν) :
    p.fireRead (l.within f) = p.resume f (p.fireRead l) := by
  induction l using fireRead_induction p limit with
  | closing l h => rw [fireRead_of_closing h, resume, tally_zero]
  | waiting l hopen h => rw [fireRead_of_waiting usual h, resume, tally_zero]
  | fault l e hopen h =>
    have hmore : Wire.decode limit (l.within f).source = (.error e, (l.within f).source) :=
      (Wire.decode_append_fault f.source h).2
    rw [fireRead_of_fault usual hopen h, resume,
      fireRead_of_fault (l := l.within f) usual hopen hmore]
  -- A packet that is there is taken whatever lies behind it, and dispatching it
  -- takes no bytes, so both sides dispatch the same packet.
  | stopped l packet rest e l' hopen h hd =>
    have hmore : Wire.decode limit (l.within f).source = (.ok (some packet), rest ++ f.source) :=
      Wire.decode_append_packet f.source h
    rw [fireRead_of_packet usual hopen h, hd,
      fireRead_of_packet (l := l.within f) usual hopen hmore, Live.user_within,
      Live.decoded_within, dispatch_within, hd]
    rfl
  | onward l packet rest delivered l' hopen h hd ih =>
    have hmore : Wire.decode limit (l.within f).source = (.ok (some packet), rest ++ f.source) :=
      Wire.decode_append_packet f.source h
    rw [fireRead_of_packet usual hopen h, hd,
      fireRead_of_packet (l := l.within f) usual hopen hmore, Live.user_within,
      Live.decoded_within, dispatch_within, hd]
    simp only [Frame.around, resume_tally, ih]

/-- Nothing more comes of the bytes that are there. -/
def Settled (limit : Nat) (l : Live σ ν) : Prop :=
  l.context.closing = true ∨ Wire.Waiting limit l.source

/-- Unless a fault was met, what is left is settled. -/
theorem fireRead_settled {n : Nat} {l l' : Live σ ν} (usual : p.decoder = .packets limit)
    (h : p.fireRead l = (.ok n, l')) : Settled limit l' := by
  induction l using fireRead_induction p limit generalizing n l' with
  | closing l hclosing =>
    rw [fireRead_of_closing hclosing] at h
    simp only [Prod.mk.injEq] at h
    exact .inl (h.2 ▸ hclosing)
  | waiting l hopen hwaiting =>
    rw [fireRead_of_waiting usual hwaiting] at h
    simp only [Prod.mk.injEq] at h
    exact .inr (h.2 ▸ hwaiting)
  | fault l e hopen hfault =>
    rw [fireRead_of_fault usual hopen hfault] at h
    simp at h
  | stopped l packet rest e l₁ hopen hpacket hd =>
    rw [fireRead_of_packet usual hopen hpacket, hd] at h
    simp at h
  | onward l packet rest delivered l₁ hopen hpacket hd ih =>
    rw [fireRead_of_packet usual hopen hpacket, hd] at h
    dsimp only at h
    rcases hread : p.fireRead l₁ with ⟨e | m, l₂⟩
    · rw [hread] at h
      simp [tally] at h
    · rw [hread] at h
      simp only [tally, Prod.mk.injEq] at h
      exact h.2 ▸ ih hread

theorem fireRead_of_settled (usual : p.decoder = .packets limit) (h : Settled limit l) :
    p.fireRead l = (.ok 0, l) := by
  cases h with
  | inl hclosing => exact fireRead_of_closing hclosing
  | inr hwaiting => exact fireRead_of_waiting usual hwaiting

/-- At the end of a stream, bytes that are waiting are at fault. -/
theorem fireEnd_of_waiting (usual : p.decoder = .packets limit)
    (h : Wire.Waiting limit l.source) :
    p.fireEnd l =
      if l.source = [] then (.ok (), l)
      else (.error (.codec (.truncated l.source.length)), l) := by
  have hdecode : p.decoder.decodeEnd l.user l.source =
      (Wire.atEnd (.ok none, l.source), l.user) := by
    rw [usual, Decoder.decodeEnd_packets, Wire.decodeEnd, h]
  cases hsource : l.source with
  | nil =>
    rw [if_pos rfl, fireEnd]
    split <;> rename_i heq <;> rw [hdecode, hsource] at heq <;> simp [Wire.atEnd] at heq
    obtain ⟨rfl, rfl⟩ := heq
    rw [← hsource]
  | cons b source =>
    rw [if_neg (List.cons_ne_nil b source), fireEnd]
    split <;> rename_i heq <;> rw [hdecode, hsource] at heq <;> simp [Wire.atEnd] at heq
    obtain ⟨⟨rfl, rfl⟩, rfl⟩ := heq
    rw [← hsource, ← List.length_cons, ← hsource]

end Pipeline

end PacketServer
