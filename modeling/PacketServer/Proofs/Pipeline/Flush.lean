import Mathlib.Data.List.Chain
import PacketServer.Proofs.Pipeline.Trail

/-!
# What a flush does with each packet

A flush takes the queue, and the outbound stages that it calls meanwhile can
queue packets of their own. That it comes to an end, and that no packet goes
out twice or is lost, rests on one thing: what it goes through is the queue as
it was when it started.

A `Shipment` is what becomes of one packet that was queued: the offers that
were made of it, each to one stage, and its fate behind them. `Handed` is the
way of a packet through the stages, `Shipped` the whole of a shipment, both
between two states of a connection; the stages, the encoder and the context
that they share are those of the moment. An encoder that refuses a packet adds
no bytes. The books of a flush are then those of the trail that its shipments
leave.

## Main results

* `Handed.stages_prefix`, `Handed.chain` — a packet is offered to each stage
  at most once, in their order, as the stage before let it through.
* `Shipped.send_of_sound`, `Shipped.send_of_fault` — how a shipment contributes
  to what sending answers.
* `flush_shipments` — a flush ships what was queued, each packet once.
-/

namespace PacketServer

variable {σ ν : Type}

/-! ## Offers and shipments -/

namespace Pipeline

/-- A packet that is given to a stage, with what the stage sees besides. -/
structure Offer (σ ν : Type) where
  stage : Stage σ ν
  context : Context
  user : σ
  packet : Packet

namespace Offer

/-- What the stage answers. -/
def reaction (o : Offer σ ν) : Reaction σ ν (Option Packet) :=
  o.stage.run o.context o.user o.packet

/-- What the journal shows of the offer. -/
def event (o : Offer σ ν) : Event ν := stageEvent o.stage o.context o.packet

/-- The offer as a deed of the pipeline. -/
def deed (o : Offer σ ν) : Deed ν := .ofReaction o.event o.reaction

end Offer

/-- What becomes of a packet behind the outbound stages. -/
inductive Fate
  /-- A stage kept it. -/
  | kept
  /-- What the stages made of it was encoded. -/
  | encoded (passed : Packet) (bytes : Bytes)
  /-- The encoder refused what the stages made of it. -/
  | refused (passed : Packet) (e : CodecError)

/-- What a flush does with one packet of the queue. -/
structure Shipment (σ ν : Type) where
  /-- The packet as it was queued. -/
  packet : Packet
  offers : List (Offer σ ν)
  fate : Fate

namespace Shipment

/-- The packets that the stages queued meanwhile. -/
def queued (s : Shipment σ ν) : List Packet := s.offers.flatMap (·.reaction.writes)

/-- The bytes that the packet was encoded as, if it survived. -/
def encoding? (s : Shipment σ ν) : Option Bytes :=
  match s.fate with
  | .encoded _ bytes => some bytes
  | .kept | .refused .. => none

/-- The fault of the encoder, if it refused the packet. -/
def fault? (s : Shipment σ ν) : Option CodecError :=
  match s.fate with
  | .refused _ e => some e
  | .kept | .encoded .. => none

/-- What the journal shows of it: the stages that were called, with the notes
that they left, and the encoder. -/
def events (s : Shipment σ ν) : List (Event ν) :=
  s.offers.flatMap (fun o => o.event :: o.reaction.notes.map .note) ++
    match s.fate with
    | .encoded passed _ => [.encoded passed]
    | .kept | .refused .. => []

/-- The shipment's end as a deed of the pipeline. -/
def ending (s : Shipment σ ν) : Deed ν :=
  match s.fate with
  | .kept => .keep s.packet
  | .encoded passed bytes => .encode s.packet passed bytes
  | .refused .. => .refuse s.packet

/-- The shipment as deeds of the pipeline. -/
def deeds (s : Shipment σ ν) : List (Deed ν) := s.offers.map Offer.deed ++ [s.ending]

/-- A packet that the encoder refuses has no encoding. -/
theorem encoding_of_fault {e : CodecError} (s : Shipment σ ν) (fault : s.fault? = some e) :
    s.encoding? = none := by
  obtain ⟨packet, offers, fate⟩ := s
  cases fate with
  | kept => cases fault
  | encoded passed bytes => cases fault
  | refused passed e => rfl

theorem queued_deeds (s : Shipment σ ν) : s.deeds.flatMap Deed.queued = s.queued := by
  have offers : (s.offers.map Offer.deed).flatMap Deed.queued = s.queued := List.flatMap_map ..
  have ending : s.ending.queued = [] := by
    unfold ending
    split <;> rfl
  simp only [deeds, List.flatMap_append, List.flatMap_singleton, offers, ending, List.append_nil]

theorem unqueued_deeds (s : Shipment σ ν) : s.deeds.flatMap Deed.unqueued = [] := by
  have offers : (s.offers.map Offer.deed).flatMap Deed.unqueued = [] := by
    rw [List.flatMap_map]
    exact List.flatMap_eq_nil_iff.mpr fun _ _ => rfl
  have ending : s.ending.unqueued = [] := by
    unfold ending
    split <;> rfl
  simp only [deeds, List.flatMap_append, List.flatMap_singleton, offers, ending, List.append_nil]

theorem bytes_deeds (s : Shipment σ ν) :
    s.deeds.flatMap Deed.bytes = s.encoding?.toList.flatten := by
  have offers : (s.offers.map Offer.deed).flatMap Deed.bytes = [] := by
    rw [List.flatMap_map]
    exact List.flatMap_eq_nil_iff.mpr fun _ _ => rfl
  have ending : s.ending.bytes = s.encoding?.toList.flatten := by
    unfold ending encoding?
    cases s.fate with
    | kept => rfl
    | encoded passed bytes => exact (List.append_nil bytes).symm
    | refused passed e => rfl
  simp only [deeds, List.flatMap_append, List.flatMap_singleton, offers, ending, List.nil_append]

theorem events_deeds (s : Shipment σ ν) : s.deeds.flatMap Deed.events = s.events := by
  have offers : (s.offers.map Offer.deed).flatMap Deed.events =
      s.offers.flatMap (fun o => o.event :: o.reaction.notes.map .note) := List.flatMap_map ..
  rw [deeds, List.flatMap_append, List.flatMap_singleton, offers, events, ending]
  cases s.fate with
  | kept => rfl
  | encoded passed bytes => rfl
  | refused passed e => rfl

end Shipment

end Pipeline

namespace Live

/-- The packet given to the stage now. -/
def offerTo (l : Live σ ν) (stage : Stage σ ν) (packet : Packet) : Pipeline.Offer σ ν :=
  ⟨stage, l.context, l.user, packet⟩

/-- The connection behind an offer. -/
def answered (l : Live σ ν) (o : Pipeline.Offer σ ν) : Live σ ν :=
  (l.record o.event).absorb o.reaction

end Live

namespace Pipeline

/-- `Handed stages packet l offers passed l'` says that the stages are given the
packet one after the other, each of them what the one before let through, until
one keeps it; `passed` is what comes out behind the last, if none does. -/
inductive Handed : List (Stage σ ν) → Packet → Live σ ν → List (Offer σ ν) →
    Option Packet → Live σ ν → Prop
  | behind (packet : Packet) (l : Live σ ν) : Handed [] packet l [] (some packet) l
  | kept {stage : Stage σ ν} {stages : List (Stage σ ν)} {packet : Packet} {l : Live σ ν}
      (keeps : (l.offerTo stage packet).reaction.value = none) :
      Handed (stage :: stages) packet l [l.offerTo stage packet] none
        (l.answered (l.offerTo stage packet))
  | onward {stage : Stage σ ν} {stages : List (Stage σ ν)} {packet next : Packet}
      {l l' : Live σ ν} {offers : List (Offer σ ν)} {passed : Option Packet}
      (passes : (l.offerTo stage packet).reaction.value = some next)
      (later : Handed stages next (l.answered (l.offerTo stage packet)) offers passed l') :
      Handed (stage :: stages) packet l (l.offerTo stage packet :: offers) passed l'

/-- `Shipped p l s l'` says that a packet is handed to the outbound stages and,
if they let it through, to the encoder as it is then. -/
inductive Shipped (p : Pipeline σ ν) : Live σ ν → Shipment σ ν → Live σ ν → Prop
  | kept {l l' : Live σ ν} {packet : Packet} {offers : List (Offer σ ν)}
      (handed : Handed p.outbound packet l offers none l') :
      Shipped p l ⟨packet, offers, .kept⟩ l'
  | encoded {l l₁ : Live σ ν} {packet passed : Packet} {offers : List (Offer σ ν)} {bytes : Bytes}
      {user : σ} (handed : Handed p.outbound packet l offers (some passed) l₁)
      (encodes : p.encoder.encode l₁.user passed = (.ok bytes, user)) :
      Shipped p l ⟨packet, offers, .encoded passed bytes⟩
        ((Live.emit { l₁ with user := user } bytes).record (.encoded passed))
  | refused {l l₁ : Live σ ν} {packet passed : Packet} {offers : List (Offer σ ν)} {e : CodecError}
      {user : σ} (handed : Handed p.outbound packet l offers (some passed) l₁)
      (refuses : p.encoder.encode l₁.user passed = (.error e, user)) :
      Shipped p l ⟨packet, offers, .refused passed e⟩ { l₁ with user := user }

/-- Shipments one after the other. -/
inductive Shipments (p : Pipeline σ ν) : Live σ ν → List (Shipment σ ν) → Live σ ν → Prop
  | none (l : Live σ ν) : Shipments p l [] l
  | more {l l₁ l' : Live σ ν} {s : Shipment σ ν} {shipments : List (Shipment σ ν)}
      (shipped : Shipped p l s l₁) (later : Shipments p l₁ shipments l') :
      Shipments p l (s :: shipments) l'

variable {p : Pipeline σ ν} {l l' : Live σ ν}

/-! ## The way through the stages -/

section Handed

variable {stage : Stage σ ν} {stages : List (Stage σ ν)} {packet next : Packet}
  {offers : List (Offer σ ν)} {passed : Option Packet}

theorem offer_of_kept (keeps : (l.offerTo stage packet).reaction.value = none) :
    offer (stage :: stages) packet l = (none, l.answered (l.offerTo stage packet)) := by
  change (stage.run l.context l.user packet).value = none at keeps
  simp only [offer, keeps]
  rfl

theorem offer_of_passed (passes : (l.offerTo stage packet).reaction.value = some next) :
    offer (stage :: stages) packet l =
      offer stages next (l.answered (l.offerTo stage packet)) := by
  change (stage.run l.context l.user packet).value = some next at passes
  simp only [offer, passes]
  rfl

/-- A packet can be handed to any stages. -/
theorem handed_offer (stages : List (Stage σ ν)) (packet : Packet) (l : Live σ ν) :
    ∃ offers, Handed stages packet l offers (offer stages packet l).1
      (offer stages packet l).2 := by
  induction stages generalizing packet l with
  | nil => exact ⟨[], .behind packet l⟩
  | cons stage stages ih =>
    cases answer : (l.offerTo stage packet).reaction.value with
    | none =>
      rw [offer_of_kept answer]
      exact ⟨_, .kept answer⟩
    | some next =>
      obtain ⟨offers, later⟩ := ih next (l.answered (l.offerTo stage packet))
      rw [offer_of_passed answer]
      exact ⟨_, .onward answer later⟩

/-- And in one way only. -/
theorem Handed.eq_offer (handed : Handed stages packet l offers passed l') :
    offer stages packet l = (passed, l') := by
  induction handed with
  | behind packet l => rfl
  | kept keeps => exact offer_of_kept keeps
  | onward passes _ ih => exact (offer_of_passed passes).trans ih

/-- Each stage is given the packet once at most, and none before an earlier one. -/
theorem Handed.stages_prefix (handed : Handed stages packet l offers passed l') :
    offers.map Offer.stage <+: stages := by
  induction handed with
  | behind packet l => exact List.nil_prefix
  | kept keeps => exact List.cons_prefix_cons.mpr ⟨rfl, List.nil_prefix⟩
  | onward passes _ ih => exact List.cons_prefix_cons.mpr ⟨rfl, ih⟩

/-- The first stage is given the packet itself. -/
theorem Handed.first (handed : Handed stages packet l offers passed l') :
    ∀ o ∈ offers.head?, o.packet = packet := by
  intro o ho
  cases handed with
  | behind => simp at ho
  | kept keeps => rw [← Option.some.inj ho]; rfl
  | onward passes later => rw [← Option.some.inj ho]; rfl

/-- Every other stage is given what the one before it let through. -/
theorem Handed.chain (handed : Handed stages packet l offers passed l') :
    offers.IsChain fun o next => o.reaction.value = some next.packet := by
  induction handed with
  | behind packet l => exact .nil
  | kept keeps => exact .singleton _
  | onward passes later ih =>
    refine List.isChain_cons.mpr ⟨?_, ih⟩
    intro o ho
    rw [passes, later.first o ho]

/-- A packet comes out behind the stages unless one of them keeps it. -/
theorem Handed.kept_iff (handed : Handed stages packet l offers passed l') :
    passed = none ↔ ∃ o ∈ offers, o.reaction.value = none := by
  induction handed with
  | behind packet l => simp
  | kept keeps => simp [keeps]
  | onward passes _ ih => simp [passes, ih]

/-- A packet that comes out was given to all of them. -/
theorem Handed.stages_eq (handed : Handed stages packet l offers passed l')
    (survives : passed ≠ none) : offers.map Offer.stage = stages := by
  induction handed with
  | behind packet l => rfl
  | kept keeps => exact absurd rfl survives
  | onward passes _ ih => exact congrArg (_ :: ·) (ih survives)

theorem Handed.trail (handed : Handed stages packet l offers passed l')
    (members : ∀ stage ∈ stages, stage ∈ p.outbound) :
    Trail p l (offers.map Offer.deed) l' := by
  induction handed with
  | behind packet l => exact .refl l
  | kept keeps => exact .one (.offered _ (.inr (members _ (List.mem_cons_self ..))))
  | onward passes _ ih =>
    refine .more (.offered _ (.inr (members _ (List.mem_cons_self ..)))) (ih ?_)
    intro stage later
    exact members stage (List.mem_cons_of_mem _ later)

end Handed

/-! ## Shipments -/

variable {s : Shipment σ ν} {shipments : List (Shipment σ ν)}

/-- A packet can be shipped from every state. -/
theorem exists_shipped (p : Pipeline σ ν) (packet : Packet) (l : Live σ ν) :
    ∃ s l', s.packet = packet ∧ Shipped p l s l' := by
  obtain ⟨offers, handed⟩ := handed_offer p.outbound packet l
  rcases answer : offer p.outbound packet l with ⟨_ | passed, l₁⟩
  · rw [answer] at handed
    exact ⟨_, _, rfl, .kept handed⟩
  · rw [answer] at handed
    rcases encodes : p.encoder.encode l₁.user passed with ⟨e | bytes, user⟩
    · exact ⟨_, _, rfl, .refused handed encodes⟩
    · exact ⟨_, _, rfl, .encoded handed encodes⟩

/-- A packet that the encoder refuses ends the sending. -/
theorem Shipped.send_of_fault {e : CodecError} (shipped : Shipped p l s l')
    (fault : s.fault? = some e) (packets : List Packet) :
    p.send (s.packet :: packets) l = (.error e, l') := by
  cases shipped with
  | kept handed => cases fault
  | encoded handed encodes => cases fault
  | refused handed refuses =>
    cases fault
    simp only [Pipeline.send, handed.eq_offer, refuses]

/-- Every other is counted if it survived, and the rest is sent. -/
theorem Shipped.send_of_sound (shipped : Shipped p l s l') (sound : s.fault? = none)
    (packets : List Packet) :
    p.send (s.packet :: packets) l =
      ((p.send packets l').1.map (s.encoding?.toList.length + ·), (p.send packets l').2) := by
  cases shipped with
  | kept handed =>
    simp only [Pipeline.send, handed.eq_offer]
    rcases p.send packets l' with ⟨e | n, l₂⟩
    · rfl
    · exact congrArg (fun n => (Except.ok n, l₂)) (Nat.zero_add n).symm
  | encoded handed encodes =>
    simp only [Pipeline.send, handed.eq_offer, encodes]
    rcases p.send packets _ with ⟨e | n, l₂⟩
    · rfl
    · exact congrArg (fun n => (Except.ok n, l₂)) (Nat.add_comm n 1)
  | refused handed refuses => cases sound

theorem Shipped.handed (shipped : Shipped p l s l') :
    ∃ passed l₁, Handed p.outbound s.packet l s.offers passed l₁ ∧
      (s.fate = .kept ↔ passed = none) := by
  cases shipped with
  | kept handed => exact ⟨_, _, handed, by simp⟩
  | encoded handed encodes => exact ⟨_, _, handed, by simp⟩
  | refused handed refuses => exact ⟨_, _, handed, by simp⟩

/-- The stages are given a packet in turn, each of them once at most and what
the one before let through; it is lost on the way if one of them keeps it, and
else all of them were given it. -/
theorem Shipped.inTurn (shipped : Shipped p l s l') :
    s.offers.map Offer.stage <+: p.outbound ∧
      (∀ o ∈ s.offers.head?, o.packet = s.packet) ∧
      (s.offers.IsChain fun o next => o.reaction.value = some next.packet) ∧
      (s.fate = .kept ↔ ∃ o ∈ s.offers, o.reaction.value = none) ∧
      (s.fate ≠ .kept → s.offers.map Offer.stage = p.outbound) := by
  obtain ⟨passed, l₁, handed, kept⟩ := shipped.handed
  refine ⟨handed.stages_prefix, handed.first, handed.chain, kept.trans handed.kept_iff, ?_⟩
  intro survives
  exact handed.stages_eq fun lost => survives (kept.mpr lost)

/-- A shipment leaves a trail. -/
theorem Shipped.trail (shipped : Shipped p l s l') : Trail p l s.deeds l' := by
  cases shipped with
  | kept handed =>
    exact (handed.trail fun _ member => member).trans (.one (.kept handed.eq_offer))
  | encoded handed encodes =>
    exact (handed.trail fun _ member => member).trans (.one (.encoded handed.eq_offer encodes))
  | refused handed refuses =>
    exact (handed.trail fun _ member => member).trans (.one (.refused handed.eq_offer refuses))

namespace Shipments

theorem trail (run : Shipments p l shipments l') :
    Trail p l (shipments.flatMap Shipment.deeds) l' := by
  induction run with
  | none l => exact .refl l
  | more shipped _ ih => exact shipped.trail.trans ih

theorem exists_shipped_of_mem (run : Shipments p l shipments l') :
    ∀ s ∈ shipments, ∃ l₁ l₂, Shipped p l₁ s l₂ := by
  induction run with
  | none l => simp
  | @more l l₁ l' s shipments shipped _ ih => exact List.forall_mem_cons.mpr ⟨⟨l, l₁, shipped⟩, ih⟩

/-- The stages are called so often at most. -/
theorem calls_le (run : Shipments p l shipments l') :
    (shipments.flatMap Shipment.offers).length ≤ shipments.length * p.outbound.length := by
  induction run with
  | none l => simp
  | @more l l₁ l' s shipments shipped _ ih =>
    have first : s.offers.length ≤ p.outbound.length := by
      have shorter := shipped.inTurn.1.length_le
      rwa [List.length_map] at shorter
    rw [List.flatMap_cons, List.length_append, List.length_cons, Nat.succ_mul]
    omega

/-- The queue behind shipments that started without one is what the stages queued. -/
theorem queue (run : Shipments p l shipments l') (empty : l.context.outbound = []) :
    l'.context.outbound = shipments.flatMap Shipment.queued := by
  have books := run.trail.queue
  simp only [List.flatMap_assoc, Shipment.queued_deeds, Shipment.unqueued_deeds, empty,
    List.nil_append] at books
  rw [books, List.flatMap_eq_nil_iff.mpr fun _ _ => rfl, List.nil_append]

theorem sink (run : Shipments p l shipments l') :
    l'.sink = l.sink ++ (shipments.filterMap Shipment.encoding?).flatten := by
  have bytes : (shipments.filterMap Shipment.encoding?).flatten =
      shipments.flatMap fun s => s.encoding?.toList.flatten := by
    rw [List.filterMap_eq_flatMap_toList, ← List.flatMap_id, List.flatMap_assoc]
    simp only [List.flatMap_id]
  rw [run.trail.sink, List.flatMap_assoc, bytes]
  simp only [Shipment.bytes_deeds]

theorem journal (run : Shipments p l shipments l') :
    l'.journal = l.journal ++ shipments.flatMap Shipment.events := by
  rw [run.trail.journal, List.flatMap_assoc]
  simp only [Shipment.events_deeds]

end Shipments

/-! ## Sending -/

/-- How sending ends: with the count of the survivors behind the last packet, or
with the fault of a packet that the encoder refused. -/
inductive Concludes : List (Shipment σ ν) → List Packet → Except CodecError Nat → Prop
  | all {shipments : List (Shipment σ ν)} (sound : ∀ s ∈ shipments, s.fault? = none) :
      Concludes shipments [] (.ok (shipments.filterMap Shipment.encoding?).length)
  | refused {earlier : List (Shipment σ ν)} {last : Shipment σ ν} {e : CodecError}
      (unshipped : List Packet) (sound : ∀ s ∈ earlier, s.fault? = none)
      (fault : last.fault? = some e) : Concludes (earlier ++ [last]) unshipped (.error e)

theorem Concludes.cons {unshipped : List Packet} {answer : Except CodecError Nat}
    (later : Concludes shipments unshipped answer) (sound : s.fault? = none) :
    Concludes (s :: shipments) unshipped (answer.map (s.encoding?.toList.length + ·)) := by
  cases later with
  | all clean =>
    have count : s.encoding?.toList.length + (shipments.filterMap Shipment.encoding?).length =
        ((s :: shipments).filterMap Shipment.encoding?).length := by
      rw [List.filterMap_cons]
      cases s.encoding? with
      | none => exact Nat.zero_add _
      | some bytes => exact Nat.add_comm 1 _
    show Concludes _ [] (.ok (s.encoding?.toList.length + _))
    rw [count]
    exact .all (List.forall_mem_cons.mpr ⟨sound, clean⟩)
  | @refused earlier last e unshipped clean fault =>
    have whole := Concludes.refused unshipped (List.forall_mem_cons.mpr ⟨sound, clean⟩) fault
    exact whole

/-- Sending ships the packets in turn, up to the first that the encoder refuses. -/
theorem send_shipments (p : Pipeline σ ν) (packets : List Packet) (l : Live σ ν) :
    ∃ shipments unshipped, packets = shipments.map Shipment.packet ++ unshipped ∧
      Shipments p l shipments (p.send packets l).2 ∧
      Concludes shipments unshipped (p.send packets l).1 := by
  induction packets generalizing l with
  | nil =>
    have clean : ∀ s ∈ ([] : List (Shipment σ ν)), s.fault? = none := by simp
    exact ⟨[], [], rfl, .none l, .all clean⟩
  | cons packet packets ih =>
    obtain ⟨s, l₁, rfl, shipped⟩ := exists_shipped p packet l
    cases fault : s.fault? with
    | none =>
      obtain ⟨shipments, unshipped, whole, run, concludes⟩ := ih l₁
      rw [shipped.send_of_sound fault]
      exact ⟨s :: shipments, unshipped, congrArg (s.packet :: ·) whole, .more shipped run,
        concludes.cons fault⟩
    | some e =>
      have clean : ∀ s ∈ ([] : List (Shipment σ ν)), s.fault? = none := by simp
      rw [shipped.send_of_fault fault]
      exact ⟨[s], packets, rfl, .more shipped (.none l₁), .refused packets clean fault⟩

/-- **A flush ships what was queued, each packet once.** It goes through the
packets of the queue in their order and gives each of them to the outbound
stages in turn, to every stage once at most and only as the one before let it
through; so it ends, after as many calls at most as there are packets times
stages. What it leaves in the queue is what the stages queued meanwhile, in
their order. If it answers with a number, nothing of the queue is unshipped,
and so many encodings, those of the survivors in their order, are behind the
bytes to be sent. If it answers with a fault, this is the encoder's for the
last packet shipped; the encodings of the survivors before it are behind the
bytes to be sent, and the packets after it were offered to nobody. -/
theorem flush_shipments (p : Pipeline σ ν) (l : Live σ ν) :
    ∃ shipments unshipped,
      l.context.outbound = shipments.map Shipment.packet ++ unshipped ∧
      Shipments p { l with context := { l.context with outbound := [] } } shipments
        (p.flush l).2 ∧
      (∀ s ∈ shipments,
        s.offers.map Offer.stage <+: p.outbound ∧
        (∀ o ∈ s.offers.head?, o.packet = s.packet) ∧
        (s.offers.IsChain fun o next => o.reaction.value = some next.packet) ∧
        (s.fate = .kept ↔ ∃ o ∈ s.offers, o.reaction.value = none) ∧
        (s.fate ≠ .kept → s.offers.map Offer.stage = p.outbound)) ∧
      (shipments.flatMap Shipment.offers).length ≤
        l.context.outbound.length * p.outbound.length ∧
      (p.flush l).2.journal = l.journal ++ shipments.flatMap Shipment.events ∧
      (p.flush l).2.context.outbound = shipments.flatMap Shipment.queued ∧
      (∀ n, (p.flush l).1 = .ok n →
        unshipped = [] ∧ (∀ s ∈ shipments, s.fault? = none) ∧
        n = (shipments.filterMap Shipment.encoding?).length ∧
        (p.flush l).2.sink = l.sink ++ (shipments.filterMap Shipment.encoding?).flatten) ∧
      (∀ e, (p.flush l).1 = .error e →
        ∃ earlier last, shipments = earlier ++ [last] ∧
          (∀ s ∈ earlier, s.fault? = none) ∧ last.fault? = some e ∧
          (p.flush l).2.sink = l.sink ++ (earlier.filterMap Shipment.encoding?).flatten) := by
  obtain ⟨shipments, unshipped, whole, run, concludes⟩ :=
    p.send_shipments l.context.outbound { l with context := { l.context with outbound := [] } }
  refine ⟨shipments, unshipped, whole, run, ?_, ?_, run.journal, run.queue rfl, ?_, ?_⟩
  · intro s member
    obtain ⟨l₁, l₂, shipped⟩ := run.exists_shipped_of_mem s member
    exact shipped.inTurn
  · have calls := run.calls_le
    have few : shipments.length ≤ l.context.outbound.length := by
      rw [whole, List.length_append, List.length_map]
      omega
    calc (shipments.flatMap Shipment.offers).length
        ≤ shipments.length * p.outbound.length := calls
      _ ≤ l.context.outbound.length * p.outbound.length := Nat.mul_le_mul_right _ few
  · intro n answer
    have sink : (p.flush l).2.sink = l.sink ++ _ := run.sink
    rw [flush] at answer
    rw [answer] at concludes
    cases concludes with
    | all sound => exact ⟨rfl, sound, rfl, sink⟩
  · intro e answer
    have sink : (p.flush l).2.sink = l.sink ++ _ := run.sink
    rw [flush] at answer
    rw [answer] at concludes
    cases concludes with
    | @refused earlier last e unshipped sound fault =>
      have lost : last.encoding? = none := last.encoding_of_fault fault
      refine ⟨earlier, last, rfl, sound, fault, ?_⟩
      rw [sink, List.filterMap_append, List.filterMap_cons, lost, List.filterMap_nil,
        List.append_nil]

end Pipeline

end PacketServer
