import PacketServer.Proofs.Pipeline.Frame

/-!
# Connections that an application cannot tell apart

Two connections are *alike* if their contexts, their applications' states and
what the applications have seen so far are the same. What was written to the
streams, and how far the encoded bytes were sent, may differ.

An operation that commutes with frames makes alike connections out of alike
ones, as both are the same connection inside two frames.

## Main results

* `Alike.outcome` — operations that commute with frames keep connections alike.
* `fireRead_alike`, `fireInactive_alike` — as the operations of a pipeline do.
-/

namespace PacketServer

variable {σ ν α : Type}

namespace Live

/-- What the application and its pipeline did, by the journal. -/
def seen (l : Live σ ν) : List (Event ν) := l.journal.filter fun e => !e.isOfStream

/-- The application cannot tell one connection from the other. -/
structure Alike (a b : Live σ ν) : Prop where
  context : a.context = b.context
  user : a.user = b.user
  cancelled : a.cancelled = b.cancelled
  seen : a.seen = b.seen

namespace Alike

theorem refl (a : Live σ ν) : a.Alike a := ⟨rfl, rfl, rfl, rfl⟩

theorem symm {a b : Live σ ν} (h : a.Alike b) : b.Alike a :=
  ⟨h.context.symm, h.user.symm, h.cancelled.symm, h.seen.symm⟩

theorem trans {a b c : Live σ ν} (h : a.Alike b) (h' : b.Alike c) : a.Alike c :=
  ⟨h.context.trans h'.context, h.user.trans h'.user, h.cancelled.trans h'.cancelled,
    h.seen.trans h'.seen⟩

end Alike

/-- Bytes that arrived are not seen before they are decoded. -/
theorem alike_source (l : Live σ ν) (source : Bytes) : Alike { l with source := source } l :=
  ⟨rfl, rfl, rfl, rfl⟩

/-- What was written to the stream is not seen, nor what is still to be. -/
theorem alike_written {l : Live σ ν} {events : List (Event ν)} (encoded : Array UInt8)
    (h : ∀ e ∈ events, e.isOfStream = true) :
    Alike { l with encoded := encoded, past := l.past ++ events } l := by
  refine ⟨rfl, rfl, rfl, ?_⟩
  have hnothing : events.filter (fun e => !e.isOfStream) = [] := by
    rw [List.filter_eq_nil_iff]
    intro e he
    rw [h e he]
    decide
  simp only [seen, journal, Array.toList_appendList, List.filter_append, hnothing,
    List.append_nil]

/-- A connection without its past and its encoded bytes. -/
def bare (l : Live σ ν) : Live σ ν := { l with past := #[], encoded := #[] }

/-- The past and the encoded bytes of a connection. -/
def frame (l : Live σ ν) : Frame ν := { past := l.past, encoded := l.encoded }

theorem bare_within_frame (l : Live σ ν) : l.bare.within l.frame = l := by
  simp only [bare, frame, within, Array.append_empty, List.append_nil]

theorem seen_within (l : Live σ ν) (f : Frame ν) :
    (l.within f).seen = f.past.toList.filter (fun e => !e.isOfStream) ++ l.seen := by
  simp only [seen, journal, within, Array.toList_append, List.filter_append]

theorem Alike.bare_eq {a b : Live σ ν} (h : a.Alike b) (source : a.source = b.source) :
    a.bare = b.bare := by
  obtain ⟨hcontext, huser, hcancelled, -⟩ := h
  simp only [bare, hcontext, huser, hcancelled, source]

/-- **Operations that commute with frames keep connections alike.** -/
theorem Alike.outcome {a b : Live σ ν} (h : a.Alike b) (source : a.source = b.source)
    (op : Live σ ν → α × Live σ ν)
    (commutes : ∀ (l : Live σ ν) (f : Frame ν),
      f.source = [] → op (l.within f) = f.around (op l)) :
    (op a).1 = (op b).1 ∧ (op a).2.Alike (op b).2 ∧ (op a).2.source = (op b).2.source := by
  have ha : op a = a.frame.around (op a.bare) := by
    rw [← commutes a.bare a.frame rfl, bare_within_frame]
  have hb : op b = b.frame.around (op a.bare) := by
    rw [h.bare_eq source, ← commutes b.bare b.frame rfl, bare_within_frame]
  rw [ha, hb]
  refine ⟨rfl, ⟨rfl, rfl, rfl, ?_⟩, rfl⟩
  have hpast : a.frame.past.toList.filter (fun e => !e.isOfStream) =
      b.frame.past.toList.filter (fun e => !e.isOfStream) := h.seen
  show ((op a.bare).2.within a.frame).seen = ((op a.bare).2.within b.frame).seen
  rw [seen_within, seen_within, hpast]

/-- A callback's event and its reaction keep connections alike. -/
theorem Alike.callback {a b : Live σ ν} (h : a.Alike b) (e : Event ν) (r : Reaction σ ν α) :
    ((a.record e).absorb r).Alike ((b.record e).absorb r) := by
  refine ⟨?_, rfl, ?_, ?_⟩
  · exact congrArg (fun c => Context.update c r.writes r.closes) h.context
  · exact congrArg (fun c => c || r.cancels) h.cancelled
  · have hseen : a.journal.filter (fun e => !e.isOfStream) =
        b.journal.filter (fun e => !e.isOfStream) := h.seen
    simp only [Live.seen, journal_absorb, journal_record, List.filter_append, hseen]

end Live

namespace Pipeline

variable {p : Pipeline σ ν} {limit : Nat} {a b : Live σ ν}

/-- If nothing lies behind, decoding and dispatching commutes with a frame. -/
theorem fireRead_within_nil (usual : p.decoder = .packets limit) (l : Live σ ν) {f : Frame ν}
    (nothing : f.source = []) : p.fireRead (l.within f) = f.around (p.fireRead l) := by
  rw [fireRead_within usual]
  rcases hread : p.fireRead l with ⟨e | n, l'⟩
  · rfl
  · have hsettled : Settled limit (l'.within f) := by
      rw [Settled, Live.context_within, Live.source_within, nothing, List.append_nil]
      exact fireRead_settled usual hread
    rw [resume, fireRead_of_settled usual hsettled, tally, Nat.zero_add]
    rfl

theorem fireRead_alike (usual : p.decoder = .packets limit) (h : a.Alike b)
    (source : a.source = b.source) :
    (p.fireRead a).1 = (p.fireRead b).1 ∧ (p.fireRead a).2.Alike (p.fireRead b).2 ∧
      (p.fireRead a).2.source = (p.fireRead b).2.source :=
  h.outcome source p.fireRead fun l _ nothing => fireRead_within_nil usual l nothing

theorem fireInactive_alike (h : a.Alike b) : (p.fireInactive a).Alike (p.fireInactive b) := by
  unfold fireInactive
  rw [h.context, h.user]
  exact h.callback _ _

end Pipeline

end PacketServer
