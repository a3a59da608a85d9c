import PacketServer.Proofs.Pipeline.Frame

/-!
# Exchanging stages of different directions

Stages are inserted in one row, whatever their direction. When a pipeline is
assembled the row is parted, and each direction keeps its order. So two stages
of different directions that were inserted one after the other can be
exchanged: of what is assembled only the names differ, and no operation reads
them.

## Main results

* `fireRead_named` — names do not matter to what is done.
* `Exchanged.changeAll` — later changes of a specification keep the exchange.
* `Exchanged.assemble` — what is assembled differs in its names only.
-/

namespace PacketServer

variable {σ ν : Type}

/-! ## Names -/

namespace Pipeline

/-- The pipeline under other names. -/
def named (p : Pipeline σ ν) (names : List String) : Pipeline σ ν := { p with names := names }

variable (p : Pipeline σ ν) (names : List String)

theorem decoder_named : (p.named names).decoder = p.decoder := rfl

theorem send_named (packets : List Packet) (l : Live σ ν) :
    (p.named names).send packets l = p.send packets l := by
  induction packets generalizing l with
  | nil => rfl
  | cons packet packets ih =>
    simp only [send, ih]
    rfl

theorem dispatch_named (packet : Packet) (l : Live σ ν) :
    (p.named names).dispatch packet l = p.dispatch packet l := by
  simp only [dispatch, flushed, flush, send_named]
  rfl

/-- One turn of the loop over what arrived. -/
theorem fireRead_turn {l : Live σ ν} (opened : ¬ l.context.closing = true) :
    p.fireRead l =
      match p.decoder.decode l.user l.source with
      | ((.error e, rest), user) => (.error (.codec e), { l with source := rest, user := user })
      | ((.ok none, rest), user) => (.ok 0, { l with source := rest, user := user })
      | ((.ok (some packet), rest), user) =>
        match p.dispatch packet (l.decoded packet rest user) with
        | (.error e, l) => (.error e, l)
        | (.ok delivered, l) => tally delivered.toNat (p.fireRead l) := by
  rw [fireRead, if_neg opened]
  split <;> rename_i call <;> simp only [call]
  split <;> rename_i dispatched <;> simp only [dispatched]
  rfl

/-- Nothing that is done depends on names. -/
theorem fireRead_named (l : Live σ ν) : (p.named names).fireRead l = p.fireRead l := by
  fun_induction fireRead p l with
  | case1 l asked => exact fireRead_of_closing asked
  | case2 l opened e rest user call =>
    simp only [fireRead_turn _ opened, decoder_named, call]
  | case3 l opened rest user call =>
    simp only [fireRead_turn _ opened, decoder_named, call]
  | case4 l opened packet rest user call e l' dispatches =>
    simp only [fireRead_turn _ opened, decoder_named, call, dispatch_named, dispatches]
  | case5 l opened packet rest user call delivered l₁ dispatches _ n l' read ih =>
    simp only [fireRead_turn _ opened, decoder_named, call, dispatch_named, dispatches, ih, read,
      tally]
  | case6 l opened packet rest user call delivered l₁ dispatches _ e l' read ih =>
    simp only [fireRead_turn _ opened, decoder_named, call, dispatch_named, dispatches, ih, read,
      tally]

end Pipeline

/-! ## The order of insertion -/

namespace Spec

variable {a b : Stage σ ν} {s s' : Spec σ ν}

/-- Two specifications that differ in the order of two neighbouring stages. -/
def Exchanged (a b : Stage σ ν) (s s' : Spec σ ν) : Prop :=
  ∃ earlier later, s.stages = earlier ++ a :: b :: later ∧
    s' = { s with stages := earlier ++ b :: a :: later }

theorem exchanged_insert (a b : Stage σ ν) (s : Spec σ ν) :
    Exchanged a b ((s.insert a).insert b) ((s.insert b).insert a) := by
  refine ⟨s.stages, [], ?_, ?_⟩
  · simp only [insert, List.append_assoc, List.singleton_append]
  · simp only [insert, List.append_assoc, List.singleton_append]

/-- No change looks at the stages inserted before. -/
theorem Exchanged.change (h : Exchanged a b s s') (c : Change σ ν) :
    Exchanged a b (s.change c) (s'.change c) := by
  obtain ⟨earlier, later, stages, rfl⟩ := h
  cases c with
  | decoder d => exact ⟨earlier, later, stages, rfl⟩
  | encoder e => exact ⟨earlier, later, stages, rfl⟩
  | limit limit =>
    simp only [Spec.change, limitFrames]
    by_cases custom : s.customDecoder = true
    · rw [if_pos custom, if_pos custom]
      exact ⟨earlier, later, stages, rfl⟩
    · rw [if_neg custom, if_neg custom]
      exact ⟨earlier, later, stages, rfl⟩
  | stage stage =>
    refine ⟨earlier, later ++ [stage], ?_, ?_⟩
    · simp only [Spec.change, insert, stages, List.append_assoc, List.cons_append]
    · simp only [Spec.change, insert, List.append_assoc, List.cons_append]

theorem Exchanged.changeAll (h : Exchanged a b s s') (changes : List (Change σ ν)) :
    Exchanged a b (s.changeAll changes) (s'.changeAll changes) := by
  induction changes generalizing s s' with
  | nil => exact h
  | cons c changes ih => exact ih (h.change c)

/-- Stages of different directions can be exchanged: what is assembled has
other names, and is the same otherwise. -/
theorem Exchanged.assemble (h : Exchanged a b s s') (different : a.direction ≠ b.direction) :
    s'.assemble = s.assemble.named s'.names := by
  obtain ⟨earlier, later, stages, rfl⟩ := h
  have kept : ∀ d : Direction, (earlier ++ b :: a :: later).filter (·.direction = d) =
      s.stages.filter (·.direction = d) := by
    intro d
    rw [stages, List.filter_append, List.filter_append]
    congr 1
    by_cases first : a.direction = d
    · have second : b.direction ≠ d := fun same => different (first.trans same.symm)
      simp [first, second]
    · simp [List.filter_cons, first]
  simp only [Spec.assemble, Pipeline.named, kept]

theorem Exchanged.names_eq (h : Exchanged a b s s') :
    ∃ earlier later, s.names = earlier ++ a.name :: b.name :: later ∧
      s'.names = earlier ++ b.name :: a.name :: later := by
  obtain ⟨earlier, later, stages, rfl⟩ := h
  refine ⟨decoderName :: encoderName :: earlier.map (·.name),
    later.map (·.name) ++ [handlerName], ?_, ?_⟩
  · simp [Spec.names_eq, stages]
  · simp [Spec.names_eq]

end Spec

end PacketServer
