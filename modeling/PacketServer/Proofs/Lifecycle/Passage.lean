import Mathlib.Data.List.Nodup
import PacketServer.Lifecycle.Cell

/-!
# How a cell passes through its phases

Whatever edges threads bid for, and in whatever order their bids come, the
edges that are won are those of one way, and the cell holds the phase at its
end. `Led` is this invariant: one bid keeps it, since an edge that is won starts
where the way ends, so all runs keep it. Everything else is read off the ways,
of which there are few.

A race of several bids for one edge has one winner if it starts where the edge
does, because no edge ends where it starts.

## Main results

* `Led.attempt`, `Led.run` — the edges won lead to the phase in the cell.
* `le_byte_run` — the byte never goes back.
* `winners_race` — a race has one winner or none.
* `passage_run` — what becomes of a new cell.
-/

namespace PacketServer.Cell

variable {c : Cell} {edge : Transition} {won : List Transition} {bids : List Bid}

/-- The phase at the end of a way from the first phase. -/
def endOf (way : List Transition) : Phase := (way.getLast?.map Transition.target).getD .created

/-! ## Ways -/

theorem endOf_way (phase : Phase) : ∀ way ∈ phase.ways, endOf way = phase := by
  cases phase <;> decide

/-- Every way is a front part of a start and a stop, or of a start that fails. -/
theorem way_front (phase : Phase) :
    ∀ way ∈ phase.ways,
      way <+: [.init, .beginStart, .markStarted, .beginStop] ∨
        way <+: [.init, .beginStart, .abortStart] := by
  cases phase <;> decide

/-- No way goes along the edge of a start that succeeds and along that of one
that fails. -/
theorem way_exclusive (phase : Phase) :
    ∀ way ∈ phase.ways, .markStarted ∉ way ∨ .abortStart ∉ way := by
  cases phase <;> decide

/-! ## One bid -/

/-- A bid wins exactly in the phase that its edge starts from. -/
theorem attempt_wins_iff : (c.attempt edge).1 = true ↔ c.byte = edge.source.code := by
  rw [attempt_eq]
  split <;> simp_all

/-- Only the last phase is read from numbers that no phase has. -/
theorem code_ofCode (code : UInt8) :
    (Phase.ofCode code).code = code ∨ Phase.ofCode code = .shutdown := by
  unfold Phase.ofCode
  repeat' split
  all_goals simp_all [Phase.code]

/-- No edge starts from the last phase, so the source of an edge is read only
from its own number. -/
theorem get_eq_source_iff : c.get = edge.source ↔ c.byte = edge.source.code := by
  constructor
  · intro same
    have known : c.get.code = c.byte ∨ c.get = .shutdown := code_ofCode c.byte
    rcases known with known | last
    · rw [← known, same]
    · rw [last] at same
      cases edge <;> simp [Transition.source] at same
  · intro same
    rw [get, same, Phase.ofCode_code]

/-- A bid that loses changes nothing. -/
theorem attempt_of_lost (lost : (c.attempt edge).1 = false) : (c.attempt edge).2 = c := by
  rw [attempt_eq] at lost ⊢
  split <;> simp_all

/-- Every edge leads to a greater number. -/
theorem code_source_lt (edge : Transition) : edge.source.code < edge.target.code := by
  cases edge <;> decide

theorem le_byte_attempt (c : Cell) (edge : Transition) : c.byte ≤ (c.attempt edge).2.byte := by
  rw [attempt_eq]
  split
  · rename_i meets
    rw [meets]
    exact UInt8.le_of_lt (code_source_lt edge)
  · exact UInt8.le_refl _

/-! ## Runs -/

theorem run_append (c : Cell) (front back : List Bid) :
    c.run (front ++ back) =
      ((c.run front).1 ++ ((c.run front).2.run back).1, ((c.run front).2.run back).2) := by
  induction front generalizing c with
  | nil => rfl
  | cons bid front ih => simp only [List.cons_append, run, ih]

theorem wins_append (log log' : List (Bid × Bool)) :
    wins (log ++ log') = wins log ++ wins log' := by
  simp only [wins, List.filter_append, List.map_append]

theorem answered_run (c : Cell) (bids : List Bid) : (c.run bids).1.map (·.1) = bids := by
  induction bids generalizing c with
  | nil => rfl
  | cons bid bids ih => simp only [run, List.map_cons, ih]

/-- **The byte never goes back.** -/
theorem le_byte_run (c : Cell) (bids : List Bid) : c.byte ≤ (c.run bids).2.byte := by
  induction bids generalizing c with
  | nil => exact UInt8.le_refl _
  | cons bid bids ih => exact UInt8.le_trans (c.le_byte_attempt bid.edge) (ih _)

/-- The edges that were won lead from the first phase to the one in the cell. -/
def Led (c : Cell) (won : List Transition) : Prop := ∃ phase, c = ofPhase phase ∧ won ∈ phase.ways

theorem led_fresh : Led fresh [] := ⟨.created, rfl, List.mem_singleton_self []⟩

/-- **A bid keeps that**: an edge that is won goes on where the way ends. -/
theorem Led.attempt (led : Led c won) (edge : Transition) :
    Led (c.attempt edge).2 (won ++ if (c.attempt edge).1 then [edge] else []) := by
  obtain ⟨phase, rfl, way⟩ := led
  by_cases meets : phase = edge.source
  · subst meets
    have here : (ofPhase edge.source).byte = edge.source.code := rfl
    rw [attempt_eq, if_pos here]
    exact ⟨edge.target, rfl, edge.ways_along won way⟩
  · have misses : (ofPhase phase).byte ≠ edge.source.code := fun same =>
      meets (Phase.code_inj.mp same)
    rw [attempt_eq, if_neg misses]
    exact ⟨phase, rfl, by simpa using way⟩

/-- **The edges that were won lead to the phase in the cell**, after any bids. -/
theorem Led.run (led : Led c won) (bids : List Bid) :
    Led (c.run bids).2 (won ++ wins (c.run bids).1) := by
  induction bids generalizing c won with
  | nil => simpa [Cell.run, wins] using led
  | cons bid bids ih =>
    have later := ih (led.attempt bid.edge)
    rw [List.append_assoc] at later
    simp only [Cell.run]
    cases answer : (c.attempt bid.edge).1 with
    | true => simpa [wins, answer] using later
    | false => simpa [wins, answer] using later

namespace Led

theorem get (led : Led c won) : c.get = endOf won := by
  obtain ⟨phase, rfl, way⟩ := led
  rw [get_ofPhase, endOf_way phase won way]

theorem stored (led : Led c won) : c.byte = c.get.code := by
  obtain ⟨phase, rfl, -⟩ := led
  rw [get_ofPhase]
  rfl

theorem once (led : Led c won) (edge : Transition) : won.count edge ≤ 1 := by
  obtain ⟨phase, -, way⟩ := led
  exact List.nodup_iff_count_le_one.mp (phase.ways_nodup won way) edge

theorem front (led : Led c won) :
    won <+: [.init, .beginStart, .markStarted, .beginStop] ∨
      won <+: [.init, .beginStart, .abortStart] := by
  obtain ⟨phase, -, way⟩ := led
  exact way_front phase won way

theorem exclusive (led : Led c won) : .markStarted ∉ won ∨ .abortStart ∉ won := by
  obtain ⟨phase, -, way⟩ := led
  exact way_exclusive phase won way

end Led

/-! ## Races -/

/-- Bids for an edge that starts elsewhere all lose. -/
theorem run_of_missed (misses : c.byte ≠ edge.source.code) (same : ∀ bid ∈ bids, bid.edge = edge) :
    c.run bids = (bids.map (·, false), c) := by
  induction bids with
  | nil => rfl
  | cons bid bids ih =>
    obtain ⟨rfl, same⟩ := List.forall_mem_cons.mp same
    simp only [run, attempt_eq, if_neg misses, ih same, List.map_cons]

/-- Of bids for an edge that starts here the first one wins. -/
theorem run_of_met {bid : Bid} (meets : c.byte = bid.edge.source.code)
    (same : ∀ other ∈ bids, other.edge = bid.edge) :
    c.run (bid :: bids) = ((bid, true) :: bids.map (·, false), ofPhase bid.edge.target) := by
  have left : (ofPhase bid.edge.target).byte ≠ bid.edge.source.code :=
    (UInt8.ne_of_lt (code_source_lt bid.edge)).symm
  simp only [run, attempt_eq, if_pos meets, run_of_missed left same]

/-- **A race for an edge has one winner** if it starts where the edge does, and
none otherwise. -/
theorem winners_race (present : bids ≠ []) (same : ∀ bid ∈ bids, bid.edge = edge) :
    (c.run bids).1.countP (·.2) = if c.get = edge.source then 1 else 0 := by
  by_cases meets : c.get = edge.source
  · rw [if_pos meets]
    rw [get_eq_source_iff] at meets
    cases bids with
    | nil => exact absurd rfl present
    | cons bid bids =>
      obtain ⟨rfl, same⟩ := List.forall_mem_cons.mp same
      rw [run_of_met meets same]
      simp [List.countP_map, Function.comp_def]
  · rw [if_neg meets]
    rw [get_eq_source_iff] at meets
    rw [run_of_missed meets same]
    simp [List.countP_map, Function.comp_def]

/-! ## The passage -/

/-- What is known of a new cell behind bids: their log, and the cell. -/
structure Passage (bids : List Bid) (log : List (Bid × Bool)) (c : Cell) : Prop where
  /-- Every bid is answered, in their order. -/
  answered : log.map (·.1) = bids
  /-- The answers and the phase are those of attempts at the phase. -/
  attempts : Transition.attemptAll (bids.map (·.edge)) .created = (log.map (·.2), c.get)
  /-- An edge is won at most once. -/
  once : ∀ edge, (wins log).count edge ≤ 1
  /-- A start is not both completed and aborted. -/
  exclusive : .markStarted ∉ wins log ∨ .abortStart ∉ wins log
  /-- The edges are won in the order of one way. -/
  way : wins log <+: [.init, .beginStart, .markStarted, .beginStop] ∨
    wins log <+: [.init, .beginStart, .abortStart]
  /-- What is read is the phase at the end of the edges that were won. -/
  reads : c.get = endOf (wins log)
  /-- The byte is that phase's number. -/
  stored : c.byte = c.get.code
  /-- What was won stays won, and the phase never goes back. -/
  onward : ∀ front back, bids = front ++ back →
    wins (fresh.run front).1 <+: wins log ∧ (fresh.run front).2.get.code ≤ c.get.code
  /-- The next bid wins exactly in the phase that its edge starts from. -/
  next : ∀ edge, (c.attempt edge).1 = true ↔ c.get = edge.source
  /-- If it loses it changes nothing. -/
  lost : ∀ edge, (c.attempt edge).1 = false → (c.attempt edge).2 = c
  /-- Of any number of threads that race for an edge next, one wins if the edge
  starts from the phase, and none otherwise. -/
  race : ∀ edge racers, racers ≠ [] → (∀ bid ∈ racers, bid.edge = edge) →
    (c.run racers).1.countP (·.2) = if c.get = edge.source then 1 else 0

/-- **A new cell passes through its phases along one way**, whatever edges any
threads bid for, and in whatever order their bids come. -/
theorem passage_run (bids : List Bid) : Passage bids (fresh.run bids).1 (fresh.run bids).2 := by
  have led : Led (fresh.run bids).2 (wins (fresh.run bids).1) := led_fresh.run bids
  obtain ⟨answers, cell⟩ := run_ofPhase bids .created
  refine
    { answered := answered_run fresh bids
      attempts := Prod.ext answers.symm ?_
      once := led.once
      exclusive := led.exclusive
      way := led.front
      reads := led.get
      stored := led.stored
      onward := ?_
      next := fun edge => attempt_wins_iff.trans get_eq_source_iff.symm
      lost := fun edge => attempt_of_lost
      race := fun edge racers => winners_race }
  · show _ = ((ofPhase .created).run bids).2.get
    rw [cell, get_ofPhase]
  · rintro front back rfl
    have before : Led (fresh.run front).2 (wins (fresh.run front).1) := led_fresh.run front
    rw [run_append, wins_append] at *
    refine ⟨List.prefix_append _ _, ?_⟩
    rw [← before.stored, ← led.stored]
    exact le_byte_run _ back

/-- A start is aborted by one thread before another marks it. -/
example :
    wins (fresh.run [⟨0, .init⟩, ⟨0, .beginStart⟩, ⟨1, .beginStart⟩, ⟨1, .abortStart⟩,
      ⟨0, .markStarted⟩, ⟨2, .beginStop⟩]).1 = [.init, .beginStart, .abortStart] := by
  decide

end PacketServer.Cell
