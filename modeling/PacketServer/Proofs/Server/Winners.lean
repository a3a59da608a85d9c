import Mathlib.Data.List.Nodup
import PacketServer.Proofs.Server.Move

/-!
# Who wins the edges of a lifecycle

However the steps of the calls on a server interleave, the edges that they won
are those of one way from `created` to the phase that the server is in. No way
goes along an edge twice, so no edge is won twice, and the phase tells which
edges have been won by somebody.

## Main results

* `Reachable.winners` — the edges won lead to the phase.
* `Winners.count_le_one` — an edge is won at most once.
* `Winners.unique` — two calls that won the same edge are one call.
-/

namespace PacketServer

namespace Server

/-- The edges that the calls won. -/
def System.wins (s : System) : List Transition := s.calls.flatMap Call.won

/-- The edges that were won lead to the phase. -/
def Winners (s : System) : Prop := ∃ way ∈ s.phase.ways, s.wins.Perm way

variable {config : Config} {s s₁ s' : System} {t i j : Nat} {c c' d : Call}
  {edge : Transition} {edges : List Transition}

theorem wins_place (present : s.calls[t]? = some c) (won : c'.won = c.won ++ edges) :
    (s.place t c').wins.Perm (s.wins ++ edges) := by
  obtain ⟨hlt, hc⟩ := List.getElem?_eq_some_iff.mp present
  -- The call stands between others, and only its own edges change.
  have before : s.calls = s.calls.take t ++ c :: s.calls.drop (t + 1) := by
    rw [← hc, ← List.drop_eq_getElem_cons hlt, List.take_append_drop]
  have after : s.calls.set t c' = s.calls.take t ++ c' :: s.calls.drop (t + 1) :=
    List.set_eq_take_append_cons_drop.trans (if_pos hlt)
  have hbefore : s.wins = (s.calls.take t).flatMap Call.won ++
      (c.won ++ (s.calls.drop (t + 1)).flatMap Call.won) := by
    rw [System.wins, before, List.flatMap_append, List.flatMap_cons, ← before]
  have hafter : (s.place t c').wins = (s.calls.take t).flatMap Call.won ++
      (c.won ++ edges ++ (s.calls.drop (t + 1)).flatMap Call.won) := by
    rw [System.wins, System.place, after, List.flatMap_append, List.flatMap_cons, won]
  rw [hbefore, hafter, List.perm_iff_count]
  intro edge
  simp only [List.count_append]
  omega

/-- A move adds the edge that it wins to those that were won, and the phase
changes with it. -/
theorem Move.wins_place {world : World} (move : Move config world t s c s₁ c')
    (present : s.calls[t]? = some c) :
    ((s₁.place t c').wins.Perm s.wins ∧ s₁.phase = s.phase) ∨
      ∃ edge, (s₁.place t c').wins.Perm (s.wins ++ [edge]) ∧ s.phase = edge.source ∧
        s₁.phase = edge.target := by
  have present₁ : s₁.calls[t]? = some c := by rw [move.calls]; exact present
  have wins₁ : s₁.wins = s.wins := by rw [System.wins, System.wins, move.calls]
  rcases move.wins with ⟨won, phase⟩ | ⟨edge, won, source, target⟩
  · have same := Server.wins_place present₁ (won.trans (List.append_nil c.won).symm)
    rw [wins₁, List.append_nil] at same
    exact .inl ⟨same, phase⟩
  · have more := Server.wins_place present₁ won
    rw [wins₁] at more
    exact .inr ⟨edge, more, source, target⟩

theorem Winners.move {world : World} (winners : Winners s) (present : s.calls[t]? = some c)
    (move : Move config world t s c s₁ c') : Winners (s₁.place t c') := by
  obtain ⟨way, leads, perm⟩ := winners
  rcases move.wins_place present with ⟨same, phase⟩ | ⟨edge, more, source, target⟩
  · refine ⟨way, ?_, same.trans perm⟩
    show way ∈ s₁.phase.ways
    rw [phase]
    exact leads
  · refine ⟨way ++ [edge], ?_, more.trans (perm.append_right [edge])⟩
    show way ++ [edge] ∈ s₁.phase.ways
    rw [target]
    rw [source] at leads
    exact edge.ways_along way leads

theorem Winners.step {label : Label} (winners : Winners s)
    (made : s.step config label = some s') : Winners s' := by
  cases step_cases made with
  | called kind listened =>
    obtain ⟨way, leads, perm⟩ := winners
    refine ⟨way, leads, ?_⟩
    simpa [System.wins, System.enter] using perm
  | moved present move => exact winners.move present move
  | looped present goes => exact winners
  | tasked present goes => exact winners

theorem Winners.fresh : Winners .fresh := ⟨[], List.mem_singleton_self [], List.Perm.nil⟩

/-- **The edges that were won lead to the phase**, in every reachable state. -/
theorem Reachable.winners (reachable : Reachable config s) : Winners s := by
  induction reachable with
  | new => exact .fresh
  | step label before made ih => exact ih.step made

theorem Winners.nodup (winners : Winners s) : s.wins.Nodup := by
  obtain ⟨way, leads, perm⟩ := winners
  exact perm.nodup_iff.mpr (s.phase.ways_nodup way leads)

/-- **An edge is won at most once**, whoever attempts it. -/
theorem Winners.count_le_one (winners : Winners s) (edge : Transition) :
    s.wins.count edge ≤ 1 :=
  List.nodup_iff_count_le_one.mp winners.nodup edge

/-- **Two calls that won the same edge are one call.** -/
theorem Winners.unique (winners : Winners s) (first : s.calls[i]? = some c)
    (second : s.calls[j]? = some d) (won : edge ∈ c.won) (won' : edge ∈ d.won) : i = j := by
  have apart := (List.nodup_flatMap.mp winners.nodup).2
  rw [List.pairwise_iff_getElem] at apart
  obtain ⟨hi, rfl⟩ := List.getElem?_eq_some_iff.mp first
  obtain ⟨hj, rfl⟩ := List.getElem?_eq_some_iff.mp second
  rcases Nat.lt_trichotomy i j with before | same | behind
  · exact absurd won' (apart i j hi hj before won)
  · exact same
  · exact absurd won (apart j i hj hi behind won')

/-- An edge that a call won is on a way to the phase. -/
theorem Winners.on_way (winners : Winners s) (present : s.calls[t]? = some c)
    (won : edge ∈ c.won) : ∃ way ∈ s.phase.ways, edge ∈ way := by
  obtain ⟨way, leads, perm⟩ := winners
  refine ⟨way, leads, perm.mem_iff.mp ?_⟩
  exact List.mem_flatMap.mpr ⟨c, List.mem_of_getElem? present, won⟩

/-- Two edges that calls won are on one way to the phase. -/
theorem Winners.on_one_way {edge' : Transition} (winners : Winners s)
    (first : s.calls[i]? = some c) (second : s.calls[j]? = some d) (won : edge ∈ c.won)
    (won' : edge' ∈ d.won) : ∃ way ∈ s.phase.ways, edge ∈ way ∧ edge' ∈ way := by
  obtain ⟨way, leads, perm⟩ := winners
  refine ⟨way, leads, perm.mem_iff.mp ?_, perm.mem_iff.mp ?_⟩
  · exact List.mem_flatMap.mpr ⟨c, List.mem_of_getElem? first, won⟩
  · exact List.mem_flatMap.mpr ⟨d, List.mem_of_getElem? second, won'⟩

/-- Behind the beginning of a stop, and behind an aborted start, nothing
follows. -/
theorem Winners.shutdown (winners : Winners s) (present : s.calls[t]? = some c)
    (won : edge ∈ c.won) (last : edge.target = .shutdown) : s.phase = .shutdown := by
  obtain ⟨way, leads, onWay⟩ := winners.on_way present won
  cases phase : s.phase with
  | shutdown => rfl
  | _ =>
    rw [phase] at leads
    obtain rfl := List.mem_singleton.mp leads
    cases edge <;> simp_all [Transition.target]

/-- A server that was marked is started, or shut down since. -/
theorem Winners.marked (winners : Winners s) (present : s.calls[t]? = some c)
    (won : .markStarted ∈ c.won) : s.phase = .started ∨ s.phase = .shutdown := by
  obtain ⟨way, leads, onWay⟩ := winners.on_way present won
  cases phase : s.phase with
  | started => exact .inl rfl
  | shutdown => exact .inr rfl
  | _ =>
    rw [phase] at leads
    obtain rfl := List.mem_singleton.mp leads
    simp at onWay

/-- A start that was aborted was not marked, and nobody stops it. -/
theorem Winners.aborted (winners : Winners s) (first : s.calls[i]? = some c)
    (second : s.calls[j]? = some d) (won : .abortStart ∈ c.won) :
    .markStarted ∉ d.won ∧ .beginStop ∉ d.won := by
  have phase := winners.shutdown first won rfl
  constructor <;> intro won'
  all_goals
    obtain ⟨way, leads, onWay, onWay'⟩ := winners.on_one_way first second won won'
    rw [phase] at leads
    rcases List.mem_pair.mp leads with rfl | rfl <;> simp at onWay onWay'

/-- Before a start has begun nobody won the beginning of a start. -/
theorem Winners.begun (winners : Winners s) (present : s.calls[t]? = some c)
    (won : .beginStart ∈ c.won) : s.phase ≠ .created ∧ s.phase ≠ .initialized := by
  obtain ⟨way, leads, onWay⟩ := winners.on_way present won
  constructor
  · intro created
    rw [created] at leads
    obtain rfl := List.mem_singleton.mp leads
    exact absurd onWay (by decide)
  · intro initialized
    rw [initialized] at leads
    obtain rfl := List.mem_singleton.mp leads
    exact absurd onWay (by decide)

end Server

end PacketServer
