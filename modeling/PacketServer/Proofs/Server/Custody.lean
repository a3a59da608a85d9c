import PacketServer.Proofs.Server.Holding

/-!
# Who has the thread groups

The thread groups of a server are built by the start that won, stay with it
until it puts them into the slot, and are taken out of the slot to be shut down
by that start, if it fails, or else by the stop that won. What a call relies on
at its point is known behind its own step as well as behind the steps of others
and of the accept loop and the tasks, so it is known in every reachable state.

## Main results

* `Move.holding` — what a call relies on behind its own step.
* `Move.regroup` — what a step of a call does to the groups.
* `Reachable.custody` — who has the groups in any reachable state.
-/

namespace PacketServer.Server

variable {config : Config} {world : World} {s s₁ s' : System} {bindings : List Address}
  {t j : Nat} {c c' d : Call} {point : Point}

/-! ## A step of a call -/

/-- The points at which a call has the lock. -/
def Point.locks : Point → Bool
  | .inspect _ | .markStarted .. | .spawn .. | .unlock .. => true
  | _ => false

/-- Who has the thread groups of a server. -/
structure Custody (s : System) : Prop where
  /-- What each call relies on. -/
  holding : ∀ (t : Nat) (c : Call), s.calls[t]? = some c → Holding s.shared t c c.point
  winnable : ∀ c ∈ s.calls, ∀ edge ∈ c.won, edge ∈ c.point.winnable
  /-- Groups are built once at most. -/
  built : s.groups.length ≤ 1
  orderly : ∀ g ∈ s.groups, g.Orderly
  early : s.phase = .created ∨ s.phase = .initialized → s.shared.Unbuilt
  started : s.phase = .started → s.shared.Serves
  /-- Groups are out of the slot before they are shut down. -/
  emptied : ∀ g ∈ s.groups, g.shutdowns = 1 → s.slot = none ∧ s.phase = .shutdown
  /-- Nothing is served before a start has marked the server. -/
  dormant : .markStarted ∉ s.wins → ∀ g ∈ s.groups, g.Dormant
  /-- The lock belongs to a call that is about to inspect or to use the slot. -/
  locked : ∀ t, s.lockedBy = some t → ∃ c, s.calls[t]? = some c ∧ c.point.locks = true

theorem shared_onGroups {g : Groups} (built : s.groups = [g]) (f : Groups → Groups) :
    (s.onGroups 0 f).shared = { s.shared with groups := [f g] } := by
  simp [System.onGroups, System.shared, built]

/-- What a move does to what the calls share. -/
theorem Move.touch (move : Move config world t s c s₁ c')
    (holds : Holding s.shared t c c.point)
    (stands : Standing config bindings s.localAddress c c.point) :
    Touch s.shared c s₁.shared := by
  have shut {stage : ShutdownStage} {n : Nat} {after : After} {port : Option Port}
      (here : c.point = .shut stage n after port) :
      Touch s.shared c (s.onGroups n stage.run).shared := by
    rw [here] at holds stands
    obtain ⟨rfl, empty, ⟨g, built, -⟩, aborted⟩ := holds
    cases port with
    | none =>
      obtain ⟨ending, -, begun, -⟩ := stands
      exact .aborting begun.2.1 (aborted rfl)
    | some port =>
      rw [shared_onGroups built]
      exact .shutting (stands.past rfl) empty built
  cases move with
  | initialized here opens => exact .early (.inl opens)
  | begun here opens => exact .early (.inr opens)
  | built here | stored here | locked here | missed here | marked here | aborted here =>
    rw [here] at holds stands
    exact .starting (stands.past rfl) holds.1
  | abortedTaken here free =>
    rw [here] at holds stands
    exact .aborting (stands.past rfl) holds.1
  | spawned here =>
    rw [here] at holds stands
    obtain ⟨-, stored, -, rfl⟩ := holds
    rw [shared_onGroups stored.1]
    exact .spawning (stands.past rfl) stored
  | unlocked here =>
    rw [here] at holds stands
    obtain ⟨-, -, -, full, built⟩ := holds
    exact .unlocking (stands.past rfl) full built
  | stopBegun here opens => exact .stopping opens
  | taken here free =>
    rw [here] at stands
    exact .taking (stands.past rfl) free
  | shut here goesOn => exact shut here
  | shutLast here last => exact shut here
  | _ => exact .nothing

/-- There are no groups but those that were built first. -/
theorem Custody.only {n : Nat} {g : Groups} (custody : Custody s)
    (present : s.groups[n]? = some g) : n = 0 ∧ s.groups = [g] := by
  have built := custody.built
  obtain ⟨hlt, hg⟩ := List.getElem?_eq_some_iff.mp present
  obtain rfl : n = 0 := by omega
  obtain ⟨only, groups⟩ := List.length_eq_one_iff.mp (show s.groups.length = 1 by omega)
  obtain rfl : only = g := by simpa [groups] using present
  exact ⟨rfl, groups⟩

/-- A loop that is over broke off, or its groups were taken and the workers are
down. -/
theorem Custody.released {n : Nat} (custody : Custody s)
    (isOver : (s.groups[n]?).any (·.loop.isOver) = true) : s.shared.Released ∧ n = 0 := by
  cases present : s.groups[n]? with
  | none => simp [present] at isOver
  | some g =>
    obtain ⟨first, only⟩ := custody.only present
    refine ⟨⟨g, only, ?_⟩, first⟩
    have member : g ∈ s.groups := by simp [only]
    have orderly := custody.orderly g member
    cases loop : g.loop with
    | broken => exact .inl loop
    | ended =>
      have down := orderly.accept (orderly.loop loop)
      exact .inr ⟨(custody.emptied g member (orderly.down down)).1, down⟩
    | _ => simp [present, loop, Loop.isOver] at isOver

/-- A call that won neither a start nor a stop promises nothing at its end. -/
theorem Holding.ended_idle (unbegun : .beginStart ∉ c.won) (unstopped : .beginStop ∉ c.won)
    (x : Shared) (ending : Ending) : Holding x t c (.ended ending) :=
  ⟨fun begun => absurd begun unbegun, fun stopped => absurd stopped unstopped⟩

/-- A start that aborted leaves the server shut down, and the groups, if there
are any, as well. -/
theorem Winners.ended_aborted {x : Shared} (winners : Winners s) (present : s.calls[t]? = some c)
    (phase : x.phase = s.phase) (aborted : .abortStart ∈ c.won) (empty : x.slot = none)
    (left : x.groups = [] ∨ x.Built Groups.Down) (ending : Ending) :
    Holding x t c (.ended ending) := by
  have unstopped : .beginStop ∉ c.won := (winners.aborted present present aborted).2
  refine ⟨fun _ => ⟨phase.trans (winners.shutdown present aborted rfl), ?_, fun _ => ⟨empty, ?_⟩⟩,
    fun stopped => absurd stopped unstopped⟩
  · rcases left with none | ⟨g, built, down⟩
    · exact .inl ⟨none, empty⟩
    · exact .inr ⟨g, built, .inr ⟨empty, down.workers⟩⟩
  · rcases left with none | ⟨g, built, down⟩
    · simp [none]
    · simpa [built] using down

/-- A start that marked the server leaves it shut down. -/
theorem Winners.ended_marked (winners : Winners s) (present : s.calls[t]? = some c)
    (marked : .markStarted ∈ c.won) (notStarted : s.phase ≠ .started)
    (released : s.shared.Released) (unstopped : .beginStop ∉ c.won) (ending : Ending) :
    Holding s.shared t c (.ended ending) := by
  have phase : s.phase = .shutdown := (winners.marked present marked).resolve_left notStarted
  refine ⟨fun _ => ⟨phase, .inr released, fun aborted => ?_⟩,
    fun stopped => absurd stopped unstopped⟩
  exact absurd marked (winners.aborted present present aborted).1

/-- A stage of a shutdown leaves the groups to the next one. -/
theorem Custody.runs {stage : ShutdownStage} {n : Nat} {after : After} {port : Option Port}
    (custody : Custody s) (holds : Holding s.shared t c (.shut stage n after port)) :
    n = 0 ∧ s.slot = none ∧ ∃ g,
      (s.onGroups n stage.run).shared = { s.shared with groups := [g] } ∧ stage.Leaves g := by
  obtain ⟨rfl, empty, ⟨g, built, awaits⟩, -⟩ := holds
  have member : g ∈ s.groups := by
    rw [show s.groups = [g] from built]
    exact List.mem_singleton_self g
  exact ⟨rfl, empty, stage.run g, shared_onGroups built _,
    ShutdownStage.run_leaves (custody.orderly g member) awaits⟩

/-- **What a call relies on behind its own step.** -/
theorem Move.holding (move : Move config world t s c s₁ c') (present : s.calls[t]? = some c)
    (custody : Custody s) (winners : Winners s)
    (stands : Standing config bindings s.localAddress c c.point) :
    Holding s₁.shared t c' c'.point := by
  have holds := custody.holding t c present
  have unwon {edge : Transition} (out : edge ∉ c.point.winnable) : edge ∉ c.won :=
    fun won => out (custody.winnable c (List.mem_of_getElem? present) edge won)
  cases move with
  | initialized here opens =>
    rw [here] at stands
    obtain ⟨-, none, -⟩ := stands
    show Holding _ t _ (if c.kind = .boot then Point.attemptStart else .returned (.ok ()))
    split
    · trivial
    · refine ⟨?_, ?_⟩ <;> simp [none]
  | notInitialized here closed | notBegun here closed =>
    refine Holding.ended_idle ?_ ?_ _ _ <;> exact unwon (by rw [here]; decide)
  | begun here opens => exact ⟨rfl, custody.early (.inr opens)⟩
  | buildCrashed here =>
    rw [here] at holds
    exact .inl ⟨holds.1, .inl holds.2⟩
  | built here =>
    rw [here] at holds
    obtain ⟨starting, none, empty⟩ := holds
    have none : s.groups = [] := none
    refine ⟨starting, ?_, ?_, empty⟩
    · simp [none]
    · simp [System.shared, none]
  | notBuilt here =>
    rw [here] at holds
    exact ⟨holds.1, .inl holds.2⟩
  | stored here free =>
    rw [here] at holds
    obtain ⟨starting, rfl, built, -⟩ := holds
    exact ⟨starting, built, rfl⟩
  | bindCrashed here =>
    rw [here] at holds
    exact .inl ⟨holds.1, .inr holds.2⟩
  | notBound here | notLookedUp here =>
    rw [here] at holds
    exact ⟨holds.1, .inr holds.2⟩
  | bound here | lookedUp here | poolPublished here | addressPublished here | announced here
  | portRead here =>
    rw [here] at holds
    exact holds
  | locked here free =>
    rw [here] at holds
    exact ⟨holds.1, holds.2, rfl⟩
  | @found address g here full =>
    rw [here] at holds
    obtain ⟨starting, stored, locked⟩ := holds
    obtain rfl : g = 0 := Option.some.inj (full.symm.trans stored.2)
    exact ⟨starting, stored, locked, rfl⟩
  | missed here empty =>
    rw [here] at holds
    obtain ⟨-, stored, -⟩ := holds
    exact absurd (empty.symm.trans stored.2) (by simp)
  | marked here opens =>
    rw [here] at holds
    exact ⟨by simp [Call.goto, Call.win], holds.2⟩
  | notMarked here closed =>
    rw [here] at holds
    exact absurd holds.1 closed
  | spawned here =>
    rw [here] at holds
    obtain ⟨marked, stored, locked, rfl⟩ := holds
    rw [shared_onGroups stored.1]
    exact ⟨marked, locked, rfl, stored.2, _, rfl, rfl, by simp⟩
  | unlocked here =>
    rw [here] at holds
    exact ⟨holds.1, holds.2.2.1⟩
  | loopEnded here isOver =>
    rw [here] at holds
    exact .inr ⟨holds.1, (custody.released isOver).1⟩
  | failureReported here =>
    rw [here] at holds
    exact .inl holds
  | cleanStarting here starting =>
    rw [here] at holds
    rcases holds with aborts | ⟨marked, -⟩
    · exact aborts
    · rcases winners.marked present marked with started | shutdown
      · simp [starting] at started
      · simp [starting] at shutdown
  | cleanStarted here started =>
    rw [here] at holds
    rcases holds with ⟨starting, -⟩ | isOver
    · exact absurd (started.symm.trans starting) (by decide)
    · exact isOver
  | @clean ending here notStarting notStarted =>
    rw [here] at holds
    rcases holds with ⟨starting, -⟩ | ⟨marked, released⟩
    · exact absurd starting notStarting
    · exact winners.ended_marked present marked notStarted released
        (unwon (by simp [here, Point.winnable])) ending
  | aborted here opens =>
    rw [here] at holds
    exact ⟨by simp [Call.goto, Call.win], holds.2⟩
  | notAborted here closed =>
    rw [here] at holds
    exact absurd holds.1 closed
  | @abortedTaken ending here free =>
    rw [here] at holds
    obtain ⟨aborted, unbuilt | stored⟩ := holds
    · have empty : s.slot = none := unbuilt.2
      show Holding _ t _ (After.taken _ s.slot _)
      rw [empty]
      exact winners.ended_aborted (x := { s.shared with slot := none }) present rfl aborted rfl
        (.inl unbuilt.1) ending
    · have full : s.slot = some 0 := stored.2
      show Holding _ t _ (After.taken _ s.slot _)
      rw [full]
      exact ⟨rfl, rfl, ⟨.fresh, stored.1, rfl⟩, fun _ => aborted⟩
  | stopBegun here opens => exact custody.started opens
  | @stopLost after here closed =>
    rw [here] at holds
    cases after with
    | reply => refine Holding.ended_idle ?_ ?_ _ _ <;> exact unwon (by rw [here]; decide)
    | finish ending =>
      exact winners.ended_marked present holds.1 closed holds.2
        (unwon (by simp [here, Point.winnable])) ending
  | @taken after port here free =>
    rw [here] at holds
    obtain ⟨full, g, built, unshut, -⟩ := holds
    have full : s.slot = some 0 := full
    show Holding _ t _ (after.taken s.slot (some port))
    rw [full]
    exact ⟨rfl, rfl, ⟨g, built, unshut⟩, by simp⟩
  | @shut stage next n after port here goesOn =>
    rw [here] at holds
    obtain ⟨first, empty, g, shared, leaves⟩ := custody.runs holds
    rw [ShutdownStage.Leaves, goesOn] at leaves
    rw [shared]
    exact ⟨first, empty, ⟨g, rfl, leaves⟩, holds.2.2.2⟩
  | @shutLast stage n after port here last =>
    rw [here] at holds stands
    obtain ⟨-, empty, g, shared, down⟩ := custody.runs holds
    rw [ShutdownStage.Leaves, last] at down
    rw [shared]
    cases port with
    | some port => exact ⟨empty, g, rfl, down⟩
    | none =>
      obtain ⟨ending, rfl, -, -⟩ := stands
      exact winners.ended_aborted present rfl (holds.2.2.2 rfl) empty (.inr ⟨g, rfl, down⟩) ending
  | @confirmed after port here =>
    rw [here] at holds stands
    obtain ⟨empty, g, built, down⟩ := holds
    cases after with
    | reply =>
      obtain ⟨⟨-, won, -⟩, -⟩ := stands
      refine ⟨fun begun => ?_, fun _ => ⟨empty, g, built, down⟩⟩
      have begun : .beginStart ∈ c.won := begun
      simp [won] at begun
    | finish ending =>
      obtain ⟨begun, -, stopped⟩ := stands.1
      have phase := winners.shutdown present (stopped .beginStop (by simp)) rfl
      refine ⟨fun _ => ⟨phase, .inr ⟨g, built, .inr ⟨empty, down.workers⟩⟩, ?_⟩, ?_⟩
      · intro aborted
        exact ⟨empty, by simpa [show s.shared.groups = [g] from built] using down⟩
      · intro _
        exact ⟨empty, g, built, down⟩

/-- What a step of a call does to the groups. -/
inductive Regroup (s : System) (c : Call) (s₁ : System) : Prop
  | kept (same : s₁.groups = s.groups)
  | built (starting : s.phase = .starting) (none : s.groups = []) (one : s₁.groups = [.fresh])
  | spawned (marked : .markStarted ∈ c.won) (one : s.groups = [.fresh])
      (spawned : s₁.groups = [{ Groups.fresh with loop := .waiting }])
  | shut {stage : ShutdownStage} {g : Groups} {edge : Transition} (won : edge ∈ c.won)
      (last : edge.target = .shutdown) (one : s.groups = [g]) (awaits : stage.Awaits g)
      (empty : s₁.slot = none) (run : s₁.groups = [stage.run g])

theorem Move.regroup (move : Move config world t s c s₁ c')
    (holds : Holding s.shared t c c.point)
    (stands : Standing config bindings s.localAddress c c.point) : Regroup s c s₁ := by
  have shut {stage : ShutdownStage} {g : Nat} {after : After} {port : Option Port}
      (here : c.point = .shut stage g after port) : Regroup s c (s.onGroups g stage.run) := by
    rw [here] at holds stands
    obtain ⟨rfl, empty, ⟨g, one, awaits⟩, aborted⟩ := holds
    have run : (s.onGroups 0 stage.run).groups = [stage.run g] :=
      congrArg Shared.groups (shared_onGroups one stage.run)
    cases port with
    | none => exact .shut (aborted rfl) rfl one awaits empty run
    | some port => exact .shut (stands.past rfl) rfl one awaits empty run
  cases move with
  | built here =>
    rw [here] at holds
    obtain ⟨starting, none, -⟩ := holds
    have none : s.groups = [] := none
    exact .built starting none (by simp [none])
  | spawned here =>
    rw [here] at holds
    obtain ⟨marked, stored, -, rfl⟩ := holds
    exact .spawned marked stored.1 (congrArg Shared.groups (shared_onGroups stored.1 _))
  | shut here goesOn => exact shut here
  | shutLast here last => exact shut here
  | _ => exact .kept rfl

/-- The slot is filled while the server is starting, and emptied when it is shut
down. -/
def SlotMove (s s₁ : System) : Prop :=
  s₁.slot = s.slot ∨ (s.phase = .starting ∧ s.slot = none) ∨
    (s.phase = .shutdown ∧ s₁.slot = none)

theorem Move.slot (move : Move config world t s c s₁ c') (winners : Winners s)
    (present : s.calls[t]? = some c) (holds : Holding s.shared t c c.point)
    (stands : Standing config bindings s.localAddress c c.point) :
    SlotMove s s₁ := by
  cases move with
  | stored here free =>
    rw [here] at holds
    exact .inr (.inl ⟨holds.1, holds.2.2.2⟩)
  | abortedTaken here free =>
    rw [here] at holds
    exact .inr (.inr ⟨winners.shutdown present holds.1 rfl, rfl⟩)
  | taken here free =>
    rw [here] at stands
    exact .inr (.inr ⟨winners.shutdown present (stands.past rfl) rfl, rfl⟩)
  | _ => exact .inl rfl

theorem Move.stays_shutdown (move : Move config world t s c s₁ c') (phase : s.phase = .shutdown) :
    s₁.phase = .shutdown := by
  rcases move.wins with ⟨-, same⟩ | ⟨edge, -, source, -⟩
  · exact same.trans phase
  · rw [phase] at source
    cases edge <;> simp [Transition.source] at source

theorem Move.locks (move : Move config world t s c s₁ c') (lock : s₁.lockedBy = some j) :
    (j = t ∧ c'.point.locks = true) ∨
      (s.lockedBy = some j ∧ (c.point.locks = true → c'.point.locks = true)) := by
  cases move with
  | locked here free => exact .inl ⟨(Option.some.inj lock).symm, rfl⟩
  | missed here empty => simp at lock
  | unlocked here => simp at lock
  | found here | marked here | notMarked here | spawned here => exact .inr ⟨lock, fun _ => rfl⟩
  | _ here =>
    refine .inr ⟨lock, fun locks => ?_⟩
    simp [here, Point.locks] at locks

/-- A server that stays started goes on to serve. -/
theorem Touch.serves {y : Shared} (touch : Touch s.shared c y) (winners : Winners s)
    (present : s.calls[t]? = some c) (started : s.phase = .started) (stays : y.phase = .started)
    (serves : s.shared.Serves) : y.Serves := by
  have phase : s.shared.phase = .started := started
  have unshut {edge : Transition} (won : edge ∈ c.won) : edge.target ≠ .shutdown := by
    intro last
    simp [winners.shutdown present won last] at started
  cases touch with
  | nothing => exact serves
  | early early => simp [phase] at early
  | starting begun starting => simp [phase] at starting
  | aborting begun aborted => exact absurd rfl (unshut aborted)
  | spawning begun stored => exact ⟨stored.2, _, rfl, rfl, fun _ => by simp⟩
  | unlocking begun full built =>
    obtain ⟨g, built, unshut, spawned⟩ := built
    exact ⟨full, g, built, unshut, fun _ => spawned⟩
  | stopping started => simp at stays
  | taking stopped free => exact absurd rfl (unshut stopped)
  | shutting stopped empty built => exact absurd rfl (unshut stopped)

theorem wins_move (move : Move config world t s c s₁ c') (present : s.calls[t]? = some c)
    {edge : Transition} (won : edge ∈ s.wins) : edge ∈ (s₁.place t c').wins := by
  rcases move.wins_place present with ⟨same, -⟩ | ⟨edge', more, -, -⟩
  · exact same.mem_iff.mpr won
  · exact more.mem_iff.mpr (List.mem_append_left _ won)

theorem Regroup.length_le_one (regroup : Regroup s c s₁) (custody : Custody s) :
    s₁.groups.length ≤ 1 := by
  cases regroup with
  | kept same =>
    rw [same]
    exact custody.built
  | built starting none one => simp [one]
  | spawned marked one spawned => simp [spawned]
  | shut won last one awaits empty run => simp [run]

theorem Regroup.orderly (regroup : Regroup s c s₁) (custody : Custody s) :
    ∀ g ∈ s₁.groups, g.Orderly := by
  intro g hg
  cases regroup with
  | kept same =>
    rw [same] at hg
    exact custody.orderly g hg
  | built starting none one =>
    obtain rfl : g = .fresh := by simpa [one] using hg
    exact Groups.orderly_fresh
  | spawned marked one spawned =>
    obtain rfl : g = { Groups.fresh with loop := .waiting } := by simpa [spawned] using hg
    exact { Groups.orderly_fresh with loop := by simp }
  | @shut stage g₀ edge won last one awaits empty run =>
    obtain rfl : g = stage.run g₀ := by simpa [run] using hg
    exact ShutdownStage.run_orderly (custody.orderly g₀ (by simp [one])) awaits

theorem Regroup.dormant (regroup : Regroup s c s₁) (custody : Custody s) (member : c ∈ s.calls)
    (unmarked : .markStarted ∉ s.wins) : ∀ g ∈ s₁.groups, g.Dormant := by
  have dormant := custody.dormant unmarked
  intro g hg
  cases regroup with
  | kept same =>
    rw [same] at hg
    exact dormant g hg
  | built starting none one =>
    obtain rfl : g = .fresh := by simpa [one] using hg
    exact Groups.dormant_fresh
  | spawned marked one spawned =>
    exact absurd (List.mem_flatMap.mpr ⟨c, member, marked⟩) unmarked
  | @shut stage g₀ edge won last one awaits empty run =>
    obtain rfl : g = stage.run g₀ := by simpa [run] using hg
    exact ShutdownStage.run_dormant (dormant g₀ (by simp [one]))

theorem Custody.move_early (custody : Custody s) (move : Move config world t s c s₁ c')
    (slot : SlotMove s s₁)
    (regroup : Regroup s c s₁) (early : s₁.phase = .created ∨ s₁.phase = .initialized) :
    s₁.shared.Unbuilt := by
  have early := move.early early
  have notStarting : s.phase ≠ .starting := by
    rcases early with created | initialized
    · simp [created]
    · simp [initialized]
  obtain ⟨none, empty⟩ : s.groups = [] ∧ s.slot = none := custody.early early
  constructor
  · show s₁.groups = []
    cases regroup with
    | kept same => exact same.trans none
    | built starting => exact absurd starting notStarting
    | spawned marked one => simp [none] at one
    | shut won last one => simp [none] at one
  · rcases slot with same | ⟨starting, -⟩ | ⟨-, emptied⟩
    · exact same.trans empty
    · exact absurd starting notStarting
    · exact emptied

theorem Custody.move_started (custody : Custody s) (winners : Winners s)
    (present : s.calls[t]? = some c) (move : Move config world t s c s₁ c')
    (holds : Holding s.shared t c c.point) (touch : Touch s.shared c s₁.shared)
    (started : s₁.phase = .started) : s₁.shared.Serves := by
  rcases move.marks started with before | ⟨address, g, here, -⟩
  · exact touch.serves winners present before started (custody.started before)
  · rw [here] at holds
    obtain ⟨starting, stored, locked, -⟩ := holds
    cases move with
    | marked =>
      refine ⟨stored.2, .fresh, stored.1, rfl, fun free => ?_⟩
      exact absurd (free.symm.trans locked) (by simp)
    | notMarked there closed => exact absurd starting closed
    | _ there => simp [there] at here

theorem Custody.move_emptied (custody : Custody s) (winners : Winners s)
    (present : s.calls[t]? = some c) (move : Move config world t s c s₁ c')
    (slot : SlotMove s s₁)
    (regroup : Regroup s c s₁) :
    ∀ g ∈ s₁.groups, g.shutdowns = 1 → s₁.slot = none ∧ s₁.phase = .shutdown := by
  intro g hg begun
  cases regroup with
  | kept same =>
    rw [same] at hg
    obtain ⟨empty, phase⟩ := custody.emptied g hg begun
    refine ⟨?_, move.stays_shutdown phase⟩
    rcases slot with same | ⟨starting, -⟩ | ⟨-, emptied⟩
    · exact same.trans empty
    · simp [phase] at starting
    · exact emptied
  | built starting none one =>
    obtain rfl : g = .fresh := by simpa [one] using hg
    simp [Groups.fresh] at begun
  | spawned marked one spawned =>
    obtain rfl : g = { Groups.fresh with loop := .waiting } := by simpa [spawned] using hg
    simp [Groups.fresh] at begun
  | shut won last one awaits empty run =>
    exact ⟨empty, move.stays_shutdown (winners.shutdown present won last)⟩

theorem Custody.move_locked (custody : Custody s) (present : s.calls[t]? = some c)
    (move : Move config world t s c s₁ c') (lock : s₁.lockedBy = some j) :
    ∃ d, (s₁.place t c').calls[j]? = some d ∧ d.point.locks = true := by
  have placed : (s₁.place t c').calls[t]? = some c' := by
    obtain ⟨hlt, -⟩ := List.getElem?_eq_some_iff.mp present
    simp [System.place, move.calls, hlt]
  rcases move.locks lock with ⟨rfl, locks⟩ | ⟨lock, keeps⟩
  · exact ⟨c', placed, locks⟩
  · obtain ⟨d, old, locks⟩ := custody.locked j lock
    by_cases same : t = j
    · subst same
      obtain rfl : c = d := Option.some.inj (present.symm.trans old)
      exact ⟨c', placed, keeps locks⟩
    · refine ⟨d, ?_, locks⟩
      simpa [System.place, move.calls, List.getElem?_set, same] using old

theorem Custody.move (custody : Custody s) (settled : Settled config s bindings)
    (present : s.calls[t]? = some c) (move : Move config world t s c s₁ c') :
    Custody (s₁.place t c') := by
  have winners := settled.winners
  have member : c ∈ s.calls := List.mem_of_getElem? present
  have holds := custody.holding t c present
  have stands := settled.standing c member
  have touch := move.touch holds stands
  have regroup := move.regroup holds stands
  have slot := move.slot winners present holds stands
  have early : s₁.phase = .created ∨ s₁.phase = .initialized → s₁.shared.Unbuilt :=
    custody.move_early move slot regroup
  have started : s₁.phase = .started → s₁.shared.Serves :=
    custody.move_started winners present move holds touch
  have emptied := custody.move_emptied winners present move slot regroup
  refine
    { holding := ?_
      winnable := ?_
      built := regroup.length_le_one custody
      orderly := regroup.orderly custody
      early := early
      started := started
      emptied := emptied
      dormant := ?_
      locked := fun j lock => custody.move_locked present move lock }
  · intro j d placed
    rcases System.place_calls_cases placed with ⟨rfl, rfl⟩ | ⟨other, old⟩
    · exact move.holding present custody winners stands
    · rw [move.calls] at old
      exact touch.holding winners present old other (custody.holding j d old)
        (settled.standing d (List.mem_of_getElem? old))
  · intro d hd
    obtain ⟨j, placed⟩ := List.mem_iff_getElem?.mp hd
    rcases System.place_calls_cases placed with ⟨rfl, rfl⟩ | ⟨-, old⟩
    · exact move.winnable (custody.winnable c member)
    · rw [move.calls] at old
      exact custody.winnable d (List.mem_of_getElem? old)
  · intro unmarked
    exact regroup.dormant custody member fun marked => unmarked (wins_move move present marked)

/-! ## Runs -/

theorem Custody.enter (custody : Custody s) (kind : Kind) (listened : Bool) :
    Custody (s.enter kind listened) := by
  have split (j : Nat) (d : Call) (entered : (s.enter kind listened).calls[j]? = some d) :
      s.calls[j]? = some d ∨ (d.point = kind.entry ∧ d.won = []) := by
    rcases Nat.lt_or_ge j s.calls.length with old | anew
    · left
      simpa [System.enter, List.getElem?_append_left old] using entered
    · right
      simp only [System.enter, List.getElem?_append_right anew, List.getElem?_singleton] at entered
      split at entered
      · cases entered
        exact ⟨rfl, rfl⟩
      · cases entered
  refine { custody with holding := ?_, winnable := ?_, dormant := ?_, locked := ?_ }
  · intro j d entered
    rcases split j d entered with old | ⟨here, -⟩
    · exact custody.holding j d old
    · rw [here]
      cases kind <;> trivial
  · intro d hd
    obtain ⟨j, entered⟩ := List.mem_iff_getElem?.mp hd
    rcases split j d entered with old | ⟨-, none⟩
    · exact custody.winnable d (List.mem_of_getElem? old)
    · simp [none]
  · intro unmarked
    apply custody.dormant
    simpa [System.wins, System.enter] using unmarked
  · intro j lock
    obtain ⟨d, old, locks⟩ := custody.locked j lock
    obtain ⟨hlt, -⟩ := List.getElem?_eq_some_iff.mp old
    exact ⟨d, by simpa [System.enter, List.getElem?_append_left hlt] using old, locks⟩

theorem Shared.Serves.stir {x : Shared} {g g' : Groups} (serves : x.Serves) (stir : g.Stir g')
    (built : x.groups = [g]) : ({ x with groups := [g'] } : Shared).Serves := by
  obtain ⟨unshut, spawned⟩ := serves.2.of_groups built
  exact ⟨serves.1, g', rfl, stir.shutdowns.trans unshut, fun free => stir.spawned (spawned free)⟩

/-- What a call relies on stays when the loop or a task goes on. -/
theorem Holding.stir {x : Shared} {g g' : Groups} (stir : g.Stir g') (built : x.groups = [g])
    (holds : Holding x j d point) : Holding { x with groups := [g'] } j d point := by
  have notUnbuilt : ¬ x.Unbuilt := fun unbuilt => by simp [unbuilt.1] at built
  have notFresh : x.groups ≠ [.fresh] := by
    intro fresh
    obtain rfl : g = .fresh := by simpa [built] using fresh
    exact stir.not_dormant Groups.dormant_fresh
  have notStored : ¬ x.Stored := fun stored => notFresh stored.1
  have released (isOver : x.Released) : ({ x with groups := [g'] } : Shared).Released := by
    refine ⟨g', rfl, (isOver.of_groups built).imp stir.broken ?_⟩
    exact fun ⟨empty, down⟩ => ⟨empty, stir.workers.trans down⟩
  have down (isOver : x.Built Groups.Down) :
      ({ x with groups := [g'] } : Shared).Built Groups.Down :=
    ⟨g', rfl, stir.down (isOver.of_groups built)⟩
  cases point with
  | build => exact absurd holds.2 notUnbuilt
  | store => exact absurd holds.2.2.1 notFresh
  | bind | lookUp | publishPool | publishAddress | lock => exact absurd holds.2 notStored
  | inspect | markStarted | spawn => exact absurd holds.2.1 notStored
  | reportFailure | abort | takeAborted => exact absurd holds.2 (not_or.mpr ⟨notUnbuilt, notStored⟩)
  | unlock address n =>
    obtain ⟨marked, locked, first, full, one⟩ := holds
    obtain ⟨unshut, spawned⟩ := one.of_groups built
    exact ⟨marked, locked, first, full, g', rfl, stir.shutdowns.trans unshut, stir.spawned spawned⟩
  | cleanUp ending =>
    rcases holds with ⟨-, aborts⟩ | ⟨marked, isOver⟩
    · exact absurd aborts (not_or.mpr ⟨notUnbuilt, notStored⟩)
    · exact .inr ⟨marked, released isOver⟩
  | attemptStop after =>
    cases after with
    | reply => trivial
    | finish ending => exact ⟨holds.1, released holds.2⟩
  | readPort | take => exact Shared.Serves.stir holds stir built
  | shut stage n after port =>
    obtain ⟨first, empty, one, aborted⟩ := holds
    exact ⟨first, empty, ⟨g', rfl, stir.awaits (one.of_groups built)⟩, aborted⟩
  | confirm => exact ⟨holds.1, down holds.2⟩
  | ended ending =>
    refine ⟨fun begun => ?_, fun stopped => ⟨(holds.2 stopped).1, down (holds.2 stopped).2⟩⟩
    obtain ⟨phase, isOver, aborted⟩ := holds.1 begun
    refine ⟨phase, .inr (released (isOver.resolve_left notUnbuilt)), fun won => ?_⟩
    obtain ⟨empty, all⟩ := aborted won
    exact ⟨empty, by simpa using stir.down (all g (by simp [built]))⟩
  | _ => exact holds

theorem Custody.stir {n : Nat} {g g' : Groups} (custody : Custody s)
    (present : s.groups[n]? = some g) (stir : g.Stir g') :
    Custody { s with groups := s.groups.set n g' } := by
  obtain ⟨rfl, built⟩ := custody.only present
  have set : s.groups.set 0 g' = [g'] := by simp [built]
  have member : g ∈ s.groups := by simp [built]
  rw [set]
  refine
    { custody with
      holding := fun j d hj => (custody.holding j d hj).stir stir built
      built := by simp
      orderly := ?_
      early := ?_
      started := fun started => (custody.started started).stir stir built
      emptied := ?_
      dormant := ?_ }
  · intro g₁ hg₁
    obtain rfl := List.mem_singleton.mp hg₁
    exact stir.orderly (custody.orderly g member)
  · intro early
    obtain ⟨none, -⟩ : s.groups = [] ∧ s.slot = none := custody.early early
    simp [built] at none
  · intro g₁ hg₁ begun
    obtain rfl := List.mem_singleton.mp hg₁
    exact custody.emptied g member (stir.shutdowns.symm.trans begun)
  · intro unmarked
    exact absurd (custody.dormant unmarked g member) stir.not_dormant

theorem Custody.step {label : Label} (custody : Custody s) (settled : Settled config s bindings)
    (made : s.step config label = some s') : Custody s' := by
  cases step_cases made with
  | called kind listened => exact custody.enter kind listened
  | moved present move => exact custody.move settled present move
  | looped present goes => exact custody.stir present (Groups.loopStep_stir goes)
  | tasked present goes => exact custody.stir present (Groups.taskStep_stir goes)

theorem Custody.fresh : Custody .fresh := by
  constructor <;> simp [System.fresh, System.shared, Shared.Unbuilt]

/-- **Who has the thread groups**, in every reachable state. -/
theorem Reachable.custody (reachable : Reachable config s) : Custody s := by
  induction reachable with
  | new => exact .fresh
  | step label before made ih =>
    obtain ⟨bindings, history⟩ := before.history
    exact ih.step history.settled made

end PacketServer.Server
