import PacketServer.Proofs.Server.Custody

/-!
# Ownership of the thread groups

Whatever the calls on a server do at once, its thread groups are built once at
most and shut down once at most. Nobody empties the slot while the server is
starting, so a start finds in the slot what it put there. A started server has
its groups in the slot, with the accept loop spawned by the time that the slot
can be locked, so the stop that wins finds them and takes both groups down. A
start that won leaves a server that is shut down, and if its loop has not
broken off, an empty slot and no workers.

## Main results

* `Custody.keeps_slot` — nobody empties the slot of a starting server.
* `Custody.unlocks` — who has the lock can go on.
* `Custody.takes` — the stop that won finds the groups.
* `Reachable.ownership` — who owns the groups in any reachable state.
-/

namespace PacketServer.Server

variable {config : Config} {s s' : System} {bindings : List Address} {t : Nat} {c : Call}

theorem History.reachable (history : History config s bindings) : Reachable config s := by
  induction history with
  | new => exact .new
  | step label before made ih => exact .step label ih made

/-- The slot holds groups that are up and not told to end, and their accept
loop was spawned. -/
def System.IsServing (s : System) : Prop :=
  ∃ n g, s.slot = some n ∧ s.groups[n]? = some g ∧ g.loop ≠ .absent ∧ g.shutdowns = 0 ∧
    g.workersUp = true ∧ g.acceptCancelled = false

theorem Custody.isServing (custody : Custody s) (serves : s.shared.Serves)
    (free : s.lockedBy = none) : s.IsServing := by
  obtain ⟨full, g, built, unshut, spawned⟩ := serves
  have built : s.groups = [g] := built
  have orderly := custody.orderly g (by simp [built])
  have up : g.workersUp = true := by
    cases up : g.workersUp with
    | true => rfl
    | false => simp [orderly.down up] at unshut
  have accepts : g.acceptCancelled = false := by
    cases accepts : g.acceptCancelled with
    | false => rfl
    | true => simp [orderly.accept accepts] at up
  exact ⟨0, g, full, by simp [built], spawned free, unshut, up, accepts⟩

/-- **Nobody empties the slot while the server is starting.** -/
theorem Custody.keeps_slot {label : Label} (custody : Custody s)
    (settled : Settled config s bindings) (starting : s.phase = .starting)
    (full : s.slot.isSome = true) (made : s.step config label = some s') :
    s'.slot = s.slot := by
  cases step_cases made with
  | called kind listened => rfl
  | @moved t world c c' s₁ present move =>
    have stands := settled.standing c (List.mem_of_getElem? present)
    have holds := custody.holding t c present
    rcases move.slot settled.winners present holds stands with same | ⟨-, empty⟩ | ⟨phase, -⟩
    · exact same
    · simp [empty] at full
    · simp [starting] at phase
  | looped present goes => rfl
  | tasked present goes => rfl

/-- **Who has the lock can go on**: no step in between waits for anybody. -/
theorem Custody.unlocks (custody : Custody s) (settled : Settled config s bindings)
    (lock : s.lockedBy = some t) :
    ∃ c, s.calls[t]? = some c ∧ .beginStart ∈ c.won ∧ c.point.locks = true ∧
      ∀ world, (s.step config (.advance t world)).isSome = true := by
  obtain ⟨c, present, locks⟩ := custody.locked t lock
  have stands := settled.standing c (List.mem_of_getElem? present)
  refine ⟨c, present, ?_, locks, ?_⟩
  · apply stands.past
    cases here : c.point <;> simp [here, Point.locks] at locks <;> rfl
  · intro world
    show (s.advance config world t).isSome = true
    unfold System.advance
    cases here : c.point <;> simp [here, Point.locks] at locks
    · cases s.slot <;> simp [present, here]
    all_goals simp [present, here]

/-- A start that has begun and has not the lock itself finds it free. -/
theorem Custody.unlocked (custody : Custody s) (settled : Settled config s bindings)
    (present : s.calls[t]? = some c) (begun : .beginStart ∈ c.won)
    (elsewhere : c.point.locks = false) : s.lockedBy = none := by
  refine Option.eq_none_iff_forall_ne_some.mpr fun j lock => ?_
  obtain ⟨d, there, begun', locks, -⟩ := custody.unlocks settled lock
  obtain rfl : j = t := settled.winners.unique there present begun' begun
  obtain rfl : c = d := Option.some.inj (present.symm.trans there)
  simp [elsewhere] at locks

/-- **The stop that won finds the groups** when it has the lock, and goes on to
shut them down. -/
theorem Custody.takes {after : After} {port : Port} (custody : Custody s)
    (present : s.calls[t]? = some c) (here : c.point = .take after port)
    (free : s.lockedBy = none) (world : World) :
    ∃ n s', s.slot = some n ∧ s.step config (.advance t world) = some s' ∧ s'.slot = none ∧
      s'.calls[t]? = some (c.goto (.shut .cancelWorkers n after (some port))) := by
  have holds := custody.holding t c present
  rw [here] at holds
  have full : s.slot = some 0 := holds.1
  have emptied : ({ s with slot := none } : System).calls[t]? = some c := present
  obtain ⟨hlt, -⟩ := List.getElem?_eq_some_iff.mp present
  refine ⟨0, { s with slot := none }.place t (c.goto (.shut .cancelWorkers 0 after (some port))),
    full, ?_, rfl, ?_⟩
  · show s.advance config world t = _
    unfold System.advance
    simp only [present, here, Option.bind_eq_bind, Option.bind_some]
    rw [if_neg (by simp [free]), full]
    exact congrArg some (System.goto_present emptied _)
  · simp [System.place, hlt]

/-- Who owns the thread groups of a server. -/
structure Ownership (config : Config) (s : System) : Prop where
  /-- Groups are built at most once. -/
  built : s.groups.length ≤ 1
  /-- Groups are shut down at most once. -/
  shut : ∀ g ∈ s.groups, g.shutdowns ≤ 1
  /-- While the server is starting nobody empties the slot. -/
  starting : s.phase = .starting → s.slot.isSome = true →
    ∀ label s', s.step config label = some s' → s'.slot = s.slot
  /-- A start that looks into the slot never finds it empty. -/
  inspected : ∀ c ∈ s.calls, ∀ address, c.point = .inspect address → s.slot.isSome = true
  /-- A started server serves by the time that the lock is free. -/
  started : s.phase = .started → s.lockedBy = none → s.IsServing
  /-- The lock is a start's, which can go on to free it. -/
  locked : ∀ t, s.lockedBy = some t → ∃ c, s.calls[t]? = some c ∧ .beginStart ∈ c.won ∧
    c.point.locks = true ∧ ∀ world, (s.step config (.advance t world)).isSome = true
  /-- The call that won a stop finds the groups in the slot, and shuts them down. -/
  taken : ∀ (t : Nat) (c : Call) (after : After) (port : Port), s.calls[t]? = some c →
    c.point = .take after port → s.lockedBy = none → s.IsServing ∧ ∀ world, ∃ n s',
      s.slot = some n ∧ s.step config (.advance t world) = some s' ∧ s'.slot = none ∧
        s'.calls[t]? = some (c.goto (.shut .cancelWorkers n after (some port)))
  /-- Behind the call that won a stop the groups are down. -/
  stopped : ∀ c ∈ s.calls, .beginStop ∈ c.won → c.ending.isSome = true →
    s.slot = none ∧ ∃ g, s.groups = [g] ∧ g.shutdowns = 1 ∧ g.Down
  /-- Behind a start that won the server is shut down, and unless its loop broke
  off the slot is empty and the workers are down, with nothing left to run. -/
  returned : ∀ c ∈ s.calls, .beginStart ∈ c.won → c.ending.isSome = true →
    s.phase = .shutdown ∧ ((∀ g ∈ s.groups, g.loop ≠ .broken) →
      s.slot = none ∧ ∀ g ∈ s.groups, g.shutdowns = 1 ∧ g.workersUp = false ∧
        ∀ task ∈ g.tasks, task.status = .finished ∨ task.status = .dropped)

theorem Call.ended_of_isSome (ended : c.ending.isSome = true) :
    ∃ ending, c.point = .ended ending := by
  obtain ⟨ending, ended⟩ := Option.isSome_iff_exists.mp ended
  exact ⟨ending, Call.point_of_ending ended⟩

/-- **Who owns the thread groups**, however the steps of the calls on a server
interleave, and whatever building, binding and looking up answer. -/
theorem Reachable.ownership (reachable : Reachable config s) : Ownership config s := by
  obtain ⟨bindings, history⟩ := reachable.history
  have settled := history.settled
  have custody := reachable.custody
  refine
    { built := custody.built
      shut := fun g hg => (custody.orderly g hg).shutdowns
      starting := fun starting full label s' made =>
        custody.keeps_slot settled starting full made
      inspected := ?_
      started := fun started free => custody.isServing (custody.started started) free
      locked := fun t lock => custody.unlocks settled lock
      taken := ?_
      stopped := ?_
      returned := ?_ }
  · intro c hc address here
    obtain ⟨t, present⟩ := List.mem_iff_getElem?.mp hc
    have holds := custody.holding t c present
    rw [here] at holds
    have full : s.slot = some 0 := holds.2.1.2
    simp [full]
  · intro t c after port present here free
    have holds := custody.holding t c present
    rw [here] at holds
    exact ⟨custody.isServing holds free, custody.takes present here free⟩
  · intro c hc stopped ended
    obtain ⟨t, present⟩ := List.mem_iff_getElem?.mp hc
    obtain ⟨ending, here⟩ := Call.ended_of_isSome ended
    have holds := custody.holding t c present
    rw [here] at holds
    obtain ⟨empty, g, built, down⟩ := holds.2 stopped
    have built : s.groups = [g] := built
    exact ⟨empty, g, built, (custody.orderly g (by simp [built])).down down.workers, down⟩
  · intro c hc begun ended
    obtain ⟨t, present⟩ := List.mem_iff_getElem?.mp hc
    obtain ⟨ending, here⟩ := Call.ended_of_isSome ended
    have holds := custody.holding t c present
    rw [here] at holds
    obtain ⟨phase, isOver, -⟩ := holds.1 begun
    refine ⟨phase, fun unbroken => ?_⟩
    rcases isOver with ⟨none, empty⟩ | released
    · exact ⟨empty, by simp [show s.groups = [] from none]⟩
    · obtain ⟨g, built, isOver⟩ := released
      have built : s.groups = [g] := built
      have member : g ∈ s.groups := by simp [built]
      obtain ⟨empty, down⟩ := isOver.resolve_left (unbroken g member)
      have orderly := custody.orderly g member
      refine ⟨empty, fun g' hg' => ?_⟩
      obtain rfl : g' = g := by simpa [built] using hg'
      exact ⟨orderly.down down, down, orderly.tasks down⟩

/-- A stop wins while the start that marked the server still has the lock. It
takes the groups when their loop was spawned, and the start returns behind it. -/
theorem ownership_of_stop_before_spawn :
    let config := Config.ofPort none (.number 0)
    let address := Address.ofIp .any4 (.assigned 1)
    let world : World := { bind := .ok address }
    let calls : List Label := [.call .init false, .call .start false, .call .stop false]
    let steps := [0, 1, 1, 1, 1, 1, 1, 1, 1, 1, 1, 2, 2, 1, 1, 2, 2, 2, 2, 2, 2, 2, 2, 2, 1, 1, 1]
    let labels := calls ++ steps.map (Label.advance · world)
    ∃ s, System.fresh.follow config [] labels = some (s, [address]) ∧ Reachable config s ∧
      s.calls.map (·.won) = [[.init], [.beginStart, .markStarted], [.beginStop]] ∧
      s.calls.map (·.ending.isSome) = [true, true, true] ∧ Ownership config s := by
  intro config address world calls steps labels
  have followed : ((System.fresh.follow config [] labels).map fun run =>
      (run.2, run.1.calls.map (·.won), run.1.calls.map (·.ending.isSome))) =
      some ([address], [[.init], [.beginStart, .markStarted], [.beginStop]],
        [true, true, true]) := by
    decide +kernel
  obtain ⟨⟨s, bindings⟩, run, seen⟩ := Option.map_eq_some_iff.mp followed
  simp only [Prod.mk.injEq] at seen
  obtain ⟨rfl, won, ended⟩ := seen
  have reachable : Reachable config s := (History.new.follow run).reachable
  exact ⟨s, run, reachable, won, ended, reachable.ownership⟩

end PacketServer.Server
