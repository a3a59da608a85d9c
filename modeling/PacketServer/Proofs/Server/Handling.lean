import PacketServer.Proofs.Server.Ownership
import PacketServer.Proofs.Server.Reception

/-!
# When handlers run

A handler runs in the task of a connection, and tasks are made by the accept
loop alone. The loop is spawned behind the marking of the server as started, so
nothing is handed over and nothing runs before. A stop that won has taken the
workers down when it returns, and a task that is given to workers that are down
is dropped: whether the loop looks at the workers' token before or behind the
cancelling, no callback runs behind the stop.

## Main results

* `Unstarted.quiet` — nothing happens before the server was started.
* `Silent.step` — workers that are down stay down.
* `System.handling` — when handlers run, and under which numbers.
-/

namespace PacketServer.Server

variable {config : Config} {s s' : System} {arrivals : List Arrival}

/-- The states that a run comes to later on. -/
inductive Later (config : Config) (s : System) : System → Prop
  | refl : Later config s s
  | step {s₁ s₂ : System} (label : Label) (before : Later config s s₁)
      (made : s₁.step config label = some s₂) : Later config s s₂

/-- The states that runs come to before the server is started. -/
inductive Unstarted (config : Config) : System → Prop
  | new : Unstarted config .fresh
  | step {s s' : System} (label : Label) (before : Unstarted config s)
      (made : s.step config label = some s') (still : s'.phase ≠ .started) : Unstarted config s'

/-! ## Before the start -/

theorem Unstarted.reachable (unstarted : Unstarted config s) : Reachable config s := by
  induction unstarted with
  | new => exact .new
  | step label before made still ih => exact .step label ih made

/-- Nobody has marked a server that was never started. -/
theorem Unstarted.unmarked (unstarted : Unstarted config s) : .markStarted ∉ s.wins := by
  induction unstarted with
  | new => simp [System.wins, System.fresh]
  | @step s s' label before made still ih =>
    cases step_cases made with
    | called kind listened => simpa [System.wins, System.enter] using ih
    | looped present goes => exact ih
    | tasked present goes => exact ih
    | @moved t world c c' s₁ present move =>
      rcases move.wins_place present with ⟨same, -⟩ | ⟨edge, more, -, target⟩
      · rw [same.mem_iff]
        exact ih
      · rw [more.mem_iff, List.mem_append, List.mem_singleton]
        rintro (old | rfl)
        · exact ih old
        · exact still target

/-- **Before the server is started** nothing is handed over and nothing runs. -/
theorem Unstarted.quiet (unstarted : Unstarted config s) :
    (∀ g ∈ s.groups, g.tasks = []) ∧ (∀ n action, s.step config (.loop n action) = none) ∧
      ∀ n i action, s.step config (.task n i action) = none := by
  have dormant := unstarted.reachable.custody.dormant unstarted.unmarked
  refine ⟨fun g hg => (dormant g hg).tasks, fun n action => ?_, fun n i action => ?_⟩
  · refine Option.eq_none_iff_forall_ne_some.mpr fun s' made => ?_
    cases step_cases made with
    | looped present goes =>
      exact (Groups.loopStep_stir goes).not_dormant (dormant _ (List.mem_of_getElem? present))
  · refine Option.eq_none_iff_forall_ne_some.mpr fun s' made => ?_
    cases step_cases made with
    | tasked present goes =>
      exact (Groups.taskStep_stir goes).not_dormant (dormant _ (List.mem_of_getElem? present))

/-! ## Behind the stop -/

/-- The workers are down. -/
def Silent (s : System) : Prop := s.shared.Built fun g => g.workersUp = false

/-- **Workers that are down stay down.** -/
theorem Silent.step {label : Label} (silent : Silent s) (reachable : Reachable config s)
    (made : s.step config label = some s') : Silent s' := by
  have custody := reachable.custody
  obtain ⟨g, built, down⟩ := silent
  have built : s.groups = [g] := built
  have stir {n : Nat} {before after : Groups} (present : s.groups[n]? = some before)
      (stir : before.Stir after) : Silent { s with groups := s.groups.set n after } := by
    obtain ⟨rfl, only⟩ := custody.only present
    obtain rfl : before = g := by simpa [built] using only.symm
    refine ⟨after, ?_, stir.workers.trans down⟩
    simp [System.shared, built]
  cases step_cases made with
  | called kind listened => exact ⟨g, built, down⟩
  | @moved t world c c' s₁ present move =>
    obtain ⟨bindings, history⟩ := reachable.history
    have stands := history.settled.standing c (List.mem_of_getElem? present)
    cases move.regroup (custody.holding t c present) stands with
    | kept same => exact ⟨g, same.trans built, down⟩
    | built starting none one => simp [none] at built
    | spawned marked one spawned =>
      obtain rfl : g = .fresh := by simpa [built] using one
      simp [Groups.fresh] at down
    | @shut stage before edge won last one awaits empty run =>
      obtain rfl : g = before := by simpa [built] using one
      exact ⟨stage.run g, run, ShutdownStage.run_workers down⟩
  | looped present goes => exact stir present (Groups.loopStep_stir goes)
  | tasked present goes => exact stir present (Groups.taskStep_stir goes)

theorem Silent.later (silent : Silent s) (reachable : Reachable config s)
    (later : Later config s s') : Reachable config s' ∧ Silent s' := by
  induction later with
  | refl => exact ⟨reachable, silent⟩
  | step label before made ih => exact ⟨.step label ih.1 made, ih.2.step ih.1 made⟩

/-- No task goes on when the workers are down. -/
theorem Silent.quiet (silent : Silent s) (n i : Nat) (action : TaskAction) :
    s.step config (.task n i action) = none := by
  obtain ⟨g, built, down⟩ := silent
  have built : s.groups = [g] := built
  refine Option.eq_none_iff_forall_ne_some.mpr fun s' made => ?_
  cases step_cases made with
  | @tasked n i action before after present goes =>
    have member : before ∈ s.groups := List.mem_of_getElem? present
    obtain rfl : before = g := by simpa [built] using member
    simp [Groups.taskStep, down] at goes

/-! ## Runs -/

/-- When handlers run, and under which numbers. -/
structure Handling (config : Config) (s : System) (arrivals : List Arrival) : Prop where
  /-- Before the server is started no connection is handed to the workers, and
  no callback runs. -/
  unstarted : Unstarted config s → (∀ g ∈ s.groups, g.tasks = []) ∧
    (∀ n, s.step config (.loop n .dispatch) = none) ∧
      ∀ n i, s.step config (.task n i .callback) = none
  /-- Behind a stop that won, no callback runs at any time. -/
  stopped : ∀ c ∈ s.calls, .beginStop ∈ c.won → c.ending.isSome = true →
    ∀ s', Later config s s' → ∀ n i, s'.step config (.task n i .callback) = none
  /-- A connection that meets a cancelled token is dropped, with no number. -/
  refused : ∀ n g peer, s.groups[n]? = some g → g.loop = .checking peer →
    g.workersCancelled = true → ∃ before, arrivals = before ++ [⟨peer, .held⟩] ∧
      s.register arrivals (.loop n .check) = before ++ [⟨peer, .refused⟩] ∧
      s.step config (.loop n .check) =
        some { s with groups := s.groups.set n { g with loop := .waiting } }
  /-- The tasks are the connections handed over, in the order in which they came. -/
  tasks : ∀ g ∈ s.groups, g.tasks.map Task.card = dispatched arrivals
  /-- Their numbers are 1, 2, 3 and so on. -/
  numbers : (dispatched arrivals).map (·.2) = List.range' 1 (dispatched arrivals).length
  distinct : ((dispatched arrivals).map (·.2)).Nodup
  /-- Numbers of 64 bits tell them apart as long as there are enough of these. -/
  contexts : (dispatched arrivals).length < UInt64.size →
    ((dispatched arrivals).map fun card => UInt64.ofNat card.2).Nodup

/-- A register whose numbers are in order has distinct ones. -/
theorem numbers_distinct {cards : List (Address × Nat)}
    (numbers : cards.map (·.2) = List.range' 1 cards.length) (few : cards.length < UInt64.size) :
    (cards.map fun card => UInt64.ofNat card.2).Nodup := by
  have mapped : (cards.map fun card => UInt64.ofNat card.2) =
      (List.range' 1 cards.length).map UInt64.ofNat := by
    rw [← numbers, List.map_map]
    rfl
  rw [mapped]
  refine List.Nodup.map_on (fun i hi j hj same => ?_) List.nodup_range'
  have hi := List.mem_range'_1.mp hi
  have hj := List.mem_range'_1.mp hj
  have same := congrArg UInt64.toNat same
  rwa [UInt64.toNat_ofNat_of_lt' (by omega), UInt64.toNat_ofNat_of_lt' (by omega)] at same

theorem Received.numbers (received : Received s arrivals) :
    (dispatched arrivals).map (·.2) = List.range' 1 (dispatched arrivals).length := by
  cases built : s.groups with
  | nil => simp [received.unbuilt built, dispatched]
  | cons g others =>
    have numbers := (received.groups g (by simp [built])).numbers
    have count : (dispatched arrivals).length = g.lastId := by
      simpa using congrArg List.length numbers
    rw [numbers, count]

/-- **When handlers run**, however the steps of the calls, of the accept loop
and of the tasks interleave. -/
theorem System.handling {labels : List Label}
    (attended : System.fresh.attend config [] labels = some (s, arrivals)) :
    Handling config s arrivals := by
  obtain ⟨reachable, received⟩ := Received.attend .new .fresh attended
  have custody := reachable.custody
  have numbers := received.numbers
  refine
    { unstarted := ?_
      stopped := ?_
      refused := ?_
      tasks := fun g hg => (received.groups g hg).tasks.symm
      numbers := numbers
      distinct := numbers ▸ List.nodup_range'
      contexts := numbers_distinct numbers }
  · intro unstarted
    obtain ⟨empty, loops, tasks⟩ := unstarted.quiet
    exact ⟨empty, fun n => loops n _, fun n i => tasks n i _⟩
  · intro c hc stopped ended s' later n i
    obtain ⟨t, present⟩ := List.mem_iff_getElem?.mp hc
    obtain ⟨ending, here⟩ := Call.ended_of_isSome ended
    have holds := custody.holding t c present
    rw [here] at holds
    obtain ⟨-, g, built, down⟩ := holds.2 stopped
    have silent : Silent s := ⟨g, built, down.workers⟩
    exact (silent.later reachable later).2.quiet n i .callback
  · intro n g peer present here cancelled
    obtain ⟨before, rfl⟩ := (received.groups g (List.mem_of_getElem? present)).held peer
      (by rw [here]; rfl)
    refine ⟨before, rfl, ?_, ?_⟩
    · simp [System.register, present, Groups.register, cancelled]
    · simp [System.step, present, Groups.loopStep, here, cancelled]

/-- A connection is looked at before the workers' token is cancelled and handed
over when they are down, another meets the cancelled token. No callback runs
for either, and the stop returns before the start. -/
theorem handling_of_handover_behind_stop :
    let config := Config.ofPort none (.number 0)
    let address := Address.ofIp .any4 (.assigned 1)
    let peer (n : Nat) := Address.ofIp .loopback4 (.assigned n)
    let world : World := { bind := .ok address }
    let advance (t n : Nat) : List Label := List.replicate n (.advance t world)
    let loop : List LoopAction → List Label := List.map (.loop 0)
    let labels := [.call .init false, .call .start false, .call .stop false] ++
      advance 0 1 ++ advance 1 13 ++
      loop [.look, .accept (peer 2), .check, .dispatch] ++ [.task 0 0 .callback] ++
      loop [.look, .accept (peer 3), .check] ++ advance 2 7 ++
      loop [.dispatch, .look, .accept (peer 4), .check] ++ advance 2 4 ++ advance 1 2
    let arrivals : List Arrival :=
      [⟨peer 2, .dispatched 1⟩, ⟨peer 3, .dispatched 2⟩, ⟨peer 4, .refused⟩]
    ∃ s, System.fresh.attend config [] labels = some (s, arrivals) ∧
      s.groups.map (·.tasks.map (·.callbacks)) = [[1, 0]] ∧
      s.calls.map (·.ending.isSome) = [true, true, true] ∧ Handling config s arrivals := by
  intro config address peer world advance loop labels arrivals
  have followed : ((System.fresh.attend config [] labels).map fun run =>
      (run.2, run.1.groups.map (·.tasks.map (·.callbacks)),
        run.1.calls.map (·.ending.isSome))) =
      some (arrivals, [[1, 0]], [true, true, true]) := by
    decide +kernel
  obtain ⟨⟨s, registered⟩, run, seen⟩ := Option.map_eq_some_iff.mp followed
  simp only [Prod.mk.injEq] at seen
  obtain ⟨rfl, callbacks, ended⟩ := seen
  exact ⟨s, run, callbacks, ended, System.handling run⟩

end PacketServer.Server
