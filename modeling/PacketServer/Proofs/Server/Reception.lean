import Mathlib.Data.List.ModifyLast
import PacketServer.Proofs.Server.Custody

/-!
# The connections that a server accepts

A register of a run has every connection that the accept loop accepted, in
order, with what became of it: the loop has it, drops it because the workers'
token was cancelled, loses it on the way, or hands it to the workers under a
number. The loop has one connection at a time, so the connections that it hands
over are numbered in the order in which they came, and a connection that it
drops or loses takes no number away.

## Main results

* `Groups.Received.loopStep` — a step of the accept loop and the register.
* `Received.step`, `System.received` — the register of a run has the tasks.
-/

namespace PacketServer.Server

/-- What became of a connection that was accepted. -/
inductive Fate
  /-- The accept loop has it, or was over before it came to anything else. -/
  | held
  /-- Dropped: the workers' token was cancelled. -/
  | refused
  /-- Lost on the way to the workers. -/
  | lost
  /-- Handed to the workers under a number. -/
  | dispatched (id : Nat)
deriving DecidableEq

/-- A connection that was accepted. -/
structure Arrival where
  peer : Address
  fate : Fate
deriving DecidableEq

/-- Who was handed to the workers, and under which number. -/
def Arrival.number? (arrival : Arrival) : Option (Address × Nat) :=
  match arrival.fate with
  | .dispatched id => some (arrival.peer, id)
  | _ => none

/-- Who was handed to the workers, in order, and under which numbers. -/
def dispatched (arrivals : List Arrival) : List (Address × Nat) :=
  arrivals.filterMap Arrival.number?

/-- The register with the fate of the connection that came last. -/
def settleLast (arrivals : List Arrival) (fate : Fate) : List Arrival :=
  arrivals.modifyLast fun arrival => { arrival with fate := fate }

/-- The register behind a step of the accept loop. -/
def Groups.register (g : Groups) (arrivals : List Arrival) : LoopAction → List Arrival
  | .accept peer => arrivals ++ [⟨peer, .held⟩]
  | .check => if g.workersCancelled then settleLast arrivals .refused else arrivals
  | .dispatch => settleLast arrivals (.dispatched (g.lastId + 1))
  | .lose => settleLast arrivals .lost
  | _ => arrivals

/-- The register behind a step of a server. -/
def System.register (s : System) (arrivals : List Arrival) : Label → List Arrival
  | .loop n action => (s.groups[n]?).elim arrivals (·.register arrivals action)
  | _ => arrivals

/-- Follows the labels of a run, and keeps the register. -/
def System.attend (config : Config) (s : System) (arrivals : List Arrival) :
    List Label → Option (System × List Arrival)
  | [] => some (s, arrivals)
  | label :: labels => do
    let s' ← s.step config label
    s'.attend config (s.register arrivals label) labels

/-- Whose connection the accept loop has. -/
def Loop.peer? : Loop → Option Address
  | .checking peer | .dispatching peer => some peer
  | _ => none

/-- Whose the connection of a task is, and its number. -/
def Task.card (task : Task) : Address × Nat := (task.peer, task.id)

variable {config : Config} {world : World} {s s₁ s' : System} {c c' : Call} {t : Nat}
  {arrivals arrivals' : List Arrival}

@[simp] theorem settleLast_append (arrival : Arrival) (fate : Fate) :
    settleLast (arrivals ++ [arrival]) fate = arrivals ++ [{ arrival with fate := fate }] :=
  List.modifyLast_concat _ _ _

theorem dispatched_unnumbered {arrival : Arrival} (unnumbered : arrival.number? = none) :
    dispatched (arrivals ++ [arrival]) = dispatched arrivals := by
  simp [dispatched, unnumbered]

@[simp] theorem dispatched_numbered (peer : Address) (id : Nat) :
    dispatched (arrivals ++ [⟨peer, .dispatched id⟩]) = dispatched arrivals ++ [(peer, id)] := by
  simp [dispatched, Arrival.number?]

@[simp] theorem dispatched_held (peer : Address) :
    dispatched (arrivals ++ [⟨peer, .held⟩]) = dispatched arrivals :=
  dispatched_unnumbered rfl

/-! ## One pair of groups -/

/-- The register has the tasks of groups. -/
structure Groups.Received (g : Groups) (arrivals : List Arrival) : Prop where
  /-- The tasks are the connections handed over, in the order in which they came. -/
  tasks : dispatched arrivals = g.tasks.map Task.card
  /-- They are numbered one after the other. -/
  numbers : (dispatched arrivals).map (·.2) = List.range' 1 g.lastId
  /-- The connection that the loop has came last. -/
  held : ∀ peer, g.loop.peer? = some peer → ∃ before, arrivals = before ++ [⟨peer, .held⟩]

section

variable {g g' : Groups}

/-- What neither accepts a connection nor hands one over leaves the register. -/
theorem Groups.Received.quiet (received : g.Received arrivals)
    (tasks : g'.tasks.map Task.card = g.tasks.map Task.card) (lastId : g'.lastId = g.lastId)
    (loop : g'.loop = g.loop ∨ g'.loop.peer? = none) : g'.Received arrivals where
  tasks := received.tasks.trans tasks.symm
  numbers := lastId ▸ received.numbers
  held := by
    intro peer holds
    rcases loop with same | none
    · exact received.held peer (same ▸ holds)
    · simp [none] at holds

/-- A connection that comes to nothing takes no number away. -/
theorem Groups.Received.settled {before : List Arrival} {peer : Address}
    (received : g.Received (before ++ [⟨peer, .held⟩])) (fate : Fate)
    (unnumbered : Arrival.number? ⟨peer, fate⟩ = none) :
    Groups.Received { g with loop := .waiting } (before ++ [⟨peer, fate⟩]) where
  tasks := by
    rw [dispatched_unnumbered unnumbered, ← dispatched_held peer]
    exact received.tasks
  numbers := by
    rw [dispatched_unnumbered unnumbered, ← dispatched_held peer]
    exact received.numbers
  held := by simp [Loop.peer?]

/-- A connection that is handed over gets the next number. -/
theorem Groups.Received.handed {before : List Arrival} {peer : Address} {status : TaskStatus}
    (received : g.Received (before ++ [⟨peer, .held⟩])) :
    Groups.Received
      { g with
        lastId := g.lastId + 1
        tasks := g.tasks ++ [{ id := g.lastId + 1, peer := peer, status := status }]
        loop := .waiting }
      (before ++ [⟨peer, .dispatched (g.lastId + 1)⟩]) where
  tasks := by
    have tasks := received.tasks
    simpa [Task.card] using tasks
  numbers := by
    have numbers := received.numbers
    rw [dispatched_held] at numbers
    rw [dispatched_numbered, List.map_append, numbers, List.range'_concat]
    simp [Nat.add_comm]
  held := by simp [Loop.peer?]

/-- **A step of the accept loop and the register.** -/
theorem Groups.Received.loopStep {action : LoopAction} (received : g.Received arrivals)
    (goes : g.loopStep action = some g') : g'.Received (g.register arrivals action) := by
  unfold Groups.loopStep at goes
  split at goes
  case h_1 =>
    cases goes
    refine received.quiet rfl rfl (.inr ?_)
    simp only
    split <;> rfl
  case h_2 peer here =>
    cases goes
    refine { received with tasks := ?_, numbers := ?_, held := ?_ }
    · simpa [Groups.register] using received.tasks
    · simpa [Groups.register] using received.numbers
    · rintro peer' ⟨⟩
      exact ⟨arrivals, rfl⟩
  case h_5 peer here =>
    cases goes
    obtain ⟨before, rfl⟩ := received.held peer (by rw [here]; rfl)
    by_cases cancelled : g.workersCancelled = true
    · simpa [Groups.register, cancelled] using received.settled .refused rfl
    · simp only [Groups.register, cancelled]
      refine { received with held := ?_ }
      rintro peer' ⟨⟩
      exact ⟨before, rfl⟩
  case h_6 peer here =>
    cases goes
    obtain ⟨before, rfl⟩ := received.held peer (by rw [here]; rfl)
    simpa [Groups.register] using received.handed
  case h_7 peer here =>
    cases goes
    obtain ⟨before, rfl⟩ := received.held peer (by rw [here]; rfl)
    simpa [Groups.register] using received.settled .lost rfl
  case h_8 =>
    split at goes
    · cases goes
      exact received.quiet rfl rfl (.inr rfl)
    · cases goes
  case h_15 => cases goes
  all_goals
    cases goes
    exact received.quiet rfl rfl (.inr rfl)

/-- A step of a task leaves its connection and its number. -/
theorem Groups.Received.taskStep {i : Nat} {action : TaskAction} (received : g.Received arrivals)
    (goes : g.taskStep i action = some g') : g'.Received arrivals := by
  unfold Groups.taskStep at goes
  obtain ⟨before, present, goes⟩ := Option.bind_eq_some_iff.mp goes
  obtain ⟨after, steps, goes⟩ := Option.bind_eq_some_iff.mp goes
  have same : after.card = before.card := by
    unfold Task.step at steps
    split at steps <;> cases steps <;> rfl
  split at goes
  · cases goes
    refine received.quiet ?_ rfl (.inl rfl)
    obtain ⟨hlt, rfl⟩ := List.getElem?_eq_some_iff.mp present
    rw [List.map_set, same, ← List.getElem_map Task.card, List.set_getElem_self]
    simpa using hlt
  · cases goes

/-- A stage of a shutdown leaves the register. -/
theorem Groups.Received.shut {stage : ShutdownStage} (received : g.Received arrivals) :
    (stage.run g).Received arrivals := by
  cases stage with
  | endWorkers =>
    refine received.quiet ?_ rfl (.inl rfl)
    simp only [ShutdownStage.run, Groups.endWorkers, List.map_map]
    refine List.map_congr_left fun task _ => ?_
    simp only [Function.comp_apply]
    split <;> rfl
  | endAcceptor =>
    refine received.quiet rfl rfl (.inr ?_)
    simp only [ShutdownStage.run, Groups.endAcceptor]
    split <;> rfl
  | _ => exact received.quiet rfl rfl (.inl rfl)

theorem Groups.received_fresh : Groups.fresh.Received [] := by
  constructor <;> simp [dispatched, Groups.fresh, Loop.peer?]

end

/-! ## Runs -/

/-- The register has the tasks of the groups of a server. -/
structure Received (s : System) (arrivals : List Arrival) : Prop where
  unbuilt : s.groups = [] → arrivals = []
  groups : ∀ g ∈ s.groups, g.Received arrivals

theorem Received.of_groups {g : Groups} (built : s.groups = [g]) (received : g.Received arrivals) :
    Received s arrivals where
  unbuilt none := by simp [built] at none
  groups g' hg' := by
    obtain rfl : g' = g := by simpa [built] using hg'
    exact received

theorem Received.move (received : Received s arrivals) (regroup : Regroup s c s₁) :
    Received (s₁.place t c') arrivals := by
  cases regroup with
  | kept same => exact ⟨same ▸ received.unbuilt, same ▸ received.groups⟩
  | built starting none one =>
    rw [received.unbuilt none]
    exact .of_groups one Groups.received_fresh
  | spawned marked one spawned =>
    have before := received.groups .fresh (by simp [one])
    exact .of_groups spawned (before.quiet rfl rfl (.inr rfl))
  | @shut stage g edge won last one awaits empty run =>
    exact .of_groups run (received.groups g (by simp [one])).shut

theorem Received.step {label : Label} (received : Received s arrivals)
    (reachable : Reachable config s) (made : s.step config label = some s') :
    Received s' (s.register arrivals label) := by
  have custody := reachable.custody
  cases step_cases made with
  | called kind listened => exact ⟨received.unbuilt, received.groups⟩
  | @moved t world c c' s₁ present move =>
    obtain ⟨bindings, history⟩ := reachable.history
    have stands := history.settled.standing c (List.mem_of_getElem? present)
    exact received.move (move.regroup (custody.holding t c present) stands)
  | @looped n action g g' present goes =>
    obtain ⟨rfl, built⟩ := custody.only present
    have before := received.groups g (by simp [built])
    refine .of_groups (g := g') (by simp [built]) ?_
    simpa [System.register, built] using before.loopStep goes
  | @tasked n i action g g' present goes =>
    obtain ⟨rfl, built⟩ := custody.only present
    have before := received.groups g (by simp [built])
    exact .of_groups (g := g') (by simp [built]) (before.taskStep goes)

/-- **The register of a run has the tasks**, and the run leads to a reachable
state. -/
theorem Received.attend {labels : List Label} (reachable : Reachable config s)
    (received : Received s arrivals)
    (attended : s.attend config arrivals labels = some (s', arrivals')) :
    Reachable config s' ∧ Received s' arrivals' := by
  induction labels generalizing s arrivals with
  | nil =>
    cases attended
    exact ⟨reachable, received⟩
  | cons label labels ih =>
    obtain ⟨s₁, made, attended⟩ := Option.bind_eq_some_iff.mp attended
    exact ih (.step label reachable made) (received.step reachable made) attended

theorem Received.fresh : Received .fresh [] := by
  constructor <;> simp [System.fresh]

end PacketServer.Server
