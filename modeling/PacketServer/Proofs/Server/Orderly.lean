import PacketServer.Server.Groups

/-!
# Thread groups in order

What happens in thread groups of itself, the steps of the accept loop and of
the tasks, and what the stages of a shutdown do to them when they come one
after the other. A shutdown that was begun goes through its stages, each of
which finds what the stage before it left; the loop ends only behind the end of
the workers, and behind that no task goes on.

## Main results

* `Groups.loopStep_stir`, `Groups.taskStep_stir` — what happens of itself.
* `Groups.Stir.orderly` — groups stay in order by themselves.
* `ShutdownStage.run_leaves`, `ShutdownStage.run_orderly` — a stage in its turn
  leaves them in order, for the next stage.
-/

namespace PacketServer.Server

/-! ## What is known of groups -/

/-- Both groups are down. -/
structure Groups.Down (g : Groups) : Prop where
  workers : g.workersUp = false
  acceptor : g.acceptorUp = false

/-- What has been done to groups when a stage of their shutdown comes next. -/
def ShutdownStage.Awaits : ShutdownStage → Groups → Prop
  | cancelWorkers, g => g.shutdowns = 0
  | closeTracker, g | drain, g | endWorkers, g => g.shutdowns = 1 ∧ g.workersCancelled = true
  | cancelAccept, g => g.workersUp = false
  | joinLoop, g | endAcceptor, g => g.acceptCancelled = true

/-- What has been done to groups behind a stage of their shutdown. -/
def ShutdownStage.Leaves (stage : ShutdownStage) (g : Groups) : Prop :=
  match stage.next with
  | some next => next.Awaits g
  | none => g.Down

/-- How many stages of a shutdown are left. -/
def ShutdownStage.left : ShutdownStage → Nat
  | cancelWorkers => 7
  | closeTracker => 6
  | drain => 5
  | endWorkers => 4
  | cancelAccept => 3
  | joinLoop => 2
  | endAcceptor => 1

theorem ShutdownStage.next_left {stage next : ShutdownStage} (goesOn : stage.next = some next) :
    next.left < stage.left := by
  cases stage <;> simp [ShutdownStage.next] at goesOn <;> subst goesOn <;> decide

theorem ShutdownStage.left_pos (stage : ShutdownStage) : 0 < stage.left := by
  cases stage <;> decide

/-- Groups on which shutting down goes stage by stage, if it was begun. -/
structure Groups.Orderly (g : Groups) : Prop where
  shutdowns : g.shutdowns ≤ 1
  cancelled : g.workersCancelled = true → g.shutdowns = 1
  workers : g.workersUp = false → g.workersCancelled = true
  accept : g.acceptCancelled = true → g.workersUp = false
  acceptor : g.acceptorUp = false → g.acceptCancelled = true
  /-- The loop ends only through its token. -/
  loop : g.loop = .ended → g.acceptCancelled = true
  /-- Behind the end of the workers there is no task that could go on. -/
  tasks : g.workersUp = false →
    ∀ task ∈ g.tasks, task.status = .finished ∨ task.status = .dropped

/-- Groups whose loop was never spawned. -/
structure Groups.Dormant (g : Groups) : Prop where
  loop : g.loop = .absent ∨ g.loop = .ended
  tasks : g.tasks = []

/-- Whether the loop can go on. -/
def Loop.isLive : Loop → Bool
  | absent | ended | broken => false
  | _ => true

/-- What happens in groups without a call: a step of the loop or of a task. -/
inductive Groups.Stir (g : Groups) : Groups → Prop
  | turned {loop : Loop} (live : g.loop.isLive = true) (spawned : loop ≠ .absent)
      (told : loop = .ended → g.acceptCancelled = true) : Stir g { g with loop := loop }
  | handed {peer : Address} (here : g.loop = .dispatching peer) :
      Stir g
        { g with
          lastId := g.lastId + 1
          tasks := g.tasks ++
            [{ id := g.lastId + 1, peer := peer
               status := if g.workersUp then .ready else .dropped }]
          loop := .waiting }
  | ran {i : Nat} {before after : Task} {action : TaskAction} (up : g.workersUp = true)
      (present : g.tasks[i]? = some before) (goes : before.step action = some after) :
      Stir g { g with tasks := g.tasks.set i after }

section

variable {g g' : Groups} {stage : ShutdownStage}

theorem Groups.live_of_loopStep {action : LoopAction} (goes : g.loopStep action = some g') :
    g.loop.isLive = true := by
  cases here : g.loop with
  | absent | ended | broken => simp [Groups.loopStep, here] at goes
  | _ => rfl

theorem Groups.loopStep_stir {action : LoopAction} (goes : g.loopStep action = some g') :
    g.Stir g' := by
  have live := live_of_loopStep goes
  unfold Groups.loopStep at goes
  split at goes
  case h_1 =>
    -- A look at the token is the only step that ends the loop.
    cases goes
    refine .turned live ?_ ?_
    · split <;> simp
    · split <;> simp_all
  case h_5 =>
    cases goes
    refine .turned live ?_ ?_ <;> split <;> simp
  case h_6 peer here =>
    cases goes
    exact .handed here
  case h_8 =>
    split at goes
    · rename_i cancelled
      cases goes
      exact .turned live (by simp) fun _ => cancelled
    · cases goes
  case h_15 => cases goes
  all_goals
    cases goes
    exact .turned live (by simp) (by simp)

theorem Groups.taskStep_stir {i : Nat} {action : TaskAction}
    (goes : g.taskStep i action = some g') : g.Stir g' := by
  unfold Groups.taskStep at goes
  obtain ⟨before, present, goes⟩ := Option.bind_eq_some_iff.mp goes
  obtain ⟨after, steps, goes⟩ := Option.bind_eq_some_iff.mp goes
  split at goes
  · rename_i up
    cases goes
    exact .ran up present steps
  · cases goes

/-- Nothing stirs in groups without a loop and tasks. -/
theorem Groups.Stir.not_dormant (stir : g.Stir g') : ¬ g.Dormant := by
  intro dormant
  cases stir with
  | turned live spawned told =>
    rcases dormant.loop with absent | ended <;> simp_all [Loop.isLive]
  | handed here => rcases dormant.loop with absent | ended <;> simp_all
  | ran up present goes => simp [dormant.tasks] at present

theorem Groups.Stir.awaits (stir : g.Stir g') (awaits : stage.Awaits g) : stage.Awaits g' := by
  cases stir <;> cases stage <;> exact awaits

theorem Groups.Stir.shutdowns (stir : g.Stir g') : g'.shutdowns = g.shutdowns := by
  cases stir <;> rfl

theorem Groups.Stir.down (stir : g.Stir g') (down : g.Down) : g'.Down := by
  cases stir <;> exact ⟨down.workers, down.acceptor⟩

theorem Groups.Stir.workers (stir : g.Stir g') : g'.workersUp = g.workersUp := by
  cases stir <;> rfl

theorem Groups.Stir.broken (stir : g.Stir g') (broken : g.loop = .broken) :
    g'.loop = .broken := by
  cases stir with
  | turned live spawned told => simp [broken, Loop.isLive] at live
  | handed here => simp [broken] at here
  | ran up present goes => exact broken

theorem Groups.Stir.spawned (stir : g.Stir g') (spawned : g.loop ≠ .absent) :
    g'.loop ≠ .absent := by
  cases stir with
  | turned live spawned' told => exact spawned'
  | handed here => simp
  | ran up present goes => exact spawned

theorem Groups.Stir.orderly (stir : g.Stir g') (orderly : g.Orderly) : g'.Orderly := by
  cases stir with
  | turned live spawned told => exact { orderly with loop := told }
  | handed here =>
    refine { orderly with loop := by simp, tasks := ?_ }
    intro down task member
    rcases List.mem_append.mp member with old | anew
    · exact orderly.tasks down task old
    · obtain rfl := List.mem_singleton.mp anew
      simp only at down
      simp [down]
  | ran up present goes =>
    refine { orderly with tasks := ?_ }
    intro down
    simp only at down
    simp [down] at up

theorem Groups.orderly_fresh : Groups.fresh.Orderly := by
  constructor <;> simp [Groups.fresh]

theorem Groups.dormant_fresh : Groups.fresh.Dormant := ⟨.inl rfl, rfl⟩

theorem Groups.Orderly.down (orderly : g.Orderly) (down : g.workersUp = false) :
    g.shutdowns = 1 :=
  orderly.cancelled (orderly.workers down)

/-- **A stage of a shutdown in its turn** leaves groups to the next stage. -/
theorem ShutdownStage.run_leaves (orderly : g.Orderly) (awaits : stage.Awaits g) :
    stage.Leaves (stage.run g) := by
  cases stage with
  | cancelWorkers => exact ⟨congrArg (· + 1) awaits, rfl⟩
  | closeTracker => exact awaits
  | drain => exact awaits
  | endWorkers => exact rfl
  | cancelAccept => exact rfl
  | joinLoop => exact awaits
  | endAcceptor => exact ⟨orderly.accept awaits, rfl⟩

theorem ShutdownStage.run_orderly (orderly : g.Orderly) (awaits : stage.Awaits g) :
    (stage.run g).Orderly := by
  cases stage with
  | cancelWorkers =>
    have once : g.shutdowns + 1 = 1 := congrArg (· + 1) awaits
    exact
      { orderly with
        shutdowns := by simp [ShutdownStage.run, once]
        cancelled := fun _ => once
        workers := fun _ => rfl }
  | closeTracker => exact { orderly with }
  | drain => exact orderly
  | endWorkers =>
    refine { orderly with workers := fun _ => awaits.2, accept := fun _ => rfl, tasks := ?_ }
    intro down task member
    obtain ⟨before, -, rfl⟩ := List.mem_map.mp member
    split
    · exact .inl ‹_›
    · exact .inr rfl
  | cancelAccept =>
    exact { orderly with accept := fun _ => awaits, acceptor := fun _ => rfl, loop := fun _ => rfl }
  | joinLoop => exact orderly
  | endAcceptor => exact { orderly with acceptor := fun _ => awaits, loop := fun _ => awaits }

theorem ShutdownStage.run_workers (down : g.workersUp = false) :
    (stage.run g).workersUp = false := by
  cases stage with
  | endWorkers => rfl
  | _ => exact down

theorem ShutdownStage.run_broken (broken : g.loop = .broken) :
    (stage.run g).loop = .broken := by
  cases stage with
  | endAcceptor => simp [ShutdownStage.run, Groups.endAcceptor, broken]
  | _ => exact broken

theorem ShutdownStage.run_dormant (dormant : g.Dormant) : (stage.run g).Dormant := by
  cases stage with
  | endWorkers =>
    exact ⟨dormant.loop, by simp [ShutdownStage.run, Groups.endWorkers, dormant.tasks]⟩
  | endAcceptor =>
    refine ⟨.inr ?_, dormant.tasks⟩
    rcases dormant.loop with absent | ended
    · simp [ShutdownStage.run, Groups.endAcceptor, absent]
    · simp [ShutdownStage.run, Groups.endAcceptor, ended]
  | _ => exact ⟨dormant.loop, dormant.tasks⟩

end

end PacketServer.Server
