import PacketServer.Address.Basic

/-!
# The thread groups of a server

One start of a server has two groups of threads: the workers, which run the
tasks of connections, and the acceptor, whose only thread runs the accept
loop. Every step of a task, of the loop and of a shutdown is atomic.

A shutdown first ends the workers, then the acceptor. Of the runtime of the
threads it is assumed that a task given to a group that is down never runs,
and that taking a group down ends its tasks. A stage that waits with a time
limit can end at any time, and so can the accept loop by breaking off.
-/

namespace PacketServer.Server

/-- What the task of a connection is doing. -/
inductive TaskStatus
  /-- It has been given to the workers. -/
  | ready
  | running
  | finished
  /-- It was ended, or never begun, because its group is down. -/
  | dropped
deriving DecidableEq

/-- The task of an accepted connection. -/
structure Task where
  /-- The connection's number. -/
  id : Nat
  /-- Who connected. -/
  peer : Address
  status : TaskStatus
  /-- How many callbacks of its handler ran. -/
  callbacks : Nat := 0
deriving DecidableEq

/-- Where the accept loop is. -/
inductive Loop
  | absent
  /-- About to look at its token. -/
  | waiting
  /-- About to look for a connection. -/
  | looking
  /-- With a connection, about to look at the workers' token. -/
  | checking (peer : Address)
  /-- With a connection, about to hand it to the workers. -/
  | dispatching (peer : Address)
  /-- Resting after a fault. -/
  | resting
  | ended
  /-- It broke off, whatever it was doing. -/
  | broken
deriving DecidableEq

/-- Whether the loop is over, one way or the other. -/
def Loop.isOver : Loop → Bool
  | ended | broken => true
  | _ => false

/-- The thread groups of one start: the workers and the acceptor. -/
structure Groups where
  workersCancelled : Bool := false
  /-- Whether the tracker of tasks was closed. -/
  trackerClosed : Bool := false
  workersUp : Bool := true
  acceptCancelled : Bool := false
  acceptorUp : Bool := true
  loop : Loop := .absent
  /-- The number given to a connection last. -/
  lastId : Nat := 0
  /-- The tasks of dispatched connections, in order. -/
  tasks : List Task := []
  /-- How often shutting these groups down was begun. -/
  shutdowns : Nat := 0
deriving DecidableEq

/-- Groups that were just built. -/
def Groups.fresh : Groups := {}

/-- A stage of shutting groups down. -/
inductive ShutdownStage
  | cancelWorkers | closeTracker | drain | endWorkers
  | cancelAccept | joinLoop | endAcceptor
deriving DecidableEq

/-- Takes the workers' group down: its tasks end. -/
def Groups.endWorkers (g : Groups) : Groups :=
  { g with
    workersUp := false
    tasks := g.tasks.map fun task =>
      if task.status = .finished then task else { task with status := .dropped } }

/-- Takes the acceptor's group down: its loop ends, if it has not broken off. -/
def Groups.endAcceptor (g : Groups) : Groups :=
  { g with acceptorUp := false, loop := if g.loop = .broken then .broken else .ended }

/-- What one stage of a shutdown does to the groups. -/
def ShutdownStage.run : ShutdownStage → Groups → Groups
  | cancelWorkers, g => { g with workersCancelled := true, shutdowns := g.shutdowns + 1 }
  | closeTracker, g => { g with trackerClosed := true }
  | drain, g => g
  | endWorkers, g => g.endWorkers
  | cancelAccept, g => { g with acceptCancelled := true }
  | joinLoop, g => g
  | endAcceptor, g => g.endAcceptor

/-- The stage after a stage. -/
def ShutdownStage.next : ShutdownStage → Option ShutdownStage
  | cancelWorkers => some closeTracker
  | closeTracker => some drain
  | drain => some endWorkers
  | endWorkers => some cancelAccept
  | cancelAccept => some joinLoop
  | joinLoop => some endAcceptor
  | endAcceptor => none

/-- A step of the accept loop. -/
inductive LoopAction
  /-- Looks at its token. -/
  | look
  /-- Accepts a connection. -/
  | accept (peer : Address)
  /-- Fails to accept one. -/
  | fail
  /-- Finds no connection yet. -/
  | retry
  /-- Looks at the workers' token. -/
  | check
  /-- Hands the connection to the workers. -/
  | dispatch
  /-- Fails to hand the connection over. -/
  | lose
  /-- Has rested long enough. -/
  | wake
  /-- Breaks off. -/
  | breakOff
deriving DecidableEq

/-- What a step of the accept loop does, if it can be made. -/
def Groups.loopStep (g : Groups) (action : LoopAction) : Option Groups :=
  match g.loop, action with
  | .waiting, .look => some { g with loop := if g.acceptCancelled then .ended else .looking }
  | .looking, .accept peer => some { g with loop := .checking peer }
  | .looking, .fail => some { g with loop := .resting }
  | .looking, .retry => some { g with loop := .waiting }
  | .checking peer, .check =>
    some { g with loop := if g.workersCancelled then .waiting else .dispatching peer }
  | .dispatching peer, .dispatch =>
    let task : Task :=
      { id := g.lastId + 1, peer := peer, status := if g.workersUp then .ready else .dropped }
    some { g with lastId := g.lastId + 1, tasks := g.tasks ++ [task], loop := .waiting }
  | .dispatching _, .lose => some { g with loop := .waiting }
  | .resting, .look => if g.acceptCancelled then some { g with loop := .ended } else none
  | .resting, .wake => some { g with loop := .waiting }
  | .waiting, .breakOff | .looking, .breakOff | .checking _, .breakOff | .dispatching _, .breakOff
  | .resting, .breakOff => some { g with loop := .broken }
  | _, _ => none

/-- A step of a connection's task. -/
inductive TaskAction
  /-- A callback of the handler runs. -/
  | callback
  | finish
deriving DecidableEq

/-- What a step of a task does, if it can be made. -/
def Task.step (task : Task) (action : TaskAction) : Option Task :=
  match task.status, action with
  | .ready, .callback | .running, .callback =>
    some { task with status := .running, callbacks := task.callbacks + 1 }
  | .ready, .finish | .running, .finish => some { task with status := .finished }
  | _, _ => none

/-- A step of the task at position `i`; tasks only move while the workers are
up. -/
def Groups.taskStep (g : Groups) (i : Nat) (action : TaskAction) : Option Groups := do
  let task ← g.tasks[i]?
  let task ← task.step action
  if g.workersUp then some { g with tasks := g.tasks.set i task } else none

end PacketServer.Server
