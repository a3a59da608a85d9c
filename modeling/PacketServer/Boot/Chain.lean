import PacketServer.Boot.Basic

/-!
# A boot chain, step by atomic step

The thread of the chain, and whoever holds a handle of a job that was
started: handles can be used, cloned and given up by any thread at any time,
also while later jobs run.

Every job has a line to the chain, with one slot. The first signal goes into
the slot; a signal that finds the slot taken, or the chain gone on, is lost.
Between taking a signal and going on the chain leaves the slot empty, so one
more signal can get into it, which nobody looks at.
-/

namespace PacketServer.Boot

/-- The line of a job that was started. -/
structure Line where
  job : String
  /-- How many handles of the job there are. -/
  handles : Nat := 1
  /-- Everything that the job ever signalled, in order. -/
  sent : List Signal := []
  /-- The signal that waits for the chain. -/
  slot : Option Signal := none
  /-- Whether the chain still listens. -/
  listening : Bool := true
  /-- Whether the job returned to the chain. -/
  returned : Bool := false
deriving DecidableEq

namespace Line

/-- A signal through one of the handles. -/
def send (l : Line) (signal : Signal) : Line :=
  { l with
    sent := l.sent ++ [signal]
    slot := if l.listening then l.slot.or (some signal) else l.slot }

/-- The first event of the line: its first signal, or the interruption once
all handles are given up. -/
def firstEvent? (l : Line) : Option Signal :=
  match l.sent.head? with
  | some signal => some signal
  | none => if l.handles = 0 then some (.abort (.interrupted l.job)) else none

/-- What the chain finds when it looks at the line. -/
def find? (l : Line) : Option Signal :=
  match l.slot with
  | some signal => some signal
  | none => if l.handles = 0 then some (.abort (.interrupted l.job)) else none

/-- The job returns to the chain. -/
def comeBack (l : Line) : Line := { l with returned := true }

/-- The chain takes what waits for it. -/
def take (l : Line) : Line := { l with slot := none }

/-- The chain goes on. -/
def close (l : Line) : Line := { l with slot := none, listening := false }

end Line

/-- What can be done with a handle. -/
inductive Use
  | send (signal : Signal)
  /-- The handle is told an outcome as a listener. -/
  | tell (outcome : Except Fault Unit)
  | clone
  /-- The handle is given up. -/
  | drop

/-- What the use of a handle does to the line of its job. -/
def Use.run : Use → Line → Line
  | send signal, l => l.send signal
  | tell outcome, l => l.send (.ofOutcome l.job outcome)
  | clone, l => { l with handles := l.handles + 1 }
  | drop, l => { l with handles := l.handles - 1 }

/-- Where the thread of a chain is. -/
inductive Point
  /-- About to run the next job. -/
  | next
  /-- In the job started last. -/
  | running
  /-- Waiting for a signal of the job started last. -/
  | waiting
  /-- With the first event of the job started last. -/
  | taken (event : Signal)
  | finished (result : Except BootFault Unit)

/-- A chain that is being run. -/
structure Chain where
  /-- The names of the jobs that were not started. -/
  remaining : List String
  /-- The lines of the jobs that were started, in order. -/
  lines : List Line := []
  point : Point := .next

/-- A chain of jobs of the given names, none of which was started. -/
def Chain.ofNames (names : List String) : Chain := { remaining := names }

/-- Whose step it is. -/
inductive Label
  /-- The chain starts its next job, or finishes. -/
  | launch
  /-- The job started last returns to the chain. -/
  | comeBack
  /-- The chain takes the first event of the job started last. -/
  | receive
  /-- The chain hangs up and goes on, or finishes. -/
  | hangUp
  /-- Somebody uses a handle of job `i`. -/
  | use (i : Nat) (use : Use)

namespace Chain

/-- Changes the line of job `i`, if it was started and there is a handle. -/
def onLine (c : Chain) (i : Nat) (f : Line → Line) : Option Chain := do
  let line ← c.lines[i]?
  if line.handles = 0 then none else some { c with lines := c.lines.modify i f }

/-- Changes the line of the job started last. -/
def onLast (c : Chain) (f : Line → Line) : Chain :=
  { c with lines := c.lines.modify (c.lines.length - 1) f }

/-- The chain's reaction to a first event. -/
def react (c : Chain) : Signal → Chain
  | .proceed => { c with point := .next }
  | .abort fault => { c with point := .finished (.error fault) }

/-- What a step does, if it can be made. -/
def step (c : Chain) : Label → Option Chain
  | .launch =>
    match c.point, c.remaining with
    | .next, [] => some { c with point := .finished (.ok ()) }
    | .next, job :: jobs =>
      some { remaining := jobs, lines := c.lines ++ [{ job := job }], point := .running }
    | _, _ => none
  | .comeBack =>
    match c.point with
    | .running => some { c.onLast Line.comeBack with point := .waiting }
    | _ => none
  | .receive =>
    match c.point with
    | .waiting => do
      let line ← c.lines.getLast?
      let event ← line.find?
      some { c.onLast Line.take with point := .taken event }
    | _ => none
  | .hangUp =>
    match c.point with
    | .taken event => some ((c.onLast Line.close).react event)
    | _ => none
  | .use i use => c.onLine i use.run

/-- Follows the labels of a run. -/
def follow (c : Chain) : List Label → Option Chain
  | [] => some c
  | label :: labels => do
    let c' ← c.step label
    c'.follow labels

end Chain

end PacketServer.Boot
