import PacketServer.Config.Basic
import PacketServer.Lifecycle
import PacketServer.Server.Groups

/-!
# A server, step by atomic step

The state that the calls on one server share, and every step that a call, the
accept loop or the task of a connection makes on it. A step is atomic: one
compare-and-swap, one locking, one notification, one look at a token. Which
step comes next is anybody's choice; `step` says what it does and when it can
be made, and `Reachable` which states there are.

A start that wins builds two thread groups and puts them into the *slot*,
binds, publishes pool and address, and then, with the slot locked, marks the
server started and spawns the accept loop. It waits for the loop to end and
cleans up: what is left `starting` is aborted, what is left `started` is
stopped. A stop that wins takes the groups out of the slot and shuts them
down. A boot call is an initialization that goes on as a start if it wins.

The thread of a start can break off while it builds the groups or binds. It
cleans up all the same, but it tells nobody and answers nothing.
-/

namespace PacketServer.Server

/-- What a call is about. -/
inductive Kind
  | init | start | stop
  /-- Initializes, and starts if that won. -/
  | boot
deriving DecidableEq

/-- How a call ends. -/
inductive Ending
  | answer (result : Except Fault Unit)
  /-- The call's thread broke off. -/
  | crash

/-- What comes after a stop, or after groups were shut down. -/
inductive After
  /-- The stop's own answer. -/
  | reply
  /-- The end of the start that cleaned up. -/
  | finish (ending : Ending)

/-- Where a call is: the step that it makes next. -/
inductive Point
  | attemptInit
  | attemptStart
  | build
  | store (g : Nat)
  | bind
  | lookUp (address : Address)
  | publishPool (address : Address)
  | publishAddress (address : Address)
  | lock (address : Address)
  | inspect (address : Address)
  | markStarted (address : Address) (g : Nat)
  | spawn (address : Address) (g : Nat)
  | unlock (address : Address) (g : Nat)
  | announce (port : Port) (g : Nat)
  | awaitLoop (g : Nat)
  | reportFailure (cause : Fault)
  | cleanUp (ending : Ending)
  | abort (ending : Ending)
  | takeAborted (ending : Ending)
  | attemptStop (after : After)
  | readPort (after : After)
  | take (after : After) (port : Port)
  /-- Shutting groups down; the port is that of a stop. -/
  | shut (stage : ShutdownStage) (g : Nat) (after : After) (port : Option Port)
  | confirm (after : After) (port : Port)
  | ended (ending : Ending)

/-- A call has returned with an answer. -/
@[match_pattern] def Point.returned (result : Except Fault Unit) : Point :=
  .ended (.answer result)

/-- One call on the server, on a thread of its own. -/
structure Call where
  kind : Kind
  /-- Whether somebody listens for the outcome. -/
  listened : Bool
  point : Point
  /-- The edges of the lifecycle that the call won. -/
  won : List Transition := []
  /-- What the listener was told. -/
  told : List (Except Fault Port) := []

/-- How a call ended, if it did. -/
def Call.ending (c : Call) : Option Ending :=
  match c.point with
  | .ended ending => some ending
  | _ => none

/-- The answer of a call, if it has returned. -/
def Call.answer (c : Call) : Option (Except Fault Unit) :=
  match c.point with
  | .returned result => some result
  | _ => none

/-- The state that all calls share, and where each of them is. -/
structure System where
  phase : Phase := .created
  /-- The groups in the slot, by their number. -/
  slot : Option Nat := none
  /-- The call that holds the slot's lock. -/
  lockedBy : Option Nat := none
  localAddress : Option Address := none
  /-- The policy of the pool that was published. -/
  pool : Option BufferPolicy := none
  /-- All groups ever built. -/
  groups : List Groups := []
  calls : List Call := []

/-- How the outside world answers the step that asks it. -/
structure World where
  /-- Whether the thread breaks off that builds groups or binds. -/
  crashes : Bool := false
  build : Except Fault Unit := .ok ()
  bind : Except Fault Address
  lookUp : Except Fault Unit := .ok ()

namespace System

/-- The port that the server says it has. -/
def port (config : Config) (s : System) : Port :=
  (s.localAddress.map (·.port)).getD config.port

/-- Changes the call of a number. -/
def onCall (s : System) (t : Nat) (f : Call → Call) : System :=
  { s with calls := s.calls.modify t f }

/-- The call of a number goes on at a point. -/
def goto (s : System) (t : Nat) (point : Point) : System :=
  s.onCall t fun c => { c with point := point }

/-- The listener of a call, if it has one, is told an outcome. -/
def tell (s : System) (t : Nat) (outcome : Except Fault Port) : System :=
  s.onCall t fun c => if c.listened then { c with told := c.told ++ [outcome] } else c

/-- Changes the groups of a number. -/
def onGroups (s : System) (g : Nat) (f : Groups → Groups) : System :=
  { s with groups := s.groups.modify g f }

/-- A call attempts an edge of the lifecycle. -/
def attempt (s : System) (t : Nat) (edge : Transition) : Bool × System :=
  match edge.attempt s.phase with
  | (true, phase) =>
    (true, { s with phase := phase }.onCall t fun c => { c with won := c.won ++ [edge] })
  | (false, _) => (false, s)

/-- What a start that failed returns. -/
def startFault (config : Config) (cause : Fault) : Fault :=
  .service ("server start exception, port=" ++ config.port.text) cause

end System

/-- Where a call goes on once groups are shut down: a stop confirms, a start
that aborted returns. -/
def After.resume (after : After) (port : Option Port) : Point :=
  match port, after with
  | some port, after => .confirm after port
  | none, .finish ending => .ended ending
  | none, .reply => .returned (.ok ())

/-- Where a call goes on after its stop gave an answer, which a start that
cleaned up does not look at. -/
def After.answered (after : After) (result : Except Fault Unit) : Point :=
  match after with
  | .reply => .returned result
  | .finish ending => .ended ending

/-- Where a call goes on when it has taken what was in the slot. -/
def After.taken (after : After) (slot : Option Nat) (port : Option Port) : Point :=
  match slot with
  | some g => .shut .cancelWorkers g after port
  | none => after.resume port

/-- A stop's own listener is told the outcome; a start that cleans up has
nobody listen for its stop. -/
def System.tellStop (s : System) (t : Nat) (after : After) (outcome : Except Fault Port) :
    System :=
  match after with
  | .reply => s.tell t outcome
  | .finish _ => s

/-- The next step of the call of number `t`, if it can be made. -/
def System.advance (config : Config) (world : World) (t : Nat) (s : System) : Option System := do
  let call ← s.calls[t]?
  match call.point with
  | .attemptInit =>
    match s.attempt t .init with
    | (true, s) => some (s.goto t (if call.kind = .boot then .attemptStart else .returned (.ok ())))
    | (false, s) => some (s.goto t (.returned (.error (.lifecycle .alreadyInitialized))))
  | .attemptStart =>
    match s.attempt t .beginStart with
    | (true, s) => some (s.goto t .build)
    | (false, s) =>
      let fault := Fault.lifecycle .notStartable
      some ((s.tell t (.error fault)).goto t (.returned (.error fault)))
  | .build =>
    if world.crashes then some (s.goto t (.cleanUp .crash))
    else
      match world.build with
      | .ok () =>
        some ({ s with groups := s.groups ++ [Groups.fresh] }.goto t (.store s.groups.length))
      | .error e => some (s.goto t (.reportFailure e))
  | .store g => if s.lockedBy.isSome then none else some ({ s with slot := some g }.goto t .bind)
  | .bind =>
    if world.crashes then some (s.goto t (.cleanUp .crash))
    else
      match world.bind with
      | .ok address => some (s.goto t (.lookUp address))
      | .error e => some (s.goto t (.reportFailure e))
  | .lookUp address =>
    match world.lookUp with
    | .ok () => some (s.goto t (.publishPool address))
    | .error e => some (s.goto t (.reportFailure e))
  | .publishPool address =>
    some ({ s with pool := some config.socketOptions.childBuffers }.goto t
      (.publishAddress address))
  | .publishAddress address =>
    some ({ s with localAddress := some address }.goto t (.lock address))
  | .lock address =>
    if s.lockedBy.isSome then none
    else some ({ s with lockedBy := some t }.goto t (.inspect address))
  | .inspect address =>
    match s.slot with
    | some g => some (s.goto t (.markStarted address g))
    | none => some ({ s with lockedBy := none }.goto t (.reportFailure .closed))
  | .markStarted address g => some ((s.attempt t .markStarted).2.goto t (.spawn address g))
  | .spawn address g =>
    some ((s.onGroups g fun groups => { groups with loop := .waiting }).goto t (.unlock address g))
  | .unlock address g => some ({ s with lockedBy := none }.goto t (.announce address.port g))
  | .announce port g => some ((s.tell t (.ok port)).goto t (.awaitLoop g))
  | .awaitLoop g =>
    if (s.groups[g]?).any (·.loop.isOver) then
      some (s.goto t (.cleanUp (.answer (.ok ()))))
    else none
  | .reportFailure cause =>
    some ((s.tell t (.error cause)).goto t
      (.cleanUp (.answer (.error (System.startFault config cause)))))
  | .cleanUp ending =>
    match s.phase with
    | .starting => some (s.goto t (.abort ending))
    | .started => some (s.goto t (.attemptStop (.finish ending)))
    | _ => some (s.goto t (.ended ending))
  | .abort ending =>
    match s.attempt t .abortStart with
    | (true, s) => some (s.goto t (.takeAborted ending))
    | (false, s) => some (s.goto t (.ended ending))
  | .takeAborted ending =>
    if s.lockedBy.isSome then none
    else some ({ s with slot := none }.goto t (After.taken (.finish ending) s.slot none))
  | .attemptStop after =>
    match s.attempt t .beginStop with
    | (true, s) => some (s.goto t (.readPort after))
    | (false, s) =>
      let fault := Fault.lifecycle .alreadyShutdown
      some ((s.tellStop t after (.error fault)).goto t (after.answered (.error fault)))
  | .readPort after => some (s.goto t (.take after (s.port config)))
  | .take after port =>
    if s.lockedBy.isSome then none
    else some ({ s with slot := none }.goto t (after.taken s.slot (some port)))
  | .shut stage g after port =>
    let point := match stage.next with
      | some stage => Point.shut stage g after port
      | none => after.resume port
    some ((s.onGroups g stage.run).goto t point)
  | .confirm after port => some ((s.tellStop t after (.ok port)).goto t (after.answered (.ok ())))
  | .ended _ => none

/-- Whose step it is. -/
inductive Label
  /-- A thread makes a call. -/
  | call (kind : Kind) (listened : Bool)
  /-- The call of number `t` makes its next step. -/
  | advance (t : Nat) (world : World)
  /-- The accept loop of groups of number `g`. -/
  | loop (g : Nat) (action : LoopAction)
  /-- The task at position `i` of groups of number `g`. -/
  | task (g i : Nat) (action : TaskAction)

/-- Where a call begins. -/
def Kind.entry : Kind → Point
  | init | boot => .attemptInit
  | start => .attemptStart
  | stop => .attemptStop .reply

/-- Puts a call behind those made before. -/
def System.enter (s : System) (kind : Kind) (listened : Bool) : System :=
  { s with calls := s.calls ++ [{ kind := kind, listened := listened, point := kind.entry }] }

/-- What a step does, if it can be made. -/
def System.step (config : Config) (s : System) : Label → Option System
  | .call kind listened => some (s.enter kind listened)
  | .advance t world => s.advance config world t
  | .loop g action => do
    let groups ← s.groups[g]?
    let groups ← groups.loopStep action
    some { s with groups := s.groups.set g groups }
  | .task g i action => do
    let groups ← s.groups[g]?
    let groups ← groups.taskStep i action
    some { s with groups := s.groups.set g groups }

/-- A new server, on which nobody made a call. -/
def System.fresh : System := {}

/-- The states that calls, loop and tasks can bring a new server to. -/
inductive Reachable (config : Config) : System → Prop
  | new : Reachable config .fresh
  | step {s s' : System} (label : Label) (before : Reachable config s)
      (made : s.step config label = some s') : Reachable config s'

end PacketServer.Server
