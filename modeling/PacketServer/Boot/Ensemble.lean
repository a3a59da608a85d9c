import PacketServer.Boot.Chain
import PacketServer.Boot.Jobs

/-!
# Chains that boot one server, step by atomic step

Any number of chains are run at once, and some of their jobs boot the same
server. The job of a server gives a handle to a thread of its own, the
*errand*, and returns. The errand makes a boot call, with its handle as the
listener's: it signals that the server had been initialized before, or what the
start tells its listener. Behind the initialization it clones its handle, and
when its call has ended, or its thread has broken off, it gives its handles up.

An errand does not know what the server is doing when its turn comes, or what
others make of the server afterwards; it keeps what it meets.
-/

namespace PacketServer.Boot

/-- What an errand meets on the server. -/
inductive Finding
  | initialized
  /-- The server had been initialized before. -/
  | notInitialized
  | begun
  /-- The server could not be started. -/
  | notBegun
  /-- The server's address was bound and looked up. -/
  | bound
  /-- Building the groups, binding or looking up failed. -/
  | failed (cause : Fault)
  /-- The thread broke off. -/
  | broke
deriving DecidableEq

/-- What the next step of a call meets, by the phase of the server and what the
world answers. -/
def findings (phase : Phase) (world : Server.World) : Server.Point → List Finding
  | .attemptInit => [if phase = .created then .initialized else .notInitialized]
  | .attemptStart => [if phase = .initialized then .begun else .notBegun]
  | .build =>
    match world.crashes, world.build with
    | true, _ => [.broke]
    | false, .ok () => []
    | false, .error cause => [.failed cause]
  | .bind =>
    match world.crashes, world.bind with
    | true, _ => [.broke]
    | false, .ok _ => []
    | false, .error cause => [.failed cause]
  | .lookUp _ =>
    match world.lookUp with
    | .ok () => [.bound]
    | .error cause => [.failed cause]
  | _ => []

/-- The thread of a job that boots the server. -/
structure Errand where
  /-- Whose job it is: the chain, and the job's line in it. -/
  chain : Nat
  line : Nat
  /-- The number of its call on the server. -/
  call : Nat
  /-- How many handles of the job it has. -/
  handles : Nat := 1
  /-- How many signals it has sent. -/
  sent : Nat := 0
  /-- What it has met so far. -/
  met : List Finding := []
deriving DecidableEq

/-- A server, the chains that are run, and the errands of those of their jobs
that boot the server. -/
structure Ensemble where
  server : Server.System := .fresh
  chains : List Chain
  errands : List Errand := []

/-- Whose step it is. -/
inductive Ensemble.Label
  /-- A step of the server that is not an errand's. -/
  | server (label : Server.Label)
  /-- A step of chain `k` that is not an errand's. -/
  | chain (k : Nat) (label : Boot.Label)
  /-- The job started last in chain `k` spawns its errand. -/
  | spawn (k : Nat)
  /-- The next step of errand `n`. -/
  | work (n : Nat) (world : Server.World)

/-- The position of the job started last. -/
def Chain.latest (c : Chain) : Nat := c.lines.length - 1

/-- Whether it is a step of the errand's call. -/
def Errand.makes (e : Errand) : Server.Label → Bool
  | .advance t _ => e.call == t
  | _ => false

namespace Ensemble

/-- Chains of jobs of the given names, and a new server. -/
def ofNames (names : List (List String)) : Ensemble := { chains := names.map Chain.ofNames }

/-- Whether the job at a position of a chain has spawned its errand. -/
def spawned (s : Ensemble) (k i : Nat) : Bool := s.errands.any fun e => e.chain == k && e.line == i

/-- A step of a chain on which the jobs at some positions boot the server.
Their handles are used by their errands alone, and they return when they have
spawned their errands, giving up the handle that was kept for the case that
this fails. -/
def chainStep (boots spawned : Nat → Bool) (c : Chain) : Boot.Label → Option Chain
  | .use i use => if boots i then none else c.step (.use i use)
  | .comeBack =>
    if boots c.latest then
      if spawned c.latest then (c.step (.use c.latest .drop)).bind (·.step .comeBack) else none
    else c.step .comeBack
  | label => c.step label

/-- Changes errand `n`. -/
def putErrand (s : Ensemble) (n : Nat) (e : Errand) : Ensemble :=
  { s with errands := s.errands.set n e }

/-- Errand `n` uses a handle, and is another one behind that. -/
def useHandle (s : Ensemble) (n : Nat) (e : Errand) (use : Use) (e' : Errand) :
    Option Ensemble := do
  let c ← s.chains[e.chain]?
  let c' ← c.step (.use e.line use)
  some ({ s with chains := s.chains.set e.chain c' }.putErrand n e')

/-- The next step of errand `n`: what it has to signal goes first. -/
def workStep (config : Config) (s : Ensemble) (n : Nat) (world : Server.World) :
    Option Ensemble := do
  let e ← s.errands[n]?
  let call ← s.server.calls[e.call]?
  match (callSignals config.port call)[e.sent]?, call.point, e.handles with
  | some signal, _, _ => s.useHandle n e (.send signal) { e with sent := e.sent + 1 }
  | none, .ended _, 0 => none
  | none, .ended _, handles + 1 => s.useHandle n e .drop { e with handles := handles }
  | none, .attemptStart, 1 => s.useHandle n e .clone { e with handles := 2 }
  | none, point, _ => do
    let server ← s.server.step config (.advance e.call world)
    some ({ s with server := server }.putErrand n
      { e with met := e.met ++ findings s.server.phase world point })

/-- What a step does, if it can be made; `boots k i` says that the job at
position `i` of chain `k` boots the server. -/
def step (config : Config) (boots : Nat → Nat → Bool) (s : Ensemble) :
    Ensemble.Label → Option Ensemble
  | .server label =>
    if s.errands.any (·.makes label) then none
    else (s.server.step config label).map fun server => { s with server := server }
  | .chain k label => do
    let c ← s.chains[k]?
    let c' ← chainStep (boots k) (s.spawned k) c label
    some { s with chains := s.chains.set k c' }
  | .spawn k => do
    let c ← s.chains[k]?
    match c.point with
    | .running =>
      if boots k c.latest && !s.spawned k c.latest then do
        let c' ← c.step (.use c.latest .clone)
        some
          { server := s.server.enter .boot true
            chains := s.chains.set k c'
            errands := s.errands ++
              [{ chain := k, line := c.latest, call := s.server.calls.length }] }
      else none
    | _ => none
  | .work n world => s.workStep config n world

/-- Where the labels of a run lead. -/
def run (config : Config) (boots : Nat → Nat → Bool) (s : Ensemble)
    (labels : List Ensemble.Label) : Option Ensemble :=
  labels.foldlM (step config boots) s

end Ensemble

end PacketServer.Boot
