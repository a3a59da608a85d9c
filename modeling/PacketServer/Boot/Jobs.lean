import PacketServer.Boot.Basic
import PacketServer.Server.Deployment

/-!
# Jobs of a boot chain

The jobs that a server is booted with: starting the client of a coordination
service, starting a server, and the last job, which always proceeds. Beside
them stands a scripted job, which does what it is told to.

The job of a server makes one boot call, on a thread that the chain does not
wait for. A server that was initialized before is left alone.
-/

namespace PacketServer.Boot

/-- What jobs leave in the notes of a site. -/
inductive Note
  /-- A job of this name was run. -/
  | ran (job : String)
  /-- A job of this name showed its handle. -/
  | handle (job : String)
deriving DecidableEq

/-- Where jobs are run: a host with servers on it. -/
structure Site (σ ν : Type) where
  host : Host
  servers : List (Server.Deployment σ ν) := []
  notes : List Note := []

/-- One act of a scripted job. -/
inductive Act
  | signal (signal : Signal)
  /-- The handle is told an outcome as a listener. -/
  | tell (outcome : Except Fault Unit)
  /-- The handle is shown. -/
  | showHandle

/-- What an act signals, if it does. -/
def Act.signal? (job : String) : Act → Option Signal
  | signal s => some s
  | tell outcome => some (.ofOutcome job outcome)
  | showHandle => none

/-- What an act notes down. -/
def Act.notes (job : String) : Act → List Note
  | showHandle => [.handle job]
  | _ => []

/-- What the client of the coordination service signals when it is told an
outcome. -/
def coordinationSignal : Except Fault Unit → Signal
  | .ok () => .proceed
  | .error cause => .abort (.job "init coordination client failure" (some cause))

/-- What a boot call signals: that the server had been initialized before, or
what its start tells its listener. -/
def callSignals (port : Port) (call : Server.Call) : List Signal :=
  if Transition.init ∈ call.won then
    call.told.map fun
      | .ok _ => .proceed
      | .error cause => .abort (.job ("start server failure, port=" ++ port.text) (some cause))
  else
    match call.answer with
    | some (.error e) => [.abort (.job "init server failure" (some e))]
    | _ => []

namespace Job

variable {σ ν : Type}

/-- A scripted job. -/
def script (name : String) (acts : List Act) : Job (Site σ ν) where
  name := name
  run site :=
    (acts.filterMap (·.signal? name),
      { site with notes := site.notes ++ .ran name :: acts.flatMap (·.notes name) })

/-- The name of the job that starts the coordination client. -/
def coordinationName : String := "coordination"

/-- The job that starts a coordination client, which tells its listener the
given outcomes. -/
def coordination (outcomes : List (Except Fault Unit)) : Job (Site σ ν) where
  name := coordinationName
  run site :=
    (outcomes.map coordinationSignal,
      { site with notes := site.notes ++ [.ran coordinationName] })

/-- The job that starts the server at position `i`, which has the given port
in its settings. -/
def server (port : Port) (i : Nat) : Job (Site σ ν) where
  name := "server:" ++ port.text
  run site :=
    match site.servers[i]? with
    | none => ([], site)
    | some d =>
      let (calls, d, host) := d.call .boot 1 true site.host
      let signals := (calls.filterMap fun t => d.system.calls[t]?).flatMap (callSignals port)
      (signals, { site with host := host, servers := site.servers.set i d })

/-- The job that ends a chain. -/
def last : Job (Site σ ν) where
  name := "last"
  run site := ([.proceed], site)

end Job

end PacketServer.Boot
