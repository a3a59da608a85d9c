import PacketServer.Backend
import PacketServer.BufferPool.Basic
import PacketServer.Packet
import PacketServer.Text.Duration

/-!
# Settings of a server

The settings that a server is made of, the options of its listening socket
that follow from them, and their check, which names the first of seven
constraints that is violated.

A setting may be a *hook*: a function that has the last word on the options
of the socket, or on the thread group of the workers.

## Main results

* `validate_ok_iff` — settings pass exactly if no constraint is violated.
-/

namespace PacketServer

/-- The options of a listening socket, which accepted sockets inherit. -/
structure SocketOptions where
  /-- Whether silent peers are probed. -/
  keepAlive : Bool := true
  /-- Whether small packets are sent at once. -/
  noDelay : Bool := true
  /-- Whether an address in use before can be bound again. -/
  reuseAddress : Bool := true
  /-- The length of the queue of connections to accept. -/
  backlog : Nat := 1024
  /-- How buffers of accepted connections are allocated. -/
  childBuffers : BufferPolicy := .default
deriving DecidableEq

/-- The least queue of a tuned backend. -/
def optimizedBacklog : Nat := 4096

/-- The length of the queue on a backend. -/
def SocketOptions.effectiveBacklog (o : SocketOptions) (optimized : Bool) : Nat :=
  if optimized then max o.backlog optimizedBacklog else o.backlog

/-- The thread group of the workers. -/
structure WorkerGroup where
  threadName : String := "courier-worker"
  /-- The number of threads, if it is not left to the host. -/
  threads : Option Nat := none
deriving DecidableEq

namespace WorkerGroup

/-- How many bytes of memory a list of threads takes for each of them. -/
def handleBytes : Nat := 8

/-- Whether such a group can be built: it has threads, though not more than
memory can list, and the host takes their name. -/
def canBeBuilt (g : WorkerGroup) : Bool :=
  g.threads.all (fun n => 0 < n && n * handleBytes < Bytes.memoryBound) &&
    !g.threadName.toList.contains '\x00'

end WorkerGroup

/-- The settings of a server. -/
structure Config where
  /-- The port to listen on. -/
  port : Port
  /-- The address to listen on. -/
  host : Ip := .any4
  transport : Preference := .portable
  /-- The name of the operating system, if it is known. -/
  osName : Option String
  /-- The number of worker threads, if it is not left to the host. -/
  workerThreads : Option Nat := none
  buffers : BufferPolicy := .default
  keepAlive : Bool := true
  backlog : Nat := 1024
  /-- The longest body that the usual decoder takes. -/
  maxFrame : Nat := Packet.defaultLimit
  /-- How long a stop waits for connections, in nanoseconds. -/
  grace : Nat := 15 * Text.second
  optionsHook : Option (SocketOptions → SocketOptions) := none
  workerHook : Option (WorkerGroup → WorkerGroup) := none

namespace Config

/-- One more than the greatest limit on bodies: the length of a body that is
longer may start with the heartbeat's byte. -/
def frameBound : Nat := Packet.heartbeatByte.toNat * 0x1000000

/-- Usual settings on a host of the given name. -/
def ofPort (hostName : Option String) (port : Port) : Config :=
  { port := port, osName := hostName }

/-- The address to bind. -/
def bindAddress (c : Config) : Address := .ofIp c.host c.port

/-- The options of the listening socket; a hook has the last word. -/
def socketOptions (c : Config) : SocketOptions :=
  let options : SocketOptions :=
    { keepAlive := c.keepAlive, backlog := c.backlog, childBuffers := c.buffers }
  match c.optionsHook with
  | some hook => hook options
  | none => options

/-- The thread group of the workers; a hook has the last word. -/
def workerGroup (c : Config) : WorkerGroup :=
  let group : WorkerGroup := { threads := c.workerThreads }
  match c.workerHook with
  | some hook => hook group
  | none => group

/-- The backend that is used. -/
def backend (c : Config) : Backend := .select c.transport c.osName

/-- A condition that settings must meet. -/
inductive Constraint
  | workerThreads | framePositive | frameBounded | backlog | bufferSize | capacity | grace
deriving DecidableEq

namespace Constraint

/-- All constraints, in the order in which they are checked. -/
def all : List Constraint :=
  [workerThreads, framePositive, frameBounded, backlog, bufferSize, capacity, grace]

/-- Whether settings violate a constraint. -/
def violated (c : Config) : Constraint → Bool
  | workerThreads => c.workerThreads == some 0
  | framePositive => c.maxFrame == 0
  | frameBounded => frameBound ≤ c.maxFrame
  | backlog => c.backlog == 0
  | bufferSize => c.buffers.bufferSize == 0
  | capacity =>
    match c.buffers with
    | .pooled 0 _ => true
    | _ => false
  | grace => c.grace == 0

/-- What a violation says. -/
def message : Constraint → String
  | workerThreads => "worker_threads must be greater than 0"
  | framePositive => "max_frame_size must be greater than 0"
  | frameBounded => "max_frame_size must be less than " ++ toString frameBound
  | backlog => "backlog must be greater than 0"
  | bufferSize => "buffer_size must be greater than 0"
  | capacity => "pooled buffer capacity must be greater than 0"
  | grace => "shutdown_grace must be greater than 0"

end Constraint

/-- The first constraint that is violated. -/
def firstViolation (c : Config) : Option Constraint :=
  Constraint.all.find? (·.violated c)

/-- Refuses settings that violate a constraint. -/
def validate (c : Config) : Except Fault Unit :=
  match c.firstViolation with
  | some constraint => .error (.config (.validation constraint.message))
  | none => .ok ()

/-- Settings pass exactly if no constraint is violated. -/
theorem validate_ok_iff (c : Config) :
    c.validate = .ok () ↔ ∀ constraint, Constraint.violated c constraint = false := by
  have all : ∀ constraint, constraint ∈ Constraint.all := by
    intro constraint; cases constraint <;> decide
  unfold validate firstViolation
  cases h : Constraint.all.find? (·.violated c) with
  | none =>
    simp only [true_iff]
    intro constraint
    have := List.find?_eq_none.mp h constraint (all constraint)
    simpa using this
  | some constraint =>
    simp only [reduceCtorEq, false_iff]
    intro hall
    have := List.find?_some h
    rw [hall constraint] at this
    exact Bool.noConfusion this

/-- A hook in a log. -/
def hookText {α : Type} (hook : Option α) : String :=
  Text.optional (hook.map fun _ => "Hook(..)")

/-- Settings in a log. -/
def text (c : Config) : String :=
  Text.record "ServerConfig"
    [("port", c.port.text), ("host", c.host.text), ("transport", c.transport.logText),
      ("os_name", Text.optional (c.osName.map Text.quoted)),
      ("worker_threads", Text.optional (c.workerThreads.map toString)),
      ("buffer_policy", c.buffers.text), ("keep_alive", Text.truth c.keepAlive),
      ("backlog", toString c.backlog), ("max_frame_size", toString c.maxFrame),
      ("shutdown_grace", Text.duration c.grace), ("options", hookText c.optionsHook),
      ("worker_runtime", hookText c.workerHook)]

end Config

end PacketServer
