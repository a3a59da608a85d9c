import PacketServer.Config.Basic
import PacketServer.Address.Parser

/-!
# Collecting settings

A builder collects settings one by one; what was not set keeps its usual
value. Binding an address sets host and port together, and giving the
system's name and declaring it unknown set the same thing. Only the port must
be set.
-/

namespace PacketServer

/-- One setting. -/
inductive Setting
  | port (port : Port)
  | host (host : Ip)
  | bind (address : Address)
  | transport (preference : Preference)
  | osName (name : String)
  | unknownOs
  | workerThreads (n : Nat)
  | buffers (policy : BufferPolicy)
  | keepAlive (enabled : Bool)
  | backlog (n : Nat)
  | maxFrame (n : Nat)
  | grace (ns : Nat)
  | options (hook : SocketOptions → SocketOptions)
  | workerGroup (hook : WorkerGroup → WorkerGroup)

namespace Setting

/-- Binding an address given as text. -/
def bindText (s : String) : Except Fault Setting :=
  match Address.resolve s with
  | .ok address => .ok (.bind address)
  | .error e => .error (.io e)

/-- Binding the first of some addresses. -/
def bindFirst : List Address → Except Fault Setting
  | address :: _ => .ok (.bind address)
  | [] => .error (.config (.validation "Invalid bind address"))

/-- Preferring a transport given as text. -/
def transportText (s : String) : Except ConfigError Setting :=
  (Preference.parse s).map transport

end Setting

/-- The settings collected so far. -/
structure Builder where
  port : Option Port := none
  host : Option Ip := none
  transport : Preference := .portable
  /-- The system's name; declared unknown if the inner value is missing. -/
  osName : Option (Option String) := none
  workerThreads : Option Nat := none
  buffers : Option BufferPolicy := none
  keepAlive : Option Bool := none
  backlog : Option Nat := none
  maxFrame : Option Nat := none
  grace : Option Nat := none
  options : Option (SocketOptions → SocketOptions) := none
  workerGroup : Option (WorkerGroup → WorkerGroup) := none

namespace Builder

/-- Makes one setting. -/
def set (b : Builder) : Setting → Builder
  | .port port => { b with port := some port }
  | .host host => { b with host := some host }
  | .bind address => { b with host := some address.ip, port := some address.port }
  | .transport preference => { b with transport := preference }
  | .osName name => { b with osName := some (some name) }
  | .unknownOs => { b with osName := some none }
  | .workerThreads n => { b with workerThreads := some n }
  | .buffers policy => { b with buffers := some policy }
  | .keepAlive enabled => { b with keepAlive := some enabled }
  | .backlog n => { b with backlog := some n }
  | .maxFrame n => { b with maxFrame := some n }
  | .grace ns => { b with grace := some ns }
  | .options hook => { b with options := some hook }
  | .workerGroup hook => { b with workerGroup := some hook }

/-- Makes settings one after the other. -/
def setAll (b : Builder) (settings : List Setting) : Builder := settings.foldl set b

/-- The settings collected, put in the place of the usual ones. -/
def fill (b : Builder) (hostName : Option String) (port : Port) : Config :=
  let usual := Config.ofPort hostName port
  { usual with
    transport := b.transport
    workerThreads := b.workerThreads
    host := b.host.getD usual.host
    osName := b.osName.getD usual.osName
    buffers := b.buffers.getD usual.buffers
    keepAlive := b.keepAlive.getD usual.keepAlive
    backlog := b.backlog.getD usual.backlog
    maxFrame := b.maxFrame.getD usual.maxFrame
    grace := b.grace.getD usual.grace
    optionsHook := b.options
    workerHook := b.workerGroup }

/-- The settings of a server on a host whose system has the given name. -/
def toConfig (b : Builder) (hostName : Option String) : Except Fault Config :=
  match b.port with
  | none => .error (.config (.missingField "port"))
  | some port =>
    let config := b.fill hostName port
    match config.validate with
    | .ok () => .ok config
    | .error e => .error e

end Builder

end PacketServer
