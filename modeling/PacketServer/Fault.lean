import PacketServer.Address.Basic

/-!
# Faults

What can go wrong, as causes, with the one function that words them. A fault
of a part (the operating system's, a setting's, the codec's, the lifecycle's)
is a fault of the whole under a heading of its own; `Fault.service` wraps a
fault in the message of the service that met it, and `Fault.causes` follows
such wrappings.
-/

namespace PacketServer

/-- The kinds of fault that the operating system reports. -/
inductive IoKind
  | addrInUse | addrNotAvailable | brokenPipe | connectionRefused
  | connectionReset | invalidInput | networkUnreachable | notFound
  | permissionDenied | timedOut | unexpectedEof | writeZero | other | uncategorized
deriving DecidableEq

namespace IoKind

/-- What a kind says when nothing more is known. -/
def description : IoKind → String
  | addrInUse => "address in use"
  | addrNotAvailable => "address not available"
  | brokenPipe => "broken pipe"
  | connectionRefused => "connection refused"
  | connectionReset => "connection reset"
  | invalidInput => "invalid input parameter"
  | networkUnreachable => "network unreachable"
  | notFound => "entity not found"
  | permissionDenied => "permission denied"
  | timedOut => "timed out"
  | unexpectedEof => "unexpected end of file"
  | writeZero => "write zero"
  | other => "other error"
  | uncategorized => "uncategorized error"

/-- The name of a kind. -/
def name : IoKind → String
  | addrInUse => "AddrInUse"
  | addrNotAvailable => "AddrNotAvailable"
  | brokenPipe => "BrokenPipe"
  | connectionRefused => "ConnectionRefused"
  | connectionReset => "ConnectionReset"
  | invalidInput => "InvalidInput"
  | networkUnreachable => "NetworkUnreachable"
  | notFound => "NotFound"
  | permissionDenied => "PermissionDenied"
  | timedOut => "TimedOut"
  | unexpectedEof => "UnexpectedEof"
  | writeZero => "WriteZero"
  | other => "Other"
  | uncategorized => "Uncategorized"

/-- Every kind. -/
def all : List IoKind :=
  [addrInUse, addrNotAvailable, brokenPipe, connectionRefused, connectionReset,
    invalidInput, networkUnreachable, notFound, permissionDenied, timedOut,
    unexpectedEof, writeZero, other, uncategorized]

/-- The kind of a name. -/
def ofName? (s : String) : Option IoKind := all.find? fun kind => kind.name == s

theorem ofName?_name (kind : IoKind) : ofName? kind.name = some kind := by
  cases kind <;> decide

end IoKind

/-- A fault of the operating system. -/
structure IoError where
  kind : IoKind
  message : String
deriving DecidableEq

/-- A fault of which only the kind is known. -/
def IoError.ofKind (kind : IoKind) : IoError := ⟨kind, kind.description⟩

/-- Why bytes are no packet, or a packet has no bytes. -/
inductive CodecError
  | frameTooLarge (size max : Nat)
  | checksum (expected actual : UInt8)
  | truncated (remaining : Nat)
deriving DecidableEq

/-- The wording of a codec's fault. -/
def CodecError.message : CodecError → String
  | frameTooLarge size max =>
    "Frame too large: " ++ toString size ++ " bytes (max: " ++ toString max ++ ")"
  | checksum expected actual =>
    "Header checksum mismatch: expected 0x" ++ Text.hexByte expected ++
      ", got 0x" ++ Text.hexByte actual
  | truncated remaining =>
    "Truncated frame: " ++ toString remaining ++ " bytes left undecoded"

/-- Why settings are refused. -/
inductive ConfigError
  | invalidValue (field value : String)
  | missingField (field : String)
  | validation (text : String)
deriving DecidableEq

/-- The wording of a fault of the settings. -/
def ConfigError.message : ConfigError → String
  | invalidValue field value =>
    "Invalid configuration value for " ++ field ++ ": " ++ value
  | missingField field => "Missing required configuration: " ++ field
  | validation text => "Configuration validation failed: " ++ text

/-- Which lifecycle call came at the wrong time. -/
inductive LifecycleError
  | alreadyInitialized
  | notStartable
  | alreadyShutdown
deriving DecidableEq

/-- The wording of a lifecycle fault. -/
def LifecycleError.message : LifecycleError → String
  | alreadyInitialized => "Server already init"
  | notStartable => "Server already started or have not init"
  | alreadyShutdown => "Server was already shutdown"

/-- A fault of the server or of one of its connections. -/
inductive Fault
  | lifecycle (e : LifecycleError)
  | io (e : IoError)
  | config (e : ConfigError)
  | codec (e : CodecError)
  | bind (address : Address) (e : IoError)
  | service (text : String) (cause : Fault)
  | closed
  | handler (text : String)
  | other (text : String)
deriving DecidableEq

namespace Fault

/-- The wording of a fault. -/
def message : Fault → String
  | lifecycle e => "Lifecycle error: " ++ e.message
  | io e => "I/O error: " ++ e.message
  | config e => "Configuration error: " ++ e.message
  | codec e => "Codec error: " ++ e.message
  | bind address e => "Failed to bind " ++ address.text ++ ": " ++ e.message
  | service text _ => text
  | closed => "Connection closed"
  | handler text => "Handler error: " ++ text
  | other text => "Error: " ++ text

/-- Whether a lifecycle call came at the wrong time. -/
def isLifecycle : Fault → Bool
  | lifecycle _ => true
  | _ => false

/-- The wordings of a fault's causes, the nearest first. -/
def causes : Fault → List String
  | lifecycle e => [e.message]
  | io e => [e.message]
  | config e => [e.message]
  | codec e => [e.message]
  | bind _ e => [e.message]
  | service _ cause => cause.message :: cause.causes
  | closed => []
  | handler _ => []
  | other _ => []

end Fault

end PacketServer
