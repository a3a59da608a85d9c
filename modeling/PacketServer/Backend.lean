import PacketServer.Fault
import PacketServer.Text.Blank

/-!
# Choosing how to listen

A server prefers portable sockets or ones tuned for its operating system; the
tuned ones are used only where that system is known to be Linux. Preference
and system name are texts whose blanks around and whose ASCII case do not
matter.
-/

namespace PacketServer

/-- The sockets that a server would like. -/
inductive Preference
  | portable
  | optimized
deriving DecidableEq

namespace Preference

/-- The name of a preference. -/
def text : Preference → String
  | portable => "portable"
  | optimized => "optimized"

/-- A preference in a log. -/
def logText : Preference → String
  | portable => "Portable"
  | optimized => "Optimized"

/-- The preference that a text names. -/
def parse (s : String) : Except ConfigError Preference :=
  let name := Text.folded s
  if name = "portable".toList ∨ name = "nio".toList then .ok portable
  else if name = "optimized".toList ∨ name = "epoll".toList ∨ name = "native".toList then
    .ok optimized
  else .error (.invalidValue "transport" s)

end Preference

/-- The sockets that a server uses. -/
inductive Backend
  | portable
  /-- Sockets that may share their port, with a longer queue. -/
  | linuxOptimized
deriving DecidableEq

namespace Backend

/-- The name of a backend. -/
def text : Backend → String
  | portable => "portable"
  | linuxOptimized => "linux-optimized"

/-- Whether the backend is a tuned one. -/
def isOptimized : Backend → Bool
  | portable => false
  | linuxOptimized => true

/-- The backend for a preference on a system of the given name, if it has one. -/
def select (preference : Preference) (osName : Option String) : Backend :=
  match preference, osName with
  | .optimized, some name =>
    if "linux".toList.isPrefixOf (Text.folded name) then linuxOptimized else portable
  | _, _ => portable

end Backend

end PacketServer
