import PacketServer.Config.Basic
import PacketServer.Host

/-!
# A bound transport

Binding opens the listening socket of a backend and makes the pool that
accepted connections borrow their buffers from. Accepted sockets inherit the
options. Whoever makes a pool for which there can be no room breaks off.
-/

namespace PacketServer

/-- A listening socket with what accepted connections get from it. -/
structure Transport where
  /-- The address that the socket listens on. -/
  address : Address
  backend : Backend
  options : SocketOptions
  /-- The pool of accepted connections. -/
  pool : BufferPool
deriving DecidableEq

namespace Transport

/-- Opens a listening socket on a host, and makes the pool; nothing comes of it
if there is no room for the pool. -/
def bind (host : Host) (address : Address) (backend : Backend) (options : SocketOptions) :
    Option (Except Fault Transport) × Host :=
  match host.listen address backend.isOptimized with
  | (.error e, host) => (some (.error (.bind address e.io)), host)
  | (.ok bound, host) =>
    if options.childBuffers.hasRoom then
      (some (.ok { address := bound, backend := backend, options := options,
                   pool := .ofPolicy options.childBuffers }), host)
    else (none, host.close bound)

end Transport

end PacketServer
