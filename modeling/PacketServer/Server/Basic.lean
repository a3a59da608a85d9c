import PacketServer.Config.Builder
import PacketServer.Lifecycle
import PacketServer.Pipeline.Run

/-!
# A server

A server is made of checked settings and a checked specification of its
connections' pipelines. The limit on bodies in the settings goes before the
limits in the specification.
-/

namespace PacketServer

/-- Settings and the specification of the pipelines. -/
structure Server (σ ν : Type) where
  config : Config
  spec : Spec σ ν

namespace Server

variable {σ ν : Type}

/-- A server, if its settings and its specification pass their checks. -/
def ofConfig (config : Config) (spec : Spec σ ν) : Except Fault (Server σ ν) :=
  match config.validate, spec.validate with
  | .error e, _ => .error e
  | .ok (), .error e => .error (.config e)
  | .ok (), .ok () => .ok { config := config, spec := spec.limitFrames config.maxFrame }

/-- A server of the settings that were collected, on a host whose system has
the given name. -/
def build (builder : Builder) (hostName : Option String) (spec : Spec σ ν) :
    Except Fault (Server σ ν) :=
  match builder.toConfig hostName with
  | .error e => .error e
  | .ok config => ofConfig config spec

/-- A server in a log. -/
def text (s : Server σ ν) (phase : Phase) (localAddress : Option Address) : String :=
  Text.record "Server"
    [("config", s.config.text), ("pipeline", s.spec.text), ("state", phase.logText),
      ("local_addr", Text.optional (localAddress.map (·.text)))]

end Server

end PacketServer
