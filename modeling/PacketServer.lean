import PacketServer.Address.Basic
import PacketServer.Address.Parser
import PacketServer.Backend
import PacketServer.Boot.Basic
import PacketServer.Boot.Chain
import PacketServer.Boot.Ensemble
import PacketServer.Boot.Jobs
import PacketServer.BufferPool.Basic
import PacketServer.BufferPool.Loans
import PacketServer.Bytes
import PacketServer.Completion
import PacketServer.Config.Basic
import PacketServer.Config.Builder
import PacketServer.Connection.Basic
import PacketServer.Connection.Run
import PacketServer.Connection.Stream
import PacketServer.Connection.Waiting
import PacketServer.Fault
import PacketServer.Host
import PacketServer.Lifecycle
import PacketServer.Lifecycle.Cell
import PacketServer.Packet
import PacketServer.Pipeline.Basic
import PacketServer.Pipeline.Run
import PacketServer.Pipeline.Spec
import PacketServer.Proofs.Boot.Booting
import PacketServer.Proofs.Boot.Course
import PacketServer.Proofs.Boot.Errands
import PacketServer.Proofs.Boot.Findings
import PacketServer.Proofs.Boot.Judgement
import PacketServer.Proofs.Boot.Outcome
import PacketServer.Proofs.Boot.Return
import PacketServer.Proofs.Boot.Surplus
import PacketServer.Proofs.BufferPool.Lending
import PacketServer.Proofs.BufferPool.Recycling
import PacketServer.Proofs.Completion.Delivery
import PacketServer.Proofs.Completion.Reuse
import PacketServer.Proofs.Config.Collected
import PacketServer.Proofs.Config.Selection
import PacketServer.Proofs.Connection.Arrivals
import PacketServer.Proofs.Connection.Backlog
import PacketServer.Proofs.Connection.Calls
import PacketServer.Proofs.Connection.Chronicle
import PacketServer.Proofs.Connection.Conduct
import PacketServer.Proofs.Connection.Course
import PacketServer.Proofs.Connection.Integrity
import PacketServer.Proofs.Connection.Life
import PacketServer.Proofs.Connection.Output
import PacketServer.Proofs.Connection.Replies
import PacketServer.Proofs.Connection.Requested
import PacketServer.Proofs.Connection.Segmentation
import PacketServer.Proofs.Lifecycle.Passage
import PacketServer.Proofs.Pipeline.Alike
import PacketServer.Proofs.Pipeline.Composition
import PacketServer.Proofs.Pipeline.Ending
import PacketServer.Proofs.Pipeline.Exchange
import PacketServer.Proofs.Pipeline.Flush
import PacketServer.Proofs.Pipeline.Frame
import PacketServer.Proofs.Pipeline.Naming
import PacketServer.Proofs.Pipeline.Resumption
import PacketServer.Proofs.Pipeline.Steps
import PacketServer.Proofs.Pipeline.Trail
import PacketServer.Proofs.Server.Custody
import PacketServer.Proofs.Server.Equipment
import PacketServer.Proofs.Server.Failure
import PacketServer.Proofs.Server.Handling
import PacketServer.Proofs.Server.Holding
import PacketServer.Proofs.Server.Move
import PacketServer.Proofs.Server.Orderly
import PacketServer.Proofs.Server.Ownership
import PacketServer.Proofs.Server.Reception
import PacketServer.Proofs.Server.Run
import PacketServer.Proofs.Server.Standing
import PacketServer.Proofs.Server.Verdicts
import PacketServer.Proofs.Server.Winners
import PacketServer.Proofs.Text.Folding
import PacketServer.Proofs.Wire.Chunking
import PacketServer.Proofs.Wire.Damage
import PacketServer.Proofs.Wire.Ending
import PacketServer.Proofs.Wire.Forms
import PacketServer.Proofs.Wire.Outcome
import PacketServer.Proofs.Wire.RoundTrip
import PacketServer.Proofs.Wire.Undone
import PacketServer.Script.Basic
import PacketServer.Server.Basic
import PacketServer.Server.Deployment
import PacketServer.Server.Groups
import PacketServer.Server.Session
import PacketServer.Server.System
import PacketServer.Text.Blank
import PacketServer.Text.Duration
import PacketServer.Text.Hidden
import PacketServer.Text.Quoted
import PacketServer.Text.Record
import PacketServer.Transport
import PacketServer.Wire.Basic
import PacketServer.Wire.Feed
import PacketServer.Wire.Grammar
import PacketServer.Wire.Reading
