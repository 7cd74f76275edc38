import FrameGraph.Frame.InfoJson
import FrameGraph.Json.Printer
import FrameGraph.Main
import FrameGraph.Output.PixelDump
import FrameGraph.Proofs.Frame.Consistency
import FrameGraph.Proofs.Frame.Copies
import FrameGraph.Proofs.Frame.Disposal
import FrameGraph.Proofs.Frame.Planes
import FrameGraph.Proofs.Frame.Sizes
import FrameGraph.Proofs.Network.Acceptance
import FrameGraph.Proofs.Network.Calls
import FrameGraph.Proofs.Network.Production
import FrameGraph.Proofs.Output.Dumps
import FrameGraph.Proofs.Output.Recordings
import FrameGraph.Proofs.Pattern.Aborts
import FrameGraph.Proofs.Pattern.Colors
import FrameGraph.Proofs.Pattern.Walk
import FrameGraph.Proofs.Pipeline.Endpoints
import FrameGraph.Proofs.Pipeline.Hearing
import FrameGraph.Proofs.Pipeline.Leaks
import FrameGraph.Proofs.Pipeline.Overflow
import FrameGraph.Proofs.Pipeline.Persistence
import FrameGraph.Proofs.Pipeline.Registrations
import FrameGraph.Proofs.Pipeline.Routing
import FrameGraph.Proofs.Pipeline.Settings
import FrameGraph.Proofs.Pipeline.Starting
import FrameGraph.Proofs.Pool.Conservation
import FrameGraph.Proofs.Sink.Newest
import FrameGraph.Proofs.Sink.Runs
import FrameGraph.Proofs.Sink.Sessions
import FrameGraph.Proofs.Source.Pacing
import FrameGraph.Rehearsal.Answer.Blocks
import FrameGraph.Rehearsal.Session
