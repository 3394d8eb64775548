import Retrovue.Foundation.Transition
import Retrovue.Core.Feed.Model
import Retrovue.Core.Feed.Sequence
import Retrovue.Core.Feed.Credit
import Retrovue.Core.Horizon.ExecutionWindowStore
import Retrovue.Core.Planning.Pipeline
import Retrovue.Core.Planning.Conservation
import Retrovue.Core.Schedule.Manager
import Retrovue.Foundation.Tiling
import Retrovue.Core.Schedule.Projection
import Retrovue.Core.Compiler.Dsl
import Retrovue.Core.Compiler.Blocks
import Retrovue.Core.Compiler.Schedule
import Retrovue.Core.Compiler.Timeline
import Retrovue.Core.Horizon.DslScheduleService
import Retrovue.Core.Horizon.DslSeams
import Retrovue.Air.Blockplan.SeamFrames
import Retrovue.Air.Blockplan.FrameSelection
import Retrovue.Air.Blockplan.SeamPreparer
import Retrovue.Air.Blockplan.Pipeline
import Retrovue.Air.Blockplan.Wallfence
import Retrovue.Air.Blockplan.BlockOrder
import Retrovue.Air.Blockplan.SegmentChain
import Retrovue.Air.Blockplan.FrameAuthority
import Retrovue.Air.Blockplan.SegmentIdentity
import Retrovue.Air.Blockplan.OutputClock
import Retrovue.Air.Blockplan.PlaybackSpeed
import Retrovue.Core.Playlog.Blocks
import Retrovue.Core.Playlog.TransmissionLog
import Retrovue.Core.Playlog.ChannelIsolation
import Retrovue.Core.Playlog.Coverage
import Retrovue.Air.Blockplan.Join
import Retrovue.Core.Handoff.BlockPlan
import Retrovue.Core.Handoff.Joining
import Retrovue.Core.Handoff.Acceptance
import Retrovue.Core.Handoff.MidJoin
import Retrovue.Core.Horizon.StoreIntegrity
import Retrovue.Air.Blockplan.Validator
import Retrovue.Air.Evidence.Envelope
import Retrovue.Air.Evidence.Wire
import Retrovue.Air.Evidence.Spool
import Retrovue.Core.Horizon.HorizonCoverage
import Retrovue.Core.Horizon.DslDays
import Retrovue.Core.Viewers.ChannelManager
import Retrovue.Core.Viewers.Lifecycle
import Retrovue.Foundation.TextSearch
import Retrovue.Core.AsRun.Validator
import Retrovue.Core.AsRun.Contract
import Retrovue.Air.Encoder.AudioChunks
import Retrovue.Air.Encoder.MuxContinuity
import Retrovue.Air.Runtime.HouseRate
import Retrovue.Air.Output.SocketSink
import Retrovue.Core.Viewers.Recovery
import Retrovue.Core.Zones.Coverage
import Retrovue.Core.Zones.Expansion
import Retrovue.Core.Zones.Edits
import Retrovue.Core.Streams.Buffers
import Retrovue.Core.Streams.RingAccounting
import Retrovue.Core.Streams.ChannelStream
import Retrovue.Core.Streams.Delivery
import Retrovue.Core.Streams.FanoutBuffers
import Retrovue.Core.Streams.OneFanout
import Retrovue.Core.Viewers.PhantomCleanup
import Retrovue.Air.Blockplan.RationalTime
import Retrovue.Air.Blockplan.Deadlines
import Retrovue.Air.Blockplan.AudioLookahead
import Retrovue.Core.Handoff.Wire
import Retrovue.Core.Streams.HlsSegmenter
import Retrovue.Core.Streams.Segmentation
import Retrovue.Core.Streams.Discontinuity
import Retrovue.Air.Blockplan.FrameBudget
import Retrovue.Air.Blockplan.SeamPlan
import Retrovue.Air.Blockplan.Decimation
import Retrovue.Core.Handoff.PlayoutSession
import Retrovue.Core.Schedule.ResolvedStore
import Retrovue.Core.Handoff.Partition
import Retrovue.Core.Planning.ContentSlices
import Retrovue.Core.Compiler.Layers
import Retrovue.Core.Schedule.Atomicity
import Retrovue.Core.Compiler.Contiguity
import Retrovue.Core.Compiler.Sequence
import Retrovue.Core.Compiler.Marathon
import Retrovue.Air.Blockplan.VideoLookahead
import Retrovue.Air.Blockplan.SeamRequests
import Retrovue.Air.Blockplan.SegmentFade
import Retrovue.Air.Blockplan.PlaybackTrace
import Retrovue.Air.Timing.TimelineController
import Retrovue.Core.AsRun.Reconciler
import Retrovue.Air.Evidence.SpoolLine
import Retrovue.Core.Horizon.Accounting
import Retrovue.Core.Schedule.EpgQueries
import Retrovue.Core.Planning.LogArtifact
import Retrovue.Core.Planning.LogSeams
import Retrovue.Foundation.FirstFit
import Retrovue.Core.Planning.BreakFilling
import Retrovue.Air.Runtime.PlayoutControl
import Retrovue.Core.Metadata.SidecarMerge
import Retrovue.Core.Metadata.ScopePrecedence
import Retrovue.Core.Ingest.Canonical
import Retrovue.Core.Ingest.CanonicalForms
import Retrovue.Core.Ingest.CanonicalUris
import Retrovue.Core.Ingest.CanonicalIdentity
import Retrovue.Core.Assets.Calls
import Retrovue.Core.Assets.Enriching
import Retrovue.Core.Assets.Consistency
import Retrovue.Core.Assets.Lifecycle
import Retrovue.Air.Buffer.FrameRingBuffer
import Retrovue.Air.Output.OutputBus
import Retrovue.Air.Blockplan.Reaper
import Retrovue.Air.Blockplan.FillGate
import Retrovue.Core.Playlog.Traffic
import Retrovue.Core.Playlog.TrafficLog
import Retrovue.Core.AsRun.Delivery
