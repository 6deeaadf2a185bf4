import ServerlessComponents.TraceAgent.RescueClock
import ServerlessComponents.TraceAgent.Concentrator
import ServerlessComponents.TraceAgent.StatsShutdown
import ServerlessComponents.TraceAgent.TraceShutdown
import ServerlessComponents.TraceAgent.PayloadSplitting
import ServerlessComponents.TraceAgent.TraceBatches
import ServerlessComponents.TraceAgent.MetadataPartition
import ServerlessComponents.TraceAgent.TagReaders
import ServerlessComponents.TraceAgent.ProxyFlusher
import ServerlessComponents.MainLoop.LogRetries
import ServerlessComponents.MainLoop.MetricsFlush
import ServerlessComponents.MainLoop.VanishedRequesters
import ServerlessComponents.MainLoop.WireToIntake
import ServerlessComponents.Dogstatsd.KeyLoading
import ServerlessComponents.Dogstatsd.TypeSeparation
import ServerlessComponents.Dogstatsd.ContextMap
import ServerlessComponents.Dogstatsd.Flusher
import ServerlessComponents.Dogstatsd.Batches
import ServerlessComponents.Dogstatsd.Timestamps
import ServerlessComponents.Dogstatsd.TagSections
import ServerlessComponents.Dogstatsd.OversizedLines
import ServerlessComponents.Dogstatsd.PacketLines
import ServerlessComponents.Dogstatsd.LoopRuns
import ServerlessComponents.LogsAgent.Intake
import ServerlessComponents.TraceSampler.RateBookkeeping
import ServerlessComponents.TraceSampler.RateLimited
import ServerlessComponents.TraceSampler.Canonical
import ServerlessComponents.TraceSampler.TraceIds
import ServerlessComponents.AgentConfig.CompressionLevels
import ServerlessComponents.AgentConfig.Rebuild
import ServerlessComponents.AgentConfig.Encodings
import ServerlessComponents.AgentConfig.Durations
import ServerlessComponents.LogsAgent.IntakeEntry
import ServerlessComponents.TraceAgent.EnqueuePermits
import ServerlessComponents.MetricsCollector.AzureCpu
import ServerlessComponents.MockIntake.CaptureOrder
import ServerlessComponents.MainLoop.CounterTotals
import ServerlessComponents.MainLoop.LogDelivery
import ServerlessComponents.Metadata.Platform
import ServerlessComponents.Metadata.Reporter
import ServerlessComponents.MockIntake.Connections
import ServerlessComponents.MockIntake.Dumps
import ServerlessComponents.MockIntake.Summaries
import ServerlessComponents.TraceAgent.Feeds
import ServerlessComponents.TraceAgent.ProxyQueue
import ServerlessComponents.TraceAgent.StatsSource
import ServerlessComponents.TraceAgent.TraceOrder
import ServerlessComponents.TraceAgent.RescuedRates
import ServerlessComponents.Fips.CertificateDistrust
import ServerlessComponents.Dogstatsd.Stopping
import ServerlessComponents.Dogstatsd.Allocations
import ServerlessComponents.TraceAgent.SharedTraces
