import FlowSteer.IdMap.Lemmas
import FlowSteer.Metrics.Render
import FlowSteer.Plane.Run
import FlowSteer.Proofs.Atomicity
import FlowSteer.Proofs.Attribution
import FlowSteer.Proofs.BatchedDrains
import FlowSteer.Proofs.BreachReports
import FlowSteer.Proofs.BringUp
import FlowSteer.Proofs.Buffers.Custody
import FlowSteer.Proofs.Buffers.Supply
import FlowSteer.Proofs.CircuitBreaker
import FlowSteer.Proofs.Coalescing
import FlowSteer.Proofs.Conservation
import FlowSteer.Proofs.Degraded
import FlowSteer.Proofs.DescriptorLengths
import FlowSteer.Proofs.Device.Hints
import FlowSteer.Proofs.DeviceHints
import FlowSteer.Proofs.Failover.Breaches
import FlowSteer.Proofs.Failover.Refusals
import FlowSteer.Proofs.FireTimes
import FlowSteer.Proofs.FirstBindings
import FlowSteer.Proofs.FlowAging
import FlowSteer.Proofs.FlowHashes
import FlowSteer.Proofs.FlowOwnership
import FlowSteer.Proofs.IndependentDuties
import FlowSteer.Proofs.Json.Records
import FlowSteer.Proofs.Json.Tokens
import FlowSteer.Proofs.Json.Writing
import FlowSteer.Proofs.Link.Batches
import FlowSteer.Proofs.Link.Endings
import FlowSteer.Proofs.Link.Invariants
import FlowSteer.Proofs.Link.Signals
import FlowSteer.Proofs.Metrics.Nodes
import FlowSteer.Proofs.MetricsAgreement
import FlowSteer.Proofs.NodePartition
import FlowSteer.Proofs.OutOfService
import FlowSteer.Proofs.OutageRecords
import FlowSteer.Proofs.PartialSettings
import FlowSteer.Proofs.Percentiles
import FlowSteer.Proofs.PoolCounts
import FlowSteer.Proofs.Quarantine
import FlowSteer.Proofs.RateLines
import FlowSteer.Proofs.RatePlacement
import FlowSteer.Proofs.Rebalancing
import FlowSteer.Proofs.ReceivePosting
import FlowSteer.Proofs.Reconfiguration
import FlowSteer.Proofs.RecoverySweeps
import FlowSteer.Proofs.Registry.Independence
import FlowSteer.Proofs.RemapCompleteness
import FlowSteer.Proofs.RemapHistory
import FlowSteer.Proofs.Rollbacks
import FlowSteer.Proofs.SettingsChange
import FlowSteer.Proofs.SettingsFiles
import FlowSteer.Proofs.Shutdown
import FlowSteer.Proofs.Statistics
import FlowSteer.Proofs.Steering
import FlowSteer.Proofs.TrafficHistory
import FlowSteer.Proofs.Transport
import FlowSteer.Proofs.Wakeups
import FlowSteer.Settings.Text
