import PulseGrid.Lib.Transition
import PulseGrid.Lib.RunHistory
import PulseGrid.Lib.DashMap
import PulseGrid.Lib.Channel
import PulseGrid.Lib.Broadcast
import PulseGrid.Lib.TaskPool
import PulseGrid.Lib.ExpiringStore
import PulseGrid.Lib.CounterMap
import PulseGrid.Lib.RustStr
import PulseGrid.Lib.Sphere
import PulseGrid.Lib.RingSearch
import PulseGrid.Lib.BufferUnordered
import PulseGrid.Lib.FixedWidth
import PulseGrid.Lib.Float64
import PulseGrid.Lib.HexText
import PulseGrid.Lib.BlockReader
import PulseGrid.Lib.BucketCounts
import PulseGrid.Lib.Exposition
import PulseGrid.Lib.ExpositionReading
import PulseGrid.Lib.BatchedPurge
import PulseGrid.Lib.Chrono
import PulseGrid.Lib.TokenBucket
import PulseGrid.Infra.Histogram
import PulseGrid.Infra.Metrics
import PulseGrid.Infra.MetricsText
import PulseGrid.Infra.MetricsPage
import PulseGrid.Domain.Device
import PulseGrid.Domain.Auth
import PulseGrid.Domain.Protocol
import PulseGrid.Domain.ApiKeys
import PulseGrid.Domain.Geohash
import PulseGrid.Domain.Geo
import PulseGrid.Domain.StandardGrid
import PulseGrid.Domain.GeohashGrid
import PulseGrid.Domain.TorusGrid
import PulseGrid.Domain.RoutingCoverage
import PulseGrid.Domain.RadiusMonotone
import PulseGrid.Domain.CircleQuery
import PulseGrid.Worker.ConnectionRegistry
import PulseGrid.Worker.FlatRegistry
import PulseGrid.Worker.RegistryLemmas
import PulseGrid.Worker.RegistryRefinement
import PulseGrid.Worker.RegistryLoops
import PulseGrid.Worker.RegistryRuns
import PulseGrid.Worker.RegistryTraffic
import PulseGrid.Worker.RegistryInterleaving
import PulseGrid.Worker.RegistryIndexAgreement
import PulseGrid.Worker.RegistryConcurrent
import PulseGrid.Worker.Socket
import PulseGrid.Worker.SocketCell
import PulseGrid.Worker.SocketClose
import PulseGrid.Coordinator.DeviceService
import PulseGrid.Coordinator.LocationAgreement
import PulseGrid.Coordinator.ShardChangeReport
import PulseGrid.Coordinator.AlertDispatch
import PulseGrid.Coordinator.TokenRevocation
import PulseGrid.Coordinator.Retention
import PulseGrid.Coordinator.Config
import PulseGrid.Coordinator.ConfigRange
import PulseGrid.Coordinator.RateLimit
import PulseGrid.Coordinator.Telemetry
import PulseGrid.Coordinator.DashboardEvents
import PulseGrid.Coordinator.DashboardPage
import PulseGrid.Coordinator.DashboardDevices
import PulseGrid.Worker.Connect
import PulseGrid.Worker.WorkerTasks
import PulseGrid.Worker.CurrentConnection
import PulseGrid.Worker.WorkerTraffic
import PulseGrid.Worker.FanoutAccounting
import PulseGrid.Worker.PresenceTeardown
import PulseGrid.System.Fleet
import PulseGrid.System.Tickets
import PulseGrid.System.TicketsOnce
import PulseGrid.System.Revocation
import PulseGrid.System.LocationTracking
import PulseGrid.Worker.ShardLease
import PulseGrid.Worker.ShardExclusivity
import PulseGrid.Worker.AcquireAll
import PulseGrid.Worker.Replay
import PulseGrid.Worker.ReplayNewest
import PulseGrid.Worker.AckBatching
import PulseGrid.Worker.AckCursor
import PulseGrid.Worker.LiveAndReplay
import PulseGrid.Worker.Delivery
import PulseGrid.Worker.AtLeastOnce
import PulseGrid.Worker.AlertStats
import PulseGrid.Worker.ShardPrefixes
import PulseGrid.Worker.Config
import PulseGrid.Coordinator.DashboardEvents
import PulseGrid.Coordinator.DashboardPage
