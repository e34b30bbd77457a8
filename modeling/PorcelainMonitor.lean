import PorcelainMonitor.Queue.Delivery
import PorcelainMonitor.Algorithms.RiskLevel
import PorcelainMonitor.Modules.CrackIdentity
import PorcelainMonitor.Http.Agreement
import PorcelainMonitor.Database.Conservation
import PorcelainMonitor.Modules.CrackCodes
import PorcelainMonitor.Database.SqlText
import PorcelainMonitor.Modules.Shutdown
import PorcelainMonitor.Profinet.Chunking
import PorcelainMonitor.Database.AlertStore
import PorcelainMonitor.Algorithms.DemDynamics
import PorcelainMonitor.WebSocket.Registry
import PorcelainMonitor.Modules.Startup
import PorcelainMonitor.Modules.Quiescence
import PorcelainMonitor.Alert.Hang
import PorcelainMonitor.Lib.OffsetDecoder
import PorcelainMonitor.Profinet.PayloadBytes
import PorcelainMonitor.Profinet.PayloadCodec
import PorcelainMonitor.Profinet.PayloadBounds
import PorcelainMonitor.Profinet.PayloadCounts
import PorcelainMonitor.Profinet.Truncation
import PorcelainMonitor.Profinet.Acknowledge
import PorcelainMonitor.Lib.LastWrite
import PorcelainMonitor.Metrics.History
import PorcelainMonitor.Lib.ExpositionFormat
import PorcelainMonitor.Metrics.Exposition
import PorcelainMonitor.Metrics.Histogram
import PorcelainMonitor.Database.Faults
import PorcelainMonitor.Database.PointReport
import PorcelainMonitor.Database.DetectionBatch
import PorcelainMonitor.Algorithms.PredictionShape
import PorcelainMonitor.Lib.RungeKutta
import PorcelainMonitor.Algorithms.RemainingLife
import PorcelainMonitor.Algorithms.RungeKutta
import PorcelainMonitor.Algorithms.XrdCalibration
import PorcelainMonitor.Database.BatchReport
import PorcelainMonitor.Http.RouteTable
import PorcelainMonitor.Http.DocRoot
import PorcelainMonitor.Algorithms.DemRun
import PorcelainMonitor.Http.Handlers
import PorcelainMonitor.JsonDump
import PorcelainMonitor.Http.Answered
import PorcelainMonitor.Http.UnknownEntity
import PorcelainMonitor.Settings.FailedLoad
import PorcelainMonitor.Modules.UsableSettings
import PorcelainMonitor.Modules.AlertRecords
import PorcelainMonitor.Algorithms.Packing
import PorcelainMonitor.Algorithms.Contacts
import PorcelainMonitor.Algorithms.Containment
import PorcelainMonitor.Algorithms.RepairScores
import PorcelainMonitor.Algorithms.RunStatistics
import PorcelainMonitor.Lib.SteadyTimer
import PorcelainMonitor.Simulator.ProfinetClient
import PorcelainMonitor.Frontend.WebSocketClient
import PorcelainMonitor.Frontend.PorcelainMonitorApp
import PorcelainMonitor.Lib.Layout
import PorcelainMonitor.Frontend.CrackLines
import PorcelainMonitor.Lib.CountedDecoder
import PorcelainMonitor.Profinet.DecodingWork
import PorcelainMonitor.Modules.FanOut
import PorcelainMonitor.Queue.Visibility
import PorcelainMonitor.Queue.Lifetime
import PorcelainMonitor.Lib.PoolDeadlock
import PorcelainMonitor.Database.Deadlock
import PorcelainMonitor.Database.History
import PorcelainMonitor.Http.Writes
import PorcelainMonitor.Http.AlertLife
import PorcelainMonitor.Http.Pages
import PorcelainMonitor.Algorithms.Independence
import PorcelainMonitor.Algorithms.Comparison
import PorcelainMonitor.Algorithms.ModelCalls
import PorcelainMonitor.Lib.PriorityPolling
import PorcelainMonitor.Modules.Polling
import PorcelainMonitor.Frontend.CrackGradient
import PorcelainMonitor.Modules.Rounds
import PorcelainMonitor.Modules.WorkerRecords
import PorcelainMonitor.Simulator.Fleet
import PorcelainMonitor.Frontend.RealtimePanel
import PorcelainMonitor.Frontend.CrackTubes
