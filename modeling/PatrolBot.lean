import PatrolBot.Library.Machine
import PatrolBot.TeleopLifecycle
import PatrolBot.TeleopPublication
import PatrolBot.TuningPolicy
import PatrolBot.TuningKeys
import PatrolBot.TuningSigning
import PatrolBot.TuningAdmitted
import PatrolBot.TuningLatch
import PatrolBot.TuningProvenance
import PatrolBot.ExecutorExclusion
import PatrolBot.ExecutorPending
import PatrolBot.ExecutorStop
import PatrolBot.ExecutorBarrier
import PatrolBot.ExecutorCancel
import PatrolBot.ServerForwarding
import PatrolBot.ServerReset
import PatrolBot.ServerManual
import PatrolBot.ServerCloseOut
import PatrolBot.ServerOwnership
import PatrolBot.ServerSessions
import PatrolBot.ServerStart
import PatrolBot.ServerStop
import PatrolBot.ServerOneResult
import PatrolBot.DashboardGates
import PatrolBot.BrowserTelemetry
import PatrolBot.BridgeReset
import PatrolBot.BridgeIngress
import PatrolBot.BridgeVelocity
import PatrolBot.BridgeHello
import PatrolBot.BrowserSessions
import PatrolBot.TelemetryFrames
import PatrolBot.BrowserQueue
import PatrolBot.HubMotion
import PatrolBot.TeleopMalformed
import PatrolBot.ManualDrain
import PatrolBot.RecordingSingle
import PatrolBot.RecordingCount
import PatrolBot.RecordingPages
import PatrolBot.ExportArchive
import PatrolBot.ExportCeiling
import PatrolBot.ExportJoin
import PatrolBot.Library.JsonQuotes
import PatrolBot.BridgeQueue
import PatrolBot.TuningDrafts
import PatrolBot.TuningMirror
import PatrolBot.BatteryHistory
import PatrolBot.Diagnostics
import PatrolBot.ServerStatus
import PatrolBot.TuningScan
import PatrolBot.DatabaseWriter
import PatrolBot.ExecutorPath
import PatrolBot.Library.TokenBucket
import PatrolBot.RateLimiter
import PatrolBot.Debounce
import PatrolBot.ReplayPlayhead
import PatrolBot.BatteryTrend
import PatrolBot.StaticMap
import PatrolBot.MapCatalog
import PatrolBot.MapReaders
import PatrolBot.ExportEquality
import PatrolBot.ReceiptSoundness
import PatrolBot.CommandSafety
import PatrolBot.SignInSafety
import PatrolBot.ActiveMap
import PatrolBot.EventLog
import PatrolBot.TelemetryBinding
import PatrolBot.UiGateway
import PatrolBot.DashboardMirror
import PatrolBot.MapSync
