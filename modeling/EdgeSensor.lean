import EdgeSensor.Agent.Accounting
import EdgeSensor.Agent.BoundedQueue
import EdgeSensor.Agent.BufferedContext
import EdgeSensor.Agent.CrashDelivery
import EdgeSensor.Agent.Delivery
import EdgeSensor.Agent.DeltaRuns
import EdgeSensor.Agent.EventContext
import EdgeSensor.Agent.EventTailer
import EdgeSensor.Agent.FeedSigning
import EdgeSensor.Agent.IdsRuleApply
import EdgeSensor.Agent.IdsRuleConcurrency
import EdgeSensor.Agent.IdsRulePull
import EdgeSensor.Agent.IdsRuleRules
import EdgeSensor.Agent.IdsRuleSync
import EdgeSensor.Agent.ListfileConcurrency
import EdgeSensor.Agent.ListfileSync
import EdgeSensor.Agent.OperationalModeSync
import EdgeSensor.Agent.PolicySync
import EdgeSensor.Agent.RuleVersion
import EdgeSensor.Agent.SightingBudget
import EdgeSensor.Agent.SightingDirection
import EdgeSensor.Agent.SightingFile
import EdgeSensor.Agent.SightingPayload
import EdgeSensor.Agent.SightingQueue
import EdgeSensor.Agent.SightingReporter
import EdgeSensor.Agent.TailerRun
import EdgeSensor.Agent.TopologyDelta
import EdgeSensor.Agent.TopologyPublisher
import EdgeSensor.Agent.Upload
import EdgeSensor.Agent.UploadBuffer
import EdgeSensor.Agent.UploadRules
import EdgeSensor.Console.BaselineService
import EdgeSensor.Console.DefaultRoute
import EdgeSensor.Console.Drift
import EdgeSensor.Console.EdgexConfig
import EdgeSensor.Console.EventsCache
import EdgeSensor.Console.EventsIndex
import EdgeSensor.Console.Lifecycle
import EdgeSensor.Console.NetworkManager
import EdgeSensor.Console.Nmcli
import EdgeSensor.Console.WifiBands
import EdgeSensor.Console.WifiLinks
import EdgeSensor.Console.WifiPriority
import EdgeSensor.Console.WifiUplink
import EdgeSensor.Lib.Dict
import EdgeSensor.Lib.Emitter
import EdgeSensor.Lib.Files
import EdgeSensor.Lib.History
import EdgeSensor.Lib.Interleave
import EdgeSensor.Lib.KeyedDiff
import EdgeSensor.Lib.KeyedList
import EdgeSensor.Lib.Latch
import EdgeSensor.Lib.Meter
import EdgeSensor.Lib.Prog
import EdgeSensor.Lib.Records
import EdgeSensor.Lib.RetryBudget
import EdgeSensor.Lib.RowidTable
import EdgeSensor.Lib.Run
import EdgeSensor.Lib.SharedTemp
import EdgeSensor.Lib.SingleOwner
import EdgeSensor.Lib.Squeeze
import EdgeSensor.Lib.StampStore
import EdgeSensor.Lib.Streak
import EdgeSensor.Lib.TornFile
import EdgeSensor.Parser.Ber
import EdgeSensor.Parser.BerEncode
import EdgeSensor.Parser.Goose
import EdgeSensor.Parser.GooseBuild
import EdgeSensor.Parser.Mms
import EdgeSensor.Parser.Modbus
import EdgeSensor.Parser.Packet
import EdgeSensor.Py.Bytes
import EdgeSensor.Py.IpAddress
import EdgeSensor.Py.Json
import EdgeSensor.Py.JsonCodec
import EdgeSensor.Py.JsonLines
import EdgeSensor.Py.JsonRoundTrip
import EdgeSensor.Py.Lines
import EdgeSensor.Py.Number
import EdgeSensor.Py.Regex
import EdgeSensor.Py.Text
import EdgeSensor.Py.Value
import EdgeSensor.Sensor.AlertMapping
import EdgeSensor.Sensor.AssetEvidence
import EdgeSensor.Sensor.AssetOrder
import EdgeSensor.Sensor.AssetRoles
import EdgeSensor.Sensor.CaptureLoop
import EdgeSensor.Sensor.Collector
import EdgeSensor.Sensor.CollectorFeeds
import EdgeSensor.Sensor.CollectorShape
import EdgeSensor.Sensor.ConduitLevels
import EdgeSensor.Sensor.Coverage
import EdgeSensor.Sensor.CoverageTally
import EdgeSensor.Sensor.EventIds
import EdgeSensor.Sensor.Events
import EdgeSensor.Sensor.ExternalSource
import EdgeSensor.Sensor.FeatureRace
import EdgeSensor.Sensor.Features
import EdgeSensor.Sensor.FileRotation
import EdgeSensor.Sensor.HotReload
import EdgeSensor.Sensor.Iec61850
import EdgeSensor.Sensor.Inventory
import EdgeSensor.Sensor.Ioc
import EdgeSensor.Sensor.IocCache
import EdgeSensor.Sensor.IocExpiry
import EdgeSensor.Sensor.LivePipeline
import EdgeSensor.Sensor.ManagedListfile
import EdgeSensor.Sensor.MappingRule
import EdgeSensor.Sensor.MitreMap
import EdgeSensor.Sensor.MmsClients
import EdgeSensor.Sensor.ModbusWrites
import EdgeSensor.Sensor.ModeStore
import EdgeSensor.Sensor.Mvp
import EdgeSensor.Sensor.MvpRun
import EdgeSensor.Sensor.MvpWindow
import EdgeSensor.Sensor.OneShotRules
import EdgeSensor.Sensor.Phases
import EdgeSensor.Sensor.Pipeline
import EdgeSensor.Sensor.PoisonLines
import EdgeSensor.Sensor.Policy
import EdgeSensor.Sensor.PolicyReload
import EdgeSensor.Sensor.PolicyStores
import EdgeSensor.Sensor.PortScan
import EdgeSensor.Sensor.ProfileFrame
import EdgeSensor.Sensor.ProfilePush
import EdgeSensor.Sensor.PurdueClassifier
import EdgeSensor.Sensor.RelaySilence
import EdgeSensor.Sensor.RollingWindow
import EdgeSensor.Sensor.SiteCollector
import EdgeSensor.Sensor.TopologyBuilt
import EdgeSensor.Sensor.TopologyIntegrity
import EdgeSensor.Sensor.TopologyPasses
import EdgeSensor.Sensor.TopologySnapshot
import EdgeSensor.Sensor.TornReads
import EdgeSensor.Sensor.TrafficRate
import EdgeSensor.Sensor.XdpCapture
import EdgeSensor.System.IdRuns
import EdgeSensor.System.IocHandoff
import EdgeSensor.System.LearnDetect
import EdgeSensor.System.ManagedWhitelist
import EdgeSensor.System.NoFalseDrift
import EdgeSensor.System.RevisionDrift
import EdgeSensor.Vpn.Attempts
import EdgeSensor.Vpn.AuthFile
import EdgeSensor.Vpn.Backoff
import EdgeSensor.Vpn.CommandRuns
import EdgeSensor.Vpn.Commands
import EdgeSensor.Vpn.ProfileView
import EdgeSensor.Vpn.Supervisor
import EdgeSensor.Agent.SensorId
import EdgeSensor.Lib.Calendar
import EdgeSensor.Py.Datetime
import EdgeSensor.Sensor.SnortTimestamp
import EdgeSensor.Agent.TopologyOverride
import EdgeSensor.Console.EdgexLines
import EdgeSensor.Console.EdgexDevices
import EdgeSensor.Console.EdgexCoherence
import EdgeSensor.Agent.AgentSnapshot
import EdgeSensor.Agent.NorthboundMqtt
import EdgeSensor.Agent.PolicySubscriber
import EdgeSensor.Agent.Registration
import EdgeSensor.Lib.MtimeGate
import EdgeSensor.Lib.StampedFile
import EdgeSensor.System.CoverageHandoff
import EdgeSensor.System.ModeViews
import EdgeSensor.Agent.DetectionPolicySync
import EdgeSensor.Console.AuditLog
import EdgeSensor.Console.Auth
import EdgeSensor.Console.ConfigStore
import EdgeSensor.Sensor.DeviceProbe
import EdgeSensor.System.DetectionViews
import EdgeSensor.System.PlatformReaders
import EdgeSensor.System.VpnControl
import EdgeSensor.System.AlertRoute
import EdgeSensor.Agent.TickSequence
