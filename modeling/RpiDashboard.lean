import RpiDashboard.Protocol.DecoderLaws
import RpiDashboard.Protocol.RoundTripLaws
import RpiDashboard.Telemetry.IdentityLaws
import RpiDashboard.Telemetry.FreshnessLaws
import RpiDashboard.Daemon.RunLaws
import RpiDashboard.Cbor.Canonical
import RpiDashboard.Daemon.CanonicalLaws
import RpiDashboard.Protocol.FramingLaws
import RpiDashboard.Qt.DateTime
import RpiDashboard.Qt.Json
import RpiDashboard.Qt.Text
import RpiDashboard.Weather.WeatherServiceLaws
import RpiDashboard.Weather.OperationsLaws
import RpiDashboard.Weather.AirQualityLaws
import RpiDashboard.Weather.WeatherConfig
import RpiDashboard.Weather.WeatherProvider
import RpiDashboard.Projects.CacheLaws
import RpiDashboard.Projects.Panel
import RpiDashboard.Projects.PanelLaws
import RpiDashboard.Projects.RunnerLaws
import RpiDashboard.Projects.SelectionLaws
import RpiDashboard.Projects.LateReplyLaws
import RpiDashboard.Projects.DiscoveryLaws
import RpiDashboard.Projects.ArrivalLaws
import RpiDashboard.Projects.RefreshLaws
import RpiDashboard.Numeric.Arithmetic
import RpiDashboard.Numeric.DoubleLaws
import RpiDashboard.Projects.ProjectHealth
import RpiDashboard.Projects.ProjectsListModel
import RpiDashboard.Data.Sorted
import RpiDashboard.Qt.TextLaws
import RpiDashboard.Numeric.ArithmeticLaws
import RpiDashboard.Daemon.Host
import RpiDashboard.Daemon.AcceptLaws
import RpiDashboard.Daemon.BuildLaws
import RpiDashboard.Daemon.Metrics
import RpiDashboard.Daemon.MetricsLaws
import RpiDashboard.Qt.Utf8Laws
import RpiDashboard.Daemon.SystemInfo
import RpiDashboard.Daemon.SystemInfoLaws
import RpiDashboard.Projects.RunnerLaws
import RpiDashboard.Projects.SelectionLaws
import RpiDashboard.Projects.LateReplyLaws
import RpiDashboard.Projects.DiscoveryLaws
import RpiDashboard.Data.Program
import RpiDashboard.Daemon.Identity
import RpiDashboard.Daemon.IdentityLaws
import RpiDashboard.Numeric.DoubleLaws
import RpiDashboard.Weather.LocationLaws
import RpiDashboard.Sysmetrics.SystemMetricHistoryModel
import RpiDashboard.Sysmetrics.SysMetricsService
import RpiDashboard.Sysmetrics.CollectionLaws
import RpiDashboard.Data.Script
import RpiDashboard.Install.Upgrade
import RpiDashboard.Install.UpgradeLaws
import RpiDashboard.Install.Activation
import RpiDashboard.Install.ActivationLaws
import RpiDashboard.Numeric.Bezier
import RpiDashboard.Dashboard.ResourceHistoryGeometry
import RpiDashboard.Dashboard.GeometryLaws
import RpiDashboard.Dashboard.TangentLaws
import RpiDashboard.Dashboard.IntersectionLaws
import RpiDashboard.Projects.IntervalLaws
import RpiDashboard.Projects.BudgetLaws
import RpiDashboard.Data.View
import RpiDashboard.Qt.Bytes
import RpiDashboard.Sysinfo.LinuxSysInfoCollector
import RpiDashboard.Daemon.PrivacyLaws
import RpiDashboard.Sysinfo.PrivacyLaws
import RpiDashboard.Qt.JsonText
import RpiDashboard.Weather.WeatherCache
import RpiDashboard.Qt.JsonReference
import RpiDashboard.Weather.CacheRoundTripLaws
import RpiDashboard.Weather.CacheValidationLaws
import RpiDashboard.Qt.ItemModel
import RpiDashboard.Sysinfo.SysInfoService
import RpiDashboard.Telemetry.Signals
import RpiDashboard.Dashboard.DeviceModel
import RpiDashboard.Dashboard.DeviceModelLaws
import RpiDashboard.Data.Utf8
import RpiDashboard.Daemon.TextLaws
import RpiDashboard.Daemon.IdentityParseLaws
import RpiDashboard.Numeric.RoundingLaws
import RpiDashboard.Dashboard.DeviceValueLaws
import RpiDashboard.Data.Sums
import RpiDashboard.Daemon.ReportLaws
import RpiDashboard.Sysmetrics.LinuxSysMetricsCollector
import RpiDashboard.Sysmetrics.CollectorLaws
import RpiDashboard.Sysmetrics.CpuUsageLaws
import RpiDashboard.Sysmetrics.NetworkRateLaws
import RpiDashboard.Data.Firsts
import RpiDashboard.Sysmetrics.StorageListLaws
import RpiDashboard.Daemon.Config
import RpiDashboard.Daemon.ConfigLaws
import RpiDashboard.Daemon.ConfigLayoutLaws
import RpiDashboard.Qt.Extension
import RpiDashboard.Protocol.ForwardLaws
import RpiDashboard.Dashboard.ResourceHistorySeries
import RpiDashboard.Data.Retention
import RpiDashboard.Dashboard.HistoryRetentionLaws
import RpiDashboard.Daemon.CpuListLaws
import RpiDashboard.Data.Strip
import RpiDashboard.Sysinfo.OnlineParityLaws
import RpiDashboard.Sysinfo.MemoryParityLaws
import RpiDashboard.Daemon.GpuStatsLaws
import RpiDashboard.Data.Least
import RpiDashboard.Projects.StageLaws
import RpiDashboard.Weather.RetryLaws
import RpiDashboard.Numeric.NearestLaws
import RpiDashboard.Weather.OneCall
import RpiDashboard.Weather.WindDirectionLaws
import RpiDashboard.Weather.RemainingDayLaws
import RpiDashboard.Weather.SolarEventLaws
import RpiDashboard.Network.BoundedReply
import RpiDashboard.Network.BoundedReplyLaws
import RpiDashboard.Daemon.MountPathLaws
import RpiDashboard.Sysmetrics.HistoryPruningLaws
import RpiDashboard.Data.Replace
import RpiDashboard.Weather.Diagnostics
import RpiDashboard.Weather.DiagnosticsLaws
import RpiDashboard.Protocol.ExactLaws
import RpiDashboard.Daemon.ExchangeLaws
import RpiDashboard.Telemetry.Deployment
import RpiDashboard.Telemetry.DeploymentLaws
import RpiDashboard.Telemetry.ProvenanceLaws
import RpiDashboard.Telemetry.AgreementLaws
import RpiDashboard.Telemetry.RecoveryLaws
import RpiDashboard.Telemetry.PacketCountLaws
import RpiDashboard.Dashboard.Screen
import RpiDashboard.Dashboard.ScreenLaws
import RpiDashboard.Data.Sessions
import RpiDashboard.Dashboard.ScreensaverController
import RpiDashboard.Dashboard.ScreensaverControllerLaws
import RpiDashboard.Dashboard.ScrollLaws
import RpiDashboard.Dashboard.ResourceHistoryScene
import RpiDashboard.Dashboard.ResourceHistorySceneLaws
import RpiDashboard.Data.Bindings
import RpiDashboard.Weather.Signals
import RpiDashboard.Weather.SignalLaws
import RpiDashboard.Projects.Signals
import RpiDashboard.Projects.SignalLaws
import RpiDashboard.Data.Progress
import RpiDashboard.Projects.ProgressLaws
import RpiDashboard.Numeric.OrderLaws
import RpiDashboard.Weather.Models
import RpiDashboard.Weather.ModelLaws
import RpiDashboard.Weather.ProgressLaws
import RpiDashboard.Weather.Restarts
import RpiDashboard.Weather.RestartLaws
import RpiDashboard.Weather.Replies
import RpiDashboard.Weather.ReplyLaws
import RpiDashboard.Dashboard.Startup
import RpiDashboard.Dashboard.StartupLaws
import RpiDashboard.Install.Provision
import RpiDashboard.Install.ProvisionLaws
