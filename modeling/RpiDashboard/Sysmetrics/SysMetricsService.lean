import RpiDashboard.Data.Run
import RpiDashboard.Numeric.Arithmetic
import RpiDashboard.Protocol.SystemMetrics
import RpiDashboard.Qt.DateTime
import RpiDashboard.Sysmetrics.SystemMetricHistoryModel

/-! The metrics service (`sysmetrics/sys_metrics_service.cpp`): collections in the
background, one after the other, and what their results leave behind. -/

namespace RpiDashboard.Sysmetrics

open Numeric Protocol Qt

inductive State
  | idle | collecting | ready | someValues | error
  deriving DecidableEq

structure SysMetricsCollectionResult where
  metrics : SystemMetrics := {}
  diagnostics : List QString := []

/-- How a collection ends: with a result, a `std::exception`, or anything else thrown. -/
inductive Outcome
  | result : SysMetricsCollectionResult → Outcome
  | exception : QString → Outcome
  | unknown : Outcome

/-- The service, with the collections that are not handled yet, the invocations of
`refresh` in the event queue, and how many collections have been started. -/
structure SysMetricsService where
  refreshPending : Bool := false
  state : State := .idle
  currentMetrics : SystemMetrics := {}
  lastSuccessUtc : QDateTime := {}
  diagnostics : List QString := []
  usageHistoryModel : SystemMetricHistoryModel := {}
  outstanding : Nat := 0
  queued : Nat := 0
  started : Nat := 0

/-- The share of memory that is in use, where both sizes make sense. -/
def memoryUsageRatio (memory : SystemMetrics.Memory) : Option Double := do
  let total ← memory.totalBytes
  let available ← memory.availableBytes
  if 0 < total ∧ available ≤ total then
    some (Double.one.sub ((Double.ofInt available.toNat).div (Double.ofInt total.toNat)))
  else none

namespace SysMetricsService

/-- The constructor queues the first refresh. -/
def new : SysMetricsService := { queued := 1 }

def refresh (service : SysMetricsService) : SysMetricsService :=
  if service.state = .collecting then { service with refreshPending := true }
  else { service with
    state := .collecting
    outstanding := service.outstanding + 1
    started := service.started + 1 }

/-- `std::exchange(refresh_pending_, false)`, and the queued invocation. -/
def handOver (service : SysMetricsService) : SysMetricsService :=
  if service.refreshPending then
    { service with refreshPending := false, queued := service.queued + 1 }
  else service

/-- A result, at this time of the monotonic clock and of the calendar. -/
def accept (service : SysMetricsService) (result : SysMetricsCollectionResult)
    (elapsedMilliseconds : Int) (now : QDateTime) : SysMetricsService :=
  let service := { service with
    usageHistoryModel := service.usageHistoryModel.appendSample
      { elapsedMilliseconds
        cpuUsageRatio := result.metrics.cpu.usageRatio
        memoryUsageRatio := memoryUsageRatio result.metrics.memory }
    diagnostics := result.diagnostics }
  if result.metrics.hasAnyValue then
    { service with
      currentMetrics := result.metrics
      lastSuccessUtc := now
      state := if result.metrics.hasAllBaselineFields then .ready else .someValues }
  else
    { service with
      diagnostics :=
        if service.diagnostics = [] then ["System metrics collection produced no usable values"]
        else service.diagnostics
      state := .error }

def collectionFinished (service : SysMetricsService) (outcome : Outcome)
    (elapsedMilliseconds : Int) (now : QDateTime) : SysMetricsService :=
  match outcome with
  | .exception what =>
    { service with
      diagnostics := ["System metrics collection failed: " ++ what]
      state := .error }.handOver
  | .unknown =>
    { service with
      diagnostics := ["System metrics collection failed with an unknown error"]
      state := .error }.handOver
  | .result result => (service.accept result elapsedMilliseconds now).handOver

end SysMetricsService

/-- `refresh` is called, by the timer or otherwise; a queued invocation of it runs; the
oldest collection completes. -/
inductive Event
  | refresh : Event
  | invoked : Event
  | finished : Outcome → Int → QDateTime → Event

namespace SysMetricsService

/-- Nothing runs that has not been queued, and nothing completes that has not been started. -/
def step (service : SysMetricsService) : Event → SysMetricsService
  | .refresh => service.refresh
  | .invoked =>
    if 0 < service.queued then { service with queued := service.queued - 1 }.refresh else service
  | .finished outcome elapsedMilliseconds now =>
    if 0 < service.outstanding then
      { service with outstanding := service.outstanding - 1 }.collectionFinished outcome
        elapsedMilliseconds now
    else service

/-- Whether `currentMetricsChanged` is sent: of a result that says anything. -/
def currentMetricsChanged (service : SysMetricsService) : Event → Bool
  | .finished (.result result) _ _ => 0 < service.outstanding && result.metrics.hasAnyValue
  | _ => false

/-- `bootTimeUtc`, none where the time is unknown. -/
def bootTimeUtc (service : SysMetricsService) : Option QDateTime := do
  let uptime ← service.currentMetrics.system.uptimeSeconds
  if service.lastSuccessUtc.isValid then
    some (service.lastSuccessUtc.addMSecs (-(uptime.mul (.ofInt 1000)).round))
  else none

end SysMetricsService

end RpiDashboard.Sysmetrics
