import Mathlib.Data.UInt
import RpiDashboard.Numeric.Arithmetic
import RpiDashboard.Qt.ItemModel
import RpiDashboard.Qt.Text
import RpiDashboard.Sysinfo.SysInfoService
import RpiDashboard.Sysmetrics.SysMetricsService
import RpiDashboard.Telemetry.Signals

/-! The list of devices (`dashboard/device_model.cpp`): this machine in the first row, then the
devices of the registry. -/

namespace RpiDashboard.Dashboard

open Numeric Protocol Qt Sysinfo Sysmetrics Telemetry

inductive QVariant
  | invalid : QVariant
  | bool : Bool → QVariant
  | string : QString → QVariant
  | longlong : Int → QVariant
  | ulonglong : UInt64 → QVariant
  | double : Double → QVariant
  | dateTime : QDateTime → QVariant
  deriving DecidableEq

namespace QVariant

def isValid (variant : QVariant) : Bool := variant ≠ .invalid

def toDouble : QVariant → Double
  | .double d => d
  | _ => .zero

def toString : QVariant → QString
  | .string s => s
  | _ => ""

end QVariant

inductive Role
  | deviceNumberRole | deviceIdRole | hostnameRole | statusKeyRole | localRole
  | historyAvailableRole | cpuMetricRole | memoryMetricRole | cpuUsageRatioRole
  | memoryUsageRatioRole | temperatureMetricRole | uptimeMetricRole | uptimeSecondsRole
  | cpuFrequencyHzRole | memoryUsedBytesRole | swapUsedBytesRole | diskUsedBytesRole
  | diskTotalBytesRole | diskUsageRatioRole | boardTemperatureCelsiusRole | gpuNameRole
  | gpuUsageRatioRole | gpuCoreClockHzRole | gpuTemperatureCelsiusRole | networkReceiveRateRole
  | networkTransmitRateRole | networkInterfaceNameRole | bootTimeMsRole | osDescriptionRole
  | kernelDescriptionRole | architectureRole | hardwareDescriptionRole | cpuDescriptionRole
  | coreDescriptionRole | totalMemoryRole
  deriving DecidableEq

section Projection

/-- The value of an optional field. -/
def value {α : Type} (fromValue : α → QVariant) : Option α → QVariant
  | some a => fromValue a
  | none => .invalid

def joined (first second : Option QString) : QString :=
  let parts := first.toList ++ second.toList
  if parts = [] then "—" else String.intercalate " · " parts

def cores (info : SystemInfo) : QString :=
  match info.cpu.physicalCoreCount, info.cpu.logicalCpuCount with
  | some physical, some logical =>
    toString physical.toNat ++ " physical · " ++ toString logical.toNat ++ " logical"
  | none, some logical => toString logical.toNat ++ " logical"
  | some physical, none => toString physical.toNat ++ " physical"
  | none, none => "—"

def used (total available : Option UInt64) : QVariant :=
  match total, available with
  | some total, some available => .ulonglong (total - available)
  | _, _ => .invalid

def ratio (total available : Option UInt64) : QVariant :=
  match total, available with
  | some total, some available =>
    if 0 < total then
      .double ((Double.ofInt (total - available).toNat).div (.ofInt total.toNat))
    else .invalid
  | _, _ => .invalid

def percent (input : QVariant) : QString :=
  if input.isValid then toString (input.toDouble.mul (.ofInt 100)).round ++ "%" else "—"

def temperature (input : QVariant) : QString :=
  if input.isValid then toString input.toDouble.round ++ "°C" else "—"

def uptime (input : QVariant) : QString :=
  let minutes := (input.toDouble.div (.ofInt 60)).truncate
  if !input.isValid then "—"
  else if minutes < 1 then "<1m"
  else if 1440 ≤ minutes then toString (minutes / 1440) ++ "d " ++ toString (minutes / 60 % 24) ++ "h"
  else if 60 ≤ minutes then toString (minutes / 60) ++ "h " ++ toString (minutes % 60) ++ "m"
  else toString minutes ++ "m"

def averageFrequency (metrics : SystemMetrics) : QVariant :=
  let frequencies := metrics.cpu.logicalCpus.filterMap SystemMetrics.LogicalCpu.frequencyHz
  if frequencies = [] then .invalid
  else .ulonglong (frequencies.sum / UInt64.ofNat frequencies.length)

/-- A number in two digits. -/
def deviceNumber (n : Nat) : QString := if n < 10 then "0" ++ toString n else toString n

/-- `toString(QUuid::WithoutBraces)`. -/
def uuidText (id : QUuid) : QString :=
  let digits := id.toRfc4122.map fun b => String.ofList (Nat.toDigits 16 (256 + b.toNat)).tail
  let group (first count : Nat) := String.join ((digits.drop first).take count)
  String.intercalate "-" [group 0 4, group 4 2, group 6 2, group 8 2, group 10 6]

def statusKey : Telemetry.State → QString
  | .registered => "registered"
  | .online => "online"
  | .stale => "stale"
  | .offline => "offline"

end Projection

/-- What the model shows: the services of this machine and the devices of the registry. -/
structure Sources where
  info : SysInfoService
  metrics : SysMetricsService
  devices : List Device

namespace Sources

def rowCount (sources : Sources) : Nat := 1 + sources.devices.length

/-- A row of the model, with its device unless it is this machine. -/
structure Entry where
  row : Nat
  remote : Option Device
  info : SystemInfo
  metrics : SystemMetrics

def entry (sources : Sources) : Nat → Option Entry
  | 0 => some {
      row := 0
      remote := none
      info := sources.info.currentInfo
      metrics := sources.metrics.currentMetrics }
  | index + 1 => sources.devices[index]?.map fun device => {
      row := index + 1
      remote := some device
      info := device.systemInfo
      metrics := device.metrics.getD {} }

/-- The local time of the last start, or that of a device as its last snapshot tells it. -/
def bootTime (sources : Sources) (entry : Entry) : QVariant :=
  match entry.remote with
  | none => value .dateTime sources.metrics.bootTimeUtc
  | some device => match device.lastSnapshotUtc, entry.metrics.system.uptimeSeconds with
    | some snapshotUtc, some uptime => .longlong (snapshotUtc - (uptime.mul (.ofInt 1000)).round)
    | _, _ => .invalid

def hostname (entry : Entry) : QVariant :=
  match entry.remote with
  | none => value .string entry.info.host.hostName
  | some device =>
    if device.displayName = "" then
      .string (value .string entry.info.host.hostName).toString
    else .string device.displayName

variable (qt : QtText)

def roleValue (sources : Sources) (entry : Entry) (role : Role) : QVariant :=
  let metrics := entry.metrics
  let cpuRatio := value .double metrics.cpu.usageRatio
  let memoryRatio := ratio metrics.memory.totalBytes metrics.memory.availableBytes
  let temp := value .double metrics.cpu.temperatureCelsius
  let up := value .double metrics.system.uptimeSeconds
  let gpu := metrics.gpus.head?
  let storage := metrics.storageVolumes.find? SystemMetrics.StorageVolume.primary
  let network := metrics.networkInterfaces.head?
  match role with
  | .deviceNumberRole => .string (deviceNumber (entry.row + 1))
  | .deviceIdRole => .string (entry.remote.elim "local" fun device => uuidText device.deviceId)
  | .hostnameRole => hostname entry
  | .statusKeyRole => .string (entry.remote.elim "online" fun device => statusKey device.state)
  | .localRole | .historyAvailableRole => .bool entry.remote.isNone
  | .cpuMetricRole => .string (percent cpuRatio)
  | .memoryMetricRole => .string (percent memoryRatio)
  | .cpuUsageRatioRole => cpuRatio
  | .memoryUsageRatioRole => memoryRatio
  | .temperatureMetricRole => .string (temperature temp)
  | .uptimeMetricRole => .string (uptime up)
  | .uptimeSecondsRole => up
  | .cpuFrequencyHzRole => averageFrequency metrics
  | .memoryUsedBytesRole => used metrics.memory.totalBytes metrics.memory.availableBytes
  | .swapUsedBytesRole => used metrics.memory.swapTotalBytes metrics.memory.swapAvailableBytes
  | .diskUsedBytesRole =>
    storage.elim .invalid fun volume => used volume.totalBytes volume.availableBytes
  | .diskTotalBytesRole => storage.elim .invalid fun volume => value .ulonglong volume.totalBytes
  | .diskUsageRatioRole =>
    storage.elim .invalid fun volume => ratio volume.totalBytes volume.availableBytes
  | .boardTemperatureCelsiusRole => temp
  | .gpuNameRole => gpu.elim .invalid fun gpu => if gpu.name = "" then .invalid else .string gpu.name
  | .gpuUsageRatioRole => gpu.elim .invalid fun gpu => value .double gpu.usageRatio
  | .gpuCoreClockHzRole => gpu.elim .invalid fun gpu => value .ulonglong gpu.coreClockHz
  | .gpuTemperatureCelsiusRole => gpu.elim .invalid fun gpu => value .double gpu.temperatureCelsius
  | .networkReceiveRateRole =>
    network.elim .invalid fun network => value .double network.rxBytesPerSecond
  | .networkTransmitRateRole =>
    network.elim .invalid fun network => value .double network.txBytesPerSecond
  | .networkInterfaceNameRole => .string (network.elim "" SystemMetrics.NetworkInterface.name)
  | .bootTimeMsRole => sources.bootTime entry
  | .osDescriptionRole => .string (joined entry.info.os.osPrettyName entry.info.os.osVersion)
  | .kernelDescriptionRole =>
    .string (joined entry.info.kernel.kernelType entry.info.kernel.kernelVersion)
  | .architectureRole => value .string entry.info.cpu.architecture
  | .hardwareDescriptionRole =>
    .string (joined entry.info.hardware.manufacturer entry.info.hardware.model)
  | .cpuDescriptionRole => .string (joined entry.info.cpu.vendor entry.info.cpu.model)
  | .coreDescriptionRole => .string (cores entry.info)
  | .totalMemoryRole => .string (match entry.info.memory.totalBytes with
    | some total => qt.fixed ((Double.ofInt total.toNat).div (.ofInt 1073741824)) 1 ++ " GiB"
    | none => "—")

def data (sources : Sources) (row : Nat) (role : Role) : QVariant :=
  match sources.entry row with
  | some entry => sources.roleValue qt entry role
  | none => .invalid

/-- All the rows. -/
def rows (sources : Sources) : Rows Role QVariant :=
  (List.range sources.rowCount).map (sources.data qt)

end Sources

section Roles

/-- The keys of `roleNames`. -/
def roleNames : List Role :=
  [.deviceNumberRole, .deviceIdRole, .hostnameRole, .statusKeyRole, .localRole,
    .historyAvailableRole, .cpuMetricRole, .memoryMetricRole, .cpuUsageRatioRole,
    .memoryUsageRatioRole, .temperatureMetricRole, .uptimeMetricRole, .uptimeSecondsRole,
    .cpuFrequencyHzRole, .memoryUsedBytesRole, .swapUsedBytesRole, .diskUsedBytesRole,
    .diskTotalBytesRole, .diskUsageRatioRole, .boardTemperatureCelsiusRole, .gpuNameRole,
    .gpuUsageRatioRole, .gpuCoreClockHzRole, .gpuTemperatureCelsiusRole, .networkReceiveRateRole,
    .networkTransmitRateRole, .networkInterfaceNameRole, .bootTimeMsRole, .osDescriptionRole,
    .kernelDescriptionRole, .architectureRole, .hardwareDescriptionRole, .cpuDescriptionRole,
    .coreDescriptionRole, .totalMemoryRole]

/-- What `localInfoChanged` announces. -/
def localInfoRoles : List Role :=
  [.hostnameRole, .osDescriptionRole, .kernelDescriptionRole, .architectureRole,
    .hardwareDescriptionRole, .cpuDescriptionRole, .coreDescriptionRole, .totalMemoryRole]

/-- What `localMetricsChanged` announces. -/
def localMetricsRoles : List Role :=
  [.cpuMetricRole, .memoryMetricRole, .cpuUsageRatioRole, .memoryUsageRatioRole,
    .temperatureMetricRole, .uptimeMetricRole, .uptimeSecondsRole, .cpuFrequencyHzRole,
    .memoryUsedBytesRole, .swapUsedBytesRole, .diskUsedBytesRole, .diskTotalBytesRole,
    .diskUsageRatioRole, .boardTemperatureCelsiusRole, .gpuNameRole, .gpuUsageRatioRole,
    .gpuCoreClockHzRole, .gpuTemperatureCelsiusRole, .networkReceiveRateRole,
    .networkTransmitRateRole, .networkInterfaceNameRole, .bootTimeMsRole]

end Roles

/-- `changing` is the row of a change that has begun and not ended. -/
structure DeviceModel where
  structuredRegistryChange : Bool := false
  changing : Option Nat := none
  deriving DecidableEq

namespace DeviceModel

/-- `remoteChanged`, with the devices as they are then. -/
def remoteChanged (devices : List Device) (deviceId : QUuid) : List (Announcement Role) :=
  match devices.findIdx? fun device => device.deviceId = deviceId with
  | some index => [.dataChanged (index + 1) roleNames]
  | none => []

/-- The slots of the signals of the registry, and what they announce. -/
def receive (model : DeviceModel) (devices : List Device) :
    Signal → DeviceModel × List (Announcement Role)
  | .deviceAboutToBeAdded index =>
    ({ structuredRegistryChange := true, changing := some (index + 1) }, [])
  | .deviceAdded => ({ model with changing := none }, model.changing.toList.map .rowsInserted)
  | .deviceAboutToBeRemoved index =>
    ({ structuredRegistryChange := true, changing := some (index + 1) }, [])
  | .deviceRemoved => ({ model with changing := none }, model.changing.toList.map .rowsRemoved)
  | .devicesChanged =>
    if model.structuredRegistryChange then ({ model with structuredRegistryChange := false }, [])
    else (model, [.modelReset])
  | .deviceChanged deviceId => (model, remoteChanged devices deviceId)
  | .diagnosticChanged => (model, [])

end DeviceModel

/-- The services, the model of them, and a view of the model. -/
structure Watched where
  info : SysInfoService := {}
  metrics : SysMetricsService := .new
  registry : RemoteDeviceRegistry
  model : DeviceModel := {}
  view : Rows Role QVariant := []

inductive Operation
  | info : Sysinfo.Event → Operation
  | metrics : Sysmetrics.Event → Operation
  | registry : Telemetry.Event → Operation

namespace Watched

def sources (w : Watched) : Sources where
  info := w.info
  metrics := w.metrics
  devices := w.registry.devices

variable (qt : QtText) (cbor : QtCbor)

def rows (w : Watched) : Rows Role QVariant := w.sources.rows qt

/-- The view is a copy of the model. -/
def Shows (w : Watched) : Prop := w.view = w.rows qt

def copied (w : Watched) : Watched := { w with view := w.rows qt }

/-- The view follows what the model announces while these are the sources. -/
def announce (w : Watched) (sources : Sources) (announcements : List (Announcement Role)) :
    Watched :=
  { w with view := w.view.follow (announcements.map fun announcement =>
    (announcement, sources.rows qt)) }

/-- A signal of the registry, sent while it holds these devices. -/
def receive (w : Watched) (sent : Sent) : Watched :=
  let received := w.model.receive sent.2 sent.1
  { w with model := received.1 }.announce qt { w.sources with devices := sent.2 } received.2

def step (w : Watched) : Operation → Watched
  | .info e =>
    let changed := { w with info := w.info.step e }
    changed.announce qt changed.sources
      (if w.info.currentInfoChanged e then [.dataChanged 0 localInfoRoles] else [])
  | .metrics e =>
    let changed := { w with metrics := w.metrics.step e }
    changed.announce qt changed.sources
      (if w.metrics.currentMetricsChanged e then [.dataChanged 0 localMetricsRoles] else [])
  | .registry e =>
    { (w.registry.sent cbor e).foldl (receive qt) w with registry := w.registry.step cbor e }

/-- The start, on this storage file. -/
def create (storage : StorageFile) : Watched where
  registry := .create cbor storage

end Watched

end RpiDashboard.Dashboard
