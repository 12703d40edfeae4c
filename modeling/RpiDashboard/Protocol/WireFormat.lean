import RpiDashboard.Protocol.Limits
import Mathlib.Data.List.Forall2

/-! The wire format as a relation: `x.CarriedBy m` says that the map `m` holds exactly
the fields of `x` under their keys, in any order and among any other entries.  Two
encoders produce such maps; the decoder recovers a valid `x` from each of them. -/

namespace RpiDashboard.Protocol

open Numeric Qt

/-- An absent field reads as `undefined`. -/
def optional (value : Option QCborValue) : QCborValue := value.getD .undefined

abbrev ofText (value : Option QString) : QCborValue := optional (value.map .string)
abbrev ofCount (value : Option UInt32) : QCborValue :=
  optional (value.map fun n => .integer n.toUInt64.toInt64)
abbrev ofInteger (value : Option UInt64) : QCborValue :=
  optional (value.map fun n => .integer n.toInt64)
abbrev ofNumber (value : Option Double) : QCborValue := optional (value.map .double)

/-- A section may be left out when nothing is in it. -/
def SectionCarriedBy (P : QCborMap → Prop) (root : QCborMap) (key : QString) : Prop :=
  ∃ m, Codec.sectionOf root key = some m ∧ P m

def ListCarriedBy {α : Type} (R : α → QCborMap → Prop) (entries : List α) (raw : QCborValue) : Prop :=
  (entries = [] ∧ raw = .undefined) ∨
    ∃ items : List QCborMap, raw = .array (items.map .map) ∧ List.Forall₂ R entries items

namespace SystemInfo

structure Host.CarriedBy (host : Host) (m : QCborMap) : Prop where
  hostName : m.value "host_name" = ofText host.hostName

structure OperatingSystem.CarriedBy (os : OperatingSystem) (m : QCborMap) : Prop where
  osFamily : m.value "os_family" = ofText os.osFamily
  osId : m.value "os_id" = ofText os.osId
  osVersion : m.value "os_version" = ofText os.osVersion
  osPrettyName : m.value "os_pretty_name" = ofText os.osPrettyName

structure Kernel.CarriedBy (kernel : Kernel) (m : QCborMap) : Prop where
  kernelType : m.value "kernel_type" = ofText kernel.kernelType
  kernelVersion : m.value "kernel_version" = ofText kernel.kernelVersion

structure Hardware.CarriedBy (hardware : Hardware) (m : QCborMap) : Prop where
  manufacturer : m.value "manufacturer" = ofText hardware.manufacturer
  model : m.value "model" = ofText hardware.model
  boardRevision : m.value "board_revision" = ofText hardware.boardRevision
  compatibleIds : m.value "compatible_ids" =
    optional (hardware.compatibleIds.map fun ids => .array (ids.map .string))

structure Cpu.CarriedBy (cpu : Cpu) (m : QCborMap) : Prop where
  architecture : m.value "architecture" = ofText cpu.architecture
  vendor : m.value "vendor" = ofText cpu.vendor
  model : m.value "model" = ofText cpu.model
  logicalCpuCount : m.value "logical_cpu_count" = ofCount cpu.logicalCpuCount
  physicalCoreCount : m.value "physical_core_count" = ofCount cpu.physicalCoreCount

structure Memory.CarriedBy (memory : Memory) (m : QCborMap) : Prop where
  totalBytes : m.value "total_bytes" = ofInteger memory.totalBytes

structure CarriedBy (info : SystemInfo) (root : QCborMap) : Prop where
  host : SectionCarriedBy info.host.CarriedBy root "host"
  os : SectionCarriedBy info.os.CarriedBy root "os"
  kernel : SectionCarriedBy info.kernel.CarriedBy root "kernel"
  hardware : SectionCarriedBy info.hardware.CarriedBy root "hardware"
  cpu : SectionCarriedBy info.cpu.CarriedBy root "cpu"
  memory : SectionCarriedBy info.memory.CarriedBy root "memory"

end SystemInfo

namespace SystemMetrics

structure LogicalCpu.CarriedBy (entry : LogicalCpu) (m : QCborMap) : Prop where
  name : m.value "name" = .string entry.name
  usageRatio : m.value "usage_ratio" = ofNumber entry.usageRatio
  frequencyHz : m.value "frequency_hz" = ofInteger entry.frequencyHz

structure Cpu.CarriedBy (cpu : Cpu) (m : QCborMap) : Prop where
  usageRatio : m.value "usage_ratio" = ofNumber cpu.usageRatio
  temperatureCelsius : m.value "temperature_celsius" = ofNumber cpu.temperatureCelsius
  logicalCpus : ListCarriedBy LogicalCpu.CarriedBy cpu.logicalCpus (m.value "logical_cpus")

structure Memory.CarriedBy (memory : Memory) (m : QCborMap) : Prop where
  totalBytes : m.value "total_bytes" = ofInteger memory.totalBytes
  availableBytes : m.value "available_bytes" = ofInteger memory.availableBytes
  swapTotalBytes : m.value "swap_total_bytes" = ofInteger memory.swapTotalBytes
  swapAvailableBytes : m.value "swap_available_bytes" = ofInteger memory.swapAvailableBytes

structure System.CarriedBy (system : System) (m : QCborMap) : Prop where
  uptimeSeconds : m.value "uptime_seconds" = ofNumber system.uptimeSeconds
  loadAverage1m : m.value "load_average_1m" = ofNumber system.loadAverage1m
  loadAverage5m : m.value "load_average_5m" = ofNumber system.loadAverage5m
  loadAverage15m : m.value "load_average_15m" = ofNumber system.loadAverage15m

structure StorageVolume.CarriedBy (entry : StorageVolume) (m : QCborMap) : Prop where
  mountPoint : m.value "mount_point" = .string entry.mountPoint
  deviceName : m.value "device_name" = .string entry.deviceName
  primary : m.value "primary" = .boolean entry.primary
  readOnly : m.value "read_only" = .boolean entry.readOnly
  totalBytes : m.value "total_bytes" = ofInteger entry.totalBytes
  availableBytes : m.value "available_bytes" = ofInteger entry.availableBytes

structure NetworkInterface.CarriedBy (entry : NetworkInterface) (m : QCborMap) : Prop where
  name : m.value "name" = .string entry.name
  rxBytes : m.value "rx_bytes" = ofInteger entry.rxBytes
  txBytes : m.value "tx_bytes" = ofInteger entry.txBytes
  rxBytesPerSecond : m.value "rx_bytes_per_second" = ofNumber entry.rxBytesPerSecond
  txBytesPerSecond : m.value "tx_bytes_per_second" = ofNumber entry.txBytesPerSecond

structure Gpu.CarriedBy (entry : Gpu) (m : QCborMap) : Prop where
  name : m.value "name" = .string entry.name
  usageRatio : m.value "usage_ratio" = ofNumber entry.usageRatio
  memoryTotalBytes : m.value "memory_total_bytes" = ofInteger entry.memoryTotalBytes
  memoryUsedBytes : m.value "memory_used_bytes" = ofInteger entry.memoryUsedBytes
  coreClockHz : m.value "core_clock_hz" = ofInteger entry.coreClockHz
  memoryClockHz : m.value "memory_clock_hz" = ofInteger entry.memoryClockHz
  temperatureCelsius : m.value "temperature_celsius" = ofNumber entry.temperatureCelsius

structure CarriedBy (metrics : SystemMetrics) (root : QCborMap) : Prop where
  cpu : SectionCarriedBy metrics.cpu.CarriedBy root "cpu"
  memory : SectionCarriedBy metrics.memory.CarriedBy root "memory"
  system : SectionCarriedBy metrics.system.CarriedBy root "system"
  storageVolumes :
    ListCarriedBy StorageVolume.CarriedBy metrics.storageVolumes (root.value "storage_volumes")
  networkInterfaces :
    ListCarriedBy NetworkInterface.CarriedBy metrics.networkInterfaces (root.value "network_interfaces")
  gpus : ListCarriedBy Gpu.CarriedBy metrics.gpus (root.value "gpus")

end SystemMetrics

structure EnvelopeCarriedBy (type : QString) (device inst : QUuid) (root : QCborMap) : Prop where
  version : root.value "version" = .integer telemetryProtocolVersion
  type : root.value "type" = .string type
  deviceId : root.value "device_id" = .byteArray device.toRfc4122
  instanceId : root.value "instance_id" = .byteArray inst.toRfc4122

structure Hello.CarriedBy (hello : Hello) (root : QCborMap) : Prop
    extends EnvelopeCarriedBy "hello" hello.deviceId hello.instanceId root where
  displayName : root.value "display_name" = .string hello.displayName
  interval : root.value "interval_s" = .integer (Int64.ofInt hello.intervalSeconds)
  systemInfo : ∃ m, root.value "system_info" = .map m ∧ hello.systemInfo.CarriedBy m

structure RegistrationResult.CarriedBy (result : RegistrationResult) (root : QCborMap) : Prop
    extends EnvelopeCarriedBy "registration_result" result.deviceId result.instanceId root where
  accepted : root.value "accepted" = .boolean result.accepted
  reason : root.value "reason" = ofText (if result.reason = "" then none else some result.reason)

structure DeviceSnapshot.CarriedBy (snapshot : DeviceSnapshot) (root : QCborMap) : Prop
    extends EnvelopeCarriedBy "snapshot" snapshot.deviceId snapshot.instanceId root where
  interval : root.value "interval_s" = .integer (Int64.ofInt snapshot.intervalSeconds)
  sequence : root.value "sequence" = .integer snapshot.sequence.toInt64
  systemInfo : ∃ m, root.value "system_info" = .map m ∧ snapshot.systemInfo.CarriedBy m
  metrics : match snapshot.metrics with
    | none => root.value "metrics" = .undefined
    | some metrics => ∃ m, root.value "metrics" = .map m ∧ metrics.CarriedBy m

def TelemetryMessage.CarriedBy : TelemetryMessage → QCborMap → Prop
  | .hello value => value.CarriedBy
  | .registrationResult value => value.CarriedBy
  | .snapshot value => value.CarriedBy

end RpiDashboard.Protocol
