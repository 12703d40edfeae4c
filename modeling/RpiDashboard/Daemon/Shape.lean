import RpiDashboard.Daemon.Value
import RpiDashboard.Protocol.Limits

/-! The trees that `Collector::system_info` and `Collector::metrics` build: which keys
a map may have, what kind of value stands under each, and what the leaves say. -/

namespace RpiDashboard.Daemon

open Numeric Qt Protocol

def IsText (v : Value) : Prop := ∃ s : QString, v = .text (toUtf8 s)
def IsUnsigned (v : Value) : Prop := ∃ n, v = .unsigned n ∧ InRange n
def IsCount (v : Value) : Prop := ∃ n : UInt32, v = .unsigned n.toUInt64
def IsNumber (v : Value) : Prop := ∃ d, v = .number d
def IsFlag (v : Value) : Prop := ∃ b, v = .boolean b
def IsList (P : Value → Prop) (v : Value) : Prop := ∃ xs, v = .array xs ∧ ∀ x ∈ xs, P x

/-- A map whose keys are among those of the fields, each with a value of its kind. -/
structure Entries (fields : List (String × (Value → Prop))) (m : StdMap) : Prop where
  nodup : (m.map Prod.fst).Nodup
  field : ∀ e ∈ m, ∃ f ∈ fields, e.1 = lit f.1 ∧ f.2 e.2

def IsMap (fields : List (String × (Value → Prop))) (v : Value) : Prop :=
  ∃ m, v = .map m ∧ Entries fields m

/-- An entry of a list, with the fields it cannot do without. -/
def IsEntry (required : List String) (fields : List (String × (Value → Prop))) (v : Value) : Prop :=
  ∃ m, v = .map m ∧ Entries fields m ∧ ∀ key ∈ required, (StdMap.find m (lit key)).isSome

def hostFields : List (String × (Value → Prop)) := [("host_name", IsText)]

def osFields : List (String × (Value → Prop)) :=
  [("os_family", IsText), ("os_id", IsText), ("os_version", IsText), ("os_pretty_name", IsText)]

def kernelFields : List (String × (Value → Prop)) :=
  [("kernel_type", IsText), ("kernel_version", IsText)]

def hardwareFields : List (String × (Value → Prop)) :=
  [("manufacturer", IsText), ("model", IsText), ("board_revision", IsText),
    ("compatible_ids", IsList IsText)]

def cpuFields : List (String × (Value → Prop)) :=
  [("architecture", IsText), ("vendor", IsText), ("model", IsText),
    ("logical_cpu_count", IsCount), ("physical_core_count", IsCount)]

def memoryFields : List (String × (Value → Prop)) := [("total_bytes", IsUnsigned)]

def systemInfoFields : List (String × (Value → Prop)) :=
  [("host", IsMap hostFields), ("os", IsMap osFields), ("kernel", IsMap kernelFields),
    ("hardware", IsMap hardwareFields), ("cpu", IsMap cpuFields), ("memory", IsMap memoryFields)]

/-- The shape of `Collector::system_info`. -/
def IsSystemInfo : Value → Prop := IsMap systemInfoFields

def metricsCpuFields : List (String × (Value → Prop)) :=
  [("usage_ratio", IsNumber), ("temperature_celsius", IsNumber)]

def metricsMemoryFields : List (String × (Value → Prop)) :=
  [("total_bytes", IsUnsigned), ("available_bytes", IsUnsigned),
    ("swap_total_bytes", IsUnsigned), ("swap_available_bytes", IsUnsigned)]

def systemFields : List (String × (Value → Prop)) :=
  [("uptime_seconds", IsNumber), ("load_average_1m", IsNumber), ("load_average_5m", IsNumber),
    ("load_average_15m", IsNumber)]

def storageVolumeFields : List (String × (Value → Prop)) :=
  [("mount_point", IsText), ("device_name", IsText), ("primary", IsFlag), ("read_only", IsFlag),
    ("total_bytes", IsUnsigned), ("available_bytes", IsUnsigned)]

def networkInterfaceFields : List (String × (Value → Prop)) :=
  [("name", IsText), ("rx_bytes", IsUnsigned), ("tx_bytes", IsUnsigned),
    ("rx_bytes_per_second", IsNumber), ("tx_bytes_per_second", IsNumber)]

def gpuFields : List (String × (Value → Prop)) :=
  [("name", IsText), ("usage_ratio", IsNumber), ("core_clock_hz", IsUnsigned),
    ("temperature_celsius", IsNumber)]

def metricsFields : List (String × (Value → Prop)) :=
  [("cpu", IsMap metricsCpuFields), ("memory", IsMap metricsMemoryFields),
    ("system", IsMap systemFields),
    ("storage_volumes",
      IsList (IsEntry ["mount_point", "device_name", "primary", "read_only"] storageVolumeFields)),
    ("network_interfaces", IsList (IsEntry ["name"] networkInterfaceFields)),
    ("gpus", IsList (IsEntry ["name"] gpuFields))]

/-- The shape of `Collector::metrics`. -/
def IsMetrics : Value → Prop := IsMap metricsFields

def Value.text? : Value → Option QString
  | .text t => fromUtf8? t
  | _ => none

def Value.unsigned? : Value → Option UInt64
  | .unsigned n => some n
  | _ => none

def Value.count? (v : Value) : Option UInt32 := v.unsigned?.map UInt64.toUInt32

def Value.number? : Value → Option Double
  | .number d => some d
  | _ => none

def Value.boolean? : Value → Option Bool
  | .boolean b => some b
  | _ => none

def Value.array? : Value → Option (List Value)
  | .array xs => some xs
  | _ => none

def Value.map? : Value → Option StdMap
  | .map m => some m
  | _ => none

section Leaves

variable (m : StdMap) (key : String)

def textAt : Option QString := (m.find (lit key)).bind Value.text?
def unsignedAt : Option UInt64 := (m.find (lit key)).bind Value.unsigned?
def countAt : Option UInt32 := (m.find (lit key)).bind Value.count?
def numberAt : Option Double := (m.find (lit key)).bind Value.number?
def flagAt : Option Bool := (m.find (lit key)).bind Value.boolean?
def arrayAt : Option (List Value) := (m.find (lit key)).bind Value.array?
def textsAt : Option (List QString) := (arrayAt m key).map (·.filterMap Value.text?)

/-- The entries of the map at a key; none if there is no map. -/
def mapAt : StdMap := ((m.find (lit key)).bind Value.map?).getD []

/-- The maps of the list at a key. -/
def mapsAt : List StdMap := ((arrayAt m key).getD []).filterMap Value.map?

end Leaves

def hostOf (m : StdMap) : SystemInfo.Host where
  hostName := textAt m "host_name"

def osOf (m : StdMap) : SystemInfo.OperatingSystem where
  osFamily := textAt m "os_family"
  osId := textAt m "os_id"
  osVersion := textAt m "os_version"
  osPrettyName := textAt m "os_pretty_name"

def kernelOf (m : StdMap) : SystemInfo.Kernel where
  kernelType := textAt m "kernel_type"
  kernelVersion := textAt m "kernel_version"

def hardwareOf (m : StdMap) : SystemInfo.Hardware where
  manufacturer := textAt m "manufacturer"
  model := textAt m "model"
  boardRevision := textAt m "board_revision"
  compatibleIds := textsAt m "compatible_ids"

def cpuOf (m : StdMap) : SystemInfo.Cpu where
  architecture := textAt m "architecture"
  vendor := textAt m "vendor"
  model := textAt m "model"
  logicalCpuCount := countAt m "logical_cpu_count"
  physicalCoreCount := countAt m "physical_core_count"

def memoryOf (m : StdMap) : SystemInfo.Memory where
  totalBytes := unsignedAt m "total_bytes"

def Value.entries (v : Value) : StdMap := v.map?.getD []

/-- What the leaves of a tree say about the system. -/
def systemInfoOf (v : Value) : SystemInfo where
  host := hostOf (mapAt v.entries "host")
  os := osOf (mapAt v.entries "os")
  kernel := kernelOf (mapAt v.entries "kernel")
  hardware := hardwareOf (mapAt v.entries "hardware")
  cpu := cpuOf (mapAt v.entries "cpu")
  memory := memoryOf (mapAt v.entries "memory")

def metricsCpuOf (m : StdMap) : SystemMetrics.Cpu where
  usageRatio := numberAt m "usage_ratio"
  temperatureCelsius := numberAt m "temperature_celsius"

def metricsMemoryOf (m : StdMap) : SystemMetrics.Memory where
  totalBytes := unsignedAt m "total_bytes"
  availableBytes := unsignedAt m "available_bytes"
  swapTotalBytes := unsignedAt m "swap_total_bytes"
  swapAvailableBytes := unsignedAt m "swap_available_bytes"

def systemOf (m : StdMap) : SystemMetrics.System where
  uptimeSeconds := numberAt m "uptime_seconds"
  loadAverage1m := numberAt m "load_average_1m"
  loadAverage5m := numberAt m "load_average_5m"
  loadAverage15m := numberAt m "load_average_15m"

def storageVolumeOf (m : StdMap) : SystemMetrics.StorageVolume where
  mountPoint := (textAt m "mount_point").getD ""
  deviceName := (textAt m "device_name").getD ""
  primary := (flagAt m "primary").getD false
  readOnly := (flagAt m "read_only").getD false
  totalBytes := unsignedAt m "total_bytes"
  availableBytes := unsignedAt m "available_bytes"

def networkInterfaceOf (m : StdMap) : SystemMetrics.NetworkInterface where
  name := (textAt m "name").getD ""
  rxBytes := unsignedAt m "rx_bytes"
  txBytes := unsignedAt m "tx_bytes"
  rxBytesPerSecond := numberAt m "rx_bytes_per_second"
  txBytesPerSecond := numberAt m "tx_bytes_per_second"

def gpuOf (m : StdMap) : SystemMetrics.Gpu where
  name := (textAt m "name").getD ""
  usageRatio := numberAt m "usage_ratio"
  coreClockHz := unsignedAt m "core_clock_hz"
  temperatureCelsius := numberAt m "temperature_celsius"

/-- What the leaves of a tree measure. -/
def metricsOf (v : Value) : SystemMetrics where
  cpu := metricsCpuOf (mapAt v.entries "cpu")
  memory := metricsMemoryOf (mapAt v.entries "memory")
  system := systemOf (mapAt v.entries "system")
  storageVolumes := (mapsAt v.entries "storage_volumes").map storageVolumeOf
  networkInterfaces := (mapsAt v.entries "network_interfaces").map networkInterfaceOf
  gpus := (mapsAt v.entries "gpus").map gpuOf

end RpiDashboard.Daemon
