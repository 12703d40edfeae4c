import RpiDashboard.Protocol.SystemInfo
import RpiDashboard.Protocol.SystemMetrics

/-! The dashboard's telemetry codec (`protocol/device_snapshot.cpp`).  A reader
returns `none` where the source returns `false`; `some none` is an absent field. -/

namespace RpiDashboard.Protocol

open Numeric Qt

def telemetryProtocolVersion : Int64 := 1
def maximumDatagramSize : Nat := 16 * 1024

structure Hello where
  deviceId : QUuid
  instanceId : QUuid
  displayName : QString
  intervalSeconds : Int := 1
  systemInfo : SystemInfo
  deriving DecidableEq

structure RegistrationResult where
  deviceId : QUuid
  instanceId : QUuid
  accepted : Bool := false
  reason : QString
  deriving DecidableEq

structure DeviceSnapshot where
  deviceId : QUuid
  instanceId : QUuid
  intervalSeconds : Int := 1
  sequence : UInt64 := 0
  systemInfo : SystemInfo
  metrics : Option SystemMetrics
  deriving DecidableEq

inductive TelemetryMessage
  | hello : Hello → TelemetryMessage
  | registrationResult : RegistrationResult → TelemetryMessage
  | snapshot : DeviceSnapshot → TelemetryMessage
  deriving DecidableEq

structure DecodeResult where
  message : Option TelemetryMessage
  error : QString
  deriving DecidableEq

namespace Codec

def maxInteger : UInt64 := 0x7fffffffffffffff

def validText (text : QString) (limit : Nat) : Bool :=
  text != "" && (toUtf8 text).length ≤ limit

def add (map : QCborMap) (key : QString) (value : Option QCborValue) : QCborMap :=
  match value with
  | some v => map.insert key v
  | none => map

def addText (map : QCborMap) (key : QString) (value : Option QString) : QCborMap :=
  add map key (value.map .string)

def addCount (map : QCborMap) (key : QString) (value : Option UInt32) : QCborMap :=
  add map key (value.map fun n => .integer n.toUInt64.toInt64)

/-- A counter beyond the signed range is left out, unlike the other kinds. -/
def addInteger (map : QCborMap) (key : QString) (value : Option UInt64) : QCborMap :=
  add map key ((value.filter (· ≤ maxInteger)).map fun n => .integer n.toInt64)

def addNumber (map : QCborMap) (key : QString) (value : Option Double) : QCborMap :=
  add map key (value.map .double)

def addSection (map : QCborMap) (key : QString) (value : QCborMap) : QCborMap :=
  if value.isEmpty then map else map.insert key (.map value)

def addList (map : QCborMap) (key : QString) (values : List QCborValue) : QCborMap :=
  if values.isEmpty then map else map.insert key (.array values)

def text (map : QCborMap) (key : QString) : Option (Option QString) :=
  match map.value key with
  | .undefined => some none
  | .string s => if validText s 256 then some (some s) else none
  | _ => none

def integer (map : QCborMap) (key : QString) : Option (Option UInt64) :=
  match map.value key with
  | .undefined => some none
  | .integer i => if i < 0 then none else some (some i.toUInt64)
  | _ => none

def count (map : QCborMap) (key : QString) : Option (Option UInt32) := do
  match ← integer map key with
  | some n => if n > 0xffffffff then none else return some n.toUInt32
  | none => return none

def checkNumber (result : Double) (ratio : Bool) : Option (Option Double) :=
  if !result.isFinite || (ratio && (result.lt .zero || Double.one.lt result)) then none
  else some (some result)

def number (map : QCborMap) (key : QString) (ratio : Bool) : Option (Option Double) :=
  match map.value key with
  | .undefined => some none
  | .double d => checkNumber d ratio
  | .integer i => checkNumber (Double.ofInt i.toInt) ratio
  | _ => none

def sectionOf (root : QCborMap) (key : QString) : Option QCborMap :=
  match root.value key with
  | .undefined => some []
  | .map m => some m
  | _ => none

def hostToMap (host : SystemInfo.Host) : QCborMap :=
  addText [] "host_name" host.hostName

def osToMap (os : SystemInfo.OperatingSystem) : QCborMap :=
  let map := addText [] "os_family" os.osFamily
  let map := addText map "os_id" os.osId
  let map := addText map "os_version" os.osVersion
  addText map "os_pretty_name" os.osPrettyName

def kernelToMap (kernel : SystemInfo.Kernel) : QCborMap :=
  let map := addText [] "kernel_type" kernel.kernelType
  addText map "kernel_version" kernel.kernelVersion

def hardwareToMap (hardware : SystemInfo.Hardware) : QCborMap :=
  let map := addText [] "manufacturer" hardware.manufacturer
  let map := addText map "model" hardware.model
  let map := addText map "board_revision" hardware.boardRevision
  add map "compatible_ids" (hardware.compatibleIds.map fun ids => .array (ids.map .string))

def cpuToMap (cpu : SystemInfo.Cpu) : QCborMap :=
  let map := addText [] "architecture" cpu.architecture
  let map := addText map "vendor" cpu.vendor
  let map := addText map "model" cpu.model
  let map := addCount map "logical_cpu_count" cpu.logicalCpuCount
  addCount map "physical_core_count" cpu.physicalCoreCount

def memoryToMap (memory : SystemInfo.Memory) : QCborMap :=
  addInteger [] "total_bytes" memory.totalBytes

def infoToMap (info : SystemInfo) : QCborMap :=
  let result := addSection [] "host" (hostToMap info.host)
  let result := addSection result "os" (osToMap info.os)
  let result := addSection result "kernel" (kernelToMap info.kernel)
  let result := addSection result "hardware" (hardwareToMap info.hardware)
  let result := addSection result "cpu" (cpuToMap info.cpu)
  addSection result "memory" (memoryToMap info.memory)

def hostFromMap (host : QCborMap) : Option SystemInfo.Host := do
  return {
    hostName := ← text host "host_name" }

def osFromMap (os : QCborMap) : Option SystemInfo.OperatingSystem := do
  return {
    osFamily := ← text os "os_family"
    osId := ← text os "os_id"
    osVersion := ← text os "os_version"
    osPrettyName := ← text os "os_pretty_name" }

def kernelFromMap (kernel : QCborMap) : Option SystemInfo.Kernel := do
  return {
    kernelType := ← text kernel "kernel_type"
    kernelVersion := ← text kernel "kernel_version" }

/-- The loop over `compatible_ids`; `seen` are the identifiers read so far. -/
def readIds (seen : List QString) : List QCborValue → Option (List QString)
  | [] => some []
  | .string s :: raws =>
    if !validText s 256 || seen.contains s then none
    else return s :: (← readIds (s :: seen) raws)
  | _ :: _ => none

def compatibleIds (rawIds : QCborValue) : Option (Option (List QString)) :=
  match rawIds with
  | .undefined => some none
  | .array raws => if raws.length > 32 then none else (readIds [] raws).map some
  | _ => none

def hardwareFromMap (hardware : QCborMap) : Option SystemInfo.Hardware := do
  return {
    manufacturer := ← text hardware "manufacturer"
    model := ← text hardware "model"
    boardRevision := ← text hardware "board_revision"
    compatibleIds := ← compatibleIds (hardware.value "compatible_ids") }

def cpuFromMap (cpu : QCborMap) : Option SystemInfo.Cpu := do
  return {
    architecture := ← text cpu "architecture"
    vendor := ← text cpu "vendor"
    model := ← text cpu "model"
    logicalCpuCount := ← count cpu "logical_cpu_count"
    physicalCoreCount := ← count cpu "physical_core_count" }

def memoryFromMap (memory : QCborMap) : Option SystemInfo.Memory := do
  return {
    totalBytes := ← integer memory "total_bytes" }

/-- The two checks of `infoFromMap` on the values it has read. -/
def checkInfo (info : SystemInfo) : Option SystemInfo :=
  if info.cpu.logicalCpuCount.any (· > 256) then none
  else if info.hasAnyValue then some info
  else none

def infoFromMap (value : QCborValue) : Option SystemInfo :=
  match value with
  | .map root => do
    let host ← sectionOf root "host"
    let os ← sectionOf root "os"
    let kernel ← sectionOf root "kernel"
    let hardware ← sectionOf root "hardware"
    let cpu ← sectionOf root "cpu"
    let memory ← sectionOf root "memory"
    checkInfo {
      host := ← hostFromMap host
      os := ← osFromMap os
      kernel := ← kernelFromMap kernel
      hardware := ← hardwareFromMap hardware
      cpu := ← cpuFromMap cpu
      memory := ← memoryFromMap memory }
  | _ => none

def logicalCpuToMap (entry : SystemMetrics.LogicalCpu) : QCborMap :=
  let item : QCborMap := [(.string "name", .string entry.name)]
  let item := addNumber item "usage_ratio" entry.usageRatio
  addInteger item "frequency_hz" entry.frequencyHz

def metricsCpuToMap (cpu : SystemMetrics.Cpu) : QCborMap :=
  let map := addNumber [] "usage_ratio" cpu.usageRatio
  let map := addNumber map "temperature_celsius" cpu.temperatureCelsius
  addList map "logical_cpus" (cpu.logicalCpus.map fun entry => .map (logicalCpuToMap entry))

def metricsMemoryToMap (memory : SystemMetrics.Memory) : QCborMap :=
  let map := addInteger [] "total_bytes" memory.totalBytes
  let map := addInteger map "available_bytes" memory.availableBytes
  let map := addInteger map "swap_total_bytes" memory.swapTotalBytes
  addInteger map "swap_available_bytes" memory.swapAvailableBytes

def systemToMap (system : SystemMetrics.System) : QCborMap :=
  let map := addNumber [] "uptime_seconds" system.uptimeSeconds
  let map := addNumber map "load_average_1m" system.loadAverage1m
  let map := addNumber map "load_average_5m" system.loadAverage5m
  addNumber map "load_average_15m" system.loadAverage15m

def storageVolumeToMap (entry : SystemMetrics.StorageVolume) : QCborMap :=
  let item : QCborMap :=
    [(.string "mount_point", .string entry.mountPoint),
      (.string "device_name", .string entry.deviceName),
      (.string "primary", .boolean entry.primary),
      (.string "read_only", .boolean entry.readOnly)]
  let item := addInteger item "total_bytes" entry.totalBytes
  addInteger item "available_bytes" entry.availableBytes

def networkInterfaceToMap (entry : SystemMetrics.NetworkInterface) : QCborMap :=
  let item : QCborMap := [(.string "name", .string entry.name)]
  let item := addInteger item "rx_bytes" entry.rxBytes
  let item := addInteger item "tx_bytes" entry.txBytes
  let item := addNumber item "rx_bytes_per_second" entry.rxBytesPerSecond
  addNumber item "tx_bytes_per_second" entry.txBytesPerSecond

def gpuToMap (entry : SystemMetrics.Gpu) : QCborMap :=
  let item : QCborMap := [(.string "name", .string entry.name)]
  let item := addNumber item "usage_ratio" entry.usageRatio
  let item := addInteger item "memory_total_bytes" entry.memoryTotalBytes
  let item := addInteger item "memory_used_bytes" entry.memoryUsedBytes
  let item := addInteger item "core_clock_hz" entry.coreClockHz
  let item := addInteger item "memory_clock_hz" entry.memoryClockHz
  addNumber item "temperature_celsius" entry.temperatureCelsius

def metricsToMap (value : SystemMetrics) : QCborMap :=
  let root := addSection [] "cpu" (metricsCpuToMap value.cpu)
  let root := addSection root "memory" (metricsMemoryToMap value.memory)
  let root := addSection root "system" (systemToMap value.system)
  let root := addList root "storage_volumes"
    (value.storageVolumes.map fun entry => .map (storageVolumeToMap entry))
  let root := addList root "network_interfaces"
    (value.networkInterfaces.map fun entry => .map (networkInterfaceToMap entry))
  addList root "gpus" (value.gpus.map fun entry => .map (gpuToMap entry))

/-- The loop of `named`; `parse` gets the names seen so far and returns the
entry together with its own name. -/
def namedLoop {α : Type} (parse : QCborMap → List QString → Option (QString × α)) :
    List QString → List QCborValue → Option (List α)
  | _, [] => some []
  | seen, .map item :: values => do
    let (name, entry) ← parse item seen
    return entry :: (← namedLoop parse (name :: seen) values)
  | _, _ :: _ => none

def named {α : Type} (raw : QCborValue) (limit : Nat)
    (parse : QCborMap → List QString → Option (QString × α)) : Option (List α) :=
  match raw with
  | .undefined => some []
  | .array values => if values.length > limit then none else namedLoop parse [] values
  | _ => none

def uniqueName (name : QCborValue) (seen : List QString) : Option QString :=
  match name with
  | .string s => if !validText s 256 || seen.contains s then none else some s
  | _ => none

def logicalCpu (item : QCborMap) (seen : List QString) :
    Option (QString × SystemMetrics.LogicalCpu) := do
  let name ← uniqueName (item.value "name") seen
  return (name, {
    name := name
    usageRatio := ← number item "usage_ratio" true
    frequencyHz := ← integer item "frequency_hz" })

def storageVolume (item : QCborMap) (seen : List QString) :
    Option (QString × SystemMetrics.StorageVolume) :=
  match item.value "mount_point", item.value "device_name", item.value "primary",
    item.value "read_only" with
  | .string mountPoint, .string deviceName, .boolean primary, .boolean readOnly =>
    if !validText mountPoint 256 || !validText deviceName 256 || seen.contains mountPoint then none
    else return (mountPoint, {
      mountPoint := mountPoint
      deviceName := deviceName
      primary := primary
      readOnly := readOnly
      totalBytes := ← integer item "total_bytes"
      availableBytes := ← integer item "available_bytes" })
  | _, _, _, _ => none

def networkInterface (item : QCborMap) (seen : List QString) :
    Option (QString × SystemMetrics.NetworkInterface) := do
  let name ← uniqueName (item.value "name") seen
  return (name, {
    name := name
    rxBytes := ← integer item "rx_bytes"
    txBytes := ← integer item "tx_bytes"
    rxBytesPerSecond := ← number item "rx_bytes_per_second" false
    txBytesPerSecond := ← number item "tx_bytes_per_second" false })

def gpu (item : QCborMap) (seen : List QString) : Option (QString × SystemMetrics.Gpu) := do
  let name ← uniqueName (item.value "name") seen
  return (name, {
    name := name
    usageRatio := ← number item "usage_ratio" true
    memoryTotalBytes := ← integer item "memory_total_bytes"
    memoryUsedBytes := ← integer item "memory_used_bytes"
    coreClockHz := ← integer item "core_clock_hz"
    memoryClockHz := ← integer item "memory_clock_hz"
    temperatureCelsius := ← number item "temperature_celsius" false })

def metricsCpuFromMap (cpu : QCborMap) : Option SystemMetrics.Cpu := do
  return {
    usageRatio := ← number cpu "usage_ratio" true
    temperatureCelsius := ← number cpu "temperature_celsius" false
    logicalCpus := ← named (cpu.value "logical_cpus") 256 logicalCpu }

def metricsMemoryFromMap (memory : QCborMap) : Option SystemMetrics.Memory := do
  return {
    totalBytes := ← integer memory "total_bytes"
    availableBytes := ← integer memory "available_bytes"
    swapTotalBytes := ← integer memory "swap_total_bytes"
    swapAvailableBytes := ← integer memory "swap_available_bytes" }

def systemFromMap (system : QCborMap) : Option SystemMetrics.System := do
  return {
    uptimeSeconds := ← number system "uptime_seconds" false
    loadAverage1m := ← number system "load_average_1m" false
    loadAverage5m := ← number system "load_average_5m" false
    loadAverage15m := ← number system "load_average_15m" false }

def exceeds (part whole : Option UInt64) : Bool :=
  match part, whole with
  | some part, some whole => part > whole
  | _, _ => false

/-- The relations checked after every list has been filled. -/
def checkMetrics (output : SystemMetrics) : Option SystemMetrics :=
  if exceeds output.memory.availableBytes output.memory.totalBytes ||
      exceeds output.memory.swapAvailableBytes output.memory.swapTotalBytes then none
  else if output.storageVolumes.any fun item => exceeds item.availableBytes item.totalBytes then none
  else if output.gpus.any fun item => exceeds item.memoryUsedBytes item.memoryTotalBytes then none
  else some output

def metricsFromMap (value : QCborValue) : Option SystemMetrics :=
  match value with
  | .map root => do
    let cpu ← sectionOf root "cpu"
    let memory ← sectionOf root "memory"
    let system ← sectionOf root "system"
    checkMetrics {
      cpu := ← metricsCpuFromMap cpu
      memory := ← metricsMemoryFromMap memory
      system := ← systemFromMap system
      storageVolumes := ← named (QCborMap.value root "storage_volumes") 64 storageVolume
      networkInterfaces := ← named (QCborMap.value root "network_interfaces") 64 networkInterface
      gpus := ← named (QCborMap.value root "gpus") 16 gpu }
  | _ => none

def envelope (type : QString) (device inst : QUuid) : QCborMap :=
  [(.string "device_id", .byteArray device.toRfc4122),
    (.string "instance_id", .byteArray inst.toRfc4122),
    (.string "type", .string type),
    (.string "version", .integer telemetryProtocolVersion)]

def idOf (map : QCborMap) (key : QString) : Option QUuid :=
  match map.value key with
  | .byteArray bytes =>
    if bytes.length ≠ 16 then none
    else
      let result := QUuid.fromRfc4122 bytes
      if result.isNull then none else some result
  | _ => none

def helloToMap (value : Hello) : QCborMap :=
  let map := envelope "hello" value.deviceId value.instanceId
  let map := map.insert "display_name" (.string value.displayName)
  let map := map.insert "interval_s" (.integer (Int64.ofInt value.intervalSeconds))
  map.insert "system_info" (.map (infoToMap value.systemInfo))

def registrationResultToMap (value : RegistrationResult) : QCborMap :=
  let map := envelope "registration_result" value.deviceId value.instanceId
  let map := map.insert "accepted" (.boolean value.accepted)
  if value.reason = "" then map else map.insert "reason" (.string value.reason)

def snapshotToMap (value : DeviceSnapshot) : QCborMap :=
  let map := envelope "snapshot" value.deviceId value.instanceId
  let map := map.insert "interval_s" (.integer (Int64.ofInt value.intervalSeconds))
  let map := map.insert "sequence" (.integer value.sequence.toInt64)
  let map := map.insert "system_info" (.map (infoToMap value.systemInfo))
  match value.metrics with
  | some metrics => map.insert "metrics" (.map (metricsToMap metrics))
  | none => map

def messageToMap : TelemetryMessage → QCborMap
  | .hello value => helloToMap value
  | .registrationResult value => registrationResultToMap value
  | .snapshot value => snapshotToMap value

def accept (message : TelemetryMessage) : DecodeResult := ⟨some message, ""⟩
def reject (error : QString) : DecodeResult := ⟨none, error⟩

def readInterval (value : QCborValue) : Option Int :=
  match value with
  | .integer i => if i < 1 || i > 5 then none else some i.toInt
  | _ => none

def readDisplayName (value : QCborValue) : Option QString :=
  match value with
  | .string s => if validText s 128 then some s else none
  | _ => none

def readSequence (value : QCborValue) : Option UInt64 :=
  match value with
  | .integer i => if i < 0 then none else some i.toUInt64
  | _ => none

def readReason (value : QCborValue) : Option QString :=
  match value with
  | .undefined => some ""
  | .string s => if (toUtf8 s).length > 64 then none else some s
  | _ => none

def decodeHello (root : QCborMap) (device inst : QUuid) : DecodeResult :=
  match readDisplayName (root.value "display_name"), readInterval (root.value "interval_s"),
    infoFromMap (root.value "system_info") with
  | some name, some interval, some info => accept (.hello ⟨device, inst, name, interval, info⟩)
  | _, _, _ => reject "invalid_registration"

def decodeRegistrationResult (root : QCborMap) (device inst : QUuid) : DecodeResult :=
  match root.value "accepted", readReason (root.value "reason") with
  | .boolean accepted, some reason =>
    accept (.registrationResult ⟨device, inst, accepted, reason⟩)
  | _, _ => reject "invalid_registration_result"

/-- Absent metrics are no error; metrics that are present have to be valid. -/
def readMetrics (raw : QCborValue) : Option (Option SystemMetrics) :=
  match raw with
  | .undefined => some none
  | raw => (metricsFromMap raw).map some

def decodeSnapshot (root : QCborMap) (device inst : QUuid) : DecodeResult :=
  match readInterval (root.value "interval_s"), readSequence (root.value "sequence"),
    infoFromMap (root.value "system_info") with
  | some interval, some sequence, some info =>
    match readMetrics (root.value "metrics") with
    | some metrics => accept (.snapshot ⟨device, inst, interval, sequence, info, metrics⟩)
    | none => reject "invalid_metrics"
  | _, _, _ => reject "invalid_snapshot"

def decodeRoot (root : QCborMap) : DecodeResult :=
  match root.value "version" with
  | .integer version =>
    if version ≠ telemetryProtocolVersion then reject "unsupported_version"
    else
      match root.value "type", idOf root "device_id", idOf root "instance_id" with
      | .string type, some device, some inst =>
        if type = "hello" then decodeHello root device inst
        else if type = "registration_result" then decodeRegistrationResult root device inst
        else if type = "snapshot" then decodeSnapshot root device inst
        else reject "unsupported_type"
      | _, _, _ => reject "invalid_identity"
  | _ => reject "unsupported_version"

end Codec

open Codec

def encodeMessage (qt : QtCbor) (message : TelemetryMessage) : QByteArray :=
  qt.toCbor (.map (messageToMap message))

def decodeMessage (qt : QtCbor) (bytes : QByteArray) : DecodeResult :=
  if bytes.isEmpty || bytes.length > maximumDatagramSize then reject "invalid_size"
  else
    match qt.fromCbor bytes with
    | some (.map root) => decodeRoot root
    | _ => reject "malformed_cbor"

def encodeSystemInfo (qt : QtCbor) (info : SystemInfo) : QByteArray :=
  qt.toCbor (.map (infoToMap info))

def decodeSystemInfo (qt : QtCbor) (bytes : QByteArray) : Option SystemInfo :=
  (qt.fromCbor bytes).bind infoFromMap

end RpiDashboard.Protocol
