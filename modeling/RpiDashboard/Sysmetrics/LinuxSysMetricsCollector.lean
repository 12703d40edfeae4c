import Mathlib.Data.UInt
import RpiDashboard.Data.Keyed
import RpiDashboard.Qt.Bytes
import RpiDashboard.Sysmetrics.SysMetricsService

/-! `LinuxSysMetricsCollector` of the dashboard (`src/sysmetrics/linux_sys_metrics_collector.cpp`),
one definition for each of the parts of `collect`. -/

namespace RpiDashboard.Sysmetrics

open Numeric Protocol Qt

def kProcLimit : Nat := 1024 * 1024
def kSysfsLimit : Nat := 4096
def kKib : UInt64 := 1024
def kMaximumStorageVolumes : Nat := 64

structure LinuxStorageVolume where
  mountPoint : QString
  deviceName : QString
  ready : Bool := false
  readOnly : Bool := false
  totalBytes : UInt64 := 0
  availableBytes : UInt64 := 0
  deriving DecidableEq

/-- What one collection finds. -/
structure LinuxSysMetricsAccess where
  readFile : QString → Nat → Option QByteArray
  directoryEntries : QString → List QString := fun _ => []
  storageVolumes : List LinuxStorageVolume := []
  monotonicMilliseconds : Int64 := 0

structure Counters where
  active : UInt64 := 0
  total : UInt64 := 0
  deriving DecidableEq

/-- What is kept from one collection to the next. -/
structure LinuxSysMetricsCollector where
  cpuCounters : List (QString × Counters) := []
  networkCounters : List (QString × UInt64 × UInt64) := []
  previousTimeMs : Int64 := -1

/-- What Qt makes of numbers in bytes. -/
structure QtNumbers extends QtUnicode where
  /-- `QByteArray::toDouble`; none where `ok` is false. -/
  toDouble : QByteArray → Option Double

/-- The order in which a `QHash` of counters is gone through. -/
structure HashOrder where
  apply : List (QString × Counters) → List (QString × Counters)
  perm : ∀ counters, (apply counters).Perm counters

section Hash

variable {α : Type}

def hashInsert (hash : List (QString × α)) (key : QString) (value : α) : List (QString × α) :=
  (key, value) :: Keyed.erase Prod.fst key hash

def hashValue (hash : List (QString × α)) (key : QString) : Option α :=
  (Keyed.find Prod.fst key hash).map Prod.snd

end Hash

section Text

def startsWith (text part : QString) : Bool := part.toList.isPrefixOf text.toList
def endsWith (text part : QString) : Bool := part.toList.isSuffixOf text.toList

/-- `QByteArray::toLower`. -/
def lowerBytes (bytes : QByteArray) : QByteArray :=
  bytes.map fun c => if 0x41 ≤ c && c ≤ 0x5a then c + 0x20 else c

variable (qt : QtNumbers)

def unsignedValue (bytes : QByteArray) : Option UInt64 := qt.toULongLong (QByteArray.trimmed bytes)

def nonnegativeDouble (bytes : QByteArray) : Option Double :=
  (qt.toDouble (QByteArray.trimmed bytes)).filter fun d => d.isFinite && !d.lt .zero

def isV3dEntry (entry : QString) : Bool :=
  let normalized := qt.toLower entry
  normalized = "v3d" || endsWith normalized ".v3d"

def isCpuThermalZone (type : QByteArray) : Bool :=
  lowerBytes (QByteArray.trimmed type) ∈ ["cpu-thermal", "cpu_thermal", "soc_thermal"].map bytesOf

def isGpuThermalZone (type : QByteArray) : Bool :=
  lowerBytes (QByteArray.trimmed type) ∈
    ["gpu", "gpu-thermal", "gpu_thermal", "v3d"].map bytesOf

end Text

section Cpu

variable (qt : QtNumbers)

/-- The loop over the counters of a line, with all the time and the idle time so far. -/
def addField (sums : UInt64 × UInt64) (field : QByteArray × Nat) : Option (UInt64 × UInt64) := do
  let value ← unsignedValue qt field.1
  if 0xffffffffffffffff - value < sums.1 then none
  else return (sums.1 + value, if field.2 = 4 ∨ field.2 = 5 then sums.2 + value else sums.2)

def parseCpuLine (result : List (QString × Counters) × List QString) (line : QByteArray) :
    List (QString × Counters) × List QString :=
  let fields := QByteArray.split (QByteArray.simplified line) 0x20
  let name := fields.headD []
  if !(bytesOf "cpu").isPrefixOf name then result
  else if fields.length < 5 then (result.1, result.2 ++ ["Malformed /proc/stat CPU counters"])
  else
    match (fields.zipIdx.drop 1).foldlM (addField qt) (0, 0) with
    | some (total, idle) =>
      if total < idle then (result.1, result.2 ++ ["Invalid /proc/stat CPU counters"])
      else (hashInsert result.1 (fromLatin1 name) ⟨total - idle, total⟩, result.2)
    | none => (result.1, result.2 ++ ["Invalid /proc/stat CPU counters"])

def parseCpu (bytes : QByteArray) : List (QString × Counters) × List QString :=
  (QByteArray.split bytes 0x0a).foldl (parseCpuLine qt) ([], [])

def usage (now before : Counters) : Option Double × List QString :=
  if now.total ≤ before.total ∨ now.active < before.active then (none, ["CPU counters reset"])
  else
    let total := now.total - before.total
    let active := now.active - before.active
    if total < active then (none, [])
    else (some ((Double.ofInt active.toNat).div (Double.ofInt total.toNat)), [])

/-- The usage since the last collection, of a processor that was there then. -/
def usageSince (collector : LinuxSysMetricsCollector) (entry : QString × Counters) :
    Option Double × List QString :=
  match hashValue collector.cpuCounters entry.1 with
  | some before => usage entry.2 before
  | none => (none, [])

def frequencyHz (access : LinuxSysMetricsAccess) (name : QString) : Option UInt64 := do
  let index := String.ofList (name.toList.drop 3)
  let khz ← access.readFile
    ("/sys/devices/system/cpu/cpu" ++ index ++ "/cpufreq/scaling_cur_freq") kSysfsLimit
  let value ← unsignedValue qt khz
  if value ≤ 0xffffffffffffffff / 1000 then return value * 1000 else none

variable (order : HashOrder)

/-- The counters of all processors, in the order in which they are gone through. -/
def cpuEntries (access : LinuxSysMetricsAccess) : List (QString × Counters) × List QString :=
  match access.readFile "/proc/stat" kProcLimit with
  | some stat => ((order.apply (parseCpu qt stat).1), (parseCpu qt stat).2)
  | none => ([], ["/proc/stat is unavailable"])

def collectCpu (collector : LinuxSysMetricsCollector) (access : LinuxSysMetricsAccess) :
    SystemMetrics.Cpu × List QString :=
  let (entries, diagnostics) := cpuEntries qt order access
  let aggregate := entries.find? fun entry => entry.1 = "cpu"
  let processors := entries.filter fun entry => entry.1 ≠ "cpu"
  ({ usageRatio := aggregate.bind fun entry => (usageSince collector entry).1
     logicalCpus := processors.map fun entry => {
       name := entry.1
       usageRatio := (usageSince collector entry).1
       frequencyHz := frequencyHz qt access entry.1 } },
    diagnostics ++ entries.flatMap fun entry => (usageSince collector entry).2)

end Cpu

section Memory

variable (qt : QtNumbers)

/-- The amount in a line of `/proc/meminfo`, in bytes. -/
def memoryLine (line : QByteArray) : Option (QByteArray × UInt64) := do
  let colon ← line.idxOf? 0x3a
  match QByteArray.split (QByteArray.simplified (line.drop (colon + 1))) 0x20 with
  | [digits, unit] =>
    if unit ≠ bytesOf "kB" then none
    else
      let kib ← unsignedValue qt digits
      if kib ≤ 0xffffffffffffffff / kKib then return (line.take colon, kib * kKib) else none
  | _ => none

/-- Of two lines with one name the later one counts. -/
def memoryValue (bytes : QByteArray) (name : String) : Option UInt64 :=
  ((QByteArray.split bytes 0x0a).filterMap (memoryLine qt)).reverse.lookup (bytesOf name)

/-- An available amount beyond the total is left out. -/
def withinTotal (total available : Option UInt64) (diagnostic : QString) :
    Option UInt64 × List QString :=
  match total, available with
  | some t, some a => if t < a then (none, [diagnostic]) else (available, [])
  | _, _ => (available, [])

def parseMemory (bytes : QByteArray) : SystemMetrics.Memory × List QString :=
  let total := (memoryValue qt bytes "MemTotal").filter (0 < ·)
  let swapTotal := memoryValue qt bytes "SwapTotal"
  let available := withinTotal total (memoryValue qt bytes "MemAvailable")
    "Physical memory byte relationship is invalid"
  let swapAvailable := withinTotal swapTotal (memoryValue qt bytes "SwapFree")
    "Swap byte relationship is invalid"
  ({ totalBytes := total
     availableBytes := available.1
     swapTotalBytes := swapTotal
     swapAvailableBytes := swapAvailable.1 },
    available.2 ++ swapAvailable.2)

def collectMemory (access : LinuxSysMetricsAccess) : SystemMetrics.Memory × List QString :=
  match access.readFile "/proc/meminfo" kProcLimit with
  | some meminfo => parseMemory qt meminfo
  | none => ({}, ["/proc/meminfo is unavailable"])

end Memory

section System

variable (qt : QtNumbers)

def collectSystem (access : LinuxSysMetricsAccess) : SystemMetrics.System :=
  let uptime := (access.readFile "/proc/uptime" kSysfsLimit).bind fun contents =>
    nonnegativeDouble qt ((QByteArray.split contents 0x20).headD [])
  match (access.readFile "/proc/loadavg" kSysfsLimit).map fun load =>
      QByteArray.split (QByteArray.simplified load) 0x20 with
  | some (a :: b :: c :: _) => {
      uptimeSeconds := uptime
      loadAverage1m := nonnegativeDouble qt a
      loadAverage5m := nonnegativeDouble qt b
      loadAverage15m := nonnegativeDouble qt c }
  | _ => { uptimeSeconds := uptime }

/-- The type of a thermal zone and its temperature. -/
def thermalZone (access : LinuxSysMetricsAccess) (zone : QString) : Option (QByteArray × Double) := do
  if !startsWith zone "thermal_zone" then none
  let base := "/sys/class/thermal/" ++ zone ++ "/"
  let type ← access.readFile (base ++ "type") kSysfsLimit
  if !isCpuThermalZone type && !isGpuThermalZone type then none
  let raw ← access.readFile (base ++ "temp") kSysfsLimit
  let milli ← nonnegativeDouble qt raw
  return (type, milli.div (.ofInt 1000))

def zoneTemperature (access : LinuxSysMetricsAccess) (kind : QByteArray → Bool) : Option Double :=
  let zones := (access.directoryEntries "/sys/class/thermal").filterMap (thermalZone qt access)
  (zones.find? fun zone => kind zone.1).map Prod.snd

end System

section Storage

/-- The order of the volumes: the primary one first, then by mount point. -/
def volumeBefore (left right : LinuxStorageVolume) : Bool :=
  let leftPrimary : Bool := left.mountPoint = "/"
  let rightPrimary : Bool := right.mountPoint = "/"
  if leftPrimary ≠ rightPrimary then leftPrimary
  else QString.lt left.mountPoint right.mountPoint

/-- `std::ranges::sort`, which may leave volumes of one mount point in any order. -/
structure VolumeSort where
  apply : List LinuxStorageVolume → List LinuxStorageVolume
  perm : ∀ volumes, (apply volumes).Perm volumes
  sorted : ∀ volumes, (apply volumes).Pairwise fun left right => volumeBefore right left = false

/-- A volume that can be listed. -/
def listable (source : LinuxStorageVolume) : Bool :=
  source.ready && source.totalBytes ≠ 0 && source.availableBytes ≤ source.totalBytes &&
    (source.mountPoint = "/" || startsWith source.deviceName "/dev/") &&
    source.mountPoint ≠ "" && source.deviceName ≠ "" &&
    (toUtf8 source.mountPoint).length ≤ 256 && (toUtf8 source.deviceName).length ≤ 256

def volumeEntry (source : LinuxStorageVolume) : SystemMetrics.StorageVolume where
  mountPoint := source.mountPoint
  deviceName := source.deviceName
  primary := source.mountPoint = "/"
  readOnly := source.readOnly
  totalBytes := source.totalBytes
  availableBytes := source.availableBytes

/-- The loop over the volumes while there is room in the list; a mount point is seen once it is
listed. -/
def volumeLoop (seen : List QString) : Nat → List LinuxStorageVolume → List SystemMetrics.StorageVolume
  | _, [] => []
  | room, source :: sources =>
    if !listable source || seen.contains source.mountPoint then volumeLoop seen room sources
    else if room ≤ 1 then [volumeEntry source]
    else volumeEntry source :: volumeLoop (source.mountPoint :: seen) (room - 1) sources

def collectStorage (sort : VolumeSort) (access : LinuxSysMetricsAccess) :
    List SystemMetrics.StorageVolume :=
  volumeLoop [] kMaximumStorageVolumes (sort.apply access.storageVolumes)

end Storage

section Network

variable (qt : QtNumbers)

/-- The seconds since the last collection; zero if there was none or no time has passed. -/
def elapsedSeconds (previousTimeMs nowMs : Int64) : Double :=
  if 0 ≤ previousTimeMs ∧ previousTimeMs < nowMs then
    (Double.ofInt (nowMs - previousTimeMs).toInt).div (.ofInt 1000)
  else .zero

def networkCounter (access : LinuxSysMetricsAccess) (name file : QString) : Option UInt64 :=
  (access.readFile ("/sys/class/net/" ++ name ++ "/statistics/" ++ file) kSysfsLimit).bind
    (unsignedValue qt)

/-- The rate of one counter, or that it has been reset. -/
def counterRate (previous current : UInt64) (elapsed : Double) (diagnostic : QString) :
    Option Double × List QString :=
  if previous ≤ current then (some ((Double.ofInt (current - previous).toNat).div elapsed), [])
  else (none, [diagnostic])

/-- The counters of the last collection, if rates can be computed from them. -/
def comparable (collector : LinuxSysMetricsCollector) (elapsed : Double) (name : QString) :
    Option (UInt64 × UInt64) :=
  if Double.zero.lt elapsed then hashValue collector.networkCounters name else none

def networkInterface (collector : LinuxSysMetricsCollector) (elapsed : Double) (name : QString)
    (received transmitted : Option UInt64) : SystemMetrics.NetworkInterface × List QString :=
  let network : SystemMetrics.NetworkInterface :=
    { name := name, rxBytes := received, txBytes := transmitted }
  match received, transmitted, comparable collector elapsed name with
  | some rx, some tx, some previous =>
    let rxRate := counterRate previous.1 rx elapsed ("Network RX counter reset for " ++ name)
    let txRate := counterRate previous.2 tx elapsed ("Network TX counter reset for " ++ name)
    ({ network with rxBytesPerSecond := rxRate.1, txBytesPerSecond := txRate.1 },
      rxRate.2 ++ txRate.2)
  | _, _, _ => (network, [])

/-- The interfaces with a counter that can be read. -/
def interfaceCounters (access : LinuxSysMetricsAccess) :
    List (QString × Option UInt64 × Option UInt64) :=
  let names := (access.directoryEntries "/sys/class/net").filter fun name => name ≠ "lo"
  (names.map fun name =>
    (name, networkCounter qt access name "rx_bytes", networkCounter qt access name "tx_bytes")).filter
      fun entry => entry.2.1.isSome || entry.2.2.isSome

def nextNetwork (access : LinuxSysMetricsAccess) : List (QString × UInt64 × UInt64) :=
  (interfaceCounters qt access).foldl (fun next entry =>
    match entry.2.1, entry.2.2 with
    | some received, some transmitted => hashInsert next entry.1 (received, transmitted)
    | _, _ => next) []

def collectNetwork (collector : LinuxSysMetricsCollector) (access : LinuxSysMetricsAccess) :
    List (SystemMetrics.NetworkInterface × List QString) :=
  let elapsed := elapsedSeconds collector.previousTimeMs access.monotonicMilliseconds
  (interfaceCounters qt access).map fun entry =>
    networkInterface collector elapsed entry.1 entry.2.1 entry.2.2

end Network

section Gpu

variable (qt : QtNumbers)

def v3dEntries (access : LinuxSysMetricsAccess) (path : QString) : List QString :=
  (access.directoryEntries path).filter (isV3dEntry qt)

/-- The clock of the first device that is a V3D. -/
def v3dClock (access : LinuxSysMetricsAccess) : Option UInt64 × List QString :=
  match (v3dEntries qt access "/sys/class/devfreq").head?.bind fun entry =>
      access.readFile ("/sys/class/devfreq/" ++ entry ++ "/cur_freq") kSysfsLimit with
  | some raw =>
    match (unsignedValue qt raw).filter fun frequency =>
        0 < frequency ∧ frequency ≤ 0x7fffffffffffffff with
    | some frequency => (some frequency, [])
    | none => (none, ["V3D core frequency is invalid"])
  | none => (none, [])

def collectGpus (access : LinuxSysMetricsAccess) : List SystemMetrics.Gpu × List QString :=
  if v3dEntries qt access "/sys/bus/platform/devices" ≠ [] ∨
      v3dEntries qt access "/sys/class/devfreq" ≠ [] then
    ([{ name := "V3D"
        temperatureCelsius := zoneTemperature qt access isGpuThermalZone
        coreClockHz := (v3dClock qt access).1 }], (v3dClock qt access).2)
  else ([], ["V3D metrics are unavailable"])

end Gpu

section Collect

variable (qt : QtNumbers) (order : HashOrder) (sort : VolumeSort)

def collectedMetrics (collector : LinuxSysMetricsCollector) (access : LinuxSysMetricsAccess) :
    SystemMetrics where
  cpu := { (collectCpu qt order collector access).1 with
    temperatureCelsius := zoneTemperature qt access isCpuThermalZone }
  memory := (collectMemory qt access).1
  system := collectSystem qt access
  storageVolumes := collectStorage sort access
  networkInterfaces := (collectNetwork qt collector access).map Prod.fst
  gpus := (collectGpus qt access).1

def collectedDiagnostics (collector : LinuxSysMetricsCollector) (access : LinuxSysMetricsAccess) :
    List QString :=
  (collectCpu qt order collector access).2 ++ (collectMemory qt access).2 ++
    (collectNetwork qt collector access).flatMap Prod.snd ++ (collectGpus qt access).2 ++
    if (collectedMetrics qt order sort collector access).hasAllBaselineFields then []
    else ["One or more baseline system metrics are unavailable"]

/-- The counters of the processors are kept when `/proc/stat` cannot be read. -/
def collect (collector : LinuxSysMetricsCollector) (access : LinuxSysMetricsAccess) :
    LinuxSysMetricsCollector × SysMetricsCollectionResult :=
  ({ cpuCounters := match access.readFile "/proc/stat" kProcLimit with
       | some stat => (parseCpu qt stat).1
       | none => collector.cpuCounters
     networkCounters := nextNetwork qt access
     previousTimeMs := access.monotonicMilliseconds },
    { metrics := collectedMetrics qt order sort collector access
      diagnostics := collectedDiagnostics qt order sort collector access })

end Collect

end RpiDashboard.Sysmetrics
