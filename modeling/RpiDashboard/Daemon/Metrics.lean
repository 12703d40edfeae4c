import Mathlib.Data.List.Infix
import Mathlib.Data.UInt
import RpiDashboard.Daemon.Host

/-! `Collector::metrics` (`daemon/src/daemon.cpp`), one definition for each of the sections it
reports. -/

namespace RpiDashboard.Daemon

open Numeric

/-- What is kept from one measurement to the next. -/
structure Collector where
  previousCpu : Option (UInt64 × UInt64) := none
  previousTime : Option Int64 := none
  previousNetwork : List (StdString × UInt64 × UInt64) := []
  previousGpu : Option (UInt64 × UInt64) := none

/-- A number that is finite and not negative. -/
def measurable (d : Double) : Bool := d.isFinite && !d.lt .zero

section Cpu

/-- All the time in the first line of `/proc/stat`, and the idle time. -/
def cpuTimes (stat : StdString) : Option (UInt64 × UInt64) :=
  if (lit "cpu ").isPrefixOf stat then
    let times := extractAll (stat.drop 4)
    some (times.sum, ((times.drop 3).take 2).sum)
  else none

def usageRatio (previous current : UInt64 × UInt64) : Double :=
  let dt := current.1 - previous.1
  let di := current.2 - previous.2
  (Double.one.sub ((Double.ofInt di.toNat).div (Double.ofInt dt.toNat))).clamp .zero .one

def cpuUsage (previous current : Option (UInt64 × UInt64)) : Option Double := do
  let previous ← previous
  let current ← current
  if previous.1 < current.1 then return usageRatio previous current else none

end Cpu

section Thermal

/-- The type of a thermal zone and its temperature. -/
def thermalZone (h : Host) (zone : StdString) : Option (StdString × Double) := do
  let base := lit "/sys/class/thermal/" ++ zone ++ lit "/"
  let type ← h.boundedRead (base ++ lit "type") kSysfsLimit
  if !cpuThermalZone type && !gpuThermalZone type then none
  let raw ← h.boundedRead (base ++ lit "temp") kSysfsLimit
  let (milli, rest) ← strtod (cString (trim raw))
  if rest = [] && measurable milli then return (type, milli.div (Double.ofInt 1000)) else none

def temperature (h : Host) (kind : StdString → Bool) : Option Double :=
  let zones := (h.directoryEntries "/sys/class/thermal").filterMap (thermalZone h)
  (zones.find? fun zone => kind zone.1).map Prod.snd

def cpuSection (h : Host) (previous : Option (UInt64 × UInt64)) (stat : StdString) : StdMap :=
  let cpu := StdMap.assignSome [] "usage_ratio" ((cpuUsage previous (cpuTimes stat)).map .number)
  cpu.assignSome "temperature_celsius" ((temperature h cpuThermalZone).map .number)

end Thermal

section Memory

/-- A counter of `/proc/meminfo`, in bytes. -/
def memoryLine (line : StdString) : Option (StdString × UInt64) := do
  let (name, rest) ← cut 0x3a line
  match words rest with
  | [digits, unit] =>
    let kibibytes ← unsignedValue digits
    if unit = lit "kB" ∧ kibibytes ≤ kWireMaximum / 1024 then return (name, kibibytes * 1024)
    else none
  | _ => none

/-- Of two lines with one name the later one counts. -/
def memoryValue (mem : StdString) (source : String) : Option UInt64 :=
  ((getlines mem).filterMap memoryLine).reverse.lookup (lit source)

def addMemory (mem : StdString) (memory : StdMap) (source target : String) (positive : Bool) :
    StdMap :=
  memory.assignSome target
    (((memoryValue mem source).filter fun n => !positive || 0 < n).map .unsigned)

/-- An available amount beyond the total is taken out again. -/
def dropExceeding (memory : StdMap) (available total : String) : StdMap :=
  match memory.find (lit available), memory.find (lit total) with
  | some (.unsigned a), some (.unsigned t) =>
    if t < a then memory.erase (lit available) else memory
  | _, _ => memory

def memorySection (mem : StdString) : StdMap :=
  let memory := addMemory mem [] "MemTotal" "total_bytes" true
  let memory := addMemory mem memory "MemAvailable" "available_bytes" false
  let memory := addMemory mem memory "SwapTotal" "swap_total_bytes" false
  let memory := addMemory mem memory "SwapFree" "swap_available_bytes" false
  let memory := dropExceeding memory "available_bytes" "total_bytes"
  dropExceeding memory "swap_available_bytes" "swap_total_bytes"

end Memory

section System

def uptime (contents : StdString) : Option Double :=
  ((strtod (cString (trim contents))).map Prod.fst).filter measurable

def loadAverages (contents : StdString) : Option (Double × Double × Double) := do
  let (a, rest) ← extractDouble contents
  let (b, rest) ← extractDouble rest
  let (c, _) ← extractDouble rest
  if measurable a && measurable b && measurable c then return (a, b, c) else none

def systemSection (uptimeFile loadFile : StdString) : StdMap :=
  let system := StdMap.assignSome [] "uptime_seconds" ((uptime uptimeFile).map .number)
  match loadAverages loadFile with
  | some (a, b, c) =>
    let system := system.assign (lit "load_average_1m") (.number a)
    let system := system.assign (lit "load_average_5m") (.number b)
    system.assign (lit "load_average_15m") (.number c)
  | none => system

end System

section Network

def networkName (name : StdString) : Bool :=
  name ≠ lit "lo" && name ≠ [] && name.length ≤ 256 && utf8 name

def counter (h : Host) (name : StdString) (file : String) : Option UInt64 :=
  (h.boundedRead (lit "/sys/class/net/" ++ name ++ lit "/statistics/" ++ lit file) kSysfsLimit).bind
    fun raw => unsignedValue (trim raw)

/-- `static_cast<double>(current - previous) / elapsed`. -/
def perSecond (previous current : UInt64) (elapsed : Double) : Double :=
  (Double.ofInt (current - previous).toNat).div elapsed

/-- The rates since the last measurement. -/
def rates (previous current : Option (UInt64 × UInt64)) (elapsed : Double) :
    Option (Double × Double) := do
  let previous ← previous
  let current ← current
  if Double.zero.lt elapsed ∧ previous.1 ≤ current.1 ∧ previous.2 ≤ current.2 then
    return (perSecond previous.1 current.1 elapsed, perSecond previous.2 current.2 elapsed)
  else none

/-- The two counters if both can be read. -/
def counters (received transmitted : Option UInt64) : Option (UInt64 × UInt64) := do
  return (← received, ← transmitted)

def networkInterface (c : Collector) (elapsed : Double) (name : StdString)
    (received transmitted : Option UInt64) : StdMap :=
  let network := StdMap.assign [] (lit "name") (.text name)
  let network := network.assignSome "rx_bytes" ((received.filter (· ≤ kWireMaximum)).map .unsigned)
  let network :=
    network.assignSome "tx_bytes" ((transmitted.filter (· ≤ kWireMaximum)).map .unsigned)
  match rates (c.previousNetwork.lookup name) (counters received transmitted) elapsed with
  | some (rx, tx) =>
    let network := network.assign (lit "rx_bytes_per_second") (.number rx)
    network.assign (lit "tx_bytes_per_second") (.number tx)
  | none => network

/-- The loop over the interfaces while there is room in the list, with the counters for the next
measurement. -/
def networkLoop (h : Host) (c : Collector) (elapsed : Double) :
    Nat → List StdString → List Value × List (StdString × UInt64 × UInt64)
  | _, [] => ([], [])
  | room, name :: names =>
    let received := counter h name "rx_bytes"
    let transmitted := counter h name "tx_bytes"
    if !networkName name || (received.isNone && transmitted.isNone) then
      networkLoop h c elapsed room names
    else
      let network := networkInterface c elapsed name received transmitted
      let next := ((counters received transmitted).map fun current => (name, current)).toList
      if network.length ≤ 1 then
        let (networks, rest) := networkLoop h c elapsed room names
        (networks, next ++ rest)
      else if room ≤ 1 then ([.map network], next)
      else
        let (networks, rest) := networkLoop h c elapsed (room - 1) names
        (.map network :: networks, next ++ rest)

def kMaximumNetworkInterfaces : Nat := 64

/-- `std::chrono::duration<double>(now - *previous_time_).count()`, in nanoseconds. -/
def elapsedSince (previous : Option Int64) (now : Int64) : Double :=
  match previous with
  | some previous => (Double.ofInt (now - previous).toInt).div (Double.ofInt 1000000000)
  | none => .zero

end Network

section Storage

structure Mount where
  mountPoint : StdString
  device : StdString
  readOnly : Bool

/-- The fields of a line of `/proc/self/mountinfo`; those after the separator follow a varying
number of optional ones. -/
def mountOf (line : StdString) : Option Mount :=
  let tokens := words line
  let separator := tokens.idxOf (lit "-")
  if tokens.length < 7 ∨ tokens.length ≤ separator + 2 then none
  else
    let mountPoint := mountPath (tokens.getD 4 [])
    let device := mountPath (tokens.getD (separator + 2) [])
    if mountPoint = [] ∨ device = [] ∨ 256 < mountPoint.length ∨ 256 < device.length ∨
        !utf8 mountPoint ∨ !utf8 device ∨
        (mountPoint ≠ lit "/" ∧ !(lit "/dev/").isPrefixOf device) then none
    else
      let options := lit "," ++ tokens.getD 5 [] ++ lit ","
      some ⟨mountPoint, device, lit ",ro," <:+: options⟩

/-- The order of the mounts: the primary one first, then by mount point. -/
def mountBefore (left right : Mount) : Bool :=
  let leftPrimary : Bool := left.mountPoint = lit "/"
  let rightPrimary : Bool := right.mountPoint = lit "/"
  if leftPrimary ≠ rightPrimary then leftPrimary else left.mountPoint < right.mountPoint

/-- `std::ranges::sort`, which may leave mounts of one mount point in any order. -/
structure MountSort where
  apply : List Mount → List Mount
  perm : ∀ mounts, (apply mounts).Perm mounts
  sorted : ∀ mounts, (apply mounts).Pairwise fun left right => mountBefore right left = false

/-- The first mount of each mount point. -/
def firstMounts (seen : List StdString) : List Mount → List Mount
  | [] => []
  | mount :: mounts =>
    if mount.mountPoint ∈ seen then firstMounts seen mounts
    else mount :: firstMounts (mount.mountPoint :: seen) mounts

/-- The total and the available bytes of a file system. -/
def capacity (h : Host) (mountPoint : StdString) : Option (UInt64 × UInt64) := do
  let status ← h.statvfs mountPoint
  if status.frsize = 0 ∨ status.blocks > 0xffffffffffffffff / status.frsize ∨
      status.bavail > 0xffffffffffffffff / status.frsize then none
  let total := status.blocks * status.frsize
  let available := status.bavail * status.frsize
  if total = 0 ∨ total > kWireMaximum ∨ available > total then none else return (total, available)

def storageVolume (mount : Mount) (total available : UInt64) : StdMap :=
  let volume := StdMap.assign [] (lit "mount_point") (.text mount.mountPoint)
  let volume := volume.assign (lit "device_name") (.text mount.device)
  let volume := volume.assign (lit "primary") (.boolean (mount.mountPoint = lit "/"))
  let volume := volume.assign (lit "read_only") (.boolean mount.readOnly)
  let volume := volume.assign (lit "total_bytes") (.unsigned total)
  volume.assign (lit "available_bytes") (.unsigned available)

def kMaximumStorageVolumes : Nat := 64

def mounts (h : Host) : List Mount :=
  let mountinfo := (h.boundedRead (lit "/proc/self/mountinfo") kProcLimit).getD []
  (getlines mountinfo).filterMap mountOf

def storageVolumes (sort : MountSort) (h : Host) : List StdMap :=
  let volumes := (firstMounts [] (sort.apply (mounts h))).filterMap fun mount =>
    (capacity h mount.mountPoint).map fun (total, available) => storageVolume mount total available
  volumes.take kMaximumStorageVolumes

end Storage

section Gpu

def v3dEntries (h : Host) (path : String) : List StdString :=
  (h.directoryEntries path).filter v3dEntry

def v3dFound (h : Host) : Bool :=
  v3dEntries h "/sys/bus/platform/devices" ≠ [] || v3dEntries h "/sys/class/devfreq" ≠ []

/-- The clock of the first device that is a V3D. -/
def v3dClock (h : Host) : Option UInt64 := do
  let entry ← (v3dEntries h "/sys/class/devfreq").head?
  let raw ← h.boundedRead (lit "/sys/class/devfreq/" ++ entry ++ lit "/cur_freq") kSysfsLimit
  (unsignedValue (trim raw)).filter fun frequency => 0 < frequency ∧ frequency ≤ kWireMaximum

/-- The counters of the first device that is a V3D; `some none` if they cannot be read. -/
def v3dStats (h : Host) : Option (Option (UInt64 × UInt64)) :=
  (v3dEntries h "/sys/bus/platform/devices").head?.map fun entry =>
    (h.boundedRead (lit "/sys/bus/platform/devices/" ++ entry ++ lit "/gpu_stats") kSysfsLimit).bind
      gpuStats

def v3dUsage (previous current : Option (UInt64 × UInt64)) : Option Double := do
  let previous ← previous
  let current ← current
  if previous.1 < current.1 ∧ previous.2 ≤ current.2 then
    let usage := (Double.ofInt (current.2 - previous.2).toNat).div
      (Double.ofInt (current.1 - previous.1).toNat)
    if usage.isFinite then return usage.clamp .zero .one else none
  else none

def v3d (c : Collector) (h : Host) : StdMap :=
  let gpu := StdMap.assign [] (lit "name") (.text (lit "V3D"))
  let gpu := gpu.assignSome "core_clock_hz" ((v3dClock h).map .unsigned)
  let usage := (v3dStats h).bind fun current => v3dUsage c.previousGpu current
  let gpu := gpu.assignSome "usage_ratio" (usage.map .number)
  gpu.assignSome "temperature_celsius" ((temperature h gpuThermalZone).map .number)

def drmCard (entry : StdString) : Bool :=
  (lit "card").isPrefixOf entry && 4 < entry.length && (entry.drop 4).all isdigit

def drmPath (entry : StdString) (file : String) : StdString :=
  lit "/sys/class/drm/" ++ entry ++ lit "/" ++ lit file

def drmVendor (h : Host) (entry : StdString) : Option StdString :=
  (h.boundedRead (drmPath entry "device/vendor") kSysfsLimit).bind gpuVendor

def drmClock (h : Host) (entry : StdString) : Option UInt64 := do
  let raw ← h.boundedRead (drmPath entry "gt_cur_freq_mhz") kSysfsLimit
  let megahertz ← unsignedValue (trim raw)
  if 0 < megahertz ∧ megahertz ≤ kWireMaximum / 1000000 then return megahertz * 1000000 else none

def drmUsage (h : Host) (entry : StdString) : Option Double := do
  let raw ← h.boundedRead (drmPath entry "device/gpu_busy_percent") kSysfsLimit
  let percent ← unsignedValue (trim raw)
  if percent ≤ 100 then return (Double.ofInt percent.toNat).div (Double.ofInt 100) else none

def drmItem (h : Host) (entry vendor : StdString) : StdMap :=
  let item := StdMap.assign [] (lit "name") (.text vendor)
  let item := item.assignSome "core_clock_hz" ((drmClock h entry).map .unsigned)
  item.assignSome "usage_ratio" ((drmUsage h entry).map .number)

/-- The cards of known vendors. -/
def drmItems (h : Host) : List StdMap :=
  ((h.directoryEntries "/sys/class/drm").filter drmCard).filterMap fun entry =>
    (drmVendor h entry).map fun vendor => drmItem h entry vendor

/-- Cards with a metric come first. -/
def sortItems (items : List StdMap) : List StdMap :=
  items.insertionSort fun left right => (1 < right.length → 1 < left.length : Bool)

def gpus (c : Collector) (h : Host) : List StdMap :=
  if v3dFound h then [v3d c h] else (sortItems (drmItems h)).take 16

end Gpu

/-- The sections that have something in them. -/
def metricsRoot (sort : MountSort) (h : Host) (c : Collector) (networks : List Value) : StdMap :=
  let stat := (h.boundedRead (lit "/proc/stat") kProcLimit).getD []
  let mem := (h.boundedRead (lit "/proc/meminfo") kProcLimit).getD []
  let up := (h.boundedRead (lit "/proc/uptime") kSysfsLimit).getD []
  let load := (h.boundedRead (lit "/proc/loadavg") kSysfsLimit).getD []
  let root := addArray [] "network_interfaces" networks
  let root := addArray root "storage_volumes" ((storageVolumes sort h).map .map)
  let root := addArray root "gpus" ((gpus c h).map .map)
  let root := addObject root "cpu" (cpuSection h c.previousCpu stat)
  let root := addObject root "memory" (memorySection mem)
  addObject root "system" (systemSection up load)

/-- One measurement; none if nothing could be measured. -/
def metrics (sort : MountSort) (h : Host) (now : Int64) (c : Collector) :
    Collector × Option Value :=
  let stat := (h.boundedRead (lit "/proc/stat") kProcLimit).getD []
  let (networks, next) := networkLoop h c (elapsedSince c.previousTime now)
    kMaximumNetworkInterfaces (h.directoryEntries "/sys/class/net")
  let root := metricsRoot sort h c networks
  let previousGpu := if v3dFound h then (v3dStats h).getD c.previousGpu else c.previousGpu
  (⟨(cpuTimes stat).or c.previousCpu, some now, next, previousGpu⟩,
    if root.isEmpty then none else some (.map root))

end RpiDashboard.Daemon
