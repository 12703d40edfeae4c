import Mathlib.Data.List.Dedup
import RpiDashboard.Protocol.SystemInfo
import RpiDashboard.Qt.Bytes

/-! `LinuxSysInfoCollector` of the dashboard (`src/sysinfo/linux_sys_info_collector.cpp`). -/

namespace RpiDashboard.Sysinfo

open Qt Protocol

def kSmallFileLimit : Nat := 64 * 1024
def kCpuInfoLimit : Nat := 1024 * 1024
def kMaximumCpuCount : Nat := 256
def kMaximumCpuId : Nat := 4095

structure LinuxPlatformValues where
  hostName : QString := ""
  osId : QString := ""
  osVersion : QString := ""
  osPrettyName : QString := ""
  kernelType : QString := ""
  kernelVersion : QString := ""
  architecture : QString := ""
  logicalCpuCount : Option UInt32 := none

structure LinuxPlatformAccess where
  values : LinuxPlatformValues
  readFile : QString → Nat → Option QByteArray

/-- Reads the files themselves; what Qt and `sysconf` say about the platform is taken as it is. -/
def nativeLinuxPlatformAccess (values : LinuxPlatformValues) (files : QString → Option QByteArray) :
    LinuxPlatformAccess where
  values := values
  readFile path maximumBytes := (files path).filter (·.length ≤ maximumBytes)

structure SysInfoCollectionResult where
  info : SystemInfo
  diagnostics : List QString
  deriving DecidableEq

section Text

variable (qt : QtUnicode)

def cleanString (value : QString) : Option QString :=
  let value := trimmed value
  if value = "" ∨ qt.sameLetters value "unknown" then none else some value

def normalizedArchitecture (value : QString) : Option QString :=
  let value := qt.toLower (trimmed value)
  cleanString qt
    (if value = "amd64" then "x86_64" else if value = "arm64" then "aarch64" else value)

def compatibleIds (contents : QByteArray) : List QString :=
  (QByteArray.split contents 0).filterMap fun entry => cleanString qt (qt.fromUtf8 entry)

def memoryBytes (contents : QByteArray) : Option UInt64 := do
  let line ← (QByteArray.split contents 0x0a).find? (bytesOf "MemTotal:").isPrefixOf
  match QByteArray.split (QByteArray.simplified line) 0x20 with
  | [_, digits, unit] =>
    if unit ≠ bytesOf "kB" then none
    else
      let kibibytes ← qt.toULongLong digits
      if kibibytes = 0 ∨ kibibytes > 0xffffffffffffffff / 1024 then none
      else return kibibytes * 1024
  | _ => none

/-- What a scan takes from a line with a colon: the text after it, if the text before it is the
key. -/
def afterKey (key : QByteArray) (line : QByteArray) : Option QByteArray :=
  (line.idxOf? 0x3a).bind fun separator =>
    if QByteArray.trimmed (line.take separator) = key then some (line.drop (separator + 1))
    else none

def boardRevision (contents : QByteArray) : Option QString :=
  ((QByteArray.split contents 0x0a).findSome? (afterKey (bytesOf "Revision"))).bind fun value =>
    cleanString qt (fromLatin1 value)

def cpuInfoValue (contents key : QByteArray) : Option QString :=
  ((QByteArray.split contents 0x0a).findSome? (afterKey key)).bind fun value =>
    cleanString qt (qt.fromUtf8 value)

end Text

section Topology

variable (qt : QtUnicode)

def unsignedValue (contents : QByteArray) (maximum : Nat) : Option Nat := do
  let value := QByteArray.trimmed contents
  if value = [] ∨ !value.all (fun c => 0x30 ≤ c && c ≤ 0x39) then none
  else
    let parsed ← qt.toULongLong value
    if maximum < parsed.toNat then none else return parsed.toNat

/-- The processors of an entry, `first` alone or `first-last`. -/
def cpuRange (entry : QByteArray) : Option (List Nat) := do
  if entry = [] ∨ entry ≠ QByteArray.trimmed entry ∨ 1 < entry.count 0x2d then none
  else
    let separator := entry.idxOf? 0x2d
    let first ← unsignedValue qt (separator.elim entry entry.take) kMaximumCpuId
    let last ← unsignedValue qt (separator.elim entry fun i => entry.drop (i + 1)) kMaximumCpuId
    if last < first ∨ kMaximumCpuCount < last - first + 1 then none
    else return List.range' first (last - first + 1)

def addCpu (ids : List Nat) (id : Nat) : Option (List Nat) :=
  if id ∈ ids ∨ kMaximumCpuCount ≤ ids.length then none else some (ids ++ [id])

def onlineCpuIds (contents : QByteArray) : Option (List Nat) :=
  (((QByteArray.split (QByteArray.trimmed contents) 0x2c).foldlM
    (fun ids entry => (cpuRange qt entry).bind fun range => range.foldlM addCpu ids) []) :
      Option (List Nat)).filter (· ≠ [])

/-- The package and the core of a processor. -/
def coreOf (access : LinuxPlatformAccess) (cpuId : Nat) : Option (Nat × Nat) := do
  let base := "/sys/devices/system/cpu/cpu" ++ toString cpuId ++ "/topology/"
  let package ← access.readFile (base ++ "physical_package_id") kSmallFileLimit
  let core ← access.readFile (base ++ "core_id") kSmallFileLimit
  return (← unsignedValue qt package 0xffffffff, ← unsignedValue qt core 0xffffffff)

def physicalCoreCount (access : LinuxPlatformAccess) : Option UInt32 := do
  let online ← access.readFile "/sys/devices/system/cpu/online" kSmallFileLimit
  let ids ← onlineCpuIds qt online
  let cores := (← ids.mapM (coreOf qt access)).dedup
  if cores = [] ∨ kMaximumCpuCount < cores.length then none
  else return UInt32.ofNat cores.length

end Topology

section Collect

variable (qt : QtUnicode) (access : LinuxPlatformAccess)

def addMissingBaselineDiagnostics (info : SystemInfo) : List QString :=
  (if info.host.hostName = none then ["Hostname is unavailable"] else []) ++
  (if info.os.osFamily = none then ["OS family is unavailable"] else []) ++
  (if info.kernel.kernelType = none then ["Kernel type is unavailable"] else []) ++
  (if info.kernel.kernelVersion = none then ["Kernel version is unavailable"] else []) ++
  (if info.cpu.architecture = none then ["CPU architecture is unavailable"] else []) ++
  (if info.cpu.logicalCpuCount = none then ["Logical CPU count is unavailable"] else []) ++
  if info.memory.totalBytes = none then ["Total memory is unavailable"] else []

def cpuInfo : Option QByteArray := access.readFile "/proc/cpuinfo" kCpuInfoLimit

def compatible : List QString :=
  match access.readFile "/sys/firmware/devicetree/base/compatible" kSmallFileLimit with
  | some contents => compatibleIds qt contents
  | none => []

def isPi : Bool := (compatible qt access).any fun identifier =>
  "raspberrypi,".toList.isPrefixOf identifier.toList

/-- What is known of the hardware and the processor before the device tree is asked. -/
def genericInfo : SystemInfo where
  host := { hostName := (cleanString qt access.values.hostName).map fun name =>
    String.ofList (name.toList.takeWhile (· ≠ '.')) }
  os := {
    osFamily := some "linux"
    osId := cleanString qt access.values.osId
    osVersion := cleanString qt access.values.osVersion
    osPrettyName := cleanString qt access.values.osPrettyName }
  kernel := {
    kernelType := cleanString qt access.values.kernelType
    kernelVersion := cleanString qt access.values.kernelVersion }
  hardware := {
    manufacturer := (access.readFile "/sys/class/dmi/id/sys_vendor" kSmallFileLimit).bind
      fun contents => cleanString qt (qt.fromUtf8 contents)
    model := (access.readFile "/sys/class/dmi/id/product_name" kSmallFileLimit).bind
      fun contents => cleanString qt (qt.fromUtf8 contents) }
  cpu := {
    architecture := normalizedArchitecture qt access.values.architecture
    vendor := (cpuInfo access).bind fun contents => cpuInfoValue qt contents (bytesOf "vendor_id")
    model := (cpuInfo access).bind fun contents => cpuInfoValue qt contents (bytesOf "model name")
    logicalCpuCount := access.values.logicalCpuCount.filter fun count =>
      0 < count.toNat && count.toNat ≤ kMaximumCpuCount
    physicalCoreCount := physicalCoreCount qt access }
  memory := { totalBytes :=
    (access.readFile "/proc/meminfo" kSmallFileLimit).bind (memoryBytes qt) }

/-- The identity of a processor in the device tree, over what the generic sources say. -/
def broadcom (cpu : SystemInfo.Cpu) : SystemInfo.Cpu :=
  match (compatible qt access).find? fun identifier =>
      "brcm,bcm".toList.isPrefixOf identifier.toList with
  | some identifier => { cpu with
      vendor := some "Broadcom"
      model := some (qt.toUpper (String.ofList (identifier.toList.drop 5))) }
  | none => cpu

def piHardware (hardware : SystemInfo.Hardware) : SystemInfo.Hardware where
  manufacturer := some "Raspberry Pi"
  compatibleIds := some (compatible qt access)
  model := match access.readFile "/sys/firmware/devicetree/base/model" kSmallFileLimit with
    | some contents => cleanString qt
        (String.ofList ((qt.fromUtf8 contents).toList.filter (·.toNat ≠ 0)))
    | none => hardware.model
  boardRevision := (cpuInfo access).bind (boardRevision qt)

def collect : SysInfoCollectionResult :=
  let info := genericInfo qt access
  if isPi qt access then
    let info := { info with
      hardware := piHardware qt access info.hardware
      cpu := broadcom qt access info.cpu }
    { info
      diagnostics :=
        (if info.hardware.model = none then ["Raspberry Pi model is unavailable"] else []) ++
        (if info.hardware.boardRevision = none then
          ["Raspberry Pi board revision is unavailable"] else []) ++
        addMissingBaselineDiagnostics info }
  else
    { info
      diagnostics := "Raspberry Pi Device Tree enrichment is unavailable" ::
        addMissingBaselineDiagnostics info }

end Collect

end RpiDashboard.Sysinfo
